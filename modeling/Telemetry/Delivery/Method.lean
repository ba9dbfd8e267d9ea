import Telemetry.Error

set_option autoImplicit false

namespace Telemetry.Delivery

inductive Method where
  | get
  | post
  deriving DecidableEq, Repr, Inhabited

namespace Method

def text : Method → String
  | .get => "GET"
  | .post => "POST"

def ofText (text : String) : Except ArgumentError Method :=
  let upper := text.map Char.toUpper
  if upper = "GET" then .ok .get
  else if upper = "POST" then .ok .post
  else .error (.unknownMethod upper)

end Method

inductive Scheme where
  | http
  | https
  deriving DecidableEq, Repr, Inhabited

namespace Scheme

def text : Scheme → String
  | .http => "http"
  | .https => "https"

def defaultPort : Scheme → Nat
  | .http => 80
  | .https => 443

end Scheme

end Telemetry.Delivery
