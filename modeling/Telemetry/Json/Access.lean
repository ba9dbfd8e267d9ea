import Telemetry.Json.Basic

set_option autoImplicit false

namespace Telemetry.Json

def field? (value : Json) (key : String) : Option Json :=
  match value.member? key with
  | some .null => none
  | found => found

def memberAt (value : Json) (key : String) : Json := (value.member? key).getD .null

def int? : Json → Option Int
  | .int value => some value
  | _ => none

def nat? (value : Json) : Option Nat := value.int?.map Int.toNat

def bool? : Json → Option Bool
  | .bool value => some value
  | _ => none

def array? : Json → Option (List Json)
  | .array items => some items
  | _ => none

def textAt? (value : Json) (key : String) : Option String := (value.field? key).bind string?

def textAt (value : Json) (key : String) : String := (value.textAt? key).getD ""

def intAt? (value : Json) (key : String) : Option Int := (value.field? key).bind int?

def natAt? (value : Json) (key : String) : Option Nat := (value.field? key).bind nat?

def natAt (value : Json) (key : String) (default : Nat := 0) : Nat := (value.natAt? key).getD default

def flagAt (value : Json) (key : String) (default : Bool := false) : Bool :=
  ((value.field? key).bind bool?).getD default

def itemsAt? (value : Json) (key : String) : Option (List Json) := (value.field? key).bind array?

def itemsAt (value : Json) (key : String) : List Json := (value.itemsAt? key).getD []

def pair? : Json → Option (String × String)
  | .array [.string key, .string value] => some (key, value)
  | _ => none

def pairsAt (value : Json) (key : String) : List (String × String) := (value.itemsAt key).filterMap pair?

end Telemetry.Json
