import Telemetry.Decimal.Writing
import Telemetry.Delivery.Method
import Telemetry.Url.Host

set_option autoImplicit false

namespace Telemetry

open Delivery (Scheme)

structure Url where
  scheme : Scheme
  username : List Char
  password : List Char
  host : Url.Host
  port : Option Nat
  path : List (List Char)
  query : Option (List Char)
  fragment : Option (List Char)
  deriving DecidableEq, Repr

namespace Url

def credentialsText (url : Url) : List Char :=
  if url.username.isEmpty && url.password.isEmpty then []
  else if url.password.isEmpty then url.username ++ ['@']
  else url.username ++ ':' :: url.password ++ ['@']

def portText (url : Url) : List Char :=
  match url.port with
  | some port => ':' :: Decimal.natDigits port
  | none => []

def pathText (url : Url) : List Char := url.path.flatMap fun segment => '/' :: segment

def markedText (mark : Char) : Option (List Char) → List Char
  | some part => mark :: part
  | none => []

def chars (url : Url) : List Char :=
  url.scheme.text.toList ++ "://".toList ++ url.credentialsText ++ url.host.text ++ url.portText ++
    url.pathText ++ markedText '?' url.query ++ markedText '#' url.fragment

def text (url : Url) : String := String.ofList url.chars

def hostText (url : Url) : String := String.ofList url.host.text

end Url

end Telemetry
