import Telemetry.Decimal.Binary64
import Telemetry.Dictionary
import Telemetry.Word

set_option autoImplicit false

namespace Telemetry

open Decimal (Binary64)

inductive Json where
  | null
  | bool (value : Bool)
  | int (value : Int)
  | float (value : Binary64)
  | string (value : String)
  | array (items : List Json)
  | object (members : List (String × Json))
  deriving Inhabited

namespace Json

/-- An object from members in any order; a later member replaces an earlier one of the same key. -/
def ofMembers (members : List (String × Json)) : Json :=
  .object (Dictionary.ofList members).entries

def nat (n : Nat) : Json := .int n

def ofStrings (entries : List (String × String)) : Json :=
  .object (entries.map fun entry => (entry.1, .string entry.2))

def member? (key : String) : Json → Option Json
  | .object members => Dictionary.lookup? key members
  | _ => none

def string? : Json → Option String
  | .string value => some value
  | _ => none

def unsigned? : Json → Option Nat
  | .int value => if 0 ≤ value ∧ value.toNat ≤ maxWord then some value.toNat else none
  | _ => none

end Json

end Telemetry
