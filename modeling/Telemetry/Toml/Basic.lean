set_option autoImplicit false

namespace Telemetry.Toml

inductive Value where
  | string (text : String)
  | integer (value : Int)
  | float
  | boolean (value : Bool)
  | time
  | array (items : List Value)
  | table (members : List (String × Value))
  deriving Inhabited

def member? (key : String) (members : List (String × Value)) : Option Value :=
  (members.find? (·.1 == key)).map (·.2)

end Telemetry.Toml
