import Telemetry.Json.Reader
import Telemetry.Json.Writer
import Telemetry.Text.Base64
import Telemetry.Text.Query

set_option autoImplicit false

namespace Telemetry

structure Payload where
  fields : Dictionary String
  deriving DecidableEq, Inhabited

namespace Payload

open Json (Tree Piece)

def empty : Payload := ⟨Dictionary.empty⟩

/-- Set a parameter, unless the key or the value is empty. -/
def add (payload : Payload) (key value : String) : Payload :=
  if key.isEmpty || value.isEmpty then payload else ⟨payload.fields.insert key value⟩

def addAll (payload : Payload) (pairs : List (String × String)) : Payload :=
  pairs.foldl (fun payload pair => payload.add pair.1 pair.2) payload

def ofPairs (pairs : List (String × String)) : Payload := empty.addAll pairs

def entries (payload : Payload) : List (String × String) := payload.fields.entries

def merge (payload other : Payload) : Payload := payload.addAll other.entries

def get? (payload : Payload) (key : String) : Option String := payload.fields.find? key

def size (payload : Payload) : Nat := payload.fields.size

/-- Add a JSON value: its base64 text under one key, or its plain text under the other. -/
def addJson (payload : Payload) (value : Json) (base64 : Bool) (encodedKey plainKey : String) :
    Payload :=
  if base64 then payload.add encodedKey (Text.Base64.encodeText value.text)
  else payload.add plainKey value.text

def json (payload : Payload) : Json := Json.ofStrings payload.entries

def text (payload : Payload) : String := payload.json.text

def queryString (payload : Payload) : String :=
  String.ofList (Text.Query.encode payload.entries)

def stringMember? (member : String × Json) : Option (String × String) :=
  member.2.string?.map (member.1, ·)

def ofJson? : Json → Option Payload
  | .object members => (members.mapM stringMember?).map fun pairs => ⟨Dictionary.ofList pairs⟩
  | _ => none

def stringMembers? : List (List Piece × Tree) → Option (List (String × String))
  | [] => some []
  | (key, .string value) :: rest => do
    let key ← Piece.text? key
    let value ← Piece.text? value
    let members ← stringMembers? rest
    some ((key, value) :: members)
  | _ => none

/-- The payload of a JSON text: an object whose members are all strings. -/
def ofText? (text : String) : Option Payload :=
  match Tree.ofChars? text.toList with
  | some (.object members) => (stringMembers? members).map fun pairs => ⟨Dictionary.ofList pairs⟩
  | _ => none

end Payload

end Telemetry
