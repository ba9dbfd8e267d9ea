import Telemetry.Json.Reader
import Telemetry.Json.Writer

set_option autoImplicit false

namespace Telemetry

structure SelfDescribing where
  schema : String
  data : Json
  deriving Inhabited

namespace SelfDescribing

open Json (Tree Piece)

def json (entity : SelfDescribing) : Json :=
  .object [("data", entity.data), ("schema", .string entity.schema)]

def text (entity : SelfDescribing) : String := entity.json.text

def schemaFirstText (entity : SelfDescribing) : String :=
  (Json.object [("schema", .string entity.schema), ("data", entity.data)]).text

structure Partial where
  schema : Option String := none
  data : Option Json := none

/-- Read the members of an object. Both fields may occur once; other members are skipped unevaluated. -/
def readMembers? (depth : Nat) : Partial → List (List Piece × Tree) → Option Partial
  | found, [] => some found
  | found, (key, tree) :: rest => do
    let key ← Piece.text? key
    if key = "schema" then
      match found.schema, tree with
      | none, .string pieces =>
        let schema ← Piece.text? pieces
        readMembers? depth { found with schema := some schema } rest
      | _, _ => none
    else if key = "data" then
      match found.data with
      | none =>
        let data ← tree.value? depth
        readMembers? depth { found with data := some data } rest
      | some _ => none
    else readMembers? depth found rest

/-- An object with both fields, or an array of the schema and the data. -/
def ofTree? (depth : Nat) : Tree → Option SelfDescribing
  | .object members =>
    match depth with
    | 0 => none
    | depth + 1 => do
      let found ← readMembers? depth {} members
      some ⟨← found.schema, ← found.data⟩
  | .array [.string schema, data] =>
    match depth with
    | 0 => none
    | depth + 1 => do some ⟨← Piece.text? schema, ← data.value? depth⟩
  | _ => none

def ofText? (text : String) : Option SelfDescribing :=
  (Tree.ofChars? text.toList).bind (ofTree? Json.maxDepth)

def listOfText? (text : String) : Option (List SelfDescribing) :=
  match Tree.ofChars? text.toList with
  | some (.array items) => items.mapM (ofTree? (Json.maxDepth - 1))
  | _ => none

end SelfDescribing

end Telemetry
