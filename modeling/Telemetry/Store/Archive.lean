import Telemetry.Store.Files

set_option autoImplicit false

namespace Telemetry.Store

def Cell.json : Cell → Json
  | .text value => .string value
  | .blob value => .array [.string value]

def Cell.ofJson? : Json → Option Cell
  | .string value => some (.text value)
  | .array [.string value] => some (.blob value)
  | _ => none

def Row.json (row : Row) : Json := .array [.int row.id, row.cell.json]

def Row.ofJson? : Json → Option Row
  | .array [.int id, cell] => (Cell.ofJson? cell).map (⟨id, ·⟩)
  | _ => none

namespace Database

def eventsMember : String := "events"

def sessionMember : String := "session"

/-- The rows of the queue and the cell of the session, null for what is missing. -/
def json (db : Database) : Json :=
  Json.ofMembers [
    (eventsMember, match db.events.present with
      | some table => .array (table.rows.map Row.json)
      | none => .null),
    (sessionMember, match db.session.present with
      | some (some cell) => .array [cell.json]
      | some none => .array []
      | none => .null)]

def tableOfJson? : Json → Option (Option Table)
  | .null => some none
  | .array items => do
    let rows ← items.mapM Row.ofJson?
    some (some (← rows.foldlM Table.insert? Table.empty))
  | _ => none

def sessionOfJson? : Json → Option (Option (Option Cell))
  | .null => some none
  | .array [] => some (some none)
  | .array [cell] => (Cell.ofJson? cell).map fun cell => some (some cell)
  | _ => none

def ofJson? (archive : Json) : Option Database := do
  let events ← tableOfJson? (← archive.member? eventsMember)
  let session ← sessionOfJson? (← archive.member? sessionMember)
  some ⟨⟨events, none⟩, ⟨session, none⟩⟩

end Database

def Entry.ofText (content : String) : Entry :=
  match (Json.ofText? content).bind Database.ofJson? with
  | some db => .database db
  | none => .text content

end Telemetry.Store
