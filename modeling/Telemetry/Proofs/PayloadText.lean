import Telemetry.Payload
import Telemetry.Proofs.Json.Values

set_option autoImplicit false

namespace Telemetry.Json

def memberTree (entry : String × String) : List Piece × Tree :=
  (entry.1.toList.map pieceOf, .string (entry.2.toList.map pieceOf))

def stringMember (entry : String × String) : String × Json := (entry.1, .string entry.2)

theorem readsMembers_strings (entry : String × String) (entries : List (String × String)) :
    ReadsMembers (membersChars ((entry :: entries).map stringMember))
      ((entry :: entries).map memberTree) := by
  induction entries generalizing entry with
  | nil => exact (reads_string entry.2).lastMember entry.1
  | cons next entries ih =>
    have text := membersChars_cons entry.1 (.string entry.2)
      (List.cons_ne_nil (stringMember next) (entries.map stringMember))
    rw [List.map_cons, List.map_cons, stringMember, text]
    exact (reads_string entry.2).member entry.1 (ih next)

end Telemetry.Json

namespace Telemetry.Payload

open Json (Tree memberTree stringMember)

theorem stringMembers?_memberTrees (entries : List (String × String)) :
    stringMembers? (entries.map memberTree) = some entries := by
  induction entries with
  | nil => rfl
  | cons entry rest ih =>
    rw [List.map_cons, memberTree, stringMembers?, Json.text?_pieces, Json.text?_pieces, ih]
    rfl

theorem ofChars?_strings (entries : List (String × String)) :
    Tree.ofChars? (Json.ofStrings entries).chars = some (.object (entries.map memberTree)) := by
  cases entries with
  | nil => rfl
  | cons entry entries =>
    have members := Json.readsMembers_strings entry entries
    have object := members.reads (Json.membersChars_head _ _)
    exact object.ofChars?

theorem ofText?_text (payload : Payload) : Payload.ofText? payload.text = some payload := by
  rw [Payload.text, Payload.json, Payload.entries, Json.text, Payload.ofText?, String.toList_ofList,
    ofChars?_strings]
  simp only [stringMembers?_memberTrees, Option.map_some, Dictionary.ofList_entries]

end Telemetry.Payload
