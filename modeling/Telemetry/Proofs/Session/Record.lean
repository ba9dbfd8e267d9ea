import Telemetry.Proofs.Json.Values
import Telemetry.Session

set_option autoImplicit false

namespace Telemetry

def Json.without (key : String) : Json → Json
  | .object members => .object (members.filter fun member => member.1 ≠ key)
  | value => value

def SelfDescribing.dataText? (entity : SelfDescribing) (key : String) : Option String :=
  (entity.data.member? key).bind Json.string?

namespace SessionRecord

theorem members_keys (record : SessionRecord) :
    record.members.map (·.1) = (if record.firstEventId.isSome then ["firstEventId"] else []) ++
      ["firstEventTimestamp", "previousSessionId", "sessionId", "sessionIndex",
        "storageMechanism", "userId"] := by
  unfold members
  cases record.firstEventId <;> rfl

theorem members_ascending (record : SessionRecord) : Dictionary.Ascending record.members := by
  have keys : (record.members.map (·.1)).Pairwise (· < ·) := by
    rw [members_keys]
    cases record.firstEventId.isSome <;> decide
  exact List.pairwise_map.1 keys

theorem json_isPlain {record : SessionRecord} (h : record.index ≤ maxWord) :
    record.json.IsPlain Json.maxDepth := by
  have members : Json.MembersPlain 126 record.members := by
    unfold members
    have low : -(leastSignedMagnitude : Int) ≤ (record.index : Int) := by omega
    have high : (record.index : Int) ≤ maxWord := by omega
    cases record.firstEventId <;> cases record.previousId <;>
      simp [Json.MembersPlain, Json.IsPlain, Json.nat, low, high]
  exact ⟨record.members_ascending, members⟩

theorem ofText?_json {record : SessionRecord} (h : record.index ≤ maxWord) :
    Json.ofText? record.json.text = some record.json := Json.ofText?_text (json_isPlain h)

theorem restored_json {record : SessionRecord} (h : record.index ≤ maxWord) :
    Restored.ofJson? record.json = some ⟨record.userId, record.sessionId, record.index⟩ := by
  have index : (Json.nat record.index).unsigned? = some record.index := by
    have small : 0 ≤ (record.index : Int) ∧ (record.index : Int).toNat ≤ maxWord := by omega
    rw [Json.nat, Json.unsigned?, if_pos small, Int.toNat_natCast]
  unfold Restored.ofJson? json members
  cases record.firstEventId <;>
    simp [Json.member?, Dictionary.lookup?, Json.string?, index]

/-- The entity of an event holds the record and the number of the event. -/
theorem entity_without (record : SessionRecord) (eventIndex : Nat) :
    (record.entity eventIndex).data.without "eventIndex" = record.json := by
  have others : record.members.filter (fun member => member.1 ≠ "eventIndex") = record.members := by
    rw [List.filter_eq_self]
    unfold members
    cases record.firstEventId <;> simp
  simp only [entity, json, Json.without]
  rw [List.filter_cons, if_neg (by simp), others]

theorem dataText?_firstTimestamp (record : SessionRecord) (eventIndex : Nat) :
    (record.entity eventIndex).dataText? "firstEventTimestamp" = some record.firstTimestamp := by
  unfold SelfDescribing.dataText? entity members
  cases record.firstEventId <;> rfl

theorem dataText?_firstEventId (record : SessionRecord) (eventIndex : Nat) :
    (record.entity eventIndex).dataText? "firstEventId" = record.firstEventId := by
  unfold SelfDescribing.dataText? entity members
  cases record.firstEventId <;> rfl

end SessionRecord

end Telemetry
