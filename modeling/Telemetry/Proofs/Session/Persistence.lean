import Mathlib.Data.List.Induction
import Telemetry.Proofs.Session.Visit

set_option autoImplicit false

/-!
Writes that fail. A session moves on before its record is written and never tries again, so the record on
disk is that of the running session exactly if the call that began the session returned.
-/

namespace Telemetry

open Store (Database)

theorem Restored.index_le {record : Json} {restored : Restored}
    (h : Restored.ofJson? record = some restored) : restored.index ≤ maxWord := by
  simp only [ofJson?, Option.bind_eq_bind, Option.bind_eq_some_iff] at h
  obtain ⟨userId, -, sessionId, -, index, ⟨value, -, unsigned⟩, rest⟩ := h
  cases rest
  unfold Json.unsigned? at unsigned
  split at unsigned
  · split at unsigned
    · rename_i small
      cases unsigned
      exact small.2
    · cases unsigned
  · cases unsigned

namespace Visit

variable {visit : Visit}

def begins (visit : Visit) (call : SessionCall) : Bool :=
  call.isContext && visit.session.index < (visit.take call).2.session.index

/-- The answer to the last call that began a session. -/
def lastStart? (visit : Visit) : List SessionCall → Option Answer
  | [] => none
  | call :: rest =>
    ((visit.take call).2.lastStart? rest).or
      (if visit.begins call then some (visit.take call).1 else none)

theorem lastStart?_append (calls rest : List SessionCall) :
    visit.lastStart? (calls ++ rest) =
      ((visit.run calls).lastStart? rest).or (visit.lastStart? calls) := by
  induction calls generalizing visit with
  | nil => rw [List.nil_append, lastStart?, run_nil, Option.or_none]
  | cons call calls ih => rw [List.cons_append, lastStart?, ih, lastStart?, run_cons, Option.or_assoc]

theorem lastStart?_concat (calls : List SessionCall) (call : SessionCall) :
    visit.lastStart? (calls ++ [call]) =
      if (visit.run calls).begins call then some ((visit.run calls).take call).1
      else visit.lastStart? calls := by
  rw [lastStart?_append, lastStart?, lastStart?, Option.none_or]
  split_ifs <;> rfl

def KeptBelow (db : Database) (bound : Nat) : Prop :=
  ∀ record, db.keptRecord? = some record →
    ∃ restored, Restored.ofJson? record = some restored ∧ restored.index < bound

inductive Stands (record : SessionRecord) (db : Database) : Answer → Prop
  | returned (entity : Option SelfDescribing) (kept : db.keptRecord? = some record.json) :
      Stands record db (.ok entity)
  | failed (cause : TrackerError) (behind : KeptBelow db record.index) :
      Stands record db (.error cause)

/-- What holds along a run, with the answer to the call that began the session in force. -/
structure Recorded (visit : Visit) (start : Option Answer) : Prop where
  small : visit.session.index ≤ maxWord
  behind : KeptBelow visit.db (visit.session.index + 1)
  stands : visit.session.startsAnew = false → ∃ record answer,
    visit.session.record = some record ∧ record.index = visit.session.index ∧
      start = some answer ∧ Stands record visit.db answer

theorem KeptBelow.mono {db : Database} {low high : Nat} (h : KeptBelow db low) (le : low ≤ high) :
    KeptBelow db high := by
  intro record kept
  obtain ⟨restored, read, less⟩ := h record kept
  exact ⟨restored, read, Nat.lt_of_lt_of_le less le⟩

theorem keptBelow_of_none {db : Database} (h : db.keptRecord? = none) (bound : Nat) :
    KeptBelow db bound := by
  intro record kept
  rw [h] at kept
  cases kept

theorem Recorded.of_opens {timeouts : SessionTimeouts} {db after : Database} {freshUser : String}
    {now : Nat} {session : Session} (h : Session.Opens timeouts db freshUser now session after)
    (start : Option Answer) : Recorded ⟨session, after⟩ start := by
  cases h with
  | restores record restored stored read =>
    have kept := (Database.getSession_ok stored).2
    refine ⟨Restored.index_le read, fun other found => ?_, fun anew => nomatch anew⟩
    rw [kept] at found
    cases found
    exact ⟨restored, read, Nat.lt_succ_self _⟩
  | finds nothing =>
    have kept := (Database.getSession_ok nothing).2
    exact ⟨Nat.zero_le _, keptBelow_of_none kept _, fun anew => nomatch anew⟩
  | discards after unusable deleted =>
    have kept : after.keptRecord? = none := by
      rw [Database.keptRecord?, Database.keptCell, Database.deleteSession_ok deleted]
    exact ⟨Nat.zero_le _, keptBelow_of_none kept _, fun anew => nomatch anew⟩

theorem begins_eq_false {call : SessionCall} (h : call.isContext = false) :
    visit.begins call = false := by
  rw [begins, h, Bool.false_and]

theorem Recorded.congr {start : Option Answer} {db : Database} (h : visit.Recorded start)
    (same : db.keptRecord? = visit.db.keptRecord?) : Recorded { visit with db } start := by
  refine ⟨h.small, ?_, fun running => ?_⟩
  · intro record kept
    exact h.behind record (same ▸ kept)
  · obtain ⟨record, answer, current, index, started, stands⟩ := h.stands running
    refine ⟨record, answer, current, index, started, ?_⟩
    cases stands with
    | returned entity kept => exact .returned entity (same.trans kept)
    | failed cause behind => exact .failed cause fun other kept => behind other (same ▸ kept)

theorem Recorded.context {start : Option Answer} {now : Nat} {freshId eventId : String}
    {timestamp : Nat} (h : visit.Recorded start) :
    (visit.take (.context now freshId eventId timestamp)).2.Recorded
      (if visit.begins (.context now freshId eventId timestamp) then
        some (visit.take (.context now freshId eventId timestamp)).1 else start) := by
  obtain ⟨answer, session, db, taken, counts⟩ := visit.exists_counts now freshId eventId timestamp
  rw [begins, taken, SessionCall.isContext, Bool.true_and]
  cases counts with
  | goesOn running =>
    have still : ¬visit.session.index < (visit.session.counted now).index := Nat.lt_irrefl _
    simp only [still, decide_false, Bool.false_eq_true, if_false]
    have flag := Session.startsAnew_of_running running
    obtain ⟨record, first, current, index, started, stands⟩ := h.stands flag
    exact ⟨h.small, h.behind, fun _ => ⟨record, first, current, index, started, stands⟩⟩
  | exhausted =>
    simp only [Nat.lt_irrefl, decide_false, Bool.false_eq_true, if_false]
    exact h
  | begins lapsed room present =>
    have more : visit.session.index < (visit.session.begun now freshId eventId timestamp).index :=
      Nat.lt_succ_self _
    simp only [more, decide_true, if_true]
    have small : (visit.session.nextRecord freshId eventId timestamp).index ≤ maxWord := room
    have kept : (visit.db.filed (visit.session.nextRecord freshId eventId timestamp).json).keptRecord? =
        some (visit.session.nextRecord freshId eventId timestamp).json :=
      Database.keptRecord?_filed small
    refine ⟨small, fun other found => ?_, fun _ => ⟨_, _, rfl, rfl, rfl, .returned _ kept⟩⟩
    rw [kept] at found
    cases found
    exact ⟨_, SessionRecord.restored_json small, Nat.lt_succ_self _⟩
  | unwritten cause lapsed room missing =>
    have more : visit.session.index < (visit.session.begun now freshId eventId timestamp).index :=
      Nat.lt_succ_self _
    simp only [more, decide_true, if_true]
    exact ⟨room, h.behind.mono (Nat.le_succ _), fun _ => ⟨_, _, rfl, rfl, rfl, .failed _ h.behind⟩⟩

theorem Recorded.take {start : Option Answer} (h : visit.Recorded start) (call : SessionCall) :
    (visit.take call).2.Recorded
      (if visit.begins call then some (visit.take call).1 else start) := by
  cases call with
  | context => exact h.context
  | startNew =>
    rw [begins_eq_false rfl]
    exact ⟨h.small, h.behind, fun anew => nomatch anew⟩
  | setBackground isBackground now =>
    rw [begins_eq_false rfl]
    exact ⟨h.small, h.behind, fun running => h.stands (Session.startsAnew_of_running running)⟩
  | reopen timeouts freshUser now =>
    rw [begins_eq_false rfl]
    cases opened : Session.open timeouts visit.db freshUser now with
    | ok result =>
      simp only [Visit.take, opened]
      exact .of_opens (Session.open_opens opened) start
    | error cause =>
      simp only [Visit.take, opened]
      exact h
  | hide =>
    rw [begins_eq_false rfl]
    refine h.congr ?_
    cases hidden : visit.db.hide? .sessions with
    | none => rfl
    | some after =>
      rw [Option.getD_some, Database.keptRecord?, Database.keptRecord?, Database.keptCell_hide hidden]
  | restore =>
    rw [begins_eq_false rfl]
    refine h.congr ?_
    cases restored : visit.db.restore? .sessions with
    | none => rfl
    | some after =>
      rw [Option.getD_some, Database.keptRecord?, Database.keptRecord?,
        Database.keptCell_restore restored]

theorem Recorded.run (opened : visit.IsOpened) (calls : List SessionCall) :
    (visit.run calls).Recorded (visit.lastStart? calls) := by
  induction calls using List.reverseRecOn with
  | nil =>
    obtain ⟨timeouts, db, freshUser, now, opened⟩ := opened
    exact .of_opens (Session.open_opens opened) none
  | append_singleton calls call ih =>
    rw [run_concat, lastStart?_concat]
    exact ih.take call

theorem entity_of_returned {now : Nat} {freshId eventId : String} {timestamp : Nat}
    {entity : SelfDescribing}
    (told : (visit.take (.context now freshId eventId timestamp)).1 = .ok (some entity)) :
    (visit.take (.context now freshId eventId timestamp)).2.session.startsAnew = false ∧
      (visit.take (.context now freshId eventId timestamp)).2.session.entity = entity := by
  obtain ⟨answer, session, db, taken, counts⟩ := visit.exists_counts now freshId eventId timestamp
  rw [taken] at told ⊢
  cases counts with
  | goesOn running =>
    have flag := Session.startsAnew_of_running running
    cases told
    exact ⟨flag, rfl⟩
  | exhausted => cases told
  | begins =>
    cases told
    exact ⟨rfl, rfl⟩
  | unwritten => cases told

/-- What a context call returns is what is stored exactly if the call that began its session returned:
writing is tried once, in that call. -/
theorem stored_iff_start_returned {calls : List SessionCall} {now : Nat} {freshId eventId : String}
    {timestamp : Nat} {entity : SelfDescribing} (opened : visit.IsOpened)
    (told : ((visit.run calls).take (.context now freshId eventId timestamp)).1 =
      .ok (some entity)) :
    (visit.run (calls ++ [.context now freshId eventId timestamp])).db.keptRecord? =
        some (entity.data.without "eventIndex") ↔
      ∃ first, visit.lastStart? (calls ++ [.context now freshId eventId timestamp]) =
        some (.ok first) := by
  have recorded := Recorded.run opened (calls ++ [.context now freshId eventId timestamp])
  obtain ⟨running, rfl⟩ := entity_of_returned told
  rw [run_concat] at recorded ⊢
  generalize ((visit.run calls).take (.context now freshId eventId timestamp)).2 = after
    at recorded running ⊢
  obtain ⟨record, answer, current, index, started, stands⟩ := recorded.stands running
  have data : after.session.entity.data.without "eventIndex" = record.json := by
    rw [Session.entity, current]
    exact record.entity_without _
  rw [data, started]
  cases stands with
  | returned first kept => exact iff_of_true kept ⟨first, rfl⟩
  | failed cause behind =>
    refine iff_of_false (fun kept => ?_) (by simp)
    obtain ⟨restored, read, less⟩ := behind _ kept
    rw [SessionRecord.restored_json (index ▸ recorded.small)] at read
    cases read
    exact Nat.lt_irrefl _ less

theorem stored_after_new_session :
    let visit : Visit := ⟨Session.start .default none "user" 0, Database.empty⟩
    let calls : List SessionCall := [.hide, .context 0 "first" "a" 0, .restore, .startNew]
    ∃ entity, ((visit.run calls).take (.context 1 "second" "b" 1)).1 = .ok (some entity) ∧
      (visit.run (calls ++ [.context 1 "second" "b" 1])).db.keptRecord? =
        some (entity.data.without "eventIndex") := by
  intro visit calls
  have opened : visit.IsOpened := ⟨.default, Database.empty, "user", 0, rfl⟩
  have told : ((visit.run calls).take (.context 1 "second" "b" 1)).1 = .ok (some _) := rfl
  have start : visit.lastStart? (calls ++ [.context 1 "second" "b" 1]) = some (.ok (some _)) := rfl
  exact ⟨_, told, (stored_iff_start_returned opened told).2 ⟨_, start⟩⟩

/-- One failed write is enough: the next call returns a context of the session that was never stored. -/
theorem returned_not_always_stored :
    ¬∀ (visit : Visit) (calls : List SessionCall) (now : Nat) (freshId eventId : String)
        (timestamp : Nat) (entity : SelfDescribing),
      visit.IsOpened → (∀ call ∈ calls, call.isReopen = false) →
      ((visit.run calls).take (.context now freshId eventId timestamp)).1 = .ok (some entity) →
      (visit.run (calls ++ [.context now freshId eventId timestamp])).db.keptRecord? =
        some (entity.data.without "eventIndex") := by
  intro law
  have opened : Visit.IsOpened ⟨Session.start .default none "user" 0, Database.empty⟩ :=
    ⟨.default, Database.empty, "user", 0, rfl⟩
  have stored := law _ [.hide, .context 0 "first" "a" 0, .restore] 1 "second" "b" 1 _ opened
    (by simp [SessionCall.isReopen]) rfl
  cases stored

end Visit

end Telemetry
