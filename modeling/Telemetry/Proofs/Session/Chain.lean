import Mathlib.Data.List.Induction
import Telemetry.Proofs.Session.Visit

set_option autoImplicit false

/-!
The contexts of a run form one chain, across sessions and across openings of the store. The session in
memory and the record on disk keep different parts of a context; `Keeps` says what they keep together.
-/

namespace Telemetry

open Store (Database)

namespace SessionRecord

theorem entity_sessionId {record other : SessionRecord} {n m : Nat}
    (h : record.entity n = other.entity m) : record.sessionId = other.sessionId := by
  have id (record : SessionRecord) (n : Nat) :
      (record.entity n).data.member? "sessionId" = some (.string record.sessionId) := by
    unfold entity members
    cases record.firstEventId <;> simp [Json.member?, Dictionary.lookup?]
  have same := id record n
  rw [h, id other m] at same
  simpa using same.symm

structure Succeeds (next last : SessionRecord) (eventId : String) (timestamp : Nat) : Prop where
  userId : next.userId = last.userId
  index : next.index = last.index + 1
  previousId : next.previousId = some last.sessionId
  firstEventId : next.firstEventId = Session.nonEmpty? eventId
  firstTimestamp : next.firstTimestamp = Calendar.dateTimeText timestamp

end SessionRecord

/-- A context call that returned an entity. -/
structure Told where
  eventId : String
  timestamp : Nat
  entity : SelfDescribing

namespace Told

def IsOf (told : Told) (sessionId : String) : Prop :=
  ∃ record n, told.entity = SessionRecord.entity record n ∧ record.sessionId = sessionId

/-- How a context continues the last of those before it: with the next event of the same session, or with
the first event of a new one. -/
def Continues (earlier : List Told) (last next : Told) : Prop :=
  ∃ record n, last.entity = SessionRecord.entity record n ∧
    (next.entity = record.entity (n + 1) ∨
      ∃ fresh, next.entity = SessionRecord.entity fresh 1 ∧
        fresh.Succeeds record next.eventId next.timestamp ∧
        ∀ old ∈ earlier ++ [last], ¬old.IsOf fresh.sessionId)

end Told

namespace SessionCall

def freshId? : SessionCall → Option String
  | .context _ freshId _ _ => some freshId
  | _ => none

def freshIds (calls : List SessionCall) : List String := calls.filterMap freshId?

def told? : SessionCall → Visit.Answer → Option Told
  | .context _ _ eventId timestamp, .ok (some entity) => some ⟨eventId, timestamp, entity⟩
  | _, _ => none

end SessionCall

namespace Visit

open SessionCall (freshIds)

variable {visit : Visit}

def told (visit : Visit) : List SessionCall → List Told
  | [] => []
  | call :: rest => (call.told? (visit.take call).1).toList ++ (visit.take call).2.told rest

theorem told_append (calls rest : List SessionCall) :
    visit.told (calls ++ rest) = visit.told calls ++ (visit.run calls).told rest := by
  induction calls generalizing visit with
  | nil => rfl
  | cons call calls ih => rw [List.cons_append, told, ih, told, run_cons, List.append_assoc]

theorem told_concat (calls : List SessionCall) (call : SessionCall) :
    visit.told (calls ++ [call]) =
      visit.told calls ++ (call.told? ((visit.run calls).take call).1).toList := by
  rw [told_append, told, told, List.append_nil]

/-- A session that has told nothing yet, on a store that it can be opened on again. -/
structure IsNew (visit : Visit) : Prop where
  startsAnew : visit.session.startsAnew = true
  opens : ∃ found, visit.db.getSession = .ok found ∧
    ∀ record ∈ found, (Restored.ofJson? record).isSome

/-- What is in memory and on disk after the context of a record with a number. -/
structure Keeps (visit : Visit) (record : SessionRecord) (n : Nat) : Prop where
  present : visit.db.session.present.isSome
  kept : visit.db.keptRecord? = some record.json
  userId : visit.session.userId = record.userId
  sessionId : visit.session.sessionId = record.sessionId
  index : visit.session.index = record.index
  small : record.index ≤ maxWord
  named : record.sessionId ≠ ""
  /-- A session opened since then knows only what the store keeps, and starts anew. -/
  current : visit.session.startsAnew = false →
    visit.session.record = some record ∧ visit.session.eventIndex = n

theorem IsNew.of_opened (h : visit.IsOpened) : visit.IsNew := by
  obtain ⟨timeouts, db, freshUser, now, opened⟩ := h
  have opens := Session.open_opens opened
  obtain ⟨session, after⟩ := visit
  cases opens with
  | restores record restored stored read =>
    exact ⟨rfl, some record, stored, by simp [read]⟩
  | finds nothing => exact ⟨rfl, none, nothing, by simp⟩
  | discards after unusable deleted =>
    refine ⟨rfl, none, ?_, by simp⟩
    rw [Database.getSession, Database.deleteSession_ok deleted]

theorem IsNew.present (h : visit.IsNew) : visit.db.session.present.isSome := by
  obtain ⟨found, stored, -⟩ := h.opens
  exact (Database.getSession_ok stored).1

/-- A context call that finds the session over returns the first entity of the next one. -/
theorem take_context_over (visit : Visit) (now : Nat) (freshId eventId : String) (timestamp : Nat)
    (lapsed : visit.session.isOver now = true) (room : visit.session.index < maxWord)
    (present : visit.db.session.present.isSome) (named : freshId ≠ "") :
    (visit.take (.context now freshId eventId timestamp)).1 =
        .ok (some ((visit.session.nextRecord freshId eventId timestamp).entity 1)) ∧
      (visit.take (.context now freshId eventId timestamp)).2.Keeps
        (visit.session.nextRecord freshId eventId timestamp) 1 := by
  obtain ⟨answer, session, db, taken, counts⟩ := visit.exists_counts now freshId eventId timestamp
  rw [taken]
  cases counts with
  | goesOn running =>
    rw [lapsed] at running
    cases running
  | exhausted lapsed last => omega
  | begins =>
    have small : (visit.session.nextRecord freshId eventId timestamp).index ≤ maxWord := room
    exact ⟨rfl, rfl, Database.keptRecord?_filed small, rfl, rfl, rfl, small, named,
      fun _ => ⟨rfl, rfl⟩⟩
  | unwritten cause lapsed room missing =>
    rw [missing] at present
    cases present

theorem IsNew.take (h : visit.IsNew) (call : SessionCall) (context : call.isContext = false)
    (reach : call ≠ .hide) :
    (visit.take call).1 = .ok none ∧ (visit.take call).2.IsNew := by
  cases call with
  | context => cases context
  | hide => exact absurd rfl reach
  | startNew => exact ⟨rfl, rfl, h.opens⟩
  | setBackground isBackground now =>
    refine ⟨rfl, ?_, h.opens⟩
    simp [Visit.take, Session.setBackground, Session.isOver, h.startsAnew]
  | reopen timeouts freshUser now =>
    obtain ⟨found, stored, readable⟩ := h.opens
    simp only [Visit.take, Session.open, stored]
    cases found with
    | none => exact ⟨rfl, rfl, none, stored, readable⟩
    | some record =>
      obtain ⟨restored, read⟩ := Option.isSome_iff_exists.1 (readable record rfl)
      simp only [read]
      exact ⟨trivial, rfl, some record, stored, readable⟩
  | restore =>
    obtain ⟨cell, present⟩ := Option.isSome_iff_exists.1 h.present
    have idle : visit.db.restore? .sessions = none := by
      simp [Database.restore?, Store.Shelf.putBack?, present]
    rw [Visit.take, idle]
    exact ⟨rfl, h⟩

namespace Keeps

variable {record : SessionRecord} {n : Nat}

theorem take (h : visit.Keeps record n) (call : SessionCall) (context : call.isContext = false)
    (reach : call ≠ .hide) :
    (visit.take call).1 = .ok none ∧ (visit.take call).2.Keeps record n := by
  cases call with
  | context => cases context
  | hide => exact absurd rfl reach
  | startNew => exact ⟨rfl, { h with current := fun anew => nomatch anew }⟩
  | setBackground isBackground now =>
    exact ⟨rfl, { h with
      current := fun running => h.current (Session.startsAnew_of_running running) }⟩
  | reopen timeouts freshUser now =>
    have stored := Database.getSession_of_keptRecord? h.present h.kept
    simp only [Visit.take, Session.open, stored, SessionRecord.restored_json h.small]
    exact ⟨trivial, h.present, h.kept, rfl, rfl, rfl, h.small, h.named, fun anew => nomatch anew⟩
  | restore =>
    obtain ⟨cell, present⟩ := Option.isSome_iff_exists.1 h.present
    have idle : visit.db.restore? .sessions = none := by
      simp [Database.restore?, Store.Shelf.putBack?, present]
    rw [Visit.take, idle]
    exact ⟨rfl, h⟩

theorem take_context_running {now : Nat} {freshId eventId : String} {timestamp : Nat}
    (h : visit.Keeps record n) (running : visit.session.isOver now = false) :
    (visit.take (.context now freshId eventId timestamp)).1 = .ok (some (record.entity (n + 1))) ∧
      (visit.take (.context now freshId eventId timestamp)).2.Keeps record (n + 1) := by
  have flag := Session.startsAnew_of_running running
  obtain ⟨current, number⟩ := h.current flag
  obtain ⟨answer, session, db, taken, counts⟩ := visit.exists_counts now freshId eventId timestamp
  rw [taken]
  cases counts with
  | goesOn =>
    have entity : (visit.session.counted now).entity = record.entity (n + 1) := by
      simp only [Session.entity, Session.counted, current, number]
    rw [entity]
    exact ⟨rfl, { h with current := fun _ => ⟨current, congrArg (· + 1) number⟩ }⟩
  | exhausted lapsed => rw [running] at lapsed; cases lapsed
  | begins lapsed => rw [running] at lapsed; cases lapsed
  | unwritten cause lapsed => rw [running] at lapsed; cases lapsed

/-- The next session goes on from what is kept, in memory or restored. -/
theorem succeeds (h : visit.Keeps record n) (freshId eventId : String) (timestamp : Nat) :
    (visit.session.nextRecord freshId eventId timestamp).Succeeds record eventId timestamp where
  userId := h.userId
  index := congrArg (· + 1) h.index
  previousId := by
    have named : record.sessionId.isEmpty = false := by simpa using h.named
    rw [Session.nextRecord, h.sessionId, Session.nonEmpty?, named]
    rfl
  firstEventId := rfl
  firstTimestamp := rfl

end Keeps

/-- What the contexts of a run of calls have to do with one another, and with what is kept. -/
structure Linked (visit : Visit) (calls : List SessionCall) : Prop where
  answered : ∀ answer ∈ visit.answers calls, ∃ entity, answer = .ok entity
  counted : (visit.told calls).length = calls.countP (·.isContext)
  continued : ∀ before last next after,
    visit.told calls = before ++ last :: next :: after → Told.Continues before last next
  named : ∀ old ∈ visit.told calls, ∀ id, old.IsOf id → id ∈ freshIds calls
  stands : visit.told calls = [] ∧ (visit.run calls).IsNew ∨
    ∃ before last record n, visit.told calls = before ++ [last] ∧
      last.entity = SessionRecord.entity record n ∧ (visit.run calls).Keeps record n

namespace Linked

variable {calls : List SessionCall}

theorem quiet {call : SessionCall} (h : visit.Linked calls) (context : call.isContext = false)
    (reach : call ≠ .hide) : visit.Linked (calls ++ [call]) := by
  have silent : ∀ answer, call.told? answer = none := by
    intro answer
    cases call <;> first | rfl | cases context
  have told : visit.told (calls ++ [call]) = visit.told calls := by
    rw [told_concat, silent, Option.toList_none, List.append_nil]
  have ids : freshIds (calls ++ [call]) = freshIds calls := by
    have none : call.freshId? = none := by cases call <;> first | rfl | cases context
    rw [freshIds, List.filterMap_append, List.filterMap_cons_none none, List.filterMap_nil,
      List.append_nil, freshIds]
  obtain ⟨answer, stands⟩ : ((visit.run calls).take call).1 = .ok none ∧
      (visit.told calls = [] ∧ ((visit.run calls).take call).2.IsNew ∨
        ∃ before last record n, visit.told calls = before ++ [last] ∧
          last.entity = SessionRecord.entity record n ∧
          ((visit.run calls).take call).2.Keeps record n) := by
    obtain ⟨nothing, new⟩ | ⟨before, last, record, n, split, entity, keeps⟩ := h.stands
    · obtain ⟨answer, new⟩ := new.take call context reach
      exact ⟨answer, .inl ⟨nothing, new⟩⟩
    · obtain ⟨answer, keeps⟩ := keeps.take call context reach
      exact ⟨answer, .inr ⟨before, last, record, n, split, entity, keeps⟩⟩
  refine ⟨forall_answers_concat.2 ⟨h.answered, none, answer⟩, ?_, ?_, ?_, ?_⟩
  · rw [told, h.counted, List.countP_append, List.countP_singleton, context]
    rfl
  · rw [told]
    exact h.continued
  · rw [told, ids]
    exact h.named
  · rw [told, run_concat]
    exact stands

theorem tells {now : Nat} {freshId eventId : String} {timestamp n : Nat} {record : SessionRecord}
    (h : visit.Linked calls)
    (answer : ((visit.run calls).take (.context now freshId eventId timestamp)).1 =
      .ok (some (record.entity n)))
    (keeps : ((visit.run calls).take (.context now freshId eventId timestamp)).2.Keeps record n)
    (continues : ∀ before last, visit.told calls = before ++ [last] →
      Told.Continues before last ⟨eventId, timestamp, record.entity n⟩)
    (id : record.sessionId ∈ freshIds (calls ++ [.context now freshId eventId timestamp])) :
    visit.Linked (calls ++ [.context now freshId eventId timestamp]) := by
  have told : visit.told (calls ++ [.context now freshId eventId timestamp]) =
      visit.told calls ++ [⟨eventId, timestamp, record.entity n⟩] := by
    rw [told_concat, answer]
    rfl
  refine ⟨forall_answers_concat.2 ⟨h.answered, _, answer⟩, ?_, ?_, ?_, ?_⟩
  · rw [told, List.length_append, h.counted, List.countP_append]
    rfl
  · intro before last next after split
    rw [told] at split
    obtain rfl | ⟨rest, final, rfl⟩ := List.eq_nil_or_concat after
    · have halves : visit.told calls = before ++ [last] ∧ _ = [next] :=
        List.append_inj' (split.trans (by simp)) rfl
      obtain ⟨old, new⟩ := halves
      cases new
      exact continues before last old
    · have halves : visit.told calls = before ++ last :: next :: rest ∧ _ = [final] :=
        List.append_inj' (split.trans (by simp)) rfl
      exact h.continued before last next rest halves.1
  · intro old mem id' isOf
    rw [told, List.mem_append, List.mem_singleton] at mem
    obtain mem | rfl := mem
    · rw [freshIds, List.filterMap_append]
      exact List.mem_append_left _ (h.named old mem id' isOf)
    · obtain ⟨other, m, same, rfl⟩ := isOf
      rw [← SessionRecord.entity_sessionId same]
      exact id
  · rw [told, run_concat]
    exact .inr ⟨_, _, record, n, rfl, rfl, keeps⟩

theorem nil (h : visit.IsOpened) : visit.Linked [] where
  answered _ mem := nomatch mem
  counted := rfl
  continued before last next after split := by simp [Visit.told] at split
  named _ mem := nomatch mem
  stands := .inl ⟨rfl, .of_opened h⟩

/-- A context call goes on with the session that is kept, or begins the next. -/
theorem context {now : Nat} {freshId eventId : String} {timestamp : Nat} (h : visit.Linked calls)
    (room : (visit.run calls).session.index < maxWord) (named : freshId ≠ "")
    (unused : freshId ∉ freshIds calls) :
    visit.Linked (calls ++ [.context now freshId eventId timestamp]) := by
  have used : freshId ∈ freshIds (calls ++ [.context now freshId eventId timestamp]) := by
    rw [freshIds, List.filterMap_append]
    exact List.mem_append_right _ List.mem_cons_self
  obtain ⟨nothing, new⟩ | ⟨before, last, record, n, split, entity, keeps⟩ := h.stands
  · have lapsed : (visit.run calls).session.isOver now = true := by
      simp [Session.isOver, new.startsAnew]
    obtain ⟨answer, keeps⟩ := take_context_over _ now freshId eventId timestamp lapsed room new.present named
    refine h.tells answer keeps (fun before last split => ?_) used
    rw [nothing] at split
    simp at split
  · have same {front : List Told} {final : Told} (split' : visit.told calls = front ++ [final]) :
        front = before ∧ final = last := by
      obtain ⟨fronts, finals⟩ := List.append_inj' (split'.symm.trans split) rfl
      exact ⟨fronts, by simpa using finals⟩
    cases running : (visit.run calls).session.isOver now with
    | false =>
      obtain ⟨answer, next⟩ := keeps.take_context_running running
      refine h.tells answer next (fun front final split' => ?_) ?_
      · obtain ⟨rfl, rfl⟩ := same split'
        exact ⟨record, n, entity, .inl rfl⟩
      · rw [freshIds, List.filterMap_append]
        refine List.mem_append_left _ (h.named last ?_ _ ⟨record, n, entity, rfl⟩)
        rw [split]
        exact List.mem_append_right _ List.mem_cons_self
    | true =>
      obtain ⟨answer, next⟩ := take_context_over _ now freshId eventId timestamp running room
        keeps.present named
      refine h.tells answer next (fun front final split' => ?_) used
      obtain ⟨rfl, rfl⟩ := same split'
      refine ⟨record, n, entity, .inr ⟨_, rfl, keeps.succeeds freshId eventId timestamp, ?_⟩⟩
      intro old mem isOf
      rw [← split] at mem
      exact unused (h.named old mem _ isOf)

theorem run (opened : visit.IsOpened) (reach : .hide ∉ calls) (ids : (freshIds calls).Nodup)
    (named : "" ∉ freshIds calls)
    (room : ∀ front, front <+: calls → (visit.run front).session.index < maxWord) :
    visit.Linked calls := by
  induction calls using List.reverseRecOn with
  | nil => exact .nil opened
  | append_singleton calls call ih =>
    rw [freshIds, List.filterMap_append] at ids named
    have linked := ih (fun mem => reach (List.mem_append_left _ mem))
      (List.nodup_append.1 ids).1 (fun mem => named (List.mem_append_left _ mem))
      fun front pre => room front (pre.trans (List.prefix_append _ _))
    cases call with
    | context now freshId eventId timestamp =>
      have last : freshId ∈ freshIds [.context now freshId eventId timestamp] := List.mem_cons_self
      refine linked.context (room calls (List.prefix_append _ _)) ?_ fun mem => ?_
      · rintro rfl
        exact named (List.mem_append_right _ last)
      · exact (List.nodup_append.1 ids).2.2 freshId mem freshId last rfl
    | hide => exact absurd (List.mem_append_right _ List.mem_cons_self) reach
    | _ => exact linked.quiet rfl nofun

end Linked

end Visit

end Telemetry
