import Mathlib.Data.List.Induction
import Mathlib.Data.List.Nodup
import Telemetry.Proofs.Session.Persistence

set_option autoImplicit false

namespace Telemetry

open Store (Database)

inductive ContextCall where
  /-- It has begun this session and is still to write its record. -/
  | storing (session : Session)
  | returned (answer : Except TrackerError SelfDescribing)

namespace ContextCall

def hasReturned : ContextCall → Bool
  | .storing _ => false
  | .returned _ => true

def unwritten? : ContextCall → Option SessionRecord
  | .storing session => session.record
  | .returned _ => none

end ContextCall

/-- A session that several threads use, with all context calls so far in the order of their entries. -/
structure SharedVisit where
  session : Session
  db : Database
  calls : List ContextCall

/-- A move of one thread, atomic for the others. -/
inductive SharedMove where
  | enter (now : Nat) (freshId eventId : String) (timestamp : Nat)
  | store (call : Nat)
  | startNew
  | setBackground (isBackground : Bool) (now : Nat)

namespace SharedVisit

def take (visit : SharedVisit) : SharedMove → SharedVisit
  | .enter now freshId eventId timestamp =>
    match visit.session.countEvent now freshId eventId timestamp with
    | .error cause => { visit with calls := visit.calls ++ [.returned (.error cause)] }
    | .ok (session, false) =>
      { visit with session, calls := visit.calls ++ [.returned (.ok session.entity)] }
    | .ok (session, true) => { visit with session, calls := visit.calls ++ [.storing session] }
  | .store call =>
    match visit.calls[call]? with
    | some (.storing session) =>
      match session.store visit.db with
      | .ok db => { visit with db, calls := visit.calls.set call (.returned (.ok session.entity)) }
      | .error cause => { visit with calls := visit.calls.set call (.returned (.error cause)) }
    | _ => visit
  | .startNew => { visit with session := visit.session.startNew }
  | .setBackground isBackground now =>
    { visit with session := visit.session.setBackground isBackground now }

def run (visit : SharedVisit) (moves : List SharedMove) : SharedVisit := moves.foldl take visit

/-- A session that has just been opened, before any call. -/
def IsOpened (visit : SharedVisit) : Prop :=
  visit.calls = [] ∧ ∃ timeouts db freshUser now,
    Session.open timeouts db freshUser now = .ok (visit.session, visit.db)

variable {visit : SharedVisit}

theorem run_append (visit : SharedVisit) (moves rest : List SharedMove) :
    visit.run (moves ++ rest) = (visit.run moves).run rest := List.foldl_append

theorem run_concat (visit : SharedVisit) (moves : List SharedMove) (move : SharedMove) :
    visit.run (moves ++ [move]) = (visit.run moves).take move := visit.run_append moves [move]

theorem take_enter_store (visit : SharedVisit) (now : Nat) (freshId eventId : String)
    (timestamp : Nat) :
    let (answer, session, db) := visit.session.context visit.db now freshId eventId timestamp
    (visit.take (.enter now freshId eventId timestamp)).take (.store visit.calls.length) =
      ⟨session, db, visit.calls ++ [.returned answer]⟩ := by
  unfold Session.context
  cases counted : visit.session.countEvent now freshId eventId timestamp with
  | error cause => simp [take, counted]
  | ok result =>
    obtain ⟨session, begins⟩ := result
    cases begins with
    | false => simp [take, counted]
    | true => cases stored : session.store visit.db <;> simp [take, counted, stored]

def begins? (visit : SharedVisit) : SharedMove → Option SessionRecord
  | .enter now freshId eventId timestamp =>
    match visit.session.countEvent now freshId eventId timestamp with
    | .ok (session, true) => session.record
    | _ => none
  | _ => none

def writes? (visit : SharedVisit) : SharedMove → Option SessionRecord
  | .store call => visit.calls[call]?.bind (·.unwritten?)
  | _ => none

def along (seen : SharedVisit → SharedMove → Option SessionRecord) (visit : SharedVisit) :
    List SharedMove → List SessionRecord
  | [] => []
  | move :: rest => (seen visit move).toList ++ (visit.take move).along seen rest

def begun (visit : SharedVisit) (moves : List SharedMove) : List SessionRecord :=
  visit.along begins? moves

def written (visit : SharedVisit) (moves : List SharedMove) : List SessionRecord :=
  visit.along writes? moves

def unwritten (visit : SharedVisit) : List SessionRecord := visit.calls.filterMap (·.unwritten?)

theorem along_append (seen : SharedVisit → SharedMove → Option SessionRecord) (visit : SharedVisit)
    (moves rest : List SharedMove) :
    visit.along seen (moves ++ rest) = visit.along seen moves ++ (visit.run moves).along seen rest := by
  induction moves generalizing visit with
  | nil => rfl
  | cons move moves ih =>
    rw [List.cons_append, along, ih, along, List.append_assoc]
    rfl

theorem along_concat (seen : SharedVisit → SharedMove → Option SessionRecord) (visit : SharedVisit)
    (moves : List SharedMove) (move : SharedMove) :
    visit.along seen (moves ++ [move]) =
      visit.along seen moves ++ (seen (visit.run moves) move).toList := by
  rw [along_append, along, along, List.append_nil]

theorem exists_move_of_mem_along {seen : SharedVisit → SharedMove → Option SessionRecord}
    {moves : List SharedMove} {record : SessionRecord} (h : record ∈ visit.along seen moves) :
    ∃ before move after, moves = before ++ move :: after ∧
      seen (visit.run before) move = some record := by
  induction moves generalizing visit with
  | nil => cases h
  | cons move rest ih =>
    obtain here | later := List.mem_append.1 h
    · exact ⟨[], move, rest, rfl, Option.mem_toList.1 here⟩
    · obtain ⟨before, other, after, rfl, shown⟩ := ih later
      exact ⟨move :: before, other, after, rfl, shown⟩

/-- What the first move of a context call comes to, with the record of the session that it begins. -/
inductive Enters (visit : SharedVisit) : SharedVisit → Option SessionRecord → Prop
  | passes (session : Session) (answer : Except TrackerError SelfDescribing)
      (same : session.index = visit.session.index) :
      Enters visit { visit with session, calls := visit.calls ++ [.returned answer] } none
  | begins (session : Session) (record : SessionRecord) (current : session.record = some record)
      (index : record.index = session.index) (next : session.index = visit.session.index + 1)
      (room : visit.session.index < maxWord) :
      Enters visit { visit with session, calls := visit.calls ++ [.storing session] } (some record)

theorem take_enters (visit : SharedVisit) (now : Nat) (freshId eventId : String) (timestamp : Nat) :
    Enters visit (visit.take (.enter now freshId eventId timestamp))
      (visit.begins? (.enter now freshId eventId timestamp)) := by
  cases lapsed : visit.session.isOver now with
  | false =>
    rw [take, begins?, Session.countEvent_of_running lapsed]
    exact .passes _ _ rfl
  | true =>
    by_cases last : maxWord ≤ visit.session.index
    · rw [take, begins?, Session.countEvent_of_exhausted lapsed last]
      exact .passes visit.session _ rfl
    · have room : visit.session.index < maxWord := Nat.lt_of_not_le last
      rw [take, begins?, Session.countEvent_of_lapsed lapsed room]
      exact .begins _ (visit.session.nextRecord freshId eventId timestamp) rfl rfl rfl room

theorem unwritten_entered (visit : SharedVisit) (session : Session) (call : ContextCall) :
    unwritten { visit with session, calls := visit.calls ++ [call] } =
      visit.unwritten ++ call.unwritten?.toList := by
  cases written : call.unwritten? <;> simp [unwritten, written]

theorem unwritten_set {calls : List ContextCall} {call : Nat} {session : Session}
    {record : SessionRecord} (found : calls[call]? = some (.storing session))
    (current : session.record = some record) (answer : Except TrackerError SelfDescribing) :
    (calls.filterMap (·.unwritten?)).Perm
      (record :: (calls.set call (.returned answer)).filterMap (·.unwritten?)) := by
  induction calls generalizing call with
  | nil => cases found
  | cons first rest ih =>
    cases call with
    | zero =>
      obtain rfl : first = .storing session := by simpa using found
      simp [ContextCall.unwritten?, current]
    | succ call =>
      have tail := ih (by simpa using found)
      cases written : first.unwritten? with
      | none => simpa [written] using tail
      | some other =>
        simp only [List.set_cons_succ, List.filterMap_cons, written]
        exact (tail.cons other).trans (.swap record other _)

/-- The sessions begun are in the order of their indices, each is written once, and the last write counts. -/
structure Ordered (visit : SharedVisit) (begun written : List SessionRecord) : Prop where
  present : visit.db.session.present.isSome
  small : visit.session.index ≤ maxWord
  recorded : ∀ session, .storing session ∈ visit.calls → session.record.isSome
  ascending : begun.Pairwise (·.index < ·.index)
  le : ∀ record ∈ begun, record.index ≤ visit.session.index
  shared : (written ++ visit.unwritten).Perm begun
  kept : ∀ record ∈ written.getLast?, visit.db.keptRecord? = some record.json

namespace Ordered

variable {begun written : List SessionRecord}

theorem of_opened (opened : visit.IsOpened) : visit.Ordered [] [] := by
  obtain ⟨session, db, calls⟩ := visit
  obtain ⟨rfl, timeouts, before, freshUser, now, opened⟩ := opened
  obtain ⟨present, small⟩ : db.session.present.isSome ∧ session.index ≤ maxWord := by
    cases Session.open_opens opened with
    | restores record restored stored read =>
      exact ⟨(Database.getSession_ok stored).1, Restored.index_le read⟩
    | finds found => exact ⟨(Database.getSession_ok found).1, Nat.zero_le _⟩
    | discards after unusable deleted =>
      rw [Database.deleteSession_ok deleted]
      exact ⟨rfl, Nat.zero_le _⟩
  exact ⟨present, small, nofun, List.Pairwise.nil, nofun, .refl [], nofun⟩

theorem setSession (h : visit.Ordered begun written) {session : Session}
    (same : session.index = visit.session.index) : Ordered { visit with session } begun written :=
  ⟨h.present, same ▸ h.small, h.recorded, h.ascending, same ▸ h.le, h.shared, h.kept⟩

theorem enter (h : visit.Ordered begun written) {after : SharedVisit} {record? : Option SessionRecord}
    (enters : Enters visit after record?) : after.Ordered (begun ++ record?.toList) written := by
  cases enters with
  | passes session answer same =>
    rw [Option.toList_none, List.append_nil]
    refine ⟨h.present, same ▸ h.small, ?_, h.ascending, same ▸ h.le, ?_, h.kept⟩
    · intro other hother
      apply h.recorded other
      simpa using hother
    · rw [unwritten_entered, ContextCall.unwritten?, Option.toList_none, List.append_nil]
      exact h.shared
  | begins session record current index next room =>
    rw [Option.toList_some]
    refine ⟨h.present, ?_, ?_, ?_, ?_, ?_, h.kept⟩
    · show session.index ≤ maxWord
      omega
    · intro other hother
      obtain hother | same : .storing other ∈ visit.calls ∨ other = session := by simpa using hother
      · exact h.recorded other hother
      · rw [same, current]
        rfl
    · refine List.pairwise_append.2 ⟨h.ascending, List.pairwise_singleton _ _, ?_⟩
      intro earlier hearlier later hlater
      have before := h.le earlier hearlier
      rw [List.mem_singleton.1 hlater]
      omega
    · intro other hother
      show other.index ≤ session.index
      obtain hother | hother := List.mem_append.1 hother
      · have before := h.le other hother
        omega
      · exact Nat.le_of_eq (List.mem_singleton.1 hother ▸ index)
    · rw [unwritten_entered, ContextCall.unwritten?, current, Option.toList_some, ← List.append_assoc]
      exact h.shared.append_right [record]

theorem small_of_mem (h : visit.Ordered begun written) {record : SessionRecord} (hrecord : record ∈ begun) :
    record.index ≤ maxWord := Nat.le_trans (h.le record hrecord) h.small

theorem eq_of_index (h : visit.Ordered begun written) {record other : SessionRecord}
    (hrecord : record ∈ begun) (hother : other ∈ begun) (same : record.index = other.index) :
    record = other := by
  have distinct : (begun.map (·.index)).Nodup :=
    List.pairwise_map.2 (h.ascending.imp fun less => Nat.ne_of_lt less)
  exact List.inj_on_of_nodup_map distinct hrecord hother same

theorem nodup (h : visit.Ordered begun written) : (written ++ visit.unwritten).Nodup := by
  refine h.shared.nodup_iff.2 (h.ascending.imp ?_)
  rintro record _ less rfl
  exact Nat.lt_irrefl _ less

theorem store (h : visit.Ordered begun written) (call : Nat) :
    (visit.take (.store call)).Ordered begun (written ++ (visit.writes? (.store call)).toList) := by
  rw [take, writes?]
  cases found : visit.calls[call]? with
  | none => simpa using h
  | some state =>
    cases state with
    | returned answer => simpa [ContextCall.unwritten?] using h
    | storing session =>
      obtain ⟨record, current⟩ := Option.isSome_iff_exists.1
        (h.recorded session (List.mem_of_getElem? found))
      have json : session.recordJson = record.json := by rw [Session.recordJson, current]
      have stored : session.store visit.db = .ok (visit.db.filed record.json) := by
        rw [Session.store, json, Database.setSession_of_present h.present]
      have wrote : (some (ContextCall.storing session)).bind (·.unwritten?) = some record := current
      have left := unwritten_set found current (.ok session.entity)
      have shared : (written ++ [record] ++ unwritten { visit with
          db := visit.db.filed record.json
          calls := visit.calls.set call (.returned (.ok session.entity)) }).Perm begun := by
        rw [List.append_assoc]
        exact (left.symm.append_left written).trans h.shared
      have small : record.index ≤ maxWord := h.small_of_mem (shared.subset (by simp))
      simp only [stored, wrote, Option.toList_some]
      refine ⟨rfl, h.small, ?_, h.ascending, h.le, shared, ?_⟩
      · intro other hother
        obtain hother | same := List.mem_or_eq_of_mem_set hother
        · exact h.recorded other hother
        · cases same
      · intro last hlast
        obtain rfl : record = last := by simpa using hlast
        exact Database.keptRecord?_filed small

theorem take (h : visit.Ordered begun written) (move : SharedMove) :
    (visit.take move).Ordered (begun ++ (visit.begins? move).toList)
      (written ++ (visit.writes? move).toList) := by
  cases move with
  | enter now freshId eventId timestamp =>
    have entered := h.enter (visit.take_enters now freshId eventId timestamp)
    simpa [writes?] using entered
  | store call =>
    have stored := h.store call
    simpa [begins?] using stored
  | startNew =>
    have moved : (visit.take .startNew).Ordered begun written := h.setSession rfl
    simpa [begins?, writes?] using moved
  | setBackground isBackground now =>
    have moved : (visit.take (.setBackground isBackground now)).Ordered begun written :=
      h.setSession rfl
    simpa [begins?, writes?] using moved

theorem unwritten_eq_nil_iff (h : visit.Ordered begun written) :
    visit.unwritten = [] ↔ ∀ call ∈ visit.calls, call.hasReturned := by
  rw [unwritten, List.filterMap_eq_nil_iff]
  constructor
  · intro nothing call hcall
    cases call with
    | returned answer => rfl
    | storing session =>
      have some := h.recorded session hcall
      rw [show session.record = none from nothing _ hcall] at some
      cases some
  · intro returned call hcall
    cases call with
    | returned answer => rfl
    | storing session => cases returned _ hcall

end Ordered

theorem ordered_run (opened : visit.IsOpened) (moves : List SharedMove) :
    (visit.run moves).Ordered (visit.begun moves) (visit.written moves) := by
  induction moves using List.reverseRecOn with
  | nil => exact .of_opened opened
  | append_singleton moves move ih =>
    rw [run_concat, begun, written, along_concat, along_concat]
    exact ih.take move

/-- Whether no record was left to be written when the one of a session was. -/
def WritesAlone (visit : SharedVisit) (moves : List SharedMove) (record : SessionRecord) : Prop :=
  ∀ before move after, moves = before ++ move :: after →
    (visit.run before).writes? move = some record →
      ∀ call ∈ (visit.run (before ++ [move])).calls, call.hasReturned

/-- The record of the latest session is written last exactly if nothing was left to be written then: what the
run writes after it is what was left. -/
theorem last_written_iff (opened : visit.IsOpened) {before after : List SharedMove} {move : SharedMove}
    {latest : SessionRecord} (wrote : (visit.run before).writes? move = some latest)
    (highest : ∀ record ∈ visit.begun (before ++ move :: after), record.index ≤ latest.index)
    (returned : ∀ call ∈ (visit.run (before ++ move :: after)).calls, call.hasReturned) :
    (visit.written (before ++ move :: after)).getLast? = some latest ↔
      ∀ call ∈ (visit.run (before ++ [move])).calls, call.hasReturned := by
  have whole : before ++ move :: after = (before ++ [move]) ++ after := by simp
  rw [whole] at highest returned ⊢
  have middle := ordered_run opened (before ++ [move])
  have last := ordered_run opened ((before ++ [move]) ++ after)
  have nothing := last.unwritten_eq_nil_iff.2 returned
  have first : visit.written (before ++ [move]) = visit.written before ++ [latest] := by
    rw [written, along_concat, wrote]
    rfl
  have later : visit.written ((before ++ [move]) ++ after) =
      visit.written (before ++ [move]) ++ (visit.run (before ++ [move])).written after :=
    along_append _ _ _ _
  have sessions : visit.begun ((before ++ [move]) ++ after) =
      visit.begun (before ++ [move]) ++ (visit.run (before ++ [move])).begun after :=
    along_append _ _ _ _
  have known : latest ∈ visit.begun (before ++ [move]) := middle.shared.subset (by simp [first])
  -- a session that begins after the write would have a higher index
  have noneNew : (visit.run (before ++ [move])).begun after = [] := by
    rw [List.eq_nil_iff_forall_not_mem]
    intro record hrecord
    have ascending := last.ascending
    rw [sessions] at ascending highest
    have less := (List.pairwise_append.1 ascending).2.2 latest known record hrecord
    have notLess := highest record (List.mem_append_right _ hrecord)
    omega
  have shared := last.shared
  rw [nothing, sessions, noneNew, later, List.append_nil, List.append_nil] at shared
  have left := (List.perm_append_left_iff _).1 (middle.shared.trans shared.symm)
  have distinct := last.nodup
  rw [nothing, List.append_nil, later, first] at distinct
  rw [← middle.unwritten_eq_nil_iff, later, first]
  cases rest : (visit.run (before ++ [move])).written after with
  | nil =>
    rw [rest] at left
    exact iff_of_true (by simp) left.eq_nil
  | cons record others =>
    rw [rest] at left distinct
    refine iff_of_false (fun final => ?_) (fun none => ?_)
    · rw [List.getLast?_append_of_ne_nil _ (List.cons_ne_nil _ _)] at final
      have again : latest ∈ record :: others := List.mem_of_getLast? final
      exact List.disjoint_of_nodup_append distinct (by simp) again
    · rw [none] at left
      exact List.cons_ne_nil _ _ left.symm.eq_nil

/-- Calls from several threads that have all returned, with all writes successful. The stored record is that of
the latest session, and a session opened on the store goes on from it, exactly if no call was still to
write when that record was written. -/
theorem stored_latest_iff {moves : List SharedMove} {latest : SessionRecord} (opened : visit.IsOpened)
    (known : latest ∈ visit.begun moves)
    (highest : ∀ record ∈ visit.begun moves, record.index ≤ latest.index)
    (returned : ∀ call ∈ (visit.run moves).calls, call.hasReturned) :
    ((visit.run moves).db.keptRecord? = some latest.json ↔ visit.WritesAlone moves latest) ∧
      ∀ timeouts freshUser now, ∃ next,
        Session.open timeouts (visit.run moves).db freshUser now = .ok (next, (visit.run moves).db) ∧
          (next.index = latest.index ↔ visit.WritesAlone moves latest) := by
  have run := ordered_run opened moves
  have nothing := run.unwritten_eq_nil_iff.2 returned
  have shared : (visit.written moves).Perm (visit.begun moves) := by
    simpa [nothing] using run.shared
  obtain ⟨stored, hlast⟩ : ∃ stored, (visit.written moves).getLast? = some stored :=
    ⟨_, List.getLast?_eq_some_getLast (List.ne_nil_of_mem (shared.symm.subset known))⟩
  have hstored : stored ∈ visit.begun moves := shared.subset (List.mem_of_getLast? hlast)
  have kept := run.kept stored hlast
  have read := SessionRecord.restored_json (run.small_of_mem hstored)
  have latest_iff : stored = latest ↔ visit.WritesAlone moves latest := by
    rw [← Option.some_inj, ← hlast]
    constructor
    · rintro final before move after rfl wrote
      exact (last_written_iff opened wrote highest returned).1 final
    · intro alone
      obtain ⟨before, move, after, rfl, wrote⟩ :=
        exists_move_of_mem_along (shared.symm.subset known)
      exact (last_written_iff opened wrote highest returned).2 (alone before move after rfl wrote)
  have same_iff : stored.index = latest.index ↔ stored = latest :=
    ⟨run.eq_of_index hstored known, congrArg _⟩
  constructor
  · rw [← latest_iff, kept, Option.some_inj]
    refine ⟨fun json => ?_, congrArg _⟩
    rw [json, SessionRecord.restored_json (run.small_of_mem known)] at read
    exact same_iff.1 (congrArg Restored.index (Option.some.inj read)).symm
  · intro timeouts freshUser now
    have found := Database.getSession_of_keptRecord? run.present kept
    have goesOn : Session.open timeouts (visit.run moves).db freshUser now = .ok
        (Session.start timeouts (some ⟨stored.userId, stored.sessionId, stored.index⟩) freshUser now,
          (visit.run moves).db) := by
      simp only [Session.open, found, read]
    refine ⟨_, goesOn, ?_⟩
    rw [← latest_iff, ← same_iff]
    rfl

def fresh : SharedVisit := ⟨Session.start .default none "user" 0, Database.empty, []⟩

def overtaken : List SharedMove :=
  [.enter 0 "first" "a" 0, .startNew, .enter 1 "second" "b" 1, .store 1, .store 0]

theorem fresh_isOpened : fresh.IsOpened := ⟨rfl, .default, Database.empty, "user", 0, rfl⟩

theorem overtaken_begun : ∃ earlier latest, fresh.begun overtaken = [earlier, latest] ∧
    earlier.index = 1 ∧ latest.index = 2 ∧
      (fresh.run (overtaken.take 3)).calls[1]?.bind (·.unwritten?) = some latest ∧
      (fresh.run overtaken).db = (Database.empty.filed latest.json).filed earlier.json :=
  ⟨_, _, rfl, rfl, rfl, rfl, rfl⟩

theorem overtaken_returned : ∀ call ∈ (fresh.run overtaken).calls, call.hasReturned := by
  have calls : (fresh.run overtaken).calls = [.returned _, .returned _] := rfl
  rw [calls]
  simp [ContextCall.hasReturned]

theorem stored_latest_iff_overtaken : ∃ latest ∈ fresh.begun overtaken,
    (∀ record ∈ fresh.begun overtaken, record.index ≤ latest.index) ∧
      (fresh.run overtaken).db.keptRecord? ≠ some latest.json ∧
      ∀ timeouts freshUser now, ∃ next,
        Session.open timeouts (fresh.run overtaken).db freshUser now =
            .ok (next, (fresh.run overtaken).db) ∧ next.index ≠ latest.index := by
  obtain ⟨earlier, latest, sessions, first, second, wrote, -⟩ := overtaken_begun
  have known : latest ∈ fresh.begun overtaken := by simp [sessions]
  have highest : ∀ record ∈ fresh.begun overtaken, record.index ≤ latest.index := by
    simp [sessions, first, second]
  have early : ¬fresh.WritesAlone overtaken latest := by
    intro alone
    have returned := alone (overtaken.take 3) (.store 1) [.store 0] rfl wrote _ List.mem_cons_self
    cases returned
  obtain ⟨stored, reopened⟩ := stored_latest_iff fresh_isOpened known highest overtaken_returned
  refine ⟨latest, known, highest, mt stored.1 early, fun timeouts freshUser now => ?_⟩
  obtain ⟨next, opened, index⟩ := reopened timeouts freshUser now
  exact ⟨next, opened, mt index.1 early⟩

theorem not_always_latest :
    ¬∀ (visit : SharedVisit) (moves : List SharedMove) (latest : SessionRecord), visit.IsOpened →
      latest ∈ visit.begun moves → (∀ record ∈ visit.begun moves, record.index ≤ latest.index) →
      (∀ call ∈ (visit.run moves).calls, call.hasReturned) →
      (visit.run moves).db.keptRecord? = some latest.json := by
  intro law
  obtain ⟨earlier, latest, sessions, first, second, -, db⟩ := overtaken_begun
  have kept := law fresh overtaken latest fresh_isOpened (by simp [sessions])
    (by simp [sessions, first, second]) overtaken_returned
  have low : earlier.index ≤ maxWord := by rw [first]; decide
  have high : latest.index ≤ maxWord := by rw [second]; decide
  rw [db, Database.keptRecord?_filed low, Option.some_inj] at kept
  have read := SessionRecord.restored_json low
  rw [kept, SessionRecord.restored_json high] at read
  have same := congrArg Restored.index (Option.some.inj read)
  simp [first, second] at same

end SharedVisit

end Telemetry
