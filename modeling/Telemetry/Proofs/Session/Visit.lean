import Mathlib.Data.List.Basic
import Telemetry.Proofs.Session.Record

set_option autoImplicit false

namespace Telemetry

open Store (Database)

namespace Store.Database

def keptCell (db : Database) : Option Cell :=
  match db.session.present with
  | some cell => cell
  | none => db.session.aside.getD none

/-- The record that is on disk. -/
def keptRecord? (db : Database) : Option Json :=
  match db.keptCell with
  | some (.text value) => Json.ofText? value
  | _ => none

def filed (db : Database) (record : Json) : Database :=
  { db with session := { db.session with present := some (some (.text record.text)) } }

theorem setSession_of_present {db : Database} (h : db.session.present.isSome) (record : Json) :
    db.setSession record = .ok (db.filed record) := by
  obtain ⟨cell, present⟩ := Option.isSome_iff_exists.1 h
  rw [setSession, Shelf.write?, present]
  rfl

theorem keptRecord?_filed {db : Database} {record : SessionRecord} (h : record.index ≤ maxWord) :
    (db.filed record.json).keptRecord? = some record.json := SessionRecord.ofText?_json h

theorem deleteSession_ok {db after : Database} (h : db.deleteSession = .ok after) :
    after.session.present = some none := by
  cases present : db.session.present with
  | none =>
    rw [deleteSession, Shelf.write?, present] at h
    cases h
  | some cell =>
    rw [deleteSession, Shelf.write?, present] at h
    cases h
    rfl

theorem getSession_of_keptRecord? {db : Database} {record : Json} (h : db.session.present.isSome)
    (kept : db.keptRecord? = some record) : db.getSession = .ok (some record) := by
  obtain ⟨cell, present⟩ := Option.isSome_iff_exists.1 h
  simp only [keptRecord?, keptCell, present] at kept
  unfold getSession
  rw [present]
  split at kept
  · simp only [kept]
  · cases kept

theorem getSession_ok {db : Database} {found : Option Json} (h : db.getSession = .ok found) :
    db.session.present.isSome ∧ db.keptRecord? = found := by
  unfold getSession at h
  split at h
  · cases h
  · rename_i present
    cases h
    exact ⟨by rw [present]; rfl, by rw [keptRecord?, keptCell, present]⟩
  · cases h
  · rename_i value present
    split at h
    · rename_i record read
      cases h
      refine ⟨by rw [present]; rfl, ?_⟩
      simp only [keptRecord?, keptCell, present, read]
    · cases h

theorem keptCell_hide {db after : Database} (h : db.hide? .sessions = some after) :
    after.keptCell = db.keptCell := by
  simp only [hide?, Shelf.putAside?] at h
  split at h
  · rename_i present aside
    cases h
    simp only [keptCell, present, Option.getD_some]
  · cases h

theorem keptCell_restore {db after : Database} (h : db.restore? .sessions = some after) :
    after.keptCell = db.keptCell := by
  simp only [restore?, Shelf.putBack?] at h
  split at h
  · rename_i present aside
    cases h
    simp only [keptCell, present, aside, Option.getD_some]
  · cases h

end Store.Database

namespace Session

def nextRecord (session : Session) (freshId eventId : String) (timestamp : Nat) : SessionRecord where
  userId := session.userId
  sessionId := freshId
  index := session.index + 1
  previousId := nonEmpty? session.sessionId
  firstEventId := nonEmpty? eventId
  firstTimestamp := Calendar.dateTimeText timestamp

def counted (session : Session) (now : Nat) : Session :=
  { session with lastCheck := now, eventIndex := session.eventIndex + 1 }

def begun (session : Session) (now : Nat) (freshId eventId : String) (timestamp : Nat) : Session :=
  { session with
    sessionId := freshId
    index := session.index + 1
    eventIndex := 1
    startsAnew := false
    lastCheck := now
    record := some (session.nextRecord freshId eventId timestamp) }

theorem countEvent_of_running {session : Session} {now : Nat} (h : session.isOver now = false)
    (freshId eventId : String) (timestamp : Nat) :
    session.countEvent now freshId eventId timestamp = .ok (session.counted now, false) := by
  rw [countEvent, h]
  rfl

theorem countEvent_of_exhausted {session : Session} {now : Nat} (lapsed : session.isOver now = true)
    (last : maxWord ≤ session.index) (freshId eventId : String) (timestamp : Nat) :
    session.countEvent now freshId eventId timestamp = .error .sessionIndexOverflow := by
  rw [countEvent, lapsed, next, if_pos last]
  rfl

theorem countEvent_of_lapsed {session : Session} {now : Nat} (lapsed : session.isOver now = true)
    (room : session.index < maxWord) (freshId eventId : String) (timestamp : Nat) :
    session.countEvent now freshId eventId timestamp =
      .ok (session.begun now freshId eventId timestamp, true) := by
  rw [countEvent, lapsed, next, if_neg (Nat.not_le_of_lt room)]
  rfl

inductive Counts (session : Session) (db : Database) (now : Nat) (freshId eventId : String)
    (timestamp : Nat) : Except TrackerError SelfDescribing → Session → Database → Prop
  | goesOn (running : session.isOver now = false) :
      Counts session db now freshId eventId timestamp (.ok (session.counted now).entity)
        (session.counted now) db
  | exhausted (lapsed : session.isOver now = true) (last : maxWord ≤ session.index) :
      Counts session db now freshId eventId timestamp (.error .sessionIndexOverflow) session db
  | begins (lapsed : session.isOver now = true) (room : session.index < maxWord)
      (present : db.session.present.isSome) :
      Counts session db now freshId eventId timestamp
        (.ok ((session.nextRecord freshId eventId timestamp).entity 1))
        (session.begun now freshId eventId timestamp)
        (db.filed (session.nextRecord freshId eventId timestamp).json)
  | unwritten (cause : StorageError) (lapsed : session.isOver now = true)
      (room : session.index < maxWord) (missing : db.session.present = none) :
      Counts session db now freshId eventId timestamp (.error (.storage cause))
        (session.begun now freshId eventId timestamp) db

theorem context_counts (session : Session) (db : Database) (now : Nat) (freshId eventId : String)
    (timestamp : Nat) :
    Counts session db now freshId eventId timestamp
      (session.context db now freshId eventId timestamp).1
      (session.context db now freshId eventId timestamp).2.1
      (session.context db now freshId eventId timestamp).2.2 := by
  cases lapsed : session.isOver now with
  | false =>
    rw [context, countEvent_of_running lapsed]
    exact .goesOn lapsed
  | true =>
    by_cases last : maxWord ≤ session.index
    · rw [context, countEvent_of_exhausted lapsed last]
      exact .exhausted lapsed last
    · have json : (session.begun now freshId eventId timestamp).recordJson =
          (session.nextRecord freshId eventId timestamp).json := rfl
      have room : session.index < maxWord := Nat.lt_of_not_le last
      rw [context, countEvent_of_lapsed lapsed room]
      simp only [store, json]
      by_cases present : db.session.present.isSome
      · rw [Database.setSession_of_present present]
        exact .begins lapsed room present
      · have missing : db.session.present = none := by simpa using present
        rw [Database.setSession, Store.Shelf.write?, missing]
        exact .unwritten .database lapsed room missing

theorem startsAnew_of_running {session : Session} {now : Nat} (h : session.isOver now = false) :
    session.startsAnew = false := by
  simp only [isOver, Bool.or_eq_false_iff] at h
  exact h.1.1

inductive Opens (timeouts : SessionTimeouts) (db : Database) (freshUser : String) (now : Nat) :
    Session → Database → Prop
  | restores (record : Json) (restored : Restored) (stored : db.getSession = .ok (some record))
      (read : Restored.ofJson? record = some restored) :
      Opens timeouts db freshUser now (start timeouts (some restored) freshUser now) db
  | finds (nothing : db.getSession = .ok none) :
      Opens timeouts db freshUser now (start timeouts none freshUser now) db
  | discards (after : Database)
      (unusable : ∀ record, db.getSession = .ok (some record) → Restored.ofJson? record = none)
      (deleted : db.deleteSession = .ok after) :
      Opens timeouts db freshUser now (start timeouts none freshUser now) after

theorem open_opens {timeouts : SessionTimeouts} {db after : Database} {freshUser : String}
    {now : Nat} {session : Session}
    (h : Session.open timeouts db freshUser now = .ok (session, after)) :
    Opens timeouts db freshUser now session after := by
  unfold Session.open at h
  split at h
  · rename_i nothing
    cases h
    exact .finds nothing
  · rename_i record stored
    split at h
    · rename_i restored read
      cases h
      exact .restores record restored stored read
    · rename_i unread
      cases deleted : db.deleteSession with
      | error cause => rw [deleted] at h; cases h
      | ok after =>
        rw [deleted] at h
        cases h
        refine .discards after (fun other found => ?_) deleted
        rw [stored] at found
        cases found
        exact unread
  · rename_i failed
    cases deleted : db.deleteSession with
    | error cause => rw [deleted] at h; cases h
    | ok after =>
      rw [deleted] at h
      cases h
      refine .discards after (fun other found => ?_) deleted
      rw [failed] at found
      cases found
  · cases h

end Session

structure Visit where
  session : Session
  db : Database

/-- A call, with what it reads from outside: the clock and fresh identifiers. -/
inductive SessionCall where
  | context (now : Nat) (freshId eventId : String) (timestamp : Nat)
  | startNew
  | setBackground (isBackground : Bool) (now : Nat)
  | reopen (timeouts : SessionTimeouts) (freshUser : String) (now : Nat)
  | hide
  | restore

namespace SessionCall

def isContext : SessionCall → Bool
  | .context .. => true
  | _ => false

def isReopen : SessionCall → Bool
  | .reopen .. => true
  | _ => false

end SessionCall

namespace Visit

abbrev Answer := Except TrackerError (Option SelfDescribing)

/-- Make a call. A session that cannot be opened leaves the running one in its place. -/
def take (visit : Visit) : SessionCall → Answer × Visit
  | .context now freshId eventId timestamp =>
    let (answer, session, db) := visit.session.context visit.db now freshId eventId timestamp
    (answer.map some, ⟨session, db⟩)
  | .startNew => (.ok none, { visit with session := visit.session.startNew })
  | .setBackground isBackground now =>
    (.ok none, { visit with session := visit.session.setBackground isBackground now })
  | .reopen timeouts freshUser now =>
    match Session.open timeouts visit.db freshUser now with
    | .ok (session, db) => (.ok none, ⟨session, db⟩)
    | .error cause => (.error (.storage cause), visit)
  | .hide => (.ok none, { visit with db := (visit.db.hide? .sessions).getD visit.db })
  | .restore => (.ok none, { visit with db := (visit.db.restore? .sessions).getD visit.db })

def run (visit : Visit) (calls : List SessionCall) : Visit :=
  calls.foldl (fun visit call => (visit.take call).2) visit

def answers (visit : Visit) : List SessionCall → List Answer
  | [] => []
  | call :: rest => (visit.take call).1 :: (visit.take call).2.answers rest

def IsOpened (visit : Visit) : Prop :=
  ∃ timeouts db freshUser now,
    Session.open timeouts db freshUser now = .ok (visit.session, visit.db)

theorem exists_counts (visit : Visit) (now : Nat) (freshId eventId : String) (timestamp : Nat) :
    ∃ answer session db,
      visit.take (.context now freshId eventId timestamp) = (answer.map some, ⟨session, db⟩) ∧
        visit.session.Counts visit.db now freshId eventId timestamp answer session db :=
  ⟨_, _, _, rfl, visit.session.context_counts visit.db now freshId eventId timestamp⟩

@[simp] theorem run_nil (visit : Visit) : visit.run [] = visit := rfl

@[simp] theorem run_cons (visit : Visit) (call : SessionCall) (rest : List SessionCall) :
    visit.run (call :: rest) = (visit.take call).2.run rest := rfl

theorem run_append (visit : Visit) (calls rest : List SessionCall) :
    visit.run (calls ++ rest) = (visit.run calls).run rest := List.foldl_append

theorem run_concat (visit : Visit) (calls : List SessionCall) (call : SessionCall) :
    visit.run (calls ++ [call]) = ((visit.run calls).take call).2 := visit.run_append calls [call]

theorem answers_append (visit : Visit) (calls rest : List SessionCall) :
    visit.answers (calls ++ rest) = visit.answers calls ++ (visit.run calls).answers rest := by
  induction calls generalizing visit with
  | nil => rfl
  | cons call calls ih => rw [List.cons_append, answers, ih, answers]; rfl

theorem forall_answers_concat {visit : Visit} {calls : List SessionCall} {call : SessionCall}
    {p : Answer → Prop} : (∀ answer ∈ visit.answers (calls ++ [call]), p answer) ↔
      (∀ answer ∈ visit.answers calls, p answer) ∧ p ((visit.run calls).take call).1 := by
  rw [answers_append, answers, answers, List.forall_mem_append, List.forall_mem_singleton]

end Visit

end Telemetry
