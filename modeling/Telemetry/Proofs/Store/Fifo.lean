import Telemetry.Proofs.Session.Visit
import Telemetry.Proofs.Store.Queue

set_option autoImplicit false

/-!
The store as a first-in first-out queue beside one cell. Every run of statements on a fresh store is answered
as a list of payloads and a cell with a record answer it: `run_refines_fifo`.
-/

namespace Telemetry.Store

inductive Statement where
  | add (payload : Payload)
  | batch (limit : Nat)
  | all
  | count
  | delete (ids : List Int)
  | deleteAll
  | getSession
  | setSession (record : SessionRecord)
  | deleteSession
  | reopen

/-- Limits and indices are words, and a statement names no more rows than it may. -/
def Statement.IsLegal : Statement → Prop
  | .batch limit => limit ≤ maxWord
  | .delete ids => ids.length ≤ Database.maxParameters
  | .setSession record => record.index ≤ maxWord
  | _ => True

inductive Reply where
  | done
  | events (found : List EventRow)
  | number (n : Nat)
  | record (found : Option Json)

namespace Database

def changed (db : Database) : Except StorageError Database → Except StorageError Reply × Database
  | .ok after => (.ok .done, after)
  | .error cause => (.error cause, db)

def perform (db : Database) : Statement → Except StorageError Reply × Database
  | .add payload => db.changed (db.add payload)
  | .batch limit => ((db.batch limit).1.map .events, (db.batch limit).2)
  | .all => (db.all.1.map .events, db.all.2)
  | .count => (db.count.map .number, db)
  | .delete ids => db.changed (db.delete ids)
  | .deleteAll => db.changed db.deleteAll
  | .getSession => (db.getSession.map .record, db)
  | .setSession record => db.changed (db.setSession record.json)
  | .deleteSession => db.changed db.deleteSession
  | .reopen => (.ok .done, db.reopen)

def performAll (db : Database) (statements : List Statement) : Database :=
  statements.foldl (fun db statement => (db.perform statement).2) db

def replies (db : Database) : List Statement → List (Except StorageError Reply)
  | [] => []
  | statement :: rest => (db.perform statement).1 :: (db.perform statement).2.replies rest

end Database

/-- Payloads in the order of their arrival, and at most one session record. -/
structure Fifo where
  events : List EventRow
  record : Option SessionRecord

namespace Fifo

def empty : Fifo := ⟨[], none⟩

/-- What a queue and a cell allow a statement to reply, and what they are afterwards. The identifier of a new
payload is any positive 64-bit number above those that are there. -/
inductive Allows (queue : Fifo) : Statement → Reply → Fifo → Prop
  | add (payload : Payload) (id : Int) (above : ∀ event ∈ queue.events, event.id < id)
      (word : 0 < id ∧ id < leastSignedMagnitude) :
      Allows queue (.add payload) .done { queue with events := queue.events ++ [⟨id, payload⟩] }
  | batch (limit : Nat) :
      Allows queue (.batch limit) (.events (queue.events.take (min limit queue.events.length))) queue
  | all : Allows queue .all (.events queue.events) queue
  | count : Allows queue .count (.number queue.events.length) queue
  | delete (ids : List Int) :
      Allows queue (.delete ids) .done
        { queue with events := queue.events.filter fun event => event.id ∉ ids }
  | deleteAll : Allows queue .deleteAll .done { queue with events := [] }
  | getSession : Allows queue .getSession (.record (queue.record.map (·.json))) queue
  | setSession (record : SessionRecord) :
      Allows queue (.setSession record) .done { queue with record := some record }
  | deleteSession : Allows queue .deleteSession .done { queue with record := none }
  | reopen : Allows queue .reopen .done queue

inductive Runs : Fifo → List Statement → List Reply → Fifo → Prop
  | nil (queue : Fifo) : Runs queue [] [] queue
  | cons {queue next last : Fifo} {statement : Statement} {reply : Reply}
      {statements : List Statement} {replies : List Reply}
      (step : Allows queue statement reply next) (rest : Runs next statements replies last) :
      Runs queue (statement :: statements) (reply :: replies) last

end Fifo

def EventRow.row (event : EventRow) : Row := ⟨event.id, .text event.payload.text⟩

theorem EventRow.payload?_row (event : EventRow) : event.row.payload? = some event.payload :=
  event.payload.ofText?_text

theorem readableRows_row (events : List EventRow) : readableRows (events.map (·.row)) = events := by
  induction events with
  | nil => rfl
  | cons event rest ih =>
    rw [readableRows] at ih ⊢
    rw [List.map_cons, List.filterMap_cons, event.payload?_row, ih]
    rfl

theorem Shelf.write?_of_present {α : Type} {shelf : Shelf α} {value : α}
    (h : shelf.present = some value) (change : α → α) :
    shelf.write? change = .ok { shelf with present := some (change value) } := by
  rw [write?, h]

theorem Shelf.ensure_of_present {α : Type} {shelf : Shelf α} {value : α}
    (h : shelf.present = some value) (other : α) : shelf.ensure other = shelf := by
  rw [ensure, h, Option.getD_some, ← h]

namespace Database

theorem readRows_row {db : Database} {table : Table} {events : List EventRow} (limit : Option Nat)
    (fuel : Nat) (present : db.events.present = some table)
    (rows : oldest limit table.rows = events.map (·.row)) :
    readRows limit (fuel + 1) db = (.ok events, db) := by
  rw [← rows_of_present present] at rows
  rw [readRows_readable fuel (isOpen_iff.2 ⟨table, present⟩), rows, readableRows_row]
  intro row hrow
  obtain ⟨event, -, rfl⟩ := List.mem_map.1 (rows ▸ hrow)
  rw [event.payload?_row]
  rfl

/-- A database that holds the payloads of a queue, in their order, and the record of its cell. -/
structure Represents (db : Database) (queue : Fifo) : Prop where
  events : ∃ table, db.events.present = some table ∧ table.rows = queue.events.map (·.row)
  session : db.session.present = some (queue.record.map fun record => .text record.json.text)
  index : ∀ record ∈ queue.record, record.index ≤ maxWord

end Database

structure Fifo.Within (queue : Fifo) (n : Nat) : Prop where
  length : queue.events.length ≤ n
  ids : ∀ event ∈ queue.events, 0 < event.id ∧ event.id ≤ n

theorem Fifo.Within.mono {queue : Fifo} {n m : Nat} (h : queue.Within n) (le : n ≤ m) :
    queue.Within m := by
  refine ⟨Nat.le_trans h.length le, fun event hevent => ?_⟩
  have ids := h.ids event hevent
  omega

theorem Fifo.Within.subset {queue after : Fifo} {n : Nat} (h : queue.Within n)
    (sub : after.events.Sublist queue.events) : after.Within n :=
  ⟨Nat.le_trans sub.length_le h.length, fun event hevent => h.ids event (sub.subset hevent)⟩

theorem idAfter_row_le {queue : Fifo} {n : Nat} (h : queue.Within n) :
    0 < Table.idAfter (queue.events.map (·.row)) ∧
      Table.idAfter (queue.events.map (·.row)) ≤ n + 1 := by
  unfold Table.idAfter
  split
  · omega
  · rename_i row last
    obtain ⟨event, hevent, rfl⟩ := List.mem_map.1 (List.mem_of_getLast? last)
    have ids := h.ids event hevent
    simp only [EventRow.row]
    omega

namespace Database

variable {db : Database} {queue : Fifo} {n : Nat}

theorem represents_empty : empty.Represents .empty :=
  ⟨⟨Table.empty, rfl, rfl⟩, rfl, nofun⟩

theorem Represents.add (h : db.Represents queue) (within : queue.Within n)
    (few : n + 1 < leastSignedMagnitude) (payload : Payload) :
    ∃ after next, db.add payload = .ok after ∧ queue.Allows (.add payload) .done next ∧
      after.Represents next ∧ next.Within (n + 1) := by
  obtain ⟨table, present, rows⟩ := h.events
  have id := idAfter_row_le within
  have above : ∀ event ∈ queue.events, event.id < Table.idAfter (queue.events.map (·.row)) := by
    intro event hevent
    exact Table.lt_idAfter (rows ▸ table.ascending) (List.mem_map_of_mem (f := (·.row)) hevent)
  have added : db.add payload = .ok (db.queued (table.push (.text payload.text))) := by
    rw [Database.add, Shelf.write?_of_present present]
    rfl
  refine ⟨_, _, added, .add payload _ above ⟨id.1, by omega⟩,
    ⟨⟨_, rfl, ?_⟩, h.session, h.index⟩, ?_, ?_⟩
  · simp [Table.push, Table.nextId, rows, EventRow.row]
  · simpa using within.length
  · intro event hevent
    rcases List.mem_append.1 hevent with old | new
    · have ids := within.ids event old
      omega
    · cases List.mem_singleton.1 new
      exact ⟨id.1, by simpa using id.2⟩

theorem Represents.delete (h : db.Represents queue) {ids : List Int}
    (few : ids.length ≤ maxParameters) :
    ∃ after, db.delete ids = .ok after ∧ after.Represents
      { queue with events := queue.events.filter fun event => event.id ∉ ids } := by
  obtain ⟨table, present, rows⟩ := h.events
  unfold Database.delete
  split_ifs with none many
  · refine ⟨db, rfl, ⟨table, present, ?_⟩, h.session, h.index⟩
    simp [rows, List.isEmpty_iff.1 none]
  · exact absurd few (Nat.not_le_of_lt many)
  · rw [Shelf.write?_of_present present]
    refine ⟨db.queued (table.remove ids), rfl, ⟨_, rfl, ?_⟩, h.session, h.index⟩
    simp only [Table.remove, Table.filter, rows, List.filter_map]
    congr 1
    refine List.filter_congr fun event _ => ?_
    simp [EventRow.row]

theorem Represents.batch (h : db.Represents queue) (within : queue.Within n)
    (few : n < leastSignedMagnitude) {limit : Nat} (word : limit ≤ maxWord) :
    db.batch limit = (.ok (queue.events.take (min limit queue.events.length)), db) := by
  obtain ⟨table, present, rows⟩ := h.events
  refine readRows_row _ _ present ?_
  rw [rowLimit_eq word, ← List.take_eq_take_min]
  split_ifs with small
  · rw [oldest, rows, List.map_take]
  · rw [oldest, rows, List.take_of_length_le]
    have length := within.length
    omega

theorem Represents.getSession (h : db.Represents queue) :
    db.getSession = .ok (queue.record.map (·.json)) := by
  rw [Database.getSession, h.session]
  cases record : queue.record with
  | none => rfl
  | some record' =>
    have read := SessionRecord.ofText?_json (h.index record' record)
    simp only [Option.map_some, read]

/-- One statement: what a queue that is represented allows is what is replied. -/
theorem Represents.perform (h : db.Represents queue) (within : queue.Within n)
    (few : n + 1 < leastSignedMagnitude) {statement : Statement} (legal : statement.IsLegal) :
    ∃ reply next, queue.Allows statement reply next ∧ (db.perform statement).1 = .ok reply ∧
      (db.perform statement).2.Represents next ∧ next.Within (n + 1) := by
  obtain ⟨table, present, rows⟩ := h.events
  have later := within.mono (Nat.le_succ n)
  cases statement with
  | add payload =>
    obtain ⟨after, next, added, allows, represents, within⟩ := h.add within few payload
    exact ⟨.done, next, allows, by simp [Database.perform, added, changed],
      by simpa [Database.perform, added, changed] using represents, within⟩
  | batch limit =>
    have read := h.batch within (Nat.lt_of_succ_lt few) legal
    exact ⟨_, queue, .batch limit, by simp [Database.perform, read, Except.map],
      by simpa [Database.perform, read] using h, later⟩
  | all =>
    have read : readRows none (db.rows.length + 1) db = (.ok queue.events, db) :=
      readRows_row none _ present rows
    exact ⟨_, queue, .all, by simp [Database.perform, Database.all, read, Except.map],
      by simpa [Database.perform, Database.all, read] using h, later⟩
  | count =>
    refine ⟨_, queue, .count, ?_, h, later⟩
    simp [Database.perform, Database.count, present, Table.size, rows, Except.map]
  | delete ids =>
    obtain ⟨after, deleted, represents⟩ := h.delete legal
    exact ⟨.done, _, .delete ids, by simp [Database.perform, deleted, changed],
      by simpa [Database.perform, deleted, changed] using represents,
      later.subset List.filter_sublist⟩
  | deleteAll =>
    have deleted : db.deleteAll = .ok (db.queued Table.empty) := by
      rw [Database.deleteAll, Shelf.write?_of_present present]
      rfl
    exact ⟨.done, _, .deleteAll, by simp [Database.perform, deleted, changed],
      by simpa [Database.perform, deleted, changed] using ⟨⟨_, rfl, rfl⟩, h.session, h.index⟩,
      later.subset (List.nil_sublist _)⟩
  | getSession =>
    refine ⟨_, queue, .getSession, ?_, h, later⟩
    simp [Database.perform, h.getSession, Except.map]
  | setSession record =>
    have written := setSession_of_present (by rw [h.session]; rfl) record.json
    refine ⟨.done, _, .setSession record, by simp [Database.perform, written, changed], ?_,
      later.subset (List.Sublist.refl _)⟩
    simpa [Database.perform, written, changed] using
      ⟨⟨table, present, rows⟩, rfl, fun _ same => Option.some.inj same ▸ legal⟩
  | deleteSession =>
    have deleted : db.deleteSession =
        .ok { db with session := { db.session with present := some none } } := by
      rw [Database.deleteSession, Shelf.write?_of_present h.session]
      rfl
    refine ⟨.done, _, .deleteSession, by simp [Database.perform, deleted, changed], ?_,
      later.subset (List.Sublist.refl _)⟩
    simpa [Database.perform, deleted, changed] using
      ⟨⟨table, present, rows⟩, rfl, fun record found => absurd found (Option.not_mem_none record)⟩
  | reopen =>
    have same : db.reopen = db := by
      rw [Database.reopen, Shelf.ensure_of_present present, Shelf.ensure_of_present h.session]
    exact ⟨.done, queue, .reopen, rfl, by simpa [Database.perform, same] using h, later⟩

theorem Represents.run (h : db.Represents queue) (within : queue.Within n)
    {statements : List Statement} (few : n + statements.length < leastSignedMagnitude)
    (legal : ∀ statement ∈ statements, statement.IsLegal) :
    ∃ replies last, queue.Runs statements replies last ∧ db.replies statements = replies.map .ok ∧
      (db.performAll statements).Represents last := by
  induction statements generalizing db queue n with
  | nil => exact ⟨[], queue, .nil queue, rfl, h⟩
  | cons statement rest ih =>
    rw [List.length_cons] at few
    obtain ⟨reply, next, allows, replied, represents, within⟩ :=
      h.perform within (by omega) (legal statement List.mem_cons_self)
    obtain ⟨replies, last, runs, told, represents⟩ := ih represents within (by omega)
      fun other hother => legal other (List.mem_cons_of_mem _ hother)
    refine ⟨reply :: replies, last, .cons allows runs, ?_, represents⟩
    rw [Database.replies, replied, told]
    rfl

/-- A fresh store is answered for by an empty queue and an empty cell, whatever the statements are. -/
theorem run_refines_fifo {statements : List Statement}
    (few : statements.length < leastSignedMagnitude)
    (legal : ∀ statement ∈ statements, statement.IsLegal) :
    ∃ replies last, Fifo.empty.Runs statements replies last ∧
      empty.replies statements = replies.map .ok ∧ (empty.performAll statements).Represents last :=
  represents_empty.run (n := 0) ⟨Nat.le_refl 0, nofun⟩ (by omega) legal

def mixedStatements : List Statement :=
  [.add (.ofPairs [("e", "pv"), ("ключ", "\"\\\u0001\n😀")]), .add (.ofPairs [("e", "se")]),
    .batch 18446744073709551615, .delete [2, 7, -3, 2], .add (.ofPairs [("e", "ue")]),
    .setSession ⟨"u", "s", 18446744073709551615, none, some "a", "t"⟩, .reopen, .getSession, .batch 1,
    .count]

theorem run_refines_fifo_mixed : mixedStatements.length < leastSignedMagnitude ∧
    (∀ statement ∈ mixedStatements, statement.IsLegal) ∧
    (∃ replies last, Fifo.empty.Runs mixedStatements replies last ∧
      empty.replies mixedStatements = replies.map .ok ∧
        (empty.performAll mixedStatements).Represents last) ∧
    (empty.performAll mixedStatements).rows.map (·.id) = [1, 2] := by
  have few : mixedStatements.length < leastSignedMagnitude := by decide
  have legal : ∀ statement ∈ mixedStatements, statement.IsLegal := by
    simp [mixedStatements, Statement.IsLegal, maxWord, maxParameters]
  exact ⟨few, legal, run_refines_fifo few legal, by decide +kernel⟩

end Database

end Telemetry.Store
