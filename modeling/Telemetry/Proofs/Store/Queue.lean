import Mathlib.Data.List.Nodup
import Telemetry.Proofs.PayloadText
import Telemetry.Store.Database

set_option autoImplicit false

namespace Telemetry.Store

theorem ids_nodup {rows : List Row} (h : Ascending rows) : (rows.map (·.id)).Nodup := by
  refine List.pairwise_map.2 (h.imp ?_)
  intro a b hlt
  exact Int.ne_of_lt hlt

theorem eq_of_id_eq {rows : List Row} (h : Ascending rows) {a b : Row} (ha : a ∈ rows)
    (hb : b ∈ rows) (hid : a.id = b.id) : a = b :=
  List.inj_on_of_nodup_map (ids_nodup h) ha hb hid

theorem EventRow.eq_mk {event : EventRow} {id : Int} {payload : Payload} (hid : event.id = id)
    (hpayload : event.payload = payload) : event = ⟨id, payload⟩ := by
  cases hid
  cases hpayload
  rfl

theorem mem_readableRows {rows : List Row} {found : EventRow} :
    found ∈ readableRows rows ↔
      ∃ row ∈ rows, row.id = found.id ∧ row.payload? = some found.payload := by
  simp only [readableRows, List.mem_filterMap, Option.map_eq_some_iff]
  constructor
  · rintro ⟨row, hrow, payload, hpayload, rfl⟩
    exact ⟨row, hrow, rfl, hpayload⟩
  · rintro ⟨row, hrow, hid, hpayload⟩
    exact ⟨row, hrow, found.payload, hpayload, by rw [hid]⟩

theorem readableRows_ids_sublist (rows : List Row) :
    ((readableRows rows).map (·.id)).Sublist (rows.map (·.id)) := by
  induction rows with
  | nil => exact .refl _
  | cons row rest ih =>
    cases h : row.payload? with
    | none => simpa [readableRows, h] using ih.cons row.id
    | some payload => simpa [readableRows, h] using ih

theorem readableRows_length_le (rows : List Row) : (readableRows rows).length ≤ rows.length :=
  List.length_filterMap_le _ _

theorem isBlob_of_payload? {row : Row} (h : row.payload?.isSome) : row.isBlob = false := by
  unfold Row.payload? at h
  unfold Row.isBlob
  split at h
  · simp [*]
  · cases h

theorem readableRows_ids {rows : List Row} (h : ∀ row ∈ rows, row.payload?.isSome) :
    (readableRows rows).map (·.id) = rows.map (·.id) := by
  induction rows with
  | nil => rfl
  | cons row rest ih =>
    obtain ⟨payload, hpayload⟩ := Option.isSome_iff_exists.1 (h row List.mem_cons_self)
    have tail := ih fun other hother => h other (List.mem_cons_of_mem _ hother)
    simpa [readableRows, hpayload] using tail

theorem readableRows_length {rows : List Row} (h : ∀ row ∈ rows, row.payload?.isSome) :
    (readableRows rows).length = rows.length := by
  simpa using congrArg List.length (readableRows_ids h)

theorem readableRows_filter (rows : List Row) (keep : Int → Bool) :
    readableRows (rows.filter fun row => keep row.id) =
      (readableRows rows).filter fun event => keep event.id := by
  induction rows with
  | nil => rfl
  | cons row rest ih =>
    unfold readableRows at ih ⊢
    cases payload : row.payload? <;> cases kept : keep row.id <;>
      simp [payload, kept, ih]

theorem mem_unreadableIds {rows : List Row} {id : Int} :
    id ∈ unreadableIds rows ↔ ∃ row ∈ rows, row.id = id ∧ row.payload? = none := by
  simp only [unreadableIds, List.mem_map, List.mem_filter, Option.isNone_iff_eq_none]
  constructor
  · rintro ⟨row, ⟨hrow, hnone⟩, hid⟩
    exact ⟨row, hrow, hid, hnone⟩
  · rintro ⟨row, hrow, hid, hnone⟩
    exact ⟨row, ⟨hrow, hnone⟩, hid⟩

theorem unreadableIds_length_le (rows : List Row) : (unreadableIds rows).length ≤ rows.length := by
  rw [unreadableIds, List.length_map]
  exact List.length_filter_le _ _

namespace Database

theorem rows_of_present {db : Database} {table : Table} (h : db.events.present = some table) :
    db.rows = table.rows := by
  rw [rows, h]
  rfl

theorem rows_of_events {a b : Database} (h : a.events = b.events) : a.rows = b.rows := by
  rw [rows, rows, h]

theorem rows_ascending (db : Database) : Ascending db.rows := by
  cases h : db.events.present with
  | none =>
    have none : db.rows = [] := by rw [rows, h]; rfl
    rw [none]
    exact List.Pairwise.nil
  | some table => exact rows_of_present h ▸ table.ascending

def isOpen (db : Database) : Bool := db.events.present.isSome

theorem isOpen_iff {db : Database} : db.isOpen ↔ ∃ table, db.events.present = some table :=
  Option.isSome_iff_exists

/-- Two databases that differ in the rows of the queue at most. -/
def SameElse (before after : Database) : Prop :=
  after.session = before.session ∧ after.events.aside = before.events.aside ∧
    after.isOpen = before.isOpen

theorem SameElse.refl (db : Database) : SameElse db db := ⟨rfl, rfl, rfl⟩

theorem SameElse.trans {a b c : Database} (hab : SameElse a b) (hbc : SameElse b c) :
    SameElse a c :=
  ⟨hbc.1.trans hab.1, hbc.2.1.trans hab.2.1, hbc.2.2.trans hab.2.2⟩

def queued (db : Database) (table : Table) : Database :=
  { db with events := { db.events with present := some table } }

theorem SameElse.eq_queued {db after : Database} (same : SameElse db after) (opened : after.isOpen)
    (none : after.rows = []) : after = db.queued Table.empty := by
  obtain ⟨⟨present, aside⟩, session⟩ := after
  obtain ⟨rfl, rfl, -⟩ := same
  obtain ⟨table, rfl⟩ := isOpen_iff.1 opened
  obtain ⟨rows, ascending⟩ := table
  cases none
  rfl

def nextRow (db : Database) (payload : Payload) : Row :=
  ⟨Table.idAfter db.rows, .text payload.text⟩

theorem nextRow_payload? (db : Database) (payload : Payload) :
    (db.nextRow payload).payload? = some payload :=
  payload.ofText?_text

theorem lt_nextRow (db : Database) (payload : Payload) {row : Row} (h : row ∈ db.rows) :
    row.id < (db.nextRow payload).id :=
  Table.lt_idAfter db.rows_ascending h

theorem add_spec {db : Database} (payload : Payload) (h : db.isOpen) :
    ∃ after, db.add payload = .ok after ∧ SameElse db after ∧
      after.rows = db.rows ++ [db.nextRow payload] := by
  obtain ⟨table, present⟩ := isOpen_iff.1 h
  let after : Database := { db with events :=
    { db.events with present := some (table.push (.text payload.text)) } }
  refine ⟨after, by rw [add, Shelf.write?, present]; rfl, ⟨rfl, rfl, by simp [isOpen, present, after]⟩, ?_⟩
  rw [nextRow, rows_of_present present]
  rfl

theorem add_rows {db after : Database} {payload : Payload} (h : db.add payload = .ok after) :
    db.isOpen ∧ SameElse db after ∧ after.rows = db.rows ++ [db.nextRow payload] := by
  cases opened : db.isOpen with
  | false =>
    have missing : db.events.present = none := by simpa [isOpen] using opened
    rw [add, Shelf.write?, missing] at h
    cases h
  | true =>
    obtain ⟨other, added, same, rows⟩ := add_spec payload opened
    cases added.symm.trans h
    exact ⟨rfl, same, rows⟩

theorem delete_rows {db after : Database} {ids : List Int} (h : db.delete ids = .ok after) :
    SameElse db after ∧ after.rows = db.rows.filter fun row => !ids.contains row.id := by
  unfold delete at h
  split_ifs at h with none many
  · cases h
    have all : db.rows.filter (fun row => !ids.contains row.id) = db.rows := by
      simp [List.isEmpty_iff.1 none]
    exact ⟨.refl db, all.symm⟩
  · cases present : db.events.present with
    | none => rw [Shelf.write?, present] at h; cases h
    | some table =>
      rw [Shelf.write?, present] at h
      cases h
      refine ⟨⟨rfl, rfl, by simp [isOpen, present]⟩, ?_⟩
      rw [rows_of_present present]
      rfl

theorem delete_spec {db : Database} {ids : List Int} (hopen : db.isOpen)
    (hlen : ids.length ≤ maxParameters) : ∃ after, db.delete ids = .ok after := by
  obtain ⟨table, present⟩ := isOpen_iff.1 hopen
  unfold delete
  split_ifs with none many
  · exact ⟨db, rfl⟩
  · exact absurd hlen (by omega)
  · exact ⟨_, by rw [Shelf.write?, present]; rfl⟩

theorem length_delete {db after : Database} {ids : List Int} (h : db.delete ids = .ok after)
    (nodup : ids.Nodup) (stored : ∀ id ∈ ids, ∃ row ∈ db.rows, row.id = id) :
    after.rows.length + ids.length = db.rows.length := by
  have named : ((db.rows.filter fun row => ids.contains row.id).map (·.id)).Perm ids := by
    refine (List.perm_ext_iff_of_nodup ?_ nodup).2 fun id => ?_
    · exact (List.filter_sublist.map _).nodup (ids_nodup db.rows_ascending)
    · simp only [List.mem_map, List.mem_filter, List.contains_iff_mem]
      constructor
      · rintro ⟨row, ⟨-, hid⟩, rfl⟩
        exact hid
      · intro hid
        obtain ⟨row, hrow, rfl⟩ := stored id hid
        exact ⟨row, ⟨hrow, hid⟩, rfl⟩
  have length := named.length_eq
  rw [List.length_map] at length
  have split := List.length_eq_length_filter_add (l := db.rows) fun row => ids.contains row.id
  rw [(delete_rows h).2]
  omega

structure Trims (before after : Database) : Prop where
  same : SameElse before after
  sublist : after.rows.Sublist before.rows
  keeps : ∀ row ∈ before.rows, row.payload?.isSome → row ∈ after.rows

theorem Trims.refl (db : Database) : Trims db db := ⟨.refl db, .refl _, fun _ h _ => h⟩

theorem Trims.trans {a b c : Database} (hab : Trims a b) (hbc : Trims b c) : Trims a c where
  same := hab.same.trans hbc.same
  sublist := hbc.sublist.trans hab.sublist
  keeps row hrow hsome := hbc.keeps row (hab.keeps row hrow hsome) hsome

theorem eq_nil_of_nothing {rows : List Row} (hread : readableRows rows = [])
    (hunread : unreadableIds rows = []) : rows = [] := by
  rcases rows with _ | ⟨row, rest⟩
  · rfl
  · cases h : row.payload? <;> simp [readableRows, unreadableIds, h] at hread hunread

theorem oldest_initial (limit : Option Nat) (rows : List Row) : oldest limit rows <+: rows := by
  cases limit with
  | none => exact List.prefix_rfl
  | some n => exact List.take_prefix n rows

theorem readable_initial (limit : Option Nat) (rows : List Row) :
    readableRows (oldest limit rows) <+: readableRows rows :=
  (oldest_initial limit rows).filterMap _

theorem oldest_eq_nil {limit : Option Nat} {rows : List Row} (hlimit : limit ≠ some 0)
    (h : oldest limit rows = []) : rows = [] := by
  cases limit with
  | none => exact h
  | some n =>
    rcases List.take_eq_nil_iff.1 h with rfl | h
    · exact absurd rfl hlimit
    · exact h

theorem trims_of_delete {db after : Database} {batch : List Row} (hbatch : batch ⊆ db.rows)
    (h : db.delete (unreadableIds batch) = .ok after) : Trims db after := by
  obtain ⟨same, rows⟩ := delete_rows h
  refine ⟨same, rows ▸ List.filter_sublist, fun row hrow hsome => ?_⟩
  rw [rows, List.mem_filter]
  refine ⟨hrow, ?_⟩
  by_contra hlisted
  obtain ⟨bad, hbad, hid, hnone⟩ := mem_unreadableIds.1 (by simpa using hlisted)
  rw [eq_of_id_eq db.rows_ascending (hbatch hbad) hrow hid] at hnone
  rw [hnone] at hsome
  cases hsome

/-- What one pass of a read comes to: it fails, it answers, or it has dropped some rows and starts again. -/
theorem readRows_cases (limit : Option Nat) (fuel : Nat) (db : Database) :
    ((∃ cause, readRows limit (fuel + 1) db = (.error cause, db)) ∧
      (db.isOpen → (∃ row ∈ oldest limit db.rows, row.isBlob) ∨
        maxParameters < (oldest limit db.rows).length)) ∨
    (∃ after, Trims db after ∧
      (readableRows (oldest limit db.rows) = [] → oldest limit db.rows = [] ∧ after.rows = db.rows) ∧
      readRows limit (fuel + 1) db = (.ok (readableRows (oldest limit db.rows)), after)) ∨
    (∃ after, Trims db after ∧ after.rows.length < db.rows.length ∧
      readRows limit (fuel + 1) db = readRows limit fuel after) := by
  cases present : db.events.present with
  | none => exact .inl ⟨⟨.database, by rw [readRows, present]⟩, by simp [isOpen, present]⟩
  | some table =>
    have inside : oldest limit table.rows ⊆ db.rows :=
      rows_of_present present ▸ (oldest_initial limit table.rows).subset
    rw [rows_of_present present, readRows, present]
    dsimp only
    by_cases blobs : (oldest limit table.rows).any (·.isBlob)
    · exact .inl ⟨⟨.database, by rw [if_pos blobs]⟩, fun _ => .inl (List.any_eq_true.1 blobs)⟩
    rw [if_neg blobs]
    cases deleted : db.delete (unreadableIds (oldest limit table.rows)) with
    | error cause =>
      refine .inl ⟨⟨cause, rfl⟩, fun opened => .inr ?_⟩
      by_contra few
      have ids := unreadableIds_length_le (oldest limit table.rows)
      obtain ⟨after, done⟩ := delete_spec opened (Nat.le_trans ids (Nat.le_of_not_lt few))
      cases deleted.symm.trans done
    | ok after =>
      have trims := trims_of_delete inside deleted
      have rows := (delete_rows deleted).2
      dsimp only
      by_cases answers : !(readableRows (oldest limit table.rows)).isEmpty ||
          (unreadableIds (oldest limit table.rows)).isEmpty
      · refine .inr (.inl ⟨after, trims, fun none => ?_, by rw [if_pos answers]⟩)
        have ids : unreadableIds (oldest limit table.rows) = [] := by simpa [none] using answers
        refine ⟨eq_nil_of_nothing none ids, ?_⟩
        rw [rows, ids, ← rows_of_present present]
        simp
      · refine .inr (.inr ⟨after, trims, ?_, by rw [if_neg answers]⟩)
        obtain ⟨id, hid⟩ := List.exists_mem_of_ne_nil (unreadableIds (oldest limit table.rows))
          fun ids => answers (by simp [ids])
        obtain ⟨row, hrow, rfl, -⟩ := mem_unreadableIds.1 hid
        rw [← rows_of_present present, rows]
        exact List.length_filter_lt_length_iff_exists.2 ⟨row, inside hrow, by simpa using hid⟩

theorem readRows_trims (limit : Option Nat) (fuel : Nat) (db : Database) :
    Trims db (readRows limit fuel db).2 := by
  induction fuel generalizing db with
  | zero => exact .refl db
  | succ fuel ih =>
    obtain ⟨⟨cause, read⟩, -⟩ | ⟨after, trims, -, read⟩ | ⟨after, trims, -, read⟩ :=
      readRows_cases limit fuel db
    · exact read ▸ .refl db
    · exact read ▸ trims
    · exact read ▸ trims.trans (ih after)

structure Answered (limit : Option Nat) (db : Database) (found : List EventRow) : Prop where
  stored : ∀ event ∈ found, ∃ row ∈ db.rows, row.id = event.id ∧ row.payload? = some event.payload
  nodup : (found.map (·.id)).Nodup
  length_le : ∀ n, limit = some n → found.length ≤ n

theorem answered_oldest {limit : Option Nat} {db after : Database} (trims : Trims db after) :
    Answered limit after (readableRows (oldest limit db.rows)) where
  stored event hevent := by
    obtain ⟨row, hrow, hid, hpayload⟩ := mem_readableRows.1 hevent
    have hrow := (oldest_initial limit db.rows).subset hrow
    exact ⟨row, trims.keeps row hrow (by rw [hpayload]; rfl), hid, hpayload⟩
  nodup :=
    have sub := (oldest_initial limit db.rows).sublist.map (·.id)
    ((readableRows_ids_sublist _).trans sub).nodup (ids_nodup db.rows_ascending)
  length_le n hn := by
    subst hn
    exact Nat.le_trans (readableRows_length_le _) (List.length_take_le n db.rows)

theorem readRows_answered {limit : Option Nat} {fuel : Nat} {db : Database}
    {found : List EventRow} (h : (readRows limit fuel db).1 = .ok found) :
    Answered limit (readRows limit fuel db).2 found := by
  induction fuel generalizing db with
  | zero =>
    cases h
    exact ⟨by simp, by simp, by simp⟩
  | succ fuel ih =>
    obtain ⟨⟨cause, read⟩, -⟩ | ⟨after, trims, -, read⟩ | ⟨after, -, -, read⟩ :=
      readRows_cases limit fuel db
    · rw [read] at h
      cases h
    · rw [read] at h ⊢
      cases h
      exact answered_oldest trims
    · rw [read] at h ⊢
      exact ih h

theorem readRows_empty {limit : Option Nat} (hlimit : limit ≠ some 0) {fuel : Nat} {db : Database}
    (hfuel : db.rows.length < fuel) (h : (readRows limit fuel db).1 = .ok []) :
    (readRows limit fuel db).2.rows = [] := by
  induction fuel generalizing db with
  | zero => exact absurd hfuel (Nat.not_lt_zero _)
  | succ fuel ih =>
    obtain ⟨⟨cause, read⟩, -⟩ | ⟨after, -, nothing, read⟩ | ⟨after, -, fewer, read⟩ :=
      readRows_cases limit fuel db
    · rw [read] at h
      cases h
    · rw [read] at h ⊢
      have none := nothing (Except.ok.inj h)
      exact none.2.trans (oldest_eq_nil hlimit none.1)
    · rw [read] at h ⊢
      exact ih (by omega) h

/-- Text can always be read, as far as a statement can name all rows that it reads. -/
theorem readRows_ok {limit : Option Nat} (fuel : Nat) {db : Database} (hopen : db.isOpen)
    (htext : ∀ row ∈ db.rows, row.isBlob = false)
    (few : (∃ n ≤ maxParameters, limit = some n) ∨ db.rows.length ≤ maxParameters) :
    ∃ found, (readRows limit fuel db).1 = .ok found := by
  induction fuel generalizing db with
  | zero => exact ⟨[], rfl⟩
  | succ fuel ih =>
    obtain ⟨-, why⟩ | ⟨after, -, -, read⟩ | ⟨after, trims, -, read⟩ := readRows_cases limit fuel db
    · rcases why hopen with ⟨row, hrow, blob⟩ | many
      · rw [htext row ((oldest_initial _ _).subset hrow)] at blob
        cases blob
      · refine absurd many (Nat.not_lt_of_le ?_)
        obtain ⟨n, hn, rfl⟩ | short := few
        · exact Nat.le_trans (List.length_take_le n db.rows) hn
        · exact Nat.le_trans (oldest_initial limit db.rows).length_le short
    · exact ⟨_, by rw [read]⟩
    · rw [read]
      exact ih (trims.same.2.2.trans hopen) (fun row hrow => htext row (trims.sublist.subset hrow))
        (few.imp_right (Nat.le_trans trims.sublist.length_le))

theorem readRows_readable {limit : Option Nat} (fuel : Nat) {db : Database} (hopen : db.isOpen)
    (readable : ∀ row ∈ oldest limit db.rows, row.payload?.isSome) :
    readRows limit (fuel + 1) db = (.ok (readableRows (oldest limit db.rows)), db) := by
  obtain ⟨table, present⟩ := isOpen_iff.1 hopen
  have text : (oldest limit db.rows).any (·.isBlob) = false :=
    List.any_eq_false.2 fun row hrow => by simp [isBlob_of_payload? (readable row hrow)]
  have unreadable : unreadableIds (oldest limit db.rows) = [] := by
    rw [unreadableIds, List.map_eq_nil_iff, List.filter_eq_nil_iff]
    intro row hrow none
    rw [Option.isNone_iff_eq_none] at none
    exact absurd (readable row hrow) (by simp [none])
  rw [rows_of_present present] at text unreadable ⊢
  rw [readRows, present]
  simp only [text, unreadable, delete, List.isEmpty_nil, if_true, Bool.or_true, Bool.false_eq_true,
    if_false]

theorem rowLimit_eq {limit : Nat} (h : limit ≤ maxWord) :
    rowLimit limit = if limit < leastSignedMagnitude then some limit else none := by
  unfold maxWord at h
  unfold rowLimit signedWord maxWord leastSignedMagnitude
  split_ifs with small
  · rw [Int.bmod_eq_of_le (by omega) (by omega)]
    simp
  · have negative : Int.bmod (limit : Int) (18446744073709551615 + 1) < 0 := by
      rw [Int.bmod_def]
      split_ifs <;> omega
    simp [negative]

theorem lt_oldest_length {n limit : Nat} {rows : List Row} (word : limit ≤ maxWord)
    (below : n < limit) (few : n < rows.length) : n < (oldest (rowLimit limit) rows).length := by
  rw [rowLimit_eq word]
  split_ifs
  · rw [oldest, List.length_take]
    omega
  · exact few

theorem rowLimit_small {n : Nat} (h : n ≤ maxParameters) : rowLimit n = some n := by
  unfold maxParameters at h
  rw [rowLimit_eq (by unfold maxWord; omega), if_pos (by unfold leastSignedMagnitude; omega)]

theorem rowLimit_ne_zero {n : Nat} (hpos : 0 < n) (hmax : n ≤ maxWord) : rowLimit n ≠ some 0 := by
  unfold maxWord at hmax
  intro zero
  simp only [rowLimit] at zero
  split_ifs at zero with negative
  have word : signedWord n = 0 := by
    have := Option.some.inj zero
    omega
  obtain ⟨k, hk⟩ := Int.dvd_of_bmod_eq_zero word
  have step : (n : Int) = 18446744073709551616 * k := hk
  omega

theorem batch_trims (db : Database) (limit : Nat) : Trims db (db.batch limit).2 :=
  readRows_trims _ _ db

theorem batch_answered {db after : Database} {limit : Nat} {found : List EventRow}
    (h : db.batch limit = (.ok found, after)) : Answered (rowLimit limit) after found := by
  unfold batch at h
  have read := readRows_answered (congrArg Prod.fst h)
  rw [h] at read
  exact read

theorem batch_empty {db after : Database} {limit : Nat} (hpos : 0 < limit) (hmax : limit ≤ maxWord)
    (h : db.batch limit = (.ok [], after)) : after.rows = [] := by
  unfold batch at h
  have read := readRows_empty (rowLimit_ne_zero hpos hmax) (Nat.lt_succ_self _) (congrArg Prod.fst h)
  rw [h] at read
  exact read

theorem batch_ok {db : Database} {limit : Nat}
    (few : limit ≤ maxParameters ∨ db.rows.length ≤ maxParameters) (hopen : db.isOpen)
    (htext : ∀ row ∈ db.rows, row.isBlob = false) :
    ∃ found, (db.batch limit).1 = .ok found :=
  readRows_ok _ hopen htext (few.imp_left fun small => ⟨limit, small, rowLimit_small small⟩)

theorem batch_readable {db : Database} (limit : Nat) (hopen : db.isOpen)
    (readable : ∀ row ∈ db.rows, row.payload?.isSome) :
    db.batch limit = (.ok (readableRows (oldest (rowLimit limit) db.rows)), db) :=
  readRows_readable _ hopen fun row hrow => readable row ((oldest_initial _ _).subset hrow)

/-- The rows of the queue, also while its table is renamed away. -/
def keptRows (db : Database) : List Row :=
  match db.events.present with
  | some table => table.rows
  | none => (db.events.aside.map (·.rows)).getD []

theorem keptRows_of_isOpen {db : Database} (h : db.isOpen) : db.keptRows = db.rows := by
  obtain ⟨table, present⟩ := isOpen_iff.1 h
  rw [keptRows, rows, present]
  rfl

theorem isOpen_of_mem_rows {db : Database} {row : Row} (h : row ∈ db.rows) : db.isOpen := by
  cases present : db.events.present with
  | none => simp [rows, present] at h
  | some table => exact isOpen_iff.2 ⟨table, present⟩

/-- A statement that leaves the queue alone while it is out of reach changes what is kept as it changes what
is there. -/
theorem keptRows_of_sameElse {a b : Database} (same : SameElse a b) :
    b.keptRows = if a.isOpen then b.rows else a.keptRows := by
  split_ifs with opened
  · exact keptRows_of_isOpen (same.2.2.trans opened)
  · have missing : a.events.present = none := by simpa [isOpen] using opened
    have opened' : ¬b.isOpen := same.2.2 ▸ opened
    have missing' : b.events.present = none := by simpa [isOpen] using opened'
    rw [keptRows, keptRows, missing, missing', same.2.1]

theorem keptRows_add {db after : Database} {payload : Payload} (h : db.add payload = .ok after) :
    after.keptRows = db.keptRows ++ [db.nextRow payload] := by
  obtain ⟨opened, same, rows⟩ := add_rows h
  rw [keptRows_of_isOpen (same.2.2.trans opened), keptRows_of_isOpen opened, rows]

theorem keptRows_of_batch_empty {db after : Database} {limit : Nat} (hpos : 0 < limit)
    (hmax : limit ≤ maxWord) (h : db.batch limit = (.ok [], after)) : after.keptRows = [] := by
  have same := (db.batch_trims limit).same
  rw [h] at same
  cases opened : db.isOpen with
  | false =>
    have missing : db.events.present = none := by simpa [isOpen] using opened
    rw [batch, readRows, missing] at h
    cases h
  | true => rw [keptRows_of_sameElse same, if_pos opened, batch_empty hpos hmax h]

theorem batch_of_not_isOpen {db : Database} (h : db.isOpen = false) (limit : Nat) :
    db.batch limit = (.error .database, db) := by
  have missing : db.events.present = none := by simpa [isOpen] using h
  rw [batch, readRows, missing]

theorem hide_spec {db after : Database} (h : db.hide? .events = some after) :
    after.keptRows = db.keptRows ∧ after.isOpen = false := by
  simp only [hide?, Shelf.putAside?] at h
  split at h
  · cases h
    exact ⟨by simp [keptRows, *], rfl⟩
  · cases h

theorem restore_spec {db after : Database} (h : db.restore? .events = some after) :
    after.keptRows = db.keptRows ∧ after.events.aside = none := by
  simp only [restore?, Shelf.putBack?] at h
  split at h
  · cases h
    exact ⟨by simp [keptRows, *], rfl⟩
  · cases h

end Database

end Telemetry.Store
