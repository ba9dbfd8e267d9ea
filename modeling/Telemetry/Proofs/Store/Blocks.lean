import Telemetry.Proofs.Store.Queue

set_option autoImplicit false

/-!
A read goes through the queue in blocks. It drops what cannot be read of one block after the other and
answers with the payloads of the first block that holds any.
-/

namespace Telemetry.Store

/-- Rows cut into blocks of one size; the last block takes what is left. -/
def blocks (size : Nat) (rows : List Row) : List (List Row) :=
  if 0 < size ∧ rows ≠ [] then rows.take size :: blocks size (rows.drop size) else []
termination_by rows.length
decreasing_by
  rename_i h
  have some := List.length_pos_iff.2 h.2
  rw [List.length_drop]
  omega

theorem blocks_nil (size : Nat) : blocks size [] = [] := by simp [blocks]

theorem blocks_of_ne_nil {size : Nat} (pos : 0 < size) {rows : List Row} (some : rows ≠ []) :
    blocks size rows = rows.take size :: blocks size (rows.drop size) := by
  rw [blocks, if_pos ⟨pos, some⟩]

theorem blocks_flatten {size : Nat} (pos : 0 < size) (rows : List Row) :
    (blocks size rows).flatten = rows := by
  fun_induction blocks size rows with
  | case1 rows h ih => rw [List.flatten_cons, ih, List.take_append_drop]
  | case2 rows h =>
    have none : rows = [] := by simpa [pos] using h
    rw [none, List.flatten_nil]

def holdsPayload (block : List Row) : Bool := block.any (·.payload?.isSome)

theorem holdsPayload_eq (block : List Row) : holdsPayload block = !(readableRows block).isEmpty := by
  induction block with
  | nil => rfl
  | cons row rest ih =>
    cases payload : row.payload? <;> simp_all [holdsPayload, readableRows]

/-- A block without rows to drop is empty, unless all of it can be read. -/
theorem answers_eq (block : List Row) :
    (!(readableRows block).isEmpty || (unreadableIds block).isEmpty) =
      (holdsPayload block || block.isEmpty) := by
  rw [holdsPayload_eq]
  cases block with
  | nil => rfl
  | cons row rest => cases payload : row.payload? <;> simp [readableRows, unreadableIds, payload]

theorem filter_of_not_holdsPayload {block : List Row} (h : holdsPayload block = false) :
    block.filter (·.payload?.isSome) = [] :=
  List.filter_eq_nil_iff.2 (List.any_eq_false.1 h)

/-- The payloads of the first block that holds any. -/
def firstPayloads (cut : List (List Row)) : List EventRow :=
  ((cut.find? holdsPayload).map readableRows).getD []

/-- The rows without the unreadable ones of the blocks up to the first that holds a payload. -/
def rowsLeft (cut : List (List Row)) : List Row :=
  let reach := cut.findIdx holdsPayload + 1
  (cut.take reach).flatten.filter (·.payload?.isSome) ++ (cut.drop reach).flatten

theorem firstPayloads_cons (block : List Row) (rest : List (List Row)) :
    firstPayloads (block :: rest) =
      if holdsPayload block then readableRows block else firstPayloads rest := by
  unfold firstPayloads
  split_ifs with holds <;> simp [holds]

theorem rowsLeft_cons (block : List Row) (rest : List (List Row)) :
    rowsLeft (block :: rest) =
      block.filter (·.payload?.isSome) ++ if holdsPayload block then rest.flatten else rowsLeft rest := by
  unfold rowsLeft
  split_ifs with holds
  · simp [holds, List.findIdx_cons]
  · simp [holds, List.findIdx_cons]

/-- Dropping the unreadable rows of a block leaves its payloads and all that comes after it. -/
theorem filter_unreadable {block rest : List Row} (ordered : Ascending (block ++ rest)) :
    (block ++ rest).filter (fun row => !(unreadableIds block).contains row.id) =
      block.filter (·.payload?.isSome) ++ rest := by
  have listed {row : Row} (hrow : row ∈ block ++ rest) :
      (unreadableIds block).contains row.id = true ↔ row ∈ block ∧ row.payload? = none := by
    rw [List.contains_iff_mem, mem_unreadableIds]
    constructor
    · rintro ⟨bad, hbad, hid, none⟩
      rw [← eq_of_id_eq ordered (List.mem_append_left rest hbad) hrow hid]
      exact ⟨hbad, none⟩
    · rintro ⟨hblock, none⟩
      exact ⟨row, hblock, rfl, none⟩
  rw [List.filter_append]
  congr 1
  · apply List.filter_congr
    intro row hrow
    have bad := listed (List.mem_append_left rest hrow)
    cases payload : row.payload? <;> simp_all
  · apply List.filter_eq_self.2
    intro row hrow
    have bad := listed (List.mem_append_right block hrow)
    have fresh : row ∉ block := by
      intro hblock
      exact Int.lt_irrefl _ ((List.pairwise_append.1 ordered).2.2 row hblock row hrow)
    simpa [fresh] using bad

namespace Database

abbrev ReadResult := Except StorageError (List EventRow) × Database

inductive Pass where
  | ends (result : ReadResult)
  | again (db : Database)

def pass (limit : Option Nat) (db : Database) : Pass :=
  match db.events.present with
  | none => .ends (.error .database, db)
  | some table =>
    let batch := oldest limit table.rows
    if batch.any (·.isBlob) then .ends (.error .database, db)
    else
      match db.delete (unreadableIds batch) with
      | .error cause => .ends (.error cause, db)
      | .ok after =>
        if !(readableRows batch).isEmpty || (unreadableIds batch).isEmpty then
          .ends (.ok (readableRows batch), after)
        else .again after

/-- A read that comes to an end, however many passes it takes. -/
inductive Reads (limit : Option Nat) : Database → ReadResult → Prop where
  | ends {db : Database} {result : ReadResult} (h : pass limit db = .ends result) : Reads limit db result
  | again {db after : Database} {result : ReadResult} (h : pass limit db = .again after)
      (rest : Reads limit after result) : Reads limit db result

theorem readRows_succ (limit : Option Nat) (fuel : Nat) (db : Database) :
    readRows limit (fuel + 1) db =
      match pass limit db with
      | .ends result => result
      | .again after => readRows limit fuel after := by
  rw [readRows, pass]
  cases db.events.present with
  | none => rfl
  | some table =>
    dsimp only
    by_cases blobs : (oldest limit table.rows).any (·.isBlob)
    · rw [if_pos blobs, if_pos blobs]
    rw [if_neg blobs, if_neg blobs]
    cases db.delete (unreadableIds (oldest limit table.rows)) with
    | error cause => rfl
    | ok after =>
      dsimp only
      split_ifs <;> rfl

theorem pass_again {limit : Option Nat} {db after : Database} (h : pass limit db = .again after) :
    after.rows.length < db.rows.length := by
  unfold pass at h
  cases present : db.events.present with
  | none => simp [present] at h
  | some table =>
    rw [present] at h
    dsimp only at h
    by_cases blobs : (oldest limit table.rows).any (·.isBlob)
    · rw [if_pos blobs] at h
      cases h
    rw [if_neg blobs] at h
    cases deleted : db.delete (unreadableIds (oldest limit table.rows)) with
    | error cause =>
      rw [deleted] at h
      cases h
    | ok left =>
      rw [deleted] at h
      dsimp only at h
      split_ifs at h with answers
      cases h
      have some : unreadableIds (oldest limit table.rows) ≠ [] := fun none => answers (by simp [none])
      obtain ⟨id, hid⟩ := List.exists_mem_of_ne_nil _ some
      obtain ⟨row, hrow, rfl, -⟩ := mem_unreadableIds.1 hid
      rw [(delete_rows deleted).2, rows_of_present present]
      apply List.length_filter_lt_length_iff_exists.2
      exact ⟨row, (oldest_initial limit table.rows).subset hrow, by simpa using hid⟩

/-- As many passes as there are rows, and one more, are enough for every read. -/
theorem reads_readRows (limit : Option Nat) {fuel : Nat} {db : Database} (enough : db.rows.length < fuel) :
    Reads limit db (readRows limit fuel db) := by
  induction fuel generalizing db with
  | zero => omega
  | succ fuel ih =>
    rw [readRows_succ]
    cases next : pass limit db with
    | ends result => exact .ends next
    | again after =>
      have fewer := pass_again next
      exact .again next (ih (by omega))

theorem pass_block {size : Nat} (small : size ≤ maxParameters) {db : Database} (opened : db.isOpen)
    (text : ∀ row ∈ db.rows, row.isBlob = false) :
    ∃ after, SameElse db after ∧
      after.rows = (db.rows.take size).filter (·.payload?.isSome) ++ db.rows.drop size ∧
      pass (some size) db =
        if holdsPayload (db.rows.take size) || (db.rows.take size).isEmpty then
          .ends (.ok (readableRows (db.rows.take size)), after)
        else .again after := by
  obtain ⟨table, present⟩ := isOpen_iff.1 opened
  have rows := rows_of_present present
  have few : (unreadableIds (db.rows.take size)).length ≤ maxParameters :=
    Nat.le_trans (unreadableIds_length_le _) (Nat.le_trans (List.length_take_le size db.rows) small)
  obtain ⟨after, deleted⟩ := delete_spec opened few
  obtain ⟨same, left⟩ := delete_rows deleted
  have noBlob : (table.rows.take size).any (·.isBlob) = false := by
    rw [List.any_eq_false]
    intro row hrow
    simp [text row (rows ▸ List.mem_of_mem_take hrow)]
  refine ⟨after, same, ?_, ?_⟩
  · have ordered : Ascending (db.rows.take size ++ db.rows.drop size) := by
      rw [List.take_append_drop]
      exact db.rows_ascending
    rw [left, ← filter_unreadable ordered, List.take_append_drop]
  · rw [rows] at deleted ⊢
    rw [pass, present]
    simp only [oldest, noBlob, deleted, answers_eq, Bool.false_eq_true, if_false]

/-- A read of text ends with an answer, which settles all blocks up to the first that holds a payload. -/
theorem Reads.blocks {size : Nat} (pos : 0 < size) (small : size ≤ maxParameters) {db : Database}
    {result : ReadResult} (h : Reads (some size) db result) (opened : db.isOpen)
    (text : ∀ row ∈ db.rows, row.isBlob = false) :
    SameElse db result.2 ∧ result.1 = .ok (firstPayloads (Store.blocks size db.rows)) ∧
      result.2.rows = rowsLeft (Store.blocks size db.rows) := by
  induction h with
  | @ends db result done =>
    obtain ⟨after, same, left, next⟩ := pass_block small opened text
    rw [done] at next
    split_ifs at next with answers
    cases next
    by_cases none : db.rows = []
    · rw [none] at left ⊢
      simp [same, left, blocks_nil, firstPayloads, rowsLeft, readableRows]
    · have holds : holdsPayload (db.rows.take size) = true := by
        have some : db.rows.take size ≠ [] := by simp [none, Nat.ne_of_gt pos]
        simpa [some] using answers
      rw [blocks_of_ne_nil pos none, firstPayloads_cons, rowsLeft_cons, if_pos holds, if_pos holds,
        blocks_flatten pos]
      exact ⟨same, rfl, left⟩
  | @again db after result next rest ih =>
    obtain ⟨other, same, left, next'⟩ := pass_block small opened text
    rw [next] at next'
    split_ifs at next' with answers
    cases next'
    obtain ⟨unread, some⟩ : holdsPayload (db.rows.take size) = false ∧ db.rows.take size ≠ [] := by
      simpa using answers
    have rows : after.rows = db.rows.drop size := by
      rw [left, filter_of_not_holdsPayload unread, List.nil_append]
    have none : db.rows ≠ [] := fun h => some (by rw [h, List.take_nil])
    have text' : ∀ row ∈ after.rows, row.isBlob = false := by
      intro row hrow
      rw [rows] at hrow
      exact text row (List.mem_of_mem_drop hrow)
    obtain ⟨same', answer, left'⟩ := ih (same.2.2.trans opened) text'
    rw [blocks_of_ne_nil pos none, firstPayloads_cons, rowsLeft_cons,
      filter_of_not_holdsPayload unread, ← rows]
    simp only [unread, Bool.false_eq_true, if_false, List.nil_append]
    exact ⟨same.trans same', answer, left'⟩

/-- A read keeps every payload, whether it answers or fails. If the queue holds text only and the limit is one
that a statement can take, the read ends with an answer: the payloads of the first block of rows that
holds any, and all that is dropped are the unreadable rows of the blocks up to that one. -/
theorem read_keeps_payloads (db : Database) (limit : Nat) :
    (∀ result ∈ [db.batch limit, db.all],
      result.2.rows.Sublist db.rows ∧ ∀ row ∈ db.rows, row.payload?.isSome → row ∈ result.2.rows) ∧
    (db.isOpen → (∀ row ∈ db.rows, row.isBlob = false) → 1 ≤ limit → limit ≤ 32766 →
      Reads (some limit) db (db.batch limit) ∧
        (db.batch limit).1 = .ok (firstPayloads (Store.blocks limit db.rows)) ∧
        (db.batch limit).2.rows = rowsLeft (Store.blocks limit db.rows) ∧
        SameElse db (db.batch limit).2) := by
  constructor
  · have keeps {result : ReadResult} (trims : Trims db result.2) : result.2.rows.Sublist db.rows ∧
        ∀ row ∈ db.rows, row.payload?.isSome → row ∈ result.2.rows := ⟨trims.sublist, trims.keeps⟩
    simp only [List.forall_mem_cons]
    exact ⟨keeps (batch_trims db limit), keeps (readRows_trims none _ db), nofun⟩
  · intro opened text pos small
    have read : Reads (some limit) db (db.batch limit) := by
      rw [batch, rowLimit_small small]
      exact reads_readRows (some limit) (Nat.lt_succ_self _)
    obtain ⟨same, answer, left⟩ := read.blocks pos small opened text
    exact ⟨read, answer, left, same⟩

theorem read_keeps_payloads_mixed :
    let payload := Payload.ofPairs [("e", "pv")]
    let cells : List Cell := [.text "", .text "e", .text payload.text, .text Payload.empty.text]
    let db := empty.queued (cells.foldl Table.push Table.empty)
    db.isOpen ∧ (∀ row ∈ db.rows, row.isBlob = false) ∧
      (db.batch 2).1 = .ok [⟨3, payload⟩, ⟨4, Payload.empty⟩] ∧
      (db.batch 2).2.rows = [⟨3, .text payload.text⟩, ⟨4, .text Payload.empty.text⟩] := by
  intro payload cells db
  have rows : db.rows = [⟨1, .text ""⟩, ⟨2, .text "e"⟩, ⟨3, .text payload.text⟩,
    ⟨4, .text Payload.empty.text⟩] := rfl
  have text : ∀ row ∈ db.rows, row.isBlob = false := by simp [rows, Row.isBlob]
  have cut : blocks 2 db.rows = [[⟨1, .text ""⟩, ⟨2, .text "e"⟩],
      [⟨3, .text payload.text⟩, ⟨4, .text Payload.empty.text⟩]] := by
    simp [rows, blocks]
  have bad : Payload.ofText? "" = none ∧ Payload.ofText? "e" = none := by decide
  have good : Payload.ofText? payload.text = some payload := payload.ofText?_text
  have good' : Payload.ofText? Payload.empty.text = some Payload.empty := Payload.empty.ofText?_text
  obtain ⟨-, answer, left, -⟩ := (read_keeps_payloads db 2).2 rfl text (by decide) (by decide)
  rw [cut] at answer left
  refine ⟨rfl, text, answer.trans ?_, left.trans ?_⟩
  · simp [firstPayloads, holdsPayload, readableRows, Row.payload?, bad, good, good']
  · simp [rowsLeft, List.findIdx_cons, holdsPayload, Row.payload?, bad, good, good']

end Database

end Telemetry.Store
