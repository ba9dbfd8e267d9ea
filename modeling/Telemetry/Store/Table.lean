import Telemetry.Payload

set_option autoImplicit false

namespace Telemetry.Store

/-- What a row holds: text, or bytes that no query reads as text. -/
inductive Cell where
  | text (value : String)
  | blob (value : String)
  deriving DecidableEq, Repr, Inhabited

structure Row where
  id : Int
  cell : Cell
  deriving DecidableEq, Repr

structure EventRow where
  id : Int
  payload : Payload
  deriving DecidableEq

def Ascending (rows : List Row) : Prop := rows.Pairwise (fun a b => a.id < b.id)

structure Table where
  rows : List Row
  ascending : Ascending rows

namespace Table

def empty : Table := ⟨[], List.Pairwise.nil⟩

instance : Inhabited Table := ⟨empty⟩

def size (table : Table) : Nat := table.rows.length

/-- One more than the largest identifier of ascending rows, or 1. -/
def idAfter (rows : List Row) : Int :=
  match rows.getLast? with
  | none => 1
  | some row => row.id + 1

def nextId (table : Table) : Int := idAfter table.rows

theorem lt_idAfter {rows : List Row} (h : Ascending rows) {row : Row} (hrow : row ∈ rows) :
    row.id < idAfter rows := by
  unfold idAfter
  obtain ⟨front, last, rfl⟩ : ∃ front last, rows = front ++ [last] :=
    ⟨_, _, (List.dropLast_concat_getLast (List.ne_nil_of_mem hrow)).symm⟩
  simp only [List.getLast?_append, List.getLast?_singleton, Option.some_or]
  rcases List.mem_append.1 hrow with hfront | hlast
  · have := (List.pairwise_append.1 h).2.2 row hfront last (by simp)
    omega
  · simp only [List.mem_singleton] at hlast
    subst hlast
    omega

def push (table : Table) (cell : Cell) : Table where
  rows := table.rows ++ [⟨table.nextId, cell⟩]
  ascending := by
    refine List.pairwise_append.2 ⟨table.ascending, List.pairwise_singleton _ _, fun a ha b hb => ?_⟩
    simp only [List.mem_singleton] at hb
    subst hb
    exact lt_idAfter table.ascending ha

/-- Put a row at the place of its identifier; nothing when the identifier is taken. -/
def insertRow? (row : Row) : List Row → Option (List Row)
  | [] => some [row]
  | head :: rest =>
    if row.id < head.id then some (row :: head :: rest)
    else if row.id = head.id then none
    else (insertRow? row rest).map (head :: ·)

theorem mem_insertRow? {row : Row} {rows result : List Row} (h : insertRow? row rows = some result)
    {other : Row} (hother : other ∈ result) : other = row ∨ other ∈ rows := by
  induction rows generalizing result with
  | nil =>
    cases h
    exact .inl (List.mem_singleton.1 hother)
  | cons head rest ih =>
    unfold insertRow? at h
    split at h
    · cases h
      exact List.mem_cons.1 hother
    · split at h
      · cases h
      · obtain ⟨tail, htail, rfl⟩ := Option.map_eq_some_iff.1 h
        rcases List.mem_cons.1 hother with rfl | hmem
        · exact .inr List.mem_cons_self
        · exact (ih htail hmem).imp_right (List.mem_cons_of_mem _)

theorem insertRow?_ascending {row : Row} {rows result : List Row}
    (h : insertRow? row rows = some result) (hrows : Ascending rows) : Ascending result := by
  induction rows generalizing result with
  | nil =>
    cases h
    exact List.pairwise_singleton _ _
  | cons head rest ih =>
    have hhead := (List.pairwise_cons.1 hrows).1
    unfold insertRow? at h
    split at h
    · rename_i hlt
      cases h
      refine List.pairwise_cons.2 ⟨fun b hb => ?_, hrows⟩
      rcases List.mem_cons.1 hb with rfl | hb
      · exact hlt
      · exact Int.lt_trans hlt (hhead b hb)
    · split at h
      · cases h
      · obtain ⟨tail, htail, rfl⟩ := Option.map_eq_some_iff.1 h
        refine List.pairwise_cons.2 ⟨fun b hb => ?_, ih htail (List.pairwise_cons.1 hrows).2⟩
        rcases mem_insertRow? htail hb with rfl | hb
        · omega
        · exact hhead b hb

def insert? (table : Table) (row : Row) : Option Table :=
  match h : insertRow? row table.rows with
  | none => none
  | some rows => some ⟨rows, insertRow?_ascending h table.ascending⟩

def filter (table : Table) (keep : Row → Bool) : Table :=
  ⟨table.rows.filter keep, table.ascending.filter _⟩

/-- Remove the rows with the listed identifiers; others may be listed too. -/
def remove (table : Table) (ids : List Int) : Table :=
  table.filter fun row => !ids.contains row.id

end Table

def Row.payload? (row : Row) : Option Payload :=
  match row.cell with
  | .text value => Payload.ofText? value
  | .blob _ => none

def Row.isBlob (row : Row) : Bool :=
  match row.cell with
  | .text _ => false
  | .blob _ => true

def readableRows (rows : List Row) : List EventRow :=
  rows.filterMap fun row => row.payload?.map fun payload => ⟨row.id, payload⟩

def unreadableIds (rows : List Row) : List Int :=
  (rows.filter fun row => row.payload?.isNone).map (·.id)

end Telemetry.Store
