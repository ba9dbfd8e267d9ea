import Mathlib.Order.Bounds.Defs
import Telemetry.Proofs.Delivery.Grouping

set_option autoImplicit false

/-!
Filling a group as long as rows fit makes the fewest groups. A later start of the open group costs nothing and
closing it early costs one group at most, so every other way to cut the rows is followed run by run.
-/

namespace Telemetry.Delivery

open Store (EventRow)

/-- A way to cut rows, kept in their order, into runs of which each fits into one request. -/
structure Cut (limit : Nat) (rows : List EventRow) where
  runs : List (List EventRow)
  flatten_eq : runs.flatten = rows
  ne_nil : ∀ run ∈ runs, run ≠ []
  fits : ∀ run ∈ runs,
    88 + (run.map fun row => row.payload.text.utf8ByteSize + 22).sum + (run.length - 1) ≤ limit

def groupOnto (limit : Nat) (pending rows : List EventRow) : List Group :=
  groupFrom limit pending (pending.map rowBytes).sum rows

variable {limit : Nat}

theorem estimate_concat (pending : List EventRow) (row : EventRow) :
    estimate (pending ++ [row]) = (pending.map rowBytes).sum + rowBytes row + wrapperBytes + pending.length := by
  simp only [estimate, List.map_append, List.map_singleton, List.sum_append, List.sum_singleton,
    List.length_append, List.length_singleton]
  omega

theorem estimate_append (front back : List EventRow) :
    estimate front ≤ estimate (front ++ back) ∧ estimate back ≤ estimate (front ++ back) := by
  simp only [estimate, List.map_append, List.sum_append, List.length_append]
  omega

theorem groupOnto_nil (pending : List EventRow) :
    groupOnto limit pending [] = if pending.isEmpty then [] else [⟨pending, false⟩] := rfl

/-- The loop compares the limit with the estimate for the open group and the next row. -/
theorem groupOnto_cons (pending : List EventRow) (row : EventRow) (rest : List EventRow) :
    groupOnto limit pending (row :: rest) =
      if limit < estimate [row] then ⟨[row], true⟩ :: groupOnto limit pending rest
      else if limit < estimate (pending ++ [row]) then ⟨pending, false⟩ :: groupOnto limit [row] rest
      else groupOnto limit (pending ++ [row]) rest := by
  have alone : estimate [row] = rowBytes row + wrapperBytes := by
    have bytes := estimate_concat [] row
    simp only [List.nil_append, List.map_nil, List.sum_nil, List.length_nil] at bytes
    omega
  unfold groupOnto
  rw [groupFrom, estimate_concat, alone]
  simp [exceedsAlone]

/-- An open group that starts later leads to no more groups, one that starts earlier to at most one more. -/
theorem groupOnto_suffix (rows : List EventRow) {short long : List EventRow} (later : short <:+ long) :
    (groupOnto limit short rows).length ≤ (groupOnto limit long rows).length ∧
      (groupOnto limit long rows).length ≤ (groupOnto limit short rows).length + 1 := by
  induction rows generalizing short long with
  | nil =>
    obtain ⟨front, rfl⟩ := later
    cases short <;> cases front <;> simp [groupOnto_nil]
  | cons row rest ih =>
    have smaller : estimate (short ++ [row]) ≤ estimate (long ++ [row]) := by
      obtain ⟨front, rfl⟩ := later
      rw [List.append_assoc]
      exact (estimate_append front (short ++ [row])).2
    rw [groupOnto_cons, groupOnto_cons]
    split_ifs with alone shortFull longFull longFull
    · have same := ih later
      simp only [List.length_cons]
      omega
    · simp only [List.length_cons]
      omega
    · omega
    · -- only the longer group is closed: the row opens a group that starts later than the shorter one
      have opened := ih (List.suffix_append short [row])
      simp only [List.length_cons]
      omega
    · obtain ⟨front, rfl⟩ := later
      exact ih ⟨front, (List.append_assoc _ _ _).symm⟩

/-- A run that fits is taken into the open group as a whole. -/
theorem groupOnto_append {run : List EventRow} (pending rest : List EventRow)
    (fits : estimate (pending ++ run) ≤ limit) :
    groupOnto limit pending (run ++ rest) = groupOnto limit (pending ++ run) rest := by
  induction run generalizing pending with
  | nil => rw [List.nil_append, List.append_nil]
  | cons row run ih =>
    have whole : pending ++ row :: run = (pending ++ [row]) ++ run := by simp
    rw [whole] at fits ⊢
    have first : estimate (pending ++ [row]) ≤ estimate ((pending ++ [row]) ++ run) :=
      (estimate_append (pending ++ [row]) run).1
    have alone : estimate [row] ≤ estimate (pending ++ [row]) := (estimate_append pending [row]).2
    rw [List.cons_append, groupOnto_cons, if_neg (by omega), if_neg (by omega), ih _ fits]

theorem groupOnto_length_le {runs : List (List EventRow)} (fits : ∀ run ∈ runs, estimate run ≤ limit) :
    (groupOnto limit [] runs.flatten).length ≤ runs.length := by
  induction runs with
  | nil => exact Nat.le_refl 0
  | cons run runs ih =>
    have taken := groupOnto_append [] runs.flatten (fits run List.mem_cons_self)
    have closed : (groupOnto limit run runs.flatten).length ≤ (groupOnto limit [] runs.flatten).length + 1 :=
      (groupOnto_suffix runs.flatten List.nil_suffix).2
    have others := ih fun run hrun => fits run (List.mem_cons_of_mem _ hrun)
    rw [List.flatten_cons, taken, List.nil_append, List.length_cons]
    omega

/-- Rows that exceed the limit alone leave no trace in the other groups. -/
theorem groupFrom_filter (rows pending : List EventRow) (bytes : Nat) :
    (groupFrom limit pending bytes rows).filter (!·.oversize) =
      groupFrom limit pending bytes (rows.filter (!exceedsAlone limit ·)) := by
  induction rows generalizing pending bytes with
  | nil =>
    simp only [List.filter_nil, groupFrom]
    split_ifs <;> rfl
  | cons row rest ih =>
    by_cases alone : exceedsAlone limit row
    · rw [groupFrom, if_pos alone, List.filter_cons_of_neg (by simp), ih,
        List.filter_cons_of_neg (by simp [alone])]
    · rw [List.filter_cons_of_pos (by simp [alone]), groupFrom, groupFrom, if_neg alone, if_neg alone]
      split_ifs
      · rw [List.filter_cons_of_pos rfl, ih]
      · exact ih _ _

/-- Of all ways to cut the rows that fit alone into runs that fit, grouping takes one with the fewest runs. -/
theorem groupRows_fewest (limit : Nat) (rows : List EventRow) :
    IsLeast
      {n | ∃ cut : Cut limit (rows.filter fun row => row.payload.text.utf8ByteSize + 22 + 88 ≤ limit),
        cut.runs.length = n}
      ((groupRows limit rows).filter (!·.oversize)).length := by
  have alone : (rows.filter fun row => row.payload.text.utf8ByteSize + 22 + 88 ≤ limit) =
      rows.filter (!exceedsAlone limit ·) := by
    apply List.filter_congr
    intro row _
    simp only [exceedsAlone, rowBytes, sentTimeBytes, wrapperBytes]
    grind
  rw [alone]
  constructor
  · refine ⟨⟨((groupRows limit rows).filter (!·.oversize)).map (·.rows), ?_, ?_, ?_⟩, by simp⟩
    · rw [← List.flatMap_def]
      exact groupFrom_regular limit rows [] 0
    · intro run hrun
      obtain ⟨group, hgroup, rfl⟩ := List.mem_map.1 hrun
      exact groupRows_ne_nil limit rows group (List.mem_of_mem_filter hgroup)
    · intro run hrun
      obtain ⟨group, hgroup, rfl⟩ := List.mem_map.1 hrun
      obtain ⟨listed, regular⟩ := List.mem_filter.1 hgroup
      exact groupRows_estimate limit rows group listed (by simpa using regular)
  · rintro n ⟨cut, rfl⟩
    have count := groupOnto_length_le cut.fits
    rw [cut.flatten_eq] at count
    rw [groupRows, groupFrom_filter]
    exact count

end Telemetry.Delivery
