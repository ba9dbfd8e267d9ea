import Mathlib.Algebra.GroupWithZero.Nat
import Mathlib.Algebra.Order.BigOperators.Group.List
import Mathlib.Algebra.Order.Group.Nat
import Mathlib.Data.List.GetD
import Telemetry.Calendar

set_option autoImplicit false

namespace Telemetry.Calendar

def yearLength (year : Int) : Nat := (monthLengths year).sum

theorem daysBeforeYear_eq (year : Int) : daysBeforeYear year =
    365 * (year - 1) + (year - 1) / 4 - (year - 1) / 100 + (year - 1) / 400 := rfl

theorem yearLength_eq (year : Int) : yearLength year = if isLeapYear year then 366 else 365 := by
  unfold yearLength monthLengths
  split_ifs <;> rfl

theorem isLeapYear_iff (year : Int) :
    isLeapYear year ↔ year % 4 = 0 ∧ (year % 100 ≠ 0 ∨ year % 400 = 0) := by
  simp [isLeapYear]

theorem daysBeforeYear_succ (year : Int) :
    daysBeforeYear (year + 1) = daysBeforeYear year + yearLength year := by
  have leap := isLeapYear_iff year
  rw [yearLength_eq, daysBeforeYear_eq, daysBeforeYear_eq]
  split_ifs with h
  · have := leap.1 h
    omega
  · have := mt leap.2 h
    omega

theorem daysBeforeYear_le {a b : Int} (h : a < b) : daysBeforeYear (a + 1) ≤ daysBeforeYear b := by
  rw [daysBeforeYear_eq, daysBeforeYear_eq]
  omega

/-- The year in a cycle of 400, by the centuries, the fours and the single years before it. -/
theorem daysBeforeYear_of_parts (cycle : Int) {century four single : Nat} (hcentury : century ≤ 3)
    (hfour : four ≤ 24) (hsingle : single ≤ 3) :
    daysBeforeYear (400 * cycle + 100 * century + 4 * four + single + 1) =
      146097 * cycle + 36524 * century + 1461 * four + 365 * single := by
  rw [daysBeforeYear_eq]
  omega

theorem isLeapYear_of_parts (cycle : Int) {century four : Nat} (hfour : four ≤ 24)
    (h : four ≤ 23 ∨ century = 3) : isLeapYear (400 * cycle + 100 * century + 4 * four + 3 + 1) := by
  rw [isLeapYear_iff]
  omega

/-- A day of a year lies in one month, behind the months before it. -/
theorem exists_monthDay {lengths : List Nat} {day : Nat} (h : day < lengths.sum) (first : Nat) :
    ∃ place length, lengths[place]? = some length ∧ (monthDay first lengths day).1 = first + place ∧
      1 ≤ (monthDay first lengths day).2 ∧ (monthDay first lengths day).2 ≤ length ∧
      (lengths.take place).sum + ((monthDay first lengths day).2 - 1) = day := by
  induction lengths generalizing first day with
  | nil => simp at h
  | cons length rest ih =>
    rw [List.sum_cons] at h
    rw [monthDay]
    split_ifs with inside
    · refine ⟨0, length, rfl, ?_⟩
      simp only [List.take_zero, List.sum_nil]
      omega
    · have left : day - length < rest.sum := by omega
      obtain ⟨place, found, at_place, month, low, high, total⟩ := ih left (first + 1)
      refine ⟨place + 1, found, at_place, ?_⟩
      rw [List.take_succ_cons, List.sum_cons]
      omega

theorem daysBeforeMonth_eq (year : Int) (month : Nat) :
    daysBeforeMonth year month = ((monthLengths year).take (month - 1)).sum :=
  List.sum_eq_foldl.symm

/-- The days of a month come before those of every later month, and within the year. -/
theorem daysBeforeMonth_add_le {year : Int} {month later length : Nat}
    (h : (monthLengths year)[month - 1]? = some length) (positive : 1 ≤ month) (hlater : month < later) :
    daysBeforeMonth year month + length ≤ daysBeforeMonth year later := by
  obtain ⟨inside, rfl⟩ := List.getElem?_eq_some_iff.1 h
  have whole := List.sum_take_succ (monthLengths year) (month - 1) inside
  have more := List.monotone_sum_take (monthLengths year) (show month - 1 + 1 ≤ later - 1 by omega)
  rw [daysBeforeMonth_eq, daysBeforeMonth_eq, ← whole]
  exact more

theorem daysBeforeMonth_thirteen (year : Int) : daysBeforeMonth year 13 = yearLength year := by
  rw [daysBeforeMonth_eq, yearLength, monthLengths]
  rfl

namespace Date

def IsValid (date : Date) : Prop :=
  1 ≤ date.month ∧ 1 ≤ date.day ∧ date.day ≤ (monthLengths date.year).getD (date.month - 1) 0

instance (date : Date) : Decidable date.IsValid := inferInstanceAs (Decidable (_ ∧ _ ∧ _))

def Precedes (a b : Date) : Prop :=
  a.year < b.year ∨ a.year = b.year ∧ (a.month < b.month ∨ a.month = b.month ∧ a.day < b.day)

theorem isValid_iff {date : Date} : date.IsValid ↔
    1 ≤ date.month ∧ 1 ≤ date.day ∧
      ∃ length, (monthLengths date.year)[date.month - 1]? = some length ∧ date.day ≤ length := by
  unfold IsValid
  rw [List.getD_eq_getElem?_getD]
  cases (monthLengths date.year)[date.month - 1]? with
  | none =>
    simp
    omega
  | some length => simp

/-- The cut of a number of days into years and a day of the last one. -/
theorem exists_ofDays (days : Int) : ∃ year rest, daysBeforeYear year + (rest : Nat) = days ∧
    rest < yearLength year ∧ ofDays days =
      ⟨year, (monthDay 1 (monthLengths year) rest).1, (monthDay 1 (monthLengths year) rest).2⟩ := by
  let cycle := days / 146097
  let inCycle := (days % 146097).toNat
  let century := min (inCycle / 36524) 3
  let inCentury := inCycle - century * 36524
  let four := inCentury / 1461
  let inFour := inCentury % 1461
  let single := min (inFour / 365) 3
  let rest := inFour - single * 365
  have hcentury : century ≤ 3 := Nat.min_le_right _ _
  have hsingle : single ≤ 3 := Nat.min_le_right _ _
  have cut : inCycle = century * 36524 + inCentury ∧ inCentury < 36525 ∧
      (century ≤ 2 → inCentury < 36524) := by
    have : inCycle < 146097 := by omega
    omega
  have hfour : four ≤ 24 := by omega
  have cut' : inFour = single * 365 + rest ∧ inFour ≤ 1460 ∧ rest < 366 ∧ (single ≤ 2 → rest < 365) := by
    omega
  have before := daysBeforeYear_of_parts cycle hcentury hfour hsingle
  refine ⟨400 * cycle + 100 * century + 4 * four + single + 1, rest, ?_, ?_, rfl⟩
  · rw [before]
    omega
  · rw [yearLength_eq]
    split_ifs with leap
    · exact cut'.2.2.1
    -- The last day of a leap year is the only one with number 365.
    · have short : ¬(single = 3 ∧ (four ≤ 23 ∨ century = 3)) := by
        rintro ⟨last, h⟩
        apply leap
        rw [last]
        exact isLeapYear_of_parts cycle hfour h
      omega

theorem ofDays_isValid (days : Int) : (ofDays days).IsValid := by
  obtain ⟨year, rest, -, inside, same⟩ := exists_ofDays days
  obtain ⟨place, length, at_place, month, low, high, -⟩ := exists_monthDay inside 1
  rw [same, isValid_iff]
  simp only [month, Nat.add_sub_cancel_left]
  exact ⟨Nat.le_add_right _ _, low, length, at_place, high⟩

theorem toDays_ofDays (days : Int) : (ofDays days).toDays = days := by
  obtain ⟨year, rest, total, inside, same⟩ := exists_ofDays days
  obtain ⟨place, length, -, month, -, -, sum⟩ := exists_monthDay inside 1
  rw [same, toDays]
  simp only [daysBeforeMonth_eq, month, Nat.add_sub_cancel_left]
  rw [sum, total]

section

variable {a b : Date}

theorem IsValid.month_le (h : a.IsValid) : a.month ≤ 12 := by
  obtain ⟨-, -, length, found, -⟩ := isValid_iff.1 h
  obtain ⟨inside, -⟩ := List.getElem?_eq_some_iff.1 found
  have : (monthLengths a.year).length = 12 := rfl
  omega

theorem IsValid.toDays_lt (h : a.IsValid) {later : Nat} (hlater : a.month < later) :
    a.toDays < daysBeforeYear a.year + daysBeforeMonth a.year later := by
  obtain ⟨positive, low, length, found, high⟩ := isValid_iff.1 h
  have bound := daysBeforeMonth_add_le found positive hlater
  unfold toDays
  omega

theorem IsValid.toDays_lt_next (h : a.IsValid) : a.toDays < daysBeforeYear (a.year + 1) := by
  have whole := h.toDays_lt (Nat.lt_succ_of_le h.month_le)
  rwa [daysBeforeMonth_thirteen, ← daysBeforeYear_succ] at whole

/-- A date is of a year or an earlier one if its days end with that year. -/
theorem IsValid.year_le_iff (h : a.IsValid) (year : Int) :
    a.year ≤ year ↔ a.toDays < daysBeforeYear (year + 1) := by
  constructor
  · intro early
    have whole := h.toDays_lt_next
    have more := daysBeforeYear_le (Int.lt_add_one_of_le early)
    omega
  · intro days
    by_contra late
    have more := daysBeforeYear_le (Int.not_le.1 late)
    unfold toDays at days
    omega

theorem Precedes.toDays_lt (h : a.Precedes b) (ha : a.IsValid) (hb : b.IsValid) :
    a.toDays < b.toDays := by
  have first := hb.2.1
  obtain year | ⟨year, month | ⟨month, day⟩⟩ := h
  · have whole := ha.toDays_lt_next
    have more := daysBeforeYear_le year
    unfold toDays at whole ⊢
    omega
  · have whole := ha.toDays_lt month
    rw [year] at whole
    unfold toDays at whole ⊢
    rw [year] at whole ⊢
    omega
  · have low := ha.2.1
    unfold toDays
    rw [year, month]
    omega

theorem eq_or_precedes (a b : Date) : a = b ∨ a.Precedes b ∨ b.Precedes a := by
  unfold Precedes
  rw [Date.mk.injEq]
  omega

theorem toDays_inj (ha : a.IsValid) (hb : b.IsValid) : a.toDays = b.toDays ↔ a = b := by
  refine ⟨fun same => ?_, fun same => same ▸ rfl⟩
  obtain eq | less | less := eq_or_precedes a b
  · exact eq
  · have := less.toDays_lt ha hb
    omega
  · have := less.toDays_lt hb ha
    omega

theorem precedes_iff (ha : a.IsValid) (hb : b.IsValid) : a.Precedes b ↔ a.toDays < b.toDays := by
  refine ⟨fun h => h.toDays_lt ha hb, fun less => ?_⟩
  obtain rfl | first | later := eq_or_precedes a b
  · exact absurd less (Int.lt_irrefl _)
  · exact first
  · have := later.toDays_lt hb ha
    omega

end

end Date

end Telemetry.Calendar
