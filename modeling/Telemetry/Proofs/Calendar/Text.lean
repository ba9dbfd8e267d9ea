import Mathlib.Data.String.Basic
import Telemetry.Proofs.Calendar.Dates
import Telemetry.Proofs.Calendar.Padding

set_option autoImplicit false

namespace Telemetry.Calendar

open Decimal (digitsValue isDigit spanDigits spanDigits_append)
open Toml (afterMark? readField?)

structure Time where
  hour : Nat
  minute : Nat
  second : Nat
  millisecond : Nat
  deriving DecidableEq, Repr

namespace Time

def IsValid (time : Time) : Prop :=
  time.hour < 24 ∧ time.minute < 60 ∧ time.second < 60 ∧ time.millisecond < 1000

def toMilliseconds (time : Time) : Nat :=
  3600000 * time.hour + 60000 * time.minute + 1000 * time.second + time.millisecond

def ofMilliseconds (n : Nat) : Time := ⟨n / 3600000, n / 60000 % 60, n / 1000 % 60, n % 1000⟩

def Precedes (a b : Time) : Prop :=
  a.hour < b.hour ∨ a.hour = b.hour ∧ (a.minute < b.minute ∨ a.minute = b.minute ∧
    (a.second < b.second ∨ a.second = b.second ∧ a.millisecond < b.millisecond))

theorem ofMilliseconds_isValid {n : Nat} (h : n < dayMilliseconds) : (ofMilliseconds n).IsValid := by
  unfold dayMilliseconds at h
  simp only [IsValid, ofMilliseconds]
  omega

theorem toMilliseconds_ofMilliseconds (n : Nat) : (ofMilliseconds n).toMilliseconds = n := by
  simp only [toMilliseconds, ofMilliseconds]
  omega

variable {a b : Time}

theorem IsValid.toMilliseconds_lt (h : a.IsValid) : a.toMilliseconds < dayMilliseconds := by
  unfold IsValid at h
  unfold toMilliseconds dayMilliseconds
  omega

theorem precedes_iff (ha : a.IsValid) (hb : b.IsValid) :
    a.Precedes b ↔ a.toMilliseconds < b.toMilliseconds := by
  unfold IsValid at ha hb
  unfold Precedes toMilliseconds
  omega

end Time

def instantOf (date : Date) (time : Time) : Int :=
  (date.toDays - epochDays) * dayMilliseconds + time.toMilliseconds

def dateOf (ms : Int) : Date := Date.ofDays (ms / dayMilliseconds + epochDays)

def timeOf (ms : Int) : Time := Time.ofMilliseconds (ms % dayMilliseconds).toNat

theorem dateOf_isValid (ms : Int) : (dateOf ms).IsValid := Date.ofDays_isValid _

theorem timeOf_isValid (ms : Int) : (timeOf ms).IsValid := by
  apply Time.ofMilliseconds_isValid
  unfold dayMilliseconds
  omega

theorem instantOf_dateOf (ms : Int) : instantOf (dateOf ms) (timeOf ms) = ms := by
  rw [instantOf, dateOf, timeOf, Date.toDays_ofDays, Time.toMilliseconds_ofMilliseconds]
  unfold dayMilliseconds
  omega

theorem instantOf_lt_iff {a b : Date} {s t : Time} (ha : a.IsValid) (hb : b.IsValid) (hs : s.IsValid)
    (ht : t.IsValid) :
    instantOf a s < instantOf b t ↔ a.Precedes b ∨ a = b ∧ s.Precedes t := by
  have low := hs.toMilliseconds_lt
  have high := ht.toMilliseconds_lt
  rw [Date.precedes_iff ha hb, ← Date.toDays_inj ha hb, Time.precedes_iff hs ht]
  unfold instantOf dayMilliseconds at *
  omega

def stampChars (date : Date) (time : Time) : List Char :=
  yearText date.year ++ '-' :: (padded 2 date.month ++ '-' :: (padded 2 date.day ++ 'T' ::
    (padded 2 time.hour ++ ':' :: (padded 2 time.minute ++ ':' :: (padded 2 time.second ++ '.' ::
      (padded 3 time.millisecond ++ ['Z']))))))

theorem dateTimeChars_eq (ms : Int) : dateTimeChars ms = stampChars (dateOf ms) (timeOf ms) := by
  simp only [dateTimeChars, stampChars, dateOf, timeOf, Time.ofMilliseconds, List.append_assoc,
    List.cons_append]

def readYear? : List Char → Option (Int × List Char)
  | '-' :: cs =>
    let (digits, rest) := spanDigits cs
    if 4 ≤ digits.length ∧ 0 < digitsValue digits then some (-(digitsValue digits : Int), rest) else none
  | '+' :: cs =>
    let (digits, rest) := spanDigits cs
    if 9999 < digitsValue digits then some ((digitsValue digits : Int), rest) else none
  | cs => (readField? 4 0 9999 cs).map fun (year, rest) => ((year : Int), rest)

/-- A date of the calendar and a time of day, to the millisecond and in universal time. -/
def readStamp? (cs : List Char) : Option (Date × Time) := do
  let (year, cs) ← readYear? cs
  let cs ← afterMark? '-' cs
  let (month, cs) ← readField? 2 1 12 cs
  let cs ← afterMark? '-' cs
  let (day, cs) ← readField? 2 1 ((monthLengths year).getD (month - 1) 0) cs
  let cs ← afterMark? 'T' cs
  let (hour, cs) ← readField? 2 0 23 cs
  let cs ← afterMark? ':' cs
  let (minute, cs) ← readField? 2 0 59 cs
  let cs ← afterMark? ':' cs
  let (second, cs) ← readField? 2 0 59 cs
  let cs ← afterMark? '.' cs
  let (millisecond, cs) ← readField? 3 0 999 cs
  if cs = ['Z'] then some (⟨year, month, day⟩, ⟨hour, minute, second, millisecond⟩) else none

/-- The instant that a text names, in milliseconds since 1970. -/
def instant? (text : String) : Option Int :=
  (readStamp? text.toList).map fun (date, time) => instantOf date time

theorem Date.IsValid.day_le {date : Date} (h : date.IsValid) : date.day ≤ 31 := by
  obtain ⟨-, -, length, found, high⟩ := Date.isValid_iff.1 h
  have longest : ∀ length ∈ monthLengths date.year, length ≤ 31 := by
    unfold monthLengths
    split_ifs <;> decide
  exact high.trans (longest length (List.mem_of_getElem? found))

theorem readYear?_yearText (year : Int) (rest : List Char) :
    readYear? (yearText year ++ '-' :: rest) = some (year, '-' :: rest) := by
  have digits := padded_isDigit 4 year.natAbs
  have value := digitsValue_padded 4 year.natAbs
  have sized := le_padded_length 4 year.natAbs
  have span : spanDigits (padded 4 year.natAbs ++ '-' :: rest) = (padded 4 year.natAbs, '-' :: rest) :=
    spanDigits_append digits (by simp; decide)
  unfold yearText
  split_ifs with negative four
  · have positive : 0 < year.natAbs := by omega
    simp only [List.cons_append, readYear?, span, value, sized, positive, and_self, if_true]
    congr 2
    omega
  · have filled : 0 < (padded 4 year.natAbs).length := by omega
    obtain ⟨c, tail, chars⟩ := List.exists_cons_of_length_pos filled
    have digit : isDigit c := digits c (chars ▸ List.mem_cons_self)
    have field : readField? 4 0 9999 (padded 4 year.natAbs ++ '-' :: rest) =
        some (year.natAbs, '-' :: rest) := readField?_padded (by omega) (by omega) (by omega) _
    have unsigned : c ≠ '-' ∧ c ≠ '+' := by
      constructor <;> rintro rfl <;> exact absurd digit (by decide)
    have natural : (year.natAbs : Int) = year := Int.natAbs_of_nonneg (by omega)
    rw [chars, List.cons_append] at field ⊢
    rw [readYear?, field, Option.map_some]
    · simp only [natural]
    · rintro cs ⟨⟩
      exact unsigned.1 rfl
    · rintro cs ⟨⟩
      exact unsigned.2 rfl
  · have large : 9999 < year.natAbs := by omega
    simp only [List.cons_append, readYear?, span, value, large, if_true]
    congr 2
    omega

theorem readStamp?_stampChars {date : Date} {time : Time} (hd : date.IsValid) (ht : time.IsValid) :
    readStamp? (stampChars date time) = some (date, time) := by
  have month := hd.month_le
  have day := hd.day_le
  obtain ⟨first, low, high⟩ := hd
  obtain ⟨hour, minute, second, millisecond⟩ := ht
  rw [stampChars, readStamp?, readYear?_yearText]
  simp only [Option.bind_eq_bind, Option.bind_some]
  -- A mark and a field six times over, from the month to the milliseconds.
  rw [bind_afterMark?, bind_readField?, bind_afterMark?, bind_readField?, bind_afterMark?, bind_readField?,
    bind_afterMark?, bind_readField?, bind_afterMark?, bind_readField?, bind_afterMark?, bind_readField?,
    if_pos rfl]
  all_goals omega

theorem instant?_dateTimeChars (ms : Int) : instant? (String.ofList (dateTimeChars ms)) = some ms := by
  have read := readStamp?_stampChars (dateOf_isValid ms) (timeOf_isValid ms)
  rw [instant?, String.toList_ofList, dateTimeChars_eq, read, Option.map_some]
  exact congrArg some (instantOf_dateOf ms)

/-- Texts with years of four digits compare by their dates and then by their times. -/
theorem stampChars_lt_iff {a b : Date} {s t : Time} (ha : a.IsValid) (hb : b.IsValid) (hs : s.IsValid)
    (ht : t.IsValid) (early : 0 ≤ a.year ∧ a.year ≤ 9999) (early' : 0 ≤ b.year ∧ b.year ≤ 9999) :
    stampChars a s < stampChars b t ↔ a.Precedes b ∨ a = b ∧ s.Precedes t := by
  have year : ∀ year : Int, 0 ≤ year ∧ year ≤ 9999 → yearText year = padded 4 year.natAbs := by
    intro year range
    rw [yearText, if_neg (by omega), if_pos range.2]
  have month := ha.month_le
  have month' := hb.month_le
  have day := ha.day_le
  have day' := hb.day_le
  obtain ⟨hour, minute, second, millisecond⟩ := hs
  obtain ⟨hour', minute', second', millisecond'⟩ := ht
  unfold stampChars
  rw [year _ early, year _ early']
  have years : a.year.natAbs < b.year.natAbs ↔ a.year < b.year := by omega
  have same : a.year.natAbs = b.year.natAbs ↔ a.year = b.year := by omega
  simp (disch := omega) only [padded_append_lt_iff, List.cons_lt_cons_iff, Char.lt_irrefl, true_and,
    false_or, years, same, List.lt_irrefl, and_false, or_false]
  rw [Date.mk.injEq, Date.Precedes, ← Time.Precedes]
  tauto

theorem stampChars_length {date : Date} {time : Time} (hd : date.IsValid) (ht : time.IsValid)
    (early : 0 ≤ date.year ∧ date.year ≤ 9999) : (stampChars date time).length = 24 := by
  have sized : ∀ {width n : Nat}, n < 10 ^ (width + 1) → (padded (width + 1) n).length = width + 1 := by
    intro width n h
    rw [padded_eq h, lastDigits_length]
  have month := hd.month_le
  have day := hd.day_le
  obtain ⟨hour, minute, second, millisecond⟩ := ht
  rw [stampChars, yearText, if_neg (by omega), if_pos early.2]
  simp (disch := omega) only [List.length_append, List.length_cons, sized, List.length_nil]

theorem dateOf_year_le_iff (ms year : Int) : (dateOf ms).year ≤ year ↔ ms < endOfYear year := by
  rw [(dateOf_isValid ms).year_le_iff, dateOf, Date.toDays_ofDays, endOfYear]
  unfold dayMilliseconds
  omega

/-- A word of the range of years that can be named stands for itself. -/
theorem dateTimeText_eq {ms : Nat} (h : (ms : Int) < endOfYear lastYear) :
    dateTimeText ms = String.ofList (dateTimeChars ms) := by
  have bounds : endOfYear (firstYear - 1) ≤ 0 ∧ endOfYear lastYear < leastSignedMagnitude := by decide
  have word : signedWord ms = ms := by
    unfold leastSignedMagnitude at bounds
    exact Int.bmod_eq_of_le (by unfold maxWord; omega) (by unfold maxWord; omega)
  rw [dateTimeText, word, if_pos]
  omega

theorem dateOf_year_of_lt {ms : Nat} (h : (ms : Int) < endOfYear 9999) :
    0 ≤ (dateOf ms).year ∧ (dateOf ms).year ≤ 9999 := by
  have first : endOfYear (-1) ≤ 0 := by decide
  have late := mt (dateOf_year_le_iff ms (-1)).1 (by omega)
  have early := (dateOf_year_le_iff ms 9999).2 h
  omega

theorem dateTimeText_length {ms : Nat} (h : (ms : Int) < endOfYear 9999) : (dateTimeText ms).length = 24 := by
  have later : endOfYear 9999 < endOfYear lastYear := by decide
  rw [dateTimeText_eq (h.trans later), String.length_ofList, dateTimeChars_eq]
  exact stampChars_length (dateOf_isValid ms) (timeOf_isValid ms) (dateOf_year_of_lt h)

theorem dateTimeText_lt_iff {a b : Nat} (ha : (a : Int) < endOfYear 9999) (hb : (b : Int) < endOfYear 9999) :
    dateTimeText a < dateTimeText b ↔ a < b := by
  have later : endOfYear 9999 < endOfYear lastYear := by decide
  have order := stampChars_lt_iff (dateOf_isValid a) (dateOf_isValid b) (timeOf_isValid a) (timeOf_isValid b)
    (dateOf_year_of_lt ha) (dateOf_year_of_lt hb)
  have instants := instantOf_lt_iff (dateOf_isValid a) (dateOf_isValid b) (timeOf_isValid a) (timeOf_isValid b)
  rw [instantOf_dateOf, instantOf_dateOf] at instants
  rw [dateTimeText_eq (ha.trans later), dateTimeText_eq (hb.trans later), String.lt_iff_toList_lt,
    String.toList_ofList, String.toList_ofList, dateTimeChars_eq, dateTimeChars_eq, order, ← Int.ofNat_lt,
    instants]

end Telemetry.Calendar
