import Mathlib.Algebra.GroupWithZero.Nat
import Telemetry.Calendar
import Telemetry.Proofs.Decimal.Digits
import Telemetry.Toml.Scalar

set_option autoImplicit false

namespace Telemetry.Calendar

open Decimal (digitValue digitsValue digitsValue_natDigits isDigit natDigits natDigits_isDigit)
open Toml (afterMark? readField?)

def lastDigits : Nat → Nat → List Char
  | 0, _ => []
  | width + 1, n => lastDigits width (n / 10) ++ [(n % 10).digitChar]

theorem lastDigits_length (width n : Nat) : (lastDigits width n).length = width := by
  induction width generalizing n with
  | zero => rfl
  | succ width ih => simp [lastDigits, ih]

theorem padded_eq {width n : Nat} (h : n < 10 ^ (width + 1)) :
    padded (width + 1) n = lastDigits (width + 1) n := by
  induction width generalizing n with
  | zero =>
    have small : n < 10 := by omega
    simp [padded, lastDigits, natDigits, Nat.toDigits_of_lt_base small, Nat.mod_eq_of_lt small]
  | succ width ih =>
    have shorter : n / 10 < 10 ^ (width + 1) := by
      rw [Nat.pow_succ] at h
      omega
    rw [lastDigits, ← ih shorter]
    by_cases small : n < 10
    · simp [padded, natDigits, Nat.toDigits_of_lt_base small, Nat.mod_eq_of_lt small, Nat.div_eq_of_lt small,
        List.replicate_succ']
    · rw [padded, natDigits, Nat.toDigits_eq_if (by decide), if_neg small, padded, natDigits,
        List.length_append, List.length_singleton, Nat.add_sub_add_right, List.append_assoc]

theorem lastDigits_isDigit (width n : Nat) : ∀ c ∈ lastDigits width n, isDigit c := by
  have digit : ∀ d < 10, isDigit d.digitChar := by decide
  induction width generalizing n with
  | zero => exact nofun
  | succ width ih =>
    intro c hc
    rw [lastDigits, List.mem_append, List.mem_singleton] at hc
    rcases hc with front | rfl
    · exact ih _ c front
    · exact digit _ (Nat.mod_lt _ (by decide))

theorem digitsValue_lastDigits {width n : Nat} (h : n < 10 ^ width) :
    digitsValue (lastDigits width n) = n := by
  have value : ∀ d < 10, digitValue d.digitChar = d := by decide
  induction width generalizing n with
  | zero =>
    have : n = 0 := by omega
    rw [this]
    rfl
  | succ width ih =>
    have front : digitsValue (lastDigits width (n / 10)) = n / 10 := by
      apply ih
      rw [Nat.pow_succ] at h
      omega
    unfold digitsValue at front ⊢
    rw [lastDigits, List.foldl_append, front, List.foldl_cons, List.foldl_nil,
      value _ (Nat.mod_lt _ (by decide))]
    omega

theorem append_lt_append_iff {x y u v : List Char} (h : x.length = y.length) :
    x ++ u < y ++ v ↔ x < y ∨ x = y ∧ u < v := by
  induction x generalizing y with
  | nil =>
    rw [List.length_nil, eq_comm, List.length_eq_zero_iff] at h
    subst h
    simp
  | cons a x ih =>
    cases y with
    | nil => simp at h
    | cons b y =>
      have same : x.length = y.length := by simpa using h
      rw [List.cons_append, List.cons_append, List.cons_lt_cons_iff, List.cons_lt_cons_iff, ih same,
        List.cons.injEq]
      tauto

theorem lastDigits_inj {width m n : Nat} (hm : m < 10 ^ width) (hn : n < 10 ^ width) :
    lastDigits width m = lastDigits width n ↔ m = n := by
  refine ⟨fun same => ?_, fun same => same ▸ rfl⟩
  rw [← digitsValue_lastDigits hm, same, digitsValue_lastDigits hn]

theorem lastDigits_lt_iff {width m n : Nat} (hm : m < 10 ^ width) (hn : n < 10 ^ width) :
    lastDigits width m < lastDigits width n ↔ m < n := by
  have digits : ∀ a < 10, ∀ b < 10, (a.digitChar < b.digitChar ↔ a < b) := by decide
  induction width generalizing m n with
  | zero =>
    have : m = 0 ∧ n = 0 := by omega
    simp [this]
  | succ width ih =>
    have hm' : m / 10 < 10 ^ width := by rw [Nat.pow_succ] at hm; omega
    have hn' : n / 10 < 10 ^ width := by rw [Nat.pow_succ] at hn; omega
    have front : lastDigits width (m / 10) < lastDigits width (n / 10) ↔ m / 10 < n / 10 := ih hm' hn'
    have last := digits (m % 10) (Nat.mod_lt _ (by decide)) (n % 10) (Nat.mod_lt _ (by decide))
    have sized : (lastDigits width (m / 10)).length = (lastDigits width (n / 10)).length := by
      rw [lastDigits_length, lastDigits_length]
    rw [lastDigits, lastDigits, append_lt_append_iff sized, front, lastDigits_inj hm' hn',
      List.cons_lt_cons_iff, last]
    simp only [List.not_lt_nil, and_false, or_false]
    omega

/-- Texts that begin with numbers of one width compare by the numbers first. -/
theorem padded_append_lt_iff {width m n : Nat} (hm : m < 10 ^ (width + 1)) (hn : n < 10 ^ (width + 1))
    (u v : List Char) :
    padded (width + 1) m ++ u < padded (width + 1) n ++ v ↔ m < n ∨ m = n ∧ u < v := by
  rw [padded_eq hm, padded_eq hn, append_lt_append_iff, lastDigits_lt_iff hm hn, lastDigits_inj hm hn]
  rw [lastDigits_length, lastDigits_length]

theorem padded_isDigit (width n : Nat) : ∀ c ∈ padded width n, isDigit c := by
  intro c hc
  rcases List.mem_append.1 hc with zero | digit
  · rw [List.eq_of_mem_replicate zero]
    decide
  · exact natDigits_isDigit n c digit

theorem digitsValue_padded (width n : Nat) : digitsValue (padded width n) = n := by
  have zeros : ∀ count, (List.replicate count '0').foldl (fun n c => n * 10 + digitValue c) 0 = 0 := by
    intro count
    induction count with
    | zero => rfl
    | succ count ih => exact ih
  have value := digitsValue_natDigits n
  unfold digitsValue at value ⊢
  rw [padded, List.foldl_append, zeros, value]

theorem le_padded_length (width n : Nat) : width ≤ (padded width n).length := by
  rw [padded, List.length_append, List.length_replicate]
  omega

theorem readField?_padded {width least most n : Nat} (h : n < 10 ^ (width + 1)) (low : least ≤ n)
    (high : n ≤ most) (rest : List Char) :
    readField? (width + 1) least most (padded (width + 1) n ++ rest) = some (n, rest) := by
  have digits : (lastDigits (width + 1) n).all isDigit := List.all_eq_true.2 (lastDigits_isDigit _ n)
  have sized := lastDigits_length (width + 1) n
  rw [padded_eq h, readField?, List.take_left' sized, List.drop_left' sized]
  simp only [sized, digits, digitsValue_lastDigits h, low, high, and_self, if_true]

theorem bind_readField? {α : Type} {width least most n : Nat} (h : n < 10 ^ (width + 1)) (low : least ≤ n)
    (high : n ≤ most) (rest : List Char) (next : Nat × List Char → Option α) :
    (readField? (width + 1) least most (padded (width + 1) n ++ rest)).bind next = next (n, rest) := by
  rw [readField?_padded h low high, Option.bind_some]

theorem bind_afterMark? {α : Type} (mark : Char) (rest : List Char) (next : List Char → Option α) :
    (afterMark? mark (mark :: rest)).bind next = next rest := by
  rw [afterMark?, if_pos rfl, Option.bind_some]

end Telemetry.Calendar
