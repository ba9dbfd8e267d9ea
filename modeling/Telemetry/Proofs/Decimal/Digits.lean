import Mathlib.Data.List.Basic
import Telemetry.Decimal.Reading
import Telemetry.Decimal.Writing

set_option autoImplicit false

namespace Telemetry.Decimal

theorem isDigit_of_isDigit {c : Char} (h : c.isDigit = true) : isDigit c = true := by
  simp only [Char.isDigit, Bool.and_eq_true, decide_eq_true_eq] at h
  simp only [isDigit, Bool.and_eq_true, decide_eq_true_eq]
  exact h

theorem natDigits_isDigit (n : Nat) : ∀ c ∈ natDigits n, isDigit c = true := by
  intro c hc
  exact isDigit_of_isDigit (Nat.isDigit_of_mem_toDigits (by decide) (by decide) hc)

theorem natDigits_ne_nil (n : Nat) : natDigits n ≠ [] := Nat.toDigits_ne_nil

theorem digitsValue_natDigits (n : Nat) : digitsValue (natDigits n) = n := by
  have value : digitsValue (natDigits n) = Nat.ofDigitChars 10 (natDigits n) 0 := by
    unfold digitsValue Nat.ofDigitChars digitValue
    simp only [Nat.mul_comm]
  rw [value]
  exact Nat.ofDigitChars_ten_toDigits

theorem natDigits_zero_or (n : Nat) :
    natDigits n = ['0'] ∨ ∃ c rest, natDigits n = c :: rest ∧ c ≠ '0' := by
  induction n using Nat.strongRecOn with
  | _ n ih =>
    unfold natDigits at ih ⊢
    rw [Nat.toDigits_eq_if (by decide)]
    split_ifs with small
    · by_cases zero : n = 0
      · left
        subst zero
        rfl
      · right
        have nonzero : ∀ m < 10, m ≠ 0 → m.digitChar ≠ '0' := by decide
        exact ⟨n.digitChar, [], rfl, nonzero n small zero⟩
    · right
      obtain zero | ⟨c, rest, digits, nonzero⟩ := ih (n / 10) (by omega)
      · have value := digitsValue_natDigits (n / 10)
        rw [natDigits, zero] at value
        have : 0 = n / 10 := value
        omega
      · exact ⟨c, rest ++ [(n % 10).digitChar], by rw [digits]; rfl, nonzero⟩

theorem spanDigits_append {digits rest : List Char} (h : ∀ c ∈ digits, isDigit c = true)
    (stop : ∀ c ∈ rest.head?, isDigit c = false) :
    spanDigits (digits ++ rest) = (digits, rest) := by
  unfold spanDigits
  rw [List.takeWhile_append_of_pos h, List.dropWhile_append_of_pos h]
  cases rest with
  | nil => rw [List.takeWhile_nil, List.append_nil, List.dropWhile_nil]
  | cons c rest =>
    have last : isDigit c = false := stop c rfl
    simp [last]

end Telemetry.Decimal
