import Mathlib.Algebra.BigOperators.Group.List.Basic
import Mathlib.Algebra.GroupWithZero.Nat
import Mathlib.Data.String.Basic
import Telemetry.Proofs.PayloadText

set_option autoImplicit false

namespace Telemetry.Dictionary

variable {α : Type}

theorem lookup?_of_above {key : String} {entries : List (String × α)}
    (above : ∀ entry ∈ entries, key < entry.1) : lookup? key entries = none := by
  induction entries with
  | nil => rfl
  | cons entry rest ih =>
    have less : key < entry.1 := above entry List.mem_cons_self
    have other : key ≠ entry.1 := fun same => String.lt_irrefl _ (same ▸ less)
    rw [lookup?, if_neg other]
    exact ih fun later hlater => above later (List.mem_cons_of_mem _ hlater)

/-- What an insertion adds to a sum over the entries: the new entry, less the one that it replaces. -/
theorem sum_insertEntry (weight : String × α → Nat) (key : String) (value : α)
    {entries : List (String × α)} (h : Ascending entries) :
    ((insertEntry key value entries).map weight).sum +
        ((lookup? key entries).map fun old => weight (key, old)).getD 0 =
      (entries.map weight).sum + weight (key, value) := by
  induction entries with
  | nil => simp [insertEntry, lookup?]
  | cons entry rest ih =>
    obtain ⟨first, ordered⟩ := List.pairwise_cons.1 h
    have tail := ih ordered
    rw [insertEntry]
    split_ifs with less same
    · have none : lookup? key (entry :: rest) = none := by
        apply lookup?_of_above
        intro later hlater
        obtain rfl | hlater := List.mem_cons.1 hlater
        · exact less
        · exact String.lt_trans less (first later hlater)
      rw [none]
      simp
      omega
    · subst same
      simp [lookup?]
      omega
    · simp only [lookup?, same, if_false, List.map_cons, List.sum_cons]
      omega

end Telemetry.Dictionary

namespace Telemetry.Json

open Decimal (isDigit natDigits natDigits_isDigit)
open String (utf8Len)

theorem text_bytes (value : Json) : value.text.utf8ByteSize = utf8Len value.chars :=
  String.utf8ByteSize_ofList _

theorem quoted_bytes (cs : List Char) : utf8Len (quoted cs) = utf8Len (cs.flatMap escapeChar) + 2 := by
  have quote : '"'.utf8Size = 1 := rfl
  simp [quoted, quote]

theorem escapeChar_digit {c : Char} (h : isDigit c = true) : escapeChar c = [c] ∧ c.utf8Size = 1 := by
  simp only [isDigit, Bool.and_eq_true, decide_eq_true_eq, Char.le_def, UInt32.le_iff_toNat_le] at h
  have low : 48 ≤ c.toNat := h.1
  have high : c.toNat ≤ 57 := h.2
  constructor
  · unfold escapeChar
    split_ifs with quote slash backspace tab line page ret control
    · subst quote; simp at low
    · subst slash; simp at high
    · subst backspace; simp at low
    · subst tab; simp at low
    · subst line; simp at low
    · subst page; simp at low
    · subst ret; simp at low
    · omega
    · rfl
  · have small : c.val ≤ 0x7f := UInt32.le_iff_toNat_le.2 (Nat.le_trans high (by decide))
    simp [Char.utf8Size, small]

theorem quoted_natDigits_bytes (n : Nat) :
    utf8Len (quoted (natDigits n)) = (natDigits n).length + 2 := by
  rw [quoted_bytes]
  have digits := natDigits_isDigit n
  generalize natDigits n = cs at digits ⊢
  induction cs with
  | nil => rfl
  | cons c cs ih =>
    obtain ⟨plain, size⟩ := escapeChar_digit (digits c List.mem_cons_self)
    have tail := ih fun d hd => digits d (List.mem_cons_of_mem _ hd)
    simp only [List.flatMap_cons, plain, List.singleton_append, String.utf8Len_cons, size,
      List.length_cons]
    omega

theorem itemsChars_bytes (item : Json) (items : List Json) :
    utf8Len (itemsChars (item :: items)) + 1 =
      ((item :: items).map fun item => utf8Len item.chars + 1).sum := by
  have comma : ','.utf8Size = 1 := rfl
  induction items generalizing item with
  | nil => simp [itemsChars]
  | cons next items ih =>
    have tail := ih next
    rw [itemsChars_cons item (List.cons_ne_nil _ _), List.map_cons, List.sum_cons, ← tail]
    simp only [String.utf8Len_append, String.utf8Len_cons, comma]
    omega

theorem array_bytes (items : List Json) : utf8Len (Json.array items).chars =
    2 + (items.map fun item => utf8Len item.chars).sum + (items.length - 1) := by
  have opening : '['.utf8Size = 1 := rfl
  have closing : ']'.utf8Size = 1 := rfl
  cases items with
  | nil => rfl
  | cons item items =>
    have inside := itemsChars_bytes item items
    rw [List.sum_map_add] at inside
    simp [chars, opening, closing] at inside ⊢
    omega

def memberBytes (entry : String × String) : Nat :=
  utf8Len (quoted entry.1.toList) + 1 + utf8Len (quoted entry.2.toList)

theorem membersChars_bytes (entry : String × String) (entries : List (String × String)) :
    utf8Len (membersChars ((entry :: entries).map stringMember)) + 1 =
      ((entry :: entries).map fun entry => memberBytes entry + 1).sum := by
  have colon : ':'.utf8Size = 1 := rfl
  have comma : ','.utf8Size = 1 := rfl
  induction entries generalizing entry with
  | nil =>
    simp only [List.map_cons, List.map_nil, stringMember, membersChars, chars, memberBytes,
      String.utf8Len_append, String.utf8Len_cons, colon, List.sum_cons, List.sum_nil]
    omega
  | cons next entries ih =>
    have tail := ih next
    have members : (entry :: next :: entries).map stringMember =
        (entry.1, .string entry.2) :: (next :: entries).map stringMember := rfl
    have sizes : ((entry :: next :: entries).map fun entry => memberBytes entry + 1).sum =
        memberBytes entry + 1 + ((next :: entries).map fun entry => memberBytes entry + 1).sum :=
      List.sum_cons
    rw [members, membersChars_cons entry.1 (.string entry.2) (by simp), sizes, ← tail]
    simp only [chars, memberBytes, String.utf8Len_append, String.utf8Len_cons, colon, comma]
    omega

theorem ofStrings_bytes {entries : List (String × String)} (h : entries ≠ []) :
    utf8Len (ofStrings entries).chars = 1 + (entries.map fun entry => memberBytes entry + 1).sum := by
  have opening : '{'.utf8Size = 1 := rfl
  have closing : '}'.utf8Size = 1 := rfl
  obtain ⟨entry, entries, rfl⟩ := List.exists_cons_of_ne_nil h
  have inside := membersChars_bytes entry entries
  have object : (ofStrings (entry :: entries)).chars =
      '{' :: (membersChars ((entry :: entries).map stringMember) ++ ['}']) := rfl
  rw [object, ← inside]
  simp [opening, closing]
  omega

end Telemetry.Json
