import Mathlib.Data.List.Basic
import Telemetry.Json.Reader
import Telemetry.Json.Writer

set_option autoImplicit false

namespace Telemetry.Text.Hex

theorem value?_lower (n : Nat) (h : n < 16) : value? (lower n) = some n := by
  revert n
  decide

end Telemetry.Text.Hex

namespace Telemetry.Json

def pieceOf (c : Char) : Piece :=
  if c.toNat < 32 ∧ c ∉ ['\x08', '\t', '\n', '\x0c', '\r'] then .unit c.toNat else .char c

theorem readUnit?_control (n : Nat) (h : n < 32) (rest : List Char) :
    readUnit? ('0' :: '0' :: Text.Hex.lower (n / 16) :: Text.Hex.lower (n % 16) :: rest) =
      some (n, rest) := by
  have zero : Text.Hex.value? '0' = some 0 := by decide
  simp only [readUnit?, zero, Text.Hex.value?_lower _ (show n / 16 < 16 by omega),
    Text.Hex.value?_lower _ (Nat.mod_lt n (by decide)), Option.bind_eq_bind, Option.bind_some]
  congr 2
  omega

/-- A letter after a backslash, other than `u`, is one piece. -/
theorem readPieces?_simple {e c : Char} (h : simpleEscape? e = some c) (fuel : Nat)
    (rest : List Char) :
    readPieces? (fuel + 1) ('\\' :: e :: rest) =
      (readPieces? fuel rest).map fun read => (.char c :: read.1, read.2) := by
  have hu : e ≠ 'u' := by
    rintro rfl
    simp [simpleEscape?] at h
  simp only [readPieces?, h, Option.bind_eq_bind, Option.bind_some]
  cases readPieces? fuel rest <;> rfl

theorem readPieces?_plain {c : Char} (hquote : c ≠ '"') (hslash : c ≠ '\\') (hlow : ¬c.toNat < 32)
    (fuel : Nat) (rest : List Char) :
    readPieces? (fuel + 1) (c :: rest) =
      (readPieces? fuel rest).map fun read => (.char c :: read.1, read.2) := by
  rw [readPieces?]
  · rw [if_neg (by simp [hslash, hlow])]
    cases readPieces? fuel rest <;> rfl
  · exact hquote
  · exact fun _ h _ => hslash h
  · exact fun _ _ h _ => hslash h

theorem readPieces?_escapeChar (c : Char) (fuel : Nat) (rest : List Char) :
    readPieces? (fuel + 1) (escapeChar c ++ rest) =
      (readPieces? fuel rest).map fun read => (pieceOf c :: read.1, read.2) := by
  unfold escapeChar
  split_ifs with quote slash backspace tab line page ret low
  · subst quote; exact readPieces?_simple (by decide) fuel rest
  · subst slash; exact readPieces?_simple (by decide) fuel rest
  · subst backspace; exact readPieces?_simple (by decide) fuel rest
  · subst tab; exact readPieces?_simple (by decide) fuel rest
  · subst line; exact readPieces?_simple (by decide) fuel rest
  · subst page; exact readPieces?_simple (by decide) fuel rest
  · subst ret; exact readPieces?_simple (by decide) fuel rest
  · have piece : pieceOf c = .unit c.toNat := by
      simp [pieceOf, low, backspace, tab, line, page, ret]
    rw [piece]
    simp only [List.cons_append, List.nil_append, readPieces?, readUnit?_control c.toNat low,
      Option.bind_eq_bind, Option.bind_some]
    cases readPieces? fuel rest <;> rfl
  · have piece : pieceOf c = .char c := by simp [pieceOf, low]
    rw [piece]
    exact readPieces?_plain quote slash low fuel rest

theorem readPieces?_escaped (cs rest : List Char) (fuel : Nat) (h : cs.length < fuel) :
    readPieces? fuel (cs.flatMap escapeChar ++ '"' :: rest) = some (cs.map pieceOf, rest) := by
  induction cs generalizing fuel with
  | nil =>
    obtain ⟨n, rfl⟩ := Nat.exists_eq_add_one_of_ne_zero (Nat.ne_of_gt h)
    rfl
  | cons c cs ih =>
    obtain ⟨n, rfl⟩ := Nat.exists_eq_add_one_of_ne_zero (Nat.ne_of_gt (Nat.zero_lt_of_lt h))
    rw [List.flatMap_cons, List.append_assoc, readPieces?_escapeChar, ih n (by simpa using h)]
    rfl

theorem length_le_escaped (cs : List Char) : cs.length ≤ (cs.flatMap escapeChar).length := by
  induction cs with
  | nil => exact Nat.le_refl _
  | cons c cs ih =>
    have one : 1 ≤ (escapeChar c).length := by
      unfold escapeChar
      split_ifs <;> simp
    simp only [List.flatMap_cons, List.length_append, List.length_cons]
    omega

theorem readString?_quoted (cs rest : List Char) :
    readString? (cs.flatMap escapeChar ++ '"' :: rest) = some (cs.map pieceOf, rest) := by
  refine readPieces?_escaped cs rest _ ?_
  have len := length_le_escaped cs
  simp only [List.length_append, List.length_cons]
  omega

theorem decode?_unit {n : Nat} (h : n < 32) (rest : List Piece) :
    Piece.decode? (.unit n :: rest) = (Piece.decode? rest).map (Char.ofNat n :: ·) := by
  have high : isHighSurrogate n = false := by simp [isHighSurrogate]; omega
  have low : isLowSurrogate n = false := by simp [isLowSurrogate]; omega
  cases rest with
  | nil => simp [Piece.decode?, high, low]
  | cons piece rest => cases piece <;> simp [Piece.decode?, high, low]

theorem decode?_pieces (cs : List Char) : Piece.decode? (cs.map pieceOf) = some cs := by
  induction cs with
  | nil => rfl
  | cons c cs ih =>
    rw [List.map_cons]
    by_cases h : c.toNat < 32 ∧ c ∉ ['\x08', '\t', '\n', '\x0c', '\r']
    · rw [pieceOf, if_pos h, decode?_unit h.1, ih, Char.ofNat_toNat]
      rfl
    · rw [pieceOf, if_neg h, Piece.decode?, ih]
      rfl

theorem text?_pieces (s : String) : Piece.text? (s.toList.map pieceOf) = some s := by
  rw [Piece.text?, decode?_pieces, Option.map_some, String.ofList_toList]

end Telemetry.Json
