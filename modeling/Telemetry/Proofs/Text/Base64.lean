import Telemetry.Text.Base64

set_option autoImplicit false

namespace Telemetry.Text.Base64

theorem value?_digit {n : Nat} (h : n < 64) : value? (digit n) = some n := by
  have all : ∀ n < 64, value? (digit n) = some n := by decide +kernel
  exact all n h

theorem digit_ne_pad {n : Nat} (h : n < 64) : digit n ≠ '=' := by
  have all : ∀ n < 64, digit n ≠ '=' := by decide +kernel
  exact all n h

theorem decode?_pad_two {m n : Nat} (hm : m < 64) (hn : n < 64) (even : n % 16 = 0) :
    decode? [digit m, digit n, '=', '='] = some [UInt8.ofNat ((m * 64 + n) / 16)] := by
  have zero : (m * 64 + n) % 16 = 0 := by omega
  simp [decode?, value?_digit hm, value?_digit hn, zero]

theorem decode?_pad_one {m n k : Nat} (hm : m < 64) (hn : n < 64) (hk : k < 64) (even : k % 4 = 0) :
    decode? [digit m, digit n, digit k, '='] =
      some [UInt8.ofNat (((m * 64 + n) * 64 + k) / 1024),
        UInt8.ofNat (((m * 64 + n) * 64 + k) / 4 % 256)] := by
  have zero : ((m * 64 + n) * 64 + k) % 4 = 0 := by omega
  rw [decode?]
  · simp [value?_digit hm, value?_digit hn, value?_digit hk, zero]
  · exact digit_ne_pad hk

theorem decode?_group {m n k l : Nat} (hm : m < 64) (hn : n < 64) (hk : k < 64) (hl : l < 64)
    (rest : List Char) :
    decode? (digit m :: digit n :: digit k :: digit l :: rest) =
      (decode? rest).map fun bytes =>
        UInt8.ofNat ((((m * 64 + n) * 64 + k) * 64 + l) / 65536) ::
          UInt8.ofNat ((((m * 64 + n) * 64 + k) * 64 + l) / 256 % 256) ::
            UInt8.ofNat ((((m * 64 + n) * 64 + k) * 64 + l) % 256) :: bytes := by
  rw [decode?]
  · simp only [value?_digit hm, value?_digit hn, value?_digit hk, value?_digit hl]
    cases decode? rest <;> rfl
  · exact fun _ pad => absurd pad (digit_ne_pad hl)
  · exact fun pad => absurd pad (digit_ne_pad hl)

theorem ofNat_eq {n : Nat} {byte : UInt8} (h : n = byte.toNat) : UInt8.ofNat n = byte := by
  rw [h, UInt8.ofNat_toNat]

theorem decode?_encode (bytes : List UInt8) : decode? (encode bytes) = some bytes := by
  induction bytes using encode.induct with
  | case1 => rfl
  | case2 a =>
    have ha := a.toNat_lt
    rw [encode, decode?_pad_two (by omega) (by omega) (by omega), ofNat_eq]
    omega
  | case3 a b =>
    have ha := a.toNat_lt
    have hb := b.toNat_lt
    rw [encode, decode?_pad_one (by omega) (by omega) (by omega) (by omega), ofNat_eq, ofNat_eq]
    · omega
    · omega
  | case4 a b c rest ih =>
    have ha := a.toNat_lt
    have hb := b.toNat_lt
    have hc := c.toNat_lt
    rw [encode, decode?_group (by omega) (by omega) (by omega) (by omega), ih, Option.map_some]
    simp only [Option.some.injEq, List.cons.injEq, and_true]
    exact ⟨ofNat_eq (by omega), ofNat_eq (by omega), ofNat_eq (by omega)⟩

theorem eq_digit_of_value? {c : Char} {n : Nat} (h : value? c = some n) : n < 64 ∧ c = digit n := by
  obtain ⟨small, found, -⟩ := List.findIdx?_eq_some_iff_getElem.1 h
  have size : alphabet.length = 64 := by decide
  refine ⟨by omega, ?_⟩
  rw [digit, List.getD_eq_getElem?_getD, List.getElem?_eq_getElem small, Option.getD_some]
  exact (beq_iff_eq.1 found).symm

theorem toNat_ofNat {n : Nat} (h : n < 256) : (UInt8.ofNat n).toNat = n := by
  rw [UInt8.toNat_ofNat', Nat.mod_eq_of_lt h]

/-- Only the text that bytes are written as reads as them: padded, with zero bits under the padding. -/
theorem encode_of_decode? {cs : List Char} {bytes : List UInt8} (h : decode? cs = some bytes) :
    encode bytes = cs := by
  induction cs using decode?.induct generalizing bytes with
  | case1 =>
    cases h
    rfl
  | case2 a b =>
    simp only [decode?, Option.bind_eq_bind, Option.bind_eq_some_iff] at h
    obtain ⟨m, hm, n, hn, h⟩ := h
    obtain ⟨hm, rfl⟩ := eq_digit_of_value? hm
    obtain ⟨hn, rfl⟩ := eq_digit_of_value? hn
    split at h
    · cases h
      have first : (m * 64 + n) / 16 * 16 / 64 = m := by omega
      have second : (m * 64 + n) / 16 * 16 % 64 = n := by omega
      rw [encode, toNat_ofNat (by omega)]
      simp only [first, second]
    · cases h
  | case3 a b c apart =>
    rw [decode?.eq_3 _ _ _ apart] at h
    simp only [Option.bind_eq_bind, Option.bind_eq_some_iff] at h
    obtain ⟨m, hm, n, hn, k, hk, h⟩ := h
    obtain ⟨hm, rfl⟩ := eq_digit_of_value? hm
    obtain ⟨hn, rfl⟩ := eq_digit_of_value? hn
    obtain ⟨hk, rfl⟩ := eq_digit_of_value? hk
    split at h
    · cases h
      have whole : (((m * 64 + n) * 64 + k) / 1024 * 256 + ((m * 64 + n) * 64 + k) / 4 % 256) * 4 =
          (m * 64 + n) * 64 + k := by omega
      have first : ((m * 64 + n) * 64 + k) / 4096 = m := by omega
      have second : ((m * 64 + n) * 64 + k) / 64 % 64 = n := by omega
      have third : ((m * 64 + n) * 64 + k) % 64 = k := by omega
      rw [encode, toNat_ofNat (by omega), toNat_ofNat (by omega)]
      simp only [whole, first, second, third]
    · cases h
  | case4 a b c d rest one two ih =>
    rw [decode?.eq_4 _ _ _ _ _ one two] at h
    simp only [Option.bind_eq_bind, Option.bind_eq_some_iff] at h
    obtain ⟨m, hm, n, hn, k, hk, l, hl, others, read, h⟩ := h
    obtain ⟨hm, rfl⟩ := eq_digit_of_value? hm
    obtain ⟨hn, rfl⟩ := eq_digit_of_value? hn
    obtain ⟨hk, rfl⟩ := eq_digit_of_value? hk
    obtain ⟨hl, rfl⟩ := eq_digit_of_value? hl
    cases h
    generalize number : ((m * 64 + n) * 64 + k) * 64 + l = whole
    have bytes : (whole / 65536 * 256 + whole / 256 % 256) * 256 + whole % 256 = whole := by omega
    have first : whole / 262144 = m := by omega
    have second : whole / 4096 % 64 = n := by omega
    have third : whole / 64 % 64 = k := by omega
    have fourth : whole % 64 = l := by omega
    rw [encode, toNat_ofNat (by omega), toNat_ofNat (by omega), toNat_ofNat (by omega), ih read]
    simp only [bytes, first, second, third, fourth]
  | case5 cs =>
    rw [decode?] at h
    · cases h
    all_goals assumption

theorem decode?_eq_some_iff {cs : List Char} {bytes : List UInt8} :
    decode? cs = some bytes ↔ encode bytes = cs :=
  ⟨encode_of_decode?, fun h => h ▸ decode?_encode bytes⟩

/-- The bytes of the text come back, and the text with them. -/
theorem decode?_encodeText (text : String) :
    decode? (encodeText text).toList = some (Utf8.encode text.toList) := by
  rw [encodeText, String.toList_ofList, decode?_encode]

theorem decodeText?_encodeText (text : String) : decodeText? (encodeText text) = some text := by
  rw [decodeText?, decode?_encodeText, Option.bind_some, Utf8.decode?_encode, Option.map_some,
    String.ofList_toList]

theorem encodeText_ne_empty {text : String} (h : text ≠ "") : encodeText text ≠ "" := by
  intro none
  have bytes := decodeText?_encodeText text
  rw [none] at bytes
  exact h (Option.some.inj bytes).symm

end Telemetry.Text.Base64
