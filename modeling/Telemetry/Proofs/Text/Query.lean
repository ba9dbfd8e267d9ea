import Telemetry.Text.Query

set_option autoImplicit false

namespace Telemetry.Text.Hex

theorem value?_upper {n : Nat} (h : n < 16) : value? (upper n) = some n := by
  revert n
  decide

theorem upper_isAlphanum {n : Nat} (h : n < 16) : (upper n).isAlphanum = true := by
  revert n
  decide

end Telemetry.Text.Hex

namespace Telemetry.Text.Percent

variable {keep : Char → Bool}

theorem decodeBytes_escapeByte (byte : UInt8) (rest : List Char) :
    decodeBytes (escapeByte byte ++ rest) = byte :: decodeBytes rest := by
  have bound := byte.toNat_lt
  have high : byte.toNat / 16 < 16 := by omega
  have low : byte.toNat % 16 < 16 := Nat.mod_lt _ (by decide)
  have whole : byte.toNat / 16 * 16 + byte.toNat % 16 = byte.toNat := by omega
  simp only [escapeByte, List.cons_append, List.nil_append, decodeBytes, Hex.value?_upper high,
    Hex.value?_upper low, whole, UInt8.ofNat_toNat]

theorem decodeBytes_escaped (bytes : List UInt8) (rest : List Char) :
    decodeBytes (bytes.flatMap escapeByte ++ rest) = bytes ++ decodeBytes rest := by
  induction bytes with
  | nil => rfl
  | cons byte bytes ih =>
    rw [List.flatMap_cons, List.append_assoc, decodeBytes_escapeByte, ih, List.cons_append]

theorem decodeBytes_kept {c : Char} (h : c ≠ '%') (rest : List Char) :
    decodeBytes (c :: rest) = String.utf8EncodeChar c ++ decodeBytes rest := by
  rw [decodeBytes]
  exact fun _ _ _ mark _ => h mark

theorem decodeBytes_encode (mark : keep '%' = false) (cs rest : List Char) :
    decodeBytes (encode keep cs ++ rest) = Utf8.encode cs ++ decodeBytes rest := by
  induction cs with
  | nil => rfl
  | cons c cs ih =>
    have char : decodeBytes (encodeChar keep c ++ (encode keep cs ++ rest)) =
        String.utf8EncodeChar c ++ decodeBytes (encode keep cs ++ rest) := by
      unfold encodeChar
      split
      · rename_i kept
        apply decodeBytes_kept
        rintro rfl
        exact Bool.false_ne_true (mark.symm.trans kept)
      · exact decodeBytes_escaped _ _
    have bytes : Utf8.encode (c :: cs) = String.utf8EncodeChar c ++ Utf8.encode cs := rfl
    have text : encode keep (c :: cs) = encodeChar keep c ++ encode keep cs := rfl
    rw [text, List.append_assoc, char, ih, bytes, List.append_assoc]

theorem decode?_encode (mark : keep '%' = false) (cs : List Char) : decode? (encode keep cs) = some cs := by
  have bytes := decodeBytes_encode mark cs []
  rw [List.append_nil, decodeBytes, List.append_nil] at bytes
  rw [decode?, bytes, Utf8.decode?_encode]

theorem mem_encode {c : Char} {cs : List Char} (h : c ∈ encode keep cs) :
    keep c = true ∨ c = '%' ∨ c.isAlphanum = true := by
  obtain ⟨source, -, h⟩ := List.mem_flatMap.1 h
  unfold encodeChar at h
  split at h
  · rename_i kept
    obtain rfl := List.mem_singleton.1 h
    exact .inl kept
  · obtain ⟨byte, -, h⟩ := List.mem_flatMap.1 h
    have bound := byte.toNat_lt
    simp only [escapeByte, List.mem_cons, List.not_mem_nil, or_false] at h
    obtain rfl | rfl | rfl := h
    · exact .inr (.inl rfl)
    · exact .inr (.inr (Hex.upper_isAlphanum (by omega)))
    · exact .inr (.inr (Hex.upper_isAlphanum (Nat.mod_lt _ (by decide))))

theorem mem_encode_unreserved {c : Char} {cs : List Char} (h : c ∈ encode isUnreserved cs) :
    c.isAlphanum = true ∨ c ∈ ['-', '_', '.', '~', '%'] := by
  obtain kept | rfl | digit := mem_encode h
  · simp only [isUnreserved, Bool.or_eq_true, beq_iff_eq] at kept
    simp only [List.mem_cons, List.not_mem_nil, or_false]
    grind
  · exact .inr (by decide)
  · exact .inl digit

end Telemetry.Text.Percent

namespace Telemetry.Text.Query

theorem not_mem_escaped {mark : Char} (special : mark = '&' ∨ mark = '=') (cs : List Char) :
    mark ∉ Percent.encode Percent.isUnreserved cs := by
  intro h
  obtain alphanum | other := Percent.mem_encode_unreserved h
  · obtain rfl | rfl := special <;> exact absurd alphanum (by decide)
  · obtain rfl | rfl := special <;> exact absurd other (by decide)

theorem not_mem_encodePair (pair : String × String) : '&' ∉ encodePair pair := by
  intro h
  obtain key | rest := List.mem_append.1 h
  · exact not_mem_escaped (.inl rfl) _ key
  · obtain same | value := List.mem_cons.1 rest
    · exact absurd same (by decide)
    · exact not_mem_escaped (.inl rfl) _ value

theorem mem_encode {c : Char} {pairs : List (String × String)} (h : c ∈ encode pairs) :
    c.isAlphanum = true ∨ c ∈ ['-', '_', '.', '~', '%', '&', '='] := by
  have kept {cs : List Char} (h : c ∈ Percent.encode Percent.isUnreserved cs) :
      c.isAlphanum = true ∨ c ∈ ['-', '_', '.', '~', '%', '&', '='] :=
    (Percent.mem_encode_unreserved h).imp_right fun mark => List.mem_append_left ['&', '='] mark
  obtain rfl | ⟨part, listed, h⟩ := mem_joinWith h
  · exact .inr (by decide)
  · obtain ⟨pair, -, rfl⟩ := List.mem_map.1 listed
    obtain key | rest := List.mem_append.1 h
    · exact kept key
    · obtain rfl | value := List.mem_cons.1 rest
      · exact .inr (by decide)
      · exact kept value

theorem decodePair?_encodePair (pair : String × String) : decodePair? (encodePair pair) = some pair := by
  have key : ∀ c ∈ Percent.encode Percent.isUnreserved pair.1.toList, (c != '=') = true := by
    intro c hc
    rw [bne_iff_ne]
    rintro rfl
    exact not_mem_escaped (.inr rfl) _ hc
  have mark : Percent.isUnreserved '%' = false := by decide
  rw [decodePair?, encodePair, List.dropWhile_append_of_pos key, List.takeWhile_append_of_pos key]
  simp [Percent.decode?_encode mark]

theorem encode_ne_nil {pairs : List (String × String)} (h : pairs ≠ []) : encode pairs ≠ [] := by
  cases pairs with
  | nil => exact absurd rfl h
  | cons pair rest => cases rest <;> simp [encode, joinWith, encodePair]

theorem decode?_encode (pairs : List (String × String)) : decode? (encode pairs) = some pairs := by
  have each (pairs : List (String × String)) : (pairs.map encodePair).mapM decodePair? = some pairs := by
    induction pairs with
    | nil => rfl
    | cons pair rest ih =>
      rw [List.map_cons, List.mapM_cons, decodePair?_encodePair, ih]
      rfl
  by_cases empty : pairs = []
  · rw [empty]
    rfl
  · have parts : splitOn '&' (encode pairs) = pairs.map encodePair := by
      apply splitOn_joinWith
      · simpa using empty
      · intro part h
        obtain ⟨pair, -, rfl⟩ := List.mem_map.1 h
        exact not_mem_encodePair pair
    have filled : (encode pairs).isEmpty = false := by
      simpa using encode_ne_nil empty
    rw [decode?, filled, if_neg Bool.false_ne_true, parts, each]

end Telemetry.Text.Query
