set_option autoImplicit false

namespace Telemetry.Text

def joinWith (separator : Char) : List (List Char) → List Char
  | [] => []
  | [part] => part
  | part :: rest => part ++ separator :: joinWith separator rest

def splitOn (separator : Char) : List Char → List (List Char)
  | [] => [[]]
  | c :: rest =>
    if c = separator then [] :: splitOn separator rest
    else
      match splitOn separator rest with
      | [] => [[c]]
      | part :: parts => (c :: part) :: parts

theorem splitOn_ne_nil (separator : Char) (cs : List Char) : splitOn separator cs ≠ [] := by
  cases cs with
  | nil => simp [splitOn]
  | cons c rest =>
    unfold splitOn
    split
    · simp
    · split <;> simp

theorem joinWith_cons (separator : Char) (part : List Char) {parts : List (List Char)}
    (h : parts ≠ []) :
    joinWith separator (part :: parts) = part ++ separator :: joinWith separator parts := by
  cases parts with
  | nil => exact absurd rfl h
  | cons => rfl

theorem joinWith_splitOn (separator : Char) (cs : List Char) :
    joinWith separator (splitOn separator cs) = cs := by
  induction cs with
  | nil => rfl
  | cons c rest ih =>
    unfold splitOn
    split
    · rename_i h
      rw [joinWith_cons _ _ (splitOn_ne_nil _ _), ih, h, List.nil_append]
    · split
      · rename_i h
        exact absurd h (splitOn_ne_nil _ _)
      · rename_i part parts h
        rw [h] at ih
        cases parts with
        | nil => simpa [joinWith] using ih
        | cons next others =>
          rw [joinWith_cons _ _ (List.cons_ne_nil _ _), List.cons_append,
            ← joinWith_cons _ _ (List.cons_ne_nil next others), ih]

theorem splitOn_append (separator : Char) (front back : List Char) :
    splitOn separator (front ++ separator :: back) = splitOn separator front ++ splitOn separator back := by
  induction front with
  | nil => simp [splitOn]
  | cons c rest ih =>
    rw [List.cons_append, splitOn, splitOn, ih]
    split
    · rfl
    · cases h : splitOn separator rest with
      | nil => exact absurd h (splitOn_ne_nil separator rest)
      | cons part parts => rfl

theorem splitOn_of_not_mem {separator : Char} {part : List Char} (h : separator ∉ part) :
    splitOn separator part = [part] := by
  induction part with
  | nil => rfl
  | cons c rest ih =>
    obtain ⟨apart, others⟩ := not_or.1 (fun found => h (List.mem_cons.2 found))
    rw [splitOn, if_neg (Ne.symm apart), ih others]

theorem splitOn_joinWith {separator : Char} {parts : List (List Char)} (some : parts ≠ [])
    (apart : ∀ part ∈ parts, separator ∉ part) : splitOn separator (joinWith separator parts) = parts := by
  induction parts with
  | nil => exact absurd rfl some
  | cons part rest ih =>
    have first := splitOn_of_not_mem (apart part List.mem_cons_self)
    cases rest with
    | nil => exact first
    | cons next others =>
      have tail := ih (List.cons_ne_nil _ _) fun part h => apart part (List.mem_cons_of_mem _ h)
      rw [joinWith_cons _ _ (List.cons_ne_nil _ _), splitOn_append, first, tail]
      rfl

theorem mem_joinWith {separator c : Char} {parts : List (List Char)}
    (h : c ∈ joinWith separator parts) : c = separator ∨ ∃ part ∈ parts, c ∈ part := by
  induction parts with
  | nil => exact absurd h List.not_mem_nil
  | cons part rest ih =>
    cases rest with
    | nil => exact .inr ⟨part, List.mem_cons_self, h⟩
    | cons next others =>
      rw [joinWith_cons _ _ (List.cons_ne_nil _ _), List.mem_append, List.mem_cons] at h
      obtain h | rfl | h := h
      · exact .inr ⟨part, List.mem_cons_self, h⟩
      · exact .inl rfl
      · obtain same | ⟨found, listed, h⟩ := ih h
        · exact .inl same
        · exact .inr ⟨found, List.mem_cons_of_mem _ listed, h⟩

end Telemetry.Text
