import Telemetry.Proofs.Decimal.Digits
import Telemetry.Proofs.Json.Strings

set_option autoImplicit false

/-!
The text of a value without floats reads as that value: `ofText?_text`. Numbers end where a comma, a bracket
or a brace follows, so the statements on parts of a text say what comes after.
-/

namespace Telemetry.Json

open Decimal (intDigits isDigit natDigits natDigits_isDigit natDigits_ne_nil natDigits_zero_or
  digitsValue digitsValue_natDigits spanDigits spanDigits_append)

mutual

/-- Whether a value holds no float, only numbers of 64 bits and objects with members in key order, and
nests at most a number of levels deep. -/
def IsPlain : Nat → Json → Prop
  | _, .null => True
  | _, .bool _ => True
  | _, .int n => -(leastSignedMagnitude : Int) ≤ n ∧ n ≤ maxWord
  | _, .float _ => False
  | _, .string _ => True
  | 0, .array _ => False
  | depth + 1, .array items => ItemsPlain depth items
  | 0, .object _ => False
  | depth + 1, .object members => Dictionary.Ascending members ∧ MembersPlain depth members

def ItemsPlain : Nat → List Json → Prop
  | _, [] => True
  | depth, item :: rest => IsPlain depth item ∧ ItemsPlain depth rest

def MembersPlain : Nat → List (String × Json) → Prop
  | _, [] => True
  | depth, (_, value) :: rest => IsPlain depth value ∧ MembersPlain depth rest

end

def Closes (rest : List Char) : Prop := ∀ c ∈ rest.head?, c = ',' ∨ c = ']' ∨ c = '}'

theorem closes_cons {c : Char} (h : c = ',' ∨ c = ']' ∨ c = '}') (rest : List Char) :
    Closes (c :: rest) := by
  intro d hd
  cases hd
  exact h

theorem readWhole?_natDigits (n : Nat) {rest : List Char}
    (stop : ∀ c ∈ rest.head?, isDigit c = false) :
    readWhole? (natDigits n ++ rest) = some (natDigits n, rest) := by
  have span := spanDigits_append (natDigits_isDigit n) stop
  unfold readWhole?
  rw [span]
  obtain zero | ⟨c, more, digits, nonzero⟩ := natDigits_zero_or n
  · rw [zero]
    rfl
  · rw [digits]
    split
    · rename_i none
      cases none
    · rename_i one
      cases one
      exact absurd rfl nonzero
    · rename_i leading
      cases leading
      exact absurd rfl nonzero
    · rename_i same
      cases same
      rfl

theorem readFraction?_closes {rest : List Char} (h : Closes rest) :
    readFraction? rest = some ([], rest) := by
  cases rest with
  | nil => rfl
  | cons c rest => obtain rfl | rfl | rfl := h c rfl <;> rfl

theorem readPower?_closes {rest : List Char} (h : Closes rest) :
    readPower? rest = some (none, rest) := by
  cases rest with
  | nil => rfl
  | cons c rest => obtain rfl | rfl | rfl := h c rfl <;> rfl

theorem isDigit_of_closes {rest : List Char} (h : Closes rest) :
    ∀ c ∈ rest.head?, isDigit c = false := by
  intro c hc
  obtain rfl | rfl | rfl := h c hc <;> rfl

def numberText (n : Int) : NumberText := ⟨decide (n < 0), natDigits n.natAbs, [], none⟩

theorem readNumber?_natDigits (n : Nat) {rest : List Char} (h : Closes rest) :
    readNumber? (natDigits n ++ rest) = some (⟨false, natDigits n, [], none⟩, rest) := by
  have whole := readWhole?_natDigits n (isDigit_of_closes h)
  have digit := natDigits_isDigit n
  obtain ⟨c, more, digits⟩ := List.exists_cons_of_ne_nil (natDigits_ne_nil n)
  rw [digits, List.cons_append] at whole ⊢
  unfold readNumber?
  split
  rename_i parts
  split at parts
  · rename_i minus
    cases minus
    have sign := digit '-' (by simp [digits])
    cases sign
  · cases parts
    simp only [whole, readFraction?_closes h, readPower?_closes h, Option.bind_eq_bind,
      Option.bind_some]

theorem readNumber?_intDigits (n : Int) {rest : List Char} (h : Closes rest) :
    readNumber? (intDigits n ++ rest) = some (numberText n, rest) := by
  unfold intDigits numberText
  split_ifs with negative
  · rw [decide_eq_true negative, List.cons_append]
    unfold readNumber?
    simp only [readWhole?_natDigits n.natAbs (isDigit_of_closes h), readFraction?_closes h,
      readPower?_closes h, Option.bind_eq_bind, Option.bind_some]
  · rw [decide_eq_false negative]
    exact readNumber?_natDigits n.natAbs h

theorem numberText_value? {n : Int} (low : -(leastSignedMagnitude : Int) ≤ n) (high : n ≤ maxWord) :
    (numberText n).value? = some (.int n) := by
  unfold NumberText.value? numberText
  simp only [digitsValue_natDigits, List.isEmpty_nil, Option.isNone_none, Bool.and_self,
    Bool.true_and]
  by_cases negative : n < 0
  · have size : 0 < n.natAbs ∧ n.natAbs ≤ leastSignedMagnitude := by omega
    have back : -(n.natAbs : Int) = n := by omega
    simp only [negative, size, back, decide_true, Bool.not_true, Bool.false_and, Bool.and_self,
      Bool.false_eq_true, if_false, if_true]
  · have size : n.natAbs ≤ maxWord := by omega
    have back : (n.natAbs : Int) = n := by omega
    simp only [negative, size, back, decide_false, Bool.not_false, decide_true, Bool.and_self, if_true]

/-- The text of a number begins with a digit or a minus sign. -/
theorem intDigits_head (n : Int) :
    ∃ c rest, intDigits n = c :: rest ∧ (isDigit c = true ∨ c = '-') := by
  unfold intDigits
  split_ifs
  · exact ⟨'-', _, rfl, .inr rfl⟩
  · obtain ⟨c, rest, digits⟩ := List.exists_cons_of_ne_nil (natDigits_ne_nil n.natAbs)
    exact ⟨c, rest, digits, .inl (natDigits_isDigit n.natAbs c (by simp [digits]))⟩

theorem not_blank_of_number {c : Char} (h : isDigit c = true ∨ c = '-') : isBlank c = false := by
  unfold isBlank
  simp only [Bool.or_eq_false_iff, beq_eq_false_iff_ne, ne_eq]
  refine ⟨⟨⟨?_, ?_⟩, ?_⟩, ?_⟩ <;>
    · rintro rfl
      revert h
      decide

theorem readTree?_number {c : Char} (h : isDigit c = true ∨ c = '-') (fuel : Nat)
    (rest : List Char) :
    readTree? (fuel + 1) (c :: rest) =
      (readNumber? (c :: rest)).map fun read => (.number read.1, read.2) := by
  have blanks : skipBlanks (c :: rest) = c :: rest := by
    rw [skipBlanks, List.dropWhile_cons, not_blank_of_number h, if_neg Bool.false_ne_true]
  rw [readTree?, blanks]
  split
  -- no word, string, array or object begins like a number
  case h_7 => rfl
  all_goals
    rename_i same
    cases same
    exact absurd h (by decide)

theorem readTree?_string (value : String) (fuel : Nat) (rest : List Char) :
    readTree? (fuel + 1) (quoted value.toList ++ rest) =
      some (.string (value.toList.map pieceOf), rest) := by
  have blanks : skipBlanks (quoted value.toList ++ rest) = quoted value.toList ++ rest := rfl
  rw [readTree?, blanks]
  simp only [quoted, List.cons_append, List.append_assoc, List.nil_append, readString?_quoted,
    Option.map_some]

/-- The text of a value begins with a character that neither a blank nor a closing bracket is. -/
theorem chars_head {depth : Nat} {value : Json} (h : value.IsPlain depth) :
    ∃ c rest, value.chars = c :: rest ∧ isBlank c = false ∧ c ≠ ']' := by
  cases value with
  | null => exact ⟨'n', _, rfl, rfl, by decide⟩
  | bool value =>
    cases value
    · exact ⟨'f', _, rfl, rfl, by decide⟩
    · exact ⟨'t', _, rfl, rfl, by decide⟩
  | int n =>
    obtain ⟨c, rest, digits, number⟩ := intDigits_head n
    refine ⟨c, rest, by rw [chars, digits], not_blank_of_number number, ?_⟩
    rintro rfl
    revert number
    decide
  | float value => cases h
  | string value => exact ⟨'"', _, rfl, rfl, by decide⟩
  | array items => exact ⟨'[', _, rfl, rfl, by decide⟩
  | object members => exact ⟨'{', _, rfl, rfl, by decide⟩

theorem readTree?_bracket (fuel : Nat) (rest : List Char) :
    readTree? (fuel + 1) ('[' :: rest) =
      match skipBlanks rest with
      | ']' :: rest => some (.array [], rest)
      | rest => (readItems? fuel rest).map fun read => (.array read.1, read.2) := rfl

theorem readTree?_array {c : Char} {rest : List Char} (blank : isBlank c = false) (apart : c ≠ ']')
    (fuel : Nat) : readTree? (fuel + 1) ('[' :: c :: rest) =
      (readItems? fuel (c :: rest)).map fun read => (.array read.1, read.2) := by
  have blanks : skipBlanks (c :: rest) = c :: rest := by
    rw [skipBlanks, List.dropWhile_cons, blank, if_neg Bool.false_ne_true]
  rw [readTree?_bracket, blanks]
  split
  · rename_i same
    cases same
    exact absurd rfl apart
  · rfl

theorem readTree?_object (fuel : Nat) (rest : List Char) :
    readTree? (fuel + 1) ('{' :: '"' :: rest) =
      (readMembers? fuel ('"' :: rest)).map fun read => (.object read.1, read.2) := rfl

theorem itemsChars_cons (item : Json) {rest : List Json} (h : rest ≠ []) :
    itemsChars (item :: rest) = item.chars ++ ',' :: itemsChars rest := by
  cases rest with
  | nil => exact absurd rfl h
  | cons next rest =>
    rw [itemsChars]
    exact h

theorem membersChars_cons (key : String) (value : Json) {rest : List (String × Json)}
    (h : rest ≠ []) : membersChars ((key, value) :: rest) =
      quoted key.toList ++ ':' :: (value.chars ++ ',' :: membersChars rest) := by
  cases rest with
  | nil => exact absurd rfl h
  | cons next rest =>
    rw [membersChars]
    exact h

theorem membersChars_head (member : String × Json) (rest : List (String × Json)) :
    ∃ more, membersChars (member :: rest) = '"' :: more := by
  obtain ⟨key, value⟩ := member
  cases rest with
  | nil => exact ⟨_, rfl⟩
  | cons next rest => exact ⟨_, rfl⟩

theorem readMembers?_key (key : String) (fuel : Nat) (tail : List Char) :
    readMembers? (fuel + 1) (quoted key.toList ++ ':' :: tail) =
      (readTree? fuel tail).bind fun read =>
        match skipBlanks read.2 with
        | '}' :: rest => some ([(key.toList.map pieceOf, read.1)], rest)
        | ',' :: rest => (readMembers? fuel rest).map fun more =>
            ((key.toList.map pieceOf, read.1) :: more.1, more.2)
        | _ => none := by
  have text : quoted key.toList ++ ':' :: tail =
      '"' :: (key.toList.flatMap escapeChar ++ '"' :: ':' :: tail) := by simp [quoted]
  have quote (rest : List Char) : skipBlanks ('"' :: rest) = '"' :: rest := rfl
  have colon : skipBlanks (':' :: tail) = ':' :: tail := rfl
  rw [text, readMembers?, quote]
  simp only [readString?_quoted, Option.bind_eq_bind, Option.bind_some, colon]
  rcases readTree? fuel tail with _ | ⟨tree, rest⟩
  · rfl
  · simp only [Option.bind_some]
    rcases skipBlanks rest with _ | ⟨c, more⟩
    · rfl
    by_cases brace : c = '}'
    · subst brace
      rfl
    by_cases comma : c = ','
    · subst comma
      cases h : readMembers? fuel more <;> simp [h]
    simp [brace, comma]

theorem readItems?_item (fuel : Nat) (cs : List Char) :
    readItems? (fuel + 1) cs =
      (readTree? fuel cs).bind fun read =>
        match skipBlanks read.2 with
        | ']' :: rest => some ([read.1], rest)
        | ',' :: rest => (readItems? fuel rest).map fun more => (read.1 :: more.1, more.2)
        | _ => none := by
  rw [readItems?]
  rcases readTree? fuel cs with _ | ⟨tree, rest⟩
  · rfl
  · simp only [Option.bind_eq_bind, Option.bind_some]
    rcases skipBlanks rest with _ | ⟨c, more⟩
    · rfl
    by_cases bracket : c = ']'
    · subst bracket
      rfl
    by_cases comma : c = ','
    · subst comma
      cases h : readItems? fuel more <;> simp [h]
    simp [bracket, comma]

/-- A tree that a text reads as wherever it stands, if there is fuel for each of its characters. -/
def Reads (text : List Char) (tree : Tree) : Prop :=
  ∀ (fuel : Nat) (rest : List Char), text.length < fuel → Closes rest →
    readTree? fuel (text ++ rest) = some (tree, rest)

def ReadsItems (text : List Char) (trees : List Tree) : Prop :=
  ∀ (fuel : Nat) (rest : List Char), text.length + 1 < fuel →
    readItems? fuel (text ++ ']' :: rest) = some (trees, rest)

def ReadsMembers (text : List Char) (members : List (List Piece × Tree)) : Prop :=
  ∀ (fuel : Nat) (rest : List Char), text.length + 1 < fuel →
    readMembers? fuel (text ++ '}' :: rest) = some (members, rest)

theorem exists_fuel {n fuel : Nat} (h : n < fuel) : ∃ less, fuel = less + 1 :=
  Nat.exists_eq_add_one_of_ne_zero (Nat.ne_of_gt (Nat.zero_lt_of_lt h))

theorem reads_int (n : Int) : Reads (intDigits n) (.number (numberText n)) := by
  intro fuel rest enough closes
  obtain ⟨fuel, rfl⟩ := exists_fuel enough
  obtain ⟨c, more, digits, number⟩ := intDigits_head n
  have read := readNumber?_intDigits n closes
  rw [digits, List.cons_append] at read ⊢
  rw [readTree?_number number, read]
  rfl

theorem reads_string (value : String) :
    Reads (quoted value.toList) (.string (value.toList.map pieceOf)) := by
  intro fuel rest enough _
  obtain ⟨fuel, rfl⟩ := exists_fuel enough
  exact readTree?_string value fuel rest

theorem ReadsItems.reads {text : List Char} {trees : List Tree} (h : ReadsItems text trees)
    (head : ∃ c rest, text = c :: rest ∧ isBlank c = false ∧ c ≠ ']') :
    Reads ('[' :: (text ++ [']'])) (.array trees) := by
  intro fuel rest enough _
  obtain ⟨fuel, rfl⟩ := exists_fuel enough
  have long : text.length + 1 < fuel := by
    simp only [List.length_cons, List.length_append, List.length_nil] at enough
    omega
  have items := h fuel rest long
  obtain ⟨c, more, rfl, blank, apart⟩ := head
  simp only [List.cons_append, List.append_assoc, List.nil_append] at items ⊢
  rw [readTree?_array blank apart, items]
  rfl

theorem ReadsMembers.reads {text : List Char} {members : List (List Piece × Tree)}
    (h : ReadsMembers text members) (head : ∃ rest, text = '"' :: rest) :
    Reads ('{' :: (text ++ ['}'])) (.object members) := by
  intro fuel rest enough _
  obtain ⟨fuel, rfl⟩ := exists_fuel enough
  have long : text.length + 1 < fuel := by
    simp only [List.length_cons, List.length_append, List.length_nil] at enough
    omega
  have read := h fuel rest long
  obtain ⟨more, rfl⟩ := head
  simp only [List.cons_append, List.append_assoc, List.nil_append] at read ⊢
  rw [readTree?_object, read]
  rfl

theorem Reads.lastItem {text : List Char} {tree : Tree} (h : Reads text tree) :
    ReadsItems text [tree] := by
  intro fuel rest enough
  obtain ⟨fuel, rfl⟩ := exists_fuel enough
  have item := h fuel (']' :: rest) (by omega) (closes_cons (by simp) rest)
  rw [readItems?_item, item]
  rfl

theorem Reads.item {text more : List Char} {tree : Tree} {trees : List Tree}
    (h : Reads text tree) (tail : ReadsItems more trees) :
    ReadsItems (text ++ ',' :: more) (tree :: trees) := by
  intro fuel rest enough
  obtain ⟨fuel, rfl⟩ := exists_fuel enough
  simp only [List.length_append, List.length_cons] at enough
  have item := h fuel (',' :: (more ++ ']' :: rest)) (by omega) (closes_cons (by simp) _)
  have items := tail fuel rest (by omega)
  rw [List.append_assoc, List.cons_append, readItems?_item, item]
  change (readItems? fuel (more ++ ']' :: rest)).map _ = _
  rw [items]
  rfl

theorem Reads.lastMember {text : List Char} {tree : Tree} (h : Reads text tree) (key : String) :
    ReadsMembers (quoted key.toList ++ ':' :: text) [(key.toList.map pieceOf, tree)] := by
  intro fuel rest enough
  obtain ⟨fuel, rfl⟩ := exists_fuel enough
  simp only [List.length_append, List.length_cons] at enough
  have value := h fuel ('}' :: rest) (by omega) (closes_cons (by simp) rest)
  rw [List.append_assoc, List.cons_append, readMembers?_key, value]
  rfl

theorem Reads.member {text more : List Char} {tree : Tree} {members : List (List Piece × Tree)}
    (h : Reads text tree) (key : String) (tail : ReadsMembers more members) :
    ReadsMembers (quoted key.toList ++ ':' :: (text ++ ',' :: more))
      ((key.toList.map pieceOf, tree) :: members) := by
  intro fuel rest enough
  obtain ⟨fuel, rfl⟩ := exists_fuel enough
  simp only [List.length_append, List.length_cons] at enough
  have value := h fuel (',' :: (more ++ '}' :: rest)) (by omega) (closes_cons (by simp) _)
  have read := tail fuel rest (by omega)
  simp only [List.append_assoc, List.cons_append]
  rw [readMembers?_key, value]
  change (readMembers? fuel (more ++ '}' :: rest)).map _ = _
  rw [read]
  rfl

theorem Reads.ofChars? {text : List Char} {tree : Tree} (h : Reads text tree) :
    Tree.ofChars? text = some tree := by
  have whole := h (text.length + 1) [] (Nat.lt_succ_self _) (fun _ none => nomatch none)
  rw [List.append_nil] at whole
  rw [Tree.ofChars?, whole]
  rfl

theorem itemsChars_head {depth : Nat} {item : Json} (h : item.IsPlain depth) (items : List Json) :
    ∃ c rest, itemsChars (item :: items) = c :: rest ∧ isBlank c = false ∧ c ≠ ']' := by
  obtain ⟨c, rest, text, blank, apart⟩ := chars_head h
  by_cases last : items = []
  · subst last
    exact ⟨c, rest, text, blank, apart⟩
  · rw [itemsChars_cons item last, text]
    exact ⟨c, _, rfl, blank, apart⟩

mutual

/-- One case per constructor; the depth is that of the value, the fuel that of its text. -/
theorem exists_reads (value : Json) (depth : Nat) (h : value.IsPlain depth) :
    ∃ tree, Reads value.chars tree ∧ tree.value? depth = some value := by
  match value, depth, h with
  | .null, _, _ =>
    refine ⟨.null, fun fuel rest enough _ => ?_, rfl⟩
    obtain ⟨fuel, rfl⟩ := exists_fuel enough
    rfl
  | .bool value, _, _ =>
    refine ⟨.bool value, fun fuel rest enough _ => ?_, rfl⟩
    obtain ⟨fuel, rfl⟩ := exists_fuel enough
    cases value <;> rfl
  | .int n, _, h => exact ⟨_, reads_int n, numberText_value? h.1 h.2⟩
  | .string value, _, _ =>
    refine ⟨_, reads_string value, ?_⟩
    rw [Tree.value?, text?_pieces, Option.map_some]
  | .array [], _ + 1, _ =>
    refine ⟨.array [], fun fuel rest enough _ => ?_, rfl⟩
    obtain ⟨fuel, rfl⟩ := exists_fuel enough
    rfl
  | .array (item :: items), depth + 1, h =>
    obtain ⟨trees, read, values⟩ := exists_readsItems item items depth h.1 h.2
    refine ⟨.array trees, read.reads (itemsChars_head h.1 items), ?_⟩
    rw [Tree.value?, values, Option.map_some]
  | .object [], _ + 1, _ =>
    refine ⟨.object [], fun fuel rest enough _ => ?_, rfl⟩
    obtain ⟨fuel, rfl⟩ := exists_fuel enough
    rfl
  | .object ((key, value) :: members), depth + 1, ⟨order, plain, others⟩ =>
    obtain ⟨trees, read, values⟩ := exists_readsMembers key value members depth plain others
    refine ⟨.object trees, read.reads (membersChars_head _ _), ?_⟩
    rw [Tree.value?, values, Option.map_some, ofMembers, Dictionary.ofList_ascending order]

theorem exists_readsItems (item : Json) (items : List Json) (depth : Nat)
    (h : item.IsPlain depth) (others : ItemsPlain depth items) :
    ∃ trees, ReadsItems (itemsChars (item :: items)) trees ∧
      Tree.items? depth trees = some (item :: items) := by
  obtain ⟨tree, read, value⟩ := exists_reads item depth h
  match items, others with
  | [], _ => exact ⟨[tree], read.lastItem, by simp [Tree.items?, value]⟩
  | next :: items, ⟨plain, others⟩ =>
    obtain ⟨trees, tail, values⟩ := exists_readsItems next items depth plain others
    refine ⟨tree :: trees, ?_, by simp [Tree.items?, value, values]⟩
    rw [itemsChars_cons item (List.cons_ne_nil _ _)]
    exact read.item tail

theorem exists_readsMembers (key : String) (value : Json) (members : List (String × Json))
    (depth : Nat) (h : value.IsPlain depth) (others : MembersPlain depth members) :
    ∃ trees, ReadsMembers (membersChars ((key, value) :: members)) trees ∧
      Tree.members? depth trees = some ((key, value) :: members) := by
  obtain ⟨tree, read, evaluated⟩ := exists_reads value depth h
  match members, others with
  | [], _ =>
    refine ⟨_, read.lastMember key, ?_⟩
    simp [Tree.members?, text?_pieces, evaluated]
  | (next, other) :: members, ⟨plain, others⟩ =>
    obtain ⟨trees, tail, values⟩ := exists_readsMembers next other members depth plain others
    refine ⟨(key.toList.map pieceOf, tree) :: trees, ?_, ?_⟩
    · rw [membersChars_cons key value (List.cons_ne_nil _ _)]
      exact read.member key tail
    · simp [Tree.members?, text?_pieces, evaluated, values]

end

theorem ofText?_text {value : Json} (h : value.IsPlain maxDepth) :
    ofText? value.text = some value := by
  obtain ⟨tree, read, evaluated⟩ := exists_reads value maxDepth h
  rw [ofText?, text, String.toList_ofList, read.ofChars?]
  exact evaluated

end Telemetry.Json
