import Telemetry.Text.Hex

set_option autoImplicit false

namespace Telemetry.Character

structure Range where
  first : Nat
  last : Nat
  step : Nat := 1
  deriving Repr

def Range.contains (range : Range) (codePoint : Nat) : Bool :=
  range.first ≤ codePoint && codePoint ≤ range.last && (codePoint - range.first) % range.step == 0

def words : List Char → List (List Char)
  | [] => []
  | c :: rest =>
    if c = ' ' ∨ c = '\n' then words rest
    else
      match rest with
      | [] => [[c]]
      | next :: _ =>
        if next = ' ' ∨ next = '\n' then [c] :: words rest
        else
          match words rest with
          | [] => [[c]]
          | word :: others => (c :: word) :: others

def hexValue (cs : List Char) : Nat :=
  cs.foldl (fun n c => n * 16 + (Text.Hex.value? c).getD 0) 0

def cutAt (separator : Char) (cs : List Char) : List Char × Option (List Char) :=
  match cs.dropWhile (· != separator) with
  | [] => (cs, none)
  | _ :: rest => (cs.takeWhile (· != separator), some rest)

def Range.ofWord (word : List Char) : Range :=
  match cutAt '-' word with
  | (first, some last) => ⟨hexValue first, hexValue last, 1⟩
  | (_, none) =>
    match cutAt '/' word with
    | (first, some last) => ⟨hexValue first, hexValue last, 2⟩
    | (first, none) => ⟨hexValue first, hexValue first, 1⟩

def rangesOf (table : String) : List Range := (words table.toList).map Range.ofWord

def Range.anyContains (ranges : List Range) (c : Char) : Bool :=
  ranges.any (·.contains c.toNat)

def codePointsOf : List Char → List Nat
  | [] => []
  | cs => (words (cs.map fun c => if c = '+' then ' ' else c)).map hexValue

structure Mapping where
  range : Range
  target : List Nat
  deriving Repr

def Mapping.ofWord (word : List Char) : Mapping :=
  match cutAt '=' word with
  | (range, target) => ⟨Range.ofWord range, codePointsOf (target.getD [])⟩

def mappingsOf (table : String) : List Mapping := (words table.toList).map Mapping.ofWord

def Mapping.apply (mapping : Mapping) (codePoint : Nat) : List Nat :=
  match mapping.target with
  | [n] => [n + (codePoint - mapping.range.first)]
  | target => target

def Mapping.find? (mappings : List Mapping) (codePoint : Nat) : Option (List Nat) :=
  (mappings.find? (·.range.contains codePoint)).map (·.apply codePoint)

end Telemetry.Character
