import Telemetry.Character.CombiningClass
import Telemetry.Character.Decomposition

set_option autoImplicit false

namespace Telemetry.Text.Composed

open Character (combiningClass composed? pairOf?)

def firstSyllable : Nat := 0xAC00

def firstLead : Nat := 0x1100

def firstVowel : Nat := 0x1161

def tailBase : Nat := 0x11A7

def leadCount : Nat := 19

def vowelCount : Nat := 21

def tailCount : Nat := 28

def syllableCount : Nat := leadCount * vowelCount * tailCount

def syllableLetters? (codePoint : Nat) : Option (List Nat) :=
  if firstSyllable ≤ codePoint ∧ codePoint < firstSyllable + syllableCount then
    let index := codePoint - firstSyllable
    let lead := firstLead + index / (vowelCount * tailCount)
    let vowel := firstVowel + index % (vowelCount * tailCount) / tailCount
    let tail := index % tailCount
    some (if tail = 0 then [lead, vowel] else [lead, vowel, tailBase + tail])
  else none

def syllable? (first second : Nat) : Option Nat :=
  if firstLead ≤ first ∧ first < firstLead + leadCount ∧
      firstVowel ≤ second ∧ second < firstVowel + vowelCount then
    some (firstSyllable + ((first - firstLead) * vowelCount + (second - firstVowel)) * tailCount)
  else if firstSyllable ≤ first ∧ first < firstSyllable + syllableCount ∧
      (first - firstSyllable) % tailCount = 0 ∧
      tailBase < second ∧ second < tailBase + tailCount then
    some (first + (second - tailBase))
  else none

def parts : Nat → Nat → List Nat
  | 0, codePoint => [codePoint]
  | depth + 1, codePoint =>
    match syllableLetters? codePoint with
    | some letters => letters
    | none =>
      match pairOf? codePoint with
      | some (first, second) => parts depth first ++ parts depth second
      | none => [codePoint]

def pairDepth : Nat := 4

def classOf (codePoint : Nat) : Nat := combiningClass (Char.ofNat codePoint)

/-- Move a mark in front of the marks of higher classes before it. The text is in reverse. -/
def placeMark (codePoint : Nat) : List Nat → List Nat
  | [] => [codePoint]
  | last :: before =>
    if classOf codePoint ≠ 0 ∧ classOf codePoint < classOf last then
      last :: placeMark codePoint before
    else codePoint :: last :: before

def ordered (codePoints : List Nat) : List Nat :=
  (codePoints.foldl (fun text codePoint => placeMark codePoint text) []).reverse

def joined? (first second : Nat) : Option Nat :=
  (syllable? first second).orElse fun _ => composed? first second

/-- Text being put together: what is finished, the last base character, and the marks after it that did not
join it, in reverse. -/
structure Building where
  finished : List Nat
  base : Option Nat
  marks : List Nat

/-- A character joins the base if no mark of its own class or a higher one stands between them. -/
def Building.add (text : Building) (codePoint : Nat) : Building :=
  let joins :=
    match text.marks with
    | [] => true
    | last :: _ => classOf last ≠ 0 ∧ classOf last < classOf codePoint
  match text.base with
  | some base =>
    match if joins then joined? base codePoint else none with
    | some one => { text with base := some one }
    | none =>
      if classOf codePoint = 0 then ⟨text.marks ++ base :: text.finished, some codePoint, []⟩
      else { text with marks := codePoint :: text.marks }
  | none =>
    if classOf codePoint = 0 then ⟨text.marks ++ text.finished, some codePoint, []⟩
    else { text with marks := codePoint :: text.marks }

def Building.done (text : Building) : List Nat :=
  (text.marks ++ text.base.toList ++ text.finished).reverse

def compose (cs : List Char) : List Char :=
  let text := ordered (cs.flatMap fun c => parts pairDepth c.toNat)
  ((text.foldl Building.add ⟨[], none, []⟩).done).map Char.ofNat

end Telemetry.Text.Composed
