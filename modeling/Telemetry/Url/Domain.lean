import Telemetry.Character.CombiningClass
import Telemetry.Character.Direction
import Telemetry.Character.HostMapping
import Telemetry.Character.Joining
import Telemetry.Character.Mark
import Telemetry.Text.Composed
import Telemetry.Text.Parts
import Telemetry.Text.Punycode

set_option autoImplicit false

/-!
International domain names as ASCII. Characters are mapped and composed, every label is checked, and a label
with other than ASCII characters is written as `xn--` and its punycode.
-/

namespace Telemetry.Url.Domain

open Character (Direction Joining combiningClass direction? hostMapped? isMark joining?)
open Text (joinWith splitOn)

def isAscii (c : Char) : Bool := c.toNat < 128

def isForbidden (c : Char) : Bool :=
  c.toNat ≤ 32 || c.toNat == 127 || "%#/:<>?@[\\]^|".toList.contains c

def joiner : Char := '\u200d'

def nonJoiner : Char := '\u200c'

/-- The nearest character that joining does not pass over joins on one of the given sides. -/
def joinsNearby (sides : List Joining) (cs : List Char) : Bool :=
  match cs.dropWhile fun c => joining? c == some .transparent with
  | c :: _ =>
    match joining? c with
    | some kind => sides.contains kind
    | none => false
  | [] => false

/-- Joiners are allowed after a sign that silences a vowel; a non-joiner also between letters that would
join. The characters before come in reverse. -/
def joinersFit : List Char → List Char → Bool
  | _, [] => true
  | before, c :: rest =>
    let afterSilencer :=
      match before with
      | last :: _ => combiningClass last == Character.silencerClass
      | [] => false
    let fits :=
      if c = joiner then afterSilencer
      else if c = nonJoiner then
        afterSilencer || (joinsNearby [.left, .dual] before && joinsNearby [.right, .dual] rest)
      else true
    fits && joinersFit (c :: before) rest

def isRightToLeft (c : Char) : Bool :=
  match direction? c with
  | some .rightToLeft => true
  | some .arabicLetter => true
  | some .arabicNumber => true
  | _ => false

def allAmong (directions : List Direction) (label : List Char) : Bool :=
  label.all fun c =>
    match direction? c with
    | some direction => directions.contains direction
    | none => false

/-- Whether the last character before any marks has one of the directions listed. -/
def endsWith (directions : List Direction) (label : List Char) : Bool :=
  match label.reverse.dropWhile fun c => direction? c == some .nonspacingMark with
  | c :: _ =>
    match direction? c with
    | some direction => directions.contains direction
    | none => false
  | [] => false

def keepsDirection (label : List Char) : Bool :=
  match label with
  | [] => true
  | first :: _ =>
    let has (direction : Direction) : Bool := label.any fun c => direction? c == some direction
    match direction? first with
    | some .leftToRight =>
      allAmong [.leftToRight, .europeanNumber, .europeanSeparator, .commonSeparator,
        .europeanTerminator, .otherNeutral, .boundaryNeutral, .nonspacingMark] label &&
      endsWith [.leftToRight, .europeanNumber] label
    | some .rightToLeft | some .arabicLetter =>
      allAmong [.rightToLeft, .arabicLetter, .arabicNumber, .europeanNumber, .europeanSeparator,
        .commonSeparator, .europeanTerminator, .otherNeutral, .boundaryNeutral, .nonspacingMark]
        label &&
      endsWith [.rightToLeft, .arabicLetter, .europeanNumber, .arabicNumber] label &&
      !(has .europeanNumber && has .arabicNumber)
    | _ => false

def mapped? (cs : List Char) : Option (List Char) :=
  (cs.mapM hostMapped?).map fun parts => Text.Composed.compose parts.flatten

/-- A label that mapping and composing leave as it is, and that does not start with a mark. -/
def isValidLabel (label : List Char) : Bool :=
  mapped? label == some label && label.head?.all (fun c => !isMark c) && joinersFit [] label

def encodedMark : List Char := "xn--".toList

/-- Punycode takes at most this many characters, and gives at most half of them. -/
def maxEncoded : Nat := 2000

def labelOf? (label : List Char) : Option (List Char) :=
  if encodedMark.isPrefixOf label then
    let encoded := label.drop encodedMark.length
    if maxEncoded < encoded.length then none
    else
      match Text.Punycode.decode? encoded with
      | some decoded => if decoded.all isAscii || !isValidLabel decoded then none else some decoded
      | none => none
  else if label.all isAscii || isValidLabel label then some label
  else none

def encodeLabel? (label : List Char) : Option (List Char) :=
  if label.all isAscii then some label
  else if maxEncoded / 2 < label.length then none
  else some (encodedMark ++ Text.Punycode.encode label)

def toAscii? (cs : List Char) : Option (List Char) := do
  let name ← mapped? cs
  let labels ← (splitOn '.' name).mapM labelOf?
  if labels.any (·.any isRightToLeft) && !labels.all keepsDirection then none
  else if labels.any (·.any isForbidden) then none
  else
    let encoded ← labels.mapM encodeLabel?
    some (joinWith '.' encoded)

end Telemetry.Url.Domain
