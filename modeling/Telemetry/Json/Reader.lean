import Telemetry.Json.Basic
import Telemetry.Json.Tree

set_option autoImplicit false

namespace Telemetry.Json

open Decimal (digitsValue nearestByParts?)

def isHighSurrogate (code : Nat) : Bool := 0xD800 ≤ code && code ≤ 0xDBFF

def isLowSurrogate (code : Nat) : Bool := 0xDC00 ≤ code && code ≤ 0xDFFF

def combineSurrogates (high low : Nat) : Char :=
  Char.ofNat (0x10000 + (high - 0xD800) * 0x400 + (low - 0xDC00))

def Piece.decode? : List Piece → Option (List Char)
  | [] => some []
  | .char c :: rest => (decode? rest).map (c :: ·)
  | .unit high :: .unit low :: rest =>
    if isHighSurrogate high then
      if isLowSurrogate low then (decode? rest).map (combineSurrogates high low :: ·) else none
    else if isLowSurrogate high then none
    else (decode? (.unit low :: rest)).map (Char.ofNat high :: ·)
  | .unit code :: rest =>
    if isHighSurrogate code || isLowSurrogate code then none
    else (decode? rest).map (Char.ofNat code :: ·)

def Piece.text? (pieces : List Piece) : Option String :=
  (Piece.decode? pieces).map String.ofList

def NumberText.power (n : NumberText) : Int :=
  match n.exponent with
  | none => 0
  | some (true, digits) => -(digitsValue digits : Int)
  | some (false, digits) => digitsValue digits

/-- A number that is no integer of 64 bits is a float, and so is `-0`; one past the largest float has no
value. -/
def NumberText.value? (n : NumberText) : Option Json :=
  let magnitude := digitsValue n.whole
  let isWhole := n.fraction.isEmpty && n.exponent.isNone
  if isWhole && !n.negative && magnitude ≤ maxWord then some (.int magnitude)
  else if isWhole && n.negative && 0 < magnitude && magnitude ≤ leastSignedMagnitude then
    some (.int (-magnitude))
  else (nearestByParts? n.negative n.whole n.fraction n.power).map .float

def maxDepth : Nat := 127

mutual

def Tree.value? (depth : Nat) : Tree → Option Json
  | .null => some .null
  | .bool value => some (.bool value)
  | .number text => text.value?
  | .string pieces => (Piece.text? pieces).map .string
  | .array items =>
    match depth with
    | 0 => none
    | depth + 1 => (Tree.items? depth items).map .array
  | .object members =>
    match depth with
    | 0 => none
    | depth + 1 => (Tree.members? depth members).map ofMembers

def Tree.items? (depth : Nat) : List Tree → Option (List Json)
  | [] => some []
  | item :: rest => do
    let value ← Tree.value? depth item
    let values ← Tree.items? depth rest
    some (value :: values)

def Tree.members? (depth : Nat) : List (List Piece × Tree) → Option (List (String × Json))
  | [] => some []
  | (key, item) :: rest => do
    let key ← Piece.text? key
    let value ← Tree.value? depth item
    let members ← Tree.members? depth rest
    some ((key, value) :: members)

end

def ofText? (text : String) : Option Json :=
  (Tree.ofChars? text.toList).bind (Tree.value? maxDepth)

end Telemetry.Json
