import Telemetry.Decimal.Reading
import Telemetry.Text.Hex
import Telemetry.Text.Parts

set_option autoImplicit false

namespace Telemetry.Url.Ipv6

open Decimal (digitsValue isDigit)
open Text (joinWith splitOn)

/-- Pieces that are read, and how many of them stand before the gap if there is one. The gap itself counts
as a piece. -/
structure Pieces where
  values : List Nat
  gap : Option Nat

def pieceCount : Nat := 8

def readPiece : Nat → Nat → List Char → Nat × List Char
  | 0, value, cs => (value, cs)
  | _ + 1, value, [] => (value, [])
  | digits + 1, value, c :: rest =>
    match Text.Hex.value? c with
    | some d => readPiece digits (value * 16 + d) rest
    | none => (value, c :: rest)

def byte? (digits : List Char) : Option Nat :=
  if digits.isEmpty || !digits.all isDigit then none
  else if 1 < digits.length && digits.head? == some '0' then none
  else
    let value := digitsValue digits
    if 255 < value then none else some value

def readTail? (cs : List Char) : Option (List Nat) :=
  match (splitOn '.' cs).mapM byte? with
  | some [a, b, c, d] => some [a * 256 + b, c * 256 + d]
  | _ => none

def readPieces? : Nat → Pieces → List Char → Option Pieces
  | _, read, [] => some read
  | 0, _, _ :: _ => none
  | fuel + 1, read, c :: rest =>
    if pieceCount ≤ read.values.length then none
    else if c = ':' then
      if read.gap.isSome then none
      else readPieces? fuel ⟨read.values ++ [0], some (read.values.length + 1)⟩ rest
    else
      match readPiece 4 0 (c :: rest) with
      | (value, []) => some { read with values := read.values ++ [value] }
      | (_, '.' :: _) =>
        if c = '.' ∨ pieceCount - 2 < read.values.length then none
        else (readTail? (c :: rest)).map fun tail => { read with values := read.values ++ tail }
      | (value, ':' :: next) =>
        if next.isEmpty then none
        else readPieces? fuel { read with values := read.values ++ [value] } next
      | _ => none

/-- The eight pieces: a gap is filled with zeros, and without one none may be missing. -/
def Pieces.all? (read : Pieces) : Option (List Nat) :=
  match read.gap with
  | some front =>
    some (read.values.take front ++ List.replicate (pieceCount - read.values.length) 0 ++
      read.values.drop front)
  | none => if read.values.length = pieceCount then some read.values else none

def ofText? (cs : List Char) : Option (List Nat) :=
  match cs with
  | ':' :: ':' :: rest => (readPieces? cs.length ⟨[0], some 1⟩ rest).bind Pieces.all?
  | ':' :: _ => none
  | [] => none
  | cs => (readPieces? cs.length ⟨[], none⟩ cs).bind Pieces.all?

def pieceText (value : Nat) : List Char :=
  (Nat.toDigits 16 value).map Char.toLower

def leadingZeros (pieces : List Nat) : Nat := (pieces.takeWhile (· == 0)).length

def longestZeros : Nat → List Nat → Nat × Nat
  | place, [] => (place, 0)
  | place, piece :: rest =>
    let here := leadingZeros (piece :: rest)
    let later := longestZeros (place + 1) rest
    if later.2 ≤ here then (place, here) else later

def text (pieces : List Nat) : List Char :=
  let (place, length) := longestZeros 0 pieces
  let written (pieces : List Nat) : List Char := joinWith ':' (pieces.map pieceText)
  if length < 2 then written pieces
  else written (pieces.take place) ++ ':' :: ':' :: written (pieces.drop (place + length))

end Telemetry.Url.Ipv6
