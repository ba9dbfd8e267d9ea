import Telemetry.Decimal.Reading
import Telemetry.Decimal.Writing
import Telemetry.Text.Hex
import Telemetry.Text.Parts

set_option autoImplicit false

namespace Telemetry.Url.Ipv4

open Decimal (digitsValue isDigit natDigits)
open Text (joinWith splitOn)

def valueIn (base : Nat) (digits : List Char) : Nat :=
  digits.foldl (fun n c => n * base + (Text.Hex.value? c).getD 0) 0

def isDigitOf (base : Nat) (c : Char) : Bool :=
  match Text.Hex.value? c with
  | some value => value < base
  | none => false

/-- The base of a number and its digits: `0x` marks a hexadecimal and `0` an octal one. -/
def baseOf : List Char → Nat × List Char
  | '0' :: 'x' :: digits => (16, digits)
  | '0' :: 'X' :: digits => (16, digits)
  | '0' :: c :: digits => (8, c :: digits)
  | digits => (10, digits)

def number? (part : List Char) : Option Nat :=
  if part.isEmpty then none
  else
    let (base, digits) := baseOf part
    if digits.all (isDigitOf base) then some (valueIn base digits) else none

def partsOf (host : List Char) : List (List Char) :=
  let parts := splitOn '.' host
  if 1 < parts.length && (parts.getLast?.map List.isEmpty).getD false then parts.dropLast else parts

def isMeant (host : List Char) : Bool :=
  match (partsOf host).getLast? with
  | some last => (!last.isEmpty && last.all isDigit) || (number? last).isSome
  | none => false

/-- The address as one number below 2^32: the last number takes the bytes that the others leave. -/
def ofNumbers? (numbers : List Nat) : Option Nat :=
  match numbers.reverse with
  | [] => none
  | last :: front =>
    let front := front.reverse
    if 3 < front.length then none
    else if front.any (255 < ·) then none
    else
      let free := 4 - front.length
      if Nat.pow 256 free ≤ last then none
      else some (front.foldl (fun n byte => n * 256 + byte) 0 * Nat.pow 256 free + last)

def ofHost? (host : List Char) : Option Nat :=
  ((partsOf host).mapM number?).bind ofNumbers?

def text (address : Nat) : List Char :=
  joinWith '.' <| [0x1000000, 0x10000, 0x100, 1].map fun place => natDigits (address / place % 256)

end Telemetry.Url.Ipv4
