import Telemetry.Calendar
import Telemetry.Decimal.Reading
import Telemetry.Toml.Basic
import Telemetry.Text.Hex
import Telemetry.Text.Parts

set_option autoImplicit false

namespace Telemetry.Toml

open Decimal (Extended digitsValue isDigit spanDigits)

/-- Digits in a base with single underscores between them, without the underscores. -/
def groupedDigits? (isDigitHere : Char → Bool) (cs : List Char) : Option (List Char) :=
  let groups := Text.splitOn '_' cs
  if groups.all fun group => !group.isEmpty && group.all isDigitHere then some groups.flatten else none

def isDigitBelow (base : Nat) (c : Char) : Bool :=
  match Text.Hex.value? c with
  | some value => value < base
  | none => false

def valueIn (base : Nat) (digits : List Char) : Nat :=
  digits.foldl (fun n c => n * base + (Text.Hex.value? c).getD 0) 0

def wholeDigits? (cs : List Char) : Option (List Char) :=
  match groupedDigits? isDigit cs with
  | some ('0' :: _ :: _) => none
  | digits => digits

def readSign : List Char → Option Bool × List Char
  | '-' :: rest => (some true, rest)
  | '+' :: rest => (some false, rest)
  | cs => (none, cs)

def inRange (value : Int) : Bool :=
  if value < 0 then value.natAbs ≤ Nat.pow 2 127 else value.natAbs < Nat.pow 2 128

def integer? (cs : List Char) : Option Int :=
  let based (base : Nat) (digits : List Char) : Option Int :=
    (groupedDigits? (isDigitBelow base) digits).map fun digits => (valueIn base digits : Int)
  let value? : Option Int :=
    match cs with
    | '0' :: 'x' :: digits => based 16 digits
    | '0' :: 'o' :: digits => based 8 digits
    | '0' :: 'b' :: digits => based 2 digits
    | cs =>
      let (sign, digits) := readSign cs
      (wholeDigits? digits).map fun digits =>
        let value : Int := digitsValue digits
        if sign = some true then -value else value
  value?.filter inRange

def exponent? (cs : List Char) : Option (List Char) :=
  let (sign, digits) := readSign cs
  (groupedDigits? isDigit digits).map fun digits =>
    if sign = some true then '-' :: digits else digits

def isFloat (cs : List Char) : Bool :=
  let (_, cs) := readSign cs
  if cs = "inf".toList ∨ cs = "nan".toList then true
  else
    let isMark (c : Char) : Bool := c == 'e' || c == 'E'
    let mantissa := cs.takeWhile (!isMark ·)
    let exponent := match cs.dropWhile (!isMark ·) with
      | [] => some []
      | _ :: digits => (exponent? digits).map ('e' :: ·)
    let whole := wholeDigits? (mantissa.takeWhile (· != '.'))
    let fraction := match mantissa.dropWhile (· != '.') with
      | [] => some []
      | _ :: digits => (groupedDigits? isDigit digits).map ('.' :: ·)
    match whole, fraction, exponent with
    | some whole, some fraction, some exponent =>
      if fraction.isEmpty && exponent.isEmpty then false
      else
        match Extended.ofText? (String.ofList (whole ++ fraction ++ exponent)) with
        | some (.finite _) => true
        | _ => false
    | _, _, _ => false

def readField? (count least most : Nat) (cs : List Char) : Option (Nat × List Char) :=
  let digits := cs.take count
  if digits.length = count ∧ digits.all isDigit then
    let value := digitsValue digits
    if least ≤ value ∧ value ≤ most then some (value, cs.drop count) else none
  else none

def afterMark? (mark : Char) : List Char → Option (List Char)
  | c :: rest => if c = mark then some rest else none
  | [] => none

def readDate? (cs : List Char) : Option (List Char) := do
  let (year, cs) ← readField? 4 0 9999 cs
  let cs ← afterMark? '-' cs
  let (month, cs) ← readField? 2 1 12 cs
  let cs ← afterMark? '-' cs
  let length := (Calendar.monthLengths year).getD (month - 1) 0
  let (_, cs) ← readField? 2 1 length cs
  some cs

def readTimeOfDay? (cs : List Char) : Option (List Char) := do
  let (_, cs) ← readField? 2 0 23 cs
  let cs ← afterMark? ':' cs
  let (_, cs) ← readField? 2 0 59 cs
  match cs with
  | ':' :: cs =>
    let (_, cs) ← readField? 2 0 60 cs
    match cs with
    | '.' :: cs =>
      let (digits, rest) := spanDigits cs
      if digits.isEmpty then none else some rest
    | cs => some cs
  | cs => some cs

def readOffset? (cs : List Char) : Option (List Char) :=
  match cs with
  | [] => some []
  | c :: rest =>
    if c = 'Z' ∨ c = 'z' then some rest
    else if c = '+' ∨ c = '-' then do
      let (_, cs) ← readField? 2 0 24 rest
      let cs ← afterMark? ':' cs
      let (_, cs) ← readField? 2 0 59 cs
      some cs
    else none

def isTime (cs : List Char) : Bool :=
  if readTimeOfDay? cs = some [] then true
  else
    match readDate? cs with
    | none => false
    | some [] => true
    | some (mark :: rest) =>
      (mark == 'T' || mark == 't' || mark == ' ') &&
        (readTimeOfDay? rest).bind readOffset? == some []

def scalar? (cs : List Char) : Option Value :=
  if cs = "true".toList then some (.boolean true)
  else if cs = "false".toList then some (.boolean false)
  else
    match integer? cs with
    | some value => some (.integer value)
    | none => if isFloat cs then some .float else if isTime cs then some .time else none

def isScalarChar (c : Char) : Bool :=
  c.isAlphanum || c == '-' || c == '_' || c == '+' || c == '.' || c == ':'

/-- The text of a scalar and what follows. A blank between a date and a time belongs to it. -/
def spanScalar (cs : List Char) : List Char × List Char :=
  let word := cs.takeWhile isScalarChar
  let rest := cs.dropWhile isScalarChar
  match rest with
  | ' ' :: next =>
    let time := next.takeWhile isScalarChar
    if readDate? word = some [] ∧ ((readTimeOfDay? time).bind readOffset?) = some [] then
      (word ++ ' ' :: time, next.dropWhile isScalarChar)
    else (word, rest)
  | rest => (word, rest)

end Telemetry.Toml
