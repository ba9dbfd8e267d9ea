import Telemetry.Decimal.Binary64
import Telemetry.Word

set_option autoImplicit false

namespace Telemetry.Decimal

def isDigit (c : Char) : Bool := '0' ≤ c && c ≤ '9'

def digitValue (c : Char) : Nat := c.toNat - '0'.toNat

def digitsValue (digits : List Char) : Nat :=
  digits.foldl (fun n c => n * 10 + digitValue c) 0

def spanDigits (cs : List Char) : List Char × List Char :=
  (cs.takeWhile isDigit, cs.dropWhile isDigit)

def readSign : List Char → Bool × List Char
  | '-' :: rest => (true, rest)
  | '+' :: rest => (false, rest)
  | cs => (false, cs)

/-- The exponent part: nothing, or `e`, an optional sign and digits to the end. -/
def readExponent? : List Char → Option Int
  | [] => some 0
  | c :: rest =>
    if c = 'e' ∨ c = 'E' then
      let (negative, digits) := readSign rest
      if digits.isEmpty || !digits.all isDigit then none
      else
        let n : Int := digitsValue digits
        some (if negative then -n else n)
    else none

def readUnsigned? (negative : Bool) (cs : List Char) : Option Extended :=
  let (whole, rest) := spanDigits cs
  let (fraction, rest) :=
    match rest with
    | '.' :: rest => spanDigits rest
    | rest => ([], rest)
  if whole.isEmpty && fraction.isEmpty then none
  else
    (readExponent? rest).map fun power =>
      let exponent : Int := power - fraction.length
      match Binary64.ofDecimal? negative (digitsValue (whole ++ fraction)) exponent with
      | some x => .finite x
      | none => .infinite negative

/-- Read a binary64 number: an optional sign, then decimal digits or, in any case, `inf`, `infinity`
or `nan`. -/
def Extended.ofText? (text : String) : Option Extended :=
  let (negative, cs) := readSign text.toList
  let word := String.ofList (cs.map Char.toLower)
  if word = "inf" ∨ word = "infinity" then some (.infinite negative)
  else if word = "nan" then some .nan
  else readUnsigned? negative cs

/-- Append digits while the value fits a 64-bit word; the digits left over come second. -/
def keepDigits (kept : Nat) : List Char → Nat × List Char
  | [] => (kept, [])
  | c :: rest =>
    let next := kept * 10 + digitValue c
    if next ≤ maxWord then keepDigits next rest else (kept, c :: rest)

def powerOfTen? (n : Nat) : Option Binary64 := Binary64.ofDecimal? false 1 n

def divideInRounds? (step : Nat) (x : Binary64) : Nat → Option Binary64
  | 0 => some x
  | rounds + 1 =>
    if x.isZero then some x
    else ((powerOfTen? step).bind x.div?).bind fun y => divideInRounds? step y rounds

def divideByTens? (x : Binary64) (n : Nat) : Option Binary64 :=
  let rounds := (n - 1) / 308
  (divideInRounds? 308 x rounds).bind fun y => (powerOfTen? (n - 308 * rounds)).bind y.div?

/-- Multiply or divide by a power of ten in binary64 arithmetic; nothing past the largest number. -/
def scaleByTen? (x : Binary64) (exponent : Int) : Option Binary64 :=
  if exponent < 0 then divideByTens? x exponent.natAbs
  else if x.isZero then some x
  else (powerOfTen? exponent.toNat).bind x.mul?

/-- The value of `whole.fraction · 10 ^ exponent` by parts: the digits that fit a word make the
significand, whole digits past it only count as tens, fraction digits past it are dropped, and the
scaling rounds once more. -/
def nearestByParts? (negative : Bool) (whole fraction : List Char) (exponent : Int) :
    Option Binary64 :=
  let (kept, dropped) := keepDigits 0 whole
  let (kept, ignored) := keepDigits kept fraction
  let used := fraction.length - ignored.length
  (Binary64.ofRatio? negative kept 1).bind fun x =>
    scaleByTen? x (exponent + dropped.length - used)

end Telemetry.Decimal
