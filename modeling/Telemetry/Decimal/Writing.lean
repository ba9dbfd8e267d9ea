import Telemetry.Decimal.Binary64

set_option autoImplicit false

/-!
Decimal text of binary64 numbers: the fewest digits that read back, and a fixed number of places.
-/

namespace Telemetry.Decimal

def natDigits (n : Nat) : List Char := Nat.toDigits 10 n

def natText (n : Nat) : String := String.ofList (natDigits n)

def intDigits (n : Int) : List Char :=
  if n < 0 then '-' :: natDigits n.natAbs else natDigits n.natAbs

def tenRatio (num den : Nat) (exponent : Int) : Nat × Nat :=
  if 0 ≤ exponent then (num, den * Nat.pow 10 exponent.toNat)
  else (num * Nat.pow 10 (-exponent).toNat, den)

def leadingExponent (num den : Nat) : Int :=
  let guess : Int := (natDigits num).length - (natDigits den).length
  let (n, d) := tenRatio num den guess
  if d ≤ n then guess else guess - 1

/-- The reals that round to a binary64 number, as numerators over one denominator: the value, the lower
end and the upper end. The ends belong to the interval when `closed`. -/
structure Interval where
  value : Nat
  lower : Nat
  upper : Nat
  den : Nat
  closed : Bool

/-- A neighbour lies half as far below a power of two, unless that is the least exponent. -/
def Binary64.interval (x : Binary64) : Interval :=
  let (num, den) := x.ratio
  let unit := if 0 ≤ x.exponent then Nat.pow 2 x.exponent.toNat else 1
  let halved := x.significand = Binary64.significandBound / 2 ∧ Binary64.leastExponent < x.exponent
  { value := 4 * num
    lower := if halved then 4 * num - unit else 4 * num - 2 * unit
    upper := 4 * num + 2 * unit
    den := 4 * den
    closed := x.significand % 2 = 0 }

def Interval.holds (i : Interval) (digits : Nat) (exponent : Int) : Bool :=
  let (n, d) := if 0 ≤ exponent then (digits * Nat.pow 10 exponent.toNat, 1)
    else (digits, Nat.pow 10 (-exponent).toNat)
  let point := n * i.den
  if i.closed then i.lower * d ≤ point && point ≤ i.upper * d
  else i.lower * d < point && point < i.upper * d

/-- The point of the grid `10 ^ exponent` that lies in the interval and is nearest to the value, of two
equally near the even one. -/
def Interval.gridPoint? (i : Interval) (exponent : Int) : Option Nat :=
  let (n, d) := tenRatio i.value i.den exponent
  let nearest := roundDiv n d
  let other := if nearest = n / d then nearest + 1 else n / d
  if i.holds nearest exponent then some nearest
  else if i.holds other exponent then some other
  else none

def Interval.shortest (i : Interval) (leading : Int) : Nat → Nat → Nat × Int
  | 0, count => (roundDiv i.value i.den, count)
  | fuel + 1, count =>
    let exponent := leading - count
    match i.gridPoint? exponent with
    | some digits => (digits, exponent)
    | none => i.shortest leading fuel (count + 1)

def trimZeros (digits : List Char) : List Char :=
  (digits.reverse.dropWhile (· == '0')).reverse

/-- The fewest significant digits that read back as a positive number, and the exponent of the first
of them. Seventeen digits always suffice. -/
def Binary64.shortestDigits (x : Binary64) : List Char × Int :=
  let (num, den) := x.ratio
  let (digits, exponent) := x.interval.shortest (leadingExponent num den) 17 0
  let text := natDigits digits
  (trimZeros text, exponent + (text.length - 1 : Nat))

def plainExponents : Int × Int := (-5, 15)

def plainDigits (digits : List Char) (exponent : Int) : List Char :=
  if exponent < 0 then
    '0' :: '.' :: List.replicate ((-exponent).toNat - 1) '0' ++ digits
  else
    let places := exponent.toNat + 1
    let whole := digits.take places
    let fraction := digits.drop places
    whole ++ List.replicate (places - whole.length) '0' ++
      '.' :: (if fraction.isEmpty then ['0'] else fraction)

def scientificDigits (digits : List Char) (exponent : Int) : List Char :=
  let mantissa :=
    match digits with
    | [] => []
    | [d] => [d]
    | d :: rest => d :: '.' :: rest
  mantissa ++ 'e' :: (if exponent < 0 then '-' else '+') :: natDigits exponent.natAbs

def Binary64.shortestText (x : Binary64) : List Char :=
  let body :=
    if x.isZero then ['0', '.', '0']
    else
      let (digits, exponent) := x.shortestDigits
      if plainExponents.1 ≤ exponent ∧ exponent ≤ plainExponents.2 then plainDigits digits exponent
      else scientificDigits digits exponent
  if x.negative then '-' :: body else body

def Binary64.fixedText (places : Nat) (x : Binary64) : List Char :=
  let (num, den) := x.ratio
  let unit := Nat.pow 10 places
  let scaled := roundDiv (num * unit) den
  let fraction := natDigits (scaled % unit)
  let body := natDigits (scaled / unit) ++
    '.' :: (List.replicate (places - fraction.length) '0' ++ fraction)
  if x.negative then '-' :: body else body

def Extended.fixedText (places : Nat) : Extended → List Char
  | .finite x => x.fixedText places
  | .infinite true => "-inf".toList
  | .infinite false => "inf".toList
  | .nan => "NaN".toList

end Telemetry.Decimal
