set_option autoImplicit false

namespace Telemetry.Decimal

def roundDiv (num den : Nat) : Nat :=
  let q := num / den
  let r := num % den
  if 2 * r < den then q
  else if den < 2 * r then q + 1
  else if q % 2 = 0 then q else q + 1

structure Binary64 where
  negative : Bool
  significand : Nat
  exponent : Int
  deriving DecidableEq, Repr, Inhabited

namespace Binary64

def leastExponent : Int := -1074

def greatestExponent : Int := 971

def significandBound : Nat := 9007199254740992

def zero (negative : Bool) : Binary64 := ⟨negative, 0, leastExponent⟩

def isZero (x : Binary64) : Bool := x.significand == 0

def scaledRatio (num den : Nat) (exponent : Int) : Nat × Nat :=
  if 0 ≤ exponent then (num, den * Nat.pow 2 exponent.toNat)
  else (num * Nat.pow 2 (-exponent).toNat, den)

def exponentFor (num den : Nat) : Int :=
  let least := max (num.log2 - den.log2 - 53 : Int) leastExponent
  let (n, d) := scaledRatio num den least
  if significandBound ≤ n / d then least + 1 else least

/-- The number nearest to `num / den`, a tie to the even significand; nothing when it would lie past
the largest finite number. -/
def ofRatio? (negative : Bool) (num den : Nat) : Option Binary64 :=
  if num = 0 then some (zero negative) else
  let exponent := exponentFor num den
  let (n, d) := scaledRatio num den exponent
  let significand := roundDiv n d
  let (significand, exponent) :=
    if significand = significandBound then (significandBound / 2, exponent + 1)
    else (significand, exponent)
  if greatestExponent < exponent then none else some ⟨negative, significand, exponent⟩

def ratio (x : Binary64) : Nat × Nat :=
  if 0 ≤ x.exponent then (x.significand * Nat.pow 2 x.exponent.toNat, 1)
  else (x.significand, Nat.pow 2 (-x.exponent).toNat)

def mul? (x y : Binary64) : Option Binary64 :=
  let (a, b) := x.ratio
  let (c, d) := y.ratio
  ofRatio? (x.negative != y.negative) (a * c) (b * d)

def div? (x y : Binary64) : Option Binary64 :=
  let (a, b) := x.ratio
  let (c, d) := y.ratio
  ofRatio? (x.negative != y.negative) (a * d) (b * c)

/-- The number nearest to `± digits · 10 ^ exponent`. A value with more than 310 digits before the
point is past every finite number, and one below `10 ^ (-330)` rounds to zero, so neither power is
computed. -/
def ofDecimal? (negative : Bool) (digits : Nat) (exponent : Int) : Option Binary64 :=
  if digits = 0 then some (zero negative) else
  let magnitude := exponent + (Nat.toDigits 10 digits).length
  if 310 < magnitude then none
  else if magnitude < -330 then some (zero negative)
  else if 0 ≤ exponent then ofRatio? negative (digits * Nat.pow 10 exponent.toNat) 1
  else ofRatio? negative digits (Nat.pow 10 (-exponent).toNat)

def leadingBit : Nat := significandBound / 2

def toBits (x : Binary64) : UInt64 :=
  let sign : Nat := if x.negative then Nat.pow 2 63 else 0
  let magnitude :=
    if x.significand < leadingBit then x.significand
    else (x.exponent + 1075).toNat * leadingBit + (x.significand - leadingBit)
  UInt64.ofNat (sign + magnitude)

end Binary64

inductive Extended where
  | finite (value : Binary64)
  | infinite (negative : Bool)
  | nan
  deriving DecidableEq, Repr, Inhabited

end Telemetry.Decimal
