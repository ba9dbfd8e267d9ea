import Telemetry.Decimal.Reading

set_option autoImplicit false

namespace Telemetry.Delivery

open Decimal (Binary64 Extended)

def floatOf : Extended → Float
  | .finite x => Float.ofBits x.toBits
  | .infinite negative => if negative then -1.0 / 0.0 else 1.0 / 0.0
  | .nan => 0.0 / 0.0

def maxRetryCount : Nat := 0xffffffff

structure RetryDelay where
  baseMs : Nat
  factor : Float
  cap : Nat
  jitter : Float
  count : Nat

namespace RetryDelay

/-- A tenth of a second, doubled nine times at most, with a jitter of a tenth. -/
def default : RetryDelay := ⟨100, 2.0, 10, 0.1, 0⟩

instance : Inhabited RetryDelay := ⟨default⟩

def willRetry (delay : RetryDelay) : RetryDelay :=
  { delay with count := min (delay.count + 1) maxRetryCount }

def wontRetry (delay : RetryDelay) : RetryDelay := { delay with count := 0 }

/-- Multiply by the squarings of a base that the binary digits of an exponent choose. The first argument
bounds the number of digits. -/
def powerFrom (product base : Float) : Nat → Nat → Float
  | 0, _ => product
  | fuel + 1, exponent =>
    let product := if exponent % 2 = 1 then product * base else product
    if exponent / 2 = 0 then product else powerFrom product (base * base) fuel (exponent / 2)

/-- A whole power by repeated squaring. Exponents from 2 ^ 31 on wrap to negative ones, which invert. -/
def power (base : Float) (exponent : Nat) : Float :=
  let signed := Int.bmod exponent (maxRetryCount + 1)
  let product := powerFrom 1.0 base 32 signed.natAbs
  if signed < 0 then 1.0 / product else product

/-- The delay in milliseconds. No failed attempt means no delay; the seed scales the jitter and its nearest
whole number chooses its sign. -/
def delayMs (delay : RetryDelay) (seed : Float) : Nat :=
  if delay.count = 0 then 0
  else
    let exponent := min delay.count delay.cap - 1
    let plain := Float.ofNat delay.baseMs * power delay.factor exponent
    let jittered :=
      if delay.jitter == 0.0 then plain
      else
        let deviation := (seed * delay.jitter * plain).floor
        if seed.round == 1.0 then plain - deviation else plain + deviation
    if jittered ≤ 0.0 then 0 else jittered.toUInt64.toNat

/-- Whether every delay for seeds from 0 up to 1 lies between two bounds. The extremes are reached at the
ends of the halves of that range, as the jitter grows with the seed in each. -/
def staysWithin (delay : RetryDelay) (low high : Nat) : Bool :=
  [0.0, 0.49999999999999994, 0.5, 0.9999999999999999].all fun seed =>
    low ≤ delay.delayMs seed && delay.delayMs seed ≤ high

end RetryDelay

end Telemetry.Delivery
