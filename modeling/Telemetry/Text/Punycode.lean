set_option autoImplicit false

namespace Telemetry.Text.Punycode

def initialCodePoint : Nat := 128

def initialBias : Nat := 72

def digit (value : Nat) : Char :=
  if value < 26 then Char.ofNat ('a'.toNat + value) else Char.ofNat ('0'.toNat + value - 26)

def digitValue? (c : Char) : Option Nat :=
  if 'a' ≤ c ∧ c ≤ 'z' then some (c.toNat - 'a'.toNat)
  else if 'A' ≤ c ∧ c ≤ 'Z' then some (c.toNat - 'A'.toNat)
  else if '0' ≤ c ∧ c ≤ '9' then some (c.toNat - '0'.toNat + 26)
  else none

/-- The least value of a digit that is followed by another one, at a position counted in steps of 36. -/
def threshold (bias position : Nat) : Nat := min 26 (max 1 (position - bias))

theorem threshold_pos (bias position : Nat) : 0 < threshold bias position := by
  unfold threshold
  omega

def reduce (delta : Nat) : Nat × Nat :=
  if 455 < delta then
    let (steps, rest) := reduce (delta / 35)
    (steps + 1, rest)
  else (0, delta)
termination_by delta

/-- The bias after a number, which tells how large the next ones are likely to be. -/
def adapt (delta count : Nat) (isFirst : Bool) : Nat :=
  let damped := if isFirst then delta / 700 else delta / 2
  let (steps, rest) := reduce (damped + damped / count)
  36 * steps + 36 * rest / (rest + 38)

def numberDigits (bias position value : Nat) : List Char :=
  let least := threshold bias position
  if value < least then [digit value]
  else
    digit (least + (value - least) % (36 - least)) ::
      numberDigits bias (position + 36) ((value - least) / (36 - least))
termination_by value
decreasing_by
  have := threshold_pos bias position
  have := Nat.div_le_self (value - threshold bias position) (36 - threshold bias position)
  omega

/-- The distance since the last written character, and what the digits depend on. -/
structure Progress where
  delta : Nat
  bias : Nat
  written : Nat
  isFirst : Bool

/-- Pass over the text for one code point: skip the smaller ones, write its occurrences. -/
def passOver (codePoint : Nat) : Progress → List Nat → List Char × Progress
  | progress, [] => ([], progress)
  | progress, n :: rest =>
    if n < codePoint then passOver codePoint { progress with delta := progress.delta + 1 } rest
    else if n = codePoint then
      let digits := numberDigits progress.bias 36 progress.delta
      let next : Progress :=
        ⟨0, adapt progress.delta (progress.written + 1) progress.isFirst, progress.written + 1, false⟩
      let (more, progress) := passOver codePoint next rest
      (digits ++ more, progress)
    else passOver codePoint progress rest

def extendedDigits (text : List Nat) : List Nat → Nat → Progress → List Char
  | [], _, _ => []
  | codePoint :: rest, reached, progress =>
    let start := { progress with
      delta := progress.delta + (codePoint - reached) * (progress.written + 1) }
    let (digits, progress) := passOver codePoint start text
    digits ++ extendedDigits text rest (codePoint + 1) { progress with delta := progress.delta + 1 }

def insertOnce (n : Nat) : List Nat → List Nat
  | [] => [n]
  | head :: rest =>
    if n < head then n :: head :: rest
    else if n = head then head :: rest
    else head :: insertOnce n rest

def encode (cs : List Char) : List Char :=
  let basic := cs.filter fun c => c.toNat < initialCodePoint
  let text := cs.map Char.toNat
  let extended := (text.filter fun n => initialCodePoint ≤ n).foldr insertOnce []
  let front := if basic.isEmpty then [] else basic ++ ['-']
  front ++ extendedDigits text extended initialCodePoint ⟨0, initialBias, basic.length, true⟩

def readNumber? (bias : Nat) : Nat → Nat → Nat → List Char → Option (Nat × List Char)
  | _, _, _, [] => none
  | position, weight, value, c :: rest =>
    match digitValue? c with
    | none => none
    | some d =>
      let value := value + d * weight
      let least := threshold bias position
      if d < least then some (value, rest)
      else readNumber? bias (position + 36) (weight * (36 - least)) value rest

def maxPlace : Nat := 0xffffffff

def charOf? (codePoint : Nat) : Option Char :=
  if codePoint.isValidChar then some (Char.ofNat codePoint) else none

/-- Insert the characters that the numbers stand for. The first argument bounds how many there are. -/
def insertExtended? : Nat → (place codePoint bias : Nat) → List Char → List Char → Option (List Char)
  | _, _, _, _, done, [] => some done
  | 0, _, _, _, _, _ :: _ => none
  | fuel + 1, place, codePoint, bias, done, digits =>
    match readNumber? bias 36 1 place digits with
    | none => none
    | some (next, rest) =>
      if maxPlace < next then none
      else
        let count := done.length + 1
        let codePoint := codePoint + next / count
        match charOf? codePoint with
        | none => none
        | some c =>
          let index := next % count
          insertExtended? fuel (index + 1) codePoint (adapt (next - place) count (place == 0))
            (done.take index ++ c :: done.drop index) rest

def splitBasic (cs : List Char) : List Char × List Char :=
  let extended := (cs.reverse.takeWhile (· != '-')).reverse
  if extended.length + 1 < cs.length then (cs.take (cs.length - extended.length - 1), extended)
  else ([], cs)

def decode? (cs : List Char) : Option (List Char) :=
  let (basic, digits) := splitBasic cs
  if basic.all (·.toNat < initialCodePoint) then
    insertExtended? digits.length 0 initialCodePoint initialBias basic digits
  else none

end Telemetry.Text.Punycode
