import Telemetry.Text.Hex

set_option autoImplicit false

namespace Telemetry.Uuid

/-- A value as lower-case hexadecimal digits of a fixed count, the most significant first. -/
def hexDigits : Nat → Nat → List Char
  | 0, _ => []
  | count + 1, value => hexDigits count (value / 16) ++ [Text.Hex.lower (value % 16)]

/-- The identifier with the given free bits: 12 digits from the lowest 48 bits, then 14 bits after the
variant, 12 bits after the version and 48 bits in front. -/
def v4 (bits : Nat) : String :=
  let node := bits % 0x1000000000000
  let bits := bits / 0x1000000000000
  let clock := bits % 0x4000 + 0x8000
  let bits := bits / 0x4000
  let high := bits % 0x1000 + 0x4000
  let bits := bits / 0x1000
  String.ofList <|
    hexDigits 8 (bits / 0x10000) ++ '-' :: hexDigits 4 bits ++ '-' :: hexDigits 4 high ++
      '-' :: hexDigits 4 clock ++ '-' :: hexDigits 12 node

def fits (place : Nat) (c : Char) : Bool :=
  if place == 8 || place == 13 || place == 18 || place == 23 then c == '-'
  else if place == 14 then c == '4'
  else if place == 19 then "89ab".toList.contains c
  else "0123456789abcdef".toList.contains c

def isV4 (cs : List Char) : Bool := cs.length == 36 && cs.zipIdx.all fun (c, place) => fits place c

end Telemetry.Uuid
