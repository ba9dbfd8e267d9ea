import Telemetry.Decimal.Writing
import Telemetry.Word

set_option autoImplicit false

namespace Telemetry.Calendar

open Decimal (natDigits)

def isLeapYear (year : Int) : Bool := year % 4 == 0 && (year % 100 != 0 || year % 400 == 0)

def monthLengths (year : Int) : List Nat :=
  [31, if isLeapYear year then 29 else 28, 31, 30, 31, 30, 31, 31, 30, 31, 30, 31]

def daysBeforeYear (year : Int) : Int :=
  let years := year - 1
  365 * years + years / 4 - years / 100 + years / 400

structure Date where
  year : Int
  month : Nat
  day : Nat
  deriving DecidableEq, Repr

def daysBeforeMonth (year : Int) (month : Nat) : Nat :=
  ((monthLengths year).take (month - 1)).foldl (· + ·) 0

def Date.toDays (date : Date) : Int :=
  daysBeforeYear date.year + (daysBeforeMonth date.year date.month + (date.day - 1) : Nat)

def monthDay (month : Nat) : List Nat → Nat → Nat × Nat
  | [], day => (month, day + 1)
  | length :: rest, day => if day < length then (month, day + 1) else monthDay (month + 1) rest (day - length)

/-- The date a number of days after 0001-01-01: whole cycles of 400, 100, 4 and 1 years, where the last
century of a cycle and the last year of four are a day longer. -/
def Date.ofDays (days : Int) : Date :=
  let cycle := days / 146097
  let rest := (days % 146097).toNat
  let century := min (rest / 36524) 3
  let rest := rest - century * 36524
  let four := rest / 1461
  let rest := rest % 1461
  let single := min (rest / 365) 3
  let rest := rest - single * 365
  let year := 400 * cycle + 100 * century + 4 * four + single + 1
  let (month, day) := monthDay 1 (monthLengths year) rest
  ⟨year, month, day⟩

def epochDays : Int := 719162

def dayMilliseconds : Nat := 86400000

def firstYear : Int := -262143

def lastYear : Int := 262142

def endOfYear (year : Int) : Int := (daysBeforeYear (year + 1) - epochDays) * dayMilliseconds

def padded (width : Nat) (n : Nat) : List Char :=
  let digits := natDigits n
  List.replicate (width - digits.length) '0' ++ digits

def yearText (year : Int) : List Char :=
  if year < 0 then '-' :: padded 4 year.natAbs
  else if year ≤ 9999 then padded 4 year.natAbs
  else '+' :: padded 4 year.natAbs

def dateTimeChars (ms : Int) : List Char :=
  let date := Date.ofDays (ms / dayMilliseconds + epochDays)
  let rest := (ms % dayMilliseconds).toNat
  yearText date.year ++ '-' :: padded 2 date.month ++ '-' :: padded 2 date.day ++
    'T' :: padded 2 (rest / 3600000) ++ ':' :: padded 2 (rest / 60000 % 60) ++
    ':' :: padded 2 (rest / 1000 % 60) ++ '.' :: padded 3 (rest % 1000) ++ ['Z']

/-- The text of an instant given as an unsigned 64-bit word, of which the upper half stands for instants
before 1970. An instant outside the years that can be named gives the text of 1970. -/
def dateTimeText (ms : Nat) : String :=
  let instant := signedWord ms
  let named := endOfYear (firstYear - 1) ≤ instant ∧ instant < endOfYear lastYear
  String.ofList (dateTimeChars (if named then instant else 0))

end Telemetry.Calendar
