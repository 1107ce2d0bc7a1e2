import DataWorkspace.Py.Text
import Mathlib.Algebra.GroupWithZero.Nat

/-!
# Dates and times

A date and time without a zone is the number of microseconds since the start of year 1.
`strptime` reads the format `%Y-%m-%dT%H:%M:%S.%fZ`, with digits of ASCII.
-/

namespace Py

/-- `timedelta(seconds=n)`. -/
def seconds (n : Nat) : Int := n * 1000000

/-- `timedelta(minutes=n)`. -/
def minutes (n : Nat) : Int := seconds (60 * n)

/-! ## The calendar -/

def isLeap (year : Nat) : Bool := year % 4 == 0 && (year % 100 != 0 || year % 400 == 0)

def daysInMonth (year month : Nat) : Nat :=
  if month = 2 then if isLeap year then 29 else 28
  else if month ∈ [4, 6, 9, 11] then 30
  else 31

def daysBeforeYear (year : Nat) : Nat :=
  (year - 1) * 365 + (year - 1) / 4 - (year - 1) / 100 + (year - 1) / 400

def daysBeforeMonth (year month : Nat) : Nat :=
  ((List.range (month - 1)).map fun m => daysInMonth year (m + 1)).sum

/-- `datetime(…)`, `none` where it raises. -/
def datetime (year month day hour minute second microsecond : Nat) : Option Int :=
  if 1 ≤ year ∧ 1 ≤ month ∧ month ≤ 12 ∧ 1 ≤ day ∧ day ≤ daysInMonth year month ∧
      hour < 24 ∧ minute < 60 ∧ second < 60 ∧ microsecond < 1000000 then
    let days := daysBeforeYear year + daysBeforeMonth year month + (day - 1)
    some ((((days * 24 + hour) * 60 + minute) * 60 + second) * 1000000 + microsecond : Nat)
  else none

/-! ## Reading -/

/-- A field of one or two digits. -/
def shortField (s : Str) : Option Nat :=
  if 1 ≤ s.length ∧ s.length ≤ 2 ∧ s.all Char.isDigit then some (decimal s) else none

/-- `%d`, which may have a space in place of its first digit. -/
def dayField (s : Str) : Option Nat :=
  match s with
  | [' ', c] => shortField [c]
  | s => shortField s

/-- `%Y`. -/
def yearField (s : Str) : Option Nat :=
  if s.length = 4 ∧ s.all Char.isDigit then some (decimal s) else none

/-- `%f`: up to six digits, which start at the tenths. -/
def fractionField (s : Str) : Option Nat :=
  if 1 ≤ s.length ∧ s.length ≤ 6 ∧ s.all Char.isDigit then
    some (decimal s * 10 ^ (6 - s.length))
  else none

/-- The text before the first of some letters, and after it. -/
def until? (letters s : Str) : Option (Str × Str) :=
  match s.dropWhile fun c => c ∉ letters with
  | [] => none
  | _ :: rest => some (s.takeWhile fun c => c ∉ letters, rest)

/-- `datetime.strptime(s, "%Y-%m-%dT%H:%M:%S.%fZ")`, `none` where it raises.  Letters of the
format stand for both cases. -/
def strptime (s : Str) : Option Int := do
  let (year, s) ← until? ['-'] s
  let (month, s) ← until? ['-'] s
  let (day, s) ← until? ['T', 't'] s
  let (hour, s) ← until? [':'] s
  let (minute, s) ← until? [':'] s
  let (second, s) ← until? ['.'] s
  let (microsecond, s) ← until? ['Z', 'z'] s
  if s = [] then
    datetime (← yearField year) (← shortField month) (← dayField day) (← shortField hour)
      (← shortField minute) (← shortField second) (← fractionField microsecond)
  else none

example : strptime "2021-03-04T12:34:56.789Z" = some (63750458096789000) := by decide +kernel

example : strptime "2021-03-04T12:34:56Z" = none := by decide +kernel

end Py
