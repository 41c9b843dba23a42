/-!
The Gregorian calendar, extended to all years from 1 to 9999: days are counted from the first of
January of the year 1, which is day 0.
-/

namespace BotPayload.Calendar

def isLeap (year : Nat) : Bool := year % 4 = 0 && (year % 100 ≠ 0 || year % 400 = 0)

def daysInMonth (year month : Nat) : Nat :=
  match month with
  | 2 => if isLeap year then 29 else 28
  | 4 | 6 | 9 | 11 => 30
  | _ => 31

def daysBeforeMonth (year : Nat) : Nat → Nat
  | 0 => 0
  | 1 => 0
  | month + 1 => daysBeforeMonth year month + daysInMonth year month

def daysBeforeYear (year : Nat) : Nat :=
  let y := year - 1
  y * 365 + y / 4 - y / 100 + y / 400

def maxYear : Nat := 9999

structure Date where
  year : Nat
  month : Nat
  day : Nat
deriving DecidableEq, Repr

def Date.toDays (d : Date) : Nat :=
  daysBeforeYear d.year + daysBeforeMonth d.year d.month + (d.day - 1)

/-- The year that holds a day, searched downward from a guess that is never too small. -/
def yearOf (days : Nat) : Nat → Nat
  | 0 => 1
  | guess + 1 => if daysBeforeYear (guess + 1) ≤ days then guess + 1 else yearOf days guess

def monthOf (year dayOfYear : Nat) : Nat → Nat
  | 0 => 1
  | month + 1 =>
    if daysBeforeMonth year (month + 1) ≤ dayOfYear then month + 1 else monthOf year dayOfYear month

def Date.ofDays (days : Nat) : Date :=
  let year := yearOf days (days / 365 + 1)
  let dayOfYear := days - daysBeforeYear year
  let month := monthOf year dayOfYear 12
  ⟨year, month, dayOfYear - daysBeforeMonth year month + 1⟩

def weekday (days : Nat) : Nat := days % 7

/-- The Monday of the first week of a year: the week that holds the first Thursday. -/
def firstMonday (year : Nat) : Int :=
  let first := daysBeforeYear year
  let monday : Int := (first : Int) - weekday first
  if weekday first > 3 then monday + 7 else monday

def isLongYear (year : Nat) : Bool :=
  let first := weekday (daysBeforeYear year)
  first == 3 || (first == 2 && isLeap year)

end BotPayload.Calendar
