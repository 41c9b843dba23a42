import BotPayload.Number.Decimal
import BotPayload.Text.Quoted
import BotPayload.Time.Calendar

/-!
Points in time, read from ISO 8601 text and written in UTC. A date is a calendar date or a week
date, with or without dashes; any character may divide it from the time of day; the time of day may
leave out seconds, minutes and colons; a fraction may have any number of digits, of which six count;
and an offset from UTC may follow. A time without an offset is a time in UTC.
-/

namespace BotPayload

structure Instant where
  micros : Nat
deriving DecidableEq, Repr

namespace Instant

inductive Fault where
  | malformed
  | yearRange (year : Nat)
  | monthRange
  | dayRange
  | hourRange
  | minuteRange
  | secondRange
  /-- The offset, in microseconds, is a day or more. -/
  | offsetRange (micros : Int)
  /-- In UTC the instant lies outside the years 1 to 9999. -/
  | outOfRange
deriving DecidableEq, Repr

def microsPerSecond : Nat := 1000000
def microsPerDay : Nat := 86400 * microsPerSecond

/-- An amount of time in days, seconds and microseconds, the two last never negative and those
that are zero left out. -/
def spanText (micros : Int) : String :=
  let days := micros / microsPerDay
  let rest := micros % microsPerDay
  let seconds := rest / microsPerSecond
  let fraction := rest % microsPerSecond
  let parts := [("days", days), ("seconds", seconds), ("microseconds", fraction)].filter (·.2 ≠ 0)
  let parts := parts.map fun (name, n) => name ++ "=" ++ intText n
  "datetime.timedelta(" ++ (if parts.isEmpty then "0" else String.intercalate ", " parts) ++ ")"

def Fault.message (text : String) : Fault → String
  | .malformed => "Invalid isoformat string: " ++ quoted text
  | .yearRange year => "year " ++ natText year ++ " is out of range"
  | .monthRange => "month must be in 1..12"
  | .dayRange => "day is out of range for month"
  | .hourRange => "hour must be in 0..23"
  | .minuteRange => "minute must be in 0..59"
  | .secondRange => "second must be in 0..59"
  | .offsetRange micros =>
    "offset must be a timedelta strictly between -timedelta(hours=24) and timedelta(hours=24), not "
      ++ spanText micros ++ "."
  | .outOfRange => "date value out of range"

abbrev Bytes := List Nat

def isDigitByte (b : Nat) : Bool := 48 ≤ b && b ≤ 57

def digits : Nat → Nat → Bytes → Option (Nat × Bytes)
  | 0, acc, bs => some (acc, bs)
  | _ + 1, _, [] => none
  | n + 1, acc, b :: rest => if isDigitByte b then digits n (10 * acc + (b - 48)) rest else none

def dash : Nat := 45
def colon : Nat := 58
def letterW : Nat := 87
def letterZ : Nat := 90

/-- The place of the character between date and time. Where a week date leaves it open, a dash
divides date and time rather than week and day. -/
def separatorPlace (bs : Bytes) : Option Nat :=
  let byteAt := fun i => bs.getD i 0
  if bs.length = 7 then some 7
  else if byteAt 4 = dash then
    if byteAt 5 = letterW then
      if bs.length < 8 then none
      else if bs.length > 8 ∧ byteAt 8 = dash then
        if bs.length = 9 then none
        else if bs.length > 10 ∧ isDigitByte (byteAt 10) then some 8
        else some 10
      else some 8
    else some 10
  else if byteAt 4 = letterW then
    let place := 7 + ((bs.drop 7).takeWhile isDigitByte).length
    if place < 9 then some place
    else if place % 2 = 0 then some 7
    else some 8
  else some 8

/-- The date of a day of a week of a year. A week of the year 0 has no month. -/
def weekDate (year week day : Nat) : Except Fault Calendar.Date :=
  if year > Calendar.maxYear then .error .malformed
  else if week = 0 ∨ week > 53 ∨ (week = 53 ∧ (year = 0 ∨ !Calendar.isLongYear year)) then
    .error .malformed
  else if day = 0 ∨ day > 7 then .error .malformed
  else if year = 0 then .ok ⟨1, 0, 1⟩
  else .ok (Calendar.Date.ofDays
    (Calendar.firstMonday year + ((week - 1) * 7 + (day - 1) : Nat)).toNat)

def readDate (place : Nat) (bs : Bytes) : Except Fault Calendar.Date := do
  let some (year, bs) := digits 4 0 bs | throw .malformed
  let dashed := bs.headD 0 = dash
  let bs := if dashed then bs.drop 1 else bs
  if bs.headD 0 = letterW then
    let some (week, bs) := digits 2 0 (bs.drop 1) | throw .malformed
    let used := if dashed then 8 else 7
    if used < place then
      if dashed ∧ bs.headD 0 ≠ dash then throw .malformed
      let some (day, _) := digits 1 0 (if dashed then bs.drop 1 else bs) | throw .malformed
      weekDate year week day
    else weekDate year week 1
  else
    let some (month, bs) := digits 2 0 bs | throw .malformed
    if dashed ∧ bs.headD 0 ≠ dash then throw .malformed
    let some (day, _) := digits 2 0 (if dashed then bs.drop 1 else bs) | throw .malformed
    return ⟨year, month, day⟩

structure Clock where
  hour : Nat
  minute : Nat
  second : Nat
  micro : Nat
deriving DecidableEq, Repr

/-- The digits of a fraction: `left` bytes are ahead of the end. Six digits count. -/
def readFraction (left : Nat) (bs : Bytes) : Option (Nat × Bool) := do
  let n := min left 6
  let (micro, bs) ← digits n 0 bs
  let rest := bs.dropWhile isDigitByte
  return (micro * (if n = 0 then 10 else Nat.pow 10 (6 - n)), rest.headD 0 ≠ 0)

/-- The parts of a time of day, in `left` bytes of what follows, and whether text is left over.
Whatever single character stands at the very end is left over. -/
def readClock : (part : Nat) → (colons : Bool) → (left : Nat) → List Nat → Bytes →
    Option (List Nat × Nat × Bool)
  | 0, _, left, parts, bs => do
    let (micro, more) ← readFraction left bs
    return (parts, micro, more)
  | part + 1, colons, left, parts, bs => do
    let (n, bs) ← digits 2 0 bs
    let c := bs.headD 0
    let colons := if part = 2 then c = colon else colons
    let parts := parts ++ [n]
    if left ≤ 3 then return (parts, 0, c ≠ 0)
    else if colons ∧ c = colon then readClock part colons (left - 3) parts (bs.drop 1)
    else if c = 46 ∨ c = 44 then
      let (micro, more) ← readFraction (left - 3) (bs.drop 1)
      return (parts, micro, more)
    else if !colons then readClock part colons (left - 2) parts bs
    else none

def clock (left : Nat) (bs : Bytes) : Except Fault (Clock × Bool) :=
  match readClock 3 true left [] bs with
  | some (parts, micro, more) =>
    .ok (⟨parts.getD 0 0, parts.getD 1 0, parts.getD 2 0, micro⟩, more)
  | none => .error .malformed

def readTime (bs : Bytes) : Except Fault (Clock × Int) := do
  let isMark := fun b => b = 43 || b = dash || b = letterZ
  let ahead := (bs.takeWhile fun b => !isMark b).length
  let (time, more) ← clock ahead bs
  if ahead = bs.length then
    if more then throw .malformed
    return (time, 0)
  let zone := bs.drop ahead
  if zone.headD 0 = letterZ then
    if zone.length > 1 then throw .malformed
    return (time, 0)
  let (offset, more) ← clock (zone.length - 1) (zone.drop 1)
  if more then throw .malformed
  let seconds := offset.hour * 3600 + offset.minute * 60 + offset.second
  let micros : Int := if seconds = 0 then 0 else (seconds * microsPerSecond + offset.micro : Nat)
  return (time, if zone.headD 0 = dash then -micros else micros)

def leadLength (b : Nat) : Nat :=
  if b < 128 then 1 else if b / 16 = 14 then 3 else if b / 16 = 15 then 4 else 2

def combine (date : Calendar.Date) (time : Clock) (offset : Int) : Except Fault Instant :=
  if offset ≤ -(microsPerDay : Int) ∨ (microsPerDay : Int) ≤ offset then .error (.offsetRange offset)
  else if date.year = 0 ∨ date.year > Calendar.maxYear then .error (.yearRange date.year)
  else if date.month = 0 ∨ date.month > 12 then .error .monthRange
  else if date.day = 0 ∨ date.day > Calendar.daysInMonth date.year date.month then .error .dayRange
  else if time.hour > 23 then .error .hourRange
  else if time.minute > 59 then .error .minuteRange
  else if time.second > 59 then .error .secondRange
  else
    let seconds := time.hour * 3600 + time.minute * 60 + time.second
    let micros : Nat := date.toDays * microsPerDay + seconds * microsPerSecond + time.micro
    let utc : Int := micros - offset
    let limit := (Calendar.daysBeforeYear (Calendar.maxYear + 1)) * microsPerDay
    if utc < 0 ∨ (limit : Int) ≤ utc then .error .outOfRange else .ok ⟨utc.toNat⟩

def read (s : String) : Except Fault Instant := do
  let bs : Bytes := s.toUTF8.toList.map UInt8.toNat
  if bs.length < 7 then throw .malformed
  let some place := separatorPlace bs | throw .malformed
  let date ← readDate place bs
  if bs.length ≤ place then combine date ⟨0, 0, 0, 0⟩ 0
  else
    let (time, offset) ← readTime (bs.drop (place + leadLength (bs.getD place 0)))
    combine date time offset

def padded (width n : Nat) : String :=
  let ds := natDigits n
  String.ofList (List.replicate (width - ds.length) '0' ++ ds)

def text (t : Instant) : String :=
  let date := Calendar.Date.ofDays (t.micros / microsPerDay)
  let rest := t.micros % microsPerDay
  let seconds := rest / microsPerSecond
  let fraction := rest % microsPerSecond
  padded 4 date.year ++ "-" ++ padded 2 date.month ++ "-" ++ padded 2 date.day ++ "T"
    ++ padded 2 (seconds / 3600) ++ ":" ++ padded 2 (seconds / 60 % 60) ++ ":"
    ++ padded 2 (seconds % 60) ++ (if fraction = 0 then "" else "." ++ padded 6 fraction) ++ "+00:00"

end Instant

end BotPayload
