import BotPayload.Argument

/-!
Amounts of time, in microseconds. An amount is the sum of parts in different units. Whole parts are
summed exactly; the fractions of floating point parts are summed on their own, in floating point,
and the total is rounded to the nearest microsecond, a half to the even one.
-/

namespace BotPayload

structure Duration where
  micros : Int
deriving DecidableEq, Repr

namespace Duration

def units : List (String × Nat) :=
  [("microseconds", 1), ("milliseconds", 1000), ("seconds", 1000000), ("minutes", 60000000),
    ("hours", 3600000000), ("days", 86400000000), ("weeks", 604800000000)]

/-- A sum: whole microseconds, and fractions of one. -/
structure Sum where
  whole : Int
  fraction : Binary64

def Sum.add (s : Sum) (amount : Quantity) (unit : Nat) : Except Error Sum :=
  match amount with
  | .int n => .ok { s with whole := s.whole + n * unit }
  | .flag b => .ok { s with whole := s.whole + (if b then unit else 0) }
  | .float x =>
    match x.truncate? with
    | none => .error .infiniteNumber
    | some n =>
      let s := { s with whole := s.whole + n * unit }
      let part := x.fraction
      if part.isZero then .ok s
      else
        let scaled := part.mulNat unit
        .ok ⟨s.whole + scaled.truncate?.getD 0, s.fraction.add scaled.fraction⟩

def roundRatio (num : Int) (den : Nat) : Int :=
  let q := num / den
  let r := num % den
  if 2 * r < den ∨ (2 * r = den ∧ q % 2 = 0) then q else q + 1

def Sum.total (s : Sum) : Int :=
  match s.fraction with
  | .infinite _ => s.whole
  | .finite negative m e =>
    let (num, den) := Binary64.ratio negative m e
    roundRatio (s.whole * den + num) den

def maxDays : Int := 999999999

def ofMicros (micros : Int) : Except Error Duration :=
  let days := micros / 86400000000
  if days < -maxDays ∨ maxDays < days then .error (.durationTooLong days) else .ok ⟨micros⟩

def ofParts (parts : Members) : Except Error Duration := do
  let known := parts.all fun p => (units.lookup p.1).isSome
  if !known then throw .wrongKind
  let sum ← units.foldlM
    (fun sum unit =>
      match parts.lookup unit.1 with
      | none => .ok sum
      | some v =>
        match Quantity.ofValue? v with
        | some q => sum.add q unit.2
        | none => .error .wrongKind)
    (⟨0, Binary64.zero false⟩ : Sum)
  ofMicros sum.total

/-- Seconds, first rounded to a floating point number, then cut to the whole ones. -/
def seconds (d : Duration) : Int :=
  ((Binary64.ofRatio (d.micros < 0) d.micros.natAbs 1000000).truncate?).getD 0

end Duration

end BotPayload
