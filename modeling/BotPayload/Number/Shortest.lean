import BotPayload.Number.Binary64
import BotPayload.Number.Decimal

/-!
The decimal text of a floating point number: the fewest digits that read back as the same number,
and of those the nearest. The search walks the decimal grids from coarse to fine and tests the two
grid points next to the value, in exact arithmetic.
-/

namespace BotPayload

namespace Shortest

/-- The reals that round to one floating point number, scaled by `den`: from `low` to `high`
around `value`, the ends included when `closed`. -/
structure Interval where
  low : Nat
  value : Nat
  high : Nat
  den : Nat
  closed : Bool

/-- A power of two has a nearer neighbour below it, half the usual distance away. -/
def Interval.ofFinite (mantissa : Nat) (exponent : Int) : Interval :=
  let below := if mantissa = Nat.pow 2 52 ∧ exponent > Binary64.minExponent then 1 else 2
  let e := exponent - 2
  let up := Nat.pow 2 e.toNat
  let down := Nat.pow 2 (-e).toNat
  ⟨(4 * mantissa - below) * up, 4 * mantissa * up, (4 * mantissa + 2) * up, down,
    mantissa % 2 = 0⟩

def Interval.admits (i : Interval) (n : Nat) (g : Int) : Bool :=
  let p := n * Nat.pow 10 g.toNat * i.den
  let s := Nat.pow 10 (-g).toNat
  if i.closed then i.low * s ≤ p && p ≤ i.high * s else i.low * s < p && p < i.high * s

/-- The distance from `n · 10 ^ g` to the value, in units common to all `n`. -/
def Interval.distance (i : Interval) (n : Nat) (g : Int) : Nat :=
  let p := n * Nat.pow 10 g.toNat * i.den
  let v := i.value * Nat.pow 10 (-g).toNat
  (p - v) + (v - p)

/-- The grid point next to the value that reads back, the nearer of two; an exact tie goes to the
even one. -/
def Interval.hit? (i : Interval) (g : Int) : Option Nat :=
  let n := i.value * Nat.pow 10 (-g).toNat / (i.den * Nat.pow 10 g.toNat)
  match i.admits n g, i.admits (n + 1) g with
  | true, true =>
    let a := i.distance n g
    let b := i.distance (n + 1) g
    some (if a < b ∨ (a = b ∧ n % 2 = 0) then n else n + 1)
  | true, false => some n
  | false, true => some (n + 1)
  | false, false => none

def Interval.search (i : Interval) : Nat → Int → Nat × Int
  | 0, g => (i.value * Nat.pow 10 (-g).toNat / (i.den * Nat.pow 10 g.toNat), g)
  | fuel + 1, g =>
    match i.hit? g with
    | some n => (n, g)
    | none => i.search fuel (g - 1)

def trim : Nat → Nat → Int → Nat × Int
  | 0, n, g => (n, g)
  | fuel + 1, n, g => if n % 10 = 0 ∧ n ≠ 0 then trim fuel (n / 10) (g + 1) else (n, g)

def digits (mantissa : Nat) (exponent : Int) : Nat × Int :=
  let i := Interval.ofFinite mantissa exponent
  let top : Int := if i.den ≤ i.value then (Binary64.decimalLength (i.value / i.den) : Int) - 1
    else -((Binary64.decimalLength (i.den / i.value) : Int))
  let (n, g) := i.search 20 (top + 1)
  trim 20 n g

/-- Positional from `0.0001` to below `10 ^ 16`, always with a fraction; else one digit, the
others behind the point, and a signed exponent of at least two digits. -/
def layout (n : Nat) (g : Int) : String :=
  let ds := natDigits n
  let point : Int := (ds.length : Int) + g
  if -4 < point ∧ point ≤ 16 then
    if point ≤ 0 then String.ofList ('0' :: '.' :: (List.replicate (-point).toNat '0' ++ ds))
    else
      let whole := ds.take point.toNat ++ List.replicate (point.toNat - ds.length) '0'
      let rest := ds.drop point.toNat
      String.ofList (whole ++ '.' :: (if rest.isEmpty then ['0'] else rest))
  else
    let e := point - 1
    let sign := if e < 0 then '-' else '+'
    let es := natDigits e.natAbs
    let es := if es.length < 2 then '0' :: es else es
    let tail := ds.drop 1
    let mid := if tail.isEmpty then [] else '.' :: tail
    String.ofList (ds.take 1 ++ mid ++ 'e' :: sign :: es)

end Shortest

def Binary64.text : Binary64 → String
  | .infinite negative => if negative then "-inf" else "inf"
  | .finite negative m e =>
    let body := if m = 0 then "0.0" else
      let (n, g) := Shortest.digits m e
      Shortest.layout n g
    if negative then "-" ++ body else body

end BotPayload
