/-!
Binary floating point numbers in the 64-bit format, held as exact values: a sign, a natural
mantissa and a power of two. Every operation is exact arithmetic on natural numbers followed by
one rounding to the nearest representable value, a half going to the even mantissa.
-/

namespace BotPayload

/-- A number of the 64-bit format: the value `± mantissa · 2 ^ exponent`, or an infinity. -/
inductive Binary64 where
  | finite (negative : Bool) (mantissa : Nat) (exponent : Int)
  | infinite (negative : Bool)
deriving DecidableEq, Repr

namespace Binary64

/-- The quotient rounded to the nearest natural number, a half to the even neighbour. -/
def roundDiv (num den : Nat) : Nat :=
  let q := num / den
  let r := num % den
  if 2 * r < den ∨ (2 * r = den ∧ q % 2 = 0) then q else q + 1

/-- A rational number with its exponent taken out: the nearest integer to `num / den / 2 ^ e`. -/
def roundScaled (num den : Nat) (e : Int) : Nat :=
  if 0 ≤ e then roundDiv num (den * Nat.pow 2 e.toNat)
  else roundDiv (num * Nat.pow 2 (-e).toNat) den

/-- The largest `k` with `2 ^ k ≤ num / den`, for positive arguments. -/
def floorLog2 (num den : Nat) : Int :=
  let k : Int := (Nat.log2 num : Int) - (Nat.log2 den : Int)
  let reaches :=
    if 0 ≤ k then den * Nat.pow 2 k.toNat ≤ num else den ≤ num * Nat.pow 2 (-k).toNat
  if reaches then k else k - 1

def minExponent : Int := -1074

def maxExponent : Int := 971

def zero (negative : Bool) : Binary64 := .finite negative 0 minExponent

/-- The representable value nearest to `num / den`; beyond the largest one, an infinity. -/
def ofRatio (negative : Bool) (num den : Nat) : Binary64 :=
  if num = 0 ∨ den = 0 then zero negative
  else
    let e := max (floorLog2 num den - 52) minExponent
    let m := roundScaled num den e
    let (m, e) := if m = Nat.pow 2 53 then (Nat.pow 2 52, e + 1) else (m, e)
    if e > maxExponent then .infinite negative else .finite negative m e

def decimalLength (n : Nat) : Nat :=
  if n < 10 then 1 else decimalLength (n / 10) + 1

/-- The value nearest to `digits · 10 ^ exponent`. Exponents that decide the outcome by their
size alone are cut short. -/
def ofDecimal (negative : Bool) (digits : Nat) (exponent : Int) : Binary64 :=
  if digits = 0 then zero negative
  else
    let top := (decimalLength digits : Int) + exponent
    if top > 400 then .infinite negative
    else if top < -400 then zero negative
    else if 0 ≤ exponent then ofRatio negative (digits * Nat.pow 10 exponent.toNat) 1
    else ofRatio negative digits (Nat.pow 10 (-exponent).toNat)

def ofInt (n : Int) : Binary64 := ofRatio (n < 0) n.natAbs 1

def ratio (negative : Bool) (mantissa : Nat) (exponent : Int) : Int × Nat :=
  let signed : Int := if negative then -(mantissa : Int) else mantissa
  if 0 ≤ exponent then (signed * Nat.pow 2 exponent.toNat, 1)
  else (signed, Nat.pow 2 (-exponent).toNat)

theorem ratio_pos (s : Bool) (m : Nat) (e : Int) : (0 : Int) < (ratio s m e).2 := by
  unfold ratio
  dsimp only
  split
  · exact Int.one_pos
  · exact Int.natCast_pos.mpr (Nat.two_pow_pos _)

def isZero : Binary64 → Bool
  | .finite _ m _ => m == 0
  | .infinite _ => false

def compareInt : Binary64 → Int → Ordering
  | .infinite negative, _ => if negative then .lt else .gt
  | .finite s m e, n => let (num, den) := ratio s m e; compare num (n * den)

def toInt? : Binary64 → Option Int
  | .infinite _ => none
  | .finite s m e =>
    let (num, den) := ratio s m e
    if num % den = 0 then some (num / den) else none

def truncate? : Binary64 → Option Int
  | .infinite _ => none
  | .finite s m e => let (num, den) := ratio s m e; some (Int.tdiv num den)

def mulNat (x : Binary64) (n : Nat) : Binary64 :=
  match x with
  | .infinite s => .infinite s
  | .finite s m e => let (num, den) := ratio s m e; ofRatio s (num.natAbs * n) den

/-- The sum, rounded once; a sum of two infinities is the first. -/
def add : Binary64 → Binary64 → Binary64
  | .infinite s, _ => .infinite s
  | _, .infinite s => .infinite s
  | .finite s m e, .finite t n f =>
    let (a, b) := ratio s m e
    let (c, d) := ratio t n f
    let num := a * d + c * b
    ofRatio (num < 0) num.natAbs (b * d)

/-- What is left of a finite number when its integer part is taken off, with the sign kept. -/
def fraction (x : Binary64) : Binary64 :=
  match x with
  | .infinite s => zero s
  | .finite s m e =>
    let (num, den) := ratio s m e
    ofRatio s (num.natAbs % den) den

end Binary64

end BotPayload
