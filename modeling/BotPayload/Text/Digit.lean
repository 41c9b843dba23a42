import BotPayload.Text.CodePointSet

/-!
Digits of all scripts. A decimal digit has a value from 0 to 9 and stands in a block of ten; a
superscript or circled digit looks like one but does not make a numeral.
-/

namespace BotPayload

/-- The code points of the digits zero; the nine others of a script follow its zero. -/
def digitZeros : List Nat := [
  48, 1632, 1776, 1984, 2406, 2534, 2662, 2790, 2918, 3046, 3174, 3302, 3430, 3558, 3664, 3792,
  3872, 4160, 4240, 6112, 6160, 6470, 6608, 6784, 6800, 6992, 7088, 7232, 7248, 42528, 43216,
  43264, 43472, 43504, 43600, 44016, 65296, 66720, 68912, 69734, 69872, 69942, 70096, 70384,
  70736, 70864, 71248, 71360, 71472, 71904, 72016, 72784, 73040, 73120, 92768, 92864, 93008,
  120782, 120792, 120802, 120812, 120822, 123200, 123632, 125264, 130032
]

def digitValue? (c : Char) : Option Nat :=
  (digitZeros.find? fun z => z ≤ c.toNat && c.toNat < z + 10).map fun z => c.toNat - z

/-- Superscript, subscript, circled and other digits outside the decimal blocks. -/
def digitSigns : CodePointSet := ⟨[
  178, 180, 185, 186, 4969, 4978, 6618, 6619, 8304, 8305, 8308, 8314, 8320, 8330, 9312, 9321,
  9332, 9341, 9352, 9361, 9450, 9451, 9461, 9470, 9471, 9472, 10102, 10111, 10112, 10121, 10122,
  10131, 68160, 68164, 69216, 69225, 69714, 69723, 127232, 127243
]⟩

def isDigitLike (c : Char) : Bool := (digitValue? c).isSome || digitSigns.contains c

theorem exists_zero_of_digit {c : Char} {n : Nat} (h : digitValue? c = some n) :
    ∃ z ∈ digitZeros, c.toNat = z + n ∧ n < 10 := by
  obtain ⟨z, found, rfl⟩ := Option.map_eq_some_iff.1 h
  have block := List.find?_some found
  simp only [Bool.and_eq_true, decide_eq_true_eq] at block
  exact ⟨z, List.mem_of_find?_eq_some found, by omega, by omega⟩

theorem isDigitLike_of_digit {c : Char} (h : (digitValue? c).isSome) : isDigitLike c = true := by
  rw [isDigitLike, h, Bool.true_or]

example : digitValue? '7' = some 7 ∧ digitValue? '٣' = some 3 ∧ digitValue? '²' = none := by decide
example : isDigitLike '²' = true ∧ isDigitLike '½' = false := by decide +kernel

end BotPayload
