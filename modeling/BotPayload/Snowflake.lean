import BotPayload.Argument

/-!
Snowflakes: unsigned 64-bit numbers that name users, channels and applications, given as decimal
text.
-/

namespace BotPayload.Snowflake

def limit : Nat := Nat.pow 2 64

def ofText? (s : String) : Option Nat :=
  match Numeral.read (trimBlanks s.toList) with
  | .ok n => if 0 ≤ n ∧ n < limit then some n.toNat else none
  | .error _ => none

theorem ofText?_intText (n : Int) :
    ofText? (intText n) = if 0 ≤ n ∧ n < limit then some n.toNat else none := by
  have digits : ∀ d < 10, isBlank (digitChar d) = false := by decide
  have visible : ∀ c ∈ (intText n).toList, isBlank c = false := by
    intro c hc
    obtain rfl | ⟨d, hd, rfl⟩ := mem_intText hc
    · decide
    · exact digits d hd
  rw [ofText?, trimBlanks_eq_self visible, Numeral.read_intText]
  by_cases few : (natDigits n.natAbs).length ≤ Numeral.maxDigits
  · rw [if_pos few]
  · have big : ¬(0 ≤ n ∧ n < limit) := by
      rintro ⟨nonneg, small⟩
      have bound : limit < Nat.pow 10 (19 + 1) := by decide
      have below : n.natAbs < Nat.pow 10 (19 + 1) := by omega
      exact few (Nat.le_trans (natDigits_length_le below) (by decide))
    rw [if_neg few, if_neg big]

theorem isShort_of_ofText? (h : ofText? s = some n) : Numeral.isShort n = true := by
  have small : n < limit := by
    rw [ofText?] at h
    split at h
    · split at h
      · cases h
        omega
      · cases h
    · cases h
  have bound : limit < Nat.pow 10 20 := by decide
  exact hasDigits_mono (Nat.le_of_ble_eq_true rfl) (hasDigits_iff.mpr (Nat.lt_trans small bound))

def read (s : String) (field : String) : Except Error Nat := do
  require (s ≠ "") field .empty
  match ofText? s with
  | some n => return n
  | none => throw (.refused field (.notSnowflake s))

theorem read_ok : read s field = .ok n ↔ s ≠ "" ∧ ofText? s = some n := by
  simp only [read, bind_ok, require_ok, decide_eq_true_eq]
  cases ofText? s <;> simp [pure_ok]

theorem read_intText (n : Int) (field : String) :
    read (intText n) field =
      if 0 ≤ n ∧ n < limit then .ok n.toNat
      else .error (.refused field (.notSnowflake (intText n))) := by
  have nonempty : decide (intText n ≠ "") = true := decide_eq_true (intText_ne n)
  simp only [read, nonempty, require, ofText?_intText, ↓reduceIte]
  by_cases small : 0 ≤ n ∧ n < limit
  · rw [if_pos small, if_pos small]
    rfl
  · rw [if_neg small, if_neg small]
    rfl

def ofValue (v : Value) (field : String) : Except Error Nat := do
  v.requireNonEmpty field
  match v with
  | .str s => read s field
  | _ => throw .noPart

end BotPayload.Snowflake
