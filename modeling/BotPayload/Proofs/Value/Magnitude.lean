import BotPayload.Value.Quantity
import Mathlib.Data.EReal.Basic
import Mathlib.Tactic.Linarith
import Mathlib.Algebra.Order.Field.Power

/-!
# Quantities as extended reals

The number that a quantity stands for: a real number, or one of the two infinities of the floating
point format. Quantities are compared with integers by these numbers.
-/

namespace BotPayload

namespace Binary64

noncomputable def value : Binary64 → EReal
  | .finite negative mantissa exponent =>
    (((if negative then -1 else 1) * mantissa * 2 ^ exponent : ℝ) : EReal)
  | .infinite negative => if negative then ⊥ else ⊤

theorem ratio_of_nonneg (negative : Bool) (m : Nat) {e : Int} (h : 0 ≤ e) :
    ratio negative m e = ((if negative then -(m : Int) else m) * 2 ^ e.toNat, 1) := by
  simp [ratio, h]

theorem ratio_of_neg (negative : Bool) (m : Nat) {e : Int} (h : e < 0) :
    ratio negative m e = (if negative then -(m : Int) else m, 2 ^ (-e).toNat) := by
  simp [ratio, Int.not_le.mpr h]

theorem value_finite (negative : Bool) (m : Nat) (e : Int) :
    (finite negative m e).value =
      (((ratio negative m e).1 / (ratio negative m e).2 : ℝ) : EReal) := by
  refine congrArg Real.toEReal ?_
  -- A negative exponent is in the denominator, another one in the numerator.
  obtain h | h := lt_or_ge e 0
  · have power : (2 : ℝ) ^ e = ((2 : ℝ) ^ (-e).toNat)⁻¹ := by
      rw [← zpow_natCast, Int.toNat_of_nonneg (by omega), zpow_neg, inv_inv]
    rw [ratio_of_neg negative m h, power]
    cases negative <;> simp [div_eq_mul_inv]
  · have power : (2 : ℝ) ^ e = (2 : ℝ) ^ e.toNat := by
      rw [← zpow_natCast, Int.toNat_of_nonneg h]
    rw [ratio_of_nonneg negative m h, power]
    cases negative <;> simp

theorem compareInt_eq_lt {x : Binary64} {n : Int} :
    x.compareInt n = .lt ↔ x.value < ((n : ℝ) : EReal) := by
  cases x with
  | infinite negative => cases negative <;> simp [compareInt, value, EReal.bot_lt_coe]
  | finite negative m e =>
    have pos : (0 : ℝ) < (ratio negative m e).2 := by exact_mod_cast ratio_pos negative m e
    rw [value_finite, EReal.coe_lt_coe_iff, div_lt_iff₀ pos]
    simp only [compareInt, Int.compare_eq_lt]
    exact_mod_cast Iff.rfl

theorem compareInt_eq_gt {x : Binary64} {n : Int} :
    x.compareInt n = .gt ↔ ((n : ℝ) : EReal) < x.value := by
  cases x with
  | infinite negative => cases negative <;> simp [compareInt, value, EReal.coe_lt_top]
  | finite negative m e =>
    have pos : (0 : ℝ) < (ratio negative m e).2 := by exact_mod_cast ratio_pos negative m e
    rw [value_finite, EReal.coe_lt_coe_iff, lt_div_iff₀ pos]
    simp only [compareInt, Int.compare_eq_gt]
    exact_mod_cast Iff.rfl

end Binary64

namespace Quantity

noncomputable def value : Quantity → EReal
  | .int n => ((n : ℝ) : EReal)
  | .float x => x.value
  | .flag b => if b then 1 else 0

theorem value_flag (b : Bool) : (flag b).value = (((if b then 1 else 0 : Int) : ℝ) : EReal) := by
  cases b <;> simp [value]

theorem compareInt_eq_lt {q : Quantity} {n : Int} :
    q.compareInt n = .lt ↔ q.value < ((n : ℝ) : EReal) := by
  cases q with
  | int m => rw [compareInt, value, Int.compare_eq_lt, EReal.coe_lt_coe_iff, Int.cast_lt]
  | float x => exact Binary64.compareInt_eq_lt
  | flag b => rw [compareInt, value_flag, Int.compare_eq_lt, EReal.coe_lt_coe_iff, Int.cast_lt]

theorem compareInt_eq_gt {q : Quantity} {n : Int} :
    q.compareInt n = .gt ↔ ((n : ℝ) : EReal) < q.value := by
  cases q with
  | int m => rw [compareInt, value, Int.compare_eq_gt, EReal.coe_lt_coe_iff, Int.cast_lt]
  | float x => exact Binary64.compareInt_eq_gt
  | flag b => rw [compareInt, value_flag, Int.compare_eq_gt, EReal.coe_lt_coe_iff, Int.cast_lt]

theorem isNegative_iff {q : Quantity} : q.isNegative = false ↔ 0 ≤ q.value := by
  rw [isNegative, beq_eq_false_iff_ne, Ne, compareInt_eq_lt, not_lt]
  simp

theorem exceeds_iff {q : Quantity} {n : Nat} : q.exceeds n = false ↔ q.value ≤ n := by
  rw [exceeds, beq_eq_false_iff_ne, Ne, compareInt_eq_gt, not_lt]
  simp

end Quantity

end BotPayload
