import BotPayload.Proofs.Value.Magnitude

/-!
# Whole parts of rounded quotients

A quotient is rounded to floating point and then cut to its whole part. As long as the format
divides each unit into enough steps, so that no rounding can reach the next whole number, this is
the whole part of the quotient itself (`roundDiv_scaled_div`).
-/

namespace BotPayload.Binary64

variable {num den k : Nat}

-- ---------------------------------------------------------------------------
-- Rounding
-- ---------------------------------------------------------------------------

theorem div_le_roundDiv (num den : Nat) : num / den ≤ roundDiv num den := by
  unfold roundDiv
  dsimp only
  split
  · exact Nat.le_refl _
  · exact Nat.le_succ _

theorem roundDiv_le (num den : Nat) : roundDiv num den ≤ num / den + 1 := by
  unfold roundDiv
  dsimp only
  split
  · exact Nat.le_succ _
  · exact Nat.le_refl _

theorem le_roundDiv_scaled_div {n : Nat} (pos : 0 < den) (h : n * den ≤ num) (k : Nat) :
    n ≤ roundDiv (num * 2 ^ k) den / 2 ^ k := by
  rw [Nat.le_div_iff_mul_le (Nat.two_pow_pos k)]
  refine Nat.le_trans ?_ (div_le_roundDiv _ _)
  rw [Nat.le_div_iff_mul_le pos, Nat.mul_right_comm]
  exact Nat.mul_le_mul_right _ h

theorem roundDiv_scaled_le (num den k : Nat) :
    roundDiv (num * 2 ^ k) den / 2 ^ k ≤ num + 1 := by
  rw [← Nat.mul_div_left (num + 1) (Nat.two_pow_pos k)]
  refine Nat.div_le_div_right ?_
  calc roundDiv (num * 2 ^ k) den ≤ num * 2 ^ k / den + 1 := roundDiv_le _ _
    _ ≤ num * 2 ^ k + 2 ^ k := Nat.add_le_add (Nat.div_le_self _ _) (Nat.two_pow_pos k)
    _ = (num + 1) * 2 ^ k := (Nat.succ_mul _ _).symm

/-- A quotient lies at least `1 / den` below the next whole number, and a step of the format is
smaller than that. -/
theorem roundDiv_scaled_div (pos : 0 < den) (fine : den < 2 ^ k) :
    roundDiv (num * 2 ^ k) den / 2 ^ k = num / den := by
  refine Nat.le_antisymm ?_ (le_roundDiv_scaled_div pos (Nat.div_mul_le_self num den) k)
  rw [← Nat.lt_succ_iff, Nat.div_lt_iff_lt_mul (Nat.two_pow_pos k)]
  have room : num * 2 ^ k + 2 ^ k ≤ (num / den + 1) * 2 ^ k * den := by
    rw [← Nat.succ_mul, Nat.mul_right_comm]
    exact Nat.mul_le_mul_right _ ((Nat.div_lt_iff_lt_mul pos).mp (Nat.lt_succ_self _))
  calc roundDiv (num * 2 ^ k) den ≤ num * 2 ^ k / den + 1 := roundDiv_le _ _
    _ = (num * 2 ^ k + den) / den := (Nat.add_div_right _ pos).symm
    _ < (num / den + 1) * 2 ^ k := by
      rw [Nat.div_lt_iff_lt_mul pos]
      omega

-- ---------------------------------------------------------------------------
-- Quotients in the format
-- ---------------------------------------------------------------------------

def signed (negative : Bool) (n : Nat) : Int := if negative then -(n : Int) else n

theorem natAbs_signed (negative : Bool) (n : Nat) : (signed negative n).natAbs = n := by
  cases negative <;> simp [signed]

theorem signed_tdiv (negative : Bool) (m n : Nat) :
    Int.tdiv (signed negative m) n = signed negative (m / n) := by
  cases negative with
  | true => simp [signed, Int.neg_tdiv]
  | false => simp [signed]

theorem floorLog2_le (num den : Nat) : floorLog2 num den ≤ (num.log2 : Int) - den.log2 := by
  unfold floorLog2
  generalize (num.log2 : Int) - den.log2 = k
  simp only
  split <;> split <;> omega

theorem truncate?_finite (negative : Bool) (m : Nat) {e : Int} (h : e < 0) :
    (finite negative m e).truncate? = some (signed negative (m / 2 ^ (-e).toNat)) := by
  have cut := signed_tdiv negative m (2 ^ (-e).toNat)
  simp only [truncate?, ratio_of_neg negative m h]
  exact congrArg some cut

/-- A quotient that leaves the format at least `k` places behind the point is rounded to a multiple
of some `2 ^ -j`, with `k ≤ j`. -/
theorem truncate?_ofRatio (negative : Bool) (pos : 0 < den) (two : 2 ≤ k) (most : k ≤ 1074)
    (h : num.log2 + k ≤ den.log2 + 52) :
    ∃ j, k ≤ j ∧ (ofRatio negative num den).truncate? =
      some (signed negative (roundDiv (num * 2 ^ j) den / 2 ^ j)) := by
  by_cases none : num = 0
  · refine ⟨k, Nat.le_refl k, ?_⟩
    have zero : roundDiv (num * 2 ^ k) den / 2 ^ k = 0 := by
      simp [none, roundDiv, pos]
    rw [zero, ofRatio, if_pos (.inl none), Binary64.zero, truncate?_finite negative 0 (by decide),
      Nat.zero_div]
  · have log := floorLog2_le num den
    have scale : max (floorLog2 num den - 52) minExponent ≤ -(k : Int) := by
      unfold minExponent
      omega
    rw [ofRatio, if_neg (not_or.mpr ⟨none, pos.ne'⟩)]
    generalize max (floorLog2 num den - 52) minExponent = e at scale
    have rounded : roundScaled num den e = roundDiv (num * 2 ^ (-e).toNat) den :=
      if_neg (by omega)
    simp only [rounded]
    refine ⟨(-e).toNat, by omega, ?_⟩
    generalize roundDiv (num * 2 ^ (-e).toNat) den = m
    -- A mantissa that is rounded up to `2 ^ 53` is halved, and its exponent is one more.
    by_cases top : m = Nat.pow 2 53
    · have inRange : ¬e + 1 > maxExponent := by
        unfold maxExponent
        omega
      have places : (-e).toNat = (-(e + 1)).toNat + 1 := by omega
      have half : m / 2 ^ (-e).toNat = 2 ^ 52 / 2 ^ (-(e + 1)).toNat := by
        rw [top, places, pow_succ' 2 (-(e + 1)).toNat]
        exact Nat.mul_div_mul_left (2 ^ 52) _ Nat.two_pos
      simp only [if_pos top, if_neg inRange]
      rw [truncate?_finite negative _ (by omega), half]
      rfl
    · have inRange : ¬e > maxExponent := by
        unfold maxExponent
        omega
      simp only [if_neg top, if_neg inRange]
      exact truncate?_finite negative _ (by omega)

end BotPayload.Binary64
