/-!
Decimal digits of whole numbers. A statement about the digits of all numbers follows from those of
one digit and from that of a further one (`natDigits_induction`). Numbers of too many digits are
neither read nor written.
-/

namespace BotPayload

def digitChar (n : Nat) : Char := Char.ofNat (48 + n)

/-- The decimal digits of `n`, the most significant first, in front of `rest`. -/
def digitsOnto (n : Nat) (rest : List Char) : List Char :=
  if n < 10 then digitChar n :: rest else digitsOnto (n / 10) (digitChar (n % 10) :: rest)

def natDigits (n : Nat) : List Char := digitsOnto n []

def natText (n : Nat) : String := String.ofList (natDigits n)

def intText (n : Int) : String :=
  if n < 0 then String.ofList ('-' :: natDigits n.natAbs) else natText n.natAbs

def Numeral.maxDigits : Nat := 4300

def hasDigits : Nat → Nat → Bool
  | 0, n => n == 0
  | most + 1, n => n < 10 || hasDigits most (n / 10)

def Numeral.isShort (n : Int) : Bool := hasDigits maxDigits n.natAbs

theorem hasDigits_iff {most n : Nat} : hasDigits most n = true ↔ n < Nat.pow 10 most := by
  induction most generalizing n with
  | zero => simp [hasDigits]
  | succ most ih =>
    have pos : 0 < Nat.pow 10 most := Nat.pow_pos (by decide)
    have power : Nat.pow 10 (most + 1) = Nat.pow 10 most * 10 := rfl
    rw [hasDigits, Bool.or_eq_true, decide_eq_true_eq, ih, power, Nat.div_lt_iff_lt_mul (by decide)]
    omega

theorem Numeral.isShort_of_le {m n : Int} (h : n.natAbs ≤ m.natAbs) (short : isShort m = true) :
    isShort n = true :=
  hasDigits_iff.mpr (Nat.lt_of_le_of_lt h (hasDigits_iff.mp short))

theorem hasDigits_mono {j k n : Nat} (le : j ≤ k) (h : hasDigits j n = true) :
    hasDigits k n = true :=
  hasDigits_iff.mpr
    (Nat.lt_of_lt_of_le (hasDigits_iff.mp h) (Nat.pow_le_pow_right (by decide) le))

theorem not_hasDigits_pow (most : Nat) : hasDigits most (Nat.pow 10 most) = false :=
  eq_false_of_ne_true fun h => Nat.lt_irrefl _ (hasDigits_iff.mp h)

theorem Numeral.not_isShort_pow : isShort (Nat.pow 10 maxDigits : Nat) = false := by
  rw [isShort, Int.natAbs_natCast]
  exact not_hasDigits_pow maxDigits

theorem digitsOnto_eq (n : Nat) (rest : List Char) : digitsOnto n rest = natDigits n ++ rest := by
  induction n using Nat.strongRecOn generalizing rest with
  | ind n ih =>
    unfold natDigits
    rw [digitsOnto.eq_def n rest, digitsOnto.eq_def n []]
    split
    · rfl
    · rename_i h
      rw [ih (n / 10) (by omega) (_ :: rest), ih (n / 10) (by omega) [_], List.append_assoc]
      rfl

theorem natDigits_of_le {n : Nat} (h : 10 ≤ n) :
    natDigits n = natDigits (n / 10) ++ [digitChar (n % 10)] := by
  rw [← digitsOnto_eq, natDigits, digitsOnto.eq_def n, if_neg (by omega)]

theorem natDigits_of_lt {n : Nat} (h : n < 10) : natDigits n = [digitChar n] := by
  rw [natDigits, digitsOnto, if_pos h]

/-- A property of lists of digits that one digit has, and that a further digit keeps. -/
theorem natDigits_induction {P : Nat → List Char → Prop} (one : ∀ n, n < 10 → P n [digitChar n])
    (more : ∀ n, 10 ≤ n → P (n / 10) (natDigits (n / 10)) →
      P n (natDigits (n / 10) ++ [digitChar (n % 10)]))
    (n : Nat) : P n (natDigits n) := by
  induction n using Nat.strongRecOn with
  | ind n ih =>
    by_cases h : n < 10
    · rw [natDigits_of_lt h]
      exact one n h
    · rw [natDigits_of_le (by omega)]
      exact more n (by omega) (ih _ (by omega))

theorem mem_natDigits {n : Nat} {c : Char} : c ∈ natDigits n → ∃ d, d < 10 ∧ c = digitChar d := by
  refine natDigits_induction (P := fun _ cs => c ∈ cs → ∃ d, d < 10 ∧ c = digitChar d) ?_ ?_ n
  · intro n h hc
    exact ⟨n, h, List.mem_singleton.1 hc⟩
  · intro n _ ih hc
    rcases List.mem_append.1 hc with hc | hc
    · exact ih hc
    · exact ⟨n % 10, by omega, List.mem_singleton.1 hc⟩

theorem natDigits_ne_nil (n : Nat) : natDigits n ≠ [] :=
  natDigits_induction (P := fun _ cs => cs ≠ []) (by simp) (by simp) n

theorem natDigits_length_le {k n : Nat} (h : n < Nat.pow 10 (k + 1)) :
    (natDigits n).length ≤ k + 1 := by
  induction k generalizing n with
  | zero =>
    rw [natDigits_of_lt h]
    exact Nat.le_refl 1
  | succ k ih =>
    by_cases small : n < 10
    · rw [natDigits_of_lt small]
      exact Nat.le_add_left 1 _
    · have tenth : n < 10 * Nat.pow 10 (k + 1) := by
        rw [Nat.mul_comm]
        exact h
      rw [natDigits_of_le (Nat.le_of_not_lt small), List.length_append]
      exact Nat.succ_le_succ (ih (Nat.div_lt_of_lt_mul tenth))

theorem mem_intText {n : Int} {c : Char} (h : c ∈ (intText n).toList) :
    c = '-' ∨ ∃ d, d < 10 ∧ c = digitChar d := by
  unfold intText at h
  split at h
  · rw [String.toList_ofList] at h
    obtain sign | digit := List.mem_cons.mp h
    · exact .inl sign
    · exact .inr (mem_natDigits digit)
  · rw [natText, String.toList_ofList] at h
    exact .inr (mem_natDigits h)

theorem intText_ne (n : Int) : intText n ≠ "" := by
  unfold intText
  split
  · simp
  · simpa [natText] using natDigits_ne_nil n.natAbs

end BotPayload
