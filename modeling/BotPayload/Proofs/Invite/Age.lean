import BotPayload.Proofs.Invite.Steps
import BotPayload.Proofs.Number.Truncation

/-!
# Ages given as durations

An age is kept in whole seconds. A duration is cut to them before its limits are tested, and so the
limits hold of what is left: a duration that is short of a second counts as none, whatever its
sign, and up to a second more than the longest age is accepted.
-/

namespace BotPayload

-- ---------------------------------------------------------------------------
-- Durations
-- ---------------------------------------------------------------------------

namespace Duration

variable {d : Duration} {m : Int} {k n : Nat}

theorem ofMicros_ok :
    ofMicros m = .ok d ↔ -maxDays ≤ m / 86400000000 ∧ m / 86400000000 ≤ maxDays ∧ d = ⟨m⟩ := by
  unfold ofMicros
  dsimp only
  split
  · constructor
    · exact nofun
    · omega
  · rename_i inside
    obtain ⟨low, high⟩ := not_or.mp inside
    rw [Except.ok.injEq, eq_comm]
    exact ⟨fun same => ⟨Int.not_lt.mp low, Int.not_lt.mp high, same⟩, fun ⟨_, _, same⟩ => same⟩

theorem natAbs_lt (h : ofMicros m = .ok d) : d.micros.natAbs < 2 ^ 67 := by
  obtain ⟨low, high, rfl⟩ := ofMicros_ok.mp h
  unfold maxDays at low high
  dsimp only
  omega

theorem seconds_rounded (two : 2 ≤ k) (most : k ≤ 70) (h : d.micros.natAbs < 2 ^ (72 - k)) :
    ∃ j, k ≤ j ∧ d.seconds = Binary64.signed (d.micros < 0)
      (Binary64.roundDiv (d.micros.natAbs * 2 ^ j) 1000000 / 2 ^ j) := by
  have log : d.micros.natAbs.log2 + k ≤ Nat.log2 1000000 + 52 := by
    have million : Nat.log2 1000000 = 19 := by decide
    have magnitude : d.micros.natAbs.log2 < 72 - k := by
      by_cases none : d.micros.natAbs = 0
      · rw [none, Nat.log2_zero]
        omega
      · exact (Nat.log2_lt none).mpr h
    omega
  obtain ⟨j, fine, cut⟩ :=
    Binary64.truncate?_ofRatio (d.micros < 0) (Nat.succ_pos 999999) two (by omega) log
  exact ⟨j, fine, congrArg (Option.getD · 0) cut⟩

theorem signed_natAbs (m : Int) (n : Nat) :
    Binary64.signed (m < 0) (m.natAbs / n) = m.tdiv n := by
  rw [← Binary64.signed_tdiv]
  congr 1
  unfold Binary64.signed
  split
  · rename_i negative
    rw [Int.ofNat_natAbs_of_nonpos (Int.le_of_lt (of_decide_eq_true negative)), Int.neg_neg]
  · rename_i other
    exact Int.natAbs_of_nonneg (Int.not_lt.mp fun negative => other (decide_eq_true negative))

theorem seconds_eq (h : d.micros.natAbs < 2 ^ 52) : d.seconds = d.micros.tdiv 1000000 := by
  obtain ⟨j, fine, cut⟩ := seconds_rounded (k := 20) (by omega) (by omega) h
  have steps : 1000000 < 2 ^ j :=
    Nat.lt_of_lt_of_le (by decide) (Nat.pow_le_pow_right Nat.two_pos fine)
  rw [cut, Binary64.roundDiv_scaled_div (Nat.succ_pos _) steps, signed_natAbs]
  rfl

theorem le_seconds (h : d.micros.natAbs < 2 ^ 67) (least : n * 1000000 ≤ d.micros.natAbs) :
    ∃ s, n ≤ s ∧ d.seconds = Binary64.signed (d.micros < 0) s := by
  obtain ⟨j, -, cut⟩ := seconds_rounded (k := 5) (by omega) (by omega) h
  exact ⟨_, Binary64.le_roundDiv_scaled_div (Nat.succ_pos _) least j, cut⟩

theorem tdiv_second (m : Int) :
    m.tdiv 1000000 = if m < 0 then -(-m / 1000000) else m / 1000000 := by
  split
  · rename_i negative
    rw [← Int.tdiv_eq_ediv_of_nonneg (by omega), Int.neg_tdiv, Int.neg_neg]
  · rename_i other
    exact Int.tdiv_eq_ediv_of_nonneg (Int.not_lt.mp other)

/-- The two ways in which the seconds come about: exactly, or as a large number of the same sign. -/
theorem seconds_cases (h : ofMicros m = .ok d) :
    d.seconds = m.tdiv 1000000 ∨
      1000001 * 1000000 ≤ m.natAbs ∧ ∃ s, 1000001 ≤ s ∧ d.seconds = Binary64.signed (m < 0) s := by
  have range := natAbs_lt h
  obtain ⟨-, -, rfl⟩ := ofMicros_ok.mp h
  by_cases small : m.natAbs < 2 ^ 52
  · exact .inl (seconds_eq small)
  · have large : 1000001 * 1000000 ≤ m.natAbs := by omega
    exact .inr ⟨large, le_seconds range large⟩

theorem seconds_neg_iff (h : ofMicros m = .ok d) : d.seconds < 0 ↔ m ≤ -1000000 := by
  obtain exact | ⟨large, s, most, cut⟩ := seconds_cases h
  · rw [exact, tdiv_second]
    split <;> omega
  · rw [cut, Binary64.signed]
    split <;> rename_i sign <;> rw [decide_eq_true_eq] at sign <;> omega

theorem lt_seconds_iff (h : ofMicros m = .ok d) (few : n ≤ 1000000) :
    n < d.seconds ↔ (n + 1) * 1000000 ≤ m := by
  obtain exact | ⟨large, s, most, cut⟩ := seconds_cases h
  · rw [exact, tdiv_second]
    split <;> omega
  · rw [cut, Binary64.signed]
    split <;> rename_i sign <;> rw [decide_eq_true_eq] at sign <;> omega

theorem seconds_short (h : ofMicros m = .ok d) : Numeral.isShort d.seconds = true := by
  have range := natAbs_lt h
  obtain ⟨j, -, cut⟩ := seconds_rounded (k := 5) (by omega) (by omega) range
  have few := Binary64.roundDiv_scaled_le d.micros.natAbs 1000000 j
  refine hasDigits_mono (by decide : 30 ≤ Numeral.maxDigits) (hasDigits_iff.mpr ?_)
  calc d.seconds.natAbs ≤ d.micros.natAbs + 1 := by rwa [cut, Binary64.natAbs_signed]
    _ < 2 ^ 67 + 1 := by omega
    _ < Nat.pow 10 30 := by decide

end Duration

-- ---------------------------------------------------------------------------
-- Ages
-- ---------------------------------------------------------------------------

namespace Invite

theorem limitAge_seconds (i : Invite) {d : Duration} (short : Numeral.isShort d.seconds = true) :
    i.limitAge (.duration d) =
      if d.seconds < 0 then .error (.refused "Max age" .negative)
      else if maxAgeLimit < d.seconds then
        .error (.refused "Max age" (.ageTooLong maxAgeLimit (intText d.seconds)))
      else .ok { i with maxAge := some (.int d.seconds) } := by
  have written : (Quantity.int d.seconds).write = .ok (intText d.seconds) :=
    Value.write_ok.mpr ⟨short, rfl⟩
  have tested : i.limitAge (.duration d) = (do
      require (!(Quantity.int d.seconds).isNegative) "Max age" .negative
      require (!(Quantity.int d.seconds).exceeds maxAgeLimit) "Max age"
        (.ageTooLong maxAgeLimit (intText d.seconds))
      return { i with maxAge := some (.int d.seconds) }) := by
    simp only [limitAge, bounded, Quantity.ofValue?, bind_assoc, pure_bind, written]
    rfl
  rw [tested, Quantity.isNegative_int, Quantity.exceeds_int]
  by_cases negative : d.seconds < 0
  · simp [negative, require, bind, Except.bind]
  · by_cases long : maxAgeLimit < d.seconds
    · simp [negative, long, require, bind, Except.bind]
    · simp [negative, long, require, bind, Except.bind, pure, Except.pure]

section
variable {m : Int} {d : Duration}

theorem limitAge_of_neg (h : Duration.ofMicros m = .ok d) (negative : m ≤ -1000000) (i : Invite) :
    i.limitAge (.duration d) = .error (.refused "Max age" .negative) := by
  rw [limitAge_seconds i (Duration.seconds_short h), if_pos ((Duration.seconds_neg_iff h).mpr negative)]

theorem limitAge_of_long (h : Duration.ofMicros m = .ok d) (long : 604801 * 1000000 ≤ m)
    (i : Invite) :
    ∃ got,
      i.limitAge (.duration d) = .error (.refused "Max age" (.ageTooLong maxAgeLimit got)) := by
  have sign : ¬d.seconds < 0 := by
    rw [Duration.seconds_neg_iff h]
    omega
  have beyond : (maxAgeLimit : Int) < d.seconds := (Duration.lt_seconds_iff h (by decide)).mpr long
  exact ⟨_, by rw [limitAge_seconds i (Duration.seconds_short h), if_neg sign, if_pos beyond]⟩

theorem limitAge_of_within (h : Duration.ofMicros m = .ok d) (low : -1000000 < m)
    (high : m < 604801 * 1000000) (i : Invite) :
    i.limitAge (.duration d) = .ok { i with maxAge := some (.int (m.tdiv 1000000)) } := by
  have sign : ¬d.seconds < 0 := by
    rw [Duration.seconds_neg_iff h]
    omega
  have under : ¬(maxAgeLimit : Int) < d.seconds := by
    rw [Duration.lt_seconds_iff h (by decide)]
    exact Int.not_le.mpr high
  have whole : d.seconds = m.tdiv 1000000 :=
    (Duration.seconds_cases h).resolve_right fun ⟨large, _⟩ => by omega
  rw [limitAge_seconds i (Duration.seconds_short h), if_neg sign, if_neg under, whole]

end

/-- A duration is tested, and kept, as what is left of it when it is cut to whole seconds, toward
zero. So it is accepted as an age when it falls short of 0 or exceeds seven days by less than a
second, and every duration of less than a second, of either sign, becomes 0, which never ends. -/
theorem limitAge_duration {m : Int} {d : Duration} (h : Duration.ofMicros m = .ok d) (i : Invite) :
    (∀ i', i.limitAge (.duration d) = .ok i' ↔ -1000000 < m ∧ m < 604801 * 1000000 ∧
      i' = { i with maxAge := some (.int (m.tdiv 1000000)) }) ∧
    (∀ i', i.limitAge (.duration d) = .ok i' →
      (i'.maxAge = some (.int 0) ↔ -1000000 < m ∧ m < 1000000)) ∧
    (m ≤ -1000000 → i.limitAge (.duration d) = .error (.refused "Max age" .negative)) ∧
    (604801 * 1000000 ≤ m →
      ∃ got, i.limitAge (.duration d) = .error (.refused "Max age" (.ageTooLong 604800 got))) := by
  have accepted (i' : Invite) : i.limitAge (.duration d) = .ok i' ↔
      -1000000 < m ∧ m < 604801 * 1000000 ∧
        i' = { i with maxAge := some (.int (m.tdiv 1000000)) } := by
    constructor
    · intro set
      by_cases negative : m ≤ -1000000
      · nomatch (limitAge_of_neg h negative i).symm.trans set
      · by_cases long : 604801 * 1000000 ≤ m
        · obtain ⟨got, refused⟩ := limitAge_of_long h long i
          nomatch refused.symm.trans set
        · have low := Int.not_le.mp negative
          have high := Int.not_le.mp long
          exact ⟨low, high, Except.ok.inj (set.symm.trans (limitAge_of_within h low high i))⟩
    · rintro ⟨low, high, rfl⟩
      exact limitAge_of_within h low high i
  refine ⟨accepted, fun i' set => ?_, fun negative => limitAge_of_neg h negative i,
    fun long => limitAge_of_long h long i⟩
  obtain ⟨-, -, rfl⟩ := (accepted i').mp set
  simp only [Option.some.injEq, Quantity.int.injEq, Duration.tdiv_second]
  split <;> omega

/-- Half a second on either side of 0 never ends, and a week may be half a second longer. -/
theorem limitAge_duration_half :
    ∃ (i : Invite) (before after week : Duration), Duration.ofMicros (-500000) = .ok before ∧
      Duration.ofMicros 500000 = .ok after ∧ Duration.ofMicros 604800500000 = .ok week ∧
      i.limitAge (.duration before) = .ok { i with maxAge := some (.int 0) } ∧
      i.limitAge (.duration after) = .ok { i with maxAge := some (.int 0) } ∧
      i.limitAge (.duration week) = .ok { i with maxAge := some (.int 604800) } := by
  have before : Duration.ofMicros (-500000) = .ok ⟨-500000⟩ := rfl
  have after : Duration.ofMicros 500000 = .ok ⟨500000⟩ := rfl
  have week : Duration.ofMicros 604800500000 = .ok ⟨604800500000⟩ := rfl
  exact ⟨{ channelId := .int 10, channelType := .text }, _, _, _, before, after, week,
    ((limitAge_duration before _).1 _).mpr ⟨by decide, by decide, rfl⟩,
    ((limitAge_duration after _).1 _).mpr ⟨by decide, by decide, rfl⟩,
    ((limitAge_duration week _).1 _).mpr ⟨by decide, by decide, rfl⟩⟩

end Invite

end BotPayload
