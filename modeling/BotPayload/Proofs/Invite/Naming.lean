import BotPayload.Proofs.Invite.Steps

/-!
# Naming a target by a number

A user or an application is named by its number, by the decimal text of the number, or by an object
with the number as its id. A text must fit 64 bits, and nothing asks this of the other two: the
three ways end alike exactly for the numbers below that limit (`aimAt_numbered`).
-/

namespace BotPayload

def TargetRef.numbered (n : Int) : List TargetRef :=
  [.value (.int n), .value (.str (intText n)), .object (some (.int n))]

namespace Invite

/-- Two attempts end in the same invite, or in the refusal of the same field. -/
inductive Alike : Except Error Invite → Except Error Invite → Prop
  | made : Alike (.ok i) (.ok i)
  | refused : Alike (.error (.refused field r)) (.error (.refused field r'))

theorem Alike.field (h : Alike (.error (.refused f r)) (.error (.refused f' r'))) : f = f' := by
  cases h
  rfl

section
variable {i : Invite} {t : InviteTarget} {ref : TargetRef} {n : Int} {field : String}
  {id : Quantity}

theorem targetId_int :
    targetId (.value (.int n)) field =
      if 0 ≤ n then .ok (.int n) else .error (.refused field .negative) := by
  by_cases sign : 0 ≤ n
  · rw [if_pos sign]
    exact targetId_ok.mpr (.int sign)
  · have negative : (Quantity.int n).isNegative = true := by simpa using Int.lt_of_not_ge sign
    simp [targetId, Value.requirePresent, Value.requireNonNegative, Quantity.ofValue?, negative,
      require, bind, Except.bind, sign]

theorem targetId_intText :
    targetId (.value (.str (intText n))) field =
      if 0 ≤ n ∧ n < Snowflake.limit then .ok (.int n)
      else .error (.refused field (.notSnowflake (intText n))) := by
  simp only [targetId, Snowflake.read_intText]
  by_cases small : 0 ≤ n ∧ n < Snowflake.limit
  · rw [if_pos small, if_pos small]
    exact congrArg (Except.ok ∘ Quantity.int) (Int.toNat_of_nonneg small.1)
  · rw [if_neg small, if_neg small]
    rfl

theorem aimAt_of_id (h : targetId ref t.idField = .ok id) :
    i.aimAt t ref =
      if i.isVoice then .ok (i.aimed t id)
      else .error (.refused "Target type" (.noTargetIn i.channelType.name)) := by
  have given : ref ≠ .none := by
    rintro rfl
    nomatch h
  rw [aimAt_eq t given, h]
  cases voice : i.isVoice <;> simp [require, bind, Except.bind, pure, Except.pure]

theorem aimAt_of_refused (given : ref ≠ .none) (h : targetId ref t.idField = .error err) :
    i.aimAt t ref = .error err := by
  rw [aimAt_eq t given, h]
  rfl

theorem numbered_given (mem : ref ∈ TargetRef.numbered n) : ref ≠ .none := by
  rintro rfl
  simp [TargetRef.numbered] at mem

theorem targetId_numbered (nonneg : 0 ≤ n) (small : n < Snowflake.limit)
    (mem : ref ∈ TargetRef.numbered n) : targetId ref field = .ok (.int n) := by
  simp only [TargetRef.numbered, List.mem_cons, List.not_mem_nil, or_false] at mem
  obtain rfl | rfl | rfl := mem
  · rw [targetId_int, if_pos nonneg]
  · rw [targetId_intText, if_pos ⟨nonneg, small⟩]
  · exact targetId_int.trans (if_pos nonneg)

theorem targetId_numbered_negative (field : String) (negative : n < 0)
    (mem : ref ∈ TargetRef.numbered n) :
    ∃ r, targetId ref field = .error (.refused field r) := by
  have sign : ¬0 ≤ n := Int.not_le.mpr negative
  simp only [TargetRef.numbered, List.mem_cons, List.not_mem_nil, or_false] at mem
  obtain rfl | rfl | rfl := mem
  · exact ⟨_, targetId_int.trans (if_neg sign)⟩
  · exact ⟨_, targetId_intText.trans (if_neg fun h => sign h.1)⟩
  · exact ⟨_, targetId_int.trans (if_neg sign)⟩

theorem alike_of_lt (i : Invite) (t : InviteTarget) (small : n < Snowflake.limit)
    (first : a ∈ TargetRef.numbered n) (second : b ∈ TargetRef.numbered n) :
    Alike (i.aimAt t a) (i.aimAt t b) := by
  by_cases sign : 0 ≤ n
  · rw [aimAt_of_id (targetId_numbered sign small first),
      aimAt_of_id (targetId_numbered sign small second)]
    split
    · exact .made
    · exact .refused
  · have negative := Int.lt_of_not_ge sign
    obtain ⟨r, refused⟩ := targetId_numbered_negative t.idField negative first
    obtain ⟨r', refused'⟩ := targetId_numbered_negative t.idField negative second
    rw [aimAt_of_refused (numbered_given first) refused,
      aimAt_of_refused (numbered_given second) refused']
    exact .refused

theorem aimAt_int (i : Invite) (t : InviteTarget) (nonneg : 0 ≤ n) :
    i.aimAt t (.value (.int n)) =
      if i.isVoice then .ok (i.aimed t (.int n))
      else .error (.refused "Target type" (.noTargetIn i.channelType.name)) :=
  aimAt_of_id (targetId_int.trans (if_pos nonneg))

/-- A text is refused for its size before the channel is looked at. -/
theorem aimAt_intText (i : Invite) (t : InviteTarget) (large : Snowflake.limit ≤ n) :
    i.aimAt t (.value (.str (intText n))) =
      .error (.refused t.idField (.notSnowflake (intText n))) :=
  aimAt_of_refused nofun (targetId_intText.trans (if_neg fun h => Int.not_le.mpr h.2 large))

theorem not_alike_of_le (i : Invite) (t : InviteTarget) (nonneg : 0 ≤ n)
    (large : Snowflake.limit ≤ n) :
    ¬Alike (i.aimAt t (.value (.int n))) (i.aimAt t (.value (.str (intText n)))) := by
  rw [aimAt_int i t nonneg, aimAt_intText i t large]
  split
  · exact nofun
  · intro alike
    have same := alike.field
    cases t <;> exact absurd same (by decide)

end

/-- The number, its text and an object end alike exactly when the number is less than 2 ^ 64. From
there on, the text is refused and the other two are taken. -/
theorem aimAt_numbered (i : Invite) (t : InviteTarget) (n : Int) :
    ((∀ a ∈ TargetRef.numbered n, ∀ b ∈ TargetRef.numbered n, Alike (i.aimAt t a) (i.aimAt t b)) ↔
        n < Snowflake.limit) ∧
      (i.isVoice = true → 0 ≤ n → n < Snowflake.limit →
        ∀ ref ∈ TargetRef.numbered n, i.aimAt t ref = .ok (i.aimed t (.int n))) ∧
      (i.isVoice = true → Snowflake.limit ≤ n →
        i.aimAt t (.value (.int n)) = .ok (i.aimed t (.int n)) ∧
          i.aimAt t (.object (some (.int n))) = .ok (i.aimed t (.int n)) ∧
          i.aimAt t (.value (.str (intText n))) =
            .error (.refused t.idField (.notSnowflake (intText n)))) := by
  have nonneg (large : Snowflake.limit ≤ n) : 0 ≤ n := Int.le_trans (Int.natCast_nonneg _) large
  refine ⟨⟨?_, ?_⟩, ?_, ?_⟩
  · intro alike
    refine Int.lt_of_not_ge fun large => not_alike_of_le i t (nonneg large) large (alike _ ?_ _ ?_)
    · exact List.mem_cons_self
    · exact List.mem_cons_of_mem _ List.mem_cons_self
  · intro small a first b second
    exact alike_of_lt i t small first second
  · intro voice sign small ref mem
    rw [aimAt_of_id (targetId_numbered sign small mem), if_pos voice]
  · intro voice large
    have taken : i.aimAt t (.value (.int n)) = .ok (i.aimed t (.int n)) :=
      (aimAt_int i t (nonneg large)).trans (if_pos voice)
    exact ⟨taken, by cases t <;> exact taken, aimAt_intText i t large⟩

/-- The first number of more than 64 bits, for a user in a voice channel. -/
theorem aimAt_numbered_limit :
    let i : Invite := { channelId := .int 10, channelType := .voice }
    i.isVoice = true ∧ (Snowflake.limit : Int) ≤ 18446744073709551616 ∧
      i.aimAtUser (.value (.int 18446744073709551616)) =
        .ok (i.aimed .stream (.int 18446744073709551616)) ∧
      i.aimAtUser (.value (.str (intText 18446744073709551616))) =
        .error (.refused "User ID" (.notSnowflake (intText 18446744073709551616))) := by
  intro i
  have limit : (Snowflake.limit : Int) ≤ 18446744073709551616 := by decide
  obtain ⟨-, -, apart⟩ := aimAt_numbered i .stream 18446744073709551616
  obtain ⟨number, -, text⟩ := apart rfl limit
  exact ⟨rfl, limit, number, text⟩

end Invite

end BotPayload
