import BotPayload.Invite

/-!
# The steps of an invite

For each step a lemma `…_ok` says exactly when the step succeeds and which invite it yields. The
steps that name a user or an application are one step of two kinds (`aimAt`).
-/

namespace BotPayload

inductive TargetRef.Names : TargetRef → Quantity → Prop
  | text : s ≠ "" → Snowflake.ofText? s = some n → Names (.value (.str s)) (.int n)
  | int : 0 ≤ n → Names (.value (.int n)) (.int n)
  | flag : Names (.value (.bool b)) (.flag b)
  | object : Quantity.ofValue? v = some q → q.isNegative = false → Names (.object (some v)) q

def Age.seconds : Age → Value
  | .none => .null
  | .value v => v
  | .duration d => .int d.seconds

def InviteTarget.idField : InviteTarget → String
  | .stream => "User ID"
  | .application => "Application ID"

namespace Invite

/-- What a value sets a limit to: null to nothing, a number up to `most` to itself. -/
inductive Limits (most : Nat) : Value → Option Quantity → Prop
  | reset : Limits most .null none
  | within : Quantity.ofValue? v = some q → q.isNegative = false → q.exceeds most = false →
      Limits most v (some q)

inductive Chooses (voice : Bool) : TargetChoice → Option InviteTarget → Prop
  | none : Chooses voice .none none
  | target : voice = true → Chooses voice (.target t) (some t)

def aimed (i : Invite) (t : InviteTarget) (id : Quantity) : Invite :=
  match t with
  | .stream => { i with target := some t, targetUser := some id, targetApplication := none }
  | .application => { i with target := some t, targetApplication := some id, targetUser := none }

def cleared (i : Invite) (t : InviteTarget) : Invite :=
  match t with
  | .stream => { i with target := none, targetUser := none }
  | .application => { i with target := none, targetApplication := none }

def aimAt (i : Invite) (t : InviteTarget) (ref : TargetRef) : Except Error Invite :=
  match t with
  | .stream => i.aimAtUser ref
  | .application => i.aimAtApplication ref

section
variable {i i' : Invite} {v : Value} {q : Quantity} {field : String} {most : Nat}
  {tooMuch : String → Reason}

theorem create_ok {channelId : Value} :
    create channelId kind = .ok i ↔ channelId ≠ .null ∧ i = { channelId, channelType := kind } := by
  simp only [create, bind_ok, Value.requirePresent_ok, pure_ok]
  constructor
  · rintro ⟨_, present, rfl⟩
    exact ⟨present, rfl⟩
  · rintro ⟨present, rfl⟩
    exact ⟨(), present, rfl⟩

theorem setReason_ok {reason : Option Text} :
    i.setReason reason = .ok i' ↔
      (∀ t, reason = some t → t.length ≤ maxReasonLength) ∧ i' = { i with reason } := by
  cases reason with
  | none =>
    have written : i.setReason none = .ok { i with reason := none } := rfl
    rw [written]
    simp [eq_comm]
  | some t =>
    simp only [setReason, bind_ok, require_ok, decide_eq_true_eq, pure_ok, Option.some.injEq,
      forall_eq']
    constructor
    · rintro ⟨_, short, rfl⟩
      exact ⟨short, rfl⟩
    · rintro ⟨short, rfl⟩
      exact ⟨(), short, rfl⟩

-- ---------------------------------------------------------------------------
-- Limits
-- ---------------------------------------------------------------------------

theorem maxAgeLimit_short : Numeral.isShort maxAgeLimit = true :=
  rfl

theorem maxUsesLimit_short : Numeral.isShort maxUsesLimit = true :=
  rfl

theorem write_of_bounded (short : Numeral.isShort most = true) (sign : q.isNegative = false)
    (few : q.exceeds most = false) : q.write = .ok q.text := by
  refine Value.write_ok.mpr ⟨?_, rfl⟩
  cases q with
  | int n =>
    simp only [Quantity.isNegative_int, Quantity.exceeds_int, decide_eq_false_iff_not] at sign few
    exact Numeral.isShort_of_le (by omega) short
  | float x => rfl
  | flag b => rfl

theorem bounded_ok (short : Numeral.isShort most = true) :
    bounded v field most tooMuch = .ok q ↔
      Quantity.ofValue? v = some q ∧ q.isNegative = false ∧ q.exceeds most = false := by
  unfold bounded
  cases Quantity.ofValue? v with
  | none => simp
  | some q' =>
    simp only [bind_ok, require_ok, pure_ok, Bool.not_eq_true', Option.some.injEq]
    constructor
    · rintro ⟨_, sign, _, -, _, few, rfl⟩
      exact ⟨rfl, sign, few⟩
    · rintro ⟨rfl, sign, few⟩
      exact ⟨(), sign, _, write_of_bounded short sign few, (), few, rfl⟩

theorem limits_iff (short : Numeral.isShort most = true) (set : Option Quantity → Invite) :
    (match v with
      | .null => pure (set none)
      | v => do return set (some (← bounded v field most tooMuch)) : Except Error Invite) = .ok i' ↔
      ∃ q, Limits most v q ∧ i' = set q := by
  split
  · rw [pure_ok]
    constructor
    · rintro rfl
      exact ⟨none, .reset, rfl⟩
    · rintro ⟨_, ⟨⟩ | ⟨number, -, -⟩, rfl⟩
      · rfl
      · nomatch number
  · rename_i given
    simp only [bind_ok, bounded_ok short, pure_ok]
    constructor
    · rintro ⟨q, ⟨number, sign, few⟩, rfl⟩
      exact ⟨some q, .within number sign few, rfl⟩
    · rintro ⟨_, ⟨⟩ | ⟨number, sign, few⟩, rfl⟩
      · exact absurd rfl given
      · exact ⟨_, ⟨number, sign, few⟩, rfl⟩

theorem Limits.eq {set : Option Quantity} (h : Limits most v set) : set = Quantity.ofValue? v := by
  cases h with
  | reset => rfl
  | within number _ _ => exact number.symm

theorem limitAge_ok {age : Age} :
    i.limitAge age = .ok i' ↔ ∃ q, Limits maxAgeLimit age.seconds q ∧ i' = { i with maxAge := q } :=
  limits_iff maxAgeLimit_short fun maxAge => { i with maxAge }

theorem limitUses_ok :
    i.limitUses v = .ok i' ↔ ∃ q, Limits maxUsesLimit v q ∧ i' = { i with maxUses := q } :=
  limits_iff maxUsesLimit_short fun maxUses => { i with maxUses }

-- ---------------------------------------------------------------------------
-- Targets
-- ---------------------------------------------------------------------------

theorem aim_ok {choice : TargetChoice} :
    i.aim choice = .ok i' ↔ ∃ t, Chooses i.isVoice choice t ∧ i' = { i with target := t } := by
  cases choice with
  | none =>
    have chosen : i.aim .none = .ok { i with target := none } := rfl
    rw [chosen, Except.ok.injEq]
    constructor
    · rintro rfl
      exact ⟨none, .none, rfl⟩
    · rintro ⟨_, ⟨⟩, rfl⟩
      rfl
  | unknown =>
    simp only [aim, throw_ok, false_iff]
    rintro ⟨_, ⟨⟩, -⟩
  | target t =>
    simp only [aim, bind_ok, require_ok, pure_ok]
    constructor
    · rintro ⟨_, voice, rfl⟩
      exact ⟨some t, .target voice, rfl⟩
    · rintro ⟨_, ⟨⟩ | voice, rfl⟩
      exact ⟨(), voice, rfl⟩

theorem targetId_object_ok {id : Option Value} :
    targetId (.object id) field = .ok q ↔
      ∃ v, id = some v ∧ Quantity.ofValue? v = some q ∧ q.isNegative = false := by
  simp only [targetId, bind_ok, Value.requirePresent_ok, Value.requireNonNegative_ok]
  constructor
  · rintro ⟨_, present, _, ⟨q', number, sign⟩, h⟩
    rw [number, pure_ok] at h
    subst h
    cases id with
    | none => exact absurd rfl present
    | some v => exact ⟨v, rfl, number, sign⟩
  · rintro ⟨v, rfl, number, sign⟩
    have present : v ≠ .null := by
      rintro rfl
      nomatch number
    refine ⟨(), present, (), ⟨q, number, sign⟩, ?_⟩
    rw [Option.getD_some, number, pure_ok]

theorem targetId_ok {ref : TargetRef} : targetId ref field = .ok q ↔ ref.Names q := by
  cases ref with
  | none =>
    constructor
    · exact nofun
    · exact nofun
  | value v =>
    cases v with
    | str s =>
      simp only [targetId, bind_ok, Snowflake.read_ok, pure_ok]
      constructor
      · rintro ⟨n, ⟨ne, read⟩, rfl⟩
        exact .text ne read
      · intro named
        cases named with
        | text ne read => exact ⟨_, ⟨ne, read⟩, rfl⟩
    | int n =>
      -- A whole number is read like the id of an object, and so is a truth value.
      change targetId (.object (some (.int n))) field = .ok q ↔ _
      simp only [targetId_object_ok, Option.some.injEq, exists_eq_left', Quantity.ofValue?]
      constructor
      · rintro ⟨rfl, sign⟩
        exact .int (by simpa using sign)
      · intro named
        cases named with
        | int sign => simpa using sign
    | bool b =>
      change targetId (.object (some (.bool b))) field = .ok q ↔ _
      simp only [targetId_object_ok, Option.some.injEq, exists_eq_left', Quantity.ofValue?]
      constructor
      · rintro ⟨rfl, -⟩
        exact .flag
      · intro named
        cases named with
        | flag => exact ⟨rfl, Quantity.isNegative_flag b⟩
    | _ => exact ⟨nofun, nofun⟩
  | object id =>
    rw [targetId_object_ok]
    constructor
    · rintro ⟨v, rfl, number, sign⟩
      exact .object number sign
    · intro named
      cases named with
      | object number sign => exact ⟨_, rfl, number, sign⟩

theorem aimAt_none (t : InviteTarget) : i.aimAt t .none = .ok (i.cleared t) := by
  cases t <;> rfl

theorem aimAt_eq (t : InviteTarget) {ref : TargetRef} (given : ref ≠ .none) :
    i.aimAt t ref = (do
      let id ← targetId ref t.idField
      require i.isVoice "Target type" (.noTargetIn i.channelType.name)
      return i.aimed t id) := by
  cases ref with
  | none => exact absurd rfl given
  | value v =>
    cases t <;>
      simp only [aimAt, aimAtUser, aimAtApplication, aim, bind_assoc, pure_bind] <;> rfl
  | object id =>
    cases t <;>
      simp only [aimAt, aimAtUser, aimAtApplication, aim, bind_assoc, pure_bind] <;> rfl

theorem aimAt_ok (t : InviteTarget) {ref : TargetRef} (given : ref ≠ .none) :
    i.aimAt t ref = .ok i' ↔ i.isVoice = true ∧ ∃ id, ref.Names id ∧ i' = i.aimed t id := by
  simp only [aimAt_eq t given, bind_ok, targetId_ok, require_ok, pure_ok]
  constructor
  · rintro ⟨id, named, _, voice, rfl⟩
    exact ⟨voice, id, named, rfl⟩
  · rintro ⟨voice, id, named, rfl⟩
    exact ⟨id, named, (), voice, rfl⟩

end

end Invite

end BotPayload
