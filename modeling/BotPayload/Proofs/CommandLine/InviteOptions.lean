import BotPayload.Proofs.CommandLine.Failure
import BotPayload.Proofs.Invite.Request

/-!
# The invite that options ask for

The steps of the options succeed or fail one after the other. If all succeed, every option that was
given is one of the invite's, and the target is the one that a text names; a text that is empty
names none, as if it had not been given. The numbers that arguments can hold are short enough to be
written, so that such an invite makes a request.
-/

namespace BotPayload.CommandLine

def InviteOptions.untargeted (o : InviteOptions) : Invite where
  channelId := .int o.channel
  channelType := if o.voice then .voice else .text
  maxAge := o.maxAge.map .int
  maxUses := o.maxUses.map .int
  temporary := if o.temporary then some true else none
  unique := if o.unique then some true else none
  reason := o.reason

structure InviteOptions.Short (o : InviteOptions) : Prop where
  channel : Numeral.isShort o.channel = true
  maxAge : ∀ n, o.maxAge = some n → Numeral.isShort n = true
  maxUses : ∀ n, o.maxUses = some n → Numeral.isShort n = true

def aimAtText (i : Invite) (t : InviteTarget) (s : Option String) : Except Error Invite :=
  match nonEmpty s with
  | some s => i.aimAt t (.value (.str s))
  | none => .ok i

/-- What a text makes of an invite: nothing when it is missing or empty, or else an invite aimed
at what it names. -/
inductive Aimed (t : InviteTarget) (i : Invite) : Option String → Invite → Prop
  | missing : Aimed t i none i
  | empty : Aimed t i (some "") i
  | named : s ≠ "" → Snowflake.ofText? s = some n → i.isVoice = true →
      Aimed t i (some s) (i.aimed t (.int n))

def InviteOptions.invite (o : InviteOptions) : Except Error Invite := do
  let channel := if o.voice then ChannelType.voice else ChannelType.text
  let start ← Invite.create (.int o.channel) channel
  o.steps.foldlM Invite.step start

section
variable {o : InviteOptions} {i i' : Invite} {t : InviteTarget} {s : Option String}

-- ---------------------------------------------------------------------------
-- Targets
-- ---------------------------------------------------------------------------

theorem nonEmpty_some {s : String} (ne : s ≠ "") : nonEmpty (some s) = some s := by
  simp [nonEmpty, ne]

theorem aimAtText_ok : aimAtText i t s = .ok i' ↔ Aimed t i s i' := by
  cases s with
  | none =>
    rw [aimAtText, nonEmpty, Option.filter_none, Except.ok.injEq]
    constructor
    · rintro rfl
      exact .missing
    · rintro ⟨⟩
      rfl
  | some s =>
    by_cases empty : s = ""
    · subst empty
      change Except.ok i = .ok i' ↔ _
      rw [Except.ok.injEq]
      constructor
      · rintro rfl
        exact .empty
      · intro aimed
        cases aimed with
        | empty => rfl
        | named ne => exact absurd rfl ne
    · rw [aimAtText, nonEmpty_some empty]
      change i.aimAt t (.value (.str s)) = .ok i' ↔ _
      have given : TargetRef.value (.str s) ≠ .none := nofun
      rw [Invite.aimAt_ok t given]
      constructor
      · rintro ⟨voice, _, ⟨ne, read⟩, rfl⟩
        exact .named ne read voice
      · intro aimed
        cases aimed with
        | empty => exact absurd rfl empty
        | named ne read voice => exact ⟨voice, _, .text ne read, rfl⟩

theorem Aimed.kept (h : Aimed t i s i') : i' =
    { i with
      target := i'.target
      targetUser := i'.targetUser
      targetApplication := i'.targetApplication } := by
  cases h with
  | named => cases t <;> rfl
  | _ => rfl

theorem Aimed.eq (h : Aimed t i s i') (unnamed : nonEmpty s = none) : i' = i := by
  cases h with
  | named ne =>
    rw [nonEmpty_some ne] at unnamed
    nomatch unnamed
  | _ => rfl

theorem aimAtText_explained (i : Invite) (t : InviteTarget) (s : Option String) :
    FailsExplained (aimAtText i t s) := by
  unfold aimAtText
  split
  · exact Invite.aimAt_explained i t _
  · exact .ok i

-- ---------------------------------------------------------------------------
-- Steps
-- ---------------------------------------------------------------------------

def InviteOptions.plainSteps (o : InviteOptions) : List Invite.Step :=
  let age := match o.maxAge with
    | some n => Age.value (.int n)
    | none => Age.none
  let flag := fun (b : Bool) => if b then some true else none
  [.limitAge age, .limitUses ((o.maxUses.map Value.int).getD .null),
    .setTemporary (flag o.temporary), .setUnique (flag o.unique), .setReason o.reason]

def targetStep : InviteTarget → TargetRef → Invite.Step
  | .stream => .aimAtUser
  | .application => .aimAtApplication

def targetSteps (t : InviteTarget) (s : Option String) : List Invite.Step :=
  ((nonEmpty s).map fun s => targetStep t (.value (.str s))).toList

theorem steps_eq (o : InviteOptions) : o.steps =
    o.plainSteps ++ targetSteps .stream o.targetUser ++
      targetSteps .application o.targetApplication := rfl

theorem foldlM_targetSteps (i : Invite) (t : InviteTarget) (s : Option String) :
    (targetSteps t s).foldlM Invite.step i = aimAtText i t s := by
  unfold targetSteps aimAtText
  cases nonEmpty s with
  | none => rfl
  | some s =>
    cases t with
    | stream => exact bind_pure _
    | application => exact bind_pure _

theorem invite_eq (o : InviteOptions) : o.invite = (do
    let channel := if o.voice then ChannelType.voice else ChannelType.text
    let i ← o.plainSteps.foldlM Invite.step { channelId := .int o.channel, channelType := channel }
    let i ← aimAtText i .stream o.targetUser
    aimAtText i .application o.targetApplication) := by
  simp only [InviteOptions.invite, steps_eq, List.foldlM_append, foldlM_targetSteps, bind_assoc]
  rfl

theorem ofValue?_getD_null (n : Option Int) :
    Quantity.ofValue? ((n.map Value.int).getD .null) = n.map .int := by
  cases n <;> rfl

theorem plainSteps_ok
    (h : o.plainSteps.foldlM Invite.step
      { channelId := .int o.channel, channelType := if o.voice then .voice else .text } = .ok i) :
    i = o.untargeted := by
  simp only [InviteOptions.plainSteps, List.foldlM_cons, List.foldlM_nil, bind_ok, pure_ok,
    Invite.step, Except.ok.injEq] at h
  obtain ⟨_, age, _, uses, _, rfl, _, rfl, _, reason, rfl⟩ := h
  obtain ⟨_, ageLimits, rfl⟩ := Invite.limitAge_ok.mp age
  obtain ⟨_, usesLimits, rfl⟩ := Invite.limitUses_ok.mp uses
  obtain ⟨-, rfl⟩ := Invite.setReason_ok.mp reason
  rw [ageLimits.eq, usesLimits.eq, ofValue?_getD_null]
  cases age : o.maxAge <;> simp [InviteOptions.untargeted, Invite.setTemporary, Invite.setUnique,
    Age.seconds, Quantity.ofValue?, age]

theorem invite_ok (h : o.invite = .ok i') :
    ∃ i, Aimed .stream o.untargeted o.targetUser i ∧
      Aimed .application i o.targetApplication i' := by
  rw [invite_eq] at h
  obtain ⟨_, plain, h⟩ := bind_ok.mp h
  obtain ⟨i, user, application⟩ := bind_ok.mp h
  rw [plainSteps_ok plain] at user
  exact ⟨i, aimAtText_ok.mp user, aimAtText_ok.mp application⟩

theorem invite_kept (h : o.invite = .ok i) : i =
    { o.untargeted with
      target := i.target
      targetUser := i.targetUser
      targetApplication := i.targetApplication } := by
  obtain ⟨j, user, application⟩ := invite_ok h
  rw [application.kept, user.kept]

theorem plainSteps_explained (short : o.Short) (i : Invite) :
    FailsExplained (o.plainSteps.foldlM Invite.step i) := by
  refine FailsExplained.foldlM ?_ i
  simp only [InviteOptions.plainSteps, List.forall_mem_cons]
  refine ⟨fun i => ?_, fun i => ?_, fun i => .ok _, fun i => .ok _, fun i => ?_, nofun⟩
  · cases given : o.maxAge with
    | none => exact .ok _
    | some n => exact Invite.limitAge_explained (short.maxAge n given) i
  · cases given : o.maxUses with
    | none => exact .ok _
    | some n => exact Invite.limitUses_explained (short.maxUses n given) i
  · exact i.setReason_explained o.reason

theorem invite_explained (short : o.Short) : FailsExplained o.invite := by
  rw [invite_eq]
  refine (plainSteps_explained short _).bind fun i => ?_
  exact (aimAtText_explained i _ _).bind fun i => aimAtText_explained i _ _

-- ---------------------------------------------------------------------------
-- Requests
-- ---------------------------------------------------------------------------

structure ShortTargets (i : Invite) : Prop where
  user : ∀ q, i.targetUser = some q → q.toValue.isWritable = true
  application : ∀ q, i.targetApplication = some q → q.toValue.isWritable = true

theorem ShortTargets.idsWritable (h : ShortTargets i) : i.idsWritable = true := by
  have all {t : InviteTarget} {id : Option Quantity}
      (short : ∀ q, id = some q → q.toValue.isWritable = true) :
      (i.told t id).all (·.toValue.isWritable) = true := by
    unfold Invite.told
    split
    · cases id with
      | none => rfl
      | some q => exact short q rfl
    · rfl
  rw [Invite.idsWritable, all h.user, all h.application, Bool.and_self]

theorem Aimed.shortTargets (h : Aimed t i s i') (short : ShortTargets i) : ShortTargets i' := by
  cases h with
  | @named s n _ read _ =>
    have written : (Quantity.int n).toValue.isWritable = true := Snowflake.isShort_of_ofText? read
    cases t with
    | stream => exact ⟨fun _ same => Option.some.inj same ▸ written, nofun⟩
    | application => exact ⟨nofun, fun _ same => Option.some.inj same ▸ written⟩
  | _ => exact short

theorem invite_channelId (h : o.invite = .ok i) : i.channelId = .int o.channel :=
  congrArg Invite.channelId (invite_kept h)

theorem invite_isWritable (short : o.Short) (h : o.invite = .ok i) : i.isWritable = true := by
  obtain ⟨j, user, application⟩ := invite_ok h
  have targets := application.shortTargets (user.shortTargets ⟨nofun, nofun⟩)
  have channel : i.channelId.isWritable = true := invite_channelId h ▸ short.channel
  rw [Invite.isWritable, targets.idsWritable, channel, Bool.and_self]

def requestFor (i : Invite) : Request := ⟨"POST", i.path, .object i.members, [], i.reason⟩

theorem build_numbered {n : Int} (channel : i.channelId = .int n) (writable : i.isWritable = true) :
    i.build = ⟨[.inviteBuilt (.int n) (.object i.members)], .ok (requestFor i)⟩ := by
  have given : i.channelId.text ≠ "" := by
    rw [channel]
    exact intText_ne n
  obtain ⟨ids, short⟩ := Bool.and_eq_true_iff.mp writable
  have body : i.body = .ok i.members := by rw [Invite.body_eq, if_pos ids]
  have path := Invite.channelInvites_path i
  rw [if_neg (ne_false_of_eq_true short), if_neg given, channel] at path
  simp only [Invite.build, body, path, channel]
  rfl

theorem request_eq (short : o.Short) : o.request =
    match o.invite with
    | .error e => ⟨[], .error e⟩
    | .ok i => ⟨[.inviteBuilt (.int o.channel) (.object i.members)], .ok (requestFor i)⟩ := by
  have order : o.request = Logged.bind (.ofExcept o.invite) Invite.build := rfl
  rw [order]
  cases made : o.invite with
  | error e => rfl
  | ok i =>
    simp only [Logged.bind, Logged.ofExcept,
      build_numbered (invite_channelId made) (invite_isWritable short made)]
    rfl

theorem request_ok (short : o.Short) {r : Request} :
    o.request.result = .ok r ↔ ∃ i, o.invite = .ok i ∧ r = requestFor i := by
  rw [request_eq short]
  cases o.invite with
  | error e => simp
  | ok i => simp [eq_comm]

end

end BotPayload.CommandLine
