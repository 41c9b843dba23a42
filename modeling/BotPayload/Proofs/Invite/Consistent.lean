import BotPayload.Proofs.Invite.Request
import BotPayload.Proofs.Invite.Steps
import BotPayload.Proofs.Value.Magnitude

/-!
# What holds of an invite after any steps

Three steps write overlapping parts of the target: one its type only, the other two the type and
one id, and they remove the other id. `Consistent` is what every step preserves; from it follows
what a request says about the target.
-/

namespace BotPayload

theorem ChannelType.isVoice_iff {c : ChannelType} :
    c.isVoice = true ↔ c = .voice ∨ c = .stageVoice := by
  cases c <;> simp [isVoice]

theorem TargetRef.Names.nonneg {ref : TargetRef} {q : Quantity} (h : ref.Names q) :
    0 ≤ q.value := by
  rw [← Quantity.isNegative_iff]
  cases h with
  | text _ _ => simp
  | int sign => simpa using sign
  | flag => exact Quantity.isNegative_flag _
  | object _ sign => exact sign

namespace Invite

theorem Limits.bounds {q : Quantity} (h : Limits most v (some q)) :
    0 ≤ q.value ∧ q.value ≤ most := by
  cases h with
  | within _ sign few => exact ⟨Quantity.isNegative_iff.mp sign, Quantity.exceeds_iff.mp few⟩

/-- An invite to a channel of a kind. That the target is a stream or an activity is in its type. -/
structure Consistent (channel : Value) (kind : ChannelType) (i : Invite) : Prop where
  channelId : i.channelId = channel
  channelType : i.channelType = kind
  maxAge : ∀ q, i.maxAge = some q → 0 ≤ q.value ∧ q.value ≤ 604800
  maxUses : ∀ q, i.maxUses = some q → 0 ≤ q.value ∧ q.value ≤ 100
  reason : ∀ s, i.reason = some s → s.length ≤ 512
  apart : i.targetUser = none ∨ i.targetApplication = none
  user : ∀ q, i.targetUser = some q → 0 ≤ q.value
  application : ∀ q, i.targetApplication = some q → 0 ≤ q.value
  voice : i.target ≠ none ∨ i.targetUser ≠ none ∨ i.targetApplication ≠ none →
    kind = .voice ∨ kind = .stageVoice

section
variable {channel : Value} {kind : ChannelType} {i i' : Invite} {q : Quantity}

theorem create_consistent (h : create channel kind = .ok i) : Consistent channel kind i := by
  obtain ⟨-, rfl⟩ := create_ok.mp h
  exact ⟨rfl, rfl, nofun, nofun, nofun, .inl rfl, nofun, nofun, by simp⟩

namespace Consistent

theorem isVoice (c : Consistent channel kind i) (h : i.isVoice = true) :
    kind = .voice ∨ kind = .stageVoice :=
  ChannelType.isVoice_iff.mp (c.channelType ▸ h)

theorem limitAge (c : Consistent channel kind i) (h : i.limitAge age = .ok i') :
    Consistent channel kind i' := by
  obtain ⟨q, limits, rfl⟩ := limitAge_ok.mp h
  refine { c with maxAge := ?_ }
  rintro _ rfl
  exact_mod_cast limits.bounds

theorem limitUses (c : Consistent channel kind i) (h : i.limitUses uses = .ok i') :
    Consistent channel kind i' := by
  obtain ⟨q, limits, rfl⟩ := limitUses_ok.mp h
  refine { c with maxUses := ?_ }
  rintro _ rfl
  exact_mod_cast limits.bounds

theorem setReason (c : Consistent channel kind i) (h : i.setReason text = .ok i') :
    Consistent channel kind i' := by
  obtain ⟨short, rfl⟩ := setReason_ok.mp h
  exact { c with reason := short }

theorem aim (c : Consistent channel kind i) (h : i.aim choice = .ok i') :
    Consistent channel kind i' := by
  obtain ⟨t, chosen, rfl⟩ := aim_ok.mp h
  cases chosen with
  -- An id may stay behind without its type, and it was set in a voice channel.
  | none => exact { c with voice := fun set => c.voice (.inr (by simpa using set)) }
  | target voice => exact { c with voice := fun _ => c.isVoice voice }

theorem aimed (c : Consistent channel kind i) (voice : i.isVoice = true) (t : InviteTarget)
    (nonneg : 0 ≤ q.value) : Consistent channel kind (i.aimed t q) := by
  cases t with
  | stream =>
    refine { c with
      apart := .inr rfl, user := ?_, application := nofun, voice := fun _ => c.isVoice voice }
    rintro _ ⟨⟩
    exact nonneg
  | application =>
    refine { c with
      apart := .inl rfl, user := nofun, application := ?_, voice := fun _ => c.isVoice voice }
    rintro _ ⟨⟩
    exact nonneg

theorem cleared (c : Consistent channel kind i) (t : InviteTarget) :
    Consistent channel kind (i.cleared t) := by
  cases t with
  | stream =>
    refine { c with apart := .inl rfl, user := nofun, voice := fun set => c.voice ?_ }
    exact .inr (.inr (by simpa [Invite.cleared] using set))
  | application =>
    refine { c with apart := .inr rfl, application := nofun, voice := fun set => c.voice ?_ }
    exact .inr (.inl (by simpa [Invite.cleared] using set))

theorem aimAt (c : Consistent channel kind i) (t : InviteTarget) {ref : TargetRef}
    (h : i.aimAt t ref = .ok i') : Consistent channel kind i' := by
  by_cases given : ref = .none
  · rw [given, aimAt_none, Except.ok.injEq] at h
    exact h ▸ c.cleared t
  · obtain ⟨voice, q, named, rfl⟩ := (aimAt_ok t given).mp h
    exact c.aimed voice t named.nonneg

theorem step (c : Consistent channel kind i) (h : i.step s = .ok i') :
    Consistent channel kind i' := by
  cases s with
  | limitAge age => exact c.limitAge h
  | limitUses uses => exact c.limitUses h
  | setTemporary temporary => exact Except.ok.inj h ▸ { c with }
  | setUnique unique => exact Except.ok.inj h ▸ { c with }
  | aim choice => exact c.aim h
  | aimAtApplication ref => exact c.aimAt .application h
  | aimAtUser ref => exact c.aimAt .stream h
  | setReason reason => exact c.setReason h

theorem stepOrKeep (c : Consistent channel kind i) (s : Step) :
    Consistent channel kind (i.stepOrKeep s) := by
  unfold Invite.stepOrKeep
  split
  · exact c.step ‹_›
  · exact c

theorem run (c : Consistent channel kind i) (ss : List Step) :
    Consistent channel kind (i.run ss) := by
  induction ss generalizing i with
  | nil => exact c
  | cons s ss ih => exact ih (c.stepOrKeep s)

end Consistent

end

end Invite

end BotPayload
