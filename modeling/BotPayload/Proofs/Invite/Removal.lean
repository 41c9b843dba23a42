import BotPayload.Proofs.Invite.Consistent

/-!
# What is left of a removed target

A target is removed by a step that names nothing: no type, no user or no application. Each such
step forgets the type; the two that ask for a user or an application forget the id of that kind as
well. An id of the other kind stays behind, and setting its type brings it back into the requests:
`removed_target_returns` says exactly when.
-/

namespace BotPayload

def InviteTarget.idKey : InviteTarget → String
  | .stream => "target_user_id"
  | .application => "target_application_id"

namespace Invite

def idOf (i : Invite) : InviteTarget → Option Quantity
  | .stream => i.targetUser
  | .application => i.targetApplication

namespace Step

def aimAt : InviteTarget → TargetRef → Step
  | .stream, ref => .aimAtUser ref
  | .application, ref => .aimAtApplication ref

def Removes : Step → Prop
  | .aim choice => choice = .none
  | .aimAtApplication ref => ref = .none
  | .aimAtUser ref => ref = .none
  | _ => False

def Names : Step → Prop
  | .aimAtApplication ref => ref ≠ .none
  | .aimAtUser ref => ref ≠ .none
  | _ => False

end Step

def succeeded (i : Invite) : List Step → List Step
  | [] => []
  | s :: ss =>
    match i.step s with
    | .ok i' => s :: i'.succeeded ss
    | .error _ => i.succeeded ss

def NamesNothing (i : Invite) (ss : List Step) : Prop := ∀ s ∈ i.succeeded ss, ¬s.Names

/-- What a step that names nothing does to the target of an invite. -/
inductive Touches (i : Invite) : Step → Invite → Prop
  | removed (t : InviteTarget) : Touches i (.aimAt t .none) (i.cleared t)
  | aimed : Chooses i.isVoice choice o → Touches i (.aim choice) { i with target := o }
  | kept : (∀ t ref, s ≠ .aimAt t ref) → (∀ choice, s ≠ .aim choice) → i'.target = i.target →
      (∀ t, i'.idOf t = i.idOf t) → Touches i s i'

section
variable {i i' : Invite} {s : Step} {ss : List Step} {t : InviteTarget} {q : Quantity}

-- ---------------------------------------------------------------------------
-- One step
-- ---------------------------------------------------------------------------

theorem aimAt_ne (h : ∀ ref, s ≠ .aimAtUser ref) (h' : ∀ ref, s ≠ .aimAtApplication ref)
    (t : InviteTarget) (ref : TargetRef) : s ≠ .aimAt t ref := by
  cases t
  · exact h ref
  · exact h' ref

theorem aimAt_none_inj (h : Step.aimAt t .none = .aimAt t' .none) : t = t' := by
  cases t <;> cases t' <;> first | rfl | nomatch h

theorem idOf_cleared (i : Invite) (t t' : InviteTarget) :
    (i.cleared t').idOf t = if t = t' then none else i.idOf t := by
  cases t <;> cases t' <;> rfl

theorem target_cleared (i : Invite) (t : InviteTarget) : (i.cleared t).target = none := by
  cases t <;> rfl

theorem step_touches (h : i.step s = .ok i') (unnamed : ¬s.Names) : Touches i s i' := by
  cases s with
  | limitAge age =>
    obtain ⟨q, -, rfl⟩ := limitAge_ok.mp h
    exact .kept (aimAt_ne nofun nofun) nofun rfl fun t => by cases t <;> rfl
  | limitUses uses =>
    obtain ⟨q, -, rfl⟩ := limitUses_ok.mp h
    exact .kept (aimAt_ne nofun nofun) nofun rfl fun t => by cases t <;> rfl
  | setTemporary temporary =>
    obtain rfl := Except.ok.inj h
    exact .kept (aimAt_ne nofun nofun) nofun rfl fun t => by cases t <;> rfl
  | setUnique unique =>
    obtain rfl := Except.ok.inj h
    exact .kept (aimAt_ne nofun nofun) nofun rfl fun t => by cases t <;> rfl
  | aim choice =>
    obtain ⟨o, chosen, rfl⟩ := aim_ok.mp h
    exact .aimed chosen
  | aimAtApplication ref =>
    obtain rfl : ref = .none := not_not.mp unnamed
    exact Except.ok.inj h ▸ .removed .application
  | aimAtUser ref =>
    obtain rfl : ref = .none := not_not.mp unnamed
    exact Except.ok.inj h ▸ .removed .stream
  | setReason reason =>
    obtain ⟨-, rfl⟩ := setReason_ok.mp h
    exact .kept (aimAt_ne nofun nofun) nofun rfl fun t => by cases t <;> rfl

theorem Touches.idOf_eq (h : Touches i s i') (t : InviteTarget) :
    s = .aimAt t .none ∧ i'.idOf t = none ∨ s ≠ .aimAt t .none ∧ i'.idOf t = i.idOf t := by
  cases h with
  | removed t' =>
    rw [idOf_cleared]
    by_cases same : t = t'
    · exact .inl ⟨same ▸ rfl, if_pos same⟩
    · exact .inr ⟨fun eq => same (aimAt_none_inj eq).symm, if_neg same⟩
  | aimed _ =>
    refine .inr ⟨aimAt_ne ?_ ?_ t .none, by cases t <;> rfl⟩
    · exact nofun
    · exact nofun
  | kept other _ _ ids => exact .inr ⟨other t _, ids t⟩

theorem Touches.of_idOf (h : Touches i s i') (held : i'.idOf t = some q) :
    i.idOf t = some q ∧ s ≠ .aimAt t .none := by
  obtain ⟨-, none⟩ | ⟨other, same⟩ := h.idOf_eq t
  · nomatch none.symm.trans held
  · exact ⟨same ▸ held, other⟩

theorem Touches.of_target (h : Touches i s i') (set : i'.target = some t) :
    i.target = some t ∨ s = .aim (.target t) := by
  cases h with
  | removed t' => nomatch (target_cleared i t').symm.trans set
  | aimed chosen =>
    cases chosen with
    | none => nomatch set
    | target _ => exact .inr (Option.some.inj set ▸ rfl)
  | kept _ _ same _ => exact .inl (same ▸ set)

theorem step_removes (h : s.Removes) (i : Invite) :
    ∃ i', i.step s = .ok i' ∧ i'.target = none ∧ Touches i s i' := by
  cases s with
  | aim choice =>
    obtain rfl := h
    exact ⟨_, rfl, rfl, .aimed .none⟩
  | aimAtApplication ref =>
    obtain rfl := h
    exact ⟨_, rfl, rfl, .removed .application⟩
  | aimAtUser ref =>
    obtain rfl := h
    exact ⟨_, rfl, rfl, .removed .stream⟩
  | _ => exact h.elim

-- ---------------------------------------------------------------------------
-- Runs
-- ---------------------------------------------------------------------------

theorem run_of_ok (h : i.step s = .ok i') (ss : List Step) :
    i.run (s :: ss) = i'.run ss ∧ i.succeeded (s :: ss) = s :: i'.succeeded ss := by
  simp [run, succeeded, stepOrKeep, h]

theorem run_of_error (h : i.step s = .error err) (ss : List Step) :
    i.run (s :: ss) = i.run ss ∧ i.succeeded (s :: ss) = i.succeeded ss := by
  simp [run, succeeded, stepOrKeep, h]

/-- As long as nothing is named, an id that is held was held before, and a type that is set was set
before or by one of the steps. -/
theorem run_touches (unnamed : i.NamesNothing ss) (t : InviteTarget) :
    (∀ q, (i.run ss).idOf t = some q → i.idOf t = some q ∧ .aimAt t .none ∉ i.succeeded ss) ∧
      ((i.run ss).target = some t → i.target = some t ∨ .aim (.target t) ∈ i.succeeded ss) := by
  induction ss generalizing i with
  | nil => exact ⟨fun q held => ⟨held, List.not_mem_nil⟩, .inl⟩
  | cons s ss ih =>
    cases outcome : i.step s with
    | error err =>
      obtain ⟨kept, dropped⟩ := run_of_error outcome ss
      rw [NamesNothing, dropped] at unnamed
      rw [kept, dropped]
      exact ih unnamed
    | ok i' =>
      obtain ⟨moved, listed⟩ := run_of_ok outcome ss
      rw [NamesNothing, listed, List.forall_mem_cons] at unnamed
      rw [moved, listed]
      have touches := step_touches outcome unnamed.1
      obtain ⟨ids, target⟩ := ih unnamed.2
      constructor
      · intro q held
        obtain ⟨held, later⟩ := ids q held
        obtain ⟨held, here⟩ := touches.of_idOf held
        exact ⟨held, by simp [here.symm, later]⟩
      · intro set
        obtain set | later := target set
        · exact (touches.of_target set).imp_right fun here => by simp [here]
        · exact .inr (List.mem_cons_of_mem s later)

-- ---------------------------------------------------------------------------
-- Requests
-- ---------------------------------------------------------------------------

theorem lookup_idKey :
    i.members.lookup t.idKey = some v ↔
      i.target = some t ∧ ∃ q, i.idOf t = some q ∧ v = .str q.text := by
  have lookup : i.members.lookup t.idKey = (i.told t (i.idOf t)).map fun q => .str q.text := by
    cases t
    · exact lookup_target_user_id i
    · exact lookup_target_application_id i
  rw [lookup, told]
  by_cases set : i.target = some t
  · simp [set, eq_comm]
  · simp [set]

/-- An id that is in a request after the target was removed was left behind, and its type was set
again. -/
theorem Touches.of_lookup (h : Touches i s i') (cleared : i'.target = none)
    (unnamed : i'.NamesNothing ss) (found : (i'.run ss).members.lookup t.idKey = some v) :
    (∃ q, i.idOf t = some q ∧ (i'.run ss).told t ((i'.run ss).idOf t) = some q ∧
        v = .str q.text) ∧ s ≠ .aimAt t .none ∧
      .aimAt t .none ∉ i'.succeeded ss ∧ .aim (.target t) ∈ i'.succeeded ss := by
  obtain ⟨set, q, last, rfl⟩ := lookup_idKey.mp found
  obtain ⟨ids, target⟩ := run_touches unnamed t
  obtain ⟨held, kept⟩ := ids q last
  obtain ⟨held, other⟩ := h.of_idOf held
  exact ⟨⟨q, held, by rw [told, if_pos set, last], rfl⟩, other, kept, (target set).resolve_left (cleared ▸ nofun)⟩

theorem Consistent.voice_of_idOf (c : Consistent channel kind i) (held : i.idOf t = some q) :
    i.isVoice = true := by
  rw [Invite.isVoice, ChannelType.isVoice_iff, c.channelType]
  cases t with
  | stream => exact c.voice (.inr (.inl fun absent => nomatch held.symm.trans absent))
  | application => exact c.voice (.inr (.inr fun absent => nomatch held.symm.trans absent))

theorem idsWritable_iff :
    i.idsWritable = true ↔
      ∀ t q, i.told t (i.idOf t) = some q → q.toValue.isWritable = true := by
  rw [idsWritable, Bool.and_eq_true_iff, Option.all_eq_true, Option.all_eq_true]
  constructor
  · rintro ⟨user, application⟩ (_ | _)
    · exact user
    · exact application
  · exact fun all => ⟨all .stream, all .application⟩

theorem idOf_of_told (h : i.told t (i.idOf t) = some q) : i.target = some t ∧ i.idOf t = some q := by
  unfold told at h
  split at h
  · exact ⟨‹_›, h⟩
  · nomatch h

theorem Consistent.lookup_aimed (c : Consistent channel kind i) (held : i.idOf t = some q)
    (short : q.toValue.isWritable = true) :
    i.NamesNothing [.aim (.target t)] ∧ (i.run [.aim (.target t)]).idsWritable = true ∧
      (i.run [.aim (.target t)]).members.lookup t.idKey = some (.str q.text) := by
  have set : i.step (.aim (.target t)) = .ok { i with target := some t } :=
    aim_ok.mpr ⟨_, .target (c.voice_of_idOf held), rfl⟩
  obtain ⟨moved, listed⟩ := run_of_ok set []
  have kept : idOf { i with target := some t } t = some q := by cases t <;> exact held
  rw [NamesNothing, moved, listed]
  refine ⟨List.forall_mem_singleton.mpr id, idsWritable_iff.mpr ?_, lookup_idKey.mpr ⟨rfl, q, kept, rfl⟩⟩
  intro t' q' told
  obtain ⟨⟨⟩, held'⟩ := idOf_of_told told
  obtain rfl := Option.some.inj (kept.symm.trans held')
  exact short

end

/-- After a removal, as long as nothing is named, an id can come back into the requests: one that
was held before, is not of the removed kind, and whose type is set again. So a removed target stays
away exactly if no such id was held, or none that can be written, or if no request can be built at
all. -/
theorem removed_target_returns {channel : Value} {kind : ChannelType} {i : Invite} {s : Step}
    (made : create channel kind = .ok i) (before : List Step) (removes : s.Removes) :
    ∃ i', (i.run before).step s = .ok i' ∧
      (∀ after, i'.NamesNothing after → ∀ r, (i'.run after).build.result = .ok r →
        ∃ ms, r.body = .object ms ∧ ∀ t v, ms.lookup t.idKey = some v →
          (∃ q, (i.run before).idOf t = some q ∧ v = .str q.text) ∧ s ≠ .aimAt t .none ∧
            .aimAt t .none ∉ i'.succeeded after ∧ .aim (.target t) ∈ i'.succeeded after) ∧
      ((∀ after, i'.NamesNothing after → ∀ r, (i'.run after).build.result = .ok r →
          ∃ ms, r.body = .object ms ∧ ms.lookup "target_user_id" = none ∧
            ms.lookup "target_application_id" = none) ↔
        channel.isWritable = false ∨ channel.text = "" ∨
          ∀ t, s ≠ .aimAt t .none → ∀ q, (i.run before).idOf t = some q →
            q.toValue.isWritable = false) := by
  have c : Consistent channel kind (i.run before) := (create_consistent made).run before
  generalize i.run before = i at c ⊢
  obtain ⟨i', stepped, cleared, touches⟩ := step_removes removes i
  have c' := c.step stepped
  refine ⟨i', stepped, ?_, ?_, ?_⟩
  · intro after unnamed r made
    obtain ⟨-, -, rfl⟩ := build_ok.mp made
    refine ⟨_, rfl, fun t v found => ?_⟩
    obtain ⟨⟨q, held, -, text⟩, others⟩ := touches.of_lookup cleared unnamed found
    exact ⟨⟨q, held, text⟩, others⟩
  · intro away
    by_contra left
    obtain ⟨writable, nonempty, t, other, q, held, short⟩ : channel.isWritable = true ∧
        channel.text ≠ "" ∧ ∃ t, s ≠ .aimAt t .none ∧
          ∃ q, i.idOf t = some q ∧ q.toValue.isWritable = true := by
      simpa [not_or] using left
    have kept := ((touches.idOf_eq t).resolve_left fun same => other same.1).2
    obtain ⟨unnamed, ids, found⟩ := c'.lookup_aimed (kept.trans held) short
    have channelId := (c'.run [.aim (.target t)]).channelId
    obtain ⟨ms, body, user, application⟩ := away _ unnamed _ (build_ok.mpr
      ⟨Bool.and_eq_true_iff.mpr ⟨ids, channelId ▸ writable⟩, channelId ▸ nonempty, rfl⟩)
    obtain rfl := Value.object.inj body
    cases t
    · nomatch user.symm.trans found
    · nomatch application.symm.trans found
  · intro forgotten after unnamed r made
    obtain ⟨writable, nonempty, rfl⟩ := build_ok.mp made
    obtain ⟨ids, short⟩ := Bool.and_eq_true_iff.mp writable
    rw [(c'.run after).channelId] at nonempty short
    have absent (t : InviteTarget) : (i'.run after).members.lookup t.idKey = none := by
      by_contra found
      obtain ⟨v, found⟩ := Option.ne_none_iff_exists'.mp found
      obtain ⟨⟨q, held, told, -⟩, other, -⟩ := touches.of_lookup cleared unnamed found
      have away := (forgotten.resolve_left (short ▸ nofun)).resolve_left nonempty t other q held
      exact absurd (idsWritable_iff.mp ids t q told) (away ▸ Bool.false_ne_true)
    exact ⟨_, rfl, absent .stream, absent .application⟩

/-- A user is named, the application is removed, and the type of a stream is set: the request names
the user again. -/
theorem removed_target_returns_user :
    ∃ i i' r, create (.int 10) .voice = .ok i ∧
      (i.run [.aimAtUser (.value (.int 42))]).step (.aimAtApplication .none) = .ok i' ∧
      i'.NamesNothing [.aim (.target .stream)] ∧
      (i'.run [.aim (.target .stream)]).build.result = .ok r ∧
      r.body = .object [("target_type", .int 1), ("target_user_id", .str (intText 42))] ∧
      ¬∀ after, i'.NamesNothing after → ∀ r, (i'.run after).build.result = .ok r →
        ∃ ms, r.body = .object ms ∧ ms.lookup "target_user_id" = none ∧
          ms.lookup "target_application_id" = none := by
  have made : create (.int 10) .voice = .ok { channelId := .int 10, channelType := .voice } := rfl
  obtain ⟨i', stepped, -, away⟩ := removed_target_returns made [.aimAtUser (.value (.int 42))]
    (s := .aimAtApplication .none) rfl
  have unnamed : i'.NamesNothing [.aim (.target .stream)] := by
    obtain rfl := Except.ok.inj stepped
    exact List.forall_mem_singleton.mpr id
  have nonempty : (Value.int 10).text ≠ "" := intText_ne 10
  have channel : (Value.int 10).isWritable = true := rfl
  have user : (Value.int 42).isWritable = true := rfl
  refine ⟨_, i', _, made, stepped, unnamed, build_ok.mpr ⟨?_, ?_, rfl⟩, ?_, ?_⟩
  · obtain rfl := Except.ok.inj stepped
    rfl
  · obtain rfl := Except.ok.inj stepped
    exact nonempty
  · obtain rfl := Except.ok.inj stepped
    rfl
  · rw [away]
    rintro (long | empty | forgotten)
    · exact absurd channel (long ▸ Bool.false_ne_true)
    · exact nonempty empty
    · exact absurd user (forgotten .stream nofun (.int 42) rfl ▸ Bool.false_ne_true)

end Invite

end BotPayload
