import BotPayload.Proofs.Invite.Removal
import BotPayload.Proofs.Sequence.Order

/-!
# The order of independent steps of an invite

Every step writes the fields of one group, the three steps about the target those of a common one.
A step looks at nothing but its argument and the kind of channel, which no step changes. So what
becomes of a group is what its own steps alone make of it (`run_only`), and an order of steps that
keeps each group in order changes nothing. In a request each option is the one set last.
-/

namespace BotPayload.Invite

inductive Group where
  | maxAge
  | maxUses
  | temporary
  | unique
  | target
  | reason
deriving DecidableEq, Repr

def only (g : Group) (i : Invite) : Invite :=
  match g with
  | .maxAge => { channelId := i.channelId, channelType := i.channelType, maxAge := i.maxAge }
  | .maxUses => { channelId := i.channelId, channelType := i.channelType, maxUses := i.maxUses }
  | .temporary =>
    { channelId := i.channelId, channelType := i.channelType, temporary := i.temporary }
  | .unique => { channelId := i.channelId, channelType := i.channelType, unique := i.unique }
  | .target =>
    { channelId := i.channelId, channelType := i.channelType, target := i.target
      targetApplication := i.targetApplication, targetUser := i.targetUser }
  | .reason => { channelId := i.channelId, channelType := i.channelType, reason := i.reason }

namespace Step

def group : Step → Group
  | .limitAge _ => .maxAge
  | .limitUses _ => .maxUses
  | .setTemporary _ => .temporary
  | .setUnique _ => .unique
  | .aim _ => .target
  | .aimAtApplication _ => .target
  | .aimAtUser _ => .target
  | .setReason _ => .reason

def SameGroup (s t : Step) : Prop := s.group = t.group

def maxAge? : Step → Option (Option Quantity)
  | .limitAge age => some (Quantity.ofValue? age.seconds)
  | _ => none

def maxUses? : Step → Option (Option Quantity)
  | .limitUses uses => some (Quantity.ofValue? uses)
  | _ => none

def temporary? : Step → Option (Option Bool)
  | .setTemporary temporary => some temporary
  | _ => none

def unique? : Step → Option (Option Bool)
  | .setUnique unique => some unique
  | _ => none

def reason? : Step → Option (Option Text)
  | .setReason reason => some reason
  | _ => none

end Step

/-- How a step ends: with an error, or with new values in the fields of its group. -/
def outcome (i : Invite) (s : Step) : Except Error Invite := only s.group <$> i.step s

/-- What the last successful step that sets an option has set it to, or else what the invite held
before. -/
def lastSet (i : Invite) (set : Step → Option α) (held : Invite → α) (ss : List Step) : α :=
  (((i.succeeded ss).filterMap set).getLast?).getD (held i)

/-- What a request says of the options that were set in a run: each one with its last value, and
none that has no value. -/
structure CarriesLast (i : Invite) (ss : List Step) (ms : Members) (reason : Option Text) :
    Prop where
  maxAge : ms.lookup "max_age" = (i.lastSet Step.maxAge? maxAge ss).map Quantity.toValue
  maxUses : ms.lookup "max_uses" = (i.lastSet Step.maxUses? maxUses ss).map Quantity.toValue
  temporary : ms.lookup "temporary" = (i.lastSet Step.temporary? temporary ss).map .bool
  unique : ms.lookup "unique" = (i.lastSet Step.unique? unique ss).map .bool
  reason : reason = i.lastSet Step.reason? Invite.reason ss

section
variable {i i' j : Invite} {s : Step} {ss : List Step} {g : Group}

-- ---------------------------------------------------------------------------
-- One step
-- ---------------------------------------------------------------------------

theorem ext_only (h : ∀ g, i.only g = j.only g) : i = j := by
  obtain ⟨_, _, _, _, _, _, _, _, _, _⟩ := i
  obtain ⟨_, _, _, _, _, _, _, _, _, _⟩ := j
  have age := h .maxAge
  have uses := h .maxUses
  have temporary := h .temporary
  have unique := h .unique
  have target := h .target
  have reason := h .reason
  simp only [only, mk.injEq] at age uses temporary unique target reason
  simp [age, uses, temporary, unique, target, reason]

theorem only_aimed (i : Invite) (t : InviteTarget) (id : Quantity) :
    (i.aimed t id).only .target = (i.only .target).aimed t id := by
  cases t <;> rfl

theorem aimAt_only (i : Invite) (t : InviteTarget) (ref : TargetRef) :
    only .target <$> i.aimAt t ref = (i.only .target).aimAt t ref := by
  by_cases given : ref = .none
  · subst given
    cases t <;> rfl
  · simp only [aimAt_eq t given, map_bind, map_pure, only_aimed]
    rfl

theorem map_limits {v : Value} (f : Invite → Invite) (set : Option Quantity → Invite) :
    f <$> (match v with
      | .null => pure (set none)
      | v => do return set (some (← bounded v field most tooMuch)) : Except Error Invite) =
      match v with
      | .null => pure (f (set none))
      | v => do return f (set (some (← bounded v field most tooMuch))) := by
  cases v <;> simp only [map_pure, map_bind]

theorem step_only (i : Invite) (s : Step) :
    only s.group <$> i.step s = (i.only s.group).step s := by
  cases s with
  | limitAge age => exact map_limits _ fun maxAge => { i with maxAge }
  | limitUses uses => exact map_limits _ fun maxUses => { i with maxUses }
  | setTemporary temporary => rfl
  | setUnique unique => rfl
  | aim choice =>
    cases choice with
    | target t => simp only [Step.group, step, aim, map_bind, map_pure]; rfl
    | _ => rfl
  | aimAtApplication ref => exact aimAt_only i .application ref
  | aimAtUser ref => exact aimAt_only i .stream ref
  | setReason reason =>
    cases reason with
    | none => rfl
    | some text => simp only [Step.group, step, setReason, map_bind, map_pure]; rfl

theorem only_of_aimAt {ref : TargetRef} (h : i.aimAt t ref = .ok i') (other : .target ≠ g) :
    i'.only g = i.only g := by
  by_cases given : ref = .none
  · rw [given, aimAt_none, Except.ok.injEq] at h
    subst h
    cases g with
    | target => exact absurd rfl other
    | _ => cases t <;> rfl
  · obtain ⟨-, id, -, rfl⟩ := (aimAt_ok t given).mp h
    cases g with
    | target => exact absurd rfl other
    | _ => cases t <;> rfl

theorem only_of_step (h : i.step s = .ok i') (other : s.group ≠ g) : i'.only g = i.only g := by
  cases s with
  | limitAge age =>
    obtain ⟨q, -, rfl⟩ := limitAge_ok.mp h
    cases g with
    | maxAge => exact absurd rfl other
    | _ => rfl
  | limitUses uses =>
    obtain ⟨q, -, rfl⟩ := limitUses_ok.mp h
    cases g with
    | maxUses => exact absurd rfl other
    | _ => rfl
  | setTemporary temporary =>
    obtain rfl := Except.ok.inj h
    cases g with
    | temporary => exact absurd rfl other
    | _ => rfl
  | setUnique unique =>
    obtain rfl := Except.ok.inj h
    cases g with
    | unique => exact absurd rfl other
    | _ => rfl
  | aim choice =>
    obtain ⟨t, -, rfl⟩ := aim_ok.mp h
    cases g with
    | target => exact absurd rfl other
    | _ => rfl
  | aimAtApplication ref => exact only_of_aimAt (t := .application) h other
  | aimAtUser ref => exact only_of_aimAt (t := .stream) h other
  | setReason reason =>
    obtain ⟨-, rfl⟩ := setReason_ok.mp h
    cases g with
    | reason => exact absurd rfl other
    | _ => rfl

-- ---------------------------------------------------------------------------
-- Runs
-- ---------------------------------------------------------------------------

theorem stepOrKeep_only (i : Invite) (s : Step) :
    (i.stepOrKeep s).only s.group = (i.only s.group).stepOrKeep s := by
  have same := step_only i s
  unfold stepOrKeep
  rw [← same]
  cases i.step s <;> rfl

theorem only_stepOrKeep (i : Invite) (other : s.group ≠ g) :
    (i.stepOrKeep s).only g = i.only g := by
  unfold stepOrKeep
  split
  · exact only_of_step ‹_› other
  · rfl

/-- What becomes of a group is what its own steps make of it. -/
theorem run_only (i : Invite) (g : Group) (ss : List Step) :
    (i.run ss).only g = (i.only g).run (ss.filter fun s => s.group = g) := by
  induction ss generalizing i with
  | nil => rfl
  | cons s ss ih =>
    change ((i.stepOrKeep s).run ss).only g = _
    rw [ih]
    by_cases own : s.group = g
    · rw [List.filter_cons_of_pos (by simpa using own), ← own, stepOrKeep_only]
      rfl
    · rw [List.filter_cons_of_neg (by simpa using own), only_stepOrKeep i own]

theorem outcome_eq (i : Invite) (s : Step) : i.outcome s = (i.only s.group).step s := step_only i s

/-- An option holds what the last successful step that sets it has set it to. -/
theorem run_lastSet {set : Step → Option α} {held : Invite → α}
    (sets : ∀ {i i' s}, step i s = .ok i' → held i' = (set s).getD (held i)) (i : Invite)
    (ss : List Step) : held (i.run ss) = i.lastSet set held ss := by
  induction ss generalizing i with
  | nil => rfl
  | cons s ss ih =>
    cases ends : i.step s with
    | error err =>
      obtain ⟨kept, dropped⟩ := run_of_error ends ss
      rw [kept, ih, lastSet, lastSet, dropped]
    | ok i' =>
      obtain ⟨moved, listed⟩ := run_of_ok ends ss
      rw [moved, ih, lastSet, lastSet, listed, getLast?_filterMap_cons, Option.getD_or, sets ends]

theorem held_of_step {held : Invite → α} (part : ∀ i, held (only g i) = held i)
    (h : i.step s = .ok i') (other : s.group ≠ g) : held i' = held i := by
  rw [← part, only_of_step h other, part]

theorem maxAge_of_step (h : i.step s = .ok i') : i'.maxAge = s.maxAge?.getD i.maxAge := by
  cases s with
  | limitAge age =>
    obtain ⟨q, limits, rfl⟩ := limitAge_ok.mp h
    exact limits.eq
  | _ => exact held_of_step (g := .maxAge) (fun _ => rfl) h nofun

theorem maxUses_of_step (h : i.step s = .ok i') : i'.maxUses = s.maxUses?.getD i.maxUses := by
  cases s with
  | limitUses uses =>
    obtain ⟨q, limits, rfl⟩ := limitUses_ok.mp h
    exact limits.eq
  | _ => exact held_of_step (g := .maxUses) (fun _ => rfl) h nofun

theorem temporary_of_step (h : i.step s = .ok i') :
    i'.temporary = s.temporary?.getD i.temporary := by
  cases s with
  | setTemporary b => exact Except.ok.inj h ▸ rfl
  | _ => exact held_of_step (g := .temporary) (fun _ => rfl) h nofun

theorem unique_of_step (h : i.step s = .ok i') : i'.unique = s.unique?.getD i.unique := by
  cases s with
  | setUnique b => exact Except.ok.inj h ▸ rfl
  | _ => exact held_of_step (g := .unique) (fun _ => rfl) h nofun

theorem reason_of_step (h : i.step s = .ok i') : i'.reason = s.reason?.getD i.reason := by
  cases s with
  | setReason text =>
    obtain ⟨-, rfl⟩ := setReason_ok.mp h
    rfl
  | _ => exact held_of_step (g := .reason) (fun _ => rfl) h nofun

-- ---------------------------------------------------------------------------
-- Requests
-- ---------------------------------------------------------------------------

theorem carriesLast (i : Invite) (ss : List Step) :
    i.CarriesLast ss (i.run ss).members (i.run ss).reason where
  maxAge := by rw [lookup_max_age, run_lastSet maxAge_of_step]
  maxUses := by rw [lookup_max_uses, run_lastSet maxUses_of_step]
  temporary := by rw [lookup_temporary, run_lastSet temporary_of_step]
  unique := by rw [lookup_unique, run_lastSet unique_of_step]
  reason := run_lastSet reason_of_step i ss

end

/-- In an order of steps that keeps each group in order, every step ends as before, and the invites
and the requests built of them are the same. A step that fails changes nothing. A request carries
what the last successful step of each group has set. -/
theorem run_independent (i : Invite) {ss ts : List Step} (r : Reordering Step.SameGroup ss ts) :
    (∀ k, (i.run (ts.take (r.place k))).outcome ts[r.place k] = (i.run (ss.take k)).outcome ss[k]) ∧
      i.run ts = i.run ss ∧ (i.run ts).build = (i.run ss).build ∧
      (∀ (j : Invite) (s : Step) (err : Error), j.step s = .error err → j.stepOrKeep s = j) ∧
      ∀ req, (i.run ss).build.result = .ok req →
        ∃ ms, req.body = .object ms ∧ i.CarriesLast ss ms req.reason := by
  have grouped (g : Group) (s t : Step) (hs : decide (s.group = g)) (ht : decide (t.group = g)) :
      s.SameGroup t := (of_decide_eq_true hs).trans (of_decide_eq_true ht).symm
  have final : i.run ts = i.run ss :=
    ext_only fun g => by rw [run_only, run_only, r.filter_eq (grouped g)]
  refine ⟨fun k => ?_, final, congrArg build final, ?_, ?_⟩
  · have own : decide (ss[k].group = ss[k].group) = true := decide_eq_true rfl
    rw [r.moved, outcome_eq, outcome_eq, run_only, run_only, r.filter_take_eq (grouped _) own]
  · intro j s err failed
    rw [stepOrKeep, failed]
  · intro req built
    obtain ⟨-, -, rfl⟩ := build_ok.mp built
    exact ⟨_, rfl, carriesLast i ss⟩

/-- A user is named before or after the uses are limited; the limit that comes last is too high in
both orders, and the one before it stays. -/
theorem run_independent_refused :
    ∃ (i : Invite) (ss ts : List Step) (req : Request),
      ss = [.limitUses (.int 5), .aimAtUser (.value (.int 42)), .limitUses (.int 101)] ∧
      ts = [.aimAtUser (.value (.int 42)), .limitUses (.int 5), .limitUses (.int 101)] ∧
      i.run ts = i.run ss ∧ (i.run ts).build = (i.run ss).build ∧
      (i.run (ts.take 2)).outcome (.limitUses (.int 101)) =
        .error (.refused "Max uses" (.tooManyUses 100 (intText 101))) ∧
      (i.run ss).build.result = .ok req ∧
      ∃ ms, req.body = .object ms ∧ ms.lookup "max_uses" = some (.int 5) ∧
        ms.lookup "max_age" = none ∧ ms.lookup "target_user_id" = some (.str (intText 42)) := by
  have independent : ¬Step.SameGroup (.limitUses (.int 5)) (.aimAtUser (.value (.int 42))) := nofun
  have nonempty : (Value.int 10).text ≠ "" := intText_ne 10
  have writable : (run { channelId := .int 10, channelType := .voice } [.limitUses (.int 5),
      .aimAtUser (.value (.int 42)), .limitUses (.int 101)]).isWritable = true := rfl
  obtain ⟨ends, same, request, -, carries⟩ := run_independent
    { channelId := .int 10, channelType := .voice } (.swap independent [.limitUses (.int 101)])
  obtain ⟨ms, body, last⟩ := carries _ (build_ok.mpr ⟨writable, nonempty, rfl⟩)
  refine ⟨_, _, _, _, rfl, rfl, same, request, (ends ⟨2, by decide⟩).trans rfl,
    build_ok.mpr ⟨writable, nonempty, rfl⟩, ms, body, last.maxUses, last.maxAge, ?_⟩
  obtain rfl := Value.object.inj body
  rfl

end BotPayload.Invite
