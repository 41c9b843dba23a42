import BotPayload.Proofs.Button.Reachable
import BotPayload.Proofs.Row.Reading
import BotPayload.Row.Step

/-!
# Every row that a program can hold

A row is collected from buttons, decoded from a payload, or comes from another row by a step. In
each case it holds one to five buttons, all of which a program can hold.
-/

namespace BotPayload.ActionRow

def Step.Supplied : Step → Prop
  | .replace _ button => ∀ b, button = .given b → b.Reachable
  | _ => True

inductive Reachable : ActionRow → Prop
  | collect : (∀ b, .given b ∈ args → b.Reachable) → ofArguments args = .ok r → Reachable r
  | decode : (decode v).result = .ok (some r) → Reachable r
  | step {s : Step} : Reachable r → s.Supplied → step (some r) s = .ok r' → Reachable r'

structure WellFormed (r : ActionRow) : Prop where
  nonempty : 1 ≤ r.buttons.length
  size_le : r.buttons.length ≤ 5
  buttons : ∀ b ∈ r.buttons, b.WellFormed

variable {r r' : ActionRow}

theorem mapButtons_ok {f : Button → Except Error Button} :
    r.mapButtons f = .ok r' ↔ List.Forall₂ (fun b c => f b = .ok c) r.buttons r'.buttons ∧
      r'.buttons ≠ [] ∧ r'.buttons.length ≤ maxButtons := by
  simp only [mapButtons, bind_ok, mapM_ok_forall₂, ofArguments_ok]
  constructor
  · rintro ⟨bs, derived, given, ne, few⟩
    obtain rfl := map_given_inj.mp given
    exact ⟨derived, ne, few⟩
  · rintro ⟨derived, ne, few⟩
    exact ⟨_, derived, rfl, ne, few⟩

theorem mapButtons_reachable {d : Button.Derivation}
    (h : r.mapButtons (fun b => b.derive d) = .ok r') (old : ∀ b ∈ r.buttons, b.Reachable) :
    ∀ c ∈ r'.buttons, c.Reachable := by
  intro c hc
  obtain ⟨b, hb, derived⟩ := forall₂_mem_right (mapButtons_ok.mp h).1 c hc
  exact .derive (old b hb) derived

theorem replace_ok {button : Argument Button} :
    r.replace index button = .ok r' ↔ ∃ i, position? r.size index = some i ∧
      ofArguments ((r.buttons.map .given).set i button) = .ok r' := by
  unfold replace
  cases position? r.size index with
  | some i => simp
  | none => simp [bind_ok, throw, throwThe, MonadExceptOf.throw]

theorem replace_reachable {button : Argument Button} (h : r.replace index button = .ok r')
    (new : ∀ b, button = .given b → b.Reachable) (old : ∀ b ∈ r.buttons, b.Reachable) :
    ∀ c ∈ r'.buttons, c.Reachable := by
  intro c hc
  obtain ⟨i, -, built⟩ := replace_ok.mp h
  have placed := (ofArguments_ok.mp built).1 ▸ List.mem_map_of_mem hc
  rcases List.mem_or_eq_of_mem_set placed with kept | put
  · obtain ⟨b, hb, same⟩ := List.mem_map.mp kept
    exact Argument.given.inj same ▸ old b hb
  · exact new c put.symm

theorem Reachable.buttons (h : Reachable r) : ∀ b ∈ r.buttons, b.Reachable := by
  induction h with
  | collect supplied built =>
    intro b hb
    exact supplied b ((ofArguments_ok.mp built).1 ▸ List.mem_map_of_mem hb)
  | decode decoded =>
    intro b hb
    obtain ⟨c, -, read⟩ := forall₂_mem_right (decode_some.mp decoded).2.1 b hb
    exact .create (o := .decode c) read
  | @step r r' s _ supplied stepped ih =>
    cases s with
    | replace index button => exact replace_reachable stepped supplied ih
    | disable => exact mapButtons_reachable (d := .disable) stepped ih
    | enable => exact mapButtons_reachable (d := .enable) stepped ih

theorem Reachable.size (h : Reachable r) : r.buttons ≠ [] ∧ r.buttons.length ≤ maxButtons := by
  cases h with
  | collect _ built => exact (ofArguments_ok.mp built).2
  | decode decoded => exact (decode_some.mp decoded).2.2
  | @step r _ s _ _ stepped =>
    cases s with
    | replace index button =>
      obtain ⟨i, -, built⟩ := replace_ok.mp stepped
      exact (ofArguments_ok.mp built).2
    | disable => exact (mapButtons_ok.mp stepped).2
    | enable => exact (mapButtons_ok.mp stepped).2

theorem Reachable.wellFormed (h : Reachable r) : r.WellFormed where
  nonempty := List.length_pos_iff.mpr h.size.1
  size_le := h.size.2
  buttons b hb := (h.buttons b hb).wellFormed

theorem Reachable.settled (h : Reachable r) (known : ∀ b ∈ r.buttons, b.style ≠ .unknown) :
    ∀ b ∈ r.buttons, b.Settled :=
  fun b hb => (h.buttons b hb).settled (known b hb)

end BotPayload.ActionRow
