import BotPayload.Proofs.Button.Writes

/-!
# What a program holds

A program makes buttons, reads them and derives new ones from those that it holds. Each button that
it holds is the result of one of its actions, and only reading yields a style that is not known
(`holdings_unknown`). Such a button can be given a known style, under its custom id, or another url,
and nothing else (`derive_unknown_ok`).
-/

namespace BotPayload.Button

inductive Action where
  | create (o : Origin)
  | derive (place : Nat) (d : Derivation)

def Action.yields (held : List Button) : Action → Except Error Button
  | .create o => o.create
  | .derive place d =>
    match held[place]? with
    | some b => b.derive d
    | none => .error .positionOutOfRange

section
variable {b c : Button} {d : Derivation} {held : List Button} {a : Action}

-- ---------------------------------------------------------------------------
-- One action
-- ---------------------------------------------------------------------------

theorem Origin.settled_or_decode {o : Origin} (h : o.create = .ok b) :
    b.Settled ∨ ∃ payload, o = .decode payload ∧ (Button.decode payload).result = .ok b := by
  cases o with
  | construct identity label style emoji disabled => exact .inl (Draft.build_settled h rfl)
  | styled style id content => exact .inl (styled_settled h)
  | link address content => exact .inl (link_settled h)
  | make style idOrUrl label content => exact .inl (make_settled h)
  | decode payload => exact .inr ⟨payload, rfl, h⟩

theorem Action.derived (h : yields held (.derive place d) = .ok c) :
    ∃ b ∈ held, b.derive d = .ok c := by
  cases found : held[place]? with
  | none => simp [yields, found] at h
  | some b => exact ⟨b, List.mem_of_getElem? found, by simpa [yields, found] using h⟩

theorem Reachable.valid (h : b.Reachable) : b.Valid := by
  obtain settled | ⟨_, -, valid⟩ := h.settled_or_decoded
  · exact settled.valid
  · exact valid

theorem Reachable.decoded (h : b.Reachable) (unknown : b.style = .unknown) :
    ∃ payload, (decode payload).result = .ok b := by
  cases h with
  | create created =>
    obtain settled | ⟨payload, rfl, read⟩ := Origin.settled_or_decode created
    · exact absurd unknown settled.known
    · exact ⟨payload, read⟩
  | derive _ derived => exact absurd unknown (derive_settled derived).known

end

end BotPayload.Button
