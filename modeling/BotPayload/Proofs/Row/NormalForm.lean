import BotPayload.Proofs.Button.NormalForm
import BotPayload.Proofs.Row.RoundTrip

/-!
# Normal forms of the payloads of rows

The normal form of a row lists the normal forms of its buttons; components of other kinds are gone.
-/

namespace BotPayload.ActionRow

variable {v : Value} {r : ActionRow}

theorem normalForms_of_decoded {cs : List Value} {bs : List Button}
    (h : List.Forall₂ (fun c b => (Button.decode c).result = .ok b) cs bs)
    (codes : ∀ c ∈ cs, Button.CodeKnown c) :
    (∀ b ∈ bs, b.Settled) ∧ List.Forall₂ Button.NormalForm cs (bs.map Button.body) := by
  induction h with
  | nil => exact ⟨List.forall_mem_nil _, .nil⟩
  | cons read _ ih =>
    obtain ⟨code, codes⟩ := List.forall_mem_cons.mp codes
    obtain ⟨settled, normal⟩ := ih codes
    exact ⟨List.forall_mem_cons.mpr ⟨Button.settled_of_decoded read code, settled⟩,
      .cons (Button.normalForm_of_decoded read code).1 normal⟩

/-- A payload with a known style code that is read as a button is written in its normal form, which
is read as the same button. So are the payloads of rows of such buttons. -/
theorem decode_normalForm :
    (∀ v b, (Button.decode v).result = .ok b → Button.CodeKnown v →
      ∃ p, Button.NormalForm v p ∧ b.encode = .ok p ∧ (Button.decode p).result = .ok b) ∧
    ∀ v r, (decode v).result = .ok (some r) →
      (∀ c ∈ (components v).filter isButton, Button.CodeKnown c) →
      ∃ ps, List.Forall₂ Button.NormalForm ((components v).filter isButton) ps ∧
        r.encode = .ok (body ps) ∧ (decode (body ps)).result = .ok (some r) := by
  constructor
  · intro v b read code
    exact ⟨_, Button.normalForm_of_decoded read code⟩
  · intro v r read codes
    obtain ⟨-, buttons, ne, few⟩ := decode_some.mp read
    obtain ⟨settled, normal⟩ := normalForms_of_decoded buttons codes
    exact ⟨_, normal, encode_ok.mpr ⟨fun b hb => (settled b hb).known, rfl⟩,
      decode_body settled ne few⟩

/-- A style code as a float, and an emoji with a numeral as id and without a name; beside the button
stands a menu. -/
theorem decode_normalForm_menu :
    ∃ (v row : Value) (b : Button),
      v = .object [("style", .float (.ofInt 2)), ("type", .int 2), ("custom_id", .str "vote"),
        ("emoji", .object [("animated", .bool true), ("id", .str "+1_0"), ("name", .null)])] ∧
      row = body [.object [("type", .int 3)], v] ∧
      b = ⟨.customId "vote", "", .secondary, some ⟨"", some (.number 10), true⟩, false, none⟩ ∧
      (Button.decode v).result = .ok b ∧ (decode row).result = .ok (some ⟨[b]⟩) ∧
      (∃ p, Button.NormalForm v p ∧ b.encode = .ok p ∧ (Button.decode p).result = .ok b) ∧
      ∃ ps, List.Forall₂ Button.NormalForm ((components row).filter isButton) ps ∧
        encode ⟨[b]⟩ = .ok (body ps) ∧ (decode (body ps)).result = .ok (some ⟨[b]⟩) := by
  have code : Button.CodeKnown (.object [("style", .float (.ofInt 2)), ("type", .int 2),
      ("custom_id", .str "vote"), ("emoji", .object [("animated", .bool true), ("id", .str "+1_0"),
        ("name", .null)])]) := ⟨_, 2, rfl, rfl, by decide, by decide⟩
  refine ⟨_, _, _, rfl, rfl, rfl, rfl, rfl, decode_normalForm.1 _ _ rfl code,
    decode_normalForm.2 _ _ rfl ?_⟩
  intro c hc
  obtain ⟨listed, button⟩ := List.mem_filter.mp hc
  rcases List.mem_pair.mp listed with rfl | rfl
  · cases button
  · exact code

end BotPayload.ActionRow
