import BotPayload.Proofs.Button.RoundTrip
import BotPayload.Proofs.Row.Reading

/-!
# Rows read back from their payloads

A row is encoded exactly when all its buttons are of known styles (`encode_ok`). The decoder of
rows takes back the buttons one by one, in their order.
-/

namespace BotPayload.ActionRow

-- ---------------------------------------------------------------------------
-- Encoding
-- ---------------------------------------------------------------------------

theorem mapM_encode_ok {bs : List Button} :
    bs.mapM Button.encode = .ok vs ↔ (∀ b ∈ bs, b.style ≠ .unknown) ∧ vs = bs.map Button.body :=
  mapM_ok_iff fun _ _ _ => Button.encode_ok

theorem encode_ok {r : ActionRow} :
    r.encode = .ok v ↔
      (∀ b ∈ r.buttons, b.style ≠ .unknown) ∧ v = body (r.buttons.map Button.body) := by
  simp only [encode, map_ok, mapM_encode_ok]
  constructor
  · rintro ⟨_, ⟨known, rfl⟩, rfl⟩
    exact ⟨known, rfl⟩
  · rintro ⟨known, rfl⟩
    exact ⟨_, ⟨known, rfl⟩, rfl⟩

theorem encode_error {r : ActionRow} (h : r.encode = .error err) : err.kind = .argument := by
  obtain failed | ⟨_, -, h⟩ := bind_error.mp ((map_eq_pure_bind _ _).symm.trans h)
  · obtain ⟨b, -, failed⟩ := mapM_error failed
    exact Button.encode_error failed
  · nomatch h

-- ---------------------------------------------------------------------------
-- Decoding
-- ---------------------------------------------------------------------------

theorem schema_body (bs : List Button) : schema.faults (body (bs.map Button.body)) = [] := by
  refine schema_faults.mpr ⟨⟨_, rfl, rfl⟩, _, rfl, ?_⟩
  intro c hc
  obtain ⟨b, -, rfl⟩ := List.mem_map.mp hc
  exact ⟨_, rfl⟩

theorem isButton_body (b : Button) : isButton b.body = true := rfl

theorem filter_isButton_bodies (bs : List Button) :
    (bs.map Button.body).filter isButton = bs.map Button.body := by
  rw [List.filter_eq_self, List.forall_mem_map]
  exact fun b _ => isButton_body b

theorem decode_bodies {bs : List Button} (h : ∀ b ∈ bs, b.Settled) :
    List.Forall₂ (fun c b => (Button.decode c).result = .ok b) (bs.map Button.body) bs := by
  rw [List.forall₂_map_left_iff, List.forall₂_same]
  exact fun b hb => (h b hb).decode_encode.2

/-- The decoder returns the row of settled buttons that was encoded. -/
theorem decode_body {r : ActionRow} (h : ∀ b ∈ r.buttons, b.Settled) (ne : r.buttons ≠ [])
    (few : r.buttons.length ≤ maxButtons) :
    (decode (body (r.buttons.map Button.body))).result = .ok (some r) := by
  have buttons : (components (body (r.buttons.map Button.body))).filter isButton =
      r.buttons.map Button.body := filter_isButton_bodies r.buttons
  refine decode_some.mpr ⟨schema_body r.buttons, ?_, ne, few⟩
  rw [buttons]
  exact decode_bodies h

/-- A button that a program can hold, of a known style, reads back from its payload with all its
parts, and so does a row of such buttons. -/
theorem decode_encode_reachable :
    (∀ b : Button, b.Reachable → b.style ≠ .unknown →
      ∃ v, b.encode = .ok v ∧ (Button.decode v).result = .ok b ∧ b.unknownCode = none) ∧
    ∀ (args : List (Argument Button)) (r : ActionRow), ofArguments args = .ok r →
      (∀ b ∈ r.buttons, b.Reachable ∧ b.style ≠ .unknown) →
      ∃ v, r.encode = .ok v ∧ (decode v).result = .ok (some r) := by
  constructor
  · intro b reachable known
    have settled := reachable.settled known
    exact ⟨b.body, settled.decode_encode.1, settled.decode_encode.2, settled.noCode⟩
  · intro args r built reachable
    obtain ⟨-, ne, few⟩ := ofArguments_ok.mp built
    have settled : ∀ b ∈ r.buttons, b.Settled := fun b hb =>
      (reachable b hb).1.settled (reachable b hb).2
    exact ⟨_, encode_ok.mpr ⟨fun b hb => (reachable b hb).2, rfl⟩, decode_body settled ne few⟩

/-- A disabled button that shows a custom emoji alone, and the row that holds it. -/
theorem decode_encode_reachable_icon :
    ∃ b : Button, b = ⟨.customId "vote", "", .success, some ⟨"yes", some (.number 0), true⟩, true,
        none⟩ ∧ b.Reachable ∧ ofArguments [.given b] = .ok ⟨[b]⟩ ∧
      (∃ v, b.encode = .ok v ∧ (Button.decode v).result = .ok b ∧ b.unknownCode = none) ∧
      ∃ v, encode ⟨[b]⟩ = .ok v ∧ (decode v).result = .ok (some ⟨[b]⟩) := by
  have made : (Button.Origin.construct (.customId (some "vote")) (some "") (.given .success)
      (some ⟨"yes", some (.number 0), true⟩) true).create =
      .ok ⟨.customId "vote", "", .success, some ⟨"yes", some (.number 0), true⟩, true, none⟩ := rfl
  have reachable := Button.Reachable.create made
  refine ⟨_, rfl, reachable, rfl, decode_encode_reachable.1 _ reachable (by decide),
    decode_encode_reachable.2 [.given _] _ rfl ?_⟩
  intro b hb
  obtain rfl := List.mem_singleton.mp hb
  exact ⟨reachable, by decide⟩

end BotPayload.ActionRow
