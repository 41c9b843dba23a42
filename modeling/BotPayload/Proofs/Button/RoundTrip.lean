import BotPayload.Proofs.Button.Reachable

/-!
# Buttons read back from their payloads

`reads_body`: the payload of a settled button describes that button. With `decode_ok` the decoder
then returns it. Nothing is asked of the emoji: ids that were kept as they came are written as they
came.
-/

namespace BotPayload

theorem Emoji.reads_encode (e : Emoji) : Reads e.encode e := by
  obtain ⟨name, i, animated⟩ := e
  refine ⟨?_, ?_, ?_⟩
  · cases i with
    | none => exact .null
    | some i =>
      cases i with
      | number n => exact .int
      | emptyText => exact .empty
      | floatZero negative => cases negative <;> exact .zero rfl
  · exact .given
  · cases animated with
    | false => exact .missing
    | true => exact .given

namespace Button

theorem encode_ok {b : Button} : b.encode = .ok v ↔ b.style ≠ .unknown ∧ v = b.body := by
  simp only [encode, bind_ok, require_ok, pure_ok, decide_eq_true_eq]
  constructor
  · rintro ⟨_, known, rfl⟩
    exact ⟨known, rfl⟩
  · rintro ⟨known, rfl⟩
    exact ⟨(), known, rfl⟩

theorem encode_error {b : Button} (h : b.encode = .error err) : err.kind = .argument := by
  obtain refused | ⟨_, -, h⟩ := bind_error.mp h
  · exact require_error refused
  · nomatch h

theorem reads_body {b : Button} (known : b.style ≠ .unknown) (noCode : b.unknownCode = none) :
    Reads b.body b := by
  obtain ⟨identity, label, style, emoji, disabled, code⟩ := b
  subst noCode
  refine ⟨⟨_, rfl⟩, ⟨_, rfl, rfl⟩, ⟨_, rfl, .known known rfl⟩, ?_, .given, .given, ?_⟩
  · cases identity <;> cases emoji <;> constructor
  · cases emoji with
    | none => cases identity <;> exact .missing
    | some e => cases identity <;> exact .given (by simp) e.reads_encode

/-- A settled button is encoded, and the decoder returns it. -/
theorem Settled.decode_encode {b : Button} (h : b.Settled) :
    b.encode = .ok b.body ∧ (decode b.body).result = .ok b :=
  ⟨encode_ok.mpr ⟨h.known, rfl⟩, decode_ok.mpr ⟨reads_body h.known h.noCode, h.valid⟩⟩

end Button

end BotPayload
