import BotPayload.Proofs.Button.Reading
import BotPayload.Proofs.Number.Literal

/-!
# How reading a button fails

A payload that yields no button is refused as an argument, with one exception. The schema lets any
text stand for the id of an emoji, and the decoder reads it as a whole number: a payload without
faults in which the id is neither empty nor a numeral (`UnreadableId`) fails as the numeral does.
-/

namespace BotPayload

-- ---------------------------------------------------------------------------
-- Emoji
-- ---------------------------------------------------------------------------

namespace Emoji

theorem decodeId_error {x : Option Value}
    (shape : ∀ v, x = some v → Schema.faults (.kind [.string, .integer, .null]) v = []) :
    decodeId x = .error err ↔ ∃ s fault, x = some (.str s) ∧ s ≠ "" ∧
      Numeral.read s.toList = .error fault ∧ err = .numeral s fault := by
  cases x with
  | none => simp [decodeId]
  | some v =>
    cases v with
    | str s =>
      by_cases empty : s = ""
      · simp [decodeId, empty]
      · cases read : Numeral.read s.toList <;> simp [decodeId, empty, read, eq_comm]
    | float x =>
      obtain ⟨n, whole⟩ : ∃ n, x.toInt? = some n := by simpa [Value.whole?] using shape _ rfl
      simp only [decodeId, Binary64.truncate?_of_toInt? whole]
      split <;> simp
    | _ => simp [decodeId]

theorem decode_error {v : Value} : decode v = .error err ↔ decodeId (v.get? "id") = .error err := by
  simp only [decode, bind_error]
  constructor
  · rintro (failed | ⟨_, -, h⟩)
    · exact failed
    · cases h
  · exact .inl

end Emoji

namespace Button

-- ---------------------------------------------------------------------------
-- Drafts
-- ---------------------------------------------------------------------------

namespace Draft

theorem checkStyle_error {d : Draft} (h : d.checkStyle = .error err) : err.kind = .argument := by
  unfold checkStyle at h
  split at h
  · exact Except.error.inj h ▸ rfl
  · exact Except.error.inj h ▸ rfl
  · obtain refused | ⟨_, -, h⟩ := bind_error.mp h
    · exact require_error refused
    · nomatch h

theorem checkIdentity_error {d : Draft} (h : d.checkIdentity = .error err) :
    err.kind = .argument := by
  unfold checkIdentity at h
  split at h
  · exact Except.error.inj h ▸ rfl
  · obtain refused | ⟨_, -, h⟩ := bind_error.mp h
    · exact presentText_error refused
    · nomatch h
  · obtain refused | ⟨_, -, h⟩ := bind_error.mp h
    · exact presentText_error refused
    · nomatch h

theorem checkLabel_error {d : Draft} (h : d.checkLabel = .error err) : err.kind = .argument := by
  obtain absent | ⟨_, -, h⟩ := bind_error.mp h
  · exact present_error absent
  · obtain empty | ⟨_, -, h⟩ := bind_error.mp h
    · exact require_error empty
    · nomatch h

theorem checkPairing_error (h : checkPairing s i = .error err) : err.kind = .argument := by
  cases s with
  | unknown => nomatch h
  | _ => exact require_error h

theorem build_error {d : Draft} (h : d.build = .error err) : err.kind = .argument := by
  obtain style | ⟨_, -, h⟩ := bind_error.mp h
  · exact checkStyle_error style
  obtain identity | ⟨_, -, h⟩ := bind_error.mp h
  · exact checkIdentity_error identity
  obtain label | ⟨_, -, h⟩ := bind_error.mp h
  · exact checkLabel_error label
  obtain tooLong | ⟨_, -, h⟩ := bind_error.mp h
  · exact require_error tooLong
  obtain tooLong | ⟨_, -, h⟩ := bind_error.mp h
  · exact require_error tooLong
  obtain pairing | ⟨_, -, h⟩ := bind_error.mp h
  · exact checkPairing_error pairing
  · nomatch h

end Draft

-- ---------------------------------------------------------------------------
-- Payloads
-- ---------------------------------------------------------------------------

def HasIdText (v : Value) (s : String) : Prop :=
  ∃ emoji, v.get? "emoji" = some emoji ∧ emoji.get? "id" = some (.str s)

/-- A payload without faults, with a text for the id of its emoji that is no whole number. -/
structure UnreadableId (v : Value) (s : String) : Prop where
  shape : schema.faults v = []
  id : HasIdText v s
  ne : s ≠ ""
  notLiteral : ¬Numeral.Literal s.toList

theorem decodeEmoji_error {v : Value}
    (shape : ∀ x, v.get? "emoji" = some x → Schema.faults emojiSchema x = []) :
    decodeEmoji v = .error err ↔ ∃ s fault, HasIdText v s ∧ s ≠ "" ∧
      Numeral.read s.toList = .error fault ∧ err = .numeral s fault := by
  unfold decodeEmoji HasIdText
  cases emoji : v.get? "emoji" with
  | none => simp
  | some x =>
    simp only [Option.some.injEq, exists_eq_left']
    obtain rfl | ⟨⟨ms, rfl⟩, shape⟩ := emojiSchema_faults.mp (shape x emoji)
    · simp [Value.isTruthy, Value.get?]
    · cases ms with
      | nil => simp [Value.isTruthy, Value.get?]
      | cons m ms =>
        have members := Schema.faults_properties.mp shape
        rw [← Emoji.decodeId_error (members _ List.mem_cons_self), ← Emoji.decode_error]
        simp only [Value.isTruthy, List.isEmpty_cons, Bool.not_false, ↓reduceIte]
        cases Emoji.decode (.object (m :: ms)) <;> simp [Functor.map, Except.map]

theorem decode_error {v : Value} (h : (decode v).result = .error err) :
    err.kind = .argument ∨ ∃ s, UnreadableId v s := by
  rw [decode_result] at h
  obtain refused | ⟨_, shape, h⟩ := bind_error.mp h
  · exact .inl (require_error refused)
  have shape : schema.faults v = [] := by simpa [require_ok] using shape
  obtain ⟨-, -, -, -, -, -, -, emoji, -⟩ := schema_faults.mp shape
  obtain unreadable | ⟨_, -, h⟩ := bind_error.mp h
  · obtain ⟨s, fault, id, ne, read, -⟩ := (decodeEmoji_error emoji).mp unreadable
    exact .inr ⟨s, shape, id, ne, Numeral.read_isError_iff.mp ⟨fault, read⟩⟩
  · exact .inl (Draft.build_error h)

theorem UnreadableId.decode {v : Value} (h : UnreadableId v s) :
    ∃ fault, (decode v).result = .error (.numeral s fault) := by
  obtain ⟨fault, read⟩ := Numeral.read_isError_iff.mpr h.notLiteral
  obtain ⟨-, -, -, -, -, -, -, emoji, -⟩ := schema_faults.mp h.shape
  have unreadable := (decodeEmoji_error emoji).mpr ⟨s, fault, h.id, h.ne, read, rfl⟩
  refine ⟨fault, ?_⟩
  rw [decode_result, h.shape, unreadable]
  rfl

theorem decode_refused_iff {v : Value} :
    (∀ err, (decode v).result = .error err → err.kind = .argument) ↔ ∀ s, ¬UnreadableId v s := by
  constructor
  · intro refused s unreadable
    obtain ⟨fault, failed⟩ := unreadable.decode
    nomatch refused _ failed
  · intro readable err failed
    exact (decode_error failed).resolve_right fun ⟨s, unreadable⟩ => readable s unreadable

end Button

end BotPayload
