import BotPayload.Proofs.Button.Refusal
import BotPayload.Proofs.Row.Reading

/-!
# How reading a row fails

The decoder of rows reads the components that say they are buttons, in their order, and stops at the
first one that it cannot read. So a row fails as its first unreadable button does, and is otherwise
refused as an argument.
-/

namespace BotPayload.ActionRow

theorem ofArguments_error {args : List (Argument Button)} (h : ofArguments args = .error err) :
    err.kind = .argument := by
  obtain foreign | ⟨_, -, h⟩ := bind_error.mp h
  · exact allGiven_error foreign
  obtain empty | ⟨_, -, h⟩ := bind_error.mp h
  · exact require_error empty
  obtain tooMany | ⟨_, -, h⟩ := bind_error.mp h
  · exact require_error tooMany
  · nomatch h

/-- A row without faults in which the first button that is not read has an unreadable id. -/
structure UnreadableId (v : Value) (s : String) : Prop where
  shape : schema.faults v = []
  first : ∃ front c back, (components v).filter isButton = front ++ c :: back ∧
    (∀ x ∈ front, ∃ b, (Button.decode x).result = .ok b) ∧ Button.UnreadableId c s

theorem decode_error {v : Value} (h : (decode v).result = .error err) :
    err.kind = .argument ∨ ∃ s, UnreadableId v s := by
  rw [decode_result, decodeButtons_result] at h
  obtain refused | ⟨_, shape, h⟩ := bind_error.mp h
  · exact .inl (require_error refused)
  have shape : schema.faults v = [] := by simpa [require_ok] using shape
  obtain unread | ⟨bs, -, h⟩ := bind_error.mp h
  · obtain ⟨front, c, back, split, fine, failed⟩ := mapM_error_iff.mp unread
    exact (Button.decode_error failed).imp_right fun ⟨s, unreadable⟩ =>
      ⟨s, shape, front, c, back, split, fine, unreadable⟩
  · split at h
    · nomatch h
    · rw [map_eq_pure_bind] at h
      obtain refused | ⟨_, -, h⟩ := bind_error.mp h
      · exact .inl (ofArguments_error refused)
      · nomatch h

theorem UnreadableId.decode {v : Value} (h : UnreadableId v s) :
    ∃ fault, (decode v).result = .error (.numeral s fault) := by
  obtain ⟨front, c, back, split, fine, unreadable⟩ := h.first
  obtain ⟨fault, failed⟩ := unreadable.decode
  have unread := mapM_error_iff.mpr ⟨front, c, back, split, fine, failed⟩
  refine ⟨fault, ?_⟩
  rw [decode_result, decodeButtons_result, h.shape, unread]
  rfl

theorem decode_refused_iff {v : Value} :
    (∀ err, (decode v).result = .error err → err.kind = .argument) ↔ ∀ s, ¬UnreadableId v s := by
  constructor
  · intro refused s unreadable
    obtain ⟨fault, failed⟩ := unreadable.decode
    nomatch refused _ failed
  · intro readable err failed
    exact (decode_error failed).resolve_right fun ⟨s, unreadable⟩ => readable s unreadable

/-- Reading fails in no other way than by refusing an argument exactly where no emoji that it comes
to has an unreadable id. Where one has, the failure to read a number comes through. -/
theorem decode_unreadable_id (v : Value) :
    ((∀ err, (Button.decode v).result = .error err → err.kind = .argument) ↔
      ∀ s, ¬Button.UnreadableId v s) ∧
    (∀ s, Button.UnreadableId v s →
      ∃ fault, (Button.decode v).result = .error (.numeral s fault)) ∧
    ((∀ err, (decode v).result = .error err → err.kind = .argument) ↔ ∀ s, ¬UnreadableId v s) ∧
    ∀ s, UnreadableId v s → ∃ fault, (decode v).result = .error (.numeral s fault) :=
  ⟨Button.decode_refused_iff, fun _ => Button.UnreadableId.decode, decode_refused_iff,
    fun _ => UnreadableId.decode⟩

/-- An emoji whose id is a word, in a button alone and behind a menu and a button that is read. -/
theorem decode_unreadable_id_word :
    ∃ plain named row, plain = Value.object [("type", .int 2), ("style", .int 1),
        ("label", .str "Yes"), ("custom_id", .str "yes")] ∧
      named = Value.object [("type", .int 2), ("style", .int 2), ("custom_id", .str "react"),
        ("emoji", .object [("id", .str "abc"), ("name", .str "n")])] ∧
      row = Value.object [("type", .int 1),
        ("components", .list [.object [("type", .int 3)], plain, named])] ∧
      Button.UnreadableId named "abc" ∧ UnreadableId row "abc" ∧
      (∃ fault, (Button.decode named).result = .error (.numeral "abc" fault)) ∧
      ∃ fault, (decode row).result = .error (.numeral "abc" fault) := by
  have word : Numeral.read "abc".toList = .error .malformed := rfl
  have named : Button.UnreadableId (.object [("type", .int 2), ("style", .int 2),
      ("custom_id", .str "react"),
      ("emoji", .object [("id", .str "abc"), ("name", .str "n")])]) "abc" :=
    ⟨rfl, ⟨_, rfl, rfl⟩, by decide, Numeral.read_isError_iff.mp ⟨_, word⟩⟩
  have plain : (Button.decode (.object [("type", .int 2), ("style", .int 1), ("label", .str "Yes"),
      ("custom_id", .str "yes")])).result =
      .ok ⟨.customId "yes", "Yes", .primary, none, false, none⟩ := rfl
  have row : UnreadableId (.object [("type", .int 1), ("components", .list [
      .object [("type", .int 3)], .object [("type", .int 2), ("style", .int 1),
        ("label", .str "Yes"), ("custom_id", .str "yes")],
      .object [("type", .int 2), ("style", .int 2), ("custom_id", .str "react"),
        ("emoji", .object [("id", .str "abc"), ("name", .str "n")])]])]) "abc" :=
    ⟨rfl, [_], _, [], rfl, List.forall_mem_singleton.mpr ⟨_, plain⟩, named⟩
  exact ⟨_, _, _, rfl, rfl, rfl, named, row, (decode_unreadable_id _).2.1 _ named,
    (decode_unreadable_id _).2.2.2 _ row⟩

end BotPayload.ActionRow
