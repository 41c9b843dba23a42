import BotPayload.Button.Equality
import BotPayload.Button.Factory

/-!
# What equality of buttons guarantees

All parts but the emoji are compared from both sides alike. An emoji is compared as its own side
says: a character asks for the name, a custom emoji for the id, and a hash is made of both. So two
buttons can be equal from one side only, where a character stands beside a custom emoji of its name
(`Mixed`), and equal buttons can be hashed from different data, there and where custom emoji of one
id have different names (`Renamed`). Elsewhere equality is symmetric and agrees with the hash, which
is any function of these data (`same_laws`).
-/

namespace BotPayload

-- ---------------------------------------------------------------------------
-- Parts
-- ---------------------------------------------------------------------------

theorem EmojiId.same_comm (i j : EmojiId) : i.same j = j.same i := by
  cases i <;> cases j <;> simp [same, BEq.comm]

theorem Value.sameAtom_comm (v w : Value) : v.sameAtom w = w.sameAtom v := by
  unfold sameAtom
  cases v.ratio? <;> cases w.ratio? <;> simp only [BEq.comm]
  cases v <;> cases w <;> simp [BEq.comm]

theorem Quantity.same_comm (q r : Quantity) :
    q.toValue.same r.toValue = r.toValue.same q.toValue := by
  have atoms (q r : Quantity) : q.toValue.same r.toValue = q.toValue.sameAtom r.toValue := by
    cases q <;> cases r <;> simp [toValue, Value.same]
  rw [atoms, atoms, Value.sameAtom_comm]

namespace Emoji

variable {e f : Emoji}

theorem same_symm_iff (h : e.same f = true) : f.same e = true ↔ ¬(e.id = none ∧ f.id ≠ none) := by
  obtain ⟨name, id, animated⟩ := e
  obtain ⟨name', id', animated'⟩ := f
  cases id <;> cases id' <;> simp_all [same, EmojiId.same_comm]

theorem sameKey_iff (h : e.same f = true) :
    e.sameKey f = true ↔
      ¬(e.id = none ∧ f.id ≠ none) ∧ ¬(e.id ≠ none ∧ f.id ≠ none ∧ e.name ≠ f.name) := by
  obtain ⟨name, id, animated⟩ := e
  obtain ⟨name', id', animated'⟩ := f
  cases id <;> cases id' <;> simp_all [same, sameKey]

end Emoji

namespace Button

/-- The first button shows a character, and the second one a custom emoji. -/
def Mixed (a b : Button) : Prop :=
  ∃ e f, a.emoji = some e ∧ b.emoji = some f ∧ e.id = none ∧ f.id ≠ none

/-- The buttons show custom emoji of different names. -/
def Renamed (a b : Button) : Prop :=
  ∃ e f, a.emoji = some e ∧ b.emoji = some f ∧ e.id ≠ none ∧ f.id ≠ none ∧ e.name ≠ f.name

variable {a b : Button}

theorem same_iff : a.same b = true ↔
    a.identity = b.identity ∧ a.label = b.label ∧ a.style = b.style ∧
      sameEmoji a.emoji b.emoji = true ∧ a.disabled = b.disabled ∧
      sameCode a.unknownCode b.unknownCode = true := by
  simp [same, and_assoc]

theorem sameCode_comm (p q : Option Quantity) : sameCode p q = sameCode q p := by
  cases p <;> cases q <;> simp [sameCode, Quantity.same_comm]

theorem sameEmoji_symm_iff (h : sameEmoji a.emoji b.emoji = true) :
    sameEmoji b.emoji a.emoji = true ↔ ¬Mixed a b := by
  unfold Mixed
  cases left : a.emoji <;> cases right : b.emoji <;> rw [left, right] at h
  case some.some e f =>
    rw [sameEmoji, Emoji.same_symm_iff h]
    simp
  all_goals simp_all [sameEmoji]

theorem sameEmojiKey_iff (h : sameEmoji a.emoji b.emoji = true) :
    sameEmojiKey a.emoji b.emoji = true ↔ ¬Mixed a b ∧ ¬Renamed a b := by
  unfold Mixed Renamed
  cases left : a.emoji <;> cases right : b.emoji <;> rw [left, right] at h
  case some.some e f =>
    rw [sameEmojiKey, Emoji.sameKey_iff h]
    simp
  all_goals simp_all [sameEmoji, sameEmojiKey]

theorem same_symm_iff (h : a.same b = true) : b.same a = true ↔ ¬Mixed a b := by
  obtain ⟨identity, label, style, emoji, disabled, code⟩ := same_iff.mp h
  rw [same_iff, sameEmoji_symm_iff emoji, sameCode_comm]
  simp [identity, label, style, disabled, code]

theorem hashedAlike_iff (h : a.same b = true) : HashedAlike a b ↔ ¬Mixed a b ∧ ¬Renamed a b := by
  obtain ⟨identity, label, style, emoji, disabled, code⟩ := same_iff.mp h
  rw [← sameEmojiKey_iff emoji]
  constructor
  · exact HashedAlike.emoji
  · intro key
    exact ⟨identity, label, style, key, disabled, code⟩

theorem setSize_given (h : Hashing) (a b : Button) : Argument.setSize h (.given a) (.given b) =
    .ok (if h.hash a == h.hash b && a.same b then 1 else 2) := rfl

theorem setSize_one_iff (h : Hashing) : Argument.setSize h (.given a) (.given b) = .ok 1 ↔
    h.hash a = h.hash b ∧ a.same b = true := by
  rw [setSize_given, Except.ok.injEq, ite_eq_left_iff, Bool.not_eq_true]
  simp

/-- Equality of buttons is symmetric except where a character meets a custom emoji of its name, and
equal buttons are hashed from the same data except there and where custom emoji of one id have
different names. Whatever the hash, a set holds only one of two buttons exactly if it asks the first
one and is told that they are equal, and they have one hash; which is so for equal ones elsewhere. -/
theorem same_laws (h : Hashing) (a b : Button) :
    (a.same b = true → (b.same a = true ↔ ¬Mixed a b)) ∧
      (a.same b = true → (HashedAlike a b ↔ ¬Mixed a b ∧ ¬Renamed a b)) ∧
      (Argument.setSize h (.given a) (.given b) = .ok 1 ↔
        h.hash a = h.hash b ∧ a.same b = true) ∧
      (a.same b = true → ¬Mixed a b → ¬Renamed a b →
        Argument.setSize h (.given a) (.given b) = .ok 1 ∧
          Argument.setSize h (.given b) (.given a) = .ok 1) := by
  refine ⟨same_symm_iff, hashedAlike_iff, setSize_one_iff h, fun equal mixed renamed => ?_⟩
  have one : h.hash a = h.hash b := h.alike ((hashedAlike_iff equal).mpr ⟨mixed, renamed⟩)
  exact ⟨(setSize_one_iff h).mpr ⟨one, equal⟩,
    (setSize_one_iff h).mpr ⟨one.symm, (same_symm_iff equal).mpr mixed⟩⟩

/-- Custom emoji of one id and two names: the buttons are equal from both sides, and a set holds
them both. One name and two ways of being animated: a set holds one of them. -/
theorem same_laws_renamed :
    ∃ a b c : Button,
      a = ⟨.customId "ok", "", .primary, some ⟨"yes", some (.number 7), false⟩, false, none⟩ ∧
      b = ⟨.customId "ok", "", .primary, some ⟨"no", some (.number 7), false⟩, false, none⟩ ∧
      c = ⟨.customId "ok", "", .primary, some ⟨"yes", some (.number 7), true⟩, false, none⟩ ∧
      a.same b = true ∧ b.same a = true ∧ ¬HashedAlike a b ∧
      Argument.setSize .byEmoji (.given a) (.given b) ≠ .ok 1 ∧ a.same c = true ∧
      Argument.setSize .byEmoji (.given a) (.given c) = .ok 1 := by
  let a : Button :=
    ⟨.customId "ok", "", .primary, some ⟨"yes", some (.number 7), false⟩, false, none⟩
  let b : Button :=
    ⟨.customId "ok", "", .primary, some ⟨"no", some (.number 7), false⟩, false, none⟩
  let c : Button :=
    ⟨.customId "ok", "", .primary, some ⟨"yes", some (.number 7), true⟩, false, none⟩
  have equal : a.same b = true := by decide
  have equal' : a.same c = true := by decide
  have mixed : ¬Mixed a b := by simp [Mixed, a]
  have mixed' : ¬Mixed a c := by simp [Mixed, a]
  have renamed : Renamed a b := ⟨_, _, rfl, rfl, nofun, nofun, by decide⟩
  have named : ¬Renamed a c := by simp [Renamed, a, c]
  have apart : Hashing.byEmoji.hash a ≠ Hashing.byEmoji.hash b := by decide
  obtain ⟨symm, hashed, size, -⟩ := same_laws .byEmoji a b
  obtain ⟨-, -, -, alike⟩ := same_laws .byEmoji a c
  refine ⟨a, b, c, rfl, rfl, rfl, equal, (symm equal).mpr mixed, ?_, ?_, equal',
    (alike equal' mixed' named).1⟩
  · exact fun alike => ((hashed equal).mp alike).2 renamed
  · exact fun one => apart (size.mp one).1

/-- The button with the character `smile` equals the one with the custom emoji `smile`, which does
not equal it; they are hashed from different data. A set that is given the custom emoji first holds
them both, whatever the hash. -/
theorem same_one_sided :
    ∃ a b : Button,
      styled (.given .primary) (some "ok") (.emoji ⟨"smile", none, false⟩) = .ok a ∧
      styled (.given .primary) (some "ok") (.emoji ⟨"smile", some (.number 5), false⟩) = .ok b ∧
      a.same b = true ∧ b.same a = false ∧ ¬HashedAlike a b ∧
      Argument.setSize .byEmoji (.given a) (.given b) = .ok 2 ∧
      ∀ h, Argument.setSize h (.given b) (.given a) = .ok 2 := by
  let a : Button := ⟨.customId "ok", "", .primary, some ⟨"smile", none, false⟩, false, none⟩
  let b : Button :=
    ⟨.customId "ok", "", .primary, some ⟨"smile", some (.number 5), false⟩, false, none⟩
  have apart : b.same a = false := by decide
  refine ⟨a, b, rfl, rfl, by decide, apart, ?_, rfl, fun h => ?_⟩
  · exact fun alike => nomatch alike.emoji
  · rw [setSize_given, apart, Bool.and_false]
    rfl

end Button

end BotPayload
