import BotPayload.Proofs.Button.Reading
import BotPayload.Proofs.Number.Literal

/-!
# Which payloads are buttons

`Accepted` lists what a payload must have, without a word about the button that it yields: its
members are of the right kinds (`Shaped`), and their values keep the limits of a button (`Fits`).
`decode_format`: the decoder returns a button exactly for the accepted payloads, and the button is
the one that the payload describes.
-/

namespace BotPayload.Button

/-- The members of an emoji are of the right kinds, and a text as id is empty or a numeral. -/
structure ShapedEmoji (e : Value) : Prop where
  object : ∃ ms, e = .object ms
  id : ∀ x, e.get? "id" = some x → (∃ s, x = .str s) ∨ (∃ n, x.whole? = some n) ∨ x = .null
  numeral : ∀ s, e.get? "id" = some (.str s) → s ≠ "" → Numeral.Literal s.toList
  name : ∀ x, e.get? "name" = some x → (∃ s, x = .str s) ∨ x = .null
  animated : ∀ x, e.get? "animated" = some x → ∃ f, x = .bool f

/-- The members of a payload are of the right kinds, and there is one identity. -/
structure Shaped (v : Value) : Prop where
  object : ∃ ms, v = .object ms
  type : ∃ t, v.get? "type" = some t ∧ t.whole? = some 2
  style : ∃ code, v.get? "style" = some code ∧ ∃ n, code.whole? = some n
  text : ∀ key ∈ ["label", "custom_id", "url"], ∀ x, v.get? key = some x → ∃ s, x = .str s
  disabled : ∀ x, v.get? "disabled" = some x → ∃ f, x = .bool f
  emoji : ∀ e, v.get? "emoji" = some e → e = .null ∨ ShapedEmoji e
  identity : v.get? "custom_id" ≠ none ↔ v.get? "url" = none

/-- The values in a payload keep the limits, something is shown, and links and only links among
the known styles have a url. -/
structure Fits (v : Value) : Prop where
  customId : ∀ s, v.get? "custom_id" = some (.str s) → s ≠ "" ∧ s.length ≤ 100
  url : ∀ s, v.get? "url" = some (.str s) → s ≠ "" ∧ s.length ≤ 512
  label : ∀ s, v.get? "label" = some (.str s) → s.length ≤ 80
  shown : (∃ s, v.get? "label" = some (.str s) ∧ s ≠ "") ∨
    ∃ ms, v.get? "emoji" = some (.object ms) ∧ ms ≠ []
  pairing : ∀ code n, v.get? "style" = some code → code.whole? = some n → 1 ≤ n → n ≤ 5 →
    (n = 5 ↔ v.get? "url" ≠ none)

structure Accepted (v : Value) : Prop extends Shaped v, Fits v

-- ---------------------------------------------------------------------------
-- What the rules accept
-- ---------------------------------------------------------------------------

section
variable {x : Option Value}

theorem textRead_exists : (∃ s, TextRead x s) ↔ ∀ v, x = some v → ∃ s, v = .str s := by
  simp [← textRead_iff]

theorem flagRead_exists : (∃ f, FlagRead x f) ↔ ∀ v, x = some v → ∃ f, v = .bool f := by
  simp [← flagRead_iff]

theorem nameRead_exists :
    (∃ s, NameRead x s) ↔ ∀ v, x = some v → (∃ s, v = .str s) ∨ v = .null := by
  simp [← nameRead_iff]

theorem idRead_exists :
    (∃ i, Emoji.IdRead x i) ↔
      (∀ v, x = some v → (∃ s, v = .str s) ∨ (∃ n, v.whole? = some n) ∨ v = .null) ∧
      ∀ s, x = some (.str s) → s ≠ "" → Numeral.Literal s.toList := by
  simp only [← Numeral.read_isOk_iff]
  constructor
  · rintro ⟨i, read⟩
    refine ⟨fun v hv => by simpa using (Emoji.decodeId_ok.mpr read).1 v hv, ?_⟩
    rintro s rfl ne
    cases read with
    | empty => exact absurd rfl ne
    | numeral _ read => exact ⟨_, read⟩
  · rintro ⟨shape, numeral⟩
    cases x with
    | none => exact ⟨_, .missing⟩
    | some v =>
      rcases shape v rfl with ⟨s, rfl⟩ | ⟨n, hn⟩ | rfl
      · by_cases ne : s = ""
        · subst ne
          exact ⟨_, .empty⟩
        · obtain ⟨n, read⟩ := numeral s rfl ne
          exact ⟨_, .numeral ne read⟩
      · cases v with
        | int m => exact ⟨_, .int⟩
        | float x =>
          cases zero : x.isZero with
          | true => exact ⟨_, .zero zero⟩
          | false => exact ⟨_, .float zero hn⟩
        | _ => cases hn
      · exact ⟨_, .null⟩

end

theorem emojiRead_exists {v : Value} :
    (∃ e, EmojiRead (v.get? "emoji") e) ↔
      ∀ e, v.get? "emoji" = some e → e = .null ∨ ShapedEmoji e := by
  cases v.get? "emoji" with
  | none => exact ⟨fun _ => nofun, fun _ => ⟨_, .missing⟩⟩
  | some x =>
    simp only [Option.some.injEq, forall_eq']
    constructor
    · rintro ⟨_, _ | _ | _ | ⟨_, id, name, animated⟩⟩
      · exact .inl rfl
      · refine .inr ⟨⟨_, rfl⟩, ?_, ?_, ?_, ?_⟩ <;> simp [Value.get?]
      · obtain ⟨shape, numeral⟩ := idRead_exists.mp ⟨_, id⟩
        exact .inr ⟨⟨_, rfl⟩, shape, numeral, nameRead_exists.mp ⟨_, name⟩,
          flagRead_exists.mp ⟨_, animated⟩⟩
    · rintro (rfl | ⟨⟨ms, rfl⟩, shape, numeral, name, animated⟩)
      · exact ⟨_, .null⟩
      · by_cases empty : ms = []
        · subst empty
          exact ⟨_, .empty⟩
        · obtain ⟨i, id⟩ := idRead_exists.mpr ⟨shape, numeral⟩
          obtain ⟨n, name⟩ := nameRead_exists.mpr name
          obtain ⟨a, animated⟩ := flagRead_exists.mpr animated
          exact ⟨some ⟨n, i, a⟩, .given empty ⟨id, name, animated⟩⟩

theorem identityRead_exists {x y : Option Value} :
    (∃ i, IdentityRead x y i) ↔
      (∀ v, x = some v → ∃ s, v = .str s) ∧ (∀ v, y = some v → ∃ s, v = .str s) ∧
      (x ≠ none ↔ y = none) := by
  constructor
  · rintro ⟨_, _ | _⟩ <;> simp
  · rintro ⟨hx, hy, one⟩
    cases x with
    | none =>
      cases y with
      | none => simp at one
      | some v =>
        obtain ⟨s, rfl⟩ := hy v rfl
        exact ⟨_, .url⟩
    | some v =>
      cases y with
      | none =>
        obtain ⟨s, rfl⟩ := hx v rfl
        exact ⟨_, .customId⟩
      | some w => simp at one

theorem styleRead_exists {code : Value} :
    (∃ s q, StyleRead code s q) ↔ ∃ n, code.whole? = some n := by
  simp [← styleRead_iff]

theorem reads_exists {v : Value} : (∃ b, Reads v b) ↔ Shaped v := by
  constructor
  · rintro ⟨b, object, type, ⟨code, hc, style⟩, identity, label, disabled, emoji⟩
    obtain ⟨id, url, one⟩ := identityRead_exists.mp ⟨_, identity⟩
    refine ⟨object, type, ⟨code, hc, styleRead_exists.mp ⟨_, _, style⟩⟩, ?_,
      flagRead_exists.mp ⟨_, disabled⟩, emojiRead_exists.mp ⟨_, emoji⟩, one⟩
    simpa using ⟨textRead_exists.mp ⟨_, label⟩, id, url⟩
  · rintro ⟨object, type, ⟨code, hc, whole⟩, text, disabled, emoji, one⟩
    obtain ⟨s, q, style⟩ := styleRead_exists.mpr whole
    obtain ⟨l, label⟩ := textRead_exists.mpr (text "label" (by simp))
    obtain ⟨i, identity⟩ :=
      identityRead_exists.mpr ⟨text "custom_id" (by simp), text "url" (by simp), one⟩
    obtain ⟨f, disabled⟩ := flagRead_exists.mpr disabled
    obtain ⟨e, emoji⟩ := emojiRead_exists.mpr emoji
    exact ⟨⟨i, l, s, e, f, q⟩, object, type, ⟨code, hc, style⟩, identity, label, disabled, emoji⟩

-- ---------------------------------------------------------------------------
-- Which of the described buttons are valid
-- ---------------------------------------------------------------------------

section
variable {x y : Option Value}

theorem IdentityRead.limits_iff (h : IdentityRead x y i) :
    i.value ≠ "" ∧ i.value.length ≤ i.limit ↔
      (∀ s, x = some (.str s) → s ≠ "" ∧ s.length ≤ 100) ∧
      ∀ s, y = some (.str s) → s ≠ "" ∧ s.length ≤ 512 := by
  cases h <;> simp [Identity.value, Identity.limit, Identity.maxIdLength, Identity.maxUrlLength]

theorem IdentityRead.isUrl_iff (h : IdentityRead x y i) : i.isUrl = true ↔ y ≠ none := by
  cases h <;> simp [Identity.isUrl]

theorem label_length_iff (h : TextRead x s) :
    s.length ≤ maxLabelLength ↔ ∀ t, x = some (.str t) → t.length ≤ 80 := by
  cases h <;> simp [maxLabelLength]

theorem label_ne_iff (h : TextRead x s) : s ≠ "" ↔ ∃ t, x = some (.str t) ∧ t ≠ "" := by
  cases h <;> simp

theorem EmojiRead.ne_iff (h : EmojiRead x e) :
    e ≠ none ↔ ∃ ms, x = some (.object ms) ∧ ms ≠ [] := by
  cases h with
  | given ne _ => simp [ne]
  | _ => simp

theorem StyleRead.pairing_iff {code : Value} (h : StyleRead code s q) (hn : code.whole? = some n)
    (p : Prop) : (s ≠ .unknown → (s = .link ↔ p)) ↔ (1 ≤ n → n ≤ 5 → (n = 5 ↔ p)) := by
  cases h with
  | known known whole =>
    cases hn.symm.trans whole
    cases s with
    | unknown => exact absurd rfl known
    | _ => simp [Style.code]
  | other whole other _ =>
    cases hn.symm.trans whole
    exact ⟨fun _ low high => absurd ⟨low, high⟩ other, fun _ known => absurd rfl known⟩

end

theorem Reads.valid_iff {v : Value} {b : Button} (h : Reads v b) : b.Valid ↔ Fits v := by
  obtain ⟨code, hc, style⟩ := h.style
  obtain ⟨n, hn⟩ := styleRead_exists.mp ⟨_, _, style⟩
  have pairing := style.pairing_iff hn (v.get? "url" ≠ none)
  rw [← h.identity.isUrl_iff] at pairing
  constructor
  · intro valid
    obtain ⟨id, url⟩ := h.identity.limits_iff.mp ⟨valid.identity_ne, valid.identity_le⟩
    refine ⟨id, url, (label_length_iff h.label).mp valid.label_le,
      valid.shown.imp (label_ne_iff h.label).mp h.emoji.ne_iff.mp, ?_⟩
    intro code' m hc' hm
    cases hc.symm.trans hc'
    cases hn.symm.trans hm
    rw [← h.identity.isUrl_iff]
    exact pairing.mp valid.pairing
  · intro fits
    obtain ⟨ne, le⟩ := h.identity.limits_iff.mpr ⟨fits.customId, fits.url⟩
    refine ⟨style.code_iff.mpr, ne, fits.shown.imp (label_ne_iff h.label).mpr h.emoji.ne_iff.mpr, le,
      (label_length_iff h.label).mpr fits.label, pairing.mpr ?_⟩
    rw [h.identity.isUrl_iff]
    exact fits.pairing code n hc hn

/-- The decoder returns a button exactly for the accepted payloads, and the button that it returns
is the one that the payload describes. -/
theorem decode_format (v : Value) :
    ((∃ b, (decode v).result = .ok b) ↔ Accepted v) ∧
      ∀ b, (decode v).result = .ok b ↔ Accepted v ∧ Reads v b := by
  have one : ∀ b, (decode v).result = .ok b ↔ Accepted v ∧ Reads v b := by
    intro b
    rw [decode_ok]
    constructor
    · rintro ⟨reads, valid⟩
      exact ⟨⟨reads_exists.mp ⟨b, reads⟩, reads.valid_iff.mp valid⟩, reads⟩
    · rintro ⟨accepted, reads⟩
      exact ⟨reads, reads.valid_iff.mpr accepted.toFits⟩
  refine ⟨⟨fun ⟨b, h⟩ => ((one b).mp h).1, fun accepted => ?_⟩, one⟩
  obtain ⟨b, reads⟩ := reads_exists.mpr accepted.toShaped
  exact ⟨b, (one b).mpr ⟨accepted, reads⟩⟩

end BotPayload.Button
