import BotPayload.Button.Derivation

/-!
# What building a button enforces

`Draft.build_ok`: a draft builds exactly when it is the draft of a valid button, and then builds
that button. Each lemma before it reads one check as the rule it decides; each lemma after it
reads one factory or derivation as the parts that it writes. A derivation leaves the style code
that came behind, so whatever it yields is valid and of a known style (`derive_settled`).
-/

namespace BotPayload

def Identity.draft : Identity → Button.IdentityDraft
  | .customId id => .customId (some id)
  | .url address => .url (some address)

@[simp] theorem Identity.draft_inj {i j : Identity} : i.draft = j.draft ↔ i = j := by
  cases i <;> cases j <;> simp [draft]

namespace Button

/-- The constraints of a button. A style that is not known comes with its code; it alone may go
with either identity. -/
structure Valid (b : Button) : Prop where
  code : b.style = .unknown → b.unknownCode ≠ none
  identity_ne : b.identity.value ≠ ""
  shown : b.label ≠ "" ∨ b.emoji ≠ none
  identity_le : b.identity.value.length ≤ b.identity.limit
  label_le : b.label.length ≤ maxLabelLength
  pairing : b.style ≠ .unknown → (b.style = .link ↔ b.identity.isUrl = true)

def draft (b : Button) : Draft where
  identity := b.identity.draft
  label := some b.label
  style := .given b.style
  emoji := b.emoji
  disabled := b.disabled
  unknownCode := b.unknownCode

-- ---------------------------------------------------------------------------
-- The checks
-- ---------------------------------------------------------------------------

namespace Draft

theorem checkStyle_ok {d : Draft} :
    d.checkStyle = .ok s ↔ d.style = .given s ∧ (s = .unknown → d.unknownCode ≠ none) := by
  unfold checkStyle
  cases h : d.style with
  | given t =>
    simp only [bind_ok, require_ok, pure_ok, Argument.given.injEq, Bool.or_eq_true,
      decide_eq_true_eq, Option.isSome_iff_ne_none, ← Decidable.imp_iff_not_or]
    constructor
    · rintro ⟨_, code, rfl⟩
      exact ⟨rfl, code⟩
    · rintro ⟨rfl, code⟩
      exact ⟨(), code, rfl⟩
  | _ => simp

theorem checkIdentity_ok {d : Draft} :
    d.checkIdentity = .ok i ↔ d.identity = i.draft ∧ i.value ≠ "" := by
  unfold checkIdentity
  cases h : d.identity with
  | foreign v => cases i <;> simp [Identity.draft]
  | customId id =>
    simp only [bind_ok, presentText_ok, pure_ok]
    constructor
    · rintro ⟨s, ⟨rfl, hs⟩, rfl⟩
      exact ⟨rfl, hs⟩
    · rintro ⟨h, hs⟩
      cases i with
      | customId s =>
        cases h
        exact ⟨s, ⟨rfl, hs⟩, rfl⟩
      | url s => cases h
  | url address =>
    simp only [bind_ok, presentText_ok, pure_ok]
    constructor
    · rintro ⟨s, ⟨rfl, hs⟩, rfl⟩
      exact ⟨rfl, hs⟩
    · rintro ⟨h, hs⟩
      cases i with
      | customId s => cases h
      | url s =>
        cases h
        exact ⟨s, ⟨rfl, hs⟩, rfl⟩

theorem checkLabel_ok {d : Draft} :
    d.checkLabel = .ok l ↔ d.label = some l ∧ (l ≠ "" ∨ d.emoji ≠ none) := by
  simp only [checkLabel, bind_ok, present_ok, require_ok, pure_ok, Bool.or_eq_true,
    decide_eq_true_eq, Option.isSome_iff_ne_none]
  constructor
  · rintro ⟨_, hl, _, shown, rfl⟩
    exact ⟨hl, shown⟩
  · rintro ⟨hl, shown⟩
    exact ⟨l, hl, (), shown, rfl⟩

theorem checkPairing_ok :
    checkPairing s i = .ok u ↔ (s ≠ .unknown → (s = .link ↔ i.isUrl = true)) := by
  cases s <;> simp [checkPairing, require_ok]

/-- Building is the inverse of `Button.draft`, on the valid buttons. -/
theorem build_ok {d : Draft} : d.build = .ok b ↔ d = b.draft ∧ b.Valid := by
  obtain ⟨identity, label, style, emoji, disabled, unknownCode⟩ := d
  simp only [build, bind_ok, checkStyle_ok, checkIdentity_ok, checkLabel_ok, withinLength_ok,
    checkPairing_ok, pure_ok]
  constructor
  · rintro ⟨s, ⟨rfl, code⟩, i, ⟨rfl, ne⟩, l, ⟨rfl, shown⟩, _, idLe, _, labelLe, _, pairing, rfl⟩
    exact ⟨rfl, code, ne, shown, idLe, labelLe, pairing⟩
  · rintro ⟨h, v⟩
    cases h
    exact ⟨b.style, ⟨rfl, v.code⟩, b.identity, ⟨rfl, v.identity_ne⟩, b.label, ⟨rfl, v.shown⟩,
      (), v.identity_le, (), v.label_le, (), v.pairing, rfl⟩

end Draft

-- ---------------------------------------------------------------------------
-- Derivations
-- ---------------------------------------------------------------------------

section
variable {b c : Button} {label id address : Option String} {style : Argument Style}
  {content : Content}

theorem draft_inj : b.draft = c.draft ↔ b = c := by
  refine ⟨fun h => ?_, fun h => h ▸ rfl⟩
  obtain ⟨i, l, s, e, f, q⟩ := b
  obtain ⟨j, m, t, g, k, r⟩ := c
  simpa [draft] using h

theorem build_draft : b.draft.build = .ok c ↔ c = b ∧ c.Valid := by
  rw [Draft.build_ok, draft_inj, eq_comm]

theorem toDraft_eq (b : Button) : b.toDraft = draft { b with unknownCode := none } := by
  obtain ⟨i, l, s, e, f, q⟩ := b
  cases i <;> rfl

theorem setDisabled_ok :
    b.setDisabled f = .ok c ↔ c = { b with disabled := f, unknownCode := none } ∧ c.Valid := by
  rw [setDisabled, toDraft_eq]
  exact build_draft (b := { b with disabled := f, unknownCode := none })

theorem setEmoji_ok :
    b.setEmoji content = .ok c ↔ ∃ e, content.toEmoji = .ok e ∧
      c = { b with emoji := e, unknownCode := none } ∧ c.Valid := by
  simp only [setEmoji, bind_ok, require_ok, toDraft_eq]
  constructor
  · rintro ⟨e, he, _, _, h⟩
    exact ⟨e, he, (build_draft (b := { b with emoji := e, unknownCode := none })).mp h⟩
  · rintro ⟨e, he, rfl, valid⟩
    have shown : (e.isSome || b.label ≠ "") = true := by
      simpa [Option.isSome_iff_ne_none, or_comm] using valid.shown
    exact ⟨e, he, (), shown, build_draft.mpr ⟨rfl, valid⟩⟩

theorem setLabel_ok :
    b.setLabel label = .ok c ↔ ∃ l, label = some l ∧ l ≠ "" ∧
      c = { b with label := l, unknownCode := none } ∧ c.Valid := by
  simp only [setLabel, bind_ok, presentText_ok, toDraft_eq]
  constructor
  · rintro ⟨l, ⟨hl, ne⟩, h⟩
    exact ⟨l, hl, ne, (build_draft (b := { b with label := l, unknownCode := none })).mp h⟩
  · rintro ⟨l, hl, ne, rfl, valid⟩
    exact ⟨l, ⟨hl, ne⟩, build_draft.mpr ⟨rfl, valid⟩⟩

theorem setLabelAndEmoji_ok :
    b.setLabelAndEmoji label content = .ok c ↔ ∃ l e, label = some l ∧ content.toEmoji = .ok e ∧
      c = { b with label := l, emoji := e, unknownCode := none } ∧ c.Valid := by
  simp only [setLabelAndEmoji, bind_ok, present_ok, toDraft_eq]
  constructor
  · rintro ⟨l, hl, e, he, h⟩
    exact ⟨l, e, hl, he,
      (build_draft (b := { b with label := l, emoji := e, unknownCode := none })).mp h⟩
  · rintro ⟨l, e, hl, he, rfl, valid⟩
    exact ⟨l, hl, e, he, build_draft.mpr ⟨rfl, valid⟩⟩

theorem setId_ok :
    b.setId id = .ok c ↔ ∃ s, id = some s ∧
      c = { b with identity := .customId s, unknownCode := none } ∧ c.Valid := by
  rw [setId, Draft.build_ok]
  constructor
  · rintro ⟨h, valid⟩
    obtain ⟨i, l, s, e, f, q⟩ := c
    cases i <;> cases h
    exact ⟨_, rfl, rfl, valid⟩
  · rintro ⟨s, rfl, rfl, valid⟩
    exact ⟨rfl, valid⟩

theorem setUrl_ok :
    b.setUrl address = .ok c ↔ ∃ s, address = some s ∧
      c = { b with identity := .url s, style := .link, unknownCode := none } ∧ c.Valid := by
  rw [setUrl, Draft.build_ok]
  constructor
  · rintro ⟨h, valid⟩
    obtain ⟨i, l, s, e, f, q⟩ := c
    cases i <;> cases h
    exact ⟨_, rfl, rfl, valid⟩
  · rintro ⟨s, rfl, rfl, valid⟩
    exact ⟨rfl, valid⟩

theorem setStyle_known (h : s ≠ .unknown) :
    b.setStyle (.given s) = (do
      require (!b.isLink || s == .link) "Style" .staysLink
      require (b.isLink || !(s == .link)) "Style" .neverLink
      (draft { b with style := s, unknownCode := none }).build) := by
  cases s with
  | unknown => exact absurd rfl h
  | _ => simp only [setStyle, toDraft_eq]; rfl

theorem stays_never_iff {s : Style} :
    ((!b.isLink || s == .link) = true ∧ (b.isLink || !(s == .link)) = true) ↔
      (b.style = .link ↔ s = .link) := by
  by_cases hb : b.style = .link <;> by_cases hs : s = .link <;> simp [isLink, hb, hs]

theorem setStyle_ok :
    b.setStyle style = .ok c ↔ ∃ s, style = .given s ∧ s ≠ .unknown ∧
      (b.style = .link ↔ s = .link) ∧ c = { b with style := s, unknownCode := none } ∧ c.Valid := by
  cases style with
  | missing => exact ⟨fun h => (nomatch h), fun ⟨_, h, _⟩ => (nomatch h)⟩
  | foreign v =>
    simp only [setStyle, bind_ok, Draft.build_ok]
    constructor
    · rintro ⟨_, _, _, _, h, _⟩
      have style : Argument.foreign v = .given c.style := congrArg Draft.style h
      cases style
    · rintro ⟨_, h, _⟩
      cases h
  | given s =>
    by_cases unknown : s = .unknown
    · subst unknown
      refine ⟨fun h => (nomatch h), ?_⟩
      rintro ⟨_, h, ne, _⟩
      cases h
      exact absurd rfl ne
    · simp only [setStyle_known unknown, bind_ok, require_ok, build_draft]
      constructor
      · rintro ⟨_, stays, _, never, h⟩
        exact ⟨s, rfl, unknown, stays_never_iff.mp ⟨stays, never⟩, h⟩
      · rintro ⟨_, h, _, same, rest⟩
        cases h
        obtain ⟨stays, never⟩ := stays_never_iff.mpr same
        exact ⟨(), stays, (), never, rest⟩

end

-- ---------------------------------------------------------------------------
-- Buttons that the program makes
-- ---------------------------------------------------------------------------

/-- A valid button that carries no code, so its style is known. -/
structure Settled (b : Button) : Prop where
  valid : b.Valid
  noCode : b.unknownCode = none

theorem Settled.known (h : Settled b) : b.style ≠ .unknown :=
  fun unknown => h.valid.code unknown h.noCode

section
variable {b c : Button} {style : Argument Style} {id address label : Option String}
  {content : Content}

theorem Draft.build_settled {d : Draft} (h : d.build = .ok b) (noCode : d.unknownCode = none) :
    b.Settled := by
  obtain ⟨rfl, valid⟩ := build_ok.mp h
  exact ⟨valid, noCode⟩

theorem styled_settled (h : styled style id content = .ok b) : b.Settled := by
  cases content with
  | none => simp [styled, bind_ok] at h
  | text s => exact Draft.build_settled h rfl
  | emoji e =>
    simp only [styled, bind_ok] at h
    obtain ⟨_, _, h⟩ := h
    exact Draft.build_settled h rfl

theorem link_settled (h : link address content = .ok b) : b.Settled := by
  cases content with
  | none => simp [link, bind_ok] at h
  | text s => exact Draft.build_settled h rfl
  | emoji e =>
    simp only [link, bind_ok] at h
    obtain ⟨_, _, h⟩ := h
    exact Draft.build_settled h rfl

theorem ofStyle_settled (h : ofStyle style id content = .ok b) : b.Settled := by
  unfold ofStyle at h
  split at h
  · exact link_settled h
  · exact styled_settled h

theorem Settled.setDisabled (h : b.Settled) (disabled : Bool) :
    b.setDisabled disabled = .ok { b with disabled } := by
  -- No constraint looks at whether the button is disabled.
  obtain ⟨⟨code, identity, shown, idLe, labelLe, pairing⟩, noCode⟩ := h
  refine setDisabled_ok.mpr ⟨?_, code, identity, shown, idLe, labelLe, pairing⟩
  rw [← noCode]

/-- A button of an unknown style has no draft: the code that excuses the style is left behind. -/
theorem setDisabled_unknown (unknown : b.style = .unknown) (disabled : Bool) :
    b.setDisabled disabled = .error (.refused "Style" .unknownStyle) := by
  have refused : Draft.checkStyle { b.toDraft with disabled } =
      .error (.refused "Style" .unknownStyle) := by
    simp [Draft.checkStyle, toDraft, unknown, require, bind, Except.bind]
  rw [setDisabled, Draft.build, refused]
  rfl

theorem derive_settled {d : Derivation} (h : b.derive d = .ok c) : c.Settled := by
  cases d with
  | disable =>
    obtain ⟨rfl, valid⟩ := setDisabled_ok.mp h
    exact ⟨valid, rfl⟩
  | enable =>
    obtain ⟨rfl, valid⟩ := setDisabled_ok.mp h
    exact ⟨valid, rfl⟩
  | setDisabled f =>
    obtain ⟨rfl, valid⟩ := setDisabled_ok.mp h
    exact ⟨valid, rfl⟩
  | setEmoji content =>
    obtain ⟨_, _, rfl, valid⟩ := setEmoji_ok.mp h
    exact ⟨valid, rfl⟩
  | setLabel label =>
    obtain ⟨_, _, _, rfl, valid⟩ := setLabel_ok.mp h
    exact ⟨valid, rfl⟩
  | setLabelAndEmoji label content =>
    obtain ⟨_, _, _, _, rfl, valid⟩ := setLabelAndEmoji_ok.mp h
    exact ⟨valid, rfl⟩
  | setId id =>
    obtain ⟨_, _, rfl, valid⟩ := setId_ok.mp h
    exact ⟨valid, rfl⟩
  | setUrl address =>
    obtain ⟨_, _, rfl, valid⟩ := setUrl_ok.mp h
    exact ⟨valid, rfl⟩
  | setStyle style =>
    obtain ⟨_, _, _, _, rfl, valid⟩ := setStyle_ok.mp h
    exact ⟨valid, rfl⟩

theorem make_settled (h : make style id label content = .ok b) : b.Settled := by
  unfold make at h
  split at h
  · simp only [bind_ok, throw_ok, false_and, exists_false] at h
  · simp only [bind_ok, throw_ok, false_and, exists_false] at h
  · simp only [bind_ok] at h
    obtain ⟨e, _, h⟩ := h
    split at h
    · obtain ⟨d, _, h⟩ := bind_ok.mp h
      exact derive_settled (d := .setEmoji _) h
    · split at h
      · exact ofStyle_settled h
      · exact absurd h throw_ok.mp

end

end Button

end BotPayload
