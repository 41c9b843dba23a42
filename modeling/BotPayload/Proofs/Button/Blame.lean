import BotPayload.Proofs.Button.Constraints

/-!
# What a refused button is blamed for

The tests of a button of a known style, in their order, are one equation (`build_draft_eq`). An
error names the part that breaks a constraint: the identity, which has to go with the style as
well, or the label. So no part is blamed for another one (`build_draft_refused`).
-/

namespace BotPayload

namespace Button

structure IdentityFits (b : Button) : Prop where
  ne : b.identity.value ≠ ""
  le : b.identity.value.length ≤ b.identity.limit
  pairing : b.style = .link ↔ b.identity.isUrl = true

structure LabelFits (b : Button) : Prop where
  shown : b.label ≠ "" ∨ b.emoji ≠ none
  le : b.label.length ≤ maxLabelLength

section
variable {b : Button} {s : Style} {i : Identity} {e : Error}

theorem Draft.checkPairing_refused (known : s ≠ .unknown) (h : checkPairing s i = .error e) :
    ∃ reason, e = .refused i.field reason ∧ ¬(s = .link ↔ i.isUrl = true) := by
  cases s with
  | unknown => exact absurd rfl known
  | link =>
    obtain ⟨noUrl, rfl⟩ := require_refused.mp h
    cases i with
    | customId id => exact ⟨_, rfl, by simp [Identity.isUrl]⟩
    | url address => nomatch noUrl
  | _ =>
    obtain ⟨isUrl, rfl⟩ := require_refused.mp h
    cases i with
    | customId id => nomatch isUrl
    | url address => exact ⟨_, rfl, by simp [Identity.isUrl]⟩

theorem build_draft_eq (known : b.style ≠ .unknown) : b.draft.build = (do
    require (b.identity.value ≠ "") b.identity.field .empty
    require (b.label ≠ "" || b.emoji.isSome) "Label" .labelNeeded
    withinLength b.identity.value b.identity.limit b.identity.field
    withinLength b.label maxLabelLength "Label"
    Draft.checkPairing b.style b.identity
    return b) := by
  obtain ⟨identity, label, style, emoji, disabled, code⟩ := b
  have styled : Draft.checkStyle (draft ⟨identity, label, style, emoji, disabled, code⟩) =
      .ok style := Draft.checkStyle_ok.mpr ⟨rfl, fun unknown => absurd unknown known⟩
  have given (text field : String) : presentText (some text) field = (do
      require (text ≠ "") field .empty
      return text) := rfl
  have labelled : Draft.checkLabel (draft ⟨identity, label, style, emoji, disabled, code⟩) = (do
      require (label ≠ "" || emoji.isSome) "Label" .labelNeeded
      return label) := rfl
  rw [Draft.build, styled, labelled]
  cases identity with
  | customId id =>
    simp only [Draft.checkIdentity, draft, Identity.draft, given, bind_assoc, pure_bind]
    rfl
  | url address =>
    simp only [Draft.checkIdentity, draft, Identity.draft, given, bind_assoc, pure_bind]
    rfl

theorem build_draft_refused (known : b.style ≠ .unknown) (h : b.draft.build = .error e) :
    ∃ reason, (e = .refused b.identity.field reason ∧ ¬b.IdentityFits) ∨
      (e = .refused "Label" reason ∧ ¬b.LabelFits) := by
  rw [build_draft_eq known] at h
  obtain h | ⟨_, -, h⟩ := bind_error.mp h
  · obtain ⟨empty, rfl⟩ := require_refused.mp h
    exact ⟨_, .inl ⟨rfl, fun fits => of_decide_eq_false empty fits.ne⟩⟩
  obtain h | ⟨_, -, h⟩ := bind_error.mp h
  · obtain ⟨blank, rfl⟩ := require_refused.mp h
    have blank : b.label = "" ∧ b.emoji = none := by simpa using blank
    exact ⟨_, .inr ⟨rfl, fun fits => fits.shown.elim (· blank.1) (· blank.2)⟩⟩
  obtain h | ⟨_, -, h⟩ := bind_error.mp h
  · obtain ⟨long, rfl⟩ := withinLength_refused.mp h
    exact ⟨_, .inl ⟨rfl, fun fits => Nat.not_lt.mpr fits.le long⟩⟩
  obtain h | ⟨_, -, h⟩ := bind_error.mp h
  · obtain ⟨long, rfl⟩ := withinLength_refused.mp h
    exact ⟨_, .inr ⟨rfl, fun fits => Nat.not_lt.mpr fits.le long⟩⟩
  obtain h | ⟨_, -, h⟩ := bind_error.mp h
  · obtain ⟨reason, rfl, mispaired⟩ := Draft.checkPairing_refused known h
    exact ⟨_, .inl ⟨rfl, fun fits => mispaired fits.pairing⟩⟩
  · nomatch h

end

section
variable {b : Button} {e : Error}

/-- With an identity that fits, only the label is left to blame. -/
theorem IdentityFits.build_refused (fits : b.IdentityFits) (known : b.style ≠ .unknown)
    (h : b.draft.build = .error e) : ¬b.LabelFits ∧ ∃ reason, e = .refused "Label" reason := by
  obtain ⟨reason, ⟨-, unfit⟩ | ⟨refused, unfit⟩⟩ := build_draft_refused known h
  · exact absurd fits unfit
  · exact ⟨unfit, reason, refused⟩

theorem LabelFits.build_refused (fits : b.LabelFits) (known : b.style ≠ .unknown)
    (h : b.draft.build = .error e) :
    ¬b.IdentityFits ∧ ∃ reason, e = .refused b.identity.field reason := by
  obtain ⟨reason, ⟨refused, unfit⟩ | ⟨-, unfit⟩⟩ := build_draft_refused known h
  · exact ⟨unfit, reason, refused⟩
  · exact absurd fits unfit

end

theorem Valid.identityFits {b : Button} (h : b.Valid) (known : b.style ≠ .unknown) :
    b.IdentityFits :=
  ⟨h.identity_ne, h.identity_le, h.pairing known⟩

theorem Valid.labelFits {b : Button} (h : b.Valid) : b.LabelFits := ⟨h.shown, h.label_le⟩

end Button

theorem Content.toEmoji_refused {content : Content} :
    content.toEmoji = .error e ↔ content = .text "" ∧ e = .refused "Emoji" .empty := by
  cases content with
  | none => simp [toEmoji]
  | emoji e' => simp [toEmoji]
  | text s =>
    simp only [toEmoji, bind_error, require_refused]
    constructor
    · rintro (⟨empty, rfl⟩ | ⟨_, -, h⟩)
      · exact ⟨by simpa using empty, rfl⟩
      · nomatch h
    · rintro ⟨⟨⟩, rfl⟩
      exact .inl ⟨rfl, rfl⟩

end BotPayload
