import BotPayload.Proofs.Button.Blame
import BotPayload.Proofs.Button.Holdings
import BotPayload.Proofs.Button.Writes

/-!
# What each derivation does, and what it is refused for

`Replaces` has one rule for each way in which a derivation of a button of a known style succeeds.
A derivation that no rule covers is refused, and the error names one of the fields that the caller
asked to replace: the parts that are kept pass all tests again (`derive_exact`). On a button of an
unknown style the two tests of a style are at odds: one goes by the style that the button has, the
other one by its identity (`setStyle_decoded`).
-/

namespace BotPayload

namespace Button

/-- `Replaces b d c`: the derivation `d` of `b` succeeds with `c`, which is `b` but for the parts
that `d` is there to replace. -/
inductive Replaces (b : Button) : Derivation → Button → Prop
  | disable : Replaces b .disable { b with disabled := true }
  | enable : Replaces b .enable { b with disabled := false }
  | setDisabled : Replaces b (.setDisabled f) { b with disabled := f }
  | emoji : Replaces b (.setEmoji (.emoji e)) { b with emoji := some e }
  | emojiText : s ≠ "" →
      Replaces b (.setEmoji (.text s)) { b with emoji := some (Emoji.ofText s) }
  | noEmoji : b.label ≠ "" → Replaces b (.setEmoji .none) { b with emoji := none }
  | label {l : String} : l ≠ "" → l.length ≤ 80 →
      Replaces b (.setLabel (some l)) { b with label := l }
  | labelAndEmoji {l : String} : content ≠ .text "" → l.length ≤ 80 → (l ≠ "" ∨ content ≠ .none) →
      Replaces b (.setLabelAndEmoji (some l) content)
        { b with label := l, emoji := content.emoji? }
  | id {s : String} : b.style ≠ .link → 1 ≤ s.length → s.length ≤ 100 →
      Replaces b (.setId (some s)) { b with identity := .customId s }
  | url {s : String} : 1 ≤ s.length → s.length ≤ 512 →
      Replaces b (.setUrl (some s)) { b with identity := .url s, style := .link }
  | style : s ≠ .unknown → (s = .link ↔ b.style = .link) →
      Replaces b (.setStyle (.given s)) { b with style := s }

/-- The names, in errors, of what a derivation replaces. What is set or cleared as a flag is never
refused. -/
def Derivation.fields : Derivation → List String
  | .disable => []
  | .enable => []
  | .setDisabled _ => []
  | .setEmoji _ => ["Emoji"]
  | .setLabel _ => ["Label"]
  | .setLabelAndEmoji _ _ => ["Label", "Emoji"]
  | .setId _ => ["Id"]
  | .setUrl _ => ["URL"]
  | .setStyle _ => ["Style"]

end Button

theorem Content.emoji?_eq_none {content : Content} :
    content.emoji? = Option.none ↔ content = .none := by
  cases content <;> simp [emoji?]

theorem Identity.length_pos (i : Identity) : i.value ≠ "" ↔ 1 ≤ i.value.length := by
  rw [Nat.one_le_iff_ne_zero, Ne, Ne, String.length_eq_zero_iff]

namespace Button

variable {b c : Button} {d : Derivation} {e : Error}

-- ---------------------------------------------------------------------------
-- Success
-- ---------------------------------------------------------------------------

theorem Replaces.fits (h : Replaces b d c) : d.Fits b := by
  cases h with
  | disable => trivial
  | enable => trivial
  | setDisabled => trivial
  | emoji => exact ⟨nofun, nofun⟩
  | emojiText ne => exact ⟨by simpa using ne, nofun⟩
  | noEmoji labelled => exact ⟨nofun, fun _ => labelled⟩
  | label ne short => exact ⟨_, rfl, ne, short⟩
  | labelAndEmoji ne short shown =>
    refine ⟨ne, _, rfl, short, fun cleared => ?_⟩
    exact shown.resolve_right (not_not_intro (Content.emoji?_eq_none.mp cleared))
  | @id s noLink pos short =>
    exact ⟨noLink, s, rfl, (Identity.customId s).length_pos.mpr pos, short⟩
  | @url s pos short => exact ⟨s, rfl, (Identity.url s).length_pos.mpr pos, short⟩
  | style known same => exact ⟨_, rfl, known, same.symm⟩

theorem Replaces.eq_after (noCode : b.unknownCode = none) (h : Replaces b d c) :
    c = b.after d := by
  obtain ⟨identity, label, style, emoji, disabled, code⟩ := b
  obtain rfl : code = none := noCode
  cases h <;> rfl

theorem Derivation.Fits.replaces (noCode : b.unknownCode = none) (h : d.Fits b) :
    Replaces b d (b.after d) := by
  obtain ⟨identity, label, style, emoji, disabled, code⟩ := b
  obtain rfl : code = none := noCode
  cases d with
  | disable => exact .disable
  | enable => exact .enable
  | setDisabled f => exact .setDisabled
  | setEmoji content =>
    cases content with
    | none => exact .noEmoji (h.2 rfl)
    | text s => exact .emojiText fun empty => h.1 (empty ▸ rfl)
    | emoji e => exact .emoji
  | setLabel l =>
    obtain ⟨l, rfl, ne, short⟩ := h
    exact .label ne short
  | setLabelAndEmoji l content =>
    obtain ⟨ne, l, rfl, short, needed⟩ := h
    refine .labelAndEmoji ne short ?_
    by_cases shown : content = .none
    · exact .inl (needed (Content.emoji?_eq_none.mpr shown))
    · exact .inr shown
  | setId id =>
    obtain ⟨noLink, id, rfl, ne, short⟩ := h
    exact .id noLink ((Identity.customId id).length_pos.mp ne) short
  | setUrl address =>
    obtain ⟨address, rfl, ne, short⟩ := h
    exact .url ((Identity.url address).length_pos.mp ne) short
  | setStyle s =>
    obtain ⟨s, rfl, known, same⟩ := h
    exact .style known same.symm

theorem Settled.derive_replaces (h : b.Settled) : b.derive d = .ok c ↔ Replaces b d c := by
  rw [h.derive_ok]
  constructor
  · rintro ⟨fits, rfl⟩
    exact fits.replaces h.noCode
  · exact fun replaces => ⟨replaces.fits, replaces.eq_after h.noCode⟩

-- ---------------------------------------------------------------------------
-- Failure
-- ---------------------------------------------------------------------------

section
variable {content : Content} {label id address : Option String} {style : Argument Style}

theorem setEmoji_refused (settled : b.Settled) (h : b.setEmoji content = .error e) :
    ∃ reason, e = .refused "Emoji" reason := by
  obtain unread | ⟨emoji, -, h⟩ := bind_error.mp h
  · exact ⟨_, (Content.toEmoji_refused.mp unread).2⟩
  obtain cleared | ⟨_, shown, h⟩ := bind_error.mp h
  · exact ⟨_, (require_refused.mp cleared).2⟩
  -- Nothing is left to refuse: the label is shown where the emoji is not.
  have shown : b.label ≠ "" ∨ emoji ≠ none := by
    simpa [Option.isSome_iff_ne_none, or_comm] using require_ok.mp shown
  have identity : IdentityFits { b with emoji, unknownCode := none } :=
    { settled.valid.identityFits settled.known with }
  rw [toDraft_eq] at h
  exact absurd ⟨shown, settled.valid.label_le⟩ (identity.build_refused settled.known h).1

theorem setLabel_refused (settled : b.Settled) (h : b.setLabel label = .error e) :
    ∃ reason, e = .refused "Label" reason := by
  obtain absent | ⟨l, -, h⟩ := bind_error.mp h
  · exact presentText_refused absent
  have identity : IdentityFits { b with label := l, unknownCode := none } :=
    { settled.valid.identityFits settled.known with }
  rw [toDraft_eq] at h
  exact (identity.build_refused settled.known h).2

theorem setLabelAndEmoji_refused (settled : b.Settled)
    (h : b.setLabelAndEmoji label content = .error e) :
    ∃ reason, e = .refused "Label" reason ∨ e = .refused "Emoji" reason := by
  obtain absent | ⟨l, -, h⟩ := bind_error.mp h
  · exact ⟨_, .inl (present_refused.mp absent).2⟩
  obtain unread | ⟨emoji, -, h⟩ := bind_error.mp h
  · exact ⟨_, .inr (Content.toEmoji_refused.mp unread).2⟩
  have identity : IdentityFits { b with label := l, emoji, unknownCode := none } :=
    { settled.valid.identityFits settled.known with }
  rw [toDraft_eq] at h
  obtain ⟨-, reason, refused⟩ := identity.build_refused settled.known h
  exact ⟨reason, .inl refused⟩

theorem setId_refused (settled : b.Settled) (h : b.setId id = .error e) :
    ∃ reason, e = .refused "Id" reason := by
  cases id with
  | none =>
    have styled : Draft.checkStyle { b.toDraft with identity := .customId none } = .ok b.style :=
      Draft.checkStyle_ok.mpr ⟨rfl, fun unknown => absurd unknown settled.known⟩
    rw [setId, Draft.build, styled] at h
    exact ⟨_, (Except.error.inj h).symm⟩
  | some s =>
    have label : LabelFits { b with identity := .customId s, unknownCode := none } :=
      { settled.valid.labelFits with }
    rw [setId, toDraft_eq] at h
    exact (label.build_refused settled.known h).2

theorem setUrl_refused (settled : b.Settled) (h : b.setUrl address = .error e) :
    ∃ reason, e = .refused "URL" reason := by
  cases address with
  | none => exact ⟨_, (Except.error.inj h).symm⟩
  | some s =>
    have label : LabelFits { b with identity := .url s, style := .link, unknownCode := none } :=
      { settled.valid.labelFits with }
    rw [setUrl, toDraft_eq] at h
    have known : Style.link ≠ .unknown := by decide
    exact (label.build_refused known h).2

theorem setStyle_refused (settled : b.Settled) (h : b.setStyle style = .error e) :
    ∃ reason, e = .refused "Style" reason := by
  cases style with
  | missing => exact ⟨_, (Except.error.inj h).symm⟩
  | foreign v =>
    obtain stays | ⟨_, -, h⟩ := bind_error.mp h
    · exact ⟨_, (require_refused.mp stays).2⟩
    obtain never | ⟨_, -, h⟩ := bind_error.mp h
    · exact ⟨_, (require_refused.mp never).2⟩
    exact ⟨_, (Except.error.inj h).symm⟩
  | given s =>
    by_cases unknown : s = .unknown
    · subst unknown
      exact ⟨_, (Except.error.inj h).symm⟩
    rw [setStyle_known unknown] at h
    obtain stays | ⟨_, stays, h⟩ := bind_error.mp h
    · exact ⟨_, (require_refused.mp stays).2⟩
    obtain never | ⟨_, never, h⟩ := bind_error.mp h
    · exact ⟨_, (require_refused.mp never).2⟩
    -- The two tests keep the pairing of style and identity, so nothing is left to refuse.
    have same : b.style = .link ↔ s = .link :=
      stays_never_iff.mp ⟨require_ok.mp stays, require_ok.mp never⟩
    have identity := settled.valid.identityFits settled.known
    have label : LabelFits { b with style := s, unknownCode := none } :=
      { settled.valid.labelFits with }
    exact absurd ⟨identity.ne, identity.le, same.symm.trans identity.pairing⟩
      (label.build_refused unknown h).1

end

theorem Settled.derive_refused (settled : b.Settled) (h : b.derive d = .error e) :
    ∃ field ∈ d.fields, ∃ reason, e = .refused field reason := by
  cases d with
  | disable => nomatch h.symm.trans ((settled.derive_ok (d := .disable)).mpr ⟨trivial, rfl⟩)
  | enable => nomatch h.symm.trans ((settled.derive_ok (d := .enable)).mpr ⟨trivial, rfl⟩)
  | setDisabled f =>
    nomatch h.symm.trans ((settled.derive_ok (d := .setDisabled f)).mpr ⟨trivial, rfl⟩)
  | setEmoji content => exact ⟨"Emoji", List.mem_singleton_self _, setEmoji_refused settled h⟩
  | setLabel label => exact ⟨"Label", List.mem_singleton_self _, setLabel_refused settled h⟩
  | setLabelAndEmoji label content =>
    obtain ⟨reason, refused | refused⟩ := setLabelAndEmoji_refused settled h
    · exact ⟨"Label", by simp [Derivation.fields], reason, refused⟩
    · exact ⟨"Emoji", by simp [Derivation.fields], reason, refused⟩
  | setId id => exact ⟨"Id", List.mem_singleton_self _, setId_refused settled h⟩
  | setUrl address => exact ⟨"URL", List.mem_singleton_self _, setUrl_refused settled h⟩
  | setStyle style => exact ⟨"Style", List.mem_singleton_self _, setStyle_refused settled h⟩

/-- What a derivation asks is asked of the values that it is given, and no part that it keeps is
ever in the way. -/
theorem derive_exact (reachable : b.Reachable) (known : b.style ≠ .unknown) (d : Derivation) :
    (∀ c, b.derive d = .ok c ↔ Replaces b d c) ∧
    ∀ e, b.derive d = .error e → ∃ field ∈ d.fields, ∃ reason, e = .refused field reason :=
  have settled := reachable.settled known
  ⟨fun _ => settled.derive_replaces, fun _ => settled.derive_refused⟩

/-- A button that shows an icon only becomes a link and keeps the icon, which cannot be cleared;
the label that would have to be there is not what is blamed. -/
theorem derive_exact_icon :
    ∃ (b c : Button) (icon : Emoji), icon = ⟨"yes", none, false⟩ ∧
      b = ⟨.customId "ok", "", .primary, some icon, true, none⟩ ∧ b.Reachable ∧
      b.style ≠ .unknown ∧
      b.derive (.setUrl (some "https://e.org")) = .ok c ∧
      c = { b with identity := .url "https://e.org", style := .link } ∧
      ∃ e, b.derive (.setEmoji .none) = .error e ∧ ∃ reason, e = .refused "Emoji" reason := by
  have reachable :
      Reachable ⟨.customId "ok", "", .primary, some ⟨"yes", none, false⟩, true, none⟩ :=
    .create (o := .construct (.customId (some "ok")) (some "") (.given .primary)
      (some ⟨"yes", none, false⟩) true) rfl
  have known : Style.primary ≠ .unknown := nofun
  obtain ⟨succeeds, -⟩ := derive_exact reachable known (.setUrl (some "https://e.org"))
  obtain ⟨-, fails⟩ := derive_exact reachable known (.setEmoji .none)
  obtain ⟨field, mem, refused⟩ := fails _ rfl
  obtain rfl := List.mem_singleton.mp mem
  exact ⟨_, _, _, rfl, rfl, reachable, known, (succeeds _).mpr (.url (by decide) (by decide)), rfl,
    _, rfl, refused⟩

-- ---------------------------------------------------------------------------
-- Unknown styles
-- ---------------------------------------------------------------------------

/-- Of all tests, only the pairing with the identity depends on the style. -/
theorem Valid.build_restyled (valid : b.Valid) (known : s ≠ .unknown) :
    (draft { b with style := s, unknownCode := none }).build = (do
      Draft.checkPairing s b.identity
      return { b with style := s, unknownCode := none }) := by
  have identified : require (b.identity.value ≠ "") b.identity.field .empty = .ok () :=
    require_ok.mpr (decide_eq_true valid.identity_ne)
  have shown : require (b.label ≠ "" || b.emoji.isSome) "Label" .labelNeeded = .ok () :=
    require_ok.mpr (by simpa [Option.isSome_iff_ne_none] using valid.shown)
  have short : withinLength b.identity.value b.identity.limit b.identity.field = .ok () :=
    withinLength_ok.mpr valid.identity_le
  have labelShort : withinLength b.label maxLabelLength "Label" = .ok () :=
    withinLength_ok.mpr valid.label_le
  simp only [build_draft_eq (b := { b with style := s, unknownCode := none }) known, identified,
    shown, short, labelShort]
  rfl

/-- A style that is not known is no link, even where the button has a url. So such a button takes
no style at all: it may not become a link, and a url goes with nothing else. -/
theorem setStyle_decoded {payload : Value} (read : (decode payload).result = .ok b)
    (unknown : b.style = .unknown) (known : s ≠ .unknown) :
    b.setStyle (.given s) =
      if s = .link then .error (.refused "Style" .neverLink)
      else if b.identity.isUrl then .error (.refused "URL" (.needsCustomId s.name))
      else .ok { b with style := s, unknownCode := none } := by
  obtain ⟨-, valid⟩ := decode_ok.mp read
  have noLink : b.isLink = false := by simp [isLink, unknown]
  rw [setStyle_known known, valid.build_restyled known, noLink]
  cases s with
  | unknown => exact absurd rfl known
  | link => rfl
  | _ => cases b.identity <;> rfl

theorem setStyle_decoded_url :
    ∃ (payload : Value) (b : Button),
      payload = .object [("type", .int 2), ("style", .int 9), ("label", .str "New"),
        ("url", .str "https://e.org")] ∧
      (decode payload).result = .ok b ∧ b.style = .unknown ∧
      b.identity = .url "https://e.org" ∧
      b.setStyle (.given .link) = .error (.refused "Style" .neverLink) ∧
      b.setStyle (.given .primary) = .error (.refused "URL" (.needsCustomId "PRIMARY")) := by
  have read : (decode (.object [("type", .int 2), ("style", .int 9), ("label", .str "New"),
      ("url", .str "https://e.org")])).result =
      .ok ⟨.url "https://e.org", "New", .unknown, none, false, some (.int 9)⟩ := rfl
  exact ⟨_, _, rfl, read, rfl, rfl, setStyle_decoded read rfl nofun,
    setStyle_decoded read rfl nofun⟩

end Button

end BotPayload
