import BotPayload.Proofs.Button.Writes

/-!
# The factories and the constructor

Whatever a factory makes, the constructor makes of the same parts, and it fails for the same reason.
The factory for a style that is chosen while the program runs takes two steps where there are a
label and an emoji; `construct_emoji` says that the second one cannot fail, `make_eq` that both
together are one call of the constructor.
-/

namespace BotPayload.Button

def identityFor (s : Style) (idOrUrl : Option String) : IdentityDraft :=
  match s with
  | .link => .url idOrUrl
  | _ => .customId idOrUrl

def construct (s : Style) (idOrUrl : Option String) (label : String) (emoji : Option Emoji) :
    Except Error Button :=
  Draft.build { identity := identityFor s idOrUrl, label := some label, style := .given s, emoji }

variable {s : Style} {idOrUrl label : Option String} {content : Content} {l : String}
  {emoji : Option Emoji} {b : Button}

-- ---------------------------------------------------------------------------
-- One step
-- ---------------------------------------------------------------------------

theorem ofStyle_text_eq (s : Style) (idOrUrl : Option String) (l : String) :
    ofStyle (.given s) idOrUrl (.text l) = construct s idOrUrl l none := by
  cases s <;> rfl

/-- The identity is tested before the constructor is called, which tests it again in the same
way. -/
theorem Draft.build_presentText {d : Draft} {wrap : Option String → IdentityDraft}
    {identify : String → Identity} (styled : d.checkStyle = .ok s)
    (checked : ∀ t, checkIdentity { d with identity := wrap t } =
      do return identify (← presentText t field)) (t : Option String) :
    (do let id ← presentText t field; build { d with identity := wrap (some id) }) =
      build { d with identity := wrap t } := by
  cases given : presentText t field with
  | error e =>
    have passed : checkStyle { d with identity := wrap t } = .ok s := styled
    rw [build, passed, checked, given]
    rfl
  | ok id =>
    obtain ⟨rfl, -⟩ := presentText_ok.mp given
    rfl

theorem ofStyle_emoji_eq (known : s ≠ .unknown) (idOrUrl : Option String) (e : Emoji) :
    ofStyle (.given s) idOrUrl (.emoji e) = construct s idOrUrl "" (some e) := by
  have styled : Draft.checkStyle
      { identity := identityFor s idOrUrl, label := some "", style := .given s, emoji := some e } =
      .ok s := Draft.checkStyle_ok.mpr ⟨rfl, fun unknown => absurd unknown known⟩
  cases s with
  | link => exact Draft.build_presentText styled (fun _ => rfl) idOrUrl
  | _ => exact Draft.build_presentText styled (fun _ => rfl) idOrUrl

-- ---------------------------------------------------------------------------
-- Two steps
-- ---------------------------------------------------------------------------

theorem construct_emoji (emoji : Option Emoji) (ne : l ≠ "") : construct s idOrUrl l emoji =
    (fun b => { b with emoji }) <$> construct s idOrUrl l none := by
  have labelled (shown : Option Emoji) : Draft.checkLabel
      { identity := identityFor s idOrUrl, label := some l, style := .given s, emoji := shown } =
      .ok l := Draft.checkLabel_ok.mpr ⟨rfl, .inl ne⟩
  simp only [construct, Draft.build, labelled, map_bind, map_pure]
  rfl

theorem setEmoji_constructed {shown : Content} (built : construct s idOrUrl l none = .ok b)
    (ne : l ≠ "") (read : shown.toEmoji = .ok emoji) : b.setEmoji shown = .ok { b with emoji } := by
  obtain ⟨given, valid⟩ := Draft.build_ok.mp built
  have noCode : b.unknownCode = none := congrArg Draft.unknownCode given.symm
  have labelled : b.label = l := (Option.some.inj (congrArg Draft.label given)).symm
  have kept : { b with emoji } = { b with emoji, unknownCode := none } := by rw [← noCode]
  exact setEmoji_ok.mpr ⟨emoji, read, kept, { valid with shown := .inl (labelled ▸ ne) }⟩

def shownAs : Option Emoji → Content
  | some e => .emoji e
  | none => .none

theorem toEmoji_shownAs (emoji : Option Emoji) : (shownAs emoji).toEmoji = .ok emoji := by
  cases emoji <;> rfl

theorem make_known (known : s ≠ .unknown) : make (.given s) idOrUrl label content = (do
    let emoji ← content.toEmoji
    if label.getD "" ≠ "" then
      (← ofStyle (.given s) idOrUrl (.text (label.getD ""))).setEmoji (shownAs emoji)
    else if emoji.isSome then ofStyle (.given s) idOrUrl (shownAs emoji)
    else throw (.refused "Label/Emoji" .nothingShown)) := by
  cases s with
  | unknown => exact absurd rfl known
  | _ => rfl

theorem make_eq (known : s ≠ .unknown) (idOrUrl label : Option String) (content : Content) :
    make (.given s) idOrUrl label content = (do
      let emoji ← content.toEmoji
      require (label.getD "" ≠ "" || emoji.isSome) "Label/Emoji" .nothingShown
      construct s idOrUrl (label.getD "") emoji) := by
  rw [make_known known]
  refine bind_congr fun emoji => ?_
  -- Only a label takes two steps: the button without the emoji first, then the emoji.
  by_cases empty : label.getD "" = ""
  · rw [if_neg (not_not_intro empty), empty]
    cases emoji with
    | none => rfl
    | some e => exact ofStyle_emoji_eq known idOrUrl e
  · have labelled : require (label.getD "" ≠ "" || emoji.isSome) "Label/Emoji" .nothingShown =
        .ok () := require_ok.mpr (by simp [empty])
    rw [if_pos empty, ofStyle_text_eq, labelled, construct_emoji emoji empty]
    cases built : construct s idOrUrl (label.getD "") none with
    | error e => rfl
    | ok b => exact setEmoji_constructed built empty (toEmoji_shownAs emoji)

theorem ofStyle_styled (h : s ≠ .link) (idOrUrl : Option String) (content : Content) :
    ofStyle (.given s) idOrUrl content = styled (.given s) idOrUrl content := by
  cases s with
  | link => exact absurd rfl h
  | _ => rfl

/-- What the factory for any style makes is what the constructor makes of the same parts, with a
text for the emoji read first and a label that is missing taken as empty. The factories of the
single styles agree with the constructor as well. -/
theorem make_constructed (known : s ≠ .unknown) (idOrUrl : Option String) :
    (∀ label, make (.given s) idOrUrl label (.text "") = .error (.refused "Emoji" .empty)) ∧
    (∀ label content, content ≠ .text "" →
      (∀ l, label = some l → l ≠ "" →
        make (.given s) idOrUrl label content = construct s idOrUrl l content.emoji?) ∧
      (label = none ∨ label = some "" →
        make (.given s) idOrUrl label content =
          if content = .none then .error (.refused "Label/Emoji" .nothingShown)
          else construct s idOrUrl "" content.emoji?)) ∧
    (s ≠ .link →
      (∀ l, styled (.given s) idOrUrl (.text l) = construct s idOrUrl l none) ∧
      ∀ e, styled (.given s) idOrUrl (.emoji e) = construct s idOrUrl "" (some e)) ∧
    (∀ l, link idOrUrl (.text l) = construct .link idOrUrl l none) ∧
    ∀ e, link idOrUrl (.emoji e) = construct .link idOrUrl "" (some e) := by
  refine ⟨?_, ?_, fun noLink => ?_, fun _ => rfl, ofStyle_emoji_eq (s := .link) nofun idOrUrl⟩
  · intro label
    rw [make_eq known]
    rfl
  · intro label content ne
    have read : content.toEmoji = .ok content.emoji? := Content.toEmoji_ok.mpr ⟨ne, rfl⟩
    rw [make_eq known, read]
    constructor
    · rintro l rfl labelled
      have shown : require (l ≠ "" || content.emoji?.isSome) "Label/Emoji" .nothingShown =
          .ok () := require_ok.mpr (by simp [labelled])
      change (do
        require (l ≠ "" || content.emoji?.isSome) "Label/Emoji" .nothingShown
        construct s idOrUrl l content.emoji?) = _
      rw [shown]
      rfl
    · intro absent
      have empty : label.getD "" = "" := by rcases absent with rfl | rfl <;> rfl
      rw [empty]
      cases content <;> rfl
  · simp only [← ofStyle_styled noLink]
    exact ⟨ofStyle_text_eq s idOrUrl, ofStyle_emoji_eq known idOrUrl⟩

/-- A label and the text of a custom emoji, which make one button; and an emoji under an id that is
too long, which both paths refuse for the id. -/
theorem make_constructed_custom :
    ∃ (icon : Emoji) (long : String), icon = ⟨"smile", some (.number 1234567890123), false⟩ ∧
      long = String.ofList (List.replicate 101 'i') ∧
      make (.given .danger) (some "go") (some "Go") (.text "<:smile:1234567890123>") =
        .ok ⟨.customId "go", "Go", .danger, some icon, false, none⟩ ∧
      make (.given .success) (some long) none (.emoji icon) =
        .error (.refused "Id" (.tooLong 100 101)) ∧
      styled (.given .success) (some long) (.emoji icon) =
        .error (.refused "Id" (.tooLong 100 101)) := by
  obtain ⟨-, labelled, -⟩ := make_constructed (s := .danger) nofun (some "go")
  obtain ⟨-, unlabelled, factory, -⟩ :=
    make_constructed (s := .success) nofun (some (String.ofList (List.replicate 101 'i')))
  exact ⟨_, _, rfl, rfl,
    ((labelled _ (.text "<:smile:1234567890123>") nofun).1 "Go" rfl (by decide)).trans rfl,
    ((unlabelled none (.emoji ⟨"smile", some (.number 1234567890123), false⟩) nofun).2
      (.inl rfl)).trans rfl,
    ((factory nofun).2 _).trans rfl⟩

end BotPayload.Button
