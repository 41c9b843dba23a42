import BotPayload.Proofs.Button.Factories

/-!
# The first violated constraint decides

A call may violate several constraints at once. `Draft.constraints` and `factoryConstraints` list
them in the order of precedence, for the constructor and for the factories; the error names the
field of the first one that is violated (`FailsAtFirst`). The lists of the tests that a call makes
are put together by `FailsAtFirst.bind`.
-/

namespace BotPayload

/-- The field that an error names, and whether the arguments of a call violate the constraint. -/
structure Constraint where
  field : String
  violated : Bool

/-- The call fails exactly if it violates a constraint, and then for the first one. -/
def FailsAtFirst (cs : List Constraint) (r : Except Error α) : Prop :=
  match cs.find? Constraint.violated with
  | some c => ∃ reason, r = .error (.refused c.field reason)
  | none => ∃ a, r = .ok a

section
variable {c : Constraint} {cs cs' : List Constraint} {r : Except Error α}

theorem failsAtFirst_singleton : FailsAtFirst [c] r ↔
    (c.violated = true → ∃ reason, r = .error (.refused c.field reason)) ∧
      (c.violated = false → ∃ a, r = .ok a) := by
  cases violated : c.violated <;> simp [FailsAtFirst, violated]

theorem failsAtFirst_congr
    (h : cs.filter Constraint.violated = cs'.filter Constraint.violated) :
    FailsAtFirst cs r ↔ FailsAtFirst cs' r := by
  rw [FailsAtFirst, FailsAtFirst, ← List.head?_filter, ← List.head?_filter, h]

/-- What comes after a test is reached only when the test is passed. -/
theorem FailsAtFirst.bind {f : α → Except Error β} (test : FailsAtFirst cs r)
    (rest : ∀ a, r = .ok a → FailsAtFirst cs' (f a)) : FailsAtFirst (cs ++ cs') (r >>= f) := by
  unfold FailsAtFirst at test ⊢
  rw [List.find?_append]
  cases first : cs.find? Constraint.violated with
  | some c =>
    simp only [first] at test
    obtain ⟨reason, rfl⟩ := test
    exact ⟨reason, rfl⟩
  | none =>
    simp only [first] at test
    obtain ⟨a, rfl⟩ := test
    exact rest a rfl

theorem failsAtFirst_pure (a : α) : FailsAtFirst [] (pure a : Except Error α) := ⟨a, rfl⟩

theorem failsAtFirst_require {condition violated : Bool} (h : violated = !condition) :
    FailsAtFirst [⟨field, violated⟩] (require condition field reason) := by
  refine failsAtFirst_singleton.mpr ?_
  cases condition <;> simp [require, h]

theorem failsAtFirst_withinLength (s : String) (limit : Nat) (field : String) :
    FailsAtFirst [⟨field, limit < s.length⟩] (withinLength s limit field) :=
  failsAtFirst_require (by rw [← decide_not, decide_eq_decide, Nat.not_le])

theorem failsAtFirst_presentText (s : Option String) (field : String) :
    FailsAtFirst [⟨field, s.getD "" = ""⟩] (presentText s field) := by
  cases s with
  | none => exact ⟨_, rfl⟩
  | some t => exact (failsAtFirst_require (by simp)).bind fun _ _ => failsAtFirst_pure t

end

namespace Button

namespace IdentityDraft

def isCustomId : IdentityDraft → Bool
  | .customId _ => true
  | _ => false

def isUrl : IdentityDraft → Bool
  | .url _ => true
  | _ => false

def text? : IdentityDraft → Option String
  | .customId id => id
  | .url address => address
  | .foreign _ => none

def field (i : IdentityDraft) : String := if i.isUrl then "URL" else "Id"

def limit (i : IdentityDraft) : Nat := if i.isUrl then 512 else 100

end IdentityDraft

def Draft.constraints (d : Draft) : List Constraint := [
  ⟨"Style", d.style.given? = none ∨ d.style.given? = some .unknown⟩,
  ⟨"Identity", !d.identity.isCustomId && !d.identity.isUrl⟩,
  ⟨d.identity.field, d.identity.text?.getD "" = ""⟩,
  ⟨"Label", match d.label with | some label => label = "" ∧ d.emoji = none | none => true⟩,
  ⟨d.identity.field, d.identity.limit < (d.identity.text?.getD "").length⟩,
  ⟨"Label", 80 < (d.label.getD "").length⟩,
  ⟨"Id", d.style.given? = some .link ∧ d.identity.isCustomId⟩,
  ⟨"URL", d.style.given? ≠ some .link ∧ d.identity.isUrl⟩]

def factoryConstraints (identity : IdentityDraft) (content : Content) : List Constraint := [
  ⟨identity.field, identity.text?.getD "" = ""⟩,
  ⟨"Emoji", content = .none⟩,
  ⟨"Label", match content with | .text label => label = "" | _ => false⟩,
  ⟨identity.field, identity.limit < (identity.text?.getD "").length⟩,
  ⟨"Label", match content with | .text label => 80 < label.length | _ => false⟩]

-- ---------------------------------------------------------------------------
-- The constructor
-- ---------------------------------------------------------------------------

namespace Draft

variable {d : Draft}

theorem checkStyle_first (noCode : d.unknownCode = none) :
    FailsAtFirst [⟨"Style", d.style.given? = none ∨ d.style.given? = some .unknown⟩]
      d.checkStyle := by
  unfold checkStyle
  cases d.style with
  | missing => exact ⟨_, rfl⟩
  | foreign v => exact ⟨_, rfl⟩
  | given s =>
    refine (failsAtFirst_require ?_).bind fun _ _ => failsAtFirst_pure s
    simp [Argument.given?, noCode]

theorem checkIdentity_first :
    FailsAtFirst [⟨"Identity", !d.identity.isCustomId && !d.identity.isUrl⟩,
      ⟨d.identity.field, d.identity.text?.getD "" = ""⟩] d.checkIdentity := by
  unfold checkIdentity
  cases d.identity with
  | foreign v => exact ⟨_, rfl⟩
  | customId id =>
    exact (failsAtFirst_presentText id "Id").bind fun _ _ => failsAtFirst_pure _
  | url address =>
    exact (failsAtFirst_presentText address "URL").bind fun _ _ => failsAtFirst_pure _

theorem checkLabel_first :
    FailsAtFirst
      [⟨"Label", match d.label with | some label => label = "" ∧ d.emoji = none | none => true⟩]
      d.checkLabel := by
  unfold checkLabel
  cases d.label with
  | none => exact ⟨_, rfl⟩
  | some l =>
    refine (failsAtFirst_require ?_).bind fun _ _ => failsAtFirst_pure l
    cases d.emoji <;> simp

theorem checkPairing_first {i : Identity} (known : s ≠ .unknown) :
    FailsAtFirst [⟨"Id", some s = some .link ∧ i.draft.isCustomId⟩,
      ⟨"URL", some s ≠ some .link ∧ i.draft.isUrl⟩] (checkPairing s i) := by
  cases s with
  | unknown => exact absurd rfl known
  | _ => cases i <;> exact ⟨_, rfl⟩

theorem build_first (noCode : d.unknownCode = none) : FailsAtFirst d.constraints d.build := by
  refine (checkStyle_first noCode).bind fun s styled => ?_
  refine checkIdentity_first.bind fun i identified => ?_
  refine checkLabel_first.bind fun l labelled => ?_
  obtain ⟨given, known⟩ := checkStyle_ok.mp styled
  obtain ⟨identity, -⟩ := checkIdentity_ok.mp identified
  obtain ⟨label, -⟩ := checkLabel_ok.mp labelled
  have known : s ≠ .unknown := fun unknown => known unknown noCode
  rw [given, identity, label]
  have long : FailsAtFirst [⟨i.draft.field, i.draft.limit < (i.draft.text?.getD "").length⟩]
      (withinLength i.value i.limit i.field) := by
    cases i <;> exact failsAtFirst_withinLength _ _ _
  refine long.bind fun _ _ => ?_
  refine (failsAtFirst_withinLength l maxLabelLength "Label").bind fun _ _ => ?_
  exact (checkPairing_first known).bind fun _ _ => failsAtFirst_pure _

end Draft

-- ---------------------------------------------------------------------------
-- The factories
-- ---------------------------------------------------------------------------

/-- The constructor passes the constraints that a factory leaves out, as the style is known and the
identity is of its kind. -/
theorem construct_first (known : s ≠ .unknown) (idOrUrl : Option String) (l : String)
    (emoji : Option Emoji) : FailsAtFirst [
      ⟨(identityFor s idOrUrl).field, idOrUrl.getD "" = ""⟩,
      ⟨"Label", l = "" ∧ emoji = none⟩,
      ⟨(identityFor s idOrUrl).field, (identityFor s idOrUrl).limit < (idOrUrl.getD "").length⟩,
      ⟨"Label", 80 < l.length⟩] (construct s idOrUrl l emoji) := by
  refine (failsAtFirst_congr ?_).mp (Draft.build_first rfl)
  cases s with
  | unknown => exact absurd rfl known
  | _ => rfl

theorem ofStyle_first (known : s ≠ .unknown) (idOrUrl : Option String) (content : Content) :
    FailsAtFirst (factoryConstraints (identityFor s idOrUrl) content)
      (ofStyle (.given s) idOrUrl content) := by
  have text : (identityFor s idOrUrl).text? = idOrUrl := by cases s <;> rfl
  cases content with
  | none =>
    cases s with
    | unknown => exact absurd rfl known
    | link => exact (failsAtFirst_presentText idOrUrl "URL").bind fun _ _ => ⟨_, rfl⟩
    | _ => exact (failsAtFirst_presentText idOrUrl "Id").bind fun _ _ => ⟨_, rfl⟩
  | text l =>
    have constructed := construct_first known idOrUrl l none
    simp only [and_true] at constructed
    rw [ofStyle_text_eq]
    simp only [factoryConstraints, text]
    exact (failsAtFirst_congr rfl).mp constructed
  | emoji e =>
    rw [ofStyle_emoji_eq known]
    simp only [factoryConstraints, text]
    exact (failsAtFirst_congr rfl).mp (construct_first known idOrUrl "" (some e))

/-- The constructor and the factories fail exactly where a constraint is violated, and the first one
in the order of precedence gives the field of the error. -/
theorem constraints_decide :
    (∀ identity label style emoji disabled,
      FailsAtFirst (Draft.constraints { identity, label, style, emoji, disabled })
        (Draft.build { identity, label, style, emoji, disabled })) ∧
    (∀ s id content, s ≠ .unknown → s ≠ .link →
      FailsAtFirst (factoryConstraints (.customId id) content) (styled (.given s) id content)) ∧
    ∀ address content,
      FailsAtFirst (factoryConstraints (.url address) content) (link address content) := by
  refine ⟨fun identity label style emoji disabled => Draft.build_first rfl, ?_,
    ofStyle_first (s := .link) nofun⟩
  intro s id content known noLink
  rw [← ofStyle_styled noLink]
  have identity : identityFor s id = .customId id := by
    cases s with
    | link => exact absurd rfl noLink
    | _ => rfl
  exact identity ▸ ofStyle_first known id content

/-- Calls that violate several constraints, one of them at a time the first. -/
theorem constraints_decide_several :
    ∃ long, long = String.ofList (List.replicate 101 'x') ∧
      (∃ reason, Draft.build { identity := .foreign (.int 1), label := none, style := .missing } =
        .error (.refused "Style" reason)) ∧
      (∃ reason, Draft.build
        { identity := .customId (some "go"), label := some long, style := .given .link } =
        .error (.refused "Label" reason)) ∧
      (∃ reason, styled (.given .primary) (some long) (.text "") =
        .error (.refused "Label" reason)) ∧
      ∃ reason, link none .none = .error (.refused "URL" reason) := by
  obtain ⟨constructor, styles, links⟩ := constraints_decide
  exact ⟨_, rfl, constructor (.foreign (.int 1)) none .missing none false,
    constructor (.customId (some "go")) (some (String.ofList (List.replicate 101 'x')))
      (.given .link) none false,
    styles .primary (some (String.ofList (List.replicate 101 'x'))) (.text "") nofun nofun,
    links none .none⟩

end Button

end BotPayload
