import BotPayload.Proofs.Button.Reading

/-!
# Every button that a program can hold

`Origin` lists the ways in which a button comes into being; `Reachable` closes them under
derivations. A made or derived button is settled and a decoded one is what its payload says
(`Reachable.settled_or_decoded`); in both cases it is well formed. `run_wellFormed` says so after
any sequence of derivations, failing ones included.
-/

namespace BotPayload.Button

/-- The ways in which a button comes into being. The factories of the interactive styles are
`styled` at their style. -/
inductive Origin where
  | construct (identity : IdentityDraft) (label : Option String) (style : Argument Style)
      (emoji : Option Emoji) (disabled : Bool)
  | styled (style : Argument Style) (id : Option String) (content : Content)
  | link (address : Option String) (content : Content)
  | make (style : Argument Style) (idOrUrl : Option String) (label : Option String)
      (content : Content)
  | decode (payload : Value)

def Origin.create : Origin → Except Error Button
  | .construct identity label style emoji disabled =>
    Draft.build { identity, label, style, emoji, disabled }
  | .styled style id content => Button.styled style id content
  | .link address content => Button.link address content
  | .make style idOrUrl label content => Button.make style idOrUrl label content
  | .decode payload => (Button.decode payload).result

inductive Reachable : Button → Prop
  | create {o : Origin} : o.create = .ok b → Reachable b
  | derive {b : Button} {d : Derivation} : Reachable b → b.derive d = .ok c → Reachable c

/-- What holds of a button at all times. Its style is a member of `Style` and its label a text by
their types. -/
structure WellFormed (b : Button) : Prop where
  identity : match b.identity with
    | .customId id => 1 ≤ id.length ∧ id.length ≤ 100
    | .url address => 1 ≤ address.length ∧ address.length ≤ 512
  label : b.label.length ≤ 80
  shown : b.label ≠ "" ∨ b.emoji ≠ none
  code : b.unknownCode ≠ none ↔ b.style = .unknown
  code_range : ∀ q, b.unknownCode = some q →
    ∃ n, q.toValue.whole? = some n ∧ ¬(1 ≤ n ∧ n ≤ 5)
  pairing : b.style ≠ .unknown → (b.style = .link ↔ ∃ address, b.identity = .url address)

-- ---------------------------------------------------------------------------
-- One button
-- ---------------------------------------------------------------------------

theorem isUrl_iff {i : Identity} : i.isUrl = true ↔ ∃ address, i = .url address := by
  cases i <;> simp [Identity.isUrl]

theorem Valid.identity_length {b : Button} (h : b.Valid) :
    match b.identity with
    | .customId id => 1 ≤ id.length ∧ id.length ≤ 100
    | .url address => 1 ≤ address.length ∧ address.length ≤ 512 := by
  have ne := h.identity_ne
  have le := h.identity_le
  cases hi : b.identity with
  | customId id =>
    rw [hi] at ne le
    exact ⟨Nat.one_le_iff_ne_zero.mpr fun zero => ne (String.length_eq_zero_iff.mp zero), le⟩
  | url address =>
    rw [hi] at ne le
    exact ⟨Nat.one_le_iff_ne_zero.mpr fun zero => ne (String.length_eq_zero_iff.mp zero), le⟩

theorem Settled.wellFormed {b : Button} (h : b.Settled) : b.WellFormed where
  identity := h.valid.identity_length
  label := h.valid.label_le
  shown := h.valid.shown
  code := by simp [h.noCode, h.known]
  code_range := by simp [h.noCode]
  pairing known := by rw [h.valid.pairing known, isUrl_iff]

theorem Reads.wellFormed {v : Value} {b : Button} (h : Reads v b) (valid : b.Valid) :
    b.WellFormed where
  identity := valid.identity_length
  label := valid.label_le
  shown := valid.shown
  code := by
    obtain ⟨code, _, read⟩ := h.style
    exact read.code_iff
  code_range q hq := by
    obtain ⟨code, _, read⟩ := h.style
    rw [hq] at read
    exact read.code_range
  pairing known := by rw [valid.pairing known, isUrl_iff]

theorem Origin.create_ok {o : Origin} (h : o.create = .ok b) :
    b.Settled ∨ ∃ v, Reads v b ∧ b.Valid := by
  cases o with
  | construct identity label style emoji disabled => exact .inl (Draft.build_settled h rfl)
  | styled style id content => exact .inl (styled_settled h)
  | link address content => exact .inl (link_settled h)
  | make style idOrUrl label content => exact .inl (make_settled h)
  | decode payload => exact .inr ⟨payload, decode_ok.mp h⟩

-- ---------------------------------------------------------------------------
-- Runs
-- ---------------------------------------------------------------------------

theorem Reachable.settled_or_decoded {b : Button} (h : Reachable b) :
    b.Settled ∨ ∃ v, Reads v b ∧ b.Valid := by
  cases h with
  | create h => exact Origin.create_ok h
  | derive _ h => exact .inl (derive_settled h)

theorem Reachable.wellFormed {b : Button} (h : Reachable b) : b.WellFormed := by
  rcases h.settled_or_decoded with settled | ⟨v, reads, valid⟩
  · exact settled.wellFormed
  · exact reads.wellFormed valid

theorem Reachable.settled {b : Button} (h : Reachable b) (known : b.style ≠ .unknown) :
    b.Settled := by
  rcases h.settled_or_decoded with settled | ⟨v, reads, valid⟩
  · exact settled
  · refine ⟨valid, ?_⟩
    by_cases code : b.unknownCode = none
    · exact code
    · exact absurd (h.wellFormed.code.mp code) known

theorem Reachable.deriveOrKeep {b : Button} (h : Reachable b) (d : Derivation) :
    Reachable (b.deriveOrKeep d) := by
  unfold Button.deriveOrKeep
  split
  · rename_i c hc
    exact .derive h hc
  · exact h

theorem Reachable.run {b : Button} (h : Reachable b) (ds : List Derivation) :
    Reachable (b.run ds) := by
  induction ds generalizing b with
  | nil => exact h
  | cons d ds ih => exact ih (h.deriveOrKeep d)

/-- Whatever a button comes from and however it is derived, it stays well formed. -/
theorem run_wellFormed {o : Origin} (h : o.create = .ok b) (ds : List Derivation) :
    (b.run ds).WellFormed :=
  ((Reachable.create h).run ds).wellFormed

/-- A link of an unknown style keeps its label, as it cannot be given another one, and becomes a
known link with another url. -/
theorem run_wellFormed_unknown_link :
    ∃ b, (Origin.decode (.object [("type", .int 2), ("style", .int 9), ("label", .str "Go"),
        ("url", .str "https://e.org")])).create = .ok b ∧
      (b.run [.setLabel (some "Stop"), .setUrl (some "https://e.org/a")]).WellFormed := by
  have created : (Origin.decode (.object [("type", .int 2), ("style", .int 9), ("label", .str "Go"),
      ("url", .str "https://e.org")])).create =
      .ok ⟨.url "https://e.org", "Go", .unknown, none, false, some (.int 9)⟩ := rfl
  exact ⟨_, created, run_wellFormed created _⟩

end BotPayload.Button
