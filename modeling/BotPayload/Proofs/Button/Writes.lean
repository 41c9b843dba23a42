import BotPayload.Proofs.Button.Reachable
import BotPayload.Proofs.Sequence.Order

/-!
# What a chain of derivations writes

Every derivation that succeeds writes some parts of the button and keeps the others
(`derive_eq_after`), so that a chain ends in a button with the last write of each part. On a
settled button a derivation succeeds by what it writes and by whether the button is a link
(`Settled.derive_ok`); hence derivations that write different parts can be swapped.
-/

namespace BotPayload

def Content.emoji? : Content → Option Emoji
  | .none => Option.none
  | .text s => some (Emoji.ofText s)
  | .emoji e => some e

theorem Content.toEmoji_ok {content : Content} :
    content.toEmoji = .ok e ↔ content ≠ .text "" ∧ e = content.emoji? := by
  cases content with
  | none => simp [toEmoji, emoji?, eq_comm]
  | emoji e' => simp [toEmoji, emoji?, eq_comm]
  | text s =>
    simp only [toEmoji, bind_ok, require_ok, pure_ok, emoji?, decide_eq_true_eq]
    constructor
    · rintro ⟨_, ne, rfl⟩
      exact ⟨by simpa using ne, rfl⟩
    · rintro ⟨ne, rfl⟩
      exact ⟨(), by simpa using ne, rfl⟩

namespace Button

inductive Part where
  | identity
  | label
  | style
  | emoji
  | disabled
deriving DecidableEq, Repr

namespace Derivation

def parts : Derivation → List Part
  | .disable => [.disabled]
  | .enable => [.disabled]
  | .setDisabled _ => [.disabled]
  | .setEmoji _ => [.emoji]
  | .setLabel _ => [.label]
  | .setLabelAndEmoji _ _ => [.label, .emoji]
  | .setId _ => [.identity]
  | .setUrl _ => [.identity, .style]
  | .setStyle _ => [.style]

def identity? : Derivation → Option Identity
  | .setId id => id.map .customId
  | .setUrl address => address.map .url
  | _ => none

def label? : Derivation → Option String
  | .setLabel label => label
  | .setLabelAndEmoji label _ => label
  | _ => none

def style? : Derivation → Option Style
  | .setUrl _ => some .link
  | .setStyle style => style.given?
  | _ => none

def emoji? : Derivation → Option (Option Emoji)
  | .setEmoji content => some content.emoji?
  | .setLabelAndEmoji _ content => some content.emoji?
  | _ => none

def disabled? : Derivation → Option Bool
  | .disable => some true
  | .enable => some false
  | .setDisabled disabled => some disabled
  | _ => none

/-- What a derivation asks of the values that it writes and of the settled button that it starts
from. -/
def Fits (b : Button) : Derivation → Prop
  | .disable => True
  | .enable => True
  | .setDisabled _ => True
  | .setEmoji content => content ≠ .text "" ∧ (content.emoji? = none → b.label ≠ "")
  | .setLabel label => ∃ l, label = some l ∧ l ≠ "" ∧ l.length ≤ maxLabelLength
  | .setLabelAndEmoji label content =>
    content ≠ .text "" ∧ ∃ l, label = some l ∧ l.length ≤ maxLabelLength ∧
      (content.emoji? = none → l ≠ "")
  | .setId id => b.style ≠ .link ∧ ∃ s, id = some s ∧ s ≠ "" ∧ s.length ≤ Identity.maxIdLength
  | .setUrl address => ∃ s, address = some s ∧ s ≠ "" ∧ s.length ≤ Identity.maxUrlLength
  | .setStyle style => ∃ s, style = .given s ∧ s ≠ .unknown ∧ (b.style = .link ↔ s = .link)

end Derivation

def after (b : Button) (d : Derivation) : Button where
  identity := d.identity?.getD b.identity
  label := d.label?.getD b.label
  style := d.style?.getD b.style
  emoji := d.emoji?.getD b.emoji
  disabled := d.disabled?.getD b.disabled
  unknownCode := none

variable {b c : Button} {d d' : Derivation}

-- ---------------------------------------------------------------------------
-- One derivation
-- ---------------------------------------------------------------------------

theorem derive_eq_after (h : b.derive d = .ok c) : c = b.after d := by
  cases d with
  | disable => exact (setDisabled_ok.mp h).1
  | enable => exact (setDisabled_ok.mp h).1
  | setDisabled f => exact (setDisabled_ok.mp h).1
  | setEmoji content =>
    obtain ⟨e, read, rfl, -⟩ := setEmoji_ok.mp h
    obtain ⟨-, rfl⟩ := Content.toEmoji_ok.mp read
    rfl
  | setLabel label =>
    obtain ⟨l, rfl, -, rfl, -⟩ := setLabel_ok.mp h
    rfl
  | setLabelAndEmoji label content =>
    obtain ⟨l, e, rfl, read, rfl, -⟩ := setLabelAndEmoji_ok.mp h
    obtain ⟨-, rfl⟩ := Content.toEmoji_ok.mp read
    rfl
  | setId id =>
    obtain ⟨s, rfl, rfl, -⟩ := setId_ok.mp h
    rfl
  | setUrl address =>
    obtain ⟨s, rfl, rfl, -⟩ := setUrl_ok.mp h
    rfl
  | setStyle style =>
    obtain ⟨s, rfl, -, -, rfl, -⟩ := setStyle_ok.mp h
    rfl

theorem Settled.fits_of_derive (h : b.Settled) (derived : b.derive d = .ok c) : d.Fits b := by
  cases d with
  | disable => trivial
  | enable => trivial
  | setDisabled f => trivial
  | setEmoji content =>
    obtain ⟨e, read, rfl, valid⟩ := setEmoji_ok.mp derived
    obtain ⟨ne, rfl⟩ := Content.toEmoji_ok.mp read
    exact ⟨ne, fun cleared => valid.shown.resolve_right (not_not_intro cleared)⟩
  | setLabel label =>
    obtain ⟨l, rfl, ne, rfl, valid⟩ := setLabel_ok.mp derived
    exact ⟨l, rfl, ne, valid.label_le⟩
  | setLabelAndEmoji label content =>
    obtain ⟨l, e, rfl, read, rfl, valid⟩ := setLabelAndEmoji_ok.mp derived
    obtain ⟨ne, rfl⟩ := Content.toEmoji_ok.mp read
    exact ⟨ne, l, rfl, valid.label_le,
      fun cleared => valid.shown.resolve_right (not_not_intro cleared)⟩
  | setId id =>
    obtain ⟨s, rfl, rfl, valid⟩ := setId_ok.mp derived
    refine ⟨fun link => ?_, s, rfl, valid.identity_ne, valid.identity_le⟩
    nomatch (valid.pairing h.known).mp link
  | setUrl address =>
    obtain ⟨s, rfl, rfl, valid⟩ := setUrl_ok.mp derived
    exact ⟨s, rfl, valid.identity_ne, valid.identity_le⟩
  | setStyle style =>
    obtain ⟨s, rfl, known, same, -, -⟩ := setStyle_ok.mp derived
    exact ⟨s, rfl, known, same⟩

theorem Settled.after_valid (h : b.Settled) (fits : d.Fits b) : (b.after d).Valid := by
  have code : b.style = .unknown → (none : Option Quantity) ≠ none := fun unknown =>
    absurd unknown h.known
  cases d with
  | disable => exact { h.valid with code }
  | enable => exact { h.valid with code }
  | setDisabled f => exact { h.valid with code }
  | setEmoji content =>
    refine { h.valid with code, shown := ?_ }
    by_cases cleared : content.emoji? = none
    · exact .inl (fits.2 cleared)
    · exact .inr cleared
  | setLabel label =>
    obtain ⟨l, rfl, ne, short⟩ := fits
    exact { h.valid with code, shown := .inl ne, label_le := short }
  | setLabelAndEmoji label content =>
    obtain ⟨-, l, rfl, short, needed⟩ := fits
    refine { h.valid with code, shown := ?_, label_le := short }
    by_cases cleared : content.emoji? = none
    · exact .inl (needed cleared)
    · exact .inr cleared
  | setId id =>
    obtain ⟨noLink, s, rfl, ne, short⟩ := fits
    exact { h.valid with
      code, identity_ne := ne, identity_le := short
      pairing := fun _ => ⟨fun link => absurd link noLink, nofun⟩ }
  | setUrl address =>
    obtain ⟨s, rfl, ne, short⟩ := fits
    exact { h.valid with
      code := nofun, identity_ne := ne, identity_le := short
      pairing := fun _ => ⟨fun _ => rfl, fun _ => rfl⟩ }
  | setStyle style =>
    obtain ⟨s, rfl, known, same⟩ := fits
    exact { h.valid with
      code := fun unknown => absurd unknown known
      pairing := fun _ => same.symm.trans (h.valid.pairing h.known) }

/-- On a settled button, that the result is valid comes down to what is written. -/
theorem Settled.derive_ok (h : b.Settled) : b.derive d = .ok c ↔ d.Fits b ∧ c = b.after d := by
  refine ⟨fun derived => ⟨h.fits_of_derive derived, derive_eq_after derived⟩, ?_⟩
  rintro ⟨fits, rfl⟩
  have valid := h.after_valid fits
  cases d with
  | disable => exact setDisabled_ok.mpr ⟨rfl, valid⟩
  | enable => exact setDisabled_ok.mpr ⟨rfl, valid⟩
  | setDisabled f => exact setDisabled_ok.mpr ⟨rfl, valid⟩
  | setEmoji content =>
    exact setEmoji_ok.mpr ⟨_, Content.toEmoji_ok.mpr ⟨fits.1, rfl⟩, rfl, valid⟩
  | setLabel label =>
    obtain ⟨l, rfl, ne, -⟩ := fits
    exact setLabel_ok.mpr ⟨l, rfl, ne, rfl, valid⟩
  | setLabelAndEmoji label content =>
    obtain ⟨ne, l, rfl, -⟩ := fits
    exact setLabelAndEmoji_ok.mpr ⟨l, _, rfl, Content.toEmoji_ok.mpr ⟨ne, rfl⟩, rfl, valid⟩
  | setId id =>
    obtain ⟨-, s, rfl, -⟩ := fits
    exact setId_ok.mpr ⟨s, rfl, rfl, valid⟩
  | setUrl address =>
    obtain ⟨s, rfl, -⟩ := fits
    exact setUrl_ok.mpr ⟨s, rfl, rfl, valid⟩
  | setStyle style =>
    obtain ⟨s, rfl, known, same⟩ := fits
    exact setStyle_ok.mpr ⟨s, rfl, known, same, rfl, valid⟩

-- ---------------------------------------------------------------------------
-- Chains
-- ---------------------------------------------------------------------------

/-- The last write of a part, `write` telling what each derivation writes. -/
def lastWrite (write : Derivation → Option α) (ds : List Derivation) : Option α :=
  (ds.filterMap write).getLast?

theorem getD_lastWrite_cons (write : Derivation → Option α) (d : Derivation)
    (ds : List Derivation) (a : α) :
    (lastWrite write (d :: ds)).getD a = (lastWrite write ds).getD ((write d).getD a) := by
  rw [lastWrite, getLast?_filterMap_cons, Option.getD_or]
  rfl

/-- Each part of `c` is as the last derivation that writes it leaves it, or as it is in `b`. -/
structure LastWrites (b : Button) (ds : List Derivation) (c : Button) : Prop where
  identity : c.identity = (lastWrite Derivation.identity? ds).getD b.identity
  label : c.label = (lastWrite Derivation.label? ds).getD b.label
  style : c.style = (lastWrite Derivation.style? ds).getD b.style
  emoji : c.emoji = (lastWrite Derivation.emoji? ds).getD b.emoji
  disabled : c.disabled = (lastWrite Derivation.disabled? ds).getD b.disabled
  noCode : c.unknownCode = none

structure SameLastWrites (ds es : List Derivation) : Prop where
  identity : lastWrite Derivation.identity? ds = lastWrite Derivation.identity? es
  label : lastWrite Derivation.label? ds = lastWrite Derivation.label? es
  style : lastWrite Derivation.style? ds = lastWrite Derivation.style? es
  emoji : lastWrite Derivation.emoji? ds = lastWrite Derivation.emoji? es
  disabled : lastWrite Derivation.disabled? ds = lastWrite Derivation.disabled? es

theorem lastWrites_after (b : Button) (d : Derivation) : LastWrites b [d] (b.after d) :=
  ⟨by rw [getD_lastWrite_cons]; rfl, by rw [getD_lastWrite_cons]; rfl,
    by rw [getD_lastWrite_cons]; rfl, by rw [getD_lastWrite_cons]; rfl,
    by rw [getD_lastWrite_cons]; rfl, rfl⟩

theorem LastWrites.cons {ds : List Derivation} (h : LastWrites (b.after d) ds c) :
    LastWrites b (d :: ds) c where
  identity := by rw [getD_lastWrite_cons]; exact h.identity
  label := by rw [getD_lastWrite_cons]; exact h.label
  style := by rw [getD_lastWrite_cons]; exact h.style
  emoji := by rw [getD_lastWrite_cons]; exact h.emoji
  disabled := by rw [getD_lastWrite_cons]; exact h.disabled
  noCode := h.noCode

theorem LastWrites.unique {ds es : List Derivation} {c' : Button} (h : LastWrites b ds c)
    (h' : LastWrites b es c') (same : SameLastWrites ds es) : c = c' := by
  obtain ⟨identity, label, style, emoji, disabled, code⟩ := c
  obtain ⟨identity', label', style', emoji', disabled', code'⟩ := c'
  obtain ⟨rfl, rfl, rfl, rfl, rfl, rfl⟩ := h
  obtain ⟨rfl, rfl, rfl, rfl, rfl, rfl⟩ := h'
  simp only [same.identity, same.label, same.style, same.emoji, same.disabled]

theorem chain_cons_ok {ds : List Derivation} :
    b.chain (d :: ds) = .ok c ↔ ∃ m, b.derive d = .ok m ∧ m.chain ds = .ok c := by
  rw [chain, List.foldlM_cons, bind_ok]
  rfl

theorem chain_singleton (b : Button) (d : Derivation) : b.chain [d] = b.derive d := by
  rw [chain, List.foldlM_cons]
  exact bind_pure (b.derive d)

theorem chain_lastWrites {ds : List Derivation} (ne : ds ≠ []) (h : b.chain ds = .ok c) :
    LastWrites b ds c := by
  induction ds generalizing b with
  | nil => exact absurd rfl ne
  | cons d ds ih =>
    cases ds with
    | nil =>
      rw [chain_singleton] at h
      exact derive_eq_after h ▸ lastWrites_after b d
    | cons d' ds =>
      obtain ⟨m, derived, h⟩ := chain_cons_ok.mp h
      obtain rfl := derive_eq_after derived
      exact (ih (List.cons_ne_nil d' ds) h).cons

-- ---------------------------------------------------------------------------
-- Swaps
-- ---------------------------------------------------------------------------

theorem Derivation.unwritten {part : Part} (h : part ∉ d.parts) :
    match part with
    | .identity => d.identity? = none
    | .label => d.label? = none
    | .style => d.style? = none
    | .emoji => d.emoji? = none
    | .disabled => d.disabled? = none := by
  cases d <;> cases part <;> first | rfl | simp [parts] at h

theorem getD_swap {o o' : Option α} (h : o = none ∨ o' = none) (a : α) :
    o'.getD (o.getD a) = o.getD (o'.getD a) := by
  obtain rfl | rfl := h <;> rfl

theorem after_comm (b : Button) (disjoint : ∀ part ∈ d.parts, part ∉ d'.parts) :
    (b.after d).after d' = (b.after d').after d := by
  have one (part : Part) : part ∉ d.parts ∨ part ∉ d'.parts := by
    by_cases written : part ∈ d.parts
    · exact .inr (disjoint part written)
    · exact .inl written
  have unwritten {d : Derivation} {part : Part} := @Derivation.unwritten d part
  simp only [after, mk.injEq, and_true]
  exact ⟨getD_swap ((one .identity).imp unwritten unwritten) _,
    getD_swap ((one .label).imp unwritten unwritten) _,
    getD_swap ((one .style).imp unwritten unwritten) _,
    getD_swap ((one .emoji).imp unwritten unwritten) _,
    getD_swap ((one .disabled).imp unwritten unwritten) _⟩

theorem link_after (fits : d.Fits b) (h : .identity ∉ d.parts) :
    (b.after d).style = .link ↔ b.style = .link := by
  cases d with
  | setUrl address => exact absurd List.mem_cons_self h
  | setStyle style =>
    obtain ⟨s, rfl, -, same⟩ := fits
    exact same.symm
  | _ => exact Iff.rfl

theorem fits_after (disjoint : ∀ part ∈ d.parts, part ∉ d'.parts) (fits : d.Fits b)
    (shown : d'.emoji? ≠ some none) : d'.Fits (b.after d) ↔ d'.Fits b := by
  have apart {part : Part} (h : part ∈ d'.parts) : part ∉ d.parts := fun h' => disjoint part h' h
  cases d' with
  | setEmoji content =>
    have given : content.emoji? ≠ none := fun cleared => shown (congrArg some cleared)
    simp only [Derivation.Fits, given, false_implies]
  | setId id =>
    have link := link_after fits (apart List.mem_cons_self)
    simp only [Derivation.Fits, ne_eq, link]
  | setStyle style =>
    have kept : (b.after d).style = b.style := by
      rw [after, Derivation.unwritten (apart List.mem_cons_self)]
      rfl
    simp only [Derivation.Fits, kept]
  | _ => exact Iff.rfl

theorem Settled.chain_pair (h : b.Settled) (disjoint : ∀ part ∈ d.parts, part ∉ d'.parts)
    (shown : d'.emoji? ≠ some none) :
    b.chain [d, d'] = .ok c ↔ d.Fits b ∧ d'.Fits b ∧ c = (b.after d).after d' := by
  simp only [chain_cons_ok, chain_singleton]
  constructor
  · rintro ⟨m, first, second⟩
    obtain ⟨fits, rfl⟩ := h.derive_ok.mp first
    obtain ⟨fits', rfl⟩ := (derive_settled first).derive_ok.mp second
    exact ⟨fits, (fits_after disjoint fits shown).mp fits', rfl⟩
  · rintro ⟨fits, fits', rfl⟩
    have first := h.derive_ok.mpr ⟨fits, rfl⟩
    exact ⟨_, first, (derive_settled first).derive_ok.mpr
      ⟨(fits_after disjoint fits shown).mpr fits', rfl⟩⟩

/-- A chain of derivations that all succeed leaves in each part the last write of it, and so depends
on these writes alone. On a button of a known style, neighbours that write different parts can be
swapped, as long as none of them clears the emoji. -/
theorem chain_last_writer_wins (b : Button) :
    (∀ ds c, ds ≠ [] → b.chain ds = .ok c → LastWrites b ds c) ∧
    (∀ ds es c c', ds ≠ [] → es ≠ [] → b.chain ds = .ok c → b.chain es = .ok c' →
      SameLastWrites ds es → c = c') ∧
    (b.Reachable → b.style ≠ .unknown → ∀ d d' : Derivation,
      (∀ part ∈ d.parts, part ∉ d'.parts) → d.emoji? ≠ some none → d'.emoji? ≠ some none →
      ∀ c, b.chain [d, d'] = .ok c ↔ b.chain [d', d] = .ok c) := by
  refine ⟨fun ds c ne h => chain_lastWrites ne h, ?_, ?_⟩
  · intro ds es c c' ne ne' h h' same
    exact (chain_lastWrites ne h).unique (chain_lastWrites ne' h') same
  · intro reachable known d d' disjoint shown shown' c
    have settled := reachable.settled known
    have disjoint' : ∀ part ∈ d'.parts, part ∉ d.parts := fun part h h' => disjoint part h' h
    rw [settled.chain_pair disjoint shown', settled.chain_pair disjoint' shown,
      after_comm b disjoint, and_left_comm]

/-- A link of an unknown style is given another url and becomes an icon. A label written over
another one is all that is left of the two, and it may be written before or after a url. -/
theorem chain_last_writer_wins_icon :
    ∃ (b c x y : Button) (icon : Emoji), icon = ⟨"yes", none, false⟩ ∧
      b = ⟨.url "https://e.org", "Go", .unknown, none, false, some (.int 9)⟩ ∧
      c = ⟨.url "https://e.org/a", "", .link, some icon, true, none⟩ ∧
      LastWrites b [.setUrl (some "https://e.org/a"), .enable,
        .setLabelAndEmoji (some "") (.emoji icon), .disable] c ∧
      c.chain [.setLabel (some "Wait"), .setLabel (some "Stop")] = .ok x ∧
      c.chain [.setLabel (some "Stop")] = .ok y ∧ x = y ∧ c.Reachable ∧
      ∃ z, c.chain [.setLabel (some "Stop"), .setUrl (some "https://e.org/b")] = .ok z ∧
        c.chain [.setUrl (some "https://e.org/b"), .setLabel (some "Stop")] = .ok z := by
  have chained : chain ⟨.url "https://e.org", "Go", .unknown, none, false, some (.int 9)⟩
      [.setUrl (some "https://e.org/a"), .enable,
        .setLabelAndEmoji (some "") (.emoji ⟨"yes", none, false⟩), .disable] =
      .ok ⟨.url "https://e.org/a", "", .link, some ⟨"yes", none, false⟩, true, none⟩ := rfl
  have reachable : Reachable
      ⟨.url "https://e.org/a", "", .link, some ⟨"yes", none, false⟩, true, none⟩ :=
    .create (o := .construct (.url (some "https://e.org/a")) (some "") (.given .link)
      (some ⟨"yes", none, false⟩) true) rfl
  obtain ⟨-, unique, swap⟩ := chain_last_writer_wins
    ⟨.url "https://e.org/a", "", .link, some ⟨"yes", none, false⟩, true, none⟩
  refine ⟨_, _, _, _, _, rfl, rfl, rfl, (chain_last_writer_wins _).1 _ _ nofun chained, rfl, rfl,
    ?_, reachable, _, rfl, ?_⟩
  · exact unique [.setLabel (some "Wait"), .setLabel (some "Stop")] [.setLabel (some "Stop")] _ _
      nofun nofun rfl rfl ⟨rfl, rfl, rfl, rfl, rfl⟩
  · exact (swap reachable nofun (.setLabel (some "Stop")) (.setUrl (some "https://e.org/b"))
      (by decide) nofun nofun _).mp rfl

end Button

end BotPayload
