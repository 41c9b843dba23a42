import BotPayload.Proofs.Template.Bare

/-!
# Templates of text and names

A template is written from parts: text, in which every brace is doubled, and placeholders that are
names. Reading it gives the parts back, with adjacent texts joined (`pieces_source`).
-/

namespace BotPayload.Template

/-- A name that may stand alone in a placeholder, such as an identifier. -/
structure Identifier (name : List Char) : Prop where
  ne : name ≠ []
  plain : ∀ c ∈ name, c ∉ ['\x7b', '\x7d', '!', ':', '[', '.']
  /-- A name does not begin with a digit. -/
  head : ∀ c ∈ name.head?, digitValue? c = none

inductive Part where
  | text (cs : List Char)
  | hole (name : List Char)

def escaped (cs : List Char) : List Char :=
  cs.flatMap fun c => if c = '\x7b' ∨ c = '\x7d' then [c, c] else [c]

namespace Part

inductive Proper : Part → Prop
  | text : Proper (.text cs)
  | hole : Identifier name → Proper (.hole name)

def source : Part → List Char
  | .text cs => escaped cs
  | .hole name => '\x7b' :: name ++ ['\x7d']

/-- The text of a part, when `value` gives the texts of the names. -/
def filled (value : String → String) : Part → List Char
  | .text cs => cs
  | .hole name => (value (String.ofList name)).toList

/-- The pieces of a template that is written from parts, behind text that is read already. -/
def pieces (read : List Char) : List Part → List Piece
  | [] => [.text read.reverse]
  | .text cs :: parts => pieces (cs.reverse ++ read) parts
  | .hole name :: parts => .text read.reverse :: .hole ⟨name, none, []⟩ :: pieces [] parts

end Part

theorem Identifier.plainName {name : List Char} (h : Identifier name) : PlainName name where
  ne := h.ne
  whole c mem := by
    have := h.plain c mem
    simp only [List.mem_cons, not_or] at this
    exact ⟨this.2.2.2.2.2.1, this.2.2.2.2.1⟩
  noIndex := by
    cases name with
    | nil => exact absurd rfl h.ne
    | cons c cs => exact index?_of_head (h.head c rfl)

-- ---------------------------------------------------------------------------
-- Reading
-- ---------------------------------------------------------------------------

section
variable {seen rest name : List Char}

theorem pieces_text_cons (h : c ≠ '\x7b' ∧ c ≠ '\x7d') :
    pieces (.text seen) (c :: rest) = pieces (.text (c :: seen)) rest := by
  rw [pieces.eq_5, if_neg h.1, if_neg h.2]
  · rintro _ rfl
    exact absurd rfl h.1
  · rintro _ rfl
    exact absurd rfl h.2
  · rintro rfl
    exact absurd rfl h.1

theorem pieces_escaped (cs : List Char) :
    pieces (.text seen) (escaped cs ++ rest) = pieces (.text (cs.reverse ++ seen)) rest := by
  -- What is read so far stays general: every character of the text is put onto it.
  induction cs generalizing seen with
  | nil => rfl
  | cons c cs ih =>
    have once : escaped (c :: cs) =
      (if c = '\x7b' ∨ c = '\x7d' then [c, c] else [c]) ++ escaped cs := List.flatMap_cons
    rw [once, List.append_assoc, List.reverse_cons, List.append_assoc]
    split
    · rename_i brace
      obtain rfl | rfl := brace
      · exact (pieces.eq_2 ..).trans ih
      · exact (pieces.eq_3 ..).trans ih
    · rename_i plain
      exact (pieces_text_cons (not_or.mp plain)).trans ih

theorem pieces_name (plain : ∀ c ∈ name, c ∉ ['\x7b', '\x7d', '!', ':', '[', '.']) :
    pieces (.name seen false) (name ++ '\x7d' :: rest) =
      ((.hole ⟨seen.reverse ++ name, none, []⟩ : Piece) :: (pieces (.text []) rest).1,
        (pieces (.text []) rest).2) := by
  induction name generalizing seen with
  | nil =>
    rw [List.nil_append, pieces]
    simp
  | cons c name ih =>
    obtain ⟨first, others⟩ := List.forall_mem_cons.mp plain
    simp only [List.mem_cons, List.not_mem_nil, or_false, not_or] at first
    obtain ⟨noOpen, noClose, noMark, noColon, noIndex, -⟩ := first
    rw [List.cons_append, pieces]
    simp only [Bool.false_eq_true, ↓reduceIte, noOpen, noClose, noMark, noColon, noIndex,
      decide_false]
    rw [ih others]
    simp

theorem pieces_hole (h : Identifier name) :
    pieces (.text seen) ('\x7b' :: name ++ '\x7d' :: rest) =
      (.text seen.reverse :: .hole ⟨name, none, []⟩ :: (pieces (.text []) rest).1,
        (pieces (.text []) rest).2) := by
  obtain ⟨c, cs, rfl⟩ := List.exists_cons_of_ne_nil h.ne
  have first : c ≠ '\x7b' := by
    rintro rfl
    exact h.plain _ List.mem_cons_self List.mem_cons_self
  rw [List.cons_append, pieces.eq_5]
  · rw [if_pos rfl, pieces_name h.plain]
    rfl
  · rintro _ _ doubled
    exact first (List.cons.inj doubled).1
  · exact nofun
  · exact nofun

theorem pieces_source {parts : List Part} (proper : ∀ part ∈ parts, part.Proper) :
    pieces (.text seen) (parts.flatMap Part.source) = (Part.pieces seen parts, none) := by
  induction parts generalizing seen with
  | nil => rfl
  | cons part parts ih =>
    obtain ⟨first, others⟩ := List.forall_mem_cons.mp proper
    rw [List.flatMap_cons]
    cases first with
    | text =>
      rw [Part.source, pieces_escaped, ih others]
      rfl
    | hole identifier =>
      rw [Part.source, List.append_assoc, List.singleton_append, pieces_hole identifier, ih others]
      rfl

end

-- ---------------------------------------------------------------------------
-- Filling
-- ---------------------------------------------------------------------------

namespace Part

theorem pieces_bare {parts : List Part} (proper : ∀ part ∈ parts, part.Proper) :
    ∀ p ∈ pieces seen parts, p.Bare := by
  induction parts generalizing seen with
  | nil => exact List.forall_mem_singleton.mpr .text
  | cons part parts ih =>
    obtain ⟨first, others⟩ := List.forall_mem_cons.mp proper
    cases first with
    | text => exact ih others
    | hole identifier =>
      simp only [pieces, List.forall_mem_cons]
      exact ⟨.text, .hole identifier.plainName, ih others⟩

theorem pieces_filled (value : String → String) (parts : List Part) :
    (pieces seen parts).flatMap (Piece.filled value) =
      seen.reverse ++ parts.flatMap (filled value) := by
  induction parts generalizing seen with
  | nil => simp [pieces, Piece.filled]
  | cons part parts ih =>
    cases part with
    | text cs => simp [pieces, filled, ih]
    | hole name => simp [pieces, filled, Piece.filled, ih]

def name? : Part → Option (List Char)
  | .text _ => none
  | .hole name => some name

theorem names_pieces {parts : List Part} (proper : ∀ part ∈ parts, part.Proper) :
    names (pieces seen parts) = parts.filterMap name? := by
  induction parts generalizing seen with
  | nil => rfl
  | cons part parts ih =>
    obtain ⟨first, others⟩ := List.forall_mem_cons.mp proper
    cases first with
    | text => exact ih others
    | @hole name identifier =>
      have named : name.isEmpty = false := List.isEmpty_eq_false_iff.mpr identifier.ne
      simp only [names, pieces, List.filterMap_cons, named, Bool.false_eq_true, ↓reduceIte, name?]
      exact congrArg (name :: ·) (ih others)

theorem mem_pieces {parts : List Part} (mem : .hole name ∈ parts) :
    .hole ⟨name, none, []⟩ ∈ pieces seen parts := by
  induction parts generalizing seen with
  | nil => nomatch mem
  | cons part parts ih =>
    obtain rfl | later := List.mem_cons.mp mem
    · exact List.mem_cons_of_mem _ List.mem_cons_self
    · cases part with
      | text cs => exact ih later
      | hole other => exact List.mem_cons_of_mem _ (List.mem_cons_of_mem _ (ih later))

end Part

end BotPayload.Template
