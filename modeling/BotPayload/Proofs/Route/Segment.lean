import BotPayload.Proofs.Route.Path
import BotPayload.Proofs.Template.Parts
import BotPayload.Proofs.Text.Encoded
import Mathlib.Data.List.Forall2

/-!
# Segments of paths

A template whose segments are texts or single placeholders gives a path with the same segments, in
which each placeholder has become a text that decodes to its parameter (`path_segments`). A
parameter can so be read back from the path, and cannot add a segment to it.
-/

namespace BotPayload.Route

open Template (Identifier Part)

/-- A segment of a template: text without braces, or a placeholder. -/
inductive Segment : List Char → Prop
  | literal : (∀ c ∈ cs, c ≠ '\x7b' ∧ c ≠ '\x7d') → Segment cs
  | hole : Identifier name → Segment ('\x7b' :: name ++ ['\x7d'])

structure Renders (s : String) (cs : List Char) : Prop where
  ne : cs ≠ []
  encoded : Percent.Encoded ['@'] cs
  clean : ∀ c ∈ cs, c ∉ ['/', '?', '#', ' ']
  decodes : Percent.decode (String.ofList cs) = some s

/-- How a segment of a template appears in a path. -/
inductive Fills (params : Parameters) : List Char → List Char → Prop
  | literal : (∀ c ∈ cs, c ≠ '\x7b' ∧ c ≠ '\x7d') → Fills params cs cs
  | hole : Identifier name → params.lookup (String.ofList name) = some p → p.unicode = .ok s →
      Renders s cs → Fills params ('\x7b' :: name ++ ['\x7d']) cs

theorem segmentSafe_ascii : ∀ c ∈ segmentSafe, c.toNat < 128 ∧ c ≠ '%' :=
  List.forall_mem_singleton.mpr (by decide)

theorem encode_clean (s : String) :
    ∀ c ∈ (Percent.encode segmentSafe s).toList, c ∉ ['/', '?', '#', ' '] := by
  intro c mem special
  have allowed := (Percent.encode_encoded s).mem mem
  simp only [List.mem_cons, List.not_mem_nil, or_false] at special
  obtain rfl | rfl | rfl | rfl := special <;> exact absurd allowed (by decide)

theorem encode_renders (h : s ≠ "") : Renders s (Percent.encode segmentSafe s).toList where
  ne := by simpa using Percent.encode_ne segmentSafe_ascii h
  encoded := Percent.encode_encoded s
  clean := encode_clean s
  decodes := by
    rw [String.ofList_toList]
    exact Percent.decode_encode segmentSafe_ascii s

-- ---------------------------------------------------------------------------
-- Splitting and joining
-- ---------------------------------------------------------------------------

theorem not_mem_of_mem_splitOn {a : Char} {cs s : List Char} (h : s ∈ cs.splitOn a) : a ∉ s := by
  induction cs generalizing s with
  | nil => simp_all
  | cons c cs ih =>
    rw [List.splitOn, List.splitOnP_cons_eq_if_modifyHead] at h
    split at h
    · obtain rfl | later := List.mem_cons.mp h
      · exact List.not_mem_nil
      · exact ih later
    · rename_i other
      obtain ⟨first, rest, split⟩ := List.exists_cons_of_ne_nil (List.splitOn_ne_nil a cs)
      rw [← List.splitOn, split, List.modifyHead_cons] at h
      obtain rfl | later := List.mem_cons.mp h
      · have apart : a ≠ c := by
          rintro rfl
          exact other (beq_self_eq_true a)
        exact List.not_mem_cons_of_ne_of_not_mem apart (ih (split ▸ List.mem_cons_self))
      · exact ih (split ▸ List.mem_cons_of_mem _ later)

theorem intercalate_cons_eq (sep first : List α) (rest : List (List α)) :
    sep.intercalate (first :: rest) = first ++ rest.flatMap (sep ++ ·) := by
  induction rest generalizing first with
  | nil => simp
  | cons second rest ih =>
    rw [List.intercalate_cons_cons, ih, List.flatMap_cons]
    simp only [List.append_assoc]

def slashed : List Part → List Part
  | [] => []
  | part :: parts => part :: parts.flatMap fun p => [.text ['/'], p]

theorem mem_slashed {parts : List Part} (h : part ∈ parts) : part ∈ slashed parts := by
  cases parts with
  | nil => nomatch h
  | cons first parts =>
    obtain rfl | later := List.mem_cons.mp h
    · exact List.mem_cons_self
    · exact List.mem_cons_of_mem _ (List.mem_flatMap.mpr ⟨part, later, by simp⟩)

theorem of_mem_slashed {parts : List Part} (h : part ∈ slashed parts) :
    part = .text ['/'] ∨ part ∈ parts := by
  cases parts with
  | nil => nomatch h
  | cons first parts =>
    obtain rfl | later := List.mem_cons.mp h
    · exact .inr List.mem_cons_self
    · obtain ⟨p, mem, either⟩ := List.mem_flatMap.mp later
      simp only [List.mem_cons, List.not_mem_nil, or_false] at either
      obtain rfl | rfl := either
      · exact .inl rfl
      · exact .inr (List.mem_cons_of_mem _ mem)

theorem slashed_flatMap (f : Part → List Char) (sep : f (.text ['/']) = ['/']) (parts : List Part) :
    (slashed parts).flatMap f = ['/'].intercalate (parts.map f) := by
  cases parts with
  | nil => rfl
  | cons part parts =>
    rw [slashed, List.flatMap_cons, List.flatMap_assoc, List.map_cons, intercalate_cons_eq,
      List.flatMap_map]
    simp [sep]

-- ---------------------------------------------------------------------------
-- Paths
-- ---------------------------------------------------------------------------

inductive SegmentPart : Part → Prop
  | literal : (∀ c ∈ cs, c ≠ '\x7b' ∧ c ≠ '\x7d') → '/' ∉ cs → SegmentPart (.text cs)
  | hole : Identifier name → SegmentPart (.hole name)

theorem escaped_of_no_braces (h : ∀ c ∈ cs, c ≠ '\x7b' ∧ c ≠ '\x7d') :
    Template.escaped cs = cs := by
  induction cs with
  | nil => rfl
  | cons c cs ih =>
    obtain ⟨first, others⟩ := List.forall_mem_cons.mp h
    have once : (if c = '\x7b' ∨ c = '\x7d' then [c, c] else [c]) = [c] :=
      if_neg (not_or.mpr first)
    rw [Template.escaped, List.flatMap_cons, once, ← Template.escaped, ih others]
    rfl

theorem parts_of_segments {segments : List (List Char)}
    (h : ∀ s ∈ segments, Segment s ∧ '/' ∉ s) :
    ∃ parts : List Part, (∀ part ∈ parts, SegmentPart part) ∧ parts.map Part.source = segments := by
  induction segments with
  | nil => exact ⟨[], nofun, rfl⟩
  | cons s segments ih =>
    obtain ⟨⟨segment, whole⟩, others⟩ := List.forall_mem_cons.mp h
    obtain ⟨parts, good, rfl⟩ := ih others
    cases segment with
    | literal plain =>
      refine ⟨.text s :: parts, List.forall_mem_cons.mpr ⟨.literal plain whole, good⟩, ?_⟩
      rw [List.map_cons, Part.source, escaped_of_no_braces plain]
    | hole identifier =>
      exact ⟨.hole _ :: parts, List.forall_mem_cons.mpr ⟨.hole identifier, good⟩, rfl⟩

theorem path_parts {r : Route} {parts : List Part}
    (template : r.template.toList = parts.flatMap Part.source)
    (proper : ∀ part ∈ parts, part.Proper) (h : r.path params = .ok text) :
    (∀ name, .hole name ∈ parts →
        ∃ p s, params.lookup (String.ofList name) = some p ∧ p.unicode = .ok s ∧ s ≠ "") ∧
      text.toList = parts.flatMap (Part.filled (segmentText params)) := by
  have read : Template.pieces (.text []) r.template.toList = (Part.pieces [] parts, none) := by
    rw [template]
    exact Template.pieces_source proper
  obtain ⟨given, made⟩ := path_of_bare_ok read (Part.pieces_bare proper) h
  refine ⟨fun name mem => given _ ?_, ?_⟩
  · cases proper _ mem with
    | hole identifier => exact mem_names (Part.mem_pieces mem) identifier.ne
  · rw [made, Part.pieces_filled]
    rfl

theorem SegmentPart.fills {part : Part} (h : SegmentPart part)
    (given : ∀ name, part = .hole name →
      ∃ p s, params.lookup (String.ofList name) = some p ∧ p.unicode = .ok s ∧ s ≠ "") :
    Fills params part.source (part.filled (segmentText params)) := by
  cases h with
  | literal plain _ =>
    rw [Part.source, escaped_of_no_braces plain]
    exact .literal plain
  | hole identifier =>
    obtain ⟨p, s, bound, unicode, nonempty⟩ := given _ rfl
    refine .hole identifier bound unicode ?_
    rw [Part.filled, segmentText_of_lookup bound unicode]
    exact encode_renders nonempty

theorem Fills.renders {name cs : List Char} (h : Fills params ('\x7b' :: name ++ ['\x7d']) cs) :
    ∃ p s, params.lookup (String.ofList name) = some p ∧ p.unicode = .ok s ∧ Renders s cs := by
  generalize source : '\x7b' :: name ++ ['\x7d'] = s at h
  cases h with
  | literal plain =>
    subst source
    exact absurd rfl (plain '\x7b' List.mem_cons_self).1
  | hole _ bound unicode renders =>
    obtain rfl := List.append_cancel_right (List.cons.inj source).2
    exact ⟨_, _, bound, unicode, renders⟩

theorem SegmentPart.no_slash {part : Part} (h : SegmentPart part)
    (fills : Fills params part.source (part.filled value)) : '/' ∉ part.filled value := by
  cases h with
  | literal _ whole => exact whole
  | hole _ =>
    obtain ⟨_, _, -, -, renders⟩ := Fills.renders fills
    intro slash
    exact renders.clean _ slash List.mem_cons_self

theorem path_split {r : Route} (segments : ∀ s ∈ r.template.toList.splitOn '/', Segment s)
    (h : r.path params = .ok text) :
    ∃ parts : List Part,
      (∀ part ∈ parts, SegmentPart part ∧
        Fills params part.source (part.filled (segmentText params))) ∧
      r.template.toList.splitOn '/' = parts.map Part.source ∧
      text.toList.splitOn '/' = parts.map (Part.filled (segmentText params)) := by
  obtain ⟨parts, good, split⟩ := parts_of_segments fun s mem =>
    ⟨segments s mem, not_mem_of_mem_splitOn mem⟩
  -- The slashes are texts like others, so the template is read as one list of parts.
  have template : r.template.toList = (slashed parts).flatMap Part.source := by
    rw [slashed_flatMap Part.source rfl, split]
    exact (List.intercalate_splitOn '/').symm
  have proper : ∀ part ∈ slashed parts, part.Proper := by
    intro part mem
    obtain rfl | mem := of_mem_slashed mem
    · exact .text
    · cases good part mem with
      | literal _ _ => exact .text
      | hole identifier => exact .hole identifier
  obtain ⟨given, made⟩ := path_parts template proper h
  have fills : ∀ part ∈ parts, Fills params part.source (part.filled (segmentText params)) := by
    intro part mem
    refine (good part mem).fills fun name same => given name ?_
    exact mem_slashed (same ▸ mem)
  refine ⟨parts, fun part mem => ⟨good part mem, fills part mem⟩, split.symm, ?_⟩
  rw [made, slashed_flatMap _ rfl]
  refine List.splitOn_intercalate '/' ?_ ?_
  · intro s filled
    obtain ⟨part, mem, rfl⟩ := List.mem_map.mp filled
    exact (good part mem).no_slash (fills part mem)
  · intro none
    rw [List.map_eq_nil_iff.mp none] at split
    exact List.splitOn_ne_nil '/' r.template.toList split.symm

/-- The segments of a path are those of its template, filled. -/
theorem path_segments {r : Route} (segments : ∀ s ∈ r.template.toList.splitOn '/', Segment s)
    (h : r.path params = .ok text) :
    List.Forall₂ (Fills params) (r.template.toList.splitOn '/') (text.toList.splitOn '/') := by
  obtain ⟨parts, good, split, whole⟩ := path_split segments h
  rw [whole, split, List.forall₂_map_left_iff, List.forall₂_map_right_iff, List.forall₂_same]
  exact fun part mem => (good part mem).2

theorem forall₂_common {R S : α → β → Prop} {as : List α} {bs : List β}
    (h : List.Forall₂ R as bs) (h' : List.Forall₂ S as bs) (mem : a ∈ as) :
    ∃ b, R a b ∧ S a b := by
  induction h with
  | nil => nomatch mem
  | cons first _ ih =>
    obtain _ | ⟨first', others'⟩ := h'
    obtain rfl | later := List.mem_cons.mp mem
    · exact ⟨_, first, first'⟩
    · exact ih others' later

theorem lookup_text_eq {r : Route} (segments : ∀ s ∈ r.template.toList.splitOn '/', Segment s)
    (mem : '\x7b' :: name.toList ++ ['\x7d'] ∈ r.template.toList.splitOn '/')
    (h : r.path params = .ok text) (h' : r.path params' = .ok text) :
    (params.lookup name).map Parameter.shown = (params'.lookup name).map Parameter.shown := by
  obtain ⟨cs, fills, fills'⟩ :=
    forall₂_common (path_segments segments h) (path_segments segments h') mem
  obtain ⟨p, s, bound, unicode, renders⟩ := fills.renders
  obtain ⟨p', s', bound', unicode', renders'⟩ := fills'.renders
  obtain rfl := Option.some.inj (renders.decodes.symm.trans renders'.decodes)
  rw [String.ofList_toList] at bound bound'
  rw [bound, bound', Option.map_some, Option.map_some, (Parameter.unicode_ok.mp unicode).2,
    (Parameter.unicode_ok.mp unicode').2]

end BotPayload.Route
