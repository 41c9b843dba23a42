import BotPayload.Argument
import Mathlib.Data.List.TakeWhile

/-!
# Filling templates of bare placeholders

A placeholder is bare when it is a plain name and nothing else: no part of a value, no number, no
conversion and no layout. A template that consists of text and bare placeholders is filled by
putting the values of the names in their places (`fill_bare`).
-/

namespace BotPayload.Template

structure PlainName (name : List Char) : Prop where
  ne : name ≠ []
  whole : ∀ c ∈ name, c ≠ '.' ∧ c ≠ '['
  noIndex : index? name = .ok none

inductive Piece.Bare : Piece → Prop
  | text : Bare (.text cs)
  | hole : PlainName name → Bare (.hole ⟨name, none, []⟩)

def Piece.filled (value : String → String) : Piece → List Char
  | .text cs => cs
  | .hole p => (value (String.ofList p.name)).toList

theorem index?_of_head (h : digitValue? c = none) : index? (c :: cs) = .ok none := by
  simp [index?, readNumber, h]

theorem resolve_plain {value : String → Option String} (h : PlainName name)
    (bound : value (String.ofList name) = some text) : resolve value name = .ok text.toList := by
  have whole : ∀ c ∈ name, (decide (c ≠ '.') && decide (c ≠ '[')) = true := by
    simpa using h.whole
  have taken : name.takeWhile (fun c => decide (c ≠ '.') && decide (c ≠ '[')) = name :=
    List.takeWhile_eq_self_iff.mpr whole
  have left : name.dropWhile (fun c => decide (c ≠ '.') && decide (c ≠ '[')) = [] :=
    List.dropWhile_eq_nil_iff.mpr whole
  have ne : name.isEmpty = false := List.isEmpty_eq_false_iff.mpr h.ne
  have follow_nil : follow name.length text.toList [] = .ok text.toList := by
    cases name.length <;> rfl
  simp only [resolve, taken, left, h.noIndex, ne, bound, follow_nil]
  rfl

theorem fill_bare {value : String → Option String} {f : String → String} {ps : List Piece}
    (read : pieces (.text []) cs = (ps, none)) (bare : ∀ p ∈ ps, p.Bare)
    (bound : ∀ p, .hole p ∈ ps → value (String.ofList p.name) = some (f (String.ofList p.name))) :
    fill value (depth + 1) cs = .ok (ps.flatMap (Piece.filled f)) := by
  simp only [fill, read, bind_ok, pure_ok]
  refine ⟨ps.map (Piece.filled f), mapM_of_ok fun p hp => ?_, rfl⟩
  cases bare p hp with
  | text => rfl
  | hole plain =>
    simp only [resolve_plain plain (bound _ hp), convert]
    rfl

end BotPayload.Template
