import BotPayload.Proofs.Template.Bare
import BotPayload.Route

/-!
# Paths of routes

The path of a route whose template holds bare placeholders only. What decides about it is, in this
order, whether every placeholder has a parameter, whether each of them has a text that is not empty,
and whether all parameters can be encoded, those included that no placeholder names.
-/

namespace BotPayload.Route

def missing (params : Parameters) (names : List String) : List String :=
  names.filter fun name => (params.lookup name).isNone

theorem mem_names {ps : List Template.Piece} (h : .hole p ∈ ps) (ne : p.name ≠ []) :
    String.ofList p.name ∈ names ps := by
  simp only [names, Template.names, List.mem_eraseDups, List.mem_map, List.mem_filterMap]
  exact ⟨p.name, ⟨.hole p, h, by simp [ne]⟩, rfl⟩

-- ---------------------------------------------------------------------------
-- Segments
-- ---------------------------------------------------------------------------

theorem segment_ok {p : Parameter} :
    segment p = .ok t ↔ ∃ s, p.unicode = .ok s ∧ t = Percent.encode segmentSafe s := by
  simp only [segment, bind_ok, pure_ok, eq_comm (b := t)]

theorem segment_error {p : Parameter} : segment p = .error e ↔ p.unicode = .error e := by
  cases h : p.unicode <;> simp [segment, h, bind, Except.bind, pure, Except.pure]

theorem segments_nil : segments [] = pure [] := rfl

theorem segments_cons (name : String) (p : Parameter) (params : Parameters) :
    segments ((name, p) :: params) = (do
      let s ← p.unicode
      let ss ← segments params
      return (name, Percent.encode segmentSafe s) :: ss) := by
  simp only [segments, segment, List.mapM_cons, bind_assoc, pure_bind]

def segmentText (params : Parameters) (name : String) : String :=
  ((params.lookup name).bind fun p => (segment p).toOption).getD ""

theorem segmentText_of_lookup {params : Parameters} (bound : params.lookup name = some p)
    (h : p.unicode = .ok s) : segmentText params name = Percent.encode segmentSafe s := by
  rw [segmentText, bound, Option.bind_some, segment_ok.mpr ⟨s, h, rfl⟩]
  rfl

theorem segments_lookup {params : Parameters} (h : segments params = .ok ss)
    (bound : params.lookup name = some p) :
    ∃ s, p.unicode = .ok s ∧ ss.lookup name = some (Percent.encode segmentSafe s) := by
  induction params generalizing ss with
  | nil => nomatch bound
  | cons first params ih =>
    obtain ⟨key, q⟩ := first
    rw [segments, List.mapM_cons] at h
    obtain ⟨_, head, h⟩ := bind_ok.mp h
    obtain ⟨t, made, named⟩ := bind_ok.mp head
    obtain rfl := pure_ok.mp named
    obtain ⟨tail, rest, h⟩ := bind_ok.mp h
    obtain rfl := pure_ok.mp h
    rw [List.lookup_cons] at bound ⊢
    split at bound
    · obtain rfl := Option.some.inj bound
      obtain ⟨s, unicode, rfl⟩ := segment_ok.mp made
      exact ⟨s, unicode, rfl⟩
    · exact ih rest bound

theorem segments_error {params : Parameters} (h : segments params = .error e) :
    ∃ name p, (name, p) ∈ params ∧ p.unicode = .error e := by
  obtain ⟨⟨name, p⟩, mem, failed⟩ := mapM_error h
  obtain failed | ⟨_, -, h⟩ := bind_error.mp failed
  · exact ⟨name, p, mem, segment_error.mp failed⟩
  · nomatch h

theorem segments_ok {params : Parameters} (h : segments params = .ok ss) :
    ∀ name p, (name, p) ∈ params → ∃ s, p.unicode = .ok s := by
  intro name p mem
  obtain ⟨_, made⟩ := mapM_ok_mem h (name, p) mem
  obtain ⟨_, encoded, -⟩ := bind_ok.mp made
  obtain ⟨s, unicode, -⟩ := segment_ok.mp encoded
  exact ⟨s, unicode⟩

-- ---------------------------------------------------------------------------
-- Paths
-- ---------------------------------------------------------------------------

theorem pathInOrder_of_bare {r : Route} {ps : List Template.Piece}
    (read : Template.pieces (.text []) r.template.toList = (ps, none)) (bare : ∀ p ∈ ps, p.Bare)
    (visit : List String → List String) (params : Parameters) :
    r.pathInOrder visit params =
      if missing params (names ps) ≠ [] then
        .error (.refused "Route" (.parametersMissing (sorted (missing params (names ps)))))
      else do
        (visit (names ps)).forM (requireFilled params)
        let _ ← segments params
        return String.ofList (ps.flatMap (Template.Piece.filled (segmentText params))) := by
  have whole : Template.read r.template.toList = .ok ps := by simp only [Template.read, read]
  have order : r.pathInOrder visit params = (do
      require (missing params (names ps)).isEmpty "Route"
        (.parametersMissing (sorted (missing params (names ps))))
      (visit (names ps)).forM (requireFilled params)
      let ss ← segments params
      let path ← (Template.fill (fun name => ss.lookup name) Template.maxDepth
        r.template.toList).mapError Error.template
      return String.ofList path) := by
    simp only [pathInOrder, whole]
    rfl
  rw [order]
  by_cases given : missing params (names ps) = []
  · have fill {ss : List (String × String)} (made : segments params = .ok ss) :
        Template.fill (fun name => ss.lookup name) Template.maxDepth r.template.toList =
          .ok (ps.flatMap (Template.Piece.filled (segmentText params))) := by
      refine Template.fill_bare read bare fun p hole => ?_
      cases bare _ hole with
      | @hole name plain =>
        have known := List.filter_eq_nil_iff.mp given _ (mem_names hole plain.ne)
        cases bound : params.lookup (String.ofList name) with
        | none => exact absurd (by rw [bound]; rfl) known
        | some q =>
          obtain ⟨s, unicode, found⟩ := segments_lookup made bound
          rw [found, segmentText_of_lookup bound unicode]
    rw [if_neg (not_not.mpr given), given]
    cases (visit (names ps)).forM (requireFilled params) with
    | error e => rfl
    | ok _ =>
      cases made : segments params with
      | error e => rfl
      | ok ss =>
        simp only [bind, Except.bind, fill made]
        rfl
  · rw [if_pos given]
    simp [given, require, bind, Except.bind]

theorem path_of_given {r : Route} {ps : List Template.Piece}
    (read : Template.pieces (.text []) r.template.toList = (ps, none)) (bare : ∀ p ∈ ps, p.Bare)
    (given : missing params (names ps) = []) :
    r.path params = (do
      (names ps).forM (requireFilled params)
      let _ ← segments params
      return String.ofList (ps.flatMap (Template.Piece.filled (segmentText params)))) := by
  rw [path, pathInOrder_of_bare read bare, if_neg (not_not.mpr given)]
  rfl

def requireText (p : Parameter) (name : String) : Except Error Unit := do
  require (!(← p.write).isEmpty) name .empty

theorem requireFilled_of_lookup {params : Parameters} (bound : params.lookup name = some p) :
    requireFilled params name = requireText p name := by
  rw [requireFilled, bound]
  rfl

theorem requireText_ok {p : Parameter} :
    requireText p name = .ok u ↔ p.isWritable = true ∧ p.shown.isEmpty = false := by
  simp only [requireText, bind_ok, Parameter.write_ok, require_ok, Bool.not_eq_true']
  constructor
  · rintro ⟨_, ⟨writable, rfl⟩, nonempty⟩
    exact ⟨writable, nonempty⟩
  · rintro ⟨writable, nonempty⟩
    exact ⟨_, ⟨writable, rfl⟩, nonempty⟩

theorem requireText_error {p : Parameter} (h : requireText p name = .error err) :
    p.write = .error err ∨ p.shown.isEmpty = true ∧ err = .refused name .empty := by
  obtain unwritten | ⟨t, written, h⟩ := bind_error.mp h
  · exact .inl unwritten
  · obtain ⟨empty, rfl⟩ := require_refused.mp h
    obtain ⟨-, rfl⟩ := Parameter.write_ok.mp written
    exact .inr ⟨by simpa using empty, rfl⟩

theorem requireFilled_ok {params : Parameters} (bound : params.lookup name = some p) :
    requireFilled params name = .ok u ↔ p.isWritable = true ∧ p.shown.isEmpty = false := by
  rw [requireFilled_of_lookup bound, requireText_ok]

theorem requireFilled_ne {params : Parameters} (bound : params.lookup name = some p)
    (h : requireFilled params name = .ok u) (unicode : p.unicode = .ok s) : s ≠ "" := by
  obtain ⟨-, nonempty⟩ := (requireFilled_ok bound).mp h
  obtain ⟨-, shown⟩ := Parameter.unicode_ok.mp unicode
  rwa [shown, Text.isEmpty_ofString, decide_eq_false_iff_not] at nonempty

theorem forM_ok {f : α → Except ε PUnit} {as : List α} (h : as.forM f = .ok u) :
    ∀ a ∈ as, f a = .ok () := by
  induction as with
  | nil => exact List.forall_mem_nil _
  | cons a as ih =>
    obtain ⟨_, first, others⟩ := bind_ok.mp h
    exact List.forall_mem_cons.mpr ⟨first, ih others⟩

theorem path_of_bare_ok {r : Route} {ps : List Template.Piece}
    (read : Template.pieces (.text []) r.template.toList = (ps, none)) (bare : ∀ p ∈ ps, p.Bare)
    (h : r.path params = .ok text) :
    (∀ name ∈ names ps, ∃ p s, params.lookup name = some p ∧ p.unicode = .ok s ∧ s ≠ "") ∧
      text.toList = ps.flatMap (Template.Piece.filled (segmentText params)) := by
  rw [path, pathInOrder_of_bare read bare] at h
  split at h
  · nomatch h
  · rename_i given
    obtain ⟨_, filled, h⟩ := bind_ok.mp h
    obtain ⟨ss, made, h⟩ := bind_ok.mp h
    obtain rfl := pure_ok.mp h
    refine ⟨fun name mem => ?_, String.toList_ofList⟩
    have known := List.filter_eq_nil_iff.mp (not_not.mp given) name mem
    cases bound : params.lookup name with
    | none => exact absurd (by rw [bound]; rfl) known
    | some p =>
      obtain ⟨s, unicode, -⟩ := segments_lookup made bound
      exact ⟨p, s, rfl, unicode, requireFilled_ne bound (forM_ok filled name mem) unicode⟩

end BotPayload.Route
