import BotPayload.Proofs.Route.Path
import BotPayload.Proofs.Template.Parts
import Mathlib.Data.List.Basic
import Mathlib.Data.List.Find

/-!
# Paths as substitutions

A template of text and names gives a path by substitution: every name is replaced by the encoded
text of its parameter, and every doubled brace by one. What stands in the way is a name without a
parameter or, where there is none, an empty parameter or one that cannot be encoded (`Yields`).
Parameters that the template does not mention are encoded too; if they can be, they make no
difference (`pathInOrder_congr`), unless one has the name of the route itself.
-/

namespace BotPayload.Route

open Template (Identifier Part)

def Mentions (parts : List Part) (name : String) : Prop := .hole name.toList ∈ parts

def Encodable (params : Parameters) : Prop := ∀ name p, (name, p) ∈ params → ∃ s, p.unicode = .ok s

/-- What the parts of a template and parameters give. -/
inductive Yields (parts : List Part) (params : Parameters) : Except Error String → Prop
  /-- The names without a parameter are listed in order, each once. -/
  | missing : absent ≠ [] → absent.Pairwise (· < ·) →
      (∀ name, name ∈ absent ↔ Mentions parts name ∧ params.lookup name = none) →
      e.kind = .argument → e.field? = some "Route" →
      e.message = "Missing route parameters: " ++ String.intercalate ", " absent →
      Yields parts params (.error e)
  /-- The error names an empty parameter. -/
  | empty : (∀ name, Mentions parts name → params.lookup name ≠ none) → Mentions parts name →
      params.lookup name = some p → p.unicode = .ok "" → e.kind = .argument →
      e.field? = some name → Yields parts params (.error e)
  /-- The error is that of a parameter without a text in UTF-8, mentioned or not. -/
  | unwritten : (∀ name, Mentions parts name → params.lookup name ≠ none) → (name, p) ∈ params →
      p.unicode = .error e → Yields parts params (.error e)
  | filled : (∀ name, Mentions parts name →
        ∃ p s, params.lookup name = some p ∧ p.unicode = .ok s ∧ s ≠ "") → Encodable params →
      text.toList = parts.flatMap (Part.filled (segmentText params)) →
      Yields parts params (.ok text)

-- ---------------------------------------------------------------------------
-- Names
-- ---------------------------------------------------------------------------

theorem nodup_eraseDups [BEq α] [LawfulBEq α] (as : List α) : as.eraseDups.Nodup := by
  match as with
  | [] => simp
  | a :: as =>
    rw [List.eraseDups_cons, List.nodup_cons]
    exact ⟨by simp, nodup_eraseDups (as.filter fun b => !b == a)⟩
termination_by as.length
decreasing_by exact Nat.lt_succ_of_le (List.length_filter_le _ _)

theorem nodup_names (ps : List Template.Piece) : (names ps).Nodup := nodup_eraseDups _

theorem sorted_pairwise {names : List String} (once : names.Nodup) :
    (sorted names).Pairwise (· < ·) := by
  have ordered : (sorted names).Pairwise fun a b => decide (a ≤ b) = true :=
    List.pairwise_mergeSort (fun a b c ab bc => by simp at *; exact String.le_trans ab bc)
      (fun a b => by simpa using String.le_total a b) names
  have distinct : (sorted names).Nodup := (List.mergeSort_perm names _).nodup_iff.mpr once
  refine (ordered.and distinct).imp fun {a b} h => ?_
  exact String.not_le.mp fun le => h.2 (String.le_antisymm (of_decide_eq_true h.1) le)

section
variable {r : Route} {parts : List Part} {params others : Parameters}
  {visit : List String → List String}

theorem mem_names_pieces (proper : ∀ part ∈ parts, part.Proper) :
    name ∈ names (Part.pieces [] parts) ↔ Mentions parts name := by
  simp only [names, List.mem_eraseDups, List.mem_map, Part.names_pieces proper,
    List.mem_filterMap, Mentions]
  constructor
  · rintro ⟨_, ⟨part, mem, named⟩, rfl⟩
    cases part with
    | text cs => cases named
    | hole name =>
      obtain rfl := Option.some.inj named
      rwa [String.toList_ofList]
  · exact fun mem => ⟨_, ⟨_, mem, rfl⟩, String.ofList_toList⟩

theorem mem_missing (proper : ∀ part ∈ parts, part.Proper) :
    name ∈ missing params (names (Part.pieces [] parts)) ↔
      Mentions parts name ∧ params.lookup name = none := by
  rw [missing, List.mem_filter, mem_names_pieces proper, Option.isNone_iff_eq_none]

-- ---------------------------------------------------------------------------
-- Paths
-- ---------------------------------------------------------------------------

theorem pathInOrder_parts (template : r.template.toList = parts.flatMap Part.source)
    (proper : ∀ part ∈ parts, part.Proper) (visit : List String → List String)
    (params : Parameters) :
    r.pathInOrder visit params =
      if missing params (names (Part.pieces [] parts)) ≠ [] then
        .error (.refused "Route"
          (.parametersMissing (sorted (missing params (names (Part.pieces [] parts))))))
      else do
        (visit (names (Part.pieces [] parts))).forM (requireFilled params)
        let _ ← segments params
        return String.ofList (parts.flatMap (Part.filled (segmentText params))) := by
  have read : Template.pieces (.text []) r.template.toList = (Part.pieces [] parts, none) := by
    rw [template]
    exact Template.pieces_source proper
  rw [pathInOrder_of_bare read (Part.pieces_bare proper), Part.pieces_filled]
  rfl

theorem forM_error {f : α → Except ε PUnit} {as : List α} (h : as.forM f = .error e) :
    ∃ a ∈ as, f a = .error e := by
  induction as with
  | nil => nomatch h
  | cons a as ih =>
    obtain failed | ⟨_, -, later⟩ := bind_error.mp h
    · exact ⟨a, List.mem_cons_self, failed⟩
    · obtain ⟨a', mem, failed⟩ := ih later
      exact ⟨a', List.mem_cons_of_mem _ mem, failed⟩

theorem requireFilled_error {params : Parameters} (h : requireFilled params name = .error e) :
    ∃ p, params.lookup name = some p ∧
      (p.unicode = .ok "" ∧ e = .refused name .empty ∨ p.unicode = .error e) := by
  cases bound : params.lookup name with
  | none => simp [requireFilled, bound] at h
  | some p =>
    simp only [requireFilled, bound] at h
    obtain unwritten | ⟨t, written, h⟩ := bind_error.mp h
    · exact ⟨p, rfl, .inr (bind_error.mpr (.inl unwritten))⟩
    · obtain ⟨empty, rfl⟩ := require_refused.mp h
      obtain rfl := Text.eq_of_isEmpty (Bool.not_eq_false' _ ▸ empty)
      exact ⟨p, rfl, .inl ⟨bind_ok.mpr ⟨_, written, rfl⟩, rfl⟩⟩

theorem forM_congr {f g : α → Except ε PUnit} {as : List α} (h : ∀ a ∈ as, f a = g a) :
    as.forM f = as.forM g := by
  induction as with
  | nil => rfl
  | cons a as ih =>
    obtain ⟨first, others⟩ := List.forall_mem_cons.mp h
    rw [List.forM, List.forM, first, ih others]

theorem exists_segments {params : Parameters} (h : Encodable params) :
    ∃ ss, segments params = .ok ss := by
  cases made : segments params with
  | ok ss => exact ⟨ss, rfl⟩
  | error e =>
    obtain ⟨name, p, mem, failed⟩ := segments_error made
    obtain ⟨s, unicode⟩ := h name p mem
    cases failed.symm.trans unicode

theorem pathInOrder_yields (template : r.template.toList = parts.flatMap Part.source)
    (proper : ∀ part ∈ parts, part.Proper)
    (visits : ∀ names name, name ∈ visit names ↔ name ∈ names) (params : Parameters) :
    Yields parts params (r.pathInOrder visit params) := by
  rw [pathInOrder_parts template proper]
  by_cases given : missing params (names (Part.pieces [] parts)) = []
  · have bound : ∀ name, Mentions parts name → params.lookup name ≠ none := by
      intro name mentioned none
      have absent := (mem_missing proper).mpr ⟨mentioned, none⟩
      rw [given] at absent
      nomatch absent
    have visited (name : String) : name ∈ visit (names (Part.pieces [] parts)) ↔
        Mentions parts name := (visits _ name).trans (mem_names_pieces proper)
    rw [if_neg (not_not.mpr given)]
    -- The order of the visit decides which parameter gives the error, but not whether one does.
    cases tested : (visit (names (Part.pieces [] parts))).forM (requireFilled params) with
    | error e =>
      obtain ⟨name, mem, failed⟩ := forM_error tested
      obtain ⟨p, value, ⟨empty, rfl⟩ | unwritten⟩ := requireFilled_error failed
      · exact .empty bound ((visited name).mp mem) value empty rfl rfl
      · exact .unwritten bound (mem_of_lookup value) unwritten
    | ok _ =>
      cases made : segments params with
      | error e =>
        obtain ⟨name, p, mem, unwritten⟩ := segments_error made
        exact .unwritten bound mem unwritten
      | ok ss =>
        refine .filled (fun name mentioned => ?_) (segments_ok made) String.toList_ofList
        obtain ⟨p, value⟩ := Option.ne_none_iff_exists'.mp (bound name mentioned)
        obtain ⟨s, unicode⟩ := segments_ok made name p (mem_of_lookup value)
        exact ⟨p, s, value, unicode,
          requireFilled_ne value (forM_ok tested name ((visited name).mpr mentioned)) unicode⟩
  · rw [if_pos given]
    have same := List.mergeSort_perm (missing params (names (Part.pieces [] parts)))
      fun a b => decide (a ≤ b)
    refine .missing ?_ (sorted_pairwise ((nodup_names _).filter _)) ?_ rfl rfl rfl
    · exact fun none => given (List.nil_perm.mp (none ▸ same))
    · exact fun name => same.mem_iff.trans (mem_missing proper)

theorem pathInOrder_congr (template : r.template.toList = parts.flatMap Part.source)
    (proper : ∀ part ∈ parts, part.Proper)
    (visits : ∀ names name, name ∈ visit names ↔ name ∈ names)
    (agree : ∀ name, Mentions parts name → others.lookup name = params.lookup name)
    (encodable : Encodable params) (encodable' : Encodable others) :
    r.pathInOrder visit others = r.pathInOrder visit params := by
  have absent : missing others (names (Part.pieces [] parts)) =
      missing params (names (Part.pieces [] parts)) :=
    List.filter_congr fun name mem => by rw [agree name ((mem_names_pieces proper).mp mem)]
  have tested : (visit (names (Part.pieces [] parts))).forM (requireFilled others) =
      (visit (names (Part.pieces [] parts))).forM (requireFilled params) :=
    forM_congr fun name mem => by
      rw [requireFilled, requireFilled,
        agree name ((mem_names_pieces proper).mp ((visits _ _).mp mem))]
  have filled : parts.flatMap (Part.filled (segmentText others)) =
      parts.flatMap (Part.filled (segmentText params)) := by
    refine List.flatMap_congr fun part mem => ?_
    cases part with
    | text cs => rfl
    | hole name =>
      have bound := agree (String.ofList name) (by rwa [Mentions, String.toList_ofList])
      simp only [Part.filled, segmentText, bound]
  obtain ⟨ss, made⟩ := exists_segments encodable
  obtain ⟨ss', made'⟩ := exists_segments encodable'
  rw [pathInOrder_parts template proper, pathInOrder_parts template proper, absent, tested, filled,
    made, made']
  rfl

/-- A call by names substitutes, in whatever order it goes through the names, unless a parameter
has the name of the route itself. A parameter that is not mentioned makes no difference, unless it
cannot be encoded. -/
theorem call_substitutes (template : r.template.toList = parts.flatMap Part.source)
    (proper : ∀ part ∈ parts, part.Proper)
    (visits : ∀ names name, name ∈ visit names ↔ name ∈ names) :
    (∀ params, params.lookup ownName = none → Yields parts params (r.call visit params)) ∧
    (∀ params others, params.lookup ownName = none → others.lookup ownName = none →
      Encodable params → Encodable others →
      (∀ name, Mentions parts name → others.lookup name = params.lookup name) →
      r.call visit others = r.call visit params) ∧
    ∀ params p, params.lookup ownName = some p → r.call visit params = .error .wrongKind := by
  have free {params : Parameters} (own : params.lookup ownName = none) :
      r.call visit params = r.pathInOrder visit params := by simp [call, own]
  refine ⟨fun params own => ?_, fun params others own own' encodable encodable' agree => ?_,
    fun params p own => ?_⟩
  · rw [free own]
    exact pathInOrder_yields template proper visits params
  · rw [free own, free own']
    exact pathInOrder_congr template proper visits agree encodable encodable'
  · simp [call, own]

end

/-- Doubled braces of the template become one, those of a value are encoded, and a parameter that
is not mentioned makes no difference. -/
theorem call_substitutes_braces :
    ∃ parts, "/\x7b\x7b\x7bx\x7d/\x7by\x7d/\x7bx\x7d".toList = parts.flatMap Part.source ∧
      Yields parts [("y", .value (.bool true)), ("x", .value (.str "\x7by\x7d"))]
        (.ok "/\x7b%7By%7D/True/%7By%7D") ∧
      call List.reverse ⟨"GET", "/\x7b\x7b\x7bx\x7d/\x7by\x7d/\x7bx\x7d"⟩
        [("z", .value .null), ("y", .value (.bool true)), ("x", .value (.str "\x7by\x7d"))] =
        .ok "/\x7b%7By%7D/True/%7By%7D" := by
  have x : Identifier ['x'] := ⟨by decide, by simp, by simp; decide⟩
  have y : Identifier ['y'] := ⟨by decide, by simp, by simp; decide⟩
  have template : "/\x7b\x7b\x7bx\x7d/\x7by\x7d/\x7bx\x7d".toList =
      [.text ['/', '\x7b'], .hole ['x'], .text ['/'], .hole ['y'], .text ['/'],
        .hole ['x']].flatMap Part.source := by decide
  have proper : ∀ part ∈ [Part.text ['/', '\x7b'], .hole ['x'], .text ['/'], .hole ['y'],
      .text ['/'], .hole ['x']], part.Proper := by
    simp only [List.forall_mem_cons]
    exact ⟨.text, .hole x, .text, .hole y, .text, .hole x, nofun⟩
  obtain ⟨yields, irrelevant, -⟩ := @call_substitutes
    ⟨"GET", "/\x7b\x7b\x7bx\x7d/\x7by\x7d/\x7bx\x7d"⟩ _ List.reverse template proper
    fun names name => List.mem_reverse
  have made : call List.reverse ⟨"GET", "/\x7b\x7b\x7bx\x7d/\x7by\x7d/\x7bx\x7d"⟩
      [("y", .value (.bool true)), ("x", .value (.str "\x7by\x7d"))] =
        .ok "/\x7b%7By%7D/True/%7By%7D" := by rfl
  have text (s : String) : ∃ t, (Parameter.value (.str s)).unicode = .ok t :=
    ⟨s, Parameter.unicode_ok.mpr ⟨rfl, rfl⟩⟩
  have encodable : Encodable [("y", .value (.bool true)), ("x", .value (.str "\x7by\x7d"))] := by
    simp only [Encodable, List.mem_cons, List.not_mem_nil, or_false, Prod.mk.injEq]
    rintro name p (⟨-, rfl⟩ | ⟨-, rfl⟩)
    · exact ⟨"True", rfl⟩
    · exact text _
  have encodable' : Encodable [("z", .value .null), ("y", .value (.bool true)),
      ("x", .value (.str "\x7by\x7d"))] := by
    intro name p mem
    obtain first | others := List.mem_cons.mp mem
    · cases first
      exact ⟨"None", rfl⟩
    · exact encodable name p others
  refine ⟨_, template, made ▸ yields _ rfl,
    (irrelevant _ _ rfl rfl encodable encodable' ?_).trans made⟩
  intro name mentioned
  have other : name ≠ "z" := by
    rintro rfl
    revert mentioned
    simp [Mentions]
  rw [List.lookup_cons, beq_eq_false_iff_ne.mpr other]

/-- A route cannot be filled at a placeholder of its own name, and a parameter of that name makes a
difference where no placeholder mentions it. So does one that cannot be encoded: a number of too
many digits, or a surrogate. -/
theorem call_own_name :
    "/\x7bself\x7d".toList = [.text ['/'], .hole "self".toList].flatMap Part.source ∧
      Identifier "self".toList ∧
      ¬Yields [.text ['/'], .hole "self".toList] [("self", .value (.str "x"))]
        (call id ⟨"GET", "/\x7bself\x7d"⟩ [("self", .value (.str "x"))]) ∧
      call id ⟨"GET", "/"⟩ [("self", .value (.str "x"))] ≠ call id ⟨"GET", "/"⟩ [] ∧
      call id ⟨"GET", "/"⟩ [("x", .value (.int (Nat.pow 10 Numeral.maxDigits : Nat)))] ≠
        call id ⟨"GET", "/"⟩ [] ∧
      call id ⟨"GET", "/"⟩ [("x", .text ⟨[.surrogate 0]⟩)] ≠ call id ⟨"GET", "/"⟩ [] := by
  have refused (template : String) :
      call id ⟨"GET", template⟩ [("self", .value (.str "x"))] = .error .wrongKind := rfl
  have empty : call id ⟨"GET", "/"⟩ [] = .ok "/" := rfl
  have unwritten {p : Parameter} {e : Error} (h : p.unicode = .error e) :
      call id ⟨"GET", "/"⟩ [("x", p)] ≠ call id ⟨"GET", "/"⟩ [] := by
    have made : segments [("x", p)] = .error e := by
      simp [segments, segment_error.mpr h, bind, Except.bind]
    have failed : call id ⟨"GET", "/"⟩ [("x", p)] = .error e := by
      refine (@pathInOrder_parts ⟨"GET", "/"⟩ [.text ['/']] (by decide) ?_ id _).trans ?_
      · exact List.forall_mem_singleton.mpr .text
      · rw [made]
        rfl
    rw [failed, empty]
    intro same
    cases same
  refine ⟨by decide, ⟨by decide, by simp, by simp; decide⟩, ?_, ?_, ?_, ?_⟩
  · rw [refused]
    rintro (⟨-, -, -, kind, -, -⟩ | ⟨-, -, -, -, kind, -⟩ | ⟨-, mem, failed⟩ | _)
    · cases kind
    · cases kind
    · cases List.mem_singleton.mp mem
      cases failed
  · rw [refused, empty]
    intro same
    cases same
  · have long : (Parameter.value (.int (Nat.pow 10 Numeral.maxDigits : Nat))).write = .error .tooManyDigits :=
      Parameter.write_error.mpr ⟨Numeral.not_isShort_pow, rfl⟩
    exact unwritten (bind_error.mpr (.inl long))
  · exact @unwritten (.text ⟨[.surrogate 0]⟩) (.surrogates ⟨0, 0, 1⟩) rfl

end BotPayload.Route
