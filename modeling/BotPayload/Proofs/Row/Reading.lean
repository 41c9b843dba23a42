import Mathlib.Data.List.Forall2
import BotPayload.Proofs.Button.Reading
import BotPayload.Row.Payload

/-!
# What a payload says about a row

A row is read from a payload of the right shape whose buttons are all read; `decode_some` and
`decode_none` say which row that is, and when there is none.
-/

namespace BotPayload

theorem mapM_ok_forall₂ {f : α → Except ε β} {as : List α} :
    as.mapM f = .ok bs ↔ List.Forall₂ (fun a b => f a = .ok b) as bs := by
  induction as generalizing bs with
  | nil =>
    rw [List.mapM_nil, pure_ok, List.forall₂_nil_left_iff]
    exact eq_comm
  | cons a as ih =>
    simp only [List.mapM_cons, bind_ok, pure_ok, ih, List.forall₂_cons_left_iff]
    constructor
    · rintro ⟨b, head, bs, tail, rfl⟩
      exact ⟨b, bs, head, tail, rfl⟩
    · rintro ⟨b, bs, head, tail, rfl⟩
      exact ⟨b, head, bs, tail, rfl⟩

theorem forall₂_mem_right {R : α → β → Prop} {as : List α} {bs : List β}
    (h : List.Forall₂ R as bs) : ∀ b ∈ bs, ∃ a ∈ as, R a b := by
  induction h with
  | nil => simp
  | cons head _ ih =>
    intro b hb
    rcases List.mem_cons.mp hb with rfl | hb
    · exact ⟨_, List.mem_cons_self, head⟩
    · obtain ⟨a, ha, related⟩ := ih b hb
      exact ⟨a, List.mem_cons_of_mem _ ha, related⟩

namespace ActionRow

theorem ofArguments_ok {args : List (Argument Button)} :
    ofArguments args = .ok r ↔
      args = r.buttons.map .given ∧ r.buttons ≠ [] ∧ r.buttons.length ≤ maxButtons := by
  simp only [ofArguments, bind_ok, allGiven_ok, require_ok, pure_ok, Bool.not_eq_true',
    List.isEmpty_eq_false_iff, decide_eq_true_eq]
  constructor
  · rintro ⟨bs, given, _, ne, _, few, rfl⟩
    exact ⟨given, ne, few⟩
  · rintro ⟨given, ne, few⟩
    exact ⟨r.buttons, given, (), ne, (), few, rfl⟩

theorem decode_result (v : Value) : (decode v).result = (do
    require (schema.faults v).isEmpty "ActionRow" (.rowPayload (schema.faults v))
    let buttons ← (decodeButtons (components v)).result
    if buttons.isEmpty then return none else some <$> ofArguments (buttons.map .given)) := by
  simp only [decode, Logged.result_bind, Logged.result_lift]
  congr
  funext _
  congr
  funext bs
  split
  · rfl
  · rw [Logged.result_map, Logged.result_lift]

/-- The buttons of a row are its components of the type of buttons; the others have no part in the
result. -/
theorem decodeButtons_result (components : List Value) :
    (decodeButtons components).result =
      (components.filter isButton).mapM fun c => (Button.decode c).result := by
  induction components with
  | nil => rfl
  | cons c rest ih =>
    cases button : isButton c with
    | false =>
      simp only [decodeButtons, button, Bool.false_eq_true, ↓reduceIte, Logged.result_bind,
        Logged.result_report, List.filter_cons]
      exact ih
    | true =>
      simp only [decodeButtons, button, ↓reduceIte, Logged.result_bind, Logged.result_pure, ih,
        List.filter_cons, List.mapM_cons]
      rfl

theorem schema_faults {v : Value} :
    schema.faults v = [] ↔ (∃ t, v.get? "type" = some t ∧ t.whole? = some 1) ∧
      ∃ cs, v.get? "components" = some (.list cs) ∧ ∀ c ∈ cs, ∃ ms, c = .object ms := by
  simp only [schema, Schema.faults_all, List.forall_mem_cons, Schema.faults_properties,
    Schema.faults_required, Schema.faults_exactly]
  constructor
  · rintro ⟨object, ⟨hasType, hasComponents, -⟩, ⟨type, components, -⟩, -⟩
    obtain ⟨ms, rfl⟩ : ∃ ms, v = .object ms := by simpa using object
    obtain ⟨t, ht⟩ := Schema.hasKey_object.mp hasType
    obtain ⟨w, hw⟩ := Schema.hasKey_object.mp hasComponents
    obtain ⟨array, items, -⟩ := components w hw
    obtain ⟨cs, rfl⟩ : ∃ cs, w = .list cs := by simpa using array
    exact ⟨⟨t, ht, type t ht⟩, cs, hw, by simpa using items⟩
  · rintro ⟨⟨t, ht, one⟩, cs, hcs, items⟩
    cases v with
    | object ms =>
      refine ⟨by simp, ⟨Schema.hasKey_object.mpr ⟨t, ht⟩, Schema.hasKey_object.mpr ⟨_, hcs⟩,
        List.forall_mem_nil _⟩, ⟨?_, ?_, List.forall_mem_nil _⟩, List.forall_mem_nil _⟩
      · intro x hx
        cases ht.symm.trans hx
        exact one
      · intro x hx
        cases hcs.symm.trans hx
        simpa using items
    | _ => cases ht

variable {v : Value} {r : ActionRow}

theorem decode_ok {o : Option ActionRow} :
    (decode v).result = .ok o ↔ schema.faults v = [] ∧ ∃ bs,
      List.Forall₂ (fun c b => (Button.decode c).result = .ok b) ((components v).filter isButton)
        bs ∧
      if bs = [] then o = none else bs.length ≤ maxButtons ∧ o = some ⟨bs⟩ := by
  simp only [decode_result, decodeButtons_result, bind_ok, require_ok, List.isEmpty_iff,
    mapM_ok_forall₂]
  constructor
  · rintro ⟨_, shape, bs, read, h⟩
    refine ⟨shape, bs, read, ?_⟩
    split
    · rename_i empty
      rw [if_pos empty, pure_ok] at h
      exact h.symm
    · rename_i ne
      rw [if_neg ne] at h
      obtain ⟨r, built, rfl⟩ := map_ok.mp h
      obtain ⟨given, -, few⟩ := ofArguments_ok.mp built
      obtain rfl := map_given_inj.mp given
      exact ⟨few, rfl⟩
  · rintro ⟨shape, bs, read, h⟩
    refine ⟨(), shape, bs, read, ?_⟩
    split at h
    · rename_i empty
      rw [if_pos empty, h]
      rfl
    · rename_i ne
      obtain ⟨few, rfl⟩ := h
      rw [if_neg ne]
      exact map_ok.mpr ⟨⟨bs⟩, ofArguments_ok.mpr ⟨rfl, ne, few⟩, rfl⟩

theorem decode_some :
    (decode v).result = .ok (some r) ↔ schema.faults v = [] ∧
      List.Forall₂ (fun c b => (Button.decode c).result = .ok b) ((components v).filter isButton)
        r.buttons ∧
      r.buttons ≠ [] ∧ r.buttons.length ≤ maxButtons := by
  rw [decode_ok]
  constructor
  · rintro ⟨shape, bs, read, h⟩
    split at h
    · nomatch h
    · rename_i ne
      obtain ⟨few, h⟩ := h
      obtain rfl := Option.some.inj h
      exact ⟨shape, read, ne, few⟩
  · rintro ⟨shape, read, ne, few⟩
    exact ⟨shape, _, read, by rw [if_neg ne]; exact ⟨few, rfl⟩⟩

theorem decode_none :
    (decode v).result = .ok none ↔ schema.faults v = [] ∧ (components v).filter isButton = [] := by
  rw [decode_ok]
  constructor
  · rintro ⟨shape, bs, read, h⟩
    by_cases empty : bs = []
    · rw [empty] at read
      exact ⟨shape, List.forall₂_nil_right_iff.mp read⟩
    · rw [if_neg empty] at h
      nomatch h.2
  · rintro ⟨shape, empty⟩
    exact ⟨shape, [], by rw [empty]; exact .nil, by rw [if_pos rfl]⟩

end ActionRow

end BotPayload
