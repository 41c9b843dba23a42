import BotPayload.Style
import BotPayload.Value.Schema

/-!
# What a value without faults looks like

One lemma for each constraint of a schema reads the absence of faults as the condition that the
constraint stands for. Whole numbers are read off untyped values by `Value.whole?`, which takes
both ways of writing a number and no truth value; kinds, constants and style codes all depend on
a number through it alone.
-/

namespace BotPayload

-- ---------------------------------------------------------------------------
-- Whole numbers
-- ---------------------------------------------------------------------------

/-- The whole number that a value is, however it is written. A truth value is none. -/
def Value.whole? : Value → Option Int
  | .int n => some n
  | .float x => x.toInt?
  | _ => none

theorem Binary64.compareInt_eq_iff {x : Binary64} : x.compareInt n = .eq ↔ x.toInt? = some n := by
  cases x with
  | infinite s => cases s <;> simp [compareInt, toInt?]
  | finite s m e =>
    have pos := ratio_pos s m e
    simp only [compareInt, toInt?, Int.compare_eq_eq]
    constructor
    · intro h
      rw [h, if_pos (Int.mul_emod_left ..), Int.mul_ediv_cancel _ (Int.ne_of_gt pos)]
    · intro h
      split at h
      · rename_i whole
        cases h
        exact (Int.ediv_mul_cancel (Int.dvd_of_emod_eq_zero whole)).symm
      · cases h

theorem Value.equalsInt_of_whole {v : Value} (h : v.whole? = some n) (k : Int) :
    v.equalsInt k = (n == k) := by
  cases v with
  | int m => cases h; rfl
  | float x =>
    have eq : x.toInt? = some n := h
    rw [equalsInt, Bool.eq_iff_iff, beq_iff_eq, beq_iff_eq, Binary64.compareInt_eq_iff, eq,
      Option.some.injEq]
  | _ => cases h

theorem Style.ofCode_of_whole {v : Value} (h : v.whole? = some n) : ofCode v = ofCode (.int n) := by
  simp only [ofCode, Value.equalsInt_of_whole h, Value.equalsInt_of_whole (v := .int n) rfl]

theorem Style.ofCode_int (n : Int) :
    (1 ≤ n ∧ n ≤ 5 ∧ ofCode (.int n) ≠ .unknown ∧ (ofCode (.int n)).code = n) ∨
      (¬(1 ≤ n ∧ n ≤ 5) ∧ ofCode (.int n) = .unknown) := by
  by_cases range : 1 ≤ n ∧ n ≤ 5
  · obtain ⟨low, high⟩ := range
    have : n = 1 ∨ n = 2 ∨ n = 3 ∨ n = 4 ∨ n = 5 := by omega
    rcases this with rfl | rfl | rfl | rfl | rfl <;> exact .inl (by decide)
  · refine .inr ⟨range, ?_⟩
    have other : ∀ s ∈ known, (n == s.code) = false := by
      intro s hs
      have : 1 ≤ s.code ∧ s.code ≤ 5 := by
        revert s
        decide
      simp only [beq_eq_false_iff_ne, ne_eq]
      omega
    have none : known.find? (fun s => (Value.int n).equalsInt s.code) = none :=
      List.find?_eq_none.mpr fun s hs => by simpa [Value.equalsInt] using other s hs
    simp [ofCode, none]

-- ---------------------------------------------------------------------------
-- Kinds
-- ---------------------------------------------------------------------------

namespace Kind

@[simp] theorem admits_object : object.admits v = true ↔ ∃ ms, v = .object ms := by
  cases v <;> simp [admits]

@[simp] theorem admits_array : array.admits v = true ↔ ∃ xs, v = .list xs := by
  cases v <;> simp [admits]

@[simp] theorem admits_string : string.admits v = true ↔ ∃ s, v = .str s := by
  cases v <;> simp [admits]

@[simp] theorem admits_integer : integer.admits v = true ↔ ∃ n, v.whole? = some n := by
  cases v <;> simp [admits, Value.whole?, Option.isSome_iff_exists]

@[simp] theorem admits_boolean : boolean.admits v = true ↔ ∃ b, v = .bool b := by
  cases v <;> simp [admits]

@[simp] theorem admits_null : null.admits v = true ↔ v = .null := by
  cases v <;> simp [admits]

end Kind

-- ---------------------------------------------------------------------------
-- Constraints
-- ---------------------------------------------------------------------------

namespace Schema

@[simp] theorem isExactly_iff : isExactly v n = true ↔ v.whole? = some n := by
  cases v with
  | int m => simp [isExactly, Value.equalsInt, Value.whole?]
  | float x =>
    simp [isExactly, Value.equalsInt, Value.whole?, Binary64.compareInt_eq_iff]
  | _ => simp [isExactly, Value.equalsInt, Value.whole?]

@[simp] theorem hasKey_object : hasKey (.object ms) key = true ↔ ∃ x, ms.lookup key = some x := by
  simp [hasKey, Members.hasKey, Option.isSome_iff_exists]

@[simp] theorem faults_kind : faults (.kind kinds) v = [] ↔ ∃ k ∈ kinds, k.admits v = true := by
  change (if kinds.any (·.admits v) then [] else [Fault.wrongKind v kinds]) = [] ↔ _
  split <;> simp_all

@[simp] theorem faults_exactly : faults (.exactly n) v = [] ↔ v.whole? = some n := by
  change (if isExactly v n then [] else [Fault.notExactly n]) = [] ↔ _
  split <;> simp_all

@[simp] theorem faults_required :
    faults (.required keys) v = [] ↔ ∀ key ∈ keys, hasKey v key = true := by
  change (keys.filter fun key => !hasKey v key).map Fault.missingKey = [] ↔ _
  simp

@[simp] theorem faults_items :
    faults (.items schema) (.list xs) = [] ↔ ∀ x ∈ xs, faults schema x = [] :=
  List.flatMap_eq_nil_iff

@[simp] theorem faults_oneOf :
    faults (.oneOf [a, b]) v = [] ↔ (hasKey v a = true ↔ ¬hasKey v b = true) := by
  simp only [faults]
  cases ha : hasKey v a <;> cases hb : hasKey v b <;> simp [ha, hb]

theorem propertyFaults_nil :
    propertyFaults props v = [] ↔ ∀ p ∈ props, ∀ x, v.get? p.1 = some x → faults p.2 x = [] := by
  induction props with
  | nil => simp [propertyFaults]
  | cons p props ih =>
    obtain ⟨key, schema⟩ := p
    simp only [propertyFaults, List.append_eq_nil_iff, ih, List.forall_mem_cons]
    cases v.get? key <;> simp

@[simp] theorem faults_properties :
    faults (.properties props) v = [] ↔
      ∀ p ∈ props, ∀ x, v.get? p.1 = some x → faults p.2 x = [] :=
  propertyFaults_nil

theorem allFaults_nil : allFaults schemas v = [] ↔ ∀ s ∈ schemas, faults s v = [] := by
  induction schemas with
  | nil => simp [allFaults]
  | cons s schemas ih => simp [allFaults, ih]

@[simp] theorem faults_all : faults (.all schemas) v = [] ↔ ∀ s ∈ schemas, faults s v = [] :=
  allFaults_nil

end Schema

end BotPayload
