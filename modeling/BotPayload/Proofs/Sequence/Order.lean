import Mathlib.Data.List.FinRange
import Mathlib.Data.List.Sort

/-!
# Order in sequences

The last write of a sequence, and reorderings that keep some items in order. Items that all stay in
order among each other are the same list in both sequences (`Reordering.filter_eq`), and so are
those of them that stand before one of them (`Reordering.filter_take_eq`).
-/

namespace BotPayload

theorem getLast?_filterMap_cons (write : α → Option β) (a : α) (as : List α) :
    ((a :: as).filterMap write).getLast? = (as.filterMap write).getLast?.or (write a) := by
  cases written : write a with
  | none => simp [written]
  | some b => cases rest : (as.filterMap write).getLast? <;>
      simp [written, List.getLast?_cons, rest]

-- ---------------------------------------------------------------------------
-- Places
-- ---------------------------------------------------------------------------

/-- The items of a sequence at some of its places, in their order. -/
def picked (as : List α) (keep : Fin as.length → Bool) : List α :=
  ((List.finRange as.length).filter keep).map as.get

theorem filter_eq_picked (p : α → Bool) (as : List α) :
    as.filter p = picked as fun i => p as[i] := by
  conv_lhs => rw [← List.map_get_finRange as]
  rw [List.filter_map]
  rfl

theorem take_finRange (i : Fin n) :
    (List.finRange n).take i = (List.finRange n).filter (· < i) := by
  have sorted := (List.sortedLT_finRange n).pairwise
  refine List.Pairwise.eq_of_mem_iff (sorted.sublist (List.take_sublist _ _)) (sorted.filter _) ?_
  intro j
  rw [List.mem_take_iff_getElem, List.mem_filter]
  constructor
  · rintro ⟨k, hk, rfl⟩
    simpa [Fin.lt_def] using (Nat.lt_min.mp hk).1
  · rintro ⟨-, before⟩
    have before : (j : Nat) < i := Fin.lt_def.mp (of_decide_eq_true before)
    exact ⟨j, by simp [before], by simp⟩

theorem filter_take_eq_picked (p : α → Bool) (as : List α) (i : Fin as.length) :
    (as.take i).filter p = picked as fun j => j < i && p as[j] := by
  have places : as.take i = ((List.finRange as.length).filter (· < i)).map as.get := by
    rw [← take_finRange, List.map_take, List.map_get_finRange]
  rw [places, List.filter_map, List.filter_filter, picked]
  congr 2
  funext j
  exact Bool.and_comm _ _

-- ---------------------------------------------------------------------------
-- Reorderings
-- ---------------------------------------------------------------------------

/-- The sequence `bs` is `as` in another order: `place` tells where each item goes, and of two
dependent items the first stays first. -/
structure Reordering (Dependent : α → α → Prop) (as bs : List α) where
  place : Fin as.length ≃ Fin bs.length
  moved : ∀ i, bs[place i] = as[i]
  keeps : ∀ i j, i < j → Dependent as[i] as[j] → place i < place j

namespace Reordering

variable {Dependent : α → α → Prop} {as bs : List α} {p : α → Bool}

theorem picked_eq (r : Reordering Dependent as bs) {keep : Fin as.length → Bool}
    {keep' : Fin bs.length → Bool} (same : ∀ i, keep' (r.place i) = keep i)
    (ordered : ∀ i j, i < j → keep i → keep j → r.place i < r.place j) :
    picked bs keep' = picked as keep := by
  have places : (List.finRange bs.length).filter keep' =
      ((List.finRange as.length).filter keep).map r.place := by
    refine List.Pairwise.eq_of_mem_iff ((List.sortedLT_finRange _).pairwise.filter _) ?_ ?_
    · rw [List.pairwise_map]
      refine ((List.sortedLT_finRange _).pairwise.filter keep).imp_of_mem fun hi hj before => ?_
      exact ordered _ _ before (List.mem_filter.mp hi).2 (List.mem_filter.mp hj).2
    · intro k
      obtain ⟨i, rfl⟩ := r.place.surjective k
      simp [same]
  rw [picked, picked, places, List.map_map]
  exact List.map_congr_left fun i _ => r.moved i

theorem place_lt_iff (r : Reordering Dependent as bs)
    (dependent : ∀ a b, p a → p b → Dependent a b) {i j : Fin as.length} (hi : p as[i])
    (hj : p as[j]) : r.place j < r.place i ↔ j < i := by
  constructor
  · intro before
    rcases Nat.lt_trichotomy j i with lt | eq | gt
    · exact lt
    · cases Fin.ext eq
      exact absurd before (lt_irrefl _)
    · exact absurd (r.keeps _ _ gt (dependent _ _ hi hj)) (lt_asymm before)
  · intro before
    exact r.keeps _ _ before (dependent _ _ hj hi)

/-- Items that depend on each other are the same list before and after. -/
theorem filter_eq (r : Reordering Dependent as bs)
    (dependent : ∀ a b, p a → p b → Dependent a b) : bs.filter p = as.filter p := by
  rw [filter_eq_picked, filter_eq_picked]
  refine r.picked_eq (fun i => by rw [r.moved]) fun i j before hi hj => ?_
  exact r.keeps i j before (dependent _ _ hi hj)

theorem filter_take_eq (r : Reordering Dependent as bs)
    (dependent : ∀ a b, p a → p b → Dependent a b) {i : Fin as.length} (hi : p as[i]) :
    (bs.take (r.place i)).filter p = (as.take i).filter p := by
  rw [filter_take_eq_picked, filter_take_eq_picked]
  refine r.picked_eq (fun j => ?_) fun j k before hj hk => ?_
  · rw [r.moved]
    by_cases hj : p as[j] = true
    · rw [hj, Bool.and_true, Bool.and_true, decide_eq_decide]
      exact r.place_lt_iff dependent hi hj
    · rw [Bool.eq_false_iff.mpr hj, Bool.and_false, Bool.and_false]
  · simp only [Bool.and_eq_true] at hj hk
    exact r.keeps j k before (dependent _ _ hj.2 hk.2)

theorem swap_later {n : Nat} (i : Nat) (h : i + 2 < n + 2) :
    Equiv.swap (0 : Fin (n + 2)) 1 ⟨i + 2, h⟩ = ⟨i + 2, h⟩ :=
  Equiv.swap_apply_of_ne_of_ne (fun eq => nomatch eq) fun eq => nomatch eq

/-- Neighbours that do not depend on each other, in the other order. -/
def swap {a b : α} (independent : ¬Dependent a b) (rest : List α) :
    Reordering Dependent (a :: b :: rest) (b :: a :: rest) where
  place := Equiv.swap (0 : Fin (rest.length + 2)) 1
  moved i := by
    match i with
    | ⟨0, _⟩ => rfl
    | ⟨1, _⟩ => rfl
    | ⟨i + 2, h⟩ =>
      exact congrArg (fun j : Fin (rest.length + 2) => (b :: a :: rest)[j]) (swap_later i h)
  keeps i j before dependent := by
    match i, j with
    | ⟨0, _⟩, ⟨1, _⟩ => exact absurd dependent independent
    | ⟨0, _⟩, ⟨j + 2, h⟩ => exact (swap_later j h).symm ▸ Fin.lt_def.mpr (by simp)
    | ⟨1, _⟩, ⟨j + 2, h⟩ => exact (swap_later j h).symm ▸ Fin.lt_def.mpr (by simp)
    | ⟨i + 2, h⟩, ⟨j + 2, h'⟩ => exact (swap_later i h).symm ▸ (swap_later j h').symm ▸ before

end Reordering

end BotPayload
