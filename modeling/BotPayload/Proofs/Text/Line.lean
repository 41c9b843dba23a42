import BotPayload.Number.Decimal
import BotPayload.Text.Quoted

/-!
# Texts on one line

Printing ends a line with a break, so that what is printed is one line when it holds no break
itself. Quoted text never does, whatever text is quoted.
-/

namespace BotPayload

def OneLine (s : String) : Prop := '\n' ∉ s.toList

instance (s : String) : Decidable (OneLine s) := inferInstanceAs (Decidable ('\n' ∉ s.toList))

theorem OneLine.ofList {cs : List Char} (h : '\n' ∉ cs) : OneLine (String.ofList cs) := by
  rwa [OneLine, String.toList_ofList]

theorem oneLine_append : OneLine (s ++ t) ↔ OneLine s ∧ OneLine t := by
  rw [OneLine, String.toList_append, List.mem_append, not_or]
  exact Iff.rfl

theorem mem_intercalate {c : Char} {sep : List Char} {parts : List (List Char)}
    (h : c ∈ List.intercalate sep parts) : c ∈ sep ∨ ∃ part ∈ parts, c ∈ part := by
  induction parts with
  | nil => simp at h
  | cons first others ih =>
    cases others with
    | nil => exact .inr ⟨first, List.mem_cons_self, by simpa using h⟩
    | cons second others =>
      rw [List.intercalate_cons_cons, List.mem_append, List.mem_append] at h
      obtain (head | between) | tail := h
      · exact .inr ⟨first, List.mem_cons_self, head⟩
      · exact .inl between
      · obtain inside | ⟨part, mem, inside⟩ := ih tail
        · exact .inl inside
        · exact .inr ⟨part, List.mem_cons_of_mem _ mem, inside⟩

theorem oneLine_intercalate {sep : String} {parts : List String} (between : OneLine sep)
    (h : ∀ part ∈ parts, OneLine part) : OneLine (String.intercalate sep parts) := by
  rw [OneLine, String.toList_intercalate]
  intro broken
  obtain inside | ⟨_, image, inside⟩ := mem_intercalate broken
  · exact between inside
  · obtain ⟨part, mem, rfl⟩ := List.mem_map.mp image
    exact h part mem inside

theorem hexDigits_one_line {case : HexCase} {width n : Nat} :
    '\n' ∉ hexDigits case width n := by
  have digit : ∀ d < 16, hexChar case d ≠ '\n' := by cases case <;> decide
  induction width with
  | zero => exact List.not_mem_nil
  | succ width ih =>
    rw [hexDigits, List.mem_cons, not_or]
    exact ⟨(digit _ (Nat.mod_lt _ (by decide))).symm, ih⟩

theorem oneLine_intText (n : Int) : OneLine (intText n) := by
  have digit : ∀ d < 10, digitChar d ≠ '\n' := by decide
  intro broken
  obtain sign | ⟨d, small, same⟩ := mem_intText broken
  · nomatch sign
  · exact digit d small same.symm

theorem oneLine_natText (n : Nat) : OneLine (natText n) := by
  have digit : ∀ d < 10, digitChar d ≠ '\n' := by decide
  rw [OneLine, natText, String.toList_ofList]
  intro broken
  obtain ⟨d, small, same⟩ := mem_natDigits broken
  exact digit d small same.symm

theorem mark_ne_break (cs : List Char) : Quoted.mark cs ≠ '\n' := by
  unfold Quoted.mark
  split <;> decide

theorem quoted_escape_one_line {shown : Char → Bool} {q : Char} (quote : q ≠ '\n') (c : Char) :
    '\n' ∉ Quoted.escape shown q c := by
  have slash : '\n' ≠ '\\' := by decide
  unfold Quoted.escape
  split
  · rename_i mark
    obtain rfl | rfl := mark <;> simp [quote.symm]
  split
  · decide
  split
  · decide
  split
  · decide
  split
  · rename_i other _ _
    simpa using fun same : '\n' = c => other same.symm
  split
  · simp [hexDigits_one_line]
  split
  · simp [hexDigits_one_line]
  · simp [hexDigits_one_line]

theorem oneLine_quoted (s : String) : OneLine (quoted s) := by
  have quote := mark_ne_break s.toList
  simp only [OneLine, quoted, Quoted.encode, String.toList_ofList, List.mem_cons, List.mem_append,
    List.mem_flatMap, List.not_mem_nil, or_false, not_or, not_exists, not_and]
  exact ⟨quote.symm, fun c _ => quoted_escape_one_line quote c, quote.symm⟩

end BotPayload
