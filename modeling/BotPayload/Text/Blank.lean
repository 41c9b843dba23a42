import BotPayload.Text.CodePointSet

/-!
White space, in the wide sense: the blanks of every script, the line and paragraph separators and
the four information separators of the control characters.
-/

namespace BotPayload

def blanks : CodePointSet := ⟨[
  9, 14, 28, 33, 133, 134, 160, 161, 5760, 5761, 8192, 8203, 8232, 8234, 8239, 8240, 8287, 8288,
  12288, 12289
]⟩

def isBlank (c : Char) : Bool := blanks.contains c

def trimBlanks (cs : List Char) : List Char :=
  ((cs.dropWhile isBlank).reverse.dropWhile isBlank).reverse

theorem dropWhile_isBlank {left mid : List Char} (hl : ∀ c ∈ left, isBlank c = true)
    (hm : ∀ c ∈ mid.head?, isBlank c = false) : (left ++ mid).dropWhile isBlank = mid := by
  rw [List.dropWhile_append_of_pos hl]
  cases mid with
  | nil => rfl
  | cons c mid => simp [hm c rfl]

theorem trimBlanks_append {left mid right : List Char} (hl : ∀ c ∈ left, isBlank c = true)
    (ne : mid ≠ []) (hm : ∀ c ∈ mid, isBlank c = false) (hr : ∀ c ∈ right, isBlank c = true) :
    trimBlanks (left ++ (mid ++ right)) = mid := by
  have first : (left ++ (mid ++ right)).dropWhile isBlank = mid ++ right := by
    obtain ⟨d, rest, rfl⟩ := List.exists_cons_of_ne_nil ne
    refine dropWhile_isBlank hl fun c hc => ?_
    obtain rfl := Option.some.inj hc
    exact hm d List.mem_cons_self
  have last : (right.reverse ++ mid.reverse).dropWhile isBlank = mid.reverse :=
    dropWhile_isBlank (by simpa using hr) fun c hc => hm c (by simpa using List.mem_of_mem_head? hc)
  rw [trimBlanks, first, List.reverse_append, last, List.reverse_reverse]

theorem trimBlanks_split (cs : List Char) :
    ∃ left right, cs = left ++ (trimBlanks cs ++ right) ∧ (∀ c ∈ left, isBlank c = true) ∧
      ∀ c ∈ right, isBlank c = true := by
  let rest := cs.dropWhile isBlank
  refine ⟨cs.takeWhile isBlank, (rest.reverse.takeWhile isBlank).reverse, ?_,
    List.all_eq_true.mp List.all_takeWhile, ?_⟩
  · have back : trimBlanks cs ++ (rest.reverse.takeWhile isBlank).reverse = rest := by
      rw [trimBlanks, ← List.reverse_append, List.takeWhile_append_dropWhile, List.reverse_reverse]
    rw [back, List.takeWhile_append_dropWhile]
  · intro c hc
    exact List.all_eq_true.mp List.all_takeWhile c (List.mem_reverse.mp hc)

theorem trimBlanks_eq_self (h : ∀ c ∈ cs, isBlank c = false) : trimBlanks cs = cs := by
  by_cases ne : cs = []
  · rw [ne]
    rfl
  · have bare : trimBlanks ([] ++ (cs ++ [])) = cs := trimBlanks_append nofun ne h nofun
    rwa [List.append_nil, List.nil_append] at bare

example : isBlank '\u2003' = true ∧ isBlank '\u200b' = false := by decide

end BotPayload
