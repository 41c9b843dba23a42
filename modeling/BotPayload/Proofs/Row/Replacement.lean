import BotPayload.Proofs.Row.Reachable
import BotPayload.Proofs.Row.RoundTrip

/-!
# A button in place of another

An index points at an entry of a row from the start or, if it is negative, from the end (`entry`).
Replacing, looking up and encoding agree on the entry: what comes of a replacement is the row with
that entry set and all others kept (`replace_eq`, `get_put`), and nothing else is ever refused than
an index without an entry. An index of too many digits has none, and the error cannot name it.
-/

namespace BotPayload.ActionRow

/-- Where an index points in a list of `n`. -/
def entry (n : Nat) (index : Int) : Int := if index < 0 then index + n else index

def Indexes (n : Nat) (index : Int) : Prop := -n ≤ index ∧ index < n

def put (r : ActionRow) (k : Nat) (b : Button) : ActionRow := ⟨r.buttons.set k b⟩

def Known (r : ActionRow) : Prop := ∀ b ∈ r.buttons, b.style ≠ .unknown

/-- The row `r'` is `r` with `b` where the index points. -/
structure Updated (r : ActionRow) (index : Int) (b : Button) (r' : ActionRow) : Prop where
  /-- What is put together from the buttons of `r'` is `r'`, which is a row therefore. -/
  accepted : ofArguments (r'.buttons.map .given) = .ok r'
  wellFormed : r.WellFormed → b.WellFormed → r'.WellFormed
  size : r'.size = r.size
  buttons : ∀ k : Nat, r'.buttons[k]? = if entry r.size index = k then some b else r.buttons[k]?
  get : ∀ i, r'.get i = if entry r.size i = entry r.size index then .ok b else r.get i
  back : ∃ old, r.get index = .ok old ∧ r'.replace index (.given old) = .ok r
  encoded : r.Known → b.style ≠ .unknown → ∃ cs c, r.encode = .ok (body cs) ∧ b.encode = .ok c ∧
    r'.encode = .ok (body (cs.set (entry r.size index).toNat c))

variable {r : ActionRow} {i j : Int} {b c : Button} {k l n : Nat}

-- ---------------------------------------------------------------------------
-- Indices
-- ---------------------------------------------------------------------------

theorem position?_eq_some : position? n i = some k ↔ k < n ∧ entry n i = k := by
  unfold position? entry
  split
  · rw [Option.some_inj]
    split <;> omega
  · simp only [reduceCtorEq, false_iff]
    split <;> omega

theorem position?_eq_none : position? n i = none ↔ ¬Indexes n i := by
  simp [position?, Indexes]

theorem indexes_iff : Indexes n i ↔ ∃ k : Nat, k < n ∧ entry n i = k := by
  simp only [← position?_eq_some, ← Option.isSome_iff_exists, Option.isSome_iff_ne_none, ne_eq,
    position?_eq_none, not_not]

-- ---------------------------------------------------------------------------
-- Entries
-- ---------------------------------------------------------------------------

@[simp] theorem size_put (r : ActionRow) (k : Nat) (b : Button) : (r.put k b).size = r.size :=
  List.length_set

theorem put_put (r : ActionRow) (k : Nat) (b c : Button) : (r.put k b).put k c = r.put k c :=
  congrArg mk (List.set_set b)

theorem put_comm (r : ActionRow) (b c : Button) (h : k ≠ l) :
    (r.put k b).put l c = (r.put l c).put k b :=
  congrArg mk (List.set_comm b c h)

theorem put_get (h : r.buttons[k]? = some b) : r.put k b = r := by
  obtain ⟨inside, rfl⟩ := List.getElem?_eq_some_iff.mp h
  exact congrArg mk (List.set_getElem_self inside)

theorem getElem?_put (inside : k < r.size) (b : Button) (l : Nat) :
    (r.put k b).buttons[l]? = if k = l then some b else r.buttons[l]? := by
  rw [put, List.getElem?_set]
  by_cases same : k = l
  · subst same
    rw [if_pos rfl, if_pos rfl]
    exact if_pos inside
  · rw [if_neg same, if_neg same]

theorem exists_entry (inside : k < r.size) : ∃ b, r.buttons[k]? = some b :=
  ⟨_, List.getElem?_eq_getElem inside⟩

theorem get_eq (here : r.buttons[k]? = some b) (h : entry r.size i = k) : r.get i = .ok b := by
  have inside : k < r.size := (List.getElem?_eq_some_iff.mp here).1
  rw [get, position?_eq_some.mpr ⟨inside, h⟩, Option.bind_some, here]

theorem get_outside (h : ¬Indexes r.size i) : r.get i = .error .positionOutOfRange := by
  rw [get, position?_eq_none.mpr h]
  rfl

theorem get_put (inside : k < r.size) (b : Button) (i : Int) :
    (r.put k b).get i = if entry r.size i = k then .ok b else r.get i := by
  by_cases range : Indexes r.size i
  · obtain ⟨l, within, points⟩ := indexes_iff.mp range
    obtain ⟨old, there⟩ := exists_entry within
    have points' : entry (r.put k b).size i = l := (size_put r k b).symm ▸ points
    rw [get_eq there points, points]
    by_cases same : k = l
    · rw [if_pos (congrArg _ same.symm)]
      exact get_eq (by rw [getElem?_put inside, if_pos same]) points'
    · have apart : (l : Int) ≠ k := fun eq => same (Int.ofNat.inj eq).symm
      rw [if_neg apart]
      exact get_eq (by rw [getElem?_put inside, if_neg same, there]) points'
  · have other : entry r.size i ≠ k := fun points => range (indexes_iff.mpr ⟨k, inside, points⟩)
    rw [if_neg other, get_outside range, get_outside]
    rwa [size_put]

theorem forall_mem_put {P : Button → Prop} (old : ∀ x ∈ r.buttons, P x) (new : P b) (k : Nat) :
    ∀ x ∈ (r.put k b).buttons, P x := by
  intro x hx
  obtain kept | rfl := List.mem_or_eq_of_mem_set hx
  · exact old x kept
  · exact new

theorem WellFormed.put (h : r.WellFormed) (new : b.WellFormed) (k : Nat) :
    (r.put k b).WellFormed where
  nonempty := Nat.le_trans h.nonempty (Nat.le_of_eq (size_put r k b).symm)
  size_le := Nat.le_trans (Nat.le_of_eq (size_put r k b)) h.size_le
  buttons := forall_mem_put h.buttons new k

theorem encode_put (known : r.Known) (new : b.style ≠ .unknown) :
    (r.put k b).encode = .ok (body ((r.buttons.map Button.body).set k b.body)) :=
  encode_ok.mpr ⟨forall_mem_put known new k, by rw [put, List.map_set]⟩

-- ---------------------------------------------------------------------------
-- Replacing
-- ---------------------------------------------------------------------------

theorem ofArguments_given :
    ofArguments (r.buttons.map .given) = .ok r ↔
      r.buttons ≠ [] ∧ r.buttons.length ≤ maxButtons := by
  simp only [ofArguments_ok, true_and]

theorem Reachable.accepted (held : r.Reachable) : ofArguments (r.buttons.map .given) = .ok r :=
  ofArguments_given.mpr held.size

theorem ofArguments_put (row : ofArguments (r.buttons.map .given) = .ok r) (k : Nat)
    (b : Button) : ofArguments ((r.put k b).buttons.map .given) = .ok (r.put k b) := by
  rw [ofArguments_given] at row ⊢
  simpa [put] using row

theorem replace_eq (row : ofArguments (r.buttons.map .given) = .ok r) (inside : k < r.size)
    (h : entry r.size i = k) (b : Button) : r.replace i (.given b) = .ok (r.put k b) := by
  rw [replace, position?_eq_some.mpr ⟨inside, h⟩]
  change ofArguments ((r.buttons.map .given).set k (.given b)) = _
  rw [← List.map_set]
  exact ofArguments_put row k b

theorem replace_outside (h : ¬Indexes r.size i) (b : Argument Button) :
    r.replace i b =
      .error (if Numeral.isShort i then .noButtonAt (intText i) else .tooManyDigits) := by
  rw [replace, position?_eq_none.mpr h]
  cases short : Numeral.isShort i with
  | true =>
    have written : (Value.int i).write = .ok (intText i) := Value.write_ok.mpr ⟨short, rfl⟩
    rw [written]
    rfl
  | false =>
    have unwritten : (Value.int i).write = .error .tooManyDigits :=
      Value.write_error.mpr ⟨short, rfl⟩
    rw [unwritten]
    rfl

theorem not_indexes_of_long (long : Numeral.isShort i = false) (few : n ≤ maxButtons) :
    ¬Indexes n i := by
  rintro ⟨low, high⟩
  have five : Numeral.isShort (maxButtons : Nat) = true := rfl
  have short : Numeral.isShort i = true := Numeral.isShort_of_le (by omega) five
  rw [long] at short
  cases short

theorem replace_long (long : Numeral.isShort i = false) (few : r.size ≤ maxButtons)
    (b : Argument Button) : r.replace i b = .error .tooManyDigits := by
  rw [replace_outside (not_indexes_of_long long few), long]
  rfl

theorem updated_put (row : ofArguments (r.buttons.map .given) = .ok r) (inside : k < r.size)
    (h : entry r.size i = k) (b : Button) : Updated r i b (r.put k b) where
  accepted := ofArguments_put row k b
  wellFormed valid new := valid.put new k
  size := size_put r k b
  buttons l := by
    rw [h, getElem?_put inside]
    simp only [Int.ofNat_inj]
  get j := by rw [get_put inside, h]
  back := by
    obtain ⟨old, here⟩ := exists_entry inside
    refine ⟨old, get_eq here h, ?_⟩
    have again := replace_eq (ofArguments_put row k b) ((size_put r k b).symm ▸ inside)
      ((size_put r k b).symm ▸ h) old
    rw [again, put_put, put_get here]
  encoded known new := ⟨_, _, encode_ok.mpr ⟨known, rfl⟩, Button.encode_ok.mpr ⟨new, rfl⟩, by
    rw [h, Int.toNat_natCast, encode_put known new]⟩

theorem replace_twice (row : ofArguments (r.buttons.map .given) = .ok r) (inside : k < r.size)
    (h : entry r.size i = k) (within : l < r.size) (h' : entry r.size j = l) :
    (do (← r.replace i (.given b)).replace j (.given c)) = .ok ((r.put k b).put l c) := by
  rw [replace_eq row inside h]
  exact replace_eq (ofArguments_put row k b) ((size_put r k b).symm ▸ within)
    ((size_put r k b).symm ▸ h') c

/-- Replacing a button sets the entry at which the index points, and fails for nothing else than
the lack of such an entry. Of two replacements the order does not matter unless they are of the same
entry, where the later one is all that is left. -/
theorem replace_updates (made : ofArguments args = .ok r) (i : Int) (b : Button) :
    (Numeral.isShort i = true →
      ((∃ err, r.replace i (.given b) = .error err ∧ err.kind = .position) ↔
        i < -r.size ∨ r.size ≤ i)) ∧
    (Numeral.isShort i = false → r.replace i (.given b) = .error .tooManyDigits) ∧
    (Indexes r.size i → ∃ r', r.replace i (.given b) = .ok r' ∧ Updated r i b r') ∧
    ∀ j c, Indexes r.size i → Indexes r.size j →
      (entry r.size i ≠ entry r.size j →
        (do (← r.replace i (.given b)).replace j (.given c)) =
          do (← r.replace j (.given c)).replace i (.given b)) ∧
      (entry r.size i = entry r.size j →
        (do (← r.replace i (.given b)).replace j (.given c)) = r.replace j (.given c)) := by
  have row : ofArguments (r.buttons.map .given) = .ok r := (ofArguments_ok.mp made).1 ▸ made
  refine ⟨?_, ?_, ?_, ?_⟩
  · intro short
    constructor
    · rintro ⟨err, failed, -⟩
      by_contra range
      obtain ⟨k, inside, points⟩ := indexes_iff.mp (show Indexes r.size i by unfold Indexes; omega)
      cases failed.symm.trans (replace_eq row inside points b)
    · intro outside
      have failed := replace_outside (r := r) (i := i) (by unfold Indexes; omega) (.given b)
      rw [short] at failed
      exact ⟨_, failed, rfl⟩
  · exact fun long => replace_long long (ofArguments_given.mp row).2 _
  · intro range
    obtain ⟨k, inside, points⟩ := indexes_iff.mp range
    exact ⟨_, replace_eq row inside points b, updated_put row inside points b⟩
  · intro j c range range'
    obtain ⟨k, inside, points⟩ := indexes_iff.mp range
    obtain ⟨l, within, points'⟩ := indexes_iff.mp range'
    rw [replace_twice row inside points within points', points, points']
    constructor
    · intro apart
      rw [replace_twice row within points' inside points,
        put_comm r b c fun same => apart (congrArg _ same)]
    · intro same
      obtain rfl := Int.ofNat.inj same
      rw [put_put, replace_eq row within points']

/-- In a row of two, the last entry is that of 1 and of -1, and 2 has none. -/
theorem replace_updates_last :
    ∃ (vote link stop wait : Button) (r : ActionRow),
      vote = ⟨.customId "vote", "Vote", .primary, none, false, none⟩ ∧
      link = ⟨.url "https://e.org", "Go", .link, none, false, none⟩ ∧
      stop = ⟨.customId "stop", "Stop", .danger, none, false, none⟩ ∧
      wait = ⟨.customId "wait", "Wait", .secondary, none, true, none⟩ ∧
      r = ⟨[vote, link]⟩ ∧ ofArguments [.given vote, .given link] = .ok r ∧
      (∃ err, r.replace 2 (.given stop) = .error err ∧ err.kind = .position) ∧
      Indexes r.size (-1) ∧ Indexes r.size 0 ∧ Indexes r.size 1 ∧
      (∃ r', r.replace (-1) (.given stop) = .ok r' ∧ Updated r (-1) stop r') ∧
      entry r.size (-1) ≠ entry r.size 0 ∧
      (do (← r.replace (-1) (.given stop)).replace 0 (.given wait)) =
        (do (← r.replace 0 (.given wait)).replace (-1) (.given stop)) ∧
      entry r.size (-1) = entry r.size 1 ∧
      (do (← r.replace (-1) (.given stop)).replace 1 (.given wait)) =
        r.replace 1 (.given wait) := by
  have made (x y : Button) : ofArguments [.given x, .given y] = .ok ⟨[x, y]⟩ := rfl
  have last : Indexes 2 (-1) := ⟨by decide, by decide⟩
  have first : Indexes 2 0 := ⟨by decide, by decide⟩
  have second : Indexes 2 1 := ⟨by decide, by decide⟩
  refine ⟨_, _, _, _, _, rfl, rfl, rfl, rfl, rfl, made _ _, ?_, last, first, second, ?_, by decide,
    ?_, by decide, ?_⟩
  · exact ((replace_updates (made _ _) 2 _).1 rfl).mpr (.inr (Int.le_refl 2))
  · exact (replace_updates (made _ _) (-1) _).2.2.1 last
  · exact ((replace_updates (made _ _) (-1) _).2.2.2 0 _ last first).1 (by decide)
  · exact ((replace_updates (made _ _) (-1) _).2.2.2 1 _ last second).2 (by decide)

/-- An index of 4301 digits is out of range, but the error does not say so. -/
theorem replace_long_index :
    ∃ (vote : Button) (r : ActionRow) (i : Int),
      vote = ⟨.customId "vote", "Vote", .primary, none, false, none⟩ ∧
      i = (Nat.pow 10 Numeral.maxDigits : Nat) ∧ ofArguments [.given vote] = .ok r ∧
      r.size ≤ i ∧ r.replace i (.given vote) = .error .tooManyDigits ∧
      Error.tooManyDigits.kind ≠ .position := by
  have long := Numeral.not_isShort_pow
  generalize Nat.pow 10 Numeral.maxDigits = n at long
  have outside : ¬Indexes 1 (n : Int) := not_indexes_of_long long (by decide)
  have failed (b : Button) : replace ⟨[b]⟩ n (.given b) = .error .tooManyDigits :=
    replace_long long (Nat.le_of_ble_eq_true rfl) _
  refine ⟨_, _, _, rfl, rfl, rfl, ?_, failed _, nofun⟩
  show ((1 : Nat) : Int) ≤ n
  unfold Indexes at outside
  omega

end BotPayload.ActionRow
