import BotPayload.Value.Writing

/-!
Arguments as callers hand them over, and the tests that they must pass. A test on an untyped value
takes what is empty or zero for empty, and refuses a value that has no length or no order. For each
test a lemma `…_ok` says exactly when an argument passes it.
-/

namespace BotPayload

/-- An argument where an `α` belongs: missing, given, or a value of another kind. -/
inductive Argument (α : Type) where
  | missing
  | given (a : α)
  | foreign (v : Value)

def Argument.ofValue (v : Value) : Argument α :=
  match v with
  | .null => .missing
  | v => .foreign v

def Argument.given? : Argument α → Option α
  | .given a => some a
  | _ => none

def Argument.isMissing : Argument α → Bool
  | .missing => true
  | _ => false

def require (condition : Bool) (field : String) (reason : Reason) : Except Error Unit :=
  if condition then .ok () else .error (.refused field reason)

def present (a : Option α) (field : String) : Except Error α :=
  match a with
  | some a => .ok a
  | none => .error (.refused field .missing)

def presentText (s : Option String) (field : String) : Except Error String := do
  let s ← present s field
  require (s ≠ "") field .empty
  return s

def withinLength (s : String) (limit : Nat) (field : String) : Except Error Unit :=
  require (s.length ≤ limit) field (.tooLong limit s.length)

def allGiven (args : List (Argument α)) (field : String) (wrong : Reason) :
    Except Error (List α) := do
  require (!args.any Argument.isMissing) field .holdsMissing
  let given := args.filterMap Argument.given?
  require (given.length = args.length) field wrong
  return given

inductive Nested (α : Type) where
  | one (a : Argument α)
  | many (as : List (Argument α))

/-- The arguments of a call. A list that is the only argument stands for its items; a list among
other arguments is an argument of a wrong kind. -/
def Nested.flatten : List (Nested α) → List (Argument α)
  | [.many as] => as
  | [.one (.foreign (.list vs))] => vs.map .ofValue
  | args => args.map fun
    | .one a => a
    | .many _ => .foreign (.list [])

namespace Value

def requireTrue (condition : Value) (field message : String) : Except Error Unit :=
  require condition.isTruthy field (.stated message)

def requirePresent (v : Value) (field : String) : Except Error Unit :=
  match v with
  | .null => .error (.refused field .missing)
  | _ => .ok ()

def requireNonEmpty (v : Value) (field : String) : Except Error Unit := do
  v.requirePresent field
  require v.isTruthy field .empty

def requireLength (v : Value) (limit : Int) (field : String) : Except Error Unit :=
  match v.size? with
  | some n =>
    if (n : Int) ≤ limit then .ok ()
    else do
      let _ ← (int limit).write
      throw (.refused field (.tooLong limit n))
  | none => .error .wrongKind

def requireNonNegative (v : Value) (field : String) : Except Error Unit :=
  match Quantity.ofValue? v with
  | some q => require (!q.isNegative) field .negative
  | none => .error .wrongKind

/-- What a value yields when it is gone through: items, characters or keys. -/
def elements? : Value → Option (List Value)
  | .list items => some items
  | .str s => some (s.toList.map fun c => .str (String.singleton c))
  | .object members => some (members.map fun m => .str m.1)
  | _ => none

def requireItems (v : Value) (field : String) : Except Error Unit :=
  match v.elements? with
  | some items =>
    require (!items.any fun | .null => true | _ => false) field .holdsMissing
  | none => .error .wrongKind

end Value

/-! ## What the success of a test says -/

theorem bind_ok {x : Except ε α} {f : α → Except ε β} :
    x >>= f = .ok b ↔ ∃ a, x = .ok a ∧ f a = .ok b := by
  cases x <;> simp [bind, Except.bind]

theorem toOption_eq_some {x : Except ε α} : x.toOption = some a ↔ x = .ok a := by
  cases x <;> simp [Except.toOption]

theorem bind_congr_of_ok {x : Except ε α} {f g : α → Except ε β}
    (h : ∀ a, x = .ok a → f a = g a) : x >>= f = x >>= g := by
  cases x with
  | ok a => exact h a rfl
  | error e => rfl

theorem pure_ok : (pure a : Except ε α) = .ok b ↔ a = b := by
  simp [pure, Except.pure]

theorem map_ok {x : Except ε α} {f : α → β} : f <$> x = .ok b ↔ ∃ a, x = .ok a ∧ f a = b := by
  cases x <;> simp [Functor.map, Except.map]

theorem map_error {x : Except ε α} {f : α → β} : f <$> x = .error e ↔ x = .error e := by
  cases x <;> simp [Functor.map, Except.map]

theorem bind_error {x : Except ε α} {f : α → Except ε β} :
    x >>= f = .error e ↔ x = .error e ∨ ∃ a, x = .ok a ∧ f a = .error e := by
  cases x <;> simp [bind, Except.bind]

/-- A list is mapped when every item is, `P` saying for which items that is so. -/
theorem mapM_ok_iff {f : α → Except ε β} {g : α → β} {P : α → Prop} {as : List α}
    (h : ∀ a ∈ as, ∀ b, f a = .ok b ↔ P a ∧ b = g a) :
    as.mapM f = .ok bs ↔ (∀ a ∈ as, P a) ∧ bs = as.map g := by
  induction as generalizing bs with
  | nil =>
    rw [List.mapM_nil, pure_ok]
    simp [eq_comm]
  | cons a as ih =>
    obtain ⟨first, others⟩ := List.forall_mem_cons.mp h
    simp only [List.mapM_cons, bind_ok, pure_ok, first, ih others, List.forall_mem_cons,
      List.map_cons]
    constructor
    · rintro ⟨_, ⟨head, rfl⟩, _, ⟨tail, rfl⟩, rfl⟩
      exact ⟨⟨head, tail⟩, rfl⟩
    · rintro ⟨⟨head, tail⟩, rfl⟩
      exact ⟨_, ⟨head, rfl⟩, _, ⟨tail, rfl⟩, rfl⟩

theorem mapM_of_ok {f : α → Except ε β} {g : α → β} {as : List α}
    (h : ∀ a ∈ as, f a = .ok (g a)) : as.mapM f = .ok (as.map g) := by
  have each : ∀ a ∈ as, ∀ b, f a = .ok b ↔ True ∧ b = g a := fun a ha b => by
    simp [h a ha, eq_comm]
  exact (mapM_ok_iff each).mpr ⟨fun _ _ => trivial, rfl⟩

theorem mapM_error_iff {f : α → Except ε β} {as : List α} :
    as.mapM f = .error e ↔
      ∃ front a back, as = front ++ a :: back ∧ (∀ x ∈ front, ∃ b, f x = .ok b) ∧
        f a = .error e := by
  induction as with
  | nil =>
    constructor
    · exact nofun
    · rintro ⟨front, a, back, split, -⟩
      simp at split
  | cons a as ih =>
    simp only [List.mapM_cons, bind_error, ih]
    constructor
    · rintro (first | ⟨b, mapped, ⟨front, a', back, rfl, fine, failed⟩ | ⟨bs, -, h⟩⟩)
      · exact ⟨[], a, as, rfl, List.forall_mem_nil _, first⟩
      · exact ⟨a :: front, a', back, rfl, List.forall_mem_cons.mpr ⟨⟨b, mapped⟩, fine⟩, failed⟩
      · nomatch h
    · rintro ⟨front, a', back, split, fine, failed⟩
      cases front with
      | nil =>
        obtain ⟨rfl, -⟩ := List.cons.inj split
        exact .inl failed
      | cons c front =>
        obtain ⟨rfl, rfl⟩ := List.cons.inj split
        obtain ⟨⟨b, mapped⟩, fine⟩ := List.forall_mem_cons.mp fine
        exact .inr ⟨b, mapped, .inl ⟨front, a', back, rfl, fine, failed⟩⟩

theorem mapM_error {f : α → Except ε β} {as : List α} (h : as.mapM f = .error e) :
    ∃ a ∈ as, f a = .error e := by
  obtain ⟨front, a, back, rfl, -, failed⟩ := mapM_error_iff.mp h
  exact ⟨a, by simp, failed⟩

theorem mapM_ok_mem {f : α → Except ε β} {as : List α} (h : as.mapM f = .ok bs) :
    ∀ a ∈ as, ∃ b, f a = .ok b := by
  induction as generalizing bs with
  | nil => exact List.forall_mem_nil _
  | cons a as ih =>
    rw [List.mapM_cons] at h
    obtain ⟨b, first, h⟩ := bind_ok.mp h
    obtain ⟨_, others, -⟩ := bind_ok.mp h
    exact List.forall_mem_cons.mpr ⟨⟨b, first⟩, ih others⟩

theorem mem_of_lookup [BEq κ] [LawfulBEq κ] {entries : List (κ × α)}
    (h : entries.lookup k = some a) : (k, a) ∈ entries := by
  obtain ⟨front, back, rfl, -⟩ := List.lookup_eq_some_iff.mp h
  exact List.mem_append_right _ List.mem_cons_self

theorem foldlM_keeps {f : σ → α → Except ε σ} {P : σ → Prop}
    (step : ∀ s a s', P s → f s a = .ok s' → P s') {as : List α} {s s' : σ} (start : P s)
    (h : as.foldlM f s = .ok s') : P s' := by
  induction as generalizing s with
  | nil => exact pure_ok.mp h ▸ start
  | cons a as ih =>
    obtain ⟨s₁, first, rest⟩ := bind_ok.mp (List.foldlM_cons.symm.trans h)
    exact ih (step s a s₁ start first) rest

@[simp] theorem throw_ok : (throw e : Except ε α) = .ok a ↔ False :=
  ⟨fun h => (nomatch h), fun h => h.elim⟩

theorem require_ok : require condition field reason = .ok u ↔ condition = true := by
  cases condition <;> simp [require]

theorem require_error (h : require condition field reason = .error e) : e.kind = .argument := by
  cases condition with
  | true => nomatch h
  | false => exact Except.error.inj h ▸ rfl

theorem require_refused :
    require condition field reason = .error e ↔ condition = false ∧ e = .refused field reason := by
  cases condition <;> simp [require, eq_comm]

theorem present_ok : present a field = .ok x ↔ a = some x := by
  cases a <;> simp [present]

theorem present_error (h : present a field = .error e) : e.kind = .argument := by
  cases a with
  | some a => nomatch h
  | none => exact Except.error.inj h ▸ rfl

theorem present_refused :
    present a field = .error e ↔ a = none ∧ e = .refused field .missing := by
  cases a <;> simp [present, eq_comm]

theorem presentText_ok : presentText s field = .ok t ↔ s = some t ∧ t ≠ "" := by
  simp only [presentText, bind_ok, present_ok, require_ok, pure_ok, decide_eq_true_eq]
  constructor
  · rintro ⟨_, rfl, _, h, rfl⟩
    exact ⟨rfl, h⟩
  · rintro ⟨rfl, h⟩
    exact ⟨t, rfl, (), h, rfl⟩

theorem presentText_error (h : presentText s field = .error e) : e.kind = .argument := by
  obtain absent | ⟨t, -, h⟩ := bind_error.mp h
  · exact present_error absent
  · obtain empty | ⟨_, -, h⟩ := bind_error.mp h
    · exact require_error empty
    · nomatch h

theorem presentText_refused (h : presentText s field = .error e) :
    ∃ reason, e = .refused field reason := by
  obtain absent | ⟨t, -, h⟩ := bind_error.mp h
  · exact ⟨_, (present_refused.mp absent).2⟩
  · obtain empty | ⟨_, -, h⟩ := bind_error.mp h
    · exact ⟨_, (require_refused.mp empty).2⟩
    · nomatch h

theorem Value.requirePresent_ok {v : Value} : v.requirePresent field = .ok u ↔ v ≠ .null := by
  cases v <;> simp [Value.requirePresent]

theorem Value.requireNonNegative_ok {v : Value} :
    v.requireNonNegative field = .ok u ↔
      ∃ q, Quantity.ofValue? v = some q ∧ q.isNegative = false := by
  unfold Value.requireNonNegative
  cases Quantity.ofValue? v <;> simp [require_ok]

theorem withinLength_ok : withinLength s limit field = .ok u ↔ s.length ≤ limit := by
  simp [withinLength, require_ok]

theorem withinLength_refused :
    withinLength s limit field = .error e ↔
      limit < s.length ∧ e = .refused field (.tooLong limit s.length) := by
  simp [withinLength, require_refused]

theorem filterMap_given (as : List α) : (as.map Argument.given).filterMap Argument.given? = as := by
  induction as with
  | nil => rfl
  | cons a as ih => simp only [List.map_cons, List.filterMap_cons, Argument.given?, ih]

theorem map_given_inj {as bs : List α} : as.map Argument.given = bs.map .given ↔ as = bs :=
  List.map_inj_right fun _ _ => Argument.given.inj

theorem eq_map_given_of_length {args : List (Argument α)}
    (h : (args.filterMap Argument.given?).length = args.length) :
    args = (args.filterMap Argument.given?).map .given := by
  induction args with
  | nil => rfl
  | cons a args ih =>
    have le := List.length_filterMap_le Argument.given? args
    cases a with
    | given a =>
      simp only [List.filterMap_cons, Argument.given?, List.length_cons, Nat.add_right_cancel_iff] at h
      simp only [List.filterMap_cons, Argument.given?, List.map_cons, ← ih h]
    | missing =>
      simp only [List.filterMap_cons, Argument.given?, List.length_cons] at h
      omega
    | foreign v =>
      simp only [List.filterMap_cons, Argument.given?, List.length_cons] at h
      omega

theorem allGiven_error {args : List (Argument α)} (h : allGiven args field wrong = .error e) :
    e.kind = .argument := by
  obtain absent | ⟨_, -, h⟩ := bind_error.mp h
  · exact require_error absent
  · obtain foreign | ⟨_, -, h⟩ := bind_error.mp h
    · exact require_error foreign
    · nomatch h

theorem allGiven_ok {args : List (Argument α)} :
    allGiven args field wrong = .ok as ↔ args = as.map .given := by
  simp only [allGiven, bind_ok, require_ok, pure_ok, decide_eq_true_eq]
  constructor
  · rintro ⟨_, _, _, h, rfl⟩
    exact eq_map_given_of_length h
  · rintro rfl
    refine ⟨(), ?_, (), ?_, filterMap_given as⟩
    · simp [Argument.isMissing]
    · rw [filterMap_given, List.length_map]

end BotPayload
