import BotPayload.Argument
import BotPayload.CommandLine.Options
import BotPayload.Proofs.Number.Literal

/-!
# What is read from arguments

Arguments are taken one after the other. What taking one of them preserves therefore holds of all
that is read (`read_keeps`): above all, a number that is read is short enough to be written again.
-/

namespace BotPayload

namespace Numeral

theorem digitValue_lt {c : Char} (h : digitValue? c = some d) : d < 10 := by
  obtain ⟨_, -, -, small⟩ := exists_zero_of_digit h
  exact small

theorem ofDigits_lt {ds : List Nat} (h : ∀ d ∈ ds, d < 10) :
    ofDigits ds < Nat.pow 10 ds.length := by
  rw [ofDigits_eq, ← List.length_reverse]
  exact Nat.ofDigits_lt_base_pow_length (by decide) fun d mem => h d (List.mem_reverse.mp mem)

theorem signed_natAbs (sign : List Char) (n : Nat) : (signed sign n).natAbs = n := by
  unfold signed
  split <;> simp

theorem isShort_of_read {cs : List Char} (h : read cs = .ok n) : isShort n = true := by
  obtain ⟨_, sign, digits, _, -, -, -, -, few, -, rfl⟩ := read_ok.mp h
  have values : ∀ d ∈ digitValues digits, d < 10 := by
    intro d mem
    obtain ⟨c, -, value⟩ := List.mem_filterMap.mp mem
    exact digitValue_lt value
  have digits := hasDigits_iff.mpr (ofDigits_lt values)
  rw [isShort, signed_natAbs]
  exact hasDigits_mono few digits

end Numeral

namespace CommandLine

variable {c : Command} {p p' : Progress} {P : Progress → Prop}

def Command.enter (c : Command) (p : Progress) (s : Switch) (g : Given) : Except Stop Progress := do
  if c.exclusive.contains s.key then
    let rivals := (c.switches.filter fun r => c.exclusive.contains r.key && r.key != s.key)
    if let some rival := rivals.find? fun r => p.given.hasFlag r.key then
      throw (refuse s.title ("not allowed with argument " ++ rival.title))
  if s = helpSwitch then throw .help
  return { p with given := (s.key, g) :: p.given }

theorem take_eq (c : Command) (p : Progress) (s : Switch) (value : Option String) :
    c.take p s value =
      (match s.value, value with
      | some kind, some v => kind.read s.title v
      | _, _ => .ok .flag) >>= c.enter p s := by
  unfold Command.take Command.enter
  cases s.value <;> cases value <;> rfl

theorem enter_ok {s : Switch} {g : Given} (h : c.enter p s g = .ok p') :
    p'.given = (s.key, g) :: p.given ∧ p'.operand = p.operand ∧ (s.key ∈ c.exclusive →
      ∀ r ∈ c.switches, r.key ∈ c.exclusive → r.key ≠ s.key → p.given.hasFlag r.key = false) := by
  unfold Command.enter at h
  dsimp only at h
  split at h
  · split at h
    · nomatch h
    · rename_i free
      have none := List.find?_eq_none.mp (Option.eq_none_iff_forall_ne_some.mpr free)
      split at h
      · nomatch h
      · obtain rfl := pure_ok.mp h
        refine ⟨rfl, rfl, fun _ r hr rival other => ?_⟩
        simpa using none r (List.mem_filter.mpr ⟨hr, by simp [rival, other]⟩)
  · rename_i plain
    split at h
    · nomatch h
    · obtain rfl := pure_ok.mp h
      refine ⟨rfl, rfl, fun exclusive => absurd ?_ plain⟩
      simpa using exclusive

theorem takeRest_keeps {rest : List Token}
    (operand : ∀ p s q, c.takeOperand p s = .ok q → P p → P q)
    (extras : ∀ p es, P p → P { p with extras := es })
    (h : c.takeRest p rest = .ok p') (start : P p) : P p' := by
  unfold Command.takeRest at h
  dsimp only at h
  split at h
  · obtain rfl := pure_ok.mp h
    exact extras _ _ start
  split at h
  · obtain ⟨q, taken, h⟩ := bind_ok.mp h
    obtain rfl := pure_ok.mp h
    exact extras _ _ (operand _ _ _ taken start)
  · obtain ⟨q, taken, h⟩ := bind_ok.mp h
    obtain rfl := pure_ok.mp h
    exact extras _ _ (operand _ _ _ taken start)
  · obtain ⟨q, taken, h⟩ := bind_ok.mp h
    obtain rfl := pure_ok.mp h
    exact extras _ _ (operand _ _ _ taken start)
  · obtain rfl := pure_ok.mp h
    exact extras _ _ start

theorem takeAll_keeps {fuel : Nat} {ts : List Token}
    (take : ∀ p s value q, c.take p s value = .ok q → P p → P q)
    (operand : ∀ p s q, c.takeOperand p s = .ok q → P p → P q)
    (extras : ∀ p es, P p → P { p with extras := es })
    (h : c.takeAll fuel p ts = .ok p') (start : P p) : P p' := by
  induction fuel generalizing p ts with
  | zero =>
    obtain rfl := Except.ok.inj h
    exact start
  | succ fuel ih =>
    unfold Command.takeAll at h
    split at h
    · exact takeRest_keeps operand extras h start
    split at h
    · obtain rfl := Except.ok.inj h
      exact start
    · split at h
      · exact ih h (extras _ _ start)
      · obtain ⟨q, taken, h⟩ := bind_ok.mp h
        exact ih h (operand _ _ _ taken start)
    · obtain ⟨⟨found, unknown, rest⟩, -, h⟩ := bind_ok.mp h
      obtain ⟨q, taken, h⟩ := bind_ok.mp h
      refine ih h (foldlM_keeps ?_ (extras p (p.extras ++ unknown) start) taken)
      exact fun p (s, value) q start taken => take p s value q taken start
    · exact ih h (extras _ _ start)

theorem read_keeps {args : List String} {operand : Given} {given : Parsed}
    (take : ∀ p s value q, c.take p s value = .ok q → P p → P q)
    (takeOperand : ∀ p s q, c.takeOperand p s = .ok q → P p → P q)
    (extras : ∀ p es, P p → P { p with extras := es })
    (h : c.read args = .ok (operand, given)) (start : P {}) :
    ∃ p, P p ∧ p.operand = some operand ∧ p.given = given := by
  unfold Command.read at h
  obtain ⟨tokens, -, h⟩ := bind_ok.mp h
  obtain ⟨p, taken, h⟩ := bind_ok.mp h
  have kept := takeAll_keeps take takeOperand extras taken start
  dsimp only at h
  split at h
  · rename_i found
    split at h
    · cases h
    · obtain ⟨rfl, rfl⟩ := Prod.mk.inj (pure_ok.mp h)
      exact ⟨p, kept, found, rfl⟩
  · cases h

-- ---------------------------------------------------------------------------
-- Numbers
-- ---------------------------------------------------------------------------

def Given.Short : Given → Prop
  | .number n => Numeral.isShort n = true
  | _ => True

theorem ValueKind.read_short {kind : ValueKind} (h : kind.read title s = .ok g) : g.Short := by
  cases kind with
  | text =>
    cases h
    trivial
  | integer =>
    rw [ValueKind.read] at h
    split at h
    · rename_i value
      cases h
      exact Numeral.isShort_of_read value
    · cases h
  | oneOf choices =>
    rw [ValueKind.read] at h
    split at h
    · cases h
      trivial
    · cases h

structure Progress.Short (p : Progress) : Prop where
  operand : ∀ g, p.operand = some g → g.Short
  given : ∀ e ∈ p.given, e.2.Short

theorem take_short {s : Switch} {value : Option String} (h : c.take p s value = .ok p')
    (short : p.Short) : p'.Short := by
  rw [take_eq] at h
  obtain ⟨g, read, entered⟩ := bind_ok.mp h
  obtain ⟨given, operand, -⟩ := enter_ok entered
  have new : g.Short := by
    split at read
    · exact ValueKind.read_short read
    · cases read
      trivial
  exact ⟨operand ▸ short.operand, given ▸ List.forall_mem_cons.mpr ⟨new, short.given⟩⟩

theorem takeOperand_short (h : c.takeOperand p s = .ok p') (short : p.Short) : p'.Short := by
  obtain ⟨g, read, h⟩ := bind_ok.mp h
  obtain rfl := pure_ok.mp h
  exact ⟨fun _ same => Option.some.inj same ▸ ValueKind.read_short read, short.given⟩

/-- Every number that is read can be written. -/
theorem read_short {args : List String} {operand : Given} {given : Parsed}
    (h : c.read args = .ok (operand, given)) : operand.Short ∧ ∀ e ∈ given, e.2.Short := by
  obtain ⟨p, short, found, rfl⟩ := read_keeps (fun _ _ _ _ => take_short)
    (fun _ _ _ => takeOperand_short) (fun _ _ short => ⟨short.operand, short.given⟩) h
    ⟨nofun, nofun⟩
  exact ⟨short.operand operand found, short.given⟩

theorem number?_short {given : Parsed} (h : ∀ e ∈ given, e.2.Short)
    (number : given.number? key = some n) : Numeral.isShort n = true := by
  unfold Parsed.number? at number
  split at number
  · rename_i found
    obtain rfl := Option.some.inj number
    exact h _ (mem_of_lookup found)
  · cases number

end CommandLine

end BotPayload
