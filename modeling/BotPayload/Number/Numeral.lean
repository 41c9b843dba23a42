import BotPayload.Number.Decimal
import BotPayload.Text.Blank
import BotPayload.Text.Digit

/-!
Reading whole numbers from text. A numeral is an optional sign and decimal digits of any script,
with single underscores allowed between digits and blanks around the whole. Numerals of more than
`Numeral.maxDigits` digits are refused; every other written number reads back (`read_intText`).
-/

namespace BotPayload.Numeral

inductive Fault where
  | malformed
  /-- The text opens like a numeral, of more digits than the limit. -/
  | tooLong (digits : Nat)
deriving DecidableEq, Repr

/-- Blanks that may surround a numeral: all but the information separators. -/
def isMargin (c : Char) : Bool := isBlank c && !(28 ≤ c.toNat && c.toNat ≤ 31)

def isBody (c : Char) : Bool := c == '_' || (digitValue? c).isSome

/-- Whether underscores stand only between digits, when the text before ends in an underscore (or
is empty) as `gap` says. -/
def grouped (gap : Bool) : List Char → Bool
  | [] => !gap
  | c :: rest => if c = '_' then !gap && grouped true rest else grouped false rest

def digitValues (cs : List Char) : List Nat := cs.filterMap digitValue?

def ofDigits (ds : List Nat) : Nat := ds.foldl (fun n d => 10 * n + d) 0

def readUnsigned (cs : List Char) : Except Fault Nat :=
  let body := cs.takeWhile isBody
  let rest := cs.dropWhile isBody
  if !grouped true body then .error .malformed
  else
    let ds := digitValues body
    if ds.length > maxDigits then .error (.tooLong ds.length)
    else if rest.all isMargin then .ok (ofDigits ds)
    else .error .malformed

def read (cs : List Char) : Except Fault Int :=
  match cs.dropWhile isMargin with
  | '-' :: rest => (readUnsigned rest).map fun n => -(n : Int)
  | '+' :: rest => (readUnsigned rest).map Int.ofNat
  | rest => (readUnsigned rest).map Int.ofNat

example : read [' ', '-', '1', '_', '0', ' '] = .ok (-10) := rfl
example : read ['1', '_', '_', '0'] = .error .malformed := rfl

/-! ## Written numbers -/

theorem digitValue?_digitChar {n : Nat} (h : n < 10) : digitValue? (digitChar n) = some n := by
  revert n
  decide

theorem ofDigits_append (ds : List Nat) (d : Nat) : ofDigits (ds ++ [d]) = 10 * ofDigits ds + d := by
  simp [ofDigits]

theorem digitValues_append (cs cs' : List Char) :
    digitValues (cs ++ cs') = digitValues cs ++ digitValues cs' :=
  List.filterMap_append

theorem ofDigits_natDigits (n : Nat) : ofDigits (digitValues (natDigits n)) = n := by
  refine natDigits_induction (P := fun n cs => ofDigits (digitValues cs) = n) ?_ ?_ n
  · intro n h
    simp [digitValues, digitValue?_digitChar h, ofDigits]
  · intro n _ ih
    have last : digitValues [digitChar (n % 10)] = [n % 10] := by
      simp [digitValues, digitValue?_digitChar (Nat.mod_lt n (by decide : 0 < 10))]
    rw [digitValues_append, last, ofDigits_append, ih]
    omega

theorem grouped_of_digits {cs : List Char} (h : ∀ c ∈ cs, c ≠ '_') (gap : Bool) :
    grouped gap cs = (!gap || !cs.isEmpty) := by
  induction cs generalizing gap with
  | nil => simp [grouped]
  | cons c cs ih =>
    rw [grouped, if_neg (h c List.mem_cons_self), ih (fun c hc => h c (List.mem_cons_of_mem _ hc))]
    simp

theorem digitValues_length {cs : List Char} (h : ∀ c ∈ cs, (digitValue? c).isSome) :
    (digitValues cs).length = cs.length := by
  induction cs with
  | nil => rfl
  | cons c cs ih =>
    obtain ⟨d, hd⟩ := Option.isSome_iff_exists.1 (h c List.mem_cons_self)
    rw [digitValues, List.filterMap_cons_some hd, List.length_cons, ← digitValues,
      ih fun c hc => h c (List.mem_cons_of_mem _ hc), List.length_cons]

theorem ne_underscore {c : Char} (h : (digitValue? c).isSome) : c ≠ '_' := by
  rintro rfl
  revert h
  decide

def marginCodes : List Nat :=
  List.range' 9 5 ++ [32, 133, 160, 5760] ++ List.range' 8192 11 ++ [8232, 8233, 8239, 8287, 12288]

theorem mem_marginCodes {c : Char} (h : isMargin c = true) : c.toNat ∈ marginCodes := by
  simp only [isMargin, isBlank, blanks, CodePointSet.contains, CodePointSet.test, Bool.not_false,
    Bool.not_true, Bool.if_false_right, Bool.and_true, Bool.if_false_left, Bool.if_true_left,
    Bool.and_eq_true, Bool.not_eq_eq_eq_not, decide_eq_false_iff_not, Nat.not_lt, Bool.or_eq_true,
    decide_eq_true_eq, Bool.and_eq_false_iff, Nat.not_le] at h
  simp only [marginCodes, List.mem_append, List.mem_range'_1, List.mem_cons, List.not_mem_nil,
    or_false]
  omega

theorem isBody_of_margin {c : Char} (h : isMargin c = true) : isBody c = false := by
  have apart : ∀ n ∈ marginCodes, n ≠ 95 ∧ ∀ z ∈ digitZeros, ¬(z ≤ n ∧ n < z + 10) := by decide
  obtain ⟨underscore, digit⟩ := apart _ (mem_marginCodes h)
  have none : digitZeros.find? (fun z => z ≤ c.toNat && c.toNat < z + 10) = none :=
    List.find?_eq_none.mpr fun z hz => by simpa using digit z hz
  have other : c ≠ '_' := fun eq => underscore (eq ▸ rfl)
  simp [isBody, digitValue?, none, other]

theorem margin_of_digit {c : Char} (h : (digitValue? c).isSome) : isMargin c = false := by
  cases margin : isMargin c with
  | false => rfl
  | true => simpa [isBody, h] using isBody_of_margin margin

theorem readUnsigned_digits {cs : List Char} (ne : cs ≠ [])
    (digit : ∀ c ∈ cs, (digitValue? c).isSome) :
    readUnsigned cs =
      if cs.length ≤ maxDigits then .ok (ofDigits (digitValues cs))
      else .error (.tooLong cs.length) := by
  have body : ∀ c ∈ cs, isBody c = true := fun c hc => by simp [isBody, digit c hc]
  have plain : ∀ c ∈ cs, c ≠ '_' := fun c hc => ne_underscore (digit c hc)
  have taken : cs.takeWhile isBody = cs := by
    have : (cs ++ []).takeWhile isBody = _ := List.takeWhile_append_of_pos body
    simpa only [List.append_nil, List.takeWhile_nil] using this
  have left : cs.dropWhile isBody = [] := by
    have : (cs ++ []).dropWhile isBody = _ := List.dropWhile_append_of_pos body
    simpa only [List.append_nil, List.dropWhile_nil] using this
  by_cases few : cs.length ≤ maxDigits
  · simp [readUnsigned, taken, left, grouped_of_digits plain, digitValues_length digit, ne, few,
      Nat.not_lt.2 few]
  · simp [readUnsigned, taken, grouped_of_digits plain, digitValues_length digit, ne, few,
      Nat.lt_of_not_le few]

theorem read_of_digit {c : Char} {cs : List Char} (digit : (digitValue? c).isSome) :
    read (c :: cs) = (readUnsigned (c :: cs)).map Int.ofNat := by
  have plain : c ≠ '-' ∧ c ≠ '+' := by
    constructor <;> rintro rfl <;> revert digit <;> decide
  simp only [read, List.dropWhile_cons, margin_of_digit digit, Bool.false_eq_true, ↓reduceIte]
  split
  · rename_i h
    exact absurd (List.cons.inj h).1 plain.1
  · rename_i h
    exact absurd (List.cons.inj h).1 plain.2
  · rfl

theorem read_digits {cs : List Char} (ne : cs ≠ []) (digit : ∀ c ∈ cs, (digitValue? c).isSome) :
    read cs =
      if cs.length ≤ maxDigits then .ok (ofDigits (digitValues cs))
      else .error (.tooLong cs.length) := by
  obtain ⟨c, rest, rfl⟩ := List.exists_cons_of_ne_nil ne
  rw [read_of_digit (digit c List.mem_cons_self), readUnsigned_digits ne digit]
  split <;> rfl

/-- A number that is written in decimal digits reads back, if the digits are not too many. -/
theorem read_intText (n : Int) :
    read (intText n).toList =
      if (natDigits n.natAbs).length ≤ maxDigits then .ok n
      else .error (.tooLong (natDigits n.natAbs).length) := by
  have digit : ∀ c ∈ natDigits n.natAbs, (digitValue? c).isSome := by
    intro c hc
    obtain ⟨d, hd, rfl⟩ := mem_natDigits hc
    rw [digitValue?_digitChar hd]
    rfl
  unfold intText
  split
  · rw [String.toList_ofList]
    have : isMargin '-' = false := by decide
    simp only [read, List.dropWhile_cons, this, Bool.false_eq_true, ↓reduceIte,
      readUnsigned_digits (natDigits_ne_nil _) digit, ofDigits_natDigits]
    split
    · have : -(n.natAbs : Int) = n := by omega
      exact congrArg Except.ok this
    · rfl
  · rw [natText, String.toList_ofList, read_digits (natDigits_ne_nil _) digit, ofDigits_natDigits]
    split
    · exact congrArg Except.ok (Int.natAbs_of_nonneg (by omega))
    · rfl

end BotPayload.Numeral
