import BotPayload.Number.Numeral
import Mathlib.Data.List.Induction
import Mathlib.Data.Nat.Digits.Defs

/-!
# Which texts are numerals

The grammar of whole numbers, beside the reader: blanks, perhaps a sign, digits with single
underscores between them, and blanks. `read_ok`: the reader takes exactly the texts of the grammar
whose digits are not too many, for the number that sign and digits denote.
-/

namespace BotPayload.Numeral

/-- Digits of any script, with single underscores allowed between them. -/
inductive Digits : List Char → Prop
  | one : (digitValue? c).isSome → Digits [c]
  | more : (digitValue? c).isSome → Digits cs → Digits (c :: cs)
  | gap : (digitValue? c).isSome → Digits cs → Digits (c :: '_' :: cs)

inductive Sign : List Char → Prop
  | none : Sign []
  | plus : Sign ['+']
  | minus : Sign ['-']

inductive Literal : List Char → Prop
  | mk {left sign digits right : List Char} : (∀ c ∈ left, isMargin c = true) → Sign sign →
      Digits digits → (digitValues digits).length ≤ maxDigits → (∀ c ∈ right, isMargin c = true) →
      Literal (left ++ (sign ++ (digits ++ right)))

-- ---------------------------------------------------------------------------
-- The reader
-- ---------------------------------------------------------------------------

theorem isBody_of_ne {c : Char} (body : isBody c = true) (h : c ≠ '_') : (digitValue? c).isSome := by
  simpa [isBody, h] using body

theorem digits_of_grouped {cs : List Char} (body : ∀ c ∈ cs, isBody c = true) :
    (grouped true cs = true → Digits cs) ∧
      ∀ c, (digitValue? c).isSome → grouped false cs = true → Digits (c :: cs) := by
  induction cs with
  | nil => exact ⟨nofun, fun c hc _ => .one hc⟩
  | cons d cs ih =>
    obtain ⟨start, follow⟩ := ih fun c hc => body c (List.mem_cons_of_mem _ hc)
    by_cases underscore : d = '_'
    · subst underscore
      refine ⟨by simp [grouped], fun c hc h => .gap hc (start ?_)⟩
      simpa [grouped] using h
    · have digit := isBody_of_ne (body d List.mem_cons_self) underscore
      simp only [grouped, underscore, ↓reduceIte]
      exact ⟨follow d digit, fun c hc h => .more hc (follow d digit h)⟩

theorem Digits.body {cs : List Char} (h : Digits cs) : ∀ c ∈ cs, isBody c = true := by
  induction h with
  | one hc => simpa [isBody] using .inr hc
  | more hc _ ih => simpa [isBody, hc] using ih
  | gap hc _ ih => simpa [isBody, hc] using ih

theorem Digits.head {cs : List Char} (h : Digits cs) :
    ∃ c rest, (digitValue? c).isSome ∧ cs = c :: rest := by
  cases h with
  | one hc => exact ⟨_, _, hc, rfl⟩
  | more hc _ => exact ⟨_, _, hc, rfl⟩
  | gap hc _ => exact ⟨_, _, hc, rfl⟩

theorem Digits.grouped {cs : List Char} (h : Digits cs) (start : Bool) :
    Numeral.grouped start cs = true := by
  induction h generalizing start with
  | one hc => simp [Numeral.grouped, ne_underscore hc]
  | more hc _ ih => simpa [Numeral.grouped, ne_underscore hc] using ih false
  | gap hc _ ih => simpa [Numeral.grouped, ne_underscore hc] using ih true

theorem readUnsigned_ok {cs : List Char} :
    readUnsigned cs = .ok m ↔ ∃ digits right, cs = digits ++ right ∧ Digits digits ∧
      (digitValues digits).length ≤ maxDigits ∧ (∀ c ∈ right, isMargin c = true) ∧
      m = ofDigits (digitValues digits) := by
  constructor
  · intro h
    simp only [readUnsigned] at h
    split at h
    · cases h
    · rename_i groups
      split at h
      · cases h
      · rename_i few
        split at h
        · rename_i margin
          refine ⟨cs.takeWhile isBody, cs.dropWhile isBody, List.takeWhile_append_dropWhile.symm,
            (digits_of_grouped (List.all_eq_true.mp List.all_takeWhile)).1 ?_, ?_, ?_, ?_⟩
          · simpa using groups
          · omega
          · simpa using margin
          · exact (Except.ok.inj h).symm
        · cases h
  · rintro ⟨digits, right, rfl, hd, few, margin, rfl⟩
    have stop : right.takeWhile isBody = [] ∧ right.dropWhile isBody = right := by
      cases right with
      | nil => exact ⟨rfl, rfl⟩
      | cons c right =>
        have := isBody_of_margin (margin c List.mem_cons_self)
        simp [this]
    simp only [readUnsigned, List.takeWhile_append_of_pos hd.body,
      List.dropWhile_append_of_pos hd.body, stop, List.append_nil, hd.grouped]
    simp only [Bool.not_true, Bool.false_eq_true, ↓reduceIte, Nat.not_lt.mpr few,
      List.all_eq_true.mpr margin]

theorem ofDigits_eq (ds : List Nat) : ofDigits ds = Nat.ofDigits 10 ds.reverse := by
  induction ds using List.reverseRecOn with
  | nil => rfl
  | append_singleton ds d ih =>
    rw [ofDigits_append, ih, List.reverse_append, List.reverse_singleton, List.singleton_append,
      Nat.ofDigits_cons, Nat.add_comm]

def signed (sign : List Char) (m : Nat) : Int := if sign = ['-'] then -m else m

theorem read_minus (cs : List Char) :
    read ('-' :: cs) = (readUnsigned cs).map fun m => signed ['-'] m := by
  simp only [read, List.dropWhile_cons, (by decide : isMargin '-' = false), Bool.false_eq_true,
    ↓reduceIte]
  cases readUnsigned cs <;> rfl

theorem read_plus (cs : List Char) :
    read ('+' :: cs) = (readUnsigned cs).map fun m => signed ['+'] m := by
  simp only [read, List.dropWhile_cons, (by decide : isMargin '+' = false), Bool.false_eq_true,
    ↓reduceIte]
  cases readUnsigned cs <;> rfl

theorem read_append_of_margin {left : List Char} (hl : ∀ c ∈ left, isMargin c = true)
    (cs : List Char) : read (left ++ cs) = read cs := by
  rw [read, List.dropWhile_append_of_pos hl, read]

theorem read_signed {sign digits : List Char} (hs : Sign sign) (hd : Digits digits)
    (right : List Char) :
    read (sign ++ (digits ++ right)) = (readUnsigned (digits ++ right)).map fun m => signed sign m := by
  cases hs with
  | none =>
    obtain ⟨c, cs, hc, rfl⟩ := hd.head
    exact read_of_digit hc
  | plus => exact read_plus _
  | minus => exact read_minus _

/-- What the reader does to any text: the blanks in front go, then a sign where there is one. -/
theorem read_eq (cs : List Char) :
    ∃ sign rest, cs.dropWhile isMargin = sign ++ rest ∧ Sign sign ∧
      read cs = (readUnsigned rest).map fun m => signed sign m := by
  unfold read
  split
  · rename_i rest eq
    refine ⟨['-'], rest, eq, .minus, ?_⟩
    cases readUnsigned rest <;> rfl
  · rename_i rest eq
    exact ⟨['+'], rest, eq, .plus, rfl⟩
  · exact ⟨[], _, rfl, .none, rfl⟩

/-- The reader takes exactly a sign and digits with blanks around them, for the number that they
denote. -/
theorem read_ok {cs : List Char} :
    read cs = .ok n ↔ ∃ left sign digits right, cs = left ++ (sign ++ (digits ++ right)) ∧
      (∀ c ∈ left, isMargin c = true) ∧ Sign sign ∧ Digits digits ∧
      (digitValues digits).length ≤ maxDigits ∧ (∀ c ∈ right, isMargin c = true) ∧
      n = signed sign (ofDigits (digitValues digits)) := by
  constructor
  · intro h
    obtain ⟨sign, rest, split, hs, eq⟩ := read_eq cs
    rw [eq] at h
    cases unsigned : readUnsigned rest with
    | error fault =>
      rw [unsigned] at h
      cases h
    | ok m =>
      rw [unsigned] at h
      obtain rfl := Except.ok.inj h
      obtain ⟨digits, right, rfl, hd, few, hr, rfl⟩ := readUnsigned_ok.mp unsigned
      refine ⟨cs.takeWhile isMargin, sign, digits, right, ?_,
        List.all_eq_true.mp List.all_takeWhile, hs, hd, few, hr, rfl⟩
      rw [← split, List.takeWhile_append_dropWhile]
  · rintro ⟨left, sign, digits, right, rfl, hl, hs, hd, few, hr, rfl⟩
    have unsigned := readUnsigned_ok.mpr ⟨digits, right, rfl, hd, few, hr, rfl⟩
    rw [read_append_of_margin hl, read_signed hs hd, unsigned]
    rfl

theorem read_isOk_iff {cs : List Char} : (∃ n, read cs = .ok n) ↔ Literal cs := by
  constructor
  · rintro ⟨n, h⟩
    obtain ⟨left, sign, digits, right, rfl, hl, hs, hd, few, hr, -⟩ := read_ok.mp h
    exact .mk hl hs hd few hr
  · rintro ⟨hl, hs, hd, few, hr⟩
    exact ⟨_, read_ok.mpr ⟨_, _, _, _, rfl, hl, hs, hd, few, hr, rfl⟩⟩

theorem read_isError_iff {cs : List Char} : (∃ fault, read cs = .error fault) ↔ ¬Literal cs := by
  rw [← read_isOk_iff]
  cases read cs <;> simp

-- ---------------------------------------------------------------------------
-- Digits in the wide sense
-- ---------------------------------------------------------------------------

theorem margin_of_digitLike {c : Char} (h : isDigitLike c = true) : isMargin c = false := by
  have apart : ∀ n ∈ marginCodes, CodePointSet.test n digitSigns.flips false = false := by decide
  cases margin : isMargin c with
  | false => rfl
  | true =>
    have sign : digitSigns.contains c = false := apart _ (mem_marginCodes margin)
    rw [isDigitLike, sign, Bool.or_false] at h
    exact margin.symm.trans (margin_of_digit h)

/-- Of the texts of digits in the wide sense, only those of few decimal digits are numerals: a
sign, an underscore or a blank is no digit. -/
theorem Literal.digits {cs : List Char} (h : Literal cs)
    (wide : ∀ c ∈ cs, isDigitLike c = true) :
    (∀ c ∈ cs, (digitValue? c).isSome) ∧ cs.length ≤ maxDigits := by
  have noMargin {part : List Char} (inside : part ⊆ cs) (margin : ∀ c ∈ part, isMargin c = true) :
      part = [] := by
    refine List.eq_nil_iff_forall_not_mem.mpr fun c mem => ?_
    nomatch (margin c mem).symm.trans (margin_of_digitLike (wide c (inside mem)))
  obtain @⟨left, sign, digits, right, hl, hs, hd, few, hr⟩ := h
  have noSign : sign = [] := by
    cases hs with
    | none => rfl
    | plus => exact absurd (wide '+' (by simp)) (by decide)
    | minus => exact absurd (wide '-' (by simp)) (by decide)
  obtain rfl := noMargin (by simp) hl
  obtain rfl := noMargin (by simp) hr
  subst noSign
  simp only [List.nil_append, List.append_nil] at wide ⊢
  have decimal : ∀ c ∈ digits, (digitValue? c).isSome := by
    intro c mem
    refine isBody_of_ne (hd.body c mem) ?_
    rintro rfl
    exact absurd (wide '_' mem) (by decide)
  exact ⟨decimal, (digitValues_length decimal).symm ▸ few⟩

end BotPayload.Numeral
