import BotPayload.Proofs.Number.Literal
import BotPayload.Snowflake

/-!
# Which texts are snowflakes

A snowflake is written as a numeral with blanks of any kind around it, and the number that the
numeral denotes has 64 bits and no sign. `read_numerals`: the reader takes exactly these texts, for
the number that they denote, and every other text is refused for its field.
-/

namespace BotPayload

namespace Numeral

theorem le_toNat_of_digit {c : Char} (h : (digitValue? c).isSome) : 48 ≤ c.toNat := by
  have least : ∀ z ∈ digitZeros, 48 ≤ z := by decide
  obtain ⟨d, value⟩ := Option.isSome_iff_exists.mp h
  obtain ⟨z, mem, eq, -⟩ := exists_zero_of_digit value
  have := least z mem
  omega

theorem isBlank_of_body {c : Char} (body : isBody c = true) : isBlank c = false := by
  have graphic : 48 ≤ c.toNat := by
    by_cases underscore : c = '_'
    · rw [underscore]
      decide
    · exact le_toNat_of_digit (isBody_of_ne body underscore)
  cases blank : isBlank c with
  | false => rfl
  | true =>
    -- the only blanks that are no margins are the information separators, far below the digits
    have margin : isMargin c = true := by
      simp only [isMargin, blank, Bool.true_and, Bool.not_eq_true', Bool.and_eq_false_iff,
        decide_eq_false_iff_not]
      omega
    cases body.symm.trans (isBody_of_margin margin)

theorem Sign.visible {sign : List Char} (h : Sign sign) : ∀ c ∈ sign, isBlank c = false := by
  cases h with
  | none => nofun
  | plus => exact List.forall_mem_singleton.mpr (by decide)
  | minus => exact List.forall_mem_singleton.mpr (by decide)

theorem isBlank_of_margin {c : Char} (h : isMargin c = true) : isBlank c = true :=
  (Bool.and_eq_true_iff.mp h).1

theorem digitValues_of_blank {cs : List Char} (h : ∀ c ∈ cs, isBlank c = true) :
    digitValues cs = [] := by
  refine List.filterMap_eq_nil_iff.mpr fun c hc => ?_
  cases value : digitValue? c with
  | none => rfl
  | some d => cases (h c hc).symm.trans (isBlank_of_body (by simp [isBody, value]))

theorem Sign.digitValues {sign : List Char} (h : Sign sign) : digitValues sign = [] := by
  cases h <;> rfl

theorem read_trimBlanks {cs : List Char} :
    read (trimBlanks cs) = .ok n ↔ ∃ left sign digits right,
      cs = left ++ (sign ++ (digits ++ right)) ∧ (∀ c ∈ left, isBlank c = true) ∧ Sign sign ∧
      Digits digits ∧ (digitValues digits).length ≤ maxDigits ∧ (∀ c ∈ right, isBlank c = true) ∧
      n = signed sign (ofDigits (digitValues digits)) := by
  constructor
  · intro h
    obtain ⟨before, after, split, hb, ha⟩ := trimBlanks_split cs
    obtain ⟨left, sign, digits, right, inner, hl, hs, hd, few, hr, rfl⟩ := read_ok.mp h
    refine ⟨before ++ left, sign, digits, right ++ after, ?_, ?_, hs, hd, few, ?_, rfl⟩
    · rw [split, inner]
      simp only [List.append_assoc]
    · exact List.forall_mem_append.mpr ⟨hb, fun c hc => isBlank_of_margin (hl c hc)⟩
    · exact List.forall_mem_append.mpr ⟨fun c hc => isBlank_of_margin (hr c hc), ha⟩
  · rintro ⟨left, sign, digits, right, rfl, hl, hs, hd, few, hr, rfl⟩
    have ne : sign ++ digits ≠ [] := by
      obtain ⟨c, rest, -, rfl⟩ := hd.head
      simp
    have visible : ∀ c ∈ sign ++ digits, isBlank c = false :=
      List.forall_mem_append.mpr ⟨hs.visible, fun c hc => isBlank_of_body (hd.body c hc)⟩
    rw [← List.append_assoc sign, trimBlanks_append hl ne visible hr]
    exact read_ok.mpr ⟨[], sign, digits, [], by simp, nofun, hs, hd, few, nofun, rfl⟩

end Numeral

namespace Snowflake

open Numeral (Sign Digits digitValues signed)

/-- The texts that denote a snowflake: a numeral of at most 4300 digits, with blanks around it, for
a number of 64 bits. The last digit is the one of the units. -/
inductive Denotes : List Char → Nat → Prop
  | mk {left sign digits right : List Char} {n : Nat} :
      (∀ c ∈ left, isBlank c = true) → Sign sign → Digits digits →
      (digitValues digits).length ≤ 4300 → (∀ c ∈ right, isBlank c = true) →
      signed sign (Nat.ofDigits 10 (digitValues digits).reverse) = n → n < limit →
      Denotes (left ++ (sign ++ (digits ++ right))) n

theorem ofText?_eq_some :
    ofText? s = some n ↔ n < limit ∧ Numeral.read (trimBlanks s.toList) = .ok (n : Int) := by
  rw [ofText?]
  split
  · rename_i m read
    simp only [Option.ite_none_right_eq_some, Option.some.injEq, read, Except.ok.injEq]
    omega
  · rename_i fault read
    simp [read]

theorem ofText?_iff : ofText? s = some n ↔ Denotes s.toList n := by
  rw [ofText?_eq_some, Numeral.read_trimBlanks]
  constructor
  · rintro ⟨small, left, sign, digits, right, split, hl, hs, hd, few, hr, value⟩
    rw [split]
    exact .mk hl hs hd few hr (by rw [← Numeral.ofDigits_eq, ← value]) small
  · generalize s.toList = cs
    rintro ⟨hl, hs, hd, few, hr, value, small⟩
    exact ⟨small, _, _, _, _, rfl, hl, hs, hd, few, hr, by rw [Numeral.ofDigits_eq, value]⟩

theorem Denotes.few (h : Denotes cs n) : (digitValues cs).length ≤ 4300 := by
  obtain ⟨hl, hs, -, few, hr, -, -⟩ := h
  rw [Numeral.digitValues_append, Numeral.digitValues_of_blank hl, Numeral.digitValues_append,
    hs.digitValues, Numeral.digitValues_append, Numeral.digitValues_of_blank hr, List.append_nil]
  exact few

theorem read_of_none (h : ofText? s = none) (field : String) :
    read s field = .error (.refused field (if s = "" then .empty else .notSnowflake s)) := by
  rw [read, h]
  by_cases empty : s = ""
  · rw [if_pos empty, decide_eq_false (not_not_intro empty)]
    rfl
  · rw [if_neg empty, decide_eq_true empty]
    rfl

/-- Exactly the texts that denote a snowflake are read, for the snowflake that they denote, written
numbers among them; every other text is refused for the field it was given for, those of too many
digits among them. -/
theorem read_numerals (field : String) :
    (∀ s n, read s field = .ok n ↔ Denotes s.toList n) ∧
      (∀ s, (∀ n, ¬Denotes s.toList n) →
        read s field = .error (.refused field (if s = "" then .empty else .notSnowflake s))) ∧
      (∀ s, 4300 < (digitValues s.toList).length →
        read s field = .error (.refused field (.notSnowflake s))) ∧
      ∀ n : Nat, n < limit → read (intText n) field = .ok n := by
  have refused (s : String) (other : ∀ n, ¬Denotes s.toList n) :
      read s field = .error (.refused field (if s = "" then .empty else .notSnowflake s)) := by
    refine read_of_none (Option.eq_none_iff_forall_ne_some.mpr fun n found => ?_) field
    exact other n (ofText?_iff.mp found)
  refine ⟨fun s n => ?_, refused, fun s many => ?_, fun n small => ?_⟩
  · rw [read_ok, ofText?_iff]
    refine and_iff_right_of_imp fun denotes => ?_
    rintro rfl
    cases ofText?_iff.mpr denotes
  · have ne : s ≠ "" := by
      rintro rfl
      exact absurd many (by decide)
    rw [refused s fun n denotes => Nat.not_lt.mpr denotes.few many, if_neg ne]
  · have bounds : 0 ≤ (n : Int) ∧ (n : Int) < limit := by omega
    rw [read_intText, if_pos bounds, Int.toNat_natCast]

/-- The last number of 64 bits is read, with a sign, an underscore and wide blanks; the next one is
refused, and so are a number below zero and a zero of 4301 digits, but not the zero with a minus
sign. -/
theorem read_numerals_bounds :
    ∃ zeros, zeros = String.ofList (List.replicate 4301 '0') ∧
      Denotes "\u00a0+1844674407370955161_5\u2003".toList 18446744073709551615 ∧
      (∀ n, ¬Denotes "18446744073709551616".toList n) ∧
      read "18446744073709551616" "ID" =
        .error (.refused "ID" (.notSnowflake "18446744073709551616")) ∧
      (∀ n, ¬Denotes "-1".toList n) ∧
      read "-1" "ID" = .error (.refused "ID" (.notSnowflake "-1")) ∧
      Denotes "-0".toList 0 ∧
      4300 < (digitValues zeros.toList).length ∧
      read zeros "ID" = .error (.refused "ID" (.notSnowflake zeros)) ∧
      18446744073709551615 < limit ∧
      read (intText 18446744073709551615) "ID" = .ok 18446744073709551615 := by
  obtain ⟨denoted, refused, tooLong, written⟩ := read_numerals "ID"
  have large : ∀ n, ¬Denotes "18446744073709551616".toList n := by
    intro n denotes
    cases (denoted _ n).mpr denotes
  have negative : ∀ n, ¬Denotes "-1".toList n := by
    intro n denotes
    cases (denoted _ n).mpr denotes
  have digit : ∀ c ∈ List.replicate 4301 '0', (digitValue? c).isSome := by
    intro c hc
    rw [List.eq_of_mem_replicate hc]
    decide
  have many : 4300 < (digitValues (String.ofList (List.replicate 4301 '0')).toList).length := by
    rw [String.toList_ofList, Numeral.digitValues_length digit, List.length_replicate]
    decide
  exact ⟨_, rfl, (denoted _ _).mp rfl, large, refused _ large, negative, refused _ negative,
    (denoted _ _).mp rfl, many, tooLong _ many, by decide, written _ (by decide)⟩

end Snowflake

end BotPayload
