import BotPayload.Text.Percent

/-!
# What percent-encoded text looks like

The output of the encoder as a grammar: unreserved and safe characters, and `%` with two upper-case
hexadecimal digits.
-/

namespace BotPayload.Percent

def isUpperHex (c : Char) : Bool := c.isDigit || ('A' ≤ c && c ≤ 'F')

inductive Encoded (safe : List Char) : List Char → Prop
  | nil : Encoded safe []
  | plain : isUnreserved c = true ∨ c ∈ safe → Encoded safe cs → Encoded safe (c :: cs)
  | triple : isUpperHex h = true → isUpperHex l = true → Encoded safe cs →
      Encoded safe ('%' :: h :: l :: cs)

theorem isUpperHex_hexChar {n : Nat} (h : n < 16) : isUpperHex (hexChar .upper n) = true := by
  revert n
  decide

section
variable {safe cs ds : List Char}

theorem Encoded.append (h : Encoded safe cs) (h' : Encoded safe ds) : Encoded safe (cs ++ ds) := by
  induction h with
  | nil => exact h'
  | plain known _ ih => exact .plain known ih
  | triple high low _ ih => exact .triple high low ih

theorem encodeByte_encoded (b : UInt8) : Encoded safe (encodeByte b) := by
  rw [encodeByte, hexDigits_two]
  have digit (n : Nat) : isUpperHex (hexChar .upper (n % 16)) = true :=
    isUpperHex_hexChar (Nat.mod_lt n (by decide))
  exact .triple (digit _) (digit _) .nil

theorem flatMap_encoded {f : α → List Char} (h : ∀ a, Encoded safe (f a)) (as : List α) :
    Encoded safe (as.flatMap f) := by
  induction as with
  | nil => exact .nil
  | cons a as ih => exact (h a).append ih

theorem encodeChar_encoded (c : Char) : Encoded safe (encodeChar safe c) := by
  unfold encodeChar
  split
  · rename_i known
    exact .plain (by simpa using known) .nil
  · exact flatMap_encoded encodeByte_encoded _

theorem encode_encoded (s : String) : Encoded safe (encode safe s).toList := by
  rw [encode, String.toList_ofList]
  exact flatMap_encoded encodeChar_encoded _

theorem Encoded.mem (h : Encoded safe cs) (mem : c ∈ cs) :
    isUnreserved c = true ∨ c ∈ safe ∨ c = '%' ∨ isUpperHex c = true := by
  induction h with
  | nil => nomatch mem
  | plain known _ ih =>
    obtain rfl | mem := List.mem_cons.mp mem
    · exact known.imp_right .inl
    · exact ih mem
  | triple high low _ ih =>
    simp only [List.mem_cons] at mem
    obtain rfl | rfl | rfl | mem := mem
    · exact .inr (.inr (.inl rfl))
    · exact .inr (.inr (.inr high))
    · exact .inr (.inr (.inr low))
    · exact ih mem

theorem toNat_of_isUpperHex {c : Char} (h : isUpperHex c = true) : 48 ≤ c.toNat ∧ c.toNat ≤ 70 := by
  simp only [isUpperHex, Char.isDigit, Bool.or_eq_true, Bool.and_eq_true, decide_eq_true_eq] at h
  have range {low high : UInt32} (h : low ≤ c.val ∧ c.val ≤ high) :
      low.toNat ≤ c.toNat ∧ c.toNat ≤ high.toNat :=
    ⟨UInt32.le_iff_toNat_le.mp h.1, UInt32.le_iff_toNat_le.mp h.2⟩
  obtain digit | letter := h
  · have : 48 ≤ c.toNat ∧ c.toNat ≤ 57 := range digit
    omega
  · have : 65 ≤ c.toNat ∧ c.toNat ≤ 70 := range letter
    omega

theorem Encoded.printable (h : Encoded safe cs) (known : ∀ c ∈ safe, 32 ≤ c.toNat ∧ c.toNat ≤ 126) :
    ∀ c ∈ cs, 32 ≤ c.toNat ∧ c.toNat ≤ 126 := by
  intro c mem
  obtain unreserved | kept | rfl | digit := h.mem mem
  · have := toNat_of_isUnreserved unreserved
    omega
  · exact known c kept
  · decide
  · have := toNat_of_isUpperHex digit
    omega

end

theorem encode_inj {safe : List Char} (ascii : ∀ c ∈ safe, c.toNat < 128 ∧ c ≠ '%') :
    encode safe s = encode safe t ↔ s = t := by
  refine ⟨fun same => ?_, congrArg _⟩
  have decoded := decode_encode ascii s
  rw [same, decode_encode ascii t] at decoded
  exact (Option.some.inj decoded).symm

theorem encode_ne {safe : List Char} (ascii : ∀ c ∈ safe, c.toNat < 128 ∧ c ≠ '%') (h : s ≠ "") :
    encode safe s ≠ "" :=
  fun nothing => h ((encode_inj ascii).mp (nothing.trans (rfl : "" = encode safe "")))

end BotPayload.Percent
