import BotPayload.Text.Hex

/-!
Percent encoding of text as UTF-8. Letters, digits, `_.-~` and a set of safe characters stand for
themselves; every other character becomes `%XX` for each of its bytes. The decoder beside it reads
`%XX` as a byte and every other ASCII character as itself; it gives back every text that was
encoded (`decode_encode`).
-/

namespace BotPayload.Percent

def isUnreserved (c : Char) : Bool :=
  c.isAlphanum || c == '_' || c == '.' || c == '-' || c == '~'

def encodeByte (b : UInt8) : List Char := '%' :: hexDigits .upper 2 b.toNat

def encodeChar (safe : List Char) (c : Char) : List Char :=
  if isUnreserved c || safe.contains c then [c]
  else (String.utf8EncodeChar c).flatMap encodeByte

def encodeChars (safe : List Char) (cs : List Char) : List Char := cs.flatMap (encodeChar safe)

def encode (safe : List Char) (s : String) : String := String.ofList (encodeChars safe s.toList)

/-- The bytes that encoded text stands for; a bare `%` and a character outside ASCII are refused. -/
def decodeBytes : List Char → Option (List UInt8)
  | [] => some []
  | '%' :: h :: l :: rest =>
    match hexValue? h, hexValue? l with
    | some a, some b => (decodeBytes rest).map (UInt8.ofNat (16 * a + b) :: ·)
    | _, _ => none
  | c :: rest =>
    if c ≠ '%' ∧ c.toNat < 128 then (decodeBytes rest).map (UInt8.ofNat c.toNat :: ·) else none

def decode (s : String) : Option String :=
  (decodeBytes s.toList).bind fun bytes => String.fromUTF8? bytes.toByteArray

theorem decodeBytes_encodeByte (b : UInt8) (rest : List Char) :
    decodeBytes (encodeByte b ++ rest) = (decodeBytes rest).map (b :: ·) := by
  have value : UInt8.ofNat (16 * (b.toNat / 16 % 16) + b.toNat % 16) = b := by
    have := b.toNat_lt
    rw [show 16 * (b.toNat / 16 % 16) + b.toNat % 16 = b.toNat by omega, UInt8.ofNat_toNat]
  simp only [encodeByte, hexDigits_two, List.cons_append, List.nil_append, decodeBytes,
    hexValue?_hexChar _ (Nat.mod_lt _ (by decide : 0 < 16)), value]

theorem decodeBytes_encodeBytes (bytes : List UInt8) (rest : List Char) :
    decodeBytes (bytes.flatMap encodeByte ++ rest) = (decodeBytes rest).map (bytes ++ ·) := by
  induction bytes with
  | nil => simp
  | cons b bytes ih =>
    rw [List.flatMap_cons, List.append_assoc, decodeBytes_encodeByte, ih, Option.map_map]
    rfl

theorem decodeBytes_cons {c : Char} (ascii : c.toNat < 128) (plain : c ≠ '%') (rest : List Char) :
    decodeBytes (c :: rest) = (decodeBytes rest).map (String.utf8EncodeChar c ++ ·) := by
  have byte : String.utf8EncodeChar c = [UInt8.ofNat c.toNat] := by
    have : c.val.toNat ≤ 0x7f := Nat.le_of_lt_succ ascii
    simp only [String.utf8EncodeChar, this, ↓reduceIte]
    rfl
  rw [byte, decodeBytes.eq_3]
  · rw [if_pos ⟨plain, ascii⟩]
    rfl
  · rintro h l r rfl
    exact absurd rfl plain

theorem toNat_of_isAlphanum {c : Char} (h : c.isAlphanum = true) :
    48 ≤ c.toNat ∧ c.toNat ≤ 122 := by
  have range {low high : UInt32} (h : low ≤ c.val ∧ c.val ≤ high) :
      low.toNat ≤ c.toNat ∧ c.toNat ≤ high.toNat :=
    ⟨UInt32.le_iff_toNat_le.mp h.1, UInt32.le_iff_toNat_le.mp h.2⟩
  rcases Bool.or_eq_true_iff.mp h with letter | digit
  · rcases Bool.or_eq_true_iff.mp letter with upper | lower
    · have : 65 ≤ c.toNat ∧ c.toNat ≤ 90 := range (of_decide_eq_true upper)
      omega
    · obtain ⟨low, high⟩ := Bool.and_eq_true_iff.mp lower
      have : 97 ≤ c.toNat ∧ c.toNat ≤ 122 := range ⟨of_decide_eq_true low, of_decide_eq_true high⟩
      omega
  · obtain ⟨low, high⟩ := Bool.and_eq_true_iff.mp digit
    have : 48 ≤ c.toNat ∧ c.toNat ≤ 57 := range ⟨of_decide_eq_true low, of_decide_eq_true high⟩
    omega

theorem toNat_of_isUnreserved {c : Char} (h : isUnreserved c = true) :
    45 ≤ c.toNat ∧ c.toNat ≤ 126 := by
  simp only [isUnreserved, Bool.or_eq_true, beq_iff_eq] at h
  rcases h with (((h | rfl) | rfl) | rfl) | rfl
  · obtain ⟨low, high⟩ := toNat_of_isAlphanum h
    omega
  all_goals decide

theorem isUnreserved_ascii {c : Char} (h : isUnreserved c = true) : c.toNat < 128 ∧ c ≠ '%' := by
  obtain ⟨low, high⟩ := toNat_of_isUnreserved h
  refine ⟨by omega, ?_⟩
  rintro rfl
  exact absurd low (by decide)

theorem decodeBytes_encodeChar {safe : List Char} (ascii : ∀ c ∈ safe, c.toNat < 128 ∧ c ≠ '%')
    (c : Char) (rest : List Char) :
    decodeBytes (encodeChar safe c ++ rest) =
      (decodeBytes rest).map (String.utf8EncodeChar c ++ ·) := by
  unfold encodeChar
  split
  · rename_i h
    have : c.toNat < 128 ∧ c ≠ '%' := by
      rcases Bool.or_eq_true_iff.1 h with h | h
      · exact isUnreserved_ascii h
      · exact ascii c (List.contains_iff_mem.1 h)
    exact decodeBytes_cons this.1 this.2 rest
  · exact decodeBytes_encodeBytes _ rest

theorem decodeBytes_encodeChars {safe : List Char} (ascii : ∀ c ∈ safe, c.toNat < 128 ∧ c ≠ '%')
    (cs : List Char) :
    decodeBytes (encodeChars safe cs) = some (cs.flatMap String.utf8EncodeChar) := by
  induction cs with
  | nil => rfl
  | cons c cs ih =>
    rw [encodeChars, List.flatMap_cons, decodeBytes_encodeChar ascii, ← encodeChars, ih,
      List.flatMap_cons]
    rfl

/-- Decoding gives back every text, when the safe characters are ASCII and no percent signs. -/
theorem decode_encode {safe : List Char} (ascii : ∀ c ∈ safe, c.toNat < 128 ∧ c ≠ '%')
    (s : String) : decode (encode safe s) = some s := by
  rw [decode, encode, String.toList_ofList, decodeBytes_encodeChars ascii, Option.bind_some]
  change String.fromUTF8? s.toList.utf8Encode = some s
  rw [String.utf8Encode_toList, String.fromUTF8?, dif_pos s.isValidUTF8]
  rfl

end BotPayload.Percent
