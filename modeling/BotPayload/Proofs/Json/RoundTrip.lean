import BotPayload.Proofs.Json.Reader
import BotPayload.Proofs.Text.Line
import Mathlib.Data.List.Forall2
import Mathlib.Tactic.Ring

/-!
# Written documents read back

The reader takes every document that the writer makes for a value without floating point numbers,
in either layout, to the value itself. Each part is read with what follows it still there: a string
up to its closing quote, a number up to a character that does not continue one, and the parts of a
list or an object up to the closing mark.
-/

namespace BotPayload.Json

-- ---------------------------------------------------------------------------
-- Strings
-- ---------------------------------------------------------------------------

def utf16 (c : Char) : List Nat :=
  if c.toNat < 0x10000 then [c.toNat]
  else [0xD800 + (c.toNat - 0x10000) / 0x400, 0xDC00 + (c.toNat - 0x10000) % 0x400]

theorem toNat_lt (c : Char) : c.toNat < 0x110000 := by
  obtain h | h := c.valid
  · exact Nat.lt_trans h (by decide)
  · exact h.2

theorem foldlM_hexDigits (case : HexCase) (width n start : Nat) :
    (hexDigits case width n).foldlM (fun n c => (hexValue? c).map (16 * n + ·)) start =
      some (start * 16 ^ width + n % 16 ^ width) := by
  induction width generalizing start with
  | zero => simp [hexDigits, Nat.mod_one]
  | succ width ih =>
    have digit : n / 16 ^ width % 16 < 16 := Nat.mod_lt _ (by decide)
    simp only [hexDigits, List.foldlM_cons, Nat.pow_eq, hexValue?_hexChar case digit,
      Option.map_some, Option.bind_eq_bind, Option.bind_some, ih, Nat.mod_pow_succ]
    congr 1
    ring

theorem hexNumber_hexDigits (case : HexCase) (width : Nat) {n : Nat} (h : n < 16 ^ width) :
    hexNumber (hexDigits case width n) = some n := by
  rw [hexNumber, foldlM_hexDigits, Nat.mod_eq_of_lt h, Nat.zero_mul, Nat.zero_add]

theorem readUnits_unicodeEscape {n : Nat} (h : n < 0x10000) (rest : List Char) :
    readUnits (unicodeEscape n ++ rest) =
      (readUnits rest).map fun (us, rest) => (n :: us, rest) := by
  have number := hexNumber_hexDigits .lower 4 h
  simp only [hexDigits] at number
  simp only [unicodeEscape, hexDigits, List.cons_append, List.nil_append, readUnits, number]
  cases readUnits rest <;> rfl

theorem readUnits_letter {letter : Char} (h : escapedUnit letter = some unit) (rest : List Char) :
    readUnits ('\\' :: letter :: rest) =
      (readUnits rest).map fun (us, rest) => (unit :: us, rest) := by
  have other : letter ≠ 'u' := by
    rintro rfl
    nomatch h
  have short : ∀ h₁ h₂ h₃ h₄ cs, letter :: rest ≠ 'u' :: h₁ :: h₂ :: h₃ :: h₄ :: cs :=
    fun _ _ _ _ _ same => other (List.cons.inj same).1
  rw [readUnits.eq_def]
  simp only [Char.reduceEq, ↓reduceIte]
  split
  · rename_i same
    exact absurd same (short _ _ _ _ _)
  · rename_i same
    obtain ⟨rfl, rfl⟩ := List.cons.inj same
    rw [h]
    cases readUnits rest <;> rfl
  · rename_i same
    nomatch same

theorem readUnits_quote (rest : List Char) : readUnits ('"' :: rest) = some ([], rest) := by
  rw [readUnits.eq_def]
  simp only [↓reduceIte]

theorem readUnits_plain {c : Char} (quote : c ≠ '"') (slash : c ≠ '\\') (shown : 32 ≤ c.toNat)
    (rest : List Char) :
    readUnits (c :: rest) = (readUnits rest).map fun (us, rest) => (c.toNat :: us, rest) := by
  rw [readUnits.eq_def]
  simp only [quote, slash, Nat.not_lt.mpr shown, ↓reduceIte]
  cases readUnits rest <;> rfl

theorem utf16_of_lt {c : Char} (h : c.toNat < 0x10000) : utf16 c = [c.toNat] := if_pos h

theorem readUnits_unitEscapes (c : Char) (rest : List Char) :
    readUnits (unitEscapes c ++ rest) =
      (readUnits rest).map fun (us, rest) => (utf16 c ++ us, rest) := by
  unfold unitEscapes utf16
  dsimp only
  split
  · rename_i small
    rw [readUnits_unicodeEscape small]
    rfl
  · have size := toNat_lt c
    rw [List.append_assoc, readUnits_unicodeEscape (by omega), readUnits_unicodeEscape (by omega),
      Option.map_map]
    rfl

theorem readUnits_escape (c : Char) (rest : List Char) :
    readUnits (escape c ++ rest) =
      (readUnits rest).map fun (us, rest) => (utf16 c ++ us, rest) := by
  have letter (l : Char) (known : escapedUnit l = some c.toNat) (small : c.toNat < 0x10000) :
      readUnits (['\\', l] ++ rest) =
        (readUnits rest).map fun (us, rest) => (utf16 c ++ us, rest) := by
    rw [utf16_of_lt small]
    exact readUnits_letter known rest
  unfold escape
  split
  · subst_vars
    exact letter _ rfl (by decide)
  split
  · subst_vars
    exact letter _ rfl (by decide)
  split
  · subst_vars
    exact letter _ rfl (by decide)
  split
  · subst_vars
    exact letter _ rfl (by decide)
  split
  · subst_vars
    exact letter _ rfl (by decide)
  split
  · rename_i code
    exact letter 'b' (code ▸ rfl) (by omega)
  split
  · rename_i code
    exact letter 'f' (code ▸ rfl) (by omega)
  split
  · rename_i quote slash _ _ _ _ _ shown
    rw [utf16_of_lt (by omega)]
    exact readUnits_plain quote slash shown.1 rest
  · exact readUnits_unitEscapes c rest

theorem scalar?_toNat (c : Char) : scalar? c.toNat = some c := by
  have valid : c.toNat.isValidChar := c.valid
  rw [scalar?, if_pos valid, Char.ofNat_toNat]

theorem joinUnits_utf16 (c : Char) (us : List Nat) :
    joinUnits (utf16 c ++ us) = (joinUnits us).map (c :: ·) := by
  unfold utf16
  split
  · rw [List.singleton_append, joinUnits.eq_def]
    simp only [scalar?_toNat]
  · rename_i high
    have size := toNat_lt c
    -- The first half of a pair is no character by itself, so the second one is looked at.
    have half : scalar? (0xD800 + (c.toNat - 0x10000) / 0x400) = none := by
      rw [scalar?, if_neg]
      unfold Nat.isValidChar
      omega
    have pair : pair? (0xD800 + (c.toNat - 0x10000) / 0x400)
        (0xDC00 + (c.toNat - 0x10000) % 0x400) = some c := by
      rw [pair?, if_pos (by omega)]
      have whole : 0x10000 + (0xD800 + (c.toNat - 0x10000) / 0x400 - 0xD800) * 0x400 +
          (0xDC00 + (c.toNat - 0x10000) % 0x400 - 0xDC00) = c.toNat := by omega
      rw [whole, Char.ofNat_toNat]
    simp only [List.cons_append, List.nil_append, joinUnits, half, pair]
    cases joinUnits us <;> rfl

theorem readUnits_string (cs rest : List Char) :
    readUnits (cs.flatMap escape ++ '"' :: rest) = some (cs.flatMap utf16, rest) := by
  induction cs with
  | nil => exact readUnits_quote rest
  | cons c cs ih =>
    rw [List.flatMap_cons, List.append_assoc, readUnits_escape, ih]
    rfl

theorem joinUnits_flatMap (cs : List Char) : joinUnits (cs.flatMap utf16) = some cs := by
  induction cs with
  | nil => rfl
  | cons c cs ih =>
    rw [List.flatMap_cons, joinUnits_utf16, ih]
    rfl

theorem toList_string (s : String) :
    (string s).toList = '"' :: (s.toList.flatMap escape ++ ['"']) :=
  String.toList_ofList

theorem readString_flatMap (s : String) (rest : List Char) :
    readString (s.toList.flatMap escape ++ '"' :: rest) = some (s, rest) := by
  simp only [readString, readUnits_string, joinUnits_flatMap, Option.bind_eq_bind, Option.bind_some,
    Option.pure_def, String.ofList_toList]

-- ---------------------------------------------------------------------------
-- Numbers
-- ---------------------------------------------------------------------------

def Ended (rest : List Char) : Prop := ∀ c, rest.head? = some c → isNumberChar c = false

theorem isDigit_of_mem {n : Nat} {c : Char} (h : c ∈ natDigits n) : c.isDigit = true := by
  have digit : ∀ d < 10, (digitChar d).isDigit = true := by decide
  obtain ⟨d, small, rfl⟩ := mem_natDigits h
  exact digit d small

theorem natDigits_head (n : Nat) : (natDigits n).head? = some '0' → n = 0 := by
  refine natDigits_induction (P := fun n cs => cs.head? = some '0' → n = 0) ?_ ?_ n
  · decide
  · intro n large ih head
    cases digits : natDigits (n / 10) with
    | nil => exact absurd digits (natDigits_ne_nil _)
    | cons c cs =>
      rw [digits] at ih head
      have := ih head
      omega

theorem takeWhile_digits {n : Nat} {rest : List Char} (ended : Ended rest) :
    (natDigits n ++ rest).takeWhile Char.isDigit = natDigits n ∧
      (natDigits n ++ rest).dropWhile Char.isDigit = rest := by
  have stop : ∀ c, rest.head? = some c → c.isDigit = false := by
    intro c head
    have := ended c head
    simp only [isNumberChar, Bool.or_eq_false_iff] at this
    exact this.1.1.1
  rw [List.takeWhile_append_of_pos fun c => isDigit_of_mem,
    List.dropWhile_append_of_pos fun c => isDigit_of_mem]
  cases rest with
  | nil => simp
  | cons c cs => simp [stop c rfl]

theorem readNatural_natDigits (n : Nat) {rest : List Char} (ended : Ended rest) :
    readNatural (natDigits n ++ rest) = some (n, rest) := by
  obtain ⟨taken, left⟩ := takeWhile_digits (n := n) ended
  have written : (natDigits n).isEmpty = false := by simpa using natDigits_ne_nil n
  -- Only zero is written with a zero in front, and then with nothing behind it.
  have front : ((natDigits n).head? == some '0' && (natDigits n).length != 1) = false := by
    by_cases zero : (natDigits n).head? = some '0'
    · rw [natDigits_head n zero, natDigits_of_lt (by decide)]
      rfl
    · simp [zero]
  have other : rest.head?.any isNumberChar = false := by
    cases head : rest.head? with
    | none => rfl
    | some c => exact ended c head
  simp only [readNatural, taken, left, written, front, other, Bool.or_self, Bool.false_eq_true,
    ↓reduceIte, Numeral.ofDigits_natDigits]

theorem readNumber_intText (n : Int) {rest : List Char} (ended : Ended rest) :
    readNumber ((intText n).toList ++ rest) = some (n, rest) := by
  unfold intText
  split
  · rename_i negative
    rw [String.toList_ofList, List.cons_append, readNumber, readNatural_natDigits _ ended,
      Option.map_some]
    have natural : -((n.natAbs : Nat) : Int) = n := by omega
    exact congrArg (fun n => some (n, rest)) natural
  · rename_i sign
    have natural : ((n.natAbs : Nat) : Int) = n := by omega
    have unsigned : ∀ cs, natDigits n.natAbs ++ rest ≠ '-' :: cs := by
      intro cs same
      cases digits : natDigits n.natAbs with
      | nil => exact natDigits_ne_nil _ digits
      | cons c ds =>
        rw [digits] at same
        have digit := isDigit_of_mem (n := n.natAbs) (c := c) (digits ▸ List.mem_cons_self)
        obtain rfl := (List.cons.inj same).1
        nomatch digit
    rw [natText, String.toList_ofList, readNumber]
    · rw [readNatural_natDigits _ ended, Option.map_some]
      exact congrArg (fun n => some (n, rest)) natural
    · exact unsigned

-- ---------------------------------------------------------------------------
-- Documents
-- ---------------------------------------------------------------------------

def Gaps (cs : List Char) : Prop := ∀ c ∈ cs, isGap c = true

theorem skip_gaps {gap : List Char} (h : Gaps gap) (cs : List Char) : skip (gap ++ cs) = skip cs :=
  List.dropWhile_append_of_pos h

theorem skip_cons {c : Char} (h : isGap c = false) (cs : List Char) : skip (c :: cs) = c :: cs := by
  simp [skip, h]

/-- A text is read as a value, with blanks in front and whatever ends it behind. -/
def ReadAs (one : List Char → Option (α × List Char)) (a : α) (text : List Char) : Prop :=
  ∀ gap rest, Gaps gap → Ended rest → one (gap ++ text ++ rest) = some (a, rest)

section
variable {one : List Char → Option (α × List Char)} {closing c : Char} {gap rest : List Char}

theorem ended_cons (h : isNumberChar c = false) (rest : List Char) : Ended (c :: rest) := by
  rintro _ ⟨⟩
  exact h

theorem Gaps.ended (h : Gaps gap) (ended : Ended rest) : Ended (gap ++ rest) := by
  cases gap with
  | nil => exact ended
  | cons c cs =>
    have blank := h c List.mem_cons_self
    refine ended_cons ?_ _
    revert blank
    simp only [isGap, Bool.or_eq_true, beq_iff_eq]
    rintro (((rfl | rfl) | rfl) | rfl) <;> rfl

theorem readSeries_intercalate {as : List α} {texts : List (List Char)}
    (h : List.Forall₂ (ReadAs one) as texts) (ne : as ≠ []) {blank outer : List Char}
    (between : Gaps blank) (after : Gaps outer) (mark : isGap closing = false)
    (ends : isNumberChar closing = false) (other : closing ≠ ',') (front : Gaps gap) (fuel : Nat)
    (enough : (List.intercalate (',' :: blank) texts).length < fuel) :
    readSeries one closing fuel
      (gap ++ List.intercalate (',' :: blank) texts ++ (outer ++ closing :: rest)) =
      some (as, rest) := by
  induction h generalizing gap fuel with
  | nil => exact absurd rfl ne
  | @cons a text as texts head tail ih =>
    obtain ⟨fuel, rfl⟩ : ∃ k, fuel = k + 1 := ⟨fuel - 1, by omega⟩
    cases tail with
    | nil =>
      have stop : Ended (outer ++ closing :: rest) := after.ended (ended_cons ends rest)
      have read := head gap (outer ++ closing :: rest) front stop
      simp only [List.intercalate_singleton, readSeries, read, Option.bind_eq_bind,
        Option.bind_some, skip_gaps after, skip_cons mark, ↓reduceIte, Option.pure_def]
    | @cons b second bs others next more =>
      rw [List.intercalate_cons_cons] at enough ⊢
      generalize joined : List.intercalate (',' :: blank) (second :: others) = series at ih enough ⊢
      -- The comma ends this part, and what follows it is a series with a gap in front.
      have stop : Ended (',' :: (blank ++ series ++ (outer ++ closing :: rest))) := ended_cons rfl _
      have read := head gap _ front stop
      have series_read := ih (List.cons_ne_nil _ _) between fuel (by simp at enough; omega)
      have split : gap ++ (text ++ ',' :: blank ++ series) ++ (outer ++ closing :: rest) =
          gap ++ text ++ ',' :: (blank ++ series ++ (outer ++ closing :: rest)) := by simp
      rw [split]
      simp only [readSeries, read, Option.bind_eq_bind, Option.bind_some,
        skip_cons (c := ',') rfl, other.symm, ↓reduceIte, series_read, Option.pure_def]

theorem readValue_gaps (front : Gaps gap) (fuel : Nat) (cs : List Char) :
    readValue fuel (gap ++ cs) = readValue fuel cs := by
  cases fuel with
  | zero => rfl
  | succ fuel => simp only [readValue, skip_gaps front]

theorem length_le_intercalate (sep : List Char) {text : List Char} {texts : List (List Char)}
    (h : text ∈ texts) : text.length ≤ (List.intercalate sep texts).length := by
  induction texts with
  | nil => nomatch h
  | cons first others ih =>
    cases others with
    | nil => simp [List.mem_singleton.mp h]
    | cons second others =>
      rw [List.intercalate_cons_cons, List.length_append, List.length_append]
      obtain rfl | later := List.mem_cons.mp h
      · omega
      · have := ih later
        omega

end

def Opens (text : List Char) : Prop :=
  ∃ c cs, text = c :: cs ∧ isGap c = false ∧ c ≠ ']' ∧ c ≠ '\x7d'

theorem Opens.intercalate {text : List Char} (h : Opens text) (sep : List Char)
    (texts : List (List Char)) : Opens (List.intercalate sep (text :: texts)) := by
  obtain ⟨c, cs, rfl, shown, list, object⟩ := h
  cases texts with
  | nil => exact ⟨c, cs, by simp, shown, list, object⟩
  | cons second others =>
    exact ⟨c, _, by rw [List.intercalate_cons_cons]; rfl, shown, list, object⟩

theorem Opens.head? {gap text : List Char} (h : Opens text) (front : Gaps gap) (rest : List Char) :
    (skip (gap ++ text ++ rest)).head? ≠ some ']' ∧
      (skip (gap ++ text ++ rest)).head? ≠ some '\x7d' := by
  obtain ⟨c, cs, rfl, shown, list, object⟩ := h
  rw [List.append_assoc, skip_gaps front, List.cons_append, skip_cons shown]
  simp [list, object]

-- ---------------------------------------------------------------------------
-- Layouts
-- ---------------------------------------------------------------------------

theorem lineBreak_gaps (l : Layout) (depth : Nat) : Gaps (l.lineBreak depth).toList := by
  cases l with
  | line => exact nofun
  | indented width =>
    intro c hc
    rw [Layout.lineBreak, String.toList_ofList, List.mem_cons, List.mem_replicate] at hc
    obtain rfl | ⟨-, rfl⟩ := hc <;> rfl

theorem separator_gaps (l : Layout) (depth : Nat) :
    ∃ blank, Gaps blank ∧ (l.separator ++ l.lineBreak depth).toList = ',' :: blank := by
  cases l with
  | line => exact ⟨[' '], by simp [Gaps, isGap], by simp [Layout.separator, Layout.lineBreak]⟩
  | indented width =>
    exact ⟨_, lineBreak_gaps (.indented width) depth, by simp [Layout.separator]⟩

theorem toList_wrap (l : Layout) (depth : Nat) (opening closing : String) (items : List String)
    (ne : items ≠ []) :
    ∃ front blank outer, Gaps front ∧ Gaps blank ∧ Gaps outer ∧
      (l.wrap depth opening closing items).toList = opening.toList ++
        (front ++ List.intercalate (',' :: blank) (items.map String.toList) ++
          (outer ++ closing.toList)) := by
  obtain ⟨blank, between, separator⟩ := separator_gaps l (depth + 1)
  refine ⟨_, blank, _, lineBreak_gaps l (depth + 1), between, lineBreak_gaps l depth, ?_⟩
  have some : items.isEmpty = false := by simpa using ne
  simp only [Layout.wrap, some, Bool.false_eq_true, ↓reduceIte, String.toList_append,
    String.toList_intercalate, ← separator, List.append_assoc]

theorem writeItems_eq (l : Layout) (depth : Nat) (items : List Value) :
    writeItems l depth items = items.map (write l (depth + 1)) := by
  induction items with
  | nil => rfl
  | cons v items ih => rw [writeItems, ih, List.map_cons]

def writeMember (l : Layout) (depth : Nat) (m : String × Value) : String :=
  string m.1 ++ ": " ++ write l depth m.2

theorem writeMembers_eq (l : Layout) (depth : Nat) (members : Members) :
    writeMembers l depth members = members.map (writeMember l (depth + 1)) := by
  induction members with
  | nil => rfl
  | cons m members ih => rw [writeMembers, ih, List.map_cons, writeMember]

-- ---------------------------------------------------------------------------
-- Values
-- ---------------------------------------------------------------------------

inductive Floatless : Value → Prop
  | null : Floatless .null
  | bool : Floatless (.bool b)
  | int : Floatless (.int n)
  | str : Floatless (.str s)
  | list : (∀ v ∈ items, Floatless v) → Floatless (.list items)
  | object : (∀ m ∈ members, Floatless m.2) → Floatless (.object members)

section
variable {v : Value} {l : Layout} {depth : Nat}

theorem intText_first (n : Int) :
    ∃ c cs, (intText n).toList = c :: cs ∧ (c == '-' || c.isDigit) = true := by
  unfold intText
  split
  · exact ⟨'-', _, String.toList_ofList, rfl⟩
  · cases digits : natDigits n.natAbs with
    | nil => exact absurd digits (natDigits_ne_nil _)
    | cons c cs =>
      have digit := isDigit_of_mem (n := n.natAbs) (c := c) (digits ▸ List.mem_cons_self)
      exact ⟨c, cs, by rw [natText, String.toList_ofList, digits], by rw [digit, Bool.or_true]⟩

theorem ne_of_first {c : Char} (h : (c == '-' || c.isDigit) = true) (mark : Char)
    (other : (mark == '-' || mark.isDigit) = false) : c ≠ mark := by
  rintro rfl
  rw [h] at other
  nomatch other

theorem isGap_first {c : Char} (h : (c == '-' || c.isDigit) = true) : isGap c = false := by
  simp only [isGap, Bool.or_eq_false_iff, beq_eq_false_iff_ne]
  exact ⟨⟨⟨ne_of_first h _ rfl, ne_of_first h _ rfl⟩, ne_of_first h _ rfl⟩, ne_of_first h _ rfl⟩

theorem wrap_first (l : Layout) (depth : Nat) (opening closing : String) (items : List String) :
    ∃ inner, (l.wrap depth opening closing items).toList = opening.toList ++ inner := by
  unfold Layout.wrap
  split
  · exact ⟨_, String.toList_append⟩
  · simp only [String.toList_append, List.append_assoc]
    exact ⟨_, rfl⟩

theorem toList_null : (write l depth .null).toList = ['n', 'u', 'l', 'l'] := by simp [write]

theorem toList_false : (write l depth (.bool false)).toList = ['f', 'a', 'l', 's', 'e'] := by
  simp [write]

theorem toList_true : (write l depth (.bool true)).toList = ['t', 'r', 'u', 'e'] := by
  simp [write]

theorem Floatless.opens (h : Floatless v) (l : Layout) (depth : Nat) :
    Opens (write l depth v).toList := by
  cases h with
  | null => exact ⟨'n', _, toList_null, rfl, by decide, by decide⟩
  | @bool b =>
    cases b with
    | false => exact ⟨'f', _, toList_false, rfl, by decide, by decide⟩
    | true => exact ⟨'t', _, toList_true, rfl, by decide, by decide⟩
  | @int n =>
    obtain ⟨c, cs, text, first⟩ := intText_first n
    exact ⟨c, cs, text, isGap_first first, ne_of_first first _ rfl, ne_of_first first _ rfl⟩
  | @str s => exact ⟨'"', _, toList_string s, rfl, by decide, by decide⟩
  | list =>
    obtain ⟨inner, text⟩ := wrap_first l depth "[" "]" (writeItems l depth _)
    exact ⟨'[', inner, by rw [write, text]; rfl, rfl, by decide, by decide⟩
  | object =>
    obtain ⟨inner, text⟩ := wrap_first l depth "\x7b" "\x7d" (writeMembers l depth _)
    exact ⟨'\x7b', inner, by rw [write, text]; rfl, rfl, by decide, by decide⟩

theorem writeMember_opens (m : String × Value) : Opens (writeMember l depth m).toList :=
  ⟨'"', _, by simp only [writeMember, String.toList_append, toList_string, List.cons_append]; rfl,
    rfl, by decide, by decide⟩

theorem readMember_write {key : String} {value : List Char → Option (Value × List Char)}
    (h : ReadAs value v (write l depth v).toList) :
    ReadAs (readMember value) (key, v) (writeMember l depth (key, v)).toList := by
  intro gap rest front ended
  have text : (writeMember l depth (key, v)).toList ++ rest =
      '"' :: (key.toList.flatMap escape ++
        '"' :: ':' :: ([' '] ++ (write l depth v).toList ++ rest)) := by
    simp [writeMember, toList_string]
  have value_read := h [' '] rest (by simp [Gaps, isGap]) ended
  rw [List.append_assoc, text, readMember, skip_gaps front, skip_cons (c := '"') rfl]
  simp only [↓reduceIte, readString_flatMap, skip_cons (c := ':') rfl, Option.bind_eq_bind,
    Option.bind_some, value_read, Option.pure_def]

theorem readAs_parts {one : List Char → Option (β × List Char)} {texts : β → String}
    {parts : List β} {fuel : Nat} (sep : List Char)
    (h : ∀ b ∈ parts, (texts b).toList.length < fuel → ReadAs one b (texts b).toList)
    (enough : (List.intercalate sep ((parts.map texts).map String.toList)).length < fuel) :
    List.Forall₂ (ReadAs one) parts ((parts.map texts).map String.toList) := by
  rw [List.map_map, List.forall₂_map_right_iff, List.forall₂_same]
  intro b hb
  -- Fuel for all texts together is enough for each of them.
  refine h b hb (Nat.lt_of_le_of_lt (length_le_intercalate sep ?_) enough)
  rw [List.map_map]
  exact List.mem_map_of_mem hb

theorem readSeries_wrap {one : List Char → Option (β × List Char)} {texts : β → String}
    {parts : List β} {fuel : Nat} {opening closing : String} (mark : Char) {last : Char}
    (ne : parts ≠ []) (first : opening.toList = [mark]) (final : closing.toList = [last])
    (known : last = ']' ∨ last = '\x7d')
    (h : ∀ b ∈ parts, (texts b).toList.length < fuel → ReadAs one b (texts b).toList)
    (opens : ∀ b ∈ parts, Opens (texts b).toList)
    (enough : (l.wrap depth opening closing (parts.map texts)).toList.length < fuel + 1)
    (rest : List Char) :
    ∃ inner, (l.wrap depth opening closing (parts.map texts)).toList ++ rest = mark :: inner ∧
      (skip inner).head? ≠ some last ∧ readSeries one last fuel inner = some (parts, rest) := by
  obtain ⟨front, blank, outer, gap, between, after, text⟩ :=
    toList_wrap l depth opening closing (parts.map texts) (by simpa using ne)
  rw [text, first, final] at enough ⊢
  generalize joined : List.intercalate (',' :: blank) ((parts.map texts).map String.toList) = series
    at enough ⊢
  have room : series.length < fuel := by
    simp only [List.length_append, List.length_singleton] at enough
    omega
  have reads := readAs_parts (',' :: blank) h (joined ▸ room)
  have unblank : isGap last = false := by obtain rfl | rfl := known <;> rfl
  have ends : isNumberChar last = false := by obtain rfl | rfl := known <;> rfl
  have other : last ≠ ',' := by obtain rfl | rfl := known <;> decide
  refine ⟨front ++ series ++ (outer ++ last :: rest), by simp, ?_, ?_⟩
  · obtain ⟨b, others, rfl⟩ := List.exists_cons_of_ne_nil ne
    have start := (opens b List.mem_cons_self).intercalate (',' :: blank)
      ((others.map texts).map String.toList)
    have head := start.head? gap (outer ++ last :: rest)
    rw [← List.map_cons, ← List.map_cons, joined] at head
    obtain rfl | rfl := known
    · exact head.1
    · exact head.2
  · rw [← joined] at room ⊢
    exact readSeries_intercalate reads ne between after unblank ends other gap fuel room

theorem readAs_of {text : List Char} {fuel : Nat} (enough : text.length < fuel)
    (h : ∀ inner rest, fuel = inner + 1 → Ended rest →
      readValue (inner + 1) (text ++ rest) = some (v, rest)) :
    ReadAs (readValue fuel) v text := by
  intro gap rest front ended
  obtain ⟨inner, rfl⟩ : ∃ k, fuel = k + 1 := ⟨fuel - 1, by omega⟩
  rw [List.append_assoc, readValue_gaps front]
  exact h inner rest rfl ended

theorem Floatless.readAs (h : Floatless v) (l : Layout) (depth fuel : Nat)
    (enough : (write l depth v).toList.length < fuel) :
    ReadAs (readValue fuel) v (write l depth v).toList := by
  induction h generalizing depth fuel with
  | null =>
    apply readAs_of enough
    rintro inner rest rfl ended
    simp [toList_null, readValue, skip_cons, isGap, readWord]
  | @bool b =>
    apply readAs_of enough
    rintro inner rest rfl ended
    cases b with
    | false => simp [toList_false, readValue, skip_cons, isGap, readWord]
    | true => simp [toList_true, readValue, skip_cons, isGap, readWord]
  | @int n =>
    apply readAs_of enough
    rintro inner rest rfl ended
    obtain ⟨c, cs, text, first⟩ := intText_first n
    have number := readNumber_intText n ended
    rw [text, List.cons_append] at number
    rw [write, text, List.cons_append, readValue, skip_cons (isGap_first first)]
    simp only [ne_of_first first '"' rfl, ne_of_first first '[' rfl,
      ne_of_first first '\x7b' rfl, ne_of_first first 'n' rfl,
      ne_of_first first 't' rfl, ne_of_first first 'f' rfl, ↓reduceIte, number,
      Option.map_some]
  | @str s =>
    apply readAs_of enough
    rintro inner rest rfl ended
    rw [write, toList_string, List.cons_append, List.append_assoc, List.singleton_append, readValue,
      skip_cons (c := '"') rfl]
    simp only [↓reduceIte, readString_flatMap, Option.map_some]
  | @list items floatless ih =>
    apply readAs_of enough
    rintro inner rest rfl ended
    rw [write, writeItems_eq] at enough ⊢
    by_cases ne : items = []
    · subst ne
      simp [Layout.wrap, readValue, skip_cons, isGap]
    · -- The items take the fuel that is left: each is shorter than the list.
      obtain ⟨inside, text, more, series⟩ := readSeries_wrap '[' ne (by simp) (by simp)
        (.inl rfl) (fun v hv => ih v hv (depth + 1) inner)
        (fun v hv => (floatless v hv).opens l (depth + 1)) enough rest
      rw [text, readValue, skip_cons (c := '[') rfl]
      simp only [Char.reduceEq, more, ↓reduceIte, series, Option.map_some]
  | @object members floatless ih =>
    apply readAs_of enough
    rintro inner rest rfl ended
    rw [write, writeMembers_eq] at enough ⊢
    by_cases ne : members = []
    · subst ne
      simp [Layout.wrap, readValue, skip_cons, isGap]
    · have member : ∀ m ∈ members, (writeMember l (depth + 1) m).toList.length < inner →
          ReadAs (readMember (readValue inner)) m (writeMember l (depth + 1) m).toList := by
        intro m hm short
        refine readMember_write (ih m hm (depth + 1) inner ?_)
        simp only [writeMember, String.toList_append, List.length_append] at short
        omega
      obtain ⟨inside, text, more, series⟩ := readSeries_wrap '\x7b' ne (by simp)
        (by simp) (.inr rfl) member (fun m _ => writeMember_opens m) enough rest
      rw [text, readValue, skip_cons (c := '\x7b') rfl]
      simp only [Char.reduceEq, more, ↓reduceIte, series, Option.map_some]

/-- A written document is read as the value that it was written for. -/
theorem read_document (h : Floatless v) (l : Layout) : read (document l v) = some v := by
  have whole := h.readAs l 0 ((write l 0 v).length + 1) (by rw [String.length_toList]; omega)
    [] [] nofun nofun
  rw [List.nil_append, List.append_nil] at whole
  simp only [read, document, whole, Option.bind_eq_bind, Option.bind_some, skip,
    List.dropWhile_nil, ↓reduceIte]

end

-- ---------------------------------------------------------------------------
-- Lines
-- ---------------------------------------------------------------------------

theorem escape_one_line (c : Char) : '\n' ∉ escape c := by
  have unit (n : Nat) : '\n' ∉ unicodeEscape n := by simp [unicodeEscape, hexDigits_one_line]
  unfold escape
  split
  · decide
  split
  · decide
  split
  · decide
  split
  · decide
  split
  · decide
  split
  · decide
  split
  · decide
  split
  · rename_i other _ _ _ _ _
    simpa using fun same : '\n' = c => other same.symm
  · unfold unitEscapes
    dsimp only
    split
    · exact unit _
    · rw [List.mem_append, not_or]
      exact ⟨unit _, unit _⟩

theorem oneLine_string (s : String) : OneLine (string s) := by
  simp only [OneLine, toList_string, List.mem_cons, List.mem_append, List.mem_flatMap,
    List.not_mem_nil, or_false, not_or, not_exists, not_and]
  exact ⟨by decide, fun c _ => escape_one_line c, by decide⟩

theorem oneLine_wrap {opening closing : String} {items : List String} (depth : Nat)
    (first : OneLine opening) (last : OneLine closing) (h : ∀ item ∈ items, OneLine item) :
    OneLine (Layout.line.wrap depth opening closing items) := by
  unfold Layout.wrap
  split
  · exact oneLine_append.mpr ⟨first, last⟩
  · have blank : OneLine "" := by decide
    have series : OneLine (String.intercalate (", " ++ "") items) :=
      oneLine_intercalate (by decide) h
    simp only [oneLine_append, Layout.lineBreak, Layout.separator]
    exact ⟨⟨⟨⟨first, blank⟩, series⟩, blank⟩, last⟩

theorem Floatless.oneLine (h : Floatless v) (depth : Nat) : OneLine (write .line depth v) := by
  induction h generalizing depth with
  | null => rw [write]; decide
  | @bool b => cases b <;> rw [write] <;> decide
  | int => exact oneLine_intText _
  | str => exact oneLine_string _
  | list _ ih =>
    rw [write, writeItems_eq]
    refine oneLine_wrap depth (by decide) (by decide) ?_
    rw [List.forall_mem_map]
    exact fun v hv => ih v hv (depth + 1)
  | object _ ih =>
    rw [write, writeMembers_eq]
    refine oneLine_wrap depth (by decide) (by decide) ?_
    rw [List.forall_mem_map]
    intro m hm
    have between : OneLine ": " := by decide
    exact oneLine_append.mpr ⟨oneLine_append.mpr ⟨oneLine_string m.1, between⟩, ih m hm (depth + 1)⟩

theorem oneLine_document (h : Floatless v) : OneLine (document .line v) := h.oneLine 0

end BotPayload.Json
