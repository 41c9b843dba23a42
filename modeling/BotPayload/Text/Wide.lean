import BotPayload.Text.Hex

/-!
Text as it comes from outside. A code point of it is a character or a surrogate, one half of a pair
that stands for a character. A text that holds a surrogate has no encoding in UTF-8; every other
text is a string (`string_ok`).
-/

namespace BotPayload

/-- A surrogate is given by its distance from the first one. -/
inductive CodePoint where
  | char (c : Char)
  | surrogate (offset : Fin 0x800)
deriving DecidableEq, Repr

def CodePoint.isSurrogate : CodePoint → Bool
  | .char _ => false
  | .surrogate _ => true

/-- Surrogates that stand side by side: the first of them, its position, and how many they are. -/
structure SurrogateRun where
  offset : Fin 0x800
  position : Nat
  length : Nat
deriving DecidableEq, Repr

structure Text where
  points : List CodePoint
deriving DecidableEq, Repr

namespace Text

def ofString (s : String) : Text := ⟨s.toList.map .char⟩

instance : Coe String Text := ⟨ofString⟩

def length (t : Text) : Nat := t.points.length

def isEmpty (t : Text) : Bool := t.points.isEmpty

/-- The characters from a position on, or the first surrogates there. -/
def chars (position : Nat) : List CodePoint → Except SurrogateRun (List Char)
  | [] => .ok []
  | .char c :: rest => (c :: ·) <$> chars (position + 1) rest
  | .surrogate offset :: rest =>
    .error ⟨offset, position, (rest.takeWhile CodePoint.isSurrogate).length + 1⟩

def string (t : Text) : Except SurrogateRun String := String.ofList <$> chars 0 t.points

def surrogateEscape (offset : Fin 0x800) : List Char :=
  '\\' :: 'u' :: hexDigits .lower 4 (0xD800 + offset)

/-- The text with an escape for each surrogate, as logs show it. -/
def shown (t : Text) : String :=
  String.ofList <| t.points.flatMap fun
    | .char c => [c]
    | .surrogate offset => surrogateEscape offset

theorem map_char_inj {cs cs' : List Char} :
    cs.map CodePoint.char = cs'.map CodePoint.char ↔ cs = cs' :=
  List.map_inj_right fun _ _ => CodePoint.char.inj

theorem chars_ok {ps : List CodePoint} :
    chars position ps = .ok cs ↔ ps = cs.map CodePoint.char := by
  induction ps generalizing position cs with
  | nil => cases cs <;> simp [chars]
  | cons p ps ih =>
    cases p with
    | surrogate offset => cases cs <;> simp [chars]
    | char c =>
      cases cs with
      | nil => cases h : chars (position + 1) ps <;> simp [chars, h, Functor.map, Except.map]
      | cons c' cs =>
        cases h : chars (position + 1) ps with
        | error run =>
          have apart : ps ≠ cs.map CodePoint.char := fun same => by
            rw [ih.mpr same] at h
            cases h
          simp [chars, h, Functor.map, Except.map, apart]
        | ok tail =>
          obtain rfl := ih.mp h
          simp [chars, h, Functor.map, Except.map, map_char_inj]

theorem ofString_inj {s s' : String} : ofString s = ofString s' ↔ s = s' := by
  rw [ofString, ofString, Text.mk.injEq, map_char_inj, String.toList_inj]

theorem string_ok {t : Text} : t.string = .ok s ↔ t = ofString s := by
  obtain ⟨ps⟩ := t
  have read : chars 0 ps = .ok s.toList ↔ ps = s.toList.map .char := chars_ok
  rw [string, ofString, Text.mk.injEq, ← read]
  cases chars 0 ps <;> simp [Functor.map, Except.map, ← String.toList_inj]

theorem isEmpty_ofString (s : String) : (ofString s).isEmpty = decide (s = "") := by
  rw [isEmpty, ofString, Bool.eq_iff_iff, List.isEmpty_iff, List.map_eq_nil_iff, decide_eq_true_eq,
    String.toList_eq_nil_iff]

theorem eq_of_isEmpty {t : Text} (h : t.isEmpty = true) : t = ofString "" :=
  congrArg Text.mk (List.isEmpty_iff.mp h)

theorem length_ofString (s : String) : (ofString s).length = s.length := by
  rw [length, ofString, List.length_map, String.length_toList]

end Text

end BotPayload
