import BotPayload.Error
import BotPayload.Value.Quantity

/-!
Writing values and texts: a number of too many digits cannot be written, and a surrogate has no
encoding in UTF-8.
-/

namespace BotPayload

namespace Value

def write (v : Value) : Except Error String :=
  if v.isWritable then .ok v.text else .error .tooManyDigits

theorem write_ok {v : Value} : v.write = .ok s ↔ v.isWritable = true ∧ s = v.text := by
  cases h : v.isWritable <;> simp [write, h, eq_comm]

theorem write_error {v : Value} :
    v.write = .error e ↔ v.isWritable = false ∧ e = .tooManyDigits := by
  cases h : v.isWritable <;> simp [write, h, eq_comm]

@[simp] theorem isWritable_int (n : Int) : (int n).isWritable = Numeral.isShort n := rfl

@[simp] theorem isWritable_str (s : String) : (str s).isWritable = true := rfl

end Value

def Quantity.write (q : Quantity) : Except Error String := q.toValue.write

namespace Text

def unicode (t : Text) : Except Error String := t.string.mapError .surrogates

theorem unicode_ok {t : Text} : t.unicode = .ok s ↔ t = ofString s := by
  rw [← string_ok, unicode]
  cases t.string with
  | ok _ =>
    constructor
    · exact fun h => congrArg Except.ok (Except.ok.inj h)
    · exact fun h => congrArg Except.ok (Except.ok.inj h)
  | error _ => constructor <;> intro h <;> cases h

@[simp] theorem unicode_ofString (s : String) : (ofString s).unicode = .ok s :=
  unicode_ok.mpr rfl

theorem unicode_error {t : Text} (h : t.unicode = .error e) : ∃ run, e = .surrogates run := by
  cases outcome : t.string with
  | ok s => cases h.symm.trans (unicode_ok.mpr (string_ok.mp outcome))
  | error run =>
    have failed : t.unicode = .error (.surrogates run) := by
      rw [unicode, outcome]
      rfl
    exact ⟨run, Except.error.inj (h.symm.trans failed)⟩

end Text

end BotPayload
