import BotPayload.Argument

/-!
Parameters: what fills the placeholders of a template. A parameter is a value or a text as it comes
from outside, and has a text unless a number in it has too many digits.
-/

namespace BotPayload

inductive Parameter where
  | value (v : Value)
  | text (t : Text)

namespace Parameter

instance : Coe Value Parameter := ⟨.value⟩

def isWritable : Parameter → Bool
  | .value v => v.isWritable
  | .text _ => true

def shown : Parameter → Text
  | .value v => v.text
  | .text t => t

def write : Parameter → Except Error Text
  | .value v => Text.ofString <$> v.write
  | .text t => .ok t

def unicode (p : Parameter) : Except Error String := do (← p.write).unicode

def requirePresent (p : Parameter) (field : String) : Except Error Unit :=
  match p with
  | .value v => v.requirePresent field
  | .text _ => .ok ()

theorem requirePresent_ok {p : Parameter} :
    p.requirePresent field = .ok u ↔ p ≠ .value .null := by
  cases p <;> simp [requirePresent, Value.requirePresent_ok]

theorem write_ok {p : Parameter} : p.write = .ok t ↔ p.isWritable = true ∧ t = p.shown := by
  cases p with
  | value v =>
    simp only [write, map_ok, Value.write_ok, isWritable, shown]
    constructor
    · rintro ⟨_, ⟨short, rfl⟩, rfl⟩
      exact ⟨short, rfl⟩
    · rintro ⟨short, rfl⟩
      exact ⟨_, ⟨short, rfl⟩, rfl⟩
  | text t => simp [write, isWritable, shown, eq_comm]

theorem write_error {p : Parameter} :
    p.write = .error e ↔ p.isWritable = false ∧ e = .tooManyDigits := by
  cases p with
  | value v => simp only [write, map_error, Value.write_error, isWritable]
  | text t => simp [write, isWritable]

theorem unicode_ok {p : Parameter} :
    p.unicode = .ok s ↔ p.isWritable = true ∧ p.shown = Text.ofString s := by
  simp [unicode, bind_ok, write_ok, Text.unicode_ok, and_assoc]

theorem unicode_eq_iff {p : Parameter} (h : p.unicode = .ok s) :
    p.unicode = .ok s' ↔ p.shown = Text.ofString s' := by
  rw [unicode_ok, and_iff_right (unicode_ok.mp h).1]

end Parameter

end BotPayload
