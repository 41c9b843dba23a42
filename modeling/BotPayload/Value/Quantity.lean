import BotPayload.Value.Basic

/-!
Numbers as a caller writes them: whole, floating point, or a truth value that counts as one or
zero. They are compared by value and written the way they came.
-/

namespace BotPayload

inductive Quantity where
  | int (n : Int)
  | float (x : Binary64)
  | flag (b : Bool)
deriving DecidableEq, Repr

namespace Quantity

def toValue : Quantity → Value
  | .int n => .int n
  | .float x => .float x
  | .flag b => .bool b

def text (q : Quantity) : String := q.toValue.text

def ofValue? : Value → Option Quantity
  | .int n => some (.int n)
  | .float x => some (.float x)
  | .bool b => some (.flag b)
  | _ => none

def compareInt : Quantity → Int → Ordering
  | .int m, n => compare m n
  | .float x, n => x.compareInt n
  | .flag b, n => compare (if b then 1 else 0) n

def isNegative (q : Quantity) : Bool := q.compareInt 0 == .lt

@[simp] theorem isNegative_int (n : Int) : (int n).isNegative = decide (n < 0) := by
  rw [isNegative, compareInt, Bool.eq_iff_iff, beq_iff_eq, Int.compare_eq_lt, decide_eq_true_eq]

@[simp] theorem isNegative_flag (b : Bool) : (flag b).isNegative = false := by
  cases b <;> rfl

def exceeds (q : Quantity) (n : Int) : Bool := q.compareInt n == .gt

@[simp] theorem exceeds_int (m n : Int) : (int m).exceeds n = decide (n < m) := by
  rw [exceeds, compareInt, Bool.eq_iff_iff, beq_iff_eq, Int.compare_eq_gt, decide_eq_true_eq]

def toInt? : Quantity → Option Int
  | .int n => some n
  | .float x => x.toInt?
  | .flag b => some (if b then 1 else 0)

end Quantity

end BotPayload
