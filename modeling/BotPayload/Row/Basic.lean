import BotPayload.Button.Derivation

/-!
Action rows: one to five buttons side by side. A row comes from a list of arguments, through
`ActionRow.ofArguments`.
-/

namespace BotPayload

structure ActionRow where
  buttons : List Button
deriving DecidableEq, Repr

namespace ActionRow

def maxButtons : Nat := 5

def size (r : ActionRow) : Nat := r.buttons.length

def ofArguments (args : List (Argument Button)) : Except Error ActionRow := do
  let buttons ← allGiven args "Buttons" .notButtons
  require (!buttons.isEmpty) "Buttons" .noButtons
  require (buttons.length ≤ maxButtons) "Buttons" (.tooManyButtons maxButtons buttons.length)
  return ⟨buttons⟩

/-- The position that an index denotes in a list of `n`; a negative one counts from the end. -/
def position? (n : Nat) (index : Int) : Option Nat :=
  if -(n : Int) ≤ index ∧ index < n then
    some (if index < 0 then (index + n).toNat else index.toNat)
  else none

def get (r : ActionRow) (index : Int) : Except Error Button :=
  match (position? r.size index).bind fun i => r.buttons[i]? with
  | some b => .ok b
  | none => .error .positionOutOfRange

/-- An index that denotes no button is named by the error, if it can be written. -/
def replace (r : ActionRow) (index : Int) (button : Argument Button) :
    Except Error ActionRow :=
  match position? r.size index with
  | some i => ofArguments ((r.buttons.map .given).set i button)
  | none => do throw (.noButtonAt (← (Value.int index).write))

def mapButtons (f : Button → Except Error Button) (r : ActionRow) : Except Error ActionRow := do
  let buttons ← r.buttons.mapM f
  ofArguments (buttons.map .given)

def disable (r : ActionRow) : Except Error ActionRow := r.mapButtons Button.disable

def enable (r : ActionRow) : Except Error ActionRow := r.mapButtons Button.enable

end ActionRow

end BotPayload
