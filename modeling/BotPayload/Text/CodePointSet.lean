/-!
Sets of code points as data: a property of the character table is kept as the points at which
membership changes.
-/

namespace BotPayload

/-- A set of code points, given by the ascending points where membership changes. Membership
starts outside. -/
structure CodePointSet where
  flips : List Nat

def CodePointSet.test (n : Nat) : List Nat → Bool → Bool
  | [], inside => inside
  | f :: rest, inside => if n < f then inside else test n rest (!inside)

def CodePointSet.contains (s : CodePointSet) (c : Char) : Bool := test c.toNat s.flips false

end BotPayload
