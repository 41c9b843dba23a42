import BotPayload.Value.Basic

/-!
Equality of untyped data: numbers are compared by value across their kinds, lists item by item,
and objects without regard to the order of their members.
-/

namespace BotPayload.Value

def ratio? : Value → Option (Int × Nat)
  | .bool b => some (if b then 1 else 0, 1)
  | .int n => some (n, 1)
  | .float (.finite s m e) => some (Binary64.ratio s m e)
  | _ => none

def sameAtom (a b : Value) : Bool :=
  match ratio? a, ratio? b with
  | some (n, d), some (m, e) => n * e == m * d
  | none, none =>
    match a, b with
    | .null, .null => true
    | .str s, .str t => s == t
    | .float x, .float y => x == y
    | _, _ => false
  | _, _ => false

mutual
def same : Value → Value → Bool
  | .list xs, .list ys => sameItems xs ys
  | .object xs, .object ys => xs.length == ys.length && sameMembers xs ys
  | a, b => sameAtom a b
def sameItems : List Value → List Value → Bool
  | [], [] => true
  | x :: xs, y :: ys => same x y && sameItems xs ys
  | _, _ => false
def sameMembers : List (String × Value) → List (String × Value) → Bool
  | [], _ => true
  | (key, x) :: xs, ys =>
    (match ys.lookup key with
    | some y => same x y
    | none => false) && sameMembers xs ys
end

def isHashable : Value → Bool
  | .list _ => false
  | .object _ => false
  | _ => true

end BotPayload.Value
