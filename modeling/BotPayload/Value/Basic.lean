import BotPayload.Number.Shortest
import BotPayload.Text.Quoted

/-!
Untyped data, as it arrives from outside: numbers, text, lists and objects with ordered members.
A value has two texts, its literal and its plain text, and counts as true or false.
-/

namespace BotPayload

inductive Value where
  | null
  | bool (b : Bool)
  | int (n : Int)
  | float (x : Binary64)
  | str (s : String)
  | list (items : List Value)
  | object (members : List (String × Value))
deriving Inhabited

/-- The members of an object, in the order in which they were given, each key once. -/
abbrev Members := List (String × Value)

namespace Value

mutual
def literal : Value → String
  | .null => "None"
  | .bool b => if b then "True" else "False"
  | .int n => intText n
  | .float x => x.text
  | .str s => quoted s
  | .list items => "[" ++ String.intercalate ", " (itemLiterals items) ++ "]"
  | .object members => "\x7b" ++ String.intercalate ", " (memberLiterals members) ++ "\x7d"
def itemLiterals : List Value → List String
  | [] => []
  | v :: rest => v.literal :: itemLiterals rest
def memberLiterals : List (String × Value) → List String
  | [] => []
  | (key, v) :: rest => (quoted key ++ ": " ++ v.literal) :: memberLiterals rest
end

/-- The plain text: a string stands for itself, anything else for its literal. -/
def text : Value → String
  | .str s => s
  | v => v.literal

mutual
def isWritable : Value → Bool
  | .int n => Numeral.isShort n
  | .list items => areWritable items
  | .object members => membersWritable members
  | _ => true
def areWritable : List Value → Bool
  | [] => true
  | v :: rest => v.isWritable && areWritable rest
def membersWritable : List (String × Value) → Bool
  | [] => true
  | (_, v) :: rest => v.isWritable && membersWritable rest
end

def isTruthy : Value → Bool
  | .null => false
  | .bool b => b
  | .int n => n != 0
  | .float x => !x.isZero
  | .str s => s != ""
  | .list items => !items.isEmpty
  | .object members => !members.isEmpty

def kindName : Value → String
  | .null => "NoneType"
  | .bool _ => "bool"
  | .int _ => "int"
  | .float _ => "float"
  | .str _ => "str"
  | .list _ => "list"
  | .object _ => "dict"

def equalsInt : Value → Int → Bool
  | .bool b, n => (if b then 1 else 0) == n
  | .int m, n => m == n
  | .float x, n => x.compareInt n == .eq
  | _, _ => false

def size? : Value → Option Nat
  | .str s => some s.length
  | .list items => some items.length
  | .object members => some members.length
  | _ => none

def get? (key : String) : Value → Option Value
  | .object members => members.lookup key
  | _ => none

end Value

namespace Members

/-- A member given again takes the later value and keeps its place. -/
def insert (key : String) (v : Value) : Members → Members
  | [] => [(key, v)]
  | (k, w) :: rest => if k = key then (k, v) :: rest else (k, w) :: insert key v rest

theorem lookup_single (key k : String) (v : Value) :
    List.lookup k [(key, v)] = if k = key then some v else none := by
  by_cases same : k = key
  · simp [same]
  · simp [List.lookup_cons, same, beq_eq_false_iff_ne.mpr same]

def hasKey (members : Members) (key : String) : Bool := (members.lookup key).isSome

end Members

end BotPayload
