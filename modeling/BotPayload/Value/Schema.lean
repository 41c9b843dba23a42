import BotPayload.Value.Basic

/-!
Schemas for untyped data, and the list of everything in which a value departs from one. A schema
is a list of constraints; the faults come in the order of the constraints, and inside an object in
the order of the schema's properties.
-/

namespace BotPayload

inductive Kind where
  | object
  | array
  | string
  | integer
  | boolean
  | null
deriving DecidableEq, Repr

/-- A number with a zero fraction is an integer, whichever way it is written. -/
def Kind.admits : Kind → Value → Bool
  | .object, .object _ => true
  | .array, .list _ => true
  | .string, .str _ => true
  | .integer, .int _ => true
  | .integer, .float x => x.toInt?.isSome
  | .boolean, .bool _ => true
  | .null, .null => true
  | _, _ => false

def Kind.name : Kind → String
  | .object => "object"
  | .array => "array"
  | .string => "string"
  | .integer => "integer"
  | .boolean => "boolean"
  | .null => "null"

inductive Schema where
  | kind (kinds : List Kind)
  /-- The value is this number, written in either way; a truth value is no number. -/
  | exactly (n : Int)
  | required (keys : List String)
  | properties (props : List (String × Schema))
  | items (schema : Schema)
  /-- An object has exactly one of these keys. -/
  | oneOf (keys : List String)
  | all (schemas : List Schema)

inductive Fault where
  | wrongKind (v : Value) (kinds : List Kind)
  | notExactly (n : Int)
  | missingKey (key : String)
  | noneOf (v : Value)
  /-- More than one key is there: the further ones, then the first. -/
  | severalOf (v : Value) (keys : List String)

namespace Fault

def alternative (key : String) : String := "\x7b'required': [" ++ quoted key ++ "]\x7d"

def message : Fault → String
  | .wrongKind v kinds =>
    v.literal ++ " is not of type " ++ String.intercalate ", " (kinds.map fun k => quoted k.name)
  | .notExactly n => intText n ++ " was expected"
  | .missingKey key => quoted key ++ " is a required property"
  | .noneOf v => v.literal ++ " is not valid under any of the given schemas"
  | .severalOf v keys =>
    v.literal ++ " is valid under each of " ++ String.intercalate ", " (keys.map alternative)

end Fault

namespace Schema

/-- Whether a value has a key as far as `required` can tell: what is no object lacks none. -/
def hasKey (v : Value) (key : String) : Bool :=
  match v with
  | .object members => Members.hasKey members key
  | _ => true

def isExactly (v : Value) (n : Int) : Bool :=
  match v with
  | .bool _ => false
  | v => v.equalsInt n

mutual
def faults : Schema → Value → List Fault
  | .kind kinds, v => if kinds.any (·.admits v) then [] else [.wrongKind v kinds]
  | .exactly n, v => if isExactly v n then [] else [.notExactly n]
  | .required keys, v => (keys.filter fun key => !hasKey v key).map .missingKey
  | .properties props, v => propertyFaults props v
  | .items schema, v =>
    match v with
    | .list xs => xs.flatMap fun x => faults schema x
    | _ => []
  | .oneOf keys, v =>
    match keys.filter (hasKey v) with
    | [] => [.noneOf v]
    | [_] => []
    | first :: others => [.severalOf v (others ++ [first])]
  | .all schemas, v => allFaults schemas v
def propertyFaults : List (String × Schema) → Value → List Fault
  | [], _ => []
  | (key, schema) :: rest, v =>
    (match v.get? key with
    | some member => faults schema member
    | none => []) ++ propertyFaults rest v
def allFaults : List Schema → Value → List Fault
  | [], _ => []
  | schema :: rest, v => faults schema v ++ allFaults rest v
end

end Schema

end BotPayload
