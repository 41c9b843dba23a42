import BotPayload.Argument

/-!
Emoji: a character, which has a name only, or a custom picture, which has an id as well. Text such
as `<a:name:id>` denotes a custom emoji; every other text is the name of a character.
-/

namespace BotPayload

/-- The id of a custom emoji. Empty and zero ids that arrive in payloads are kept as they come. -/
inductive EmojiId where
  | number (n : Int)
  | emptyText
  | floatZero (negative : Bool)
deriving DecidableEq, Repr

namespace EmojiId

def toValue : EmojiId → Value
  | .number n => .int n
  | .emptyText => .str ""
  | .floatZero negative => .float (Binary64.zero negative)

def same : EmojiId → EmojiId → Bool
  | .number n, .number m => n == m
  | .number n, .floatZero _ => n == 0
  | .floatZero _, .number n => n == 0
  | .floatZero _, .floatZero _ => true
  | .emptyText, .emptyText => true
  | _, _ => false

end EmojiId

structure Emoji where
  name : String
  id : Option EmojiId
  animated : Bool
deriving DecidableEq, Repr

namespace Emoji

def ofCharacter (name : String) : Emoji := ⟨name, none, false⟩

def isNameChar (c : Char) : Bool := c.isAlphanum || c == '_'

def minIdDigits : Nat := 13
def maxIdDigits : Nat := 20

/-- A name, a colon and at least `minIdDigits` digits, of which no more than `maxIdDigits` are
read. What follows is ignored. -/
def readNamed (animated : Bool) (cs : List Char) : Option Emoji :=
  let name := cs.takeWhile isNameChar
  match cs.dropWhile isNameChar with
  | ':' :: rest =>
    let ds := rest.takeWhile Char.isDigit
    if name.isEmpty || ds.length < minIdDigits then none
    else
      let n := Numeral.ofDigits (Numeral.digitValues (ds.take maxIdDigits))
      some ⟨String.ofList name, some (.number n), animated⟩
  | _ => none

/-- The written form of a custom emoji: an opening bracket, a colon and the mark `a` in front of
it may be left out. -/
def readCustom (cs : List Char) : Option Emoji :=
  let cs := match cs with
    | '<' :: rest => rest
    | cs => cs
  let marked := match cs with
    | 'a' :: ':' :: rest => readNamed true rest
    | ':' :: rest => readNamed false rest
    | _ => none
  marked.orElse fun _ => readNamed false cs

def ofText (s : String) : Emoji := (readCustom s.toList).getD (ofCharacter s)

/-- The written form. A name that is missing is shown as an underscore. -/
def text (e : Emoji) : String :=
  let name := if e.name = "" then "_" else e.name
  match e.id with
  | none => name
  | some id => (if e.animated then "<a:" else "<:") ++ name ++ ":" ++ id.toValue.text ++ ">"

/-- Equality as the user interface has it: a character equals whatever has its name, a custom
emoji whatever has its id. -/
def same (a b : Emoji) : Bool :=
  match a.id with
  | none => a.name == b.name
  | some id =>
    match b.id with
    | some other => id.same other
    | none => false

def sameKey (a b : Emoji) : Bool :=
  a.name == b.name &&
    match a.id, b.id with
    | none, none => true
    | some x, some y => x.same y
    | _, _ => false

def encode (e : Emoji) : Value :=
  let id := match e.id with
    | none => Value.null
    | some id => id.toValue
  .object ([("id", id), ("name", .str e.name)]
    ++ (if e.animated then [("animated", .bool true)] else []))

/-- The id in a payload: text and numbers are read as a whole number, unless they are empty or
zero. -/
def decodeId : Option Value → Except Error (Option EmojiId)
  | some (.int n) => .ok (some (.number n))
  | some (.float x) =>
    if x.isZero then .ok (some (.floatZero (x == Binary64.zero true)))
    else
      match x.truncate? with
      | some n => .ok (some (.number n))
      | none => .error .infiniteNumber
  | some (.str s) =>
    if s = "" then .ok (some .emptyText)
    else
      match Numeral.read s.toList with
      | .ok n => .ok (some (.number n))
      | .error fault => .error (.numeral s fault)
  | _ => .ok none

def decode (v : Value) : Except Error Emoji := do
  let id ← decodeId (v.get? "id")
  let name := match v.get? "name" with
    | some (.str s) => s
    | _ => ""
  let animated := match v.get? "animated" with
    | some (.bool b) => b
    | _ => false
  return ⟨name, id, animated⟩

end Emoji

inductive Content where
  | none
  | text (s : String)
  | emoji (e : Emoji)
deriving DecidableEq, Repr

def Content.toEmoji : Content → Except Error (Option Emoji)
  | .none => .ok Option.none
  | .text s => do
    require (s ≠ "") "Emoji" .empty
    return some (Emoji.ofText s)
  | .emoji e => .ok (some e)

end BotPayload
