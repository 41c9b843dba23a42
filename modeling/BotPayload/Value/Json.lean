import BotPayload.Text.Hex
import BotPayload.Value.Basic

/-!
Values written as JSON in ASCII: members in their order, characters outside printable ASCII as
`\u` escapes of their UTF-16 units. Without an indent all stands on one line; with one, every item
and member stands on a line of its own.
-/

namespace BotPayload.Json

def unicodeEscape (n : Nat) : List Char := '\\' :: 'u' :: hexDigits .lower 4 n

def unitEscapes (c : Char) : List Char :=
  let n := c.toNat
  if n < 0x10000 then unicodeEscape n
  else
    unicodeEscape (0xD800 + (n - 0x10000) / 0x400) ++ unicodeEscape (0xDC00 + (n - 0x10000) % 0x400)

def escape (c : Char) : List Char :=
  if c = '"' then ['\\', '"']
  else if c = '\\' then ['\\', '\\']
  else if c = '\n' then ['\\', 'n']
  else if c = '\r' then ['\\', 'r']
  else if c = '\t' then ['\\', 't']
  else if c.toNat = 8 then ['\\', 'b']
  else if c.toNat = 12 then ['\\', 'f']
  else if 32 ≤ c.toNat ∧ c.toNat < 127 then [c]
  else unitEscapes c

def string (s : String) : String := String.ofList ('"' :: (s.toList.flatMap escape ++ ['"']))

/-- How items are laid out: on one line, or on lines indented by so many spaces a level. A
negative width indents by nothing. -/
inductive Layout where
  | line
  | indented (width : Int)
deriving DecidableEq, Repr

def Layout.lineBreak : Layout → Nat → String
  | .line, _ => ""
  | .indented width, depth => String.ofList ('\n' :: List.replicate (width.toNat * depth) ' ')

def Layout.separator : Layout → String
  | .line => ", "
  | .indented _ => ","

def Layout.wrap (l : Layout) (depth : Nat) (opening closing : String) (items : List String) :
    String :=
  if items.isEmpty then opening ++ closing
  else
    let inner := l.lineBreak (depth + 1)
    opening ++ inner ++ String.intercalate (l.separator ++ inner) items ++ l.lineBreak depth
      ++ closing

mutual
def write (l : Layout) (depth : Nat) : Value → String
  | .null => "null"
  | .bool b => if b then "true" else "false"
  | .int n => intText n
  | .float x => x.text
  | .str s => string s
  | .list items => l.wrap depth "[" "]" (writeItems l depth items)
  | .object members => l.wrap depth "\x7b" "\x7d" (writeMembers l depth members)
def writeItems (l : Layout) (depth : Nat) : List Value → List String
  | [] => []
  | v :: rest => write l (depth + 1) v :: writeItems l depth rest
def writeMembers (l : Layout) (depth : Nat) : List (String × Value) → List String
  | [] => []
  | (key, v) :: rest =>
    (string key ++ ": " ++ write l (depth + 1) v) :: writeMembers l depth rest
end

def document (l : Layout) (v : Value) : String := write l 0 v

end BotPayload.Json
