import BotPayload.Text.Hex
import BotPayload.Text.Printable

/-!
Quoted text: a string between quote marks, with the mark, the backslash and every character that
is not shown written as an escape.
-/

namespace BotPayload.Quoted

/-- Single quotes, unless the text holds one and no double quote. -/
def mark (cs : List Char) : Char :=
  if cs.contains '\'' && !cs.contains '"' then '"' else '\''

/-- One character between marks `q`. A code point that is not shown is escaped in two, four or
eight digits. -/
def escape (shown : Char → Bool) (q c : Char) : List Char :=
  if c = q ∨ c = '\\' then ['\\', c]
  else if c = '\t' then ['\\', 't']
  else if c = '\n' then ['\\', 'n']
  else if c = '\r' then ['\\', 'r']
  else if shown c then [c]
  else if c.toNat < 0x100 then '\\' :: 'x' :: hexDigits .lower 2 c.toNat
  else if c.toNat < 0x10000 then '\\' :: 'u' :: hexDigits .lower 4 c.toNat
  else '\\' :: 'U' :: hexDigits .lower 8 c.toNat

def encode (shown : Char → Bool) (cs : List Char) : List Char :=
  let q := mark cs
  q :: (cs.flatMap (escape shown q) ++ [q])

def isPlain (c : Char) : Bool := 32 ≤ c.toNat && c.toNat < 127

end BotPayload.Quoted

namespace BotPayload

def quoted (s : String) : String := String.ofList (Quoted.encode isPrintable s.toList)

end BotPayload
