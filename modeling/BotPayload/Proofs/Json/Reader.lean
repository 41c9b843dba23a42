import BotPayload.Number.Numeral
import BotPayload.Text.Hex
import BotPayload.Value.Json

/-!
# Reading JSON

A reader for JSON documents, the second side of the writer. Numbers are whole: one with a fraction
or an exponent is refused. Strings are read as UTF-16 units first, which are then joined, so that a
character may be escaped in two halves; a half without its other half is refused.
-/

namespace BotPayload.Json

def isGap (c : Char) : Bool := c == ' ' || c == '\t' || c == '\n' || c == '\r'

def skip (cs : List Char) : List Char := cs.dropWhile isGap

-- ---------------------------------------------------------------------------
-- Strings
-- ---------------------------------------------------------------------------

def hexNumber (cs : List Char) : Option Nat :=
  cs.foldlM (fun n c => (hexValue? c).map (16 * n + ·)) 0

def escapedUnit : Char → Option Nat
  | '"' => some 34
  | '\\' => some 92
  | '/' => some 47
  | 'b' => some 8
  | 't' => some 9
  | 'n' => some 10
  | 'f' => some 12
  | 'r' => some 13
  | _ => none

/-- The units of a string up to the closing quote, and what follows it. A character outside the
escapes is taken as one unit. -/
def readUnits : List Char → Option (List Nat × List Char)
  | [] => none
  | c :: rest =>
    if c = '"' then some ([], rest)
    else if c = '\\' then
      match rest with
      | 'u' :: h₁ :: h₂ :: h₃ :: h₄ :: rest => do
        let unit ← hexNumber [h₁, h₂, h₃, h₄]
        let (units, rest) ← readUnits rest
        return (unit :: units, rest)
      | letter :: rest => do
        let unit ← escapedUnit letter
        let (units, rest) ← readUnits rest
        return (unit :: units, rest)
      | [] => none
    else if c.toNat < 32 then none
    else do
      let (units, rest) ← readUnits rest
      return (c.toNat :: units, rest)

def scalar? (n : Nat) : Option Char := if n.isValidChar then some (Char.ofNat n) else none

def pair? (high low : Nat) : Option Char :=
  if 0xD800 ≤ high ∧ high < 0xDC00 ∧ 0xDC00 ≤ low ∧ low < 0xE000 then
    some (Char.ofNat (0x10000 + (high - 0xD800) * 0x400 + (low - 0xDC00)))
  else none

def joinUnits : List Nat → Option (List Char)
  | [] => some []
  | unit :: rest =>
    match scalar? unit with
    | some c => (joinUnits rest).map (c :: ·)
    | none =>
      match rest with
      | low :: rest => do
        let c ← pair? unit low
        return c :: (← joinUnits rest)
      | [] => none

def readString (cs : List Char) : Option (String × List Char) := do
  let (units, rest) ← readUnits cs
  return (String.ofList (← joinUnits units), rest)

-- ---------------------------------------------------------------------------
-- Numbers
-- ---------------------------------------------------------------------------

def isNumberChar (c : Char) : Bool := c.isDigit || c == '.' || c == 'e' || c == 'E'

def readNatural (cs : List Char) : Option (Nat × List Char) :=
  let digits := cs.takeWhile Char.isDigit
  let rest := cs.dropWhile Char.isDigit
  if digits.isEmpty || (digits.head? == some '0' && digits.length != 1)
    || rest.head?.any isNumberChar then none
  else some (Numeral.ofDigits (Numeral.digitValues digits), rest)

def readNumber (cs : List Char) : Option (Int × List Char) :=
  match cs with
  | '-' :: rest => (readNatural rest).map fun (n, rest) => (-(n : Int), rest)
  | cs => (readNatural cs).map fun (n, rest) => ((n : Int), rest)

-- ---------------------------------------------------------------------------
-- Documents
-- ---------------------------------------------------------------------------

def readWord (word : List Char) (v : Value) (cs : List Char) : Option (Value × List Char) :=
  if word.isPrefixOf cs then some (v, cs.drop word.length) else none

/-- What stands between an opening mark, which is read already, and its closing mark: at least one
part, with commas in between. -/
def readSeries (one : List Char → Option (α × List Char)) (closing : Char) :
    Nat → List Char → Option (List α × List Char)
  | 0, _ => none
  | fuel + 1, cs => do
    let (a, rest) ← one cs
    match skip rest with
    | [] => none
    | c :: rest =>
      if c = closing then return ([a], rest)
      else if c = ',' then
        let (as, rest) ← readSeries one closing fuel rest
        return (a :: as, rest)
      else none

def readMember (value : List Char → Option (Value × List Char)) (cs : List Char) :
    Option ((String × Value) × List Char) :=
  match skip cs with
  | [] => none
  | c :: rest =>
    if c = '"' then do
      let (key, rest) ← readString rest
      match skip rest with
      | [] => none
      | c :: rest =>
        if c = ':' then
          let (v, rest) ← value rest
          return ((key, v), rest)
        else none
    else none

/-- The value that a text opens with, and what follows it. The values inside another one have one
less of the fuel. -/
def readValue : Nat → List Char → Option (Value × List Char)
  | 0, _ => none
  | fuel + 1, cs =>
    match skip cs with
    | [] => none
    | c :: rest =>
      if c = '"' then (readString rest).map fun (s, rest) => (.str s, rest)
      else if c = '[' then
        if (skip rest).head? = some ']' then some (.list [], (skip rest).tail)
        else
          (readSeries (readValue fuel) ']' fuel rest).map fun (items, rest) => (.list items, rest)
      else if c = '\x7b' then
        if (skip rest).head? = some '\x7d' then some (.object [], (skip rest).tail)
        else
          (readSeries (readMember (readValue fuel)) '\x7d' fuel rest).map fun (members, rest) =>
            (.object members, rest)
      else if c = 'n' then readWord ['u', 'l', 'l'] .null rest
      else if c = 't' then readWord ['r', 'u', 'e'] (.bool true) rest
      else if c = 'f' then readWord ['a', 'l', 's', 'e'] (.bool false) rest
      else (readNumber (c :: rest)).map fun (n, rest) => (.int n, rest)

/-- The value of a document, which has nothing but blanks around it. Its values nest less deep than
it is long. -/
def read (s : String) : Option Value := do
  let (v, rest) ← readValue (s.length + 1) s.toList
  if skip rest = [] then some v else none

end BotPayload.Json
