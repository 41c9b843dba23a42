import BotPayload.Text.Digit

/-!
How a text is laid out in a field: an optional fill character and alignment, a least width, and a
greatest length. A layout is written `[[fill]align][0][width][.length][s]`; what other values
could ask for (signs, separators, other type letters) is read and refused for text.
-/

namespace BotPayload.Template

inductive LayoutFault where
  | tooManyDigits
  | commaAndUnderscore
  | missingLength
  /-- More than a type letter is left at the end of the layout `spec`. -/
  | malformed (spec : List Char)
  | separatorWith (separator kind : Char)
  | unknownKind (kind : Char)
  | sign
  | space
  | negativeZero
  | alternate
  | numericAlignment
deriving DecidableEq, Repr

/-- A character in a message: itself in printable ASCII, else its number in hexadecimal digits. -/
def shownCode (top : Nat) (c : Char) : String :=
  if 32 < c.toNat ∧ c.toNat < top then String.singleton c
  else "\\x" ++ String.ofList (Nat.toDigits 16 c.toNat)

def LayoutFault.message : LayoutFault → String
  | .tooManyDigits => "Too many decimal digits in format string"
  | .commaAndUnderscore => "Cannot specify both ',' and '_'."
  | .missingLength => "Format specifier missing precision"
  | .malformed spec =>
    "Invalid format specifier '" ++ String.ofList spec ++ "' for object of type 'str'"
  | .separatorWith separator kind =>
    "Cannot specify '" ++ String.singleton separator ++ "' with '" ++ shownCode 128 kind ++ "'."
  | .unknownKind kind => "Unknown format code '" ++ shownCode 128 kind ++ "' for object of type 'str'"
  | .sign => "Sign not allowed in string format specifier"
  | .space => "Space not allowed in string format specifier"
  | .negativeZero => "Negative zero coercion (z) not allowed in string format specifier"
  | .alternate => "Alternate form (#) not allowed in string format specifier"
  | .numericAlignment => "'=' alignment not allowed in string format specifier"

def maxNumber : Nat := Nat.pow 2 63 - 1

def readNumber : Option Nat → List Char → Option (Option Nat × List Char)
  | n, [] => some (n, [])
  | n, c :: rest =>
    match digitValue? c with
    | none => some (n, c :: rest)
    | some d =>
      let m := 10 * n.getD 0 + d
      if m ≤ maxNumber then readNumber (some m) rest else none

structure Layout where
  fill : Char
  align : Char
  width : Nat
  length : Option Nat
deriving DecidableEq, Repr

def isAlign (c : Char) : Bool := c == '<' || c == '>' || c == '=' || c == '^'

def takeIf (wanted : Char → Bool) : List Char → Option Char × List Char
  | c :: rest => if wanted c then (some c, rest) else (none, c :: rest)
  | [] => (none, [])

def takeAlign : List Char → Option Char × Option Char × List Char
  | f :: a :: rest =>
    if isAlign a then (some f, some a, rest)
    else if isAlign f then (none, some f, a :: rest)
    else (none, none, f :: a :: rest)
  | cs => let (a, rest) := takeIf isAlign cs; (none, a, rest)

/-- Separators in front of the length, of which text allows none. -/
def takeSeparator (cs : List Char) : Except LayoutFault (Option Char × List Char) :=
  let (comma, cs) := takeIf (· == ',') cs
  let (under, cs) := takeIf (· == '_') cs
  if comma.isSome && under.isSome then .error .commaAndUnderscore
  else if under.isSome && (takeIf (· == ',') cs).1.isSome then .error .commaAndUnderscore
  else .ok (comma.orElse fun _ => under, cs)

def allowsSeparator (separator kind : Char) : Bool :=
  ['d', 'e', 'f', 'g', 'E', 'G', '%', 'F'].contains kind ||
    (separator == '_' && ['b', 'o', 'x', 'X'].contains kind)

def Layout.read (spec : List Char) : Except LayoutFault Layout := do
  let (fill, align, cs) := takeAlign spec
  let (sign, cs) := takeIf (fun c => c == ' ' || c == '+' || c == '-') cs
  let (negativeZero, cs) := takeIf (· == 'z') cs
  let (alternate, cs) := takeIf (· == '#') cs
  let (zero, cs) := if fill.isNone then takeIf (· == '0') cs else (none, cs)
  let some (width, cs) := readNumber none cs | throw .tooManyDigits
  let (separator, cs) ← takeSeparator cs
  let (point, cs) := takeIf (· == '.') cs
  let (length, cs) ←
    if point.isNone then pure (none, cs)
    else
      match readNumber none cs with
      | none => throw .tooManyDigits
      | some (none, _) => throw .missingLength
      | some (some n, cs) => pure (some n, cs)
  let kind ←
    match cs with
    | [] => pure 's'
    | [kind] => pure kind
    | _ => throw (.malformed spec)
  if let some separator := separator then
    if !allowsSeparator separator kind then throw (.separatorWith separator kind)
  if kind ≠ 's' then throw (.unknownKind kind)
  if sign = some ' ' then throw .space
  if sign.isSome then throw .sign
  if negativeZero.isSome then throw .negativeZero
  if alternate.isSome then throw .alternate
  if align = some '=' then throw .numericAlignment
  return ⟨(fill.orElse fun _ => zero).getD ' ', align.getD '<', width.getD 0, length⟩

def Layout.apply (l : Layout) (cs : List Char) : List Char :=
  let cs := match l.length with
    | some n => cs.take n
    | none => cs
  let missing := l.width - cs.length
  let left := if l.align = '>' then missing else if l.align = '^' then missing / 2 else 0
  List.replicate left l.fill ++ cs ++ List.replicate (missing - left) l.fill

end BotPayload.Template
