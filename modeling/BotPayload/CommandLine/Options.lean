import BotPayload.Number.Numeral
import BotPayload.Text.Quoted

/-!
Reading the arguments of a command: switches, which may be shortened as long as they stay
unambiguous, and one operand. A switch may take a value, which follows it or is joined to it. All
arguments behind `--` are operands, and so is what looks like a negative number or holds a space.

Arguments are first told apart one by one; then they are taken from left to right.
-/

namespace BotPayload.CommandLine

inductive ValueKind where
  | text
  | integer
  | oneOf (choices : List String)
deriving DecidableEq, Repr

/-- An option of a command: its names, and the kind of its value, if it takes one. -/
structure Switch where
  names : List String
  value : Option ValueKind
deriving DecidableEq, Repr

def helpSwitch : Switch := ⟨["-h", "--help"], none⟩

def Switch.key (s : Switch) : String := s.names.headD ""

def Switch.title (s : Switch) : String := String.intercalate "/" s.names

structure Command where
  program : String
  usage : String
  help : String
  switches : List Switch
  operand : String
  operandKind : ValueKind
  /-- Keys of switches of which only one may be given. -/
  exclusive : List String

def Command.switchNames (c : Command) : List (String × Switch) :=
  (helpSwitch :: c.switches).flatMap fun s => s.names.map fun n => (n, s)

inductive Given where
  | flag
  | text (s : String)
  | number (n : Int)
deriving DecidableEq, Repr

/-- The values that were given, under the keys of their switches, the last one first. -/
abbrev Parsed := List (String × Given)

def Parsed.text? (p : Parsed) (key : String) : Option String :=
  match p.lookup key with
  | some (.text s) => some s
  | _ => none

def Parsed.number? (p : Parsed) (key : String) : Option Int :=
  match p.lookup key with
  | some (.number n) => some n
  | _ => none

def Parsed.hasFlag (p : Parsed) (key : String) : Bool := (p.lookup key).isSome

inductive Stop where
  | help
  | failure (message : String)
deriving DecidableEq, Repr

inductive Token where
  | operand (s : String)
  /-- The mark behind which all is operand. -/
  | mark
  /-- A switch under one of its names, perhaps with a joined value, which an equals sign divides
  from it or not. -/
  | switch (s : Switch) (name : String) (divided : Bool) (joined : Option String)
  /-- What looks like a switch and is none. -/
  | stray (raw : String)
deriving DecidableEq, Repr

/-- The text of a token as it was given, for tokens that no one takes. -/
def Token.raw : Token → String
  | .operand s => s
  | .mark => "--"
  | .switch _ name _ _ => name
  | .stray raw => raw

def Token.isSwitch : Token → Bool
  | .switch _ _ _ _ => true
  | .stray _ => true
  | _ => false

def splitEquals (s : String) : String × Option String :=
  let cs := s.toList
  let front := cs.takeWhile (· ≠ '=')
  match cs.drop front.length with
  | _ :: rest => (String.ofList front, some (String.ofList rest))
  | [] => (s, none)

/-- A dash and digits, with at most one point, which digits follow. -/
def isNegativeNumber (s : String) : Bool :=
  let isDecimal := fun c => (digitValue? c).isSome
  match s.toList with
  | '-' :: rest =>
    let rest := if rest.getLast? = some '\n' then rest.dropLast else rest
    let whole := rest.takeWhile isDecimal
    match rest.drop whole.length with
    | [] => !whole.isEmpty
    | '.' :: places => !places.isEmpty && places.all isDecimal
    | _ => false
  | _ => false

def startsWith (s front : String) : Bool := front.toList.isPrefixOf s.toList

def Command.candidates (c : Command) (s : String) : List Token :=
  if startsWith s "--" then
    let (front, joined) := splitEquals s
    c.switchNames.filterMap fun (name, switch) =>
      if startsWith name front then some (.switch switch name joined.isSome joined) else none
  else
    let short := String.ofList (s.toList.take 2)
    c.switchNames.filterMap fun (name, switch) =>
      if name = short then some (.switch switch name false (some (String.ofList (s.toList.drop 2))))
      else if startsWith name s then some (.switch switch name false none)
      else none

def Command.token (c : Command) (s : String) : Except Stop Token :=
  if !startsWith s "-" then .ok (.operand s)
  else
    match c.switchNames.lookup s with
    | some switch => .ok (.switch switch s false none)
    | none =>
      let (front, joined) := splitEquals s
      if s = "-" then .ok (.operand s)
      else
        match c.switchNames.lookup front with
        | some switch => .ok (.switch switch front true joined)
        | none =>
          match c.candidates s with
          | [t] => .ok t
          | [] =>
            if isNegativeNumber s || s.toList.contains ' ' then .ok (.operand s)
            else .ok (.stray s)
          | ts =>
            .error (.failure ("ambiguous option: " ++ s ++ " could match "
              ++ String.intercalate ", " (ts.map Token.raw)))

def Command.tokens (c : Command) : List String → Except Stop (List Token)
  | [] => .ok []
  | s :: rest =>
    if s = "--" then .ok (.mark :: rest.map .operand)
    else do
      let t ← c.token s
      return t :: (← c.tokens rest)

def refuse (title message : String) : Stop := .failure ("argument " ++ title ++ ": " ++ message)

def ValueKind.read (kind : ValueKind) (title s : String) : Except Stop Given :=
  match kind with
  | .text => .ok (.text s)
  | .integer =>
    match Numeral.read s.toList with
    | .ok n => .ok (.number n)
    | .error _ => .error (refuse title ("invalid int value: " ++ quoted s))
  | .oneOf choices =>
    if choices.contains s then .ok (.text s)
    else
      .error (refuse title ("invalid choice: " ++ quoted s ++ " (choose from "
        ++ String.intercalate ", " (choices.map quoted) ++ ")"))

structure Progress where
  given : Parsed := []
  operand : Option Given := none
  /-- Arguments that no one takes. -/
  extras : List String := []

def Command.take (c : Command) (p : Progress) (s : Switch) (value : Option String) :
    Except Stop Progress := do
  let given ←
    match s.value, value with
    | some kind, some v => kind.read s.title v
    | _, _ => pure .flag
  if c.exclusive.contains s.key then
    let rivals := (c.switches.filter fun r => c.exclusive.contains r.key && r.key != s.key)
    if let some rival := rivals.find? fun r => p.given.hasFlag r.key then
      throw (refuse s.title ("not allowed with argument " ++ rival.title))
  if s = helpSwitch then throw .help
  return { p with given := (s.key, given) :: p.given }

/-- The switches in one argument: short ones without a value may be joined. The result holds the
switches with their values, what no one takes, and the tokens that follow. -/
def Command.spread (c : Command) : Nat → Switch → String → Bool → Option String → List Token →
    Except Stop (List (Switch × Option String) × List String × List Token)
  | fuel, s, name, divided, joined, rest =>
    match s.value, joined with
    | some _, some v => .ok ([(s, some v)], [], rest)
    | some _, none =>
      match rest with
      | .operand v :: rest => .ok ([(s, some v)], [], rest)
      | _ => .error (refuse s.title "expected one argument")
    | none, none => .ok ([(s, none)], [], rest)
    | none, some v =>
      let ignored := refuse s.title ("ignored explicit argument " ++ quoted v)
      match fuel, v.toList with
      | fuel + 1, first :: others =>
        if startsWith name "--" || divided || first = '-' then .error ignored
        else
          let next := String.ofList ['-', first]
          match c.switchNames.lookup next with
          | none => .ok ([(s, none)], ["-" ++ v], rest)
          | some switch =>
            let (divided, joined) := match others with
              | [] => (false, none)
              | '=' :: others => (true, some (String.ofList others))
              | others => (false, some (String.ofList others))
            do
              let (more, extras, rest) ← c.spread fuel switch next divided joined rest
              return ((s, none) :: more, extras, rest)
      | _, _ => .error ignored

def Command.takeOperand (c : Command) (p : Progress) (s : String) : Except Stop Progress := do
  let given ← c.operandKind.read c.operand s
  return { p with operand := some given }

def Command.takeRest (c : Command) (p : Progress) (rest : List Token) : Except Stop Progress := do
  let drop := fun (p : Progress) (ts : List Token) =>
    { p with extras := p.extras ++ ts.map Token.raw }
  if p.operand.isSome then return drop p rest
  else
    match rest with
    | .mark :: .operand s :: rest => return drop (← c.takeOperand p s) rest
    | .operand s :: .mark :: rest => return drop (← c.takeOperand p s) rest
    | .operand s :: rest => return drop (← c.takeOperand p s) rest
    | rest => return drop p rest

/-- Takes all tokens, at most `fuel` of them one by one. -/
def Command.takeAll (c : Command) : Nat → Progress → List Token → Except Stop Progress
  | 0, p, _ => .ok p
  | fuel + 1, p, ts =>
    if !ts.any Token.isSwitch then c.takeRest p ts
    else
      match ts with
      | [] => .ok p
      | .operand s :: rest => do
        if p.operand.isSome then c.takeAll fuel { p with extras := p.extras ++ [s] } rest
        else c.takeAll fuel (← c.takeOperand p s) rest
      | .switch s name divided joined :: rest => do
        let (found, extras, rest) ← c.spread (joined.getD "").length s name divided joined rest
        let p ← found.foldlM (fun p (s, v) => c.take p s v) { p with extras := p.extras ++ extras }
        c.takeAll fuel p rest
      | t :: rest => c.takeAll fuel { p with extras := p.extras ++ [t.raw] } rest

def Command.read (c : Command) (args : List String) : Except Stop (Given × Parsed) := do
  let tokens ← c.tokens args
  let p ← c.takeAll (tokens.length + 1) {} tokens
  let some operand := p.operand
    | throw (.failure ("the following arguments are required: " ++ c.operand))
  if !p.extras.isEmpty then
    throw (.failure ("unrecognized arguments: " ++ String.intercalate " " p.extras))
  return (operand, p.given)

end BotPayload.CommandLine
