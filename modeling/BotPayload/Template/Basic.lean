import BotPayload.Template.Layout
import BotPayload.Text.Quoted

/-!
Text templates with named placeholders. A placeholder is `\x7bname\x7d`, with an optional
conversion behind `!` and an optional layout behind `:`; a doubled brace stands for one brace. A
name may go on into a part of its value, `[index]` or `.part`. A layout may itself hold
placeholders, one level deep.
-/

namespace BotPayload.Template

inductive Fault where
  | strayClose
  | strayOpen
  | openInName
  | unclosed
  | unclosedLayout
  | noConversion
  | noColon
  | positional
  | tooManyDigits
  | emptyPart
  | partExpected
  | unclosedIndex
  | unknownConversion (c : Char)
  | tooDeep
  | layout (fault : LayoutFault)
  | unbound (name : String)
  /-- Text has no such part. -/
  | noPart
  /-- Text is indexed by something that is no number. -/
  | notAnIndex
  | indexOutOfRange
deriving DecidableEq, Repr

def Fault.message : Fault → String
  | .strayClose => "Single '\x7d' encountered in format string"
  | .strayOpen => "Single '\x7b' encountered in format string"
  | .openInName => "unexpected '\x7b' in field name"
  | .unclosed => "expected '\x7d' before end of string"
  | .unclosedLayout => "unmatched '\x7b' in format spec"
  | .noConversion => "end of string while looking for conversion specifier"
  | .noColon => "expected ':' after conversion specifier"
  | .positional => "Format string contains positional fields"
  | .tooManyDigits => "Too many decimal digits in format string"
  | .emptyPart => "Empty attribute in format string"
  | .partExpected => "Only '.' or '[' may follow ']' in format field specifier"
  | .unclosedIndex => "Missing ']' in format string"
  | .unknownConversion c => "Unknown conversion specifier " ++ shownCode 127 c
  | .tooDeep => "Max string recursion exceeded"
  | .layout fault => fault.message
  | .unbound name => quoted name
  | .noPart => "no such part"
  | .notAnIndex => "string indices must be integers"
  | .indexOutOfRange => "string index out of range"

structure Placeholder where
  name : List Char
  conversion : Option Char
  layout : List Char
deriving DecidableEq, Repr

inductive Piece where
  | text (cs : List Char)
  | hole (p : Placeholder)
deriving DecidableEq, Repr

/-- Where the reader stands: in text, in a name (inside an index or not), behind `!`, behind the
conversion, or in a layout at some depth of braces. Characters read so far are kept backwards. -/
inductive Place where
  | text (read : List Char)
  | name (read : List Char) (inIndex : Bool)
  | conversion (name : List Char)
  | colon (name : List Char) (conversion : Char)
  | layout (name : List Char) (conversion : Option Char) (depth : Nat) (read : List Char)

/-- The pieces of a template, as far as it can be read, and why the reading stopped before its
end. -/
def pieces : Place → List Char → List Piece × Option Fault
  | .text read, [] => ([.text read.reverse], none)
  | .text read, '\x7b' :: '\x7b' :: rest => pieces (.text ('\x7b' :: read)) rest
  | .text read, '\x7d' :: '\x7d' :: rest => pieces (.text ('\x7d' :: read)) rest
  | .text _, ['\x7b'] => ([], some .strayOpen)
  | .text read, c :: rest =>
    if c = '\x7b' then
      let (ps, fault) := pieces (.name [] false) rest
      (.text read.reverse :: ps, fault)
    else if c = '\x7d' then ([], some .strayClose)
    else pieces (.text (c :: read)) rest
  | .name _ _, [] => ([], some .unclosed)
  | .name read inIndex, c :: rest =>
    if inIndex then pieces (.name (c :: read) (c ≠ ']')) rest
    else if c = '\x7b' then ([], some .openInName)
    else if c = '\x7d' then
      let (ps, fault) := pieces (.text []) rest
      (.hole ⟨read.reverse, none, []⟩ :: ps, fault)
    else if c = '!' then pieces (.conversion read.reverse) rest
    else if c = ':' then pieces (.layout read.reverse none 1 []) rest
    else pieces (.name (c :: read) (c = '[')) rest
  | .conversion _, [] => ([], some .noConversion)
  | .conversion name, c :: rest => pieces (.colon name c) rest
  | .colon _ _, [] => ([], some .unclosedLayout)
  | .colon name conversion, c :: rest =>
    if c = '\x7d' then
      let (ps, fault) := pieces (.text []) rest
      (.hole ⟨name, some conversion, []⟩ :: ps, fault)
    else if c = ':' then pieces (.layout name (some conversion) 1 []) rest
    else ([], some .noColon)
  | .layout _ _ _ _, [] => ([], some .unclosedLayout)
  | .layout name conversion depth read, c :: rest =>
    if c = '\x7d' then
      if depth ≤ 1 then
        let (ps, fault) := pieces (.text []) rest
        (.hole ⟨name, conversion, read.reverse⟩ :: ps, fault)
      else pieces (.layout name conversion (depth - 1) (c :: read)) rest
    else if c = '\x7b' then pieces (.layout name conversion (depth + 1) (c :: read)) rest
    else pieces (.layout name conversion depth (c :: read)) rest

def read (cs : List Char) : Except Fault (List Piece) :=
  match pieces (.text []) cs with
  | (ps, none) => .ok ps
  | (_, some fault) => .error fault

def names (ps : List Piece) : List (List Char) :=
  ps.filterMap fun
    | .hole p => if p.name.isEmpty then none else some p.name
    | .text _ => none

def index? (cs : List Char) : Except Fault (Option Nat) :=
  match readNumber none cs with
  | none => .error .tooManyDigits
  | some (n, []) => .ok n
  | some _ => .ok none

def follow : Nat → List Char → List Char → Except Fault (List Char)
  | _, cs, [] => .ok cs
  | 0, cs, _ => .ok cs
  | fuel + 1, cs, c :: path =>
    if c = '.' then
      if (path.takeWhile fun c => c ≠ '.' && c ≠ '[').isEmpty then .error .emptyPart
      else .error .noPart
    else if c = '[' then
      let part := path.takeWhile (· ≠ ']')
      match path.dropWhile (· ≠ ']') with
      | [] => .error .unclosedIndex
      | _ :: rest => do
        let index ← index? part
        if part.isEmpty then throw .emptyPart
        let some i := index | throw .notAnIndex
        let some c := cs[i]? | throw .indexOutOfRange
        follow fuel [c] rest
    else .error .partExpected

def resolve (value : String → Option String) (name : List Char) : Except Fault (List Char) := do
  let isPlain := fun c => c ≠ '.' && c ≠ '['
  let first := name.takeWhile isPlain
  let index ← index? first
  if first.isEmpty || index.isSome then throw .positional
  let some text := value (String.ofList first) | throw (.unbound (String.ofList first))
  follow name.length text.toList (name.dropWhile isPlain)

/-- A conversion `s` keeps the text, `r` quotes it, `a` quotes it in ASCII. -/
def convert (conversion : Option Char) (cs : List Char) : Except Fault (List Char) :=
  match conversion with
  | none => .ok cs
  | some 's' => .ok cs
  | some 'r' => .ok (Quoted.encode isPrintable cs)
  | some 'a' => .ok (Quoted.encode Quoted.isPlain cs)
  | some c => .error (.unknownConversion c)

def layOut (spec cs : List Char) : Except Fault (List Char) :=
  if spec.isEmpty then .ok cs
  else
    match Layout.read spec with
    | .ok l => .ok (l.apply cs)
    | .error fault => .error (.layout fault)

/-- Fills a template by the values of its names, placeholders nesting at most `depth` deep. -/
def fill (value : String → Option String) : Nat → List Char → Except Fault (List Char)
  | 0, _ => .error .tooDeep
  | depth + 1, cs => do
    let (ps, fault) := pieces (.text []) cs
    let texts ← ps.mapM fun
      | .text cs => pure cs
      | .hole p => do
        let cs ← resolve value p.name
        let cs ← convert p.conversion cs
        let spec ← if p.layout.contains '\x7b' then fill value depth p.layout else pure p.layout
        layOut spec cs
    match fault with
    | some fault => throw fault
    | none => return texts.flatten

/-- Layouts may hold placeholders, but not the layouts of those. -/
def maxDepth : Nat := 2

end BotPayload.Template
