import BotPayload.Text.Blank

/-!
Files of variables, one binding a line: `NAME=value`, perhaps behind `export`. A value stands in
single or double quotes, with escapes, or bare up to a comment, and may refer to other variables
(`reference?`). Lines that do not read are skipped, and of two bindings of a name the later counts.
-/

namespace BotPayload.EnvFile

/-- A name and its value; a name without `=` has none. -/
structure Binding where
  name : String
  value : Option String
deriving DecidableEq, Repr

def isLineEnd (c : Char) : Bool := c == '\n' || c == '\r'

def isGap (c : Char) : Bool := isBlank c && !isLineEnd c

def skipGaps (cs : List Char) : List Char := cs.dropWhile isGap

def nextLine (cs : List Char) : List Char := (cs.dropWhile fun c => !isLineEnd c).drop 1

def skipExport (cs : List Char) : List Char :=
  let word := ['e', 'x', 'p', 'o', 'r', 't']
  if word.isPrefixOf cs then
    let rest := cs.drop word.length
    match rest with
    | c :: _ => if isGap c then skipGaps rest else cs
    | [] => cs
  else cs

/-- Reads to the closing quote `q`, which a backslash hides. Where no other quote closes the text,
the last hidden one does. The result is what stands before the closing quote, backwards, and what
follows it. -/
def closing (q : Char) : List Char → List Char → Option (List Char × List Char) →
    Option (List Char × List Char)
  | _, [], last => last
  | read, c :: rest, last =>
    if c = q then some (read, rest)
    else
      match rest with
      | d :: rest' =>
        if c = '\\' ∧ d = q then closing q (d :: c :: read) rest' (some (c :: read, rest'))
        else closing q (c :: read) (d :: rest') last
      | [] => closing q (c :: read) [] last

def quotedText (q : Char) (cs : List Char) : Option (List Char × List Char) :=
  (closing q [] cs none).map fun (read, rest) => (read.reverse, rest)

def escaped? (q c : Char) : Option Char :=
  if c = '\\' ∨ c = '\'' then some c
  else if q = '\'' then none
  else
    match c with
    | '"' => some c
    | 'a' => some '\x07'
    | 'b' => some '\x08'
    | 'f' => some '\x0c'
    | 'n' => some '\n'
    | 'r' => some '\r'
    | 't' => some '\t'
    | 'v' => some '\x0b'
    | _ => none

def unescape (q : Char) : List Char → List Char
  | '\\' :: c :: rest =>
    match escaped? q c with
    | some e => e :: unescape q rest
    | none => '\\' :: unescape q (c :: rest)
  | c :: rest => c :: unescape q rest
  | [] => []

/-- A bare value up to a comment, which a blank divides from it. -/
def uncommented : Bool → List Char → List Char
  | _, [] => []
  | afterBlank, c :: rest =>
    if afterBlank && c == '#' then [] else c :: uncommented (isBlank c) rest

/-- A value, and what follows it on the line. A quote that is not closed makes the line
unreadable. -/
def value (cs : List Char) : Option (List Char × List Char) :=
  match cs with
  | [] => some ([], [])
  | q :: rest =>
    if q = '\'' ∨ q = '"' then
      (quotedText q rest).map fun (text, rest) => (unescape q text, rest)
    else
      let line := cs.takeWhile fun c => !isLineEnd c
      let text := ((uncommented false line).reverse.dropWhile isBlank).reverse
      some (text, cs.drop line.length)

def name (cs : List Char) : Option (Option (List Char) × List Char) :=
  match cs with
  | '#' :: _ => some (none, cs)
  | '\'' :: rest =>
    let word := rest.takeWhile (· ≠ '\'')
    match rest.drop word.length with
    | _ :: rest => if word.isEmpty then none else some (some word, rest)
    | [] => none
  | cs =>
    let word := cs.takeWhile fun c => !(c == '=' || c == '#' || isBlank c)
    if word.isEmpty then none else some (some word, cs.drop word.length)

/-- A comment, if it is in front, and the end of the line, if that is all that is left. -/
def lineEnd (cs : List Char) : Option (List Char) :=
  let cs := match skipGaps cs with
    | '#' :: rest => rest.dropWhile fun c => !isLineEnd c
    | cs => cs
  match cs with
  | [] => some []
  | '\r' :: '\n' :: rest => some rest
  | c :: rest => if isLineEnd c then some rest else none

def binding (cs : List Char) : Option Binding × List Char :=
  let cs := skipExport (cs.dropWhile isBlank)
  match name cs with
  | none => (none, nextLine cs)
  | some (word, rest) =>
    let rest := skipGaps rest
    let (text, rest, reads) := match rest with
      | '=' :: after =>
        let after := skipGaps after
        match value after with
        | some (text, rest) => (some text, rest, true)
        | none => (none, after, false)
      | rest => (none, rest, true)
    match reads, lineEnd rest with
    | true, some next =>
      (word.map fun w => ⟨String.ofList w, text.map String.ofList⟩, next)
    | _, _ => (none, nextLine (skipGaps rest))

/-- All bindings, in order. A line takes at least one character. -/
def bindingsFrom : Nat → List Char → List Binding
  | 0, _ => []
  | fuel + 1, cs =>
    if cs.isEmpty then []
    else
      let (b, rest) := binding cs
      b.toList ++ bindingsFrom fuel rest

def bindings (text : String) : List Binding :=
  bindingsFrom text.length text.toList

/-- A reference in front, a name in braces behind a dollar sign: the name, the text behind `:-` that
it stands for without a variable of the name, and what follows. -/
def reference? : List Char → Option (List Char × List Char × List Char)
  | '$' :: '\x7b' :: rest =>
    let name := rest.takeWhile fun c => c != '\x7d' && c != ':'
    match rest.drop name.length with
    | '\x7d' :: rest => some (name, [], rest)
    | ':' :: '-' :: rest =>
      let default := rest.takeWhile (· != '\x7d')
      match rest.drop default.length with
      | '\x7d' :: rest => some (name, default, rest)
      | _ => none
    | _ => none
  | _ => none

def expandFrom (value : String → Option String) : Nat → List Char → List Char
  | 0, _ => []
  | _, [] => []
  | fuel + 1, c :: rest =>
    match reference? (c :: rest) with
    | some (name, default, rest) =>
      ((value (String.ofList name)).map String.toList).getD default ++ expandFrom value fuel rest
    | none => c :: expandFrom value fuel rest

def expand (value : String → Option String) (text : String) : String :=
  String.ofList (expandFrom value text.length text.toList)

/-- What a reference finds: a variable of the environment, or an earlier binding, which counts as
empty if it has no value. -/
def referred (outer : List (String × String)) (earlier : List Binding) (name : String) :
    Option String :=
  (outer.lookup name).or ((earlier.find? fun b => b.name == name).map fun b => b.value.getD "")

def resolve (outer : List (String × String)) (bs : List Binding) : List Binding :=
  bs.foldl (fun earlier b =>
    ⟨b.name, b.value.map (expand (referred outer earlier))⟩ :: earlier) []

def lookup (outer : List (String × String)) (text name : String) : Option String :=
  ((resolve outer (bindings text)).find? fun b => b.name == name).bind Binding.value

end BotPayload.EnvFile
