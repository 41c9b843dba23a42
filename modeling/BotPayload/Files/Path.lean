/-!
Paths of files: a root, if there is any, and the names on the way. Empty names and single dots are
left out when a path is read.
-/

namespace BotPayload

structure Path where
  /-- Nothing, one slash, or two. -/
  root : String
  parts : List String
deriving DecidableEq, Repr

namespace Path

def splitSlashes : List Char → List Char → List (List Char)
  | part, [] => [part.reverse]
  | part, c :: rest =>
    if c = '/' then part.reverse :: splitSlashes [] rest else splitSlashes (c :: part) rest

/-- Exactly two slashes in front are a root of their own. -/
def rootOf : List Char → String
  | ['/', '/'] => "//"
  | '/' :: '/' :: c :: _ => if c = '/' then "/" else "//"
  | '/' :: _ => "/"
  | _ => ""

def ofText (s : String) : Path where
  root := rootOf s.toList
  parts := ((splitSlashes [] s.toList).map String.ofList).filter fun part => part ≠ "" && part ≠ "."

def name (p : Path) : String := p.parts.getLast?.getD ""

/-- The written form; a path without names is a dot. -/
def text (p : Path) : String :=
  if p.root = "" && p.parts.isEmpty then "." else p.root ++ String.intercalate "/" p.parts

end Path

end BotPayload
