import BotPayload.Files.Path

/-!
A file system: a tree of directories and files, and the directory in it from which paths without a
root start. The uppermost directory stands above itself.
-/

namespace BotPayload

inductive FileTree where
  | file (data : List UInt8)
  | directory (entries : List (String × FileTree))

namespace FileTree

inductive Target where
  | data (bytes : List UInt8)
  | directory
  /-- The path goes on behind a file. -/
  | beneathFile
  | nowhere
  /-- The path, or a name that is looked up on the way, is too long. -/
  | tooLong
deriving DecidableEq, Repr

def maxNameBytes : Nat := 255

/-- Follows the names of a path from a place in the tree, the directories above it being `above`. -/
def follow : List FileTree → FileTree → List String → Target
  | _, .file data, [] => .data data
  | _, .directory _, [] => .directory
  | _, .file _, _ :: _ => .beneathFile
  | above, .directory entries, name :: rest =>
    if name = ".." then
      match above with
      | [] => follow [] (.directory entries) rest
      | up :: above => follow above up rest
    else if maxNameBytes < name.utf8ByteSize then .tooLong
    else
      match entries.lookup name with
      | some child => follow (.directory entries :: above) child rest
      | none => .nowhere

def place (data : List UInt8) : List String → List (String × FileTree) → List (String × FileTree)
  | [], entries => entries
  | [name], entries => (name, .file data) :: entries
  | name :: rest, entries =>
    let inner := match entries.lookup name with
      | some (.directory es) => es
      | _ => []
    (name, .directory (place data rest inner)) :: entries

end FileTree

/-- The working directory is given by the names that lead to it from the root. -/
structure FileSystem where
  root : FileTree
  working : List String
  working_directory : root.follow [] working = .directory

namespace FileSystem

def maxPathBytes : Nat := 4095

def locate (fs : FileSystem) (p : Path) : FileTree.Target :=
  if maxPathBytes < p.text.utf8ByteSize then .tooLong
  else fs.root.follow [] (if p.root = "" then fs.working ++ p.parts else p.parts)

def ofFiles (files : List (Path × List UInt8)) : FileSystem where
  root := .directory [("work",
    .directory (files.foldl (fun entries f => FileTree.place f.2 f.1.parts entries) []))]
  working := ["work"]
  working_directory := rfl

end FileSystem

end BotPayload
