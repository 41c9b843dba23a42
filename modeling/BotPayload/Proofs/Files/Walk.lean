import BotPayload.Files.Tree

/-!
# Where a path leads

A path is walked name by name, from place to place: a name that a directory holds leads into it,
two dots lead up, and at the root they lead nowhere else. The walk ends at a file or at a directory,
or it stops before the end of the path: behind a file, where a directory holds no such name, or at a
name that is too long. `locate_iff`: this is what `locate` finds.
-/

namespace BotPayload.FileTree

/-- What is at a place in the tree, which is given by the names that lead to it from the root, the
last one first. -/
def at? (tree : FileTree) : List String → Option FileTree
  | [] => some tree
  | name :: names =>
    match tree.at? names with
    | some (.directory entries) => entries.lookup name
    | _ => none

section
variable (tree : FileTree)

def HasFile (data : List UInt8) (names : List String) : Prop := tree.at? names = some (.file data)

def HasDirectory (names : List String) : Prop := ∃ entries, tree.at? names = some (.directory entries)

inductive Moves : List String → String → List String → Prop
  | into : name ≠ ".." → name.utf8ByteSize ≤ 255 → tree.at? names = some (.directory entries) →
      entries.lookup name = some child → Moves names name (name :: names)
  | up : tree.HasDirectory names → Moves names ".." names.tail

inductive Walk : List String → List String → List String → Prop
  | stop : Walk here [] here
  | move : tree.Moves here name next → Walk next rest last → Walk here (name :: rest) last

inductive Ends (start parts : List String) : Target → Prop
  | data : tree.Walk start parts last → tree.HasFile bytes last → Ends start parts (.data bytes)
  | directory : tree.Walk start parts last → tree.HasDirectory last → Ends start parts .directory
  | beneathFile : parts = front ++ name :: back → tree.Walk start front last →
      tree.HasFile bytes last → Ends start parts .beneathFile
  | nowhere : parts = front ++ name :: back → tree.Walk start front last →
      tree.HasDirectory last → name.utf8ByteSize ≤ 255 → (∀ next, ¬tree.Moves last name next) →
      Ends start parts .nowhere
  | tooLong : parts = front ++ name :: back → tree.Walk start front last →
      tree.HasDirectory last → 255 < name.utf8ByteSize → Ends start parts .tooLong

/-- The place at which a walk stands that has come by these directories, the last one first. -/
inductive Stands : List FileTree → FileTree → List String → Prop
  | top : Stands [] tree []
  | into : Stands above (.directory entries) names → entries.lookup name = some child →
      Stands (.directory entries :: above) child (name :: names)

end

section
variable {tree : FileTree} {here next : List String}

-- ---------------------------------------------------------------------------
-- A walk ends in one way only
-- ---------------------------------------------------------------------------

theorem HasFile.not_directory (h : tree.HasFile bytes here) : ¬tree.HasDirectory here := by
  rintro ⟨entries, directory⟩
  cases directory.symm.trans h

theorem HasFile.unique (h : tree.HasFile bytes here) (h' : tree.HasFile bytes' here) :
    bytes = bytes' :=
  FileTree.file.inj (Option.some.inj (h.symm.trans h'))

theorem Moves.directory (h : tree.Moves here name next) : tree.HasDirectory here := by
  cases h with
  | into _ _ directory _ => exact ⟨_, directory⟩
  | up directory => exact directory

theorem Moves.short (h : tree.Moves here name next) : name.utf8ByteSize ≤ 255 := by
  cases h with
  | into _ short _ _ => exact short
  | up _ => decide

theorem Moves.unique (h : tree.Moves here name next) (h' : tree.Moves here name next') :
    next = next' := by
  cases h with
  | into ne _ _ _ =>
    cases h' with
    | into => rfl
    | up => exact absurd rfl ne
  | up _ =>
    cases h' with
    | into ne => exact absurd rfl ne
    | up => rfl

theorem Ends.nil_iff : tree.Ends here [] target ↔
    (∃ bytes, tree.HasFile bytes here ∧ target = .data bytes) ∨
      tree.HasDirectory here ∧ target = .directory := by
  constructor
  · intro h
    cases h with
    | data walk file =>
      cases walk
      exact .inl ⟨_, file, rfl⟩
    | directory walk directory =>
      cases walk
      exact .inr ⟨directory, rfl⟩
    | beneathFile split _ _ => simp at split
    | nowhere split _ _ _ _ => simp at split
    | tooLong split _ _ _ => simp at split
  · rintro (⟨bytes, file, rfl⟩ | ⟨directory, rfl⟩)
    · exact .data .stop file
    · exact .directory .stop directory

theorem Ends.move (h : tree.Moves here name next) (ends : tree.Ends next rest target) :
    tree.Ends here (name :: rest) target := by
  cases ends with
  | data walk file => exact .data (.move h walk) file
  | directory walk directory => exact .directory (.move h walk) directory
  | beneathFile split walk file =>
    subst split
    exact .beneathFile List.cons_append.symm (.move h walk) file
  | nowhere split walk directory short stuck =>
    subst split
    exact .nowhere List.cons_append.symm (.move h walk) directory short stuck
  | tooLong split walk directory long =>
    subst split
    exact .tooLong List.cons_append.symm (.move h walk) directory long

theorem Ends.cons_cases (h : tree.Ends here (name :: rest) target) :
    (∃ next, tree.Moves here name next ∧ tree.Ends next rest target) ∨
      (∃ bytes, tree.HasFile bytes here ∧ target = .beneathFile) ∨
      tree.HasDirectory here ∧ (∀ next, ¬tree.Moves here name next) ∧
        target = if 255 < name.utf8ByteSize then .tooLong else .nowhere := by
  cases h with
  | data walk file =>
    cases walk with
    | move moves walk => exact .inl ⟨_, moves, .data walk file⟩
  | directory walk directory =>
    cases walk with
    | move moves walk => exact .inl ⟨_, moves, .directory walk directory⟩
  | beneathFile split walk file =>
    cases walk with
    | stop => exact .inr (.inl ⟨_, file, rfl⟩)
    | move moves walk =>
      obtain ⟨rfl, rfl⟩ := List.cons.inj split
      exact .inl ⟨_, moves, .beneathFile rfl walk file⟩
  | nowhere split walk directory short stuck =>
    cases walk with
    | stop =>
      obtain ⟨rfl, -⟩ := List.cons.inj split
      exact .inr (.inr ⟨directory, stuck, (if_neg (Nat.not_lt.mpr short)).symm⟩)
    | move moves walk =>
      obtain ⟨rfl, rfl⟩ := List.cons.inj split
      exact .inl ⟨_, moves, .nowhere rfl walk directory short stuck⟩
  | tooLong split walk directory long =>
    cases walk with
    | stop =>
      obtain ⟨rfl, -⟩ := List.cons.inj split
      have stuck : ∀ next, ¬tree.Moves here name next := fun _ moves =>
        Nat.not_le_of_lt long moves.short
      exact .inr (.inr ⟨directory, stuck, (if_pos long).symm⟩)
    | move moves walk =>
      obtain ⟨rfl, rfl⟩ := List.cons.inj split
      exact .inl ⟨_, moves, .tooLong rfl walk directory long⟩

theorem Ends.walk_iff (walk : tree.Walk here front next) :
    tree.Ends here (front ++ rest) target ↔ tree.Ends next rest target := by
  induction walk with
  | stop => rfl
  | move moves _ ih =>
    rw [List.cons_append, ← ih]
    refine ⟨fun ends => ?_, .move moves⟩
    rcases cons_cases ends with ⟨next, moves', ends⟩ | ⟨bytes, file, -⟩ | ⟨-, stuck, -⟩
    · exact moves.unique moves' ▸ ends
    · exact absurd moves.directory file.not_directory
    · exact absurd moves (stuck _)

theorem Ends.unique (h : tree.Ends here parts target) (h' : tree.Ends here parts target') :
    target = target' := by
  induction parts generalizing here with
  | nil =>
    rcases nil_iff.mp h with ⟨bytes, file, rfl⟩ | ⟨directory, rfl⟩
    · rcases nil_iff.mp h' with ⟨bytes', file', rfl⟩ | ⟨directory, -⟩
      · rw [file.unique file']
      · exact absurd directory file.not_directory
    · rcases nil_iff.mp h' with ⟨bytes', file', -⟩ | ⟨-, rfl⟩
      · exact absurd directory file'.not_directory
      · rfl
  | cons name rest ih =>
    rcases cons_cases h with ⟨next, moves, ends⟩ | ⟨bytes, file, rfl⟩ | ⟨directory, stuck, rfl⟩
    · rcases cons_cases h' with ⟨next', moves', ends'⟩ | ⟨bytes, file, -⟩ | ⟨-, stuck, -⟩
      · exact ih ends (moves.unique moves' ▸ ends')
      · exact absurd moves.directory file.not_directory
      · exact absurd moves (stuck next)
    · rcases cons_cases h' with ⟨next, moves, -⟩ | ⟨bytes', file', rfl⟩ | ⟨directory, -, -⟩
      · exact absurd moves.directory file.not_directory
      · rfl
      · exact absurd directory file.not_directory
    · rcases cons_cases h' with ⟨next, moves, -⟩ | ⟨bytes, file, -⟩ | ⟨-, -, rfl⟩
      · exact absurd moves (stuck next)
      · exact absurd directory file.not_directory
      · rfl

end

-- ---------------------------------------------------------------------------
-- Following a path is such a walk
-- ---------------------------------------------------------------------------

section
variable {tree here : FileTree}

theorem Stands.at? (h : tree.Stands above here names) : tree.at? names = some here := by
  induction h with
  | top => rfl
  | into _ held ih => simp only [FileTree.at?, ih, held]

theorem follow_ends (stands : tree.Stands above here names) (parts : List String) :
    tree.Ends names parts (follow above here parts) := by
  -- Every name changes the place and the directories above it, so the hypothesis is for all.
  induction parts generalizing above here names with
  | nil =>
    cases here with
    | file data => exact .data .stop stands.at?
    | directory entries => exact .directory .stop ⟨_, stands.at?⟩
  | cons name rest ih =>
    cases here with
    | file data => exact .beneathFile (List.nil_append _).symm .stop stands.at?
    | directory entries =>
      have directory : tree.HasDirectory names := ⟨_, stands.at?⟩
      by_cases up : name = ".."
      · subst up
        cases stands with
        | top => exact .move (.up directory) (ih .top)
        | into stands held => exact .move (.up directory) (ih stands)
      · by_cases long : maxNameBytes < name.utf8ByteSize
        · simp only [follow, up, long, ↓reduceIte]
          exact .tooLong (List.nil_append _).symm .stop directory long
        · have short : name.utf8ByteSize ≤ 255 := Nat.not_lt.mp long
          simp only [follow, up, long, ↓reduceIte]
          cases held : entries.lookup name with
          | some child =>
            exact .move (.into up short stands.at? held) (ih (.into stands held))
          | none =>
            refine .nowhere (List.nil_append _).symm .stop directory short fun next moves => ?_
            cases moves with
            | into _ _ there held' =>
              obtain rfl := FileTree.directory.inj (Option.some.inj (there.symm.trans stands.at?))
              cases held.symm.trans held'
            | up => exact up rfl

end

end BotPayload.FileTree

namespace BotPayload.FileSystem

open FileTree (Target Walk Ends)

/-- Where a path leads: it starts at the root, or at the working directory if it has no root. -/
inductive Leads (fs : FileSystem) (p : Path) : Target → Prop
  | absolute : p.text.utf8ByteSize < 4096 → p.root ≠ "" → fs.root.Ends [] p.parts target →
      Leads fs p target
  | relative : p.text.utf8ByteSize < 4096 → p.root = "" → fs.root.Walk [] fs.working start →
      fs.root.Ends start p.parts target → Leads fs p target
  | tooLong : 4096 ≤ p.text.utf8ByteSize → Leads fs p .tooLong

variable {fs : FileSystem} {p : Path}

theorem working_walk (fs : FileSystem) : ∃ start, fs.root.Walk [] fs.working start := by
  have ends : fs.root.Ends [] fs.working .directory :=
    fs.working_directory ▸ FileTree.follow_ends .top fs.working
  cases ends with
  | directory walk _ => exact ⟨_, walk⟩

theorem leads_locate (fs : FileSystem) (p : Path) : fs.Leads p (fs.locate p) := by
  unfold locate
  by_cases long : maxPathBytes < p.text.utf8ByteSize
  · rw [if_pos long]
    exact .tooLong long
  · have short : p.text.utf8ByteSize < 4096 := Nat.lt_succ_of_le (Nat.not_lt.mp long)
    rw [if_neg long]
    by_cases relative : p.root = ""
    · obtain ⟨start, walk⟩ := fs.working_walk
      rw [if_pos relative]
      exact .relative short relative walk ((Ends.walk_iff walk).mp (FileTree.follow_ends .top _))
    · rw [if_neg relative]
      exact .absolute short relative (FileTree.follow_ends .top p.parts)

theorem Leads.unique (h : fs.Leads p target) (h' : fs.Leads p target') : target = target' := by
  cases h with
  | absolute short rooted ends =>
    cases h' with
    | absolute _ _ ends' => exact ends.unique ends'
    | relative _ rootless _ _ => exact absurd rootless rooted
    | tooLong long => exact absurd short (Nat.not_lt.mpr long)
  | relative short rootless walk ends =>
    cases h' with
    | absolute _ rooted _ => exact absurd rootless rooted
    | relative _ _ walk' ends' =>
      exact ((Ends.walk_iff walk).mpr ends).unique ((Ends.walk_iff walk').mpr ends')
    | tooLong long => exact absurd short (Nat.not_lt.mpr long)
  | tooLong long =>
    cases h' with
    | absolute short _ _ => exact absurd short (Nat.not_lt.mpr long)
    | relative short _ _ _ => exact absurd short (Nat.not_lt.mpr long)
    | tooLong _ => rfl

theorem locate_iff : fs.locate p = target ↔ fs.Leads p target := by
  constructor
  · rintro rfl
    exact fs.leads_locate p
  · exact (fs.leads_locate p).unique

end BotPayload.FileSystem
