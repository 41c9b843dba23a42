import BotPayload.Proofs.Files.Walk
import BotPayload.Proofs.Message.Steps

/-!
# What is uploaded

A call that attaches a file names it and the source of its bytes: the name is given, or it is that
of the path which is read. A spoiler goes under a name that says so.
-/

namespace BotPayload

def FileName.text? : FileName → Option String
  | .missing => none
  | .text s => some s
  | .path p => some p.text
  | .foreign v => v.write.toOption

inductive FileName.Names : FileName → Option FileSource → String → FileSource → Prop
  | given : name.text? = some file → Names name (some source) file source
  | alone : Names (.text s) none (Path.ofText s).name (.path (Path.ofText s))
  | alonePath : Names (.path p) none p.name (.path p)

structure Path.Readable (fs : FileSystem) (p : Path) (bytes : List UInt8) : Prop where
  clean : '\x00' ∉ p.text.toList
  leads : fs.Leads p (.data bytes)

/-- The bytes that come of a source; a stream goes on from its position. -/
inductive FileSource.Yields (fs : FileSystem) : FileSource → List UInt8 → Prop
  | bytes : Yields fs (.bytes data) data
  | stream : Yields fs (.stream data position) (data.drop position)
  | text : (Path.ofText s).Readable fs data → Yields fs (.text s) data
  | path : p.Readable fs data → Yields fs (.path p) data

/-- The name under which a file is uploaded, as a spoiler or not. -/
inductive UploadedAs : Bool → String → String → Prop
  | plain : UploadedAs false file file
  | marked : UploadedAs true ("SPOILER_" ++ rest) ("SPOILER_" ++ rest)
  | mark : (∀ rest, file ≠ "SPOILER_" ++ rest) → UploadedAs true file ("SPOILER_" ++ file)

namespace Attachment

variable {fs : FileSystem} {p : Path} {name : FileName} {source : Option FileSource}

theorem resolve_given {given : FileSource} :
    resolve name (some given) = .ok (file, origin) ↔ name.text? = some file ∧ given = origin := by
  cases name with
  | missing => simp [resolve, FileName.text?]
  | text s => simp [resolve, FileName.text?]
  | path p => simp [resolve, FileName.text?]
  | foreign v =>
    cases written : v.write <;>
      simp [resolve, FileName.text?, written, Except.toOption, bind, Except.bind, pure, Except.pure]

theorem resolve_ok : resolve name source = .ok (file, origin) ↔ name.Names source file origin := by
  cases source with
  | none =>
    constructor
    · intro h
      cases name <;> cases h <;> constructor
    · rintro (_ | _ | _) <;> rfl
  | some given =>
    rw [resolve_given]
    constructor
    · rintro ⟨named, rfl⟩
      exact .given named
    · intro h
      cases h with
      | given named => exact ⟨named, rfl⟩

theorem readPath_ok : readPath fs p shown = .ok bytes ↔ p.Readable fs bytes := by
  have readable : p.Readable fs bytes ↔ '\x00' ∉ p.text.toList ∧ fs.locate p = .data bytes := by
    rw [FileSystem.locate_iff]
    exact ⟨fun ⟨clean, leads⟩ => ⟨clean, leads⟩, fun ⟨clean, leads⟩ => ⟨clean, leads⟩⟩
  rw [readable, readPath]
  by_cases nul : '\x00' ∈ p.text.toList
  · simp [nul]
  · cases fs.locate p <;> simp [nul]

theorem readSource_ok {origin : FileSource} :
    readSource fs origin = .ok data ↔ origin.Yields fs data := by
  constructor
  · intro h
    cases origin with
    | bytes => cases h; exact .bytes
    | stream => cases h; exact .stream
    | text s => exact .text (readPath_ok.mp h)
    | path p => exact .path (readPath_ok.mp h)
    | foreign v => cases h
  · intro h
    cases h with
    | bytes => rfl
    | stream => rfl
    | text readable => exact readPath_ok.mpr readable
    | path readable => exact readPath_ok.mpr readable

theorem startsWith_mark {name : String} :
    spoilerMark.toList.isPrefixOf name.toList = true ↔ ∃ rest, name = "SPOILER_" ++ rest := by
  rw [List.isPrefixOf_iff_prefix]
  constructor
  · rintro ⟨rest, split⟩
    refine ⟨String.ofList rest, String.toList_inj.mp ?_⟩
    rw [← split, String.toList_append, @String.toList_ofList rest, spoilerMark]
  · rintro ⟨rest, rfl⟩
    exact ⟨rest.toList, String.toList_append.symm⟩

theorem uploadedAs_iff {spoiler : Bool} :
    UploadedAs spoiler file shown ↔ shown = uploadName spoiler file := by
  have plain : uploadName false file = file := rfl
  have marked (rest : String) : uploadName true ("SPOILER_" ++ rest) = "SPOILER_" ++ rest := by
    rw [uploadName, Bool.true_and, startsWith_mark.mpr ⟨rest, rfl⟩]
    rfl
  have unmarked (h : ∀ rest, file ≠ "SPOILER_" ++ rest) :
      uploadName true file = "SPOILER_" ++ file := by
    have apart := mt startsWith_mark.mp (not_exists.mpr h)
    rw [uploadName, Bool.true_and, eq_false_of_ne_true apart]
    rfl
  constructor
  · intro uploaded
    cases uploaded with
    | plain => exact plain.symm
    | marked => exact (marked _).symm
    | mark other => exact (unmarked other).symm
  · rintro rfl
    cases spoiler with
    | false => exact .plain
    | true =>
      by_cases h : ∃ rest, file = "SPOILER_" ++ rest
      · obtain ⟨rest, rfl⟩ := h
        rw [marked rest]
        exact .marked
      · rw [unmarked (not_exists.mp h)]
        exact .mark (not_exists.mp h)

theorem uploadName_ne (spoiler : Bool) (h : file ≠ "") : uploadName spoiler file ≠ "" := by
  unfold uploadName
  split
  · intro empty
    exact h (String.append_eq_empty_iff.mp empty).2
  · exact h

end Attachment

end BotPayload
