import BotPayload.Proofs.Message.Uploads

/-!
# Attaching the file at a path

A file is attached with the data at the end of its path, under the name that is given or the one
that the path ends in. A path that leads nowhere is refused as an argument. The errors of reading a
directory, of going on behind a file, of a path that is too long and of a NUL in it come through as
they are.
-/

namespace BotPayload

inductive FileSource.Reads : FileSource → Path → String → Prop
  | text : Reads (.text s) (Path.ofText s) s
  | path : Reads (.path p) p p.text

/-- The call reads the path `p`, which an error shows as `shown`, and names the file `file`. -/
inductive NamesPath (name : FileName) (source : Option FileSource) (file : String) (p : Path)
    (shown : String) : Prop
  | intro : name.Names source file origin → origin.Reads p shown →
      NamesPath name source file p shown

/-- The failures to read a path that are not translated. -/
inductive Path.Unreadable (fs : FileSystem) (p : Path) : Error → Prop
  | nul : '\x00' ∈ p.text.toList → Unreadable fs p .nulInPath
  | directory : '\x00' ∉ p.text.toList → fs.Leads p .directory →
      Unreadable fs p (.isDirectory p.text)
  | beneathFile : '\x00' ∉ p.text.toList → fs.Leads p .beneathFile →
      Unreadable fs p (.notDirectory p.text)
  | tooLong : '\x00' ∉ p.text.toList → fs.Leads p .tooLong →
      Unreadable fs p (.pathTooLong p.text)

theorem Path.Unreadable.kind_ne {p : Path} (h : p.Unreadable fs err) : err.kind ≠ .argument := by
  cases h <;> nofun

namespace Attachment

variable {fs : FileSystem} {p : Path} {name : FileName} {source : Option FileSource}

theorem readPath_unreadable (h : p.Unreadable fs err) : readPath fs p shown = .error err := by
  unfold readPath
  cases h with
  | nul nul => exact if_pos (List.contains_iff_mem.mpr nul)
  | directory clean found =>
    rw [if_neg (by simpa using clean), FileSystem.locate_iff.mpr found]
  | beneathFile clean found =>
    rw [if_neg (by simpa using clean), FileSystem.locate_iff.mpr found]
  | tooLong clean found =>
    rw [if_neg (by simpa using clean), FileSystem.locate_iff.mpr found]

theorem readPath_nowhere (clean : '\x00' ∉ p.text.toList) (lost : fs.Leads p .nowhere) :
    readPath fs p shown = .error (.refused "File" (.fileNotFound shown)) := by
  rw [readPath, if_neg (by simpa using clean), FileSystem.locate_iff.mpr lost]

theorem readPath_cases (fs : FileSystem) (p : Path) :
    (∃ bytes, p.Readable fs bytes) ∨ (∃ err, p.Unreadable fs err) ∨
      '\x00' ∉ p.text.toList ∧ fs.Leads p .nowhere := by
  by_cases nul : '\x00' ∈ p.text.toList
  · exact .inr (.inl ⟨_, .nul nul⟩)
  · have leads : fs.Leads p (fs.locate p) := FileSystem.locate_iff.mp rfl
    cases found : fs.locate p with
    | data bytes => exact .inl ⟨bytes, nul, found ▸ leads⟩
    | directory => exact .inr (.inl ⟨_, .directory nul (found ▸ leads)⟩)
    | beneathFile => exact .inr (.inl ⟨_, .beneathFile nul (found ▸ leads)⟩)
    | nowhere => exact .inr (.inr ⟨nul, found ▸ leads⟩)
    | tooLong => exact .inr (.inl ⟨_, .tooLong nul (found ▸ leads)⟩)

theorem readPath_error : readPath fs p shown = .error err ↔
    p.Unreadable fs err ∨
      '\x00' ∉ p.text.toList ∧ fs.Leads p .nowhere ∧
        err = .refused "File" (.fileNotFound shown) := by
  constructor
  · intro h
    obtain ⟨bytes, readable⟩ | ⟨cause, unreadable⟩ | ⟨clean, lost⟩ := readPath_cases fs p
    · cases h.symm.trans (readPath_ok.mpr readable)
    · cases h.symm.trans (readPath_unreadable unreadable)
      exact .inl unreadable
    · cases h.symm.trans (readPath_nowhere clean lost)
      exact .inr ⟨clean, lost, rfl⟩
  · rintro (unreadable | ⟨clean, lost, rfl⟩)
    · exact readPath_unreadable unreadable
    · exact readPath_nowhere clean lost

theorem readSource_eq {origin : FileSource} (h : origin.Reads p shown) (fs : FileSystem) :
    readSource fs origin = readPath fs p shown := by
  cases h <;> rfl

end Attachment

namespace MessageEdit

structure Admits (e : MessageEdit) (file : String) : Prop where
  named : file ≠ ""
  room : e.files.length < 10

inductive AttachFault (fs : FileSystem) (e : MessageEdit) (file : String) (p : Path)
    (shown : String) : Error → Prop
  | unnamed : file = "" → AttachFault fs e file p shown (.refused "Name" .empty)
  | full : file ≠ "" → 10 ≤ e.files.length →
      AttachFault fs e file p shown (.refused "File" (.tooManyFiles 10))
  | notFound : e.Admits file → '\x00' ∉ p.text.toList → fs.Leads p .nowhere →
      AttachFault fs e file p shown (.refused "File" (.fileNotFound shown))
  | unreadable : e.Admits file → p.Unreadable fs err → AttachFault fs e file p shown err

def withUpload (e : MessageEdit) (f : Upload) : MessageEdit :=
  { e with files := e.files ++ [f], updated := e.mark "files" }

variable {fs : FileSystem} {e : MessageEdit} {name : FileName} {source : Option FileSource}
  {p : Path}

theorem attach_named (h : NamesPath name source file p shown) :
    e.attach fs name source spoiler = (do
      require (file ≠ "") "Name" .empty
      require (e.files.length < maxFiles) "File" (.tooManyFiles maxFiles)
      let data ← Attachment.readPath fs p shown
      return e.withUpload ⟨Attachment.uploadName spoiler file, data⟩) := by
  obtain ⟨named, reads⟩ := h
  rw [attach, Attachment.resolve_ok.mpr named, ← Attachment.readSource_eq reads]
  rfl

theorem attach_named_error (h : NamesPath name source file p shown) :
    e.attach fs name source spoiler = .error err ↔ AttachFault fs e file p shown err := by
  simp only [attach_named h, bind_error, require_refused, require_ok, Attachment.readPath_error,
    decide_eq_true_eq, decide_eq_false_iff_not, not_not, Nat.not_lt]
  constructor
  · rintro (⟨unnamed, rfl⟩ | ⟨_, named, ⟨full, rfl⟩ | ⟨_, room, (unreadable | ⟨clean, lost, rfl⟩) |
      ⟨_, -, h⟩⟩⟩)
    · exact .unnamed unnamed
    · exact .full named full
    · exact .unreadable ⟨named, room⟩ unreadable
    · exact .notFound ⟨named, room⟩ clean lost
    · nomatch h
  · intro fault
    cases fault with
    | unnamed unnamed => exact .inl ⟨unnamed, rfl⟩
    | full named full => exact .inr ⟨(), named, .inl ⟨full, rfl⟩⟩
    | notFound admits clean lost =>
      exact .inr ⟨(), admits.named, .inr ⟨(), admits.room, .inl (.inr ⟨clean, lost, rfl⟩)⟩⟩
    | unreadable admits unreadable =>
      exact .inr ⟨(), admits.named, .inr ⟨(), admits.room, .inl (.inl unreadable)⟩⟩

theorem attach_named_ok {e' : MessageEdit} (h : NamesPath name source file p shown) :
    e.attach fs name source spoiler = .ok e' ↔
      e.Admits file ∧ ∃ uploaded bytes, UploadedAs spoiler file uploaded ∧ p.Readable fs bytes ∧
        e' = e.withUpload ⟨uploaded, bytes⟩ := by
  simp only [attach_named h, bind_ok, require_ok, pure_ok, Attachment.readPath_ok,
    decide_eq_true_eq, Attachment.uploadedAs_iff]
  constructor
  · rintro ⟨_, named, _, room, bytes, readable, rfl⟩
    exact ⟨⟨named, room⟩, _, bytes, rfl, readable, rfl⟩
  · rintro ⟨admits, _, bytes, rfl, readable, rfl⟩
    exact ⟨(), admits.named, (), admits.room, bytes, readable, rfl⟩

theorem AttachFault.kind (h : AttachFault fs e file p shown err) :
    err.kind = .argument ∨ e.Admits file ∧ p.Unreadable fs err := by
  cases h with
  | unnamed _ => exact .inl rfl
  | full _ _ => exact .inl rfl
  | notFound _ _ _ => exact .inl rfl
  | unreadable admits unreadable => exact .inr ⟨admits, unreadable⟩

/-- The file at a path is attached with its data, or the call fails. It fails otherwise than by
refusing an argument exactly where a file of the name has its place, and the path holds a NUL, leads
to a directory, goes on behind a file or is too long. -/
theorem attach_path (fs : FileSystem) (e : MessageEdit) (spoiler : Bool) :
    (∀ source, e.attach fs .missing source spoiler = .error (.refused "Name" .missing)) ∧
    ∀ name source file p shown, NamesPath name source file p shown →
      (∀ e', e.attach fs name source spoiler = .ok e' ↔
        e.Admits file ∧ ∃ uploaded bytes, UploadedAs spoiler file uploaded ∧
          p.Readable fs bytes ∧ e' = e.withUpload ⟨uploaded, bytes⟩) ∧
      (∀ err, e.attach fs name source spoiler = .error err ↔
        AttachFault fs e file p shown err) ∧
      ((∀ err, e.attach fs name source spoiler = .error err → err.kind = .argument) ↔
        ¬(e.Admits file ∧ ∃ err, p.Unreadable fs err)) := by
  refine ⟨fun source => ?_, fun name source file p shown h => ?_⟩
  · cases source <;> rfl
  refine ⟨fun _ => attach_named_ok h, fun _ => attach_named_error h, ?_⟩
  constructor
  · rintro refused ⟨admits, err, unreadable⟩
    have failed : e.attach fs name source spoiler = .error err :=
      (attach_named_error h).mpr (.unreadable admits unreadable)
    exact unreadable.kind_ne (refused err failed)
  · intro readable err failed
    refine ((attach_named_error h).mp failed).kind.resolve_right fun ⟨admits, unreadable⟩ => ?_
    exact readable ⟨admits, err, unreadable⟩

/-- A directory and a path behind a file, where the errors of reading come through; a path that
leads nowhere, and two that lead to a file, from the root and by a way up and down again. -/
theorem attach_path_directory :
    ∃ (fs : FileSystem) (e : MessageEdit),
      fs = FileSystem.ofFiles [(Path.ofText "report.csv", [97]),
        (Path.ofText "sub/plot.png", [1, 2])] ∧
      e = { applicationId := .value (.int 1), token := "tok", messageId := firstResponse } ∧
      e.attach fs (.text "sub") none false = .error (.isDirectory "sub") ∧
      (Error.isDirectory "sub").kind ≠ .argument ∧
      e.attach fs (.text "n.txt") (some (.text "report.csv/x")) false =
        .error (.notDirectory "report.csv/x") ∧
      (Error.notDirectory "report.csv/x").kind ≠ .argument ∧
      e.attach fs (.text "n.txt") (some (.text "gone/n.txt")) false =
        .error (.refused "File" (.fileNotFound "gone/n.txt")) ∧
      e.attach fs (.text "/work/report.csv") none false =
        .ok (e.withUpload ⟨"report.csv", [97]⟩) ∧
      e.attach fs (.text "sub/../../work/sub/plot.png") none true =
        .ok (e.withUpload ⟨"SPOILER_plot.png", [1, 2]⟩) := by
  have admits {file : String} (named : file ≠ "") :
      Admits { applicationId := .value (.int 1), token := "tok", messageId := firstResponse } file :=
    ⟨named, by decide⟩
  refine ⟨_, _, rfl, rfl, ?_, nofun, ?_, nofun, ?_, ?_, ?_⟩
  · obtain ⟨-, fails, -⟩ := (attach_path _ _ false).2 _ _ _ _ _ (.intro (.alone (s := "sub")) .path)
    exact (fails _).mpr (.unreadable (admits (by decide))
      (.directory (by decide) (FileSystem.locate_iff.mp rfl)))
  · obtain ⟨-, fails, -⟩ := (attach_path _ _ false).2 (.text "n.txt") _ _ _ _
      (.intro (.given rfl) (.text (s := "report.csv/x")))
    exact (fails _).mpr (.unreadable (admits (by decide))
      (.beneathFile (by decide) (FileSystem.locate_iff.mp rfl)))
  · obtain ⟨-, fails, -⟩ := (attach_path _ _ false).2 (.text "n.txt") _ _ _ _
      (.intro (.given rfl) (.text (s := "gone/n.txt")))
    exact (fails _).mpr (.notFound (admits (by decide)) (by decide) (FileSystem.locate_iff.mp rfl))
  · obtain ⟨succeeds, -⟩ := (attach_path _ _ false).2 _ _ _ _ _
      (.intro (.alone (s := "/work/report.csv")) .path)
    exact (succeeds _).mpr ⟨admits (by decide), _, _, .plain,
      ⟨by decide, FileSystem.locate_iff.mp rfl⟩, rfl⟩
  · obtain ⟨succeeds, -⟩ := (attach_path _ _ true).2 _ _ _ _ _
      (.intro (.alone (s := "sub/../../work/sub/plot.png")) .path)
    exact (succeeds _).mpr ⟨admits (by decide), _, _, Attachment.uploadedAs_iff.mpr rfl,
      ⟨by decide, FileSystem.locate_iff.mp rfl⟩, rfl⟩

end MessageEdit

end BotPayload
