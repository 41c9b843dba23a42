import BotPayload.Proofs.Message.Uploads
import BotPayload.Proofs.Sequence.Order

/-!
# What a history of steps writes

Every successful step writes some fields of the edit, marks them and keeps the others
(`step_eq_after`). After a history of steps, of which some may have failed, a field holds what the
last successful step that marks it wrote, and the files are those of all successful steps
(`play_eq`).
-/

namespace BotPayload.MessageEdit

def Step.marks : Step → List String
  | .writeContent _ => ["content"]
  | .writeEmbeds _ => ["embeds"]
  | .writeButtons _ => ["components"]
  | .writeRows _ => ["components"]
  | .attach _ _ _ => ["files"]
  | .copyFrom _ => ["components", "embeds", "content"]

structure Turn where
  fs : FileSystem
  step : Step

namespace Turn

def marks (key : String) (t : Turn) : Bool := key ∈ t.step.marks

def content? (t : Turn) : Option (Option String) :=
  match t.step with
  | .writeContent content => some content
  | .copyFrom message => message.map Message.content
  | _ => none

def embeds? (t : Turn) : Option (List Embed) :=
  match t.step with
  | .writeEmbeds args => some ((Nested.flatten args).filterMap Argument.given?)
  | .copyFrom message => message.map fun m => m.embeds.filterMap Argument.given?
  | _ => none

def rows? (t : Turn) : Option (List ActionRow) :=
  match t.step with
  | .writeButtons buttons => some [⟨buttons.filterMap Argument.given?⟩]
  | .writeRows args => some ((Nested.flatten args).filterMap Argument.given?)
  | .copyFrom message => message.map fun m => m.components.filterMap rowOf?
  | _ => none

def upload? (t : Turn) : Option Upload :=
  match t.step with
  | .attach name source spoiler => do
    let (file, origin) ← (Attachment.resolve name source).toOption
    let data ← (Attachment.readSource t.fs origin).toOption
    return ⟨Attachment.uploadName spoiler file, data⟩
  | _ => none

def attaches (t : Turn) : Bool :=
  match t.step with
  | .attach _ _ _ => true
  | _ => false

/-- A turn attaches the file: its name and its bytes are those that the step tells. -/
def Attaches (t : Turn) (f : Upload) : Prop :=
  ∃ name source spoiler file origin, t.step = .attach name source spoiler ∧
    name.Names source file origin ∧ UploadedAs spoiler file f.name ∧ origin.Yields t.fs f.data

theorem attaches_upload {t : Turn} (h : t.upload? = some f) : t.Attaches f := by
  obtain ⟨fs, s⟩ := t
  cases s with
  | attach name source spoiler =>
    simp only [upload?, Option.bind_eq_bind, Option.bind_eq_some_iff, Option.pure_def,
      Option.some.injEq, toOption_eq_some] at h
    obtain ⟨⟨file, origin⟩, resolved, data, read, rfl⟩ := h
    exact ⟨name, source, spoiler, file, origin, rfl, Attachment.resolve_ok.mp resolved,
      Attachment.uploadedAs_iff.mpr rfl, Attachment.readSource_ok.mp read⟩
  | _ => cases h

end Turn

def after (e : MessageEdit) (t : Turn) : MessageEdit :=
  { e with
    content := t.content?.getD e.content
    embeds := t.embeds?.getD e.embeds
    rows := t.rows?.getD e.rows
    files := e.files ++ t.upload?.toList
    updated := fun key => t.marks key || e.updated key }

-- `filterMap_map` stays out of the calls of `simp`: it would compose what `filterMap_given` reads.
theorem step_eq_after (h : (step fs e s).result = .ok e') : e' = e.after ⟨fs, s⟩ := by
  cases s with
  | writeContent content =>
    obtain ⟨-, rfl⟩ := writeContent_ok.mp h
    simp [after, mark_eq, Turn.marks, Step.marks, Turn.content?, Turn.embeds?, Turn.rows?,
      Turn.upload?]
  | writeEmbeds args =>
    obtain ⟨es, -, given, -, -, -, rfl⟩ := writeEmbeds_ok.mp h
    simp [after, mark_eq, Turn.marks, Step.marks, Turn.content?, Turn.embeds?, Turn.rows?,
      Turn.upload?, given, filterMap_given, -List.filterMap_map]
  | writeButtons buttons =>
    obtain ⟨r, row, rfl⟩ := writeButtons_ok.mp h
    obtain ⟨rfl, -, -⟩ := ActionRow.ofArguments_ok.mp row
    simp [after, mark_eq, Turn.marks, Step.marks, Turn.content?, Turn.embeds?, Turn.rows?,
      Turn.upload?, filterMap_given, -List.filterMap_map]
  | writeRows args =>
    obtain ⟨rs, given, -, rfl⟩ := writeRows_ok.mp h
    simp [after, mark_eq, Turn.marks, Step.marks, Turn.content?, Turn.embeds?, Turn.rows?,
      Turn.upload?, given, filterMap_given, -List.filterMap_map]
  | attach name source spoiler =>
    obtain ⟨file, origin, data, resolved, -, -, read, rfl⟩ := attach_ok.mp h
    simp [after, mark_eq, Turn.marks, Step.marks, Turn.content?, Turn.embeds?, Turn.rows?,
      Turn.upload?, resolved, read, Except.toOption]
  | copyFrom message =>
    obtain ⟨m, rfl, -, -, es, -, given, -, -, -, -, rfl⟩ := copyFrom_ok.mp h
    simp [after, Turn.marks, Step.marks, Turn.content?, Turn.embeds?, Turn.rows?, Turn.upload?,
      given, filterMap_given, Bool.or_assoc, -List.filterMap_map]

theorem step_upload {t : Turn} (h : (step t.fs e t.step).result = .ok e') :
    t.upload?.isSome = t.attaches := by
  obtain ⟨fs, s⟩ := t
  cases s with
  | attach name source spoiler =>
    obtain ⟨file, origin, data, resolved, -, -, read, -⟩ := attach_ok.mp h
    simp [Turn.upload?, Turn.attaches, resolved, read, Except.toOption]
  | _ => rfl

-- ---------------------------------------------------------------------------
-- Histories
-- ---------------------------------------------------------------------------

/-- The edit after a history of turns, of which some may fail. -/
def play (e : MessageEdit) (ts : List Turn) : MessageEdit :=
  ts.foldl (fun e t => e.stepOrKeep t.fs t.step) e

theorem run_eq_play (fs : FileSystem) (e : MessageEdit) (ss : List Step) :
    run fs e ss = play e (ss.map (Turn.mk fs)) := by
  rw [play, List.foldl_map]
  rfl

def succeeded (e : MessageEdit) : List Turn → List Turn
  | [] => []
  | t :: ts =>
    match (e.step t.fs t.step).result with
    | .ok e' => t :: e'.succeeded ts
    | .error _ => e.succeeded ts

theorem play_of_ok {t : Turn} (h : (step t.fs e t.step).result = .ok e') (ts : List Turn) :
    e.play (t :: ts) = e'.play ts ∧ e.succeeded (t :: ts) = t :: e'.succeeded ts := by
  simp [play, succeeded, stepOrKeep, h]

theorem play_of_error {t : Turn} (h : (step t.fs e t.step).result = .error err)
    (ts : List Turn) : e.play (t :: ts) = e.play ts ∧ e.succeeded (t :: ts) = e.succeeded ts := by
  simp [play, succeeded, stepOrKeep, h]

theorem play_keeps {P : MessageEdit → Prop} {e : MessageEdit} {ts : List Turn} (start : P e)
    (keeps : ∀ t ∈ ts, ∀ m m', P m → (step t.fs m t.step).result = .ok m' → P m') :
    P (e.play ts) := by
  induction ts generalizing e with
  | nil => exact start
  | cons t ts ih =>
    obtain ⟨first, others⟩ := List.forall_mem_cons.mp keeps
    cases outcome : (step t.fs e t.step).result with
    | error err =>
      rw [(play_of_error outcome ts).1]
      exact ih start others
    | ok e' =>
      rw [(play_of_ok outcome ts).1]
      exact ih (first e e' start outcome) others

theorem uploads_succeeded (e : MessageEdit) (ts : List Turn) :
    ((e.succeeded ts).filter Turn.attaches).map Turn.upload? =
      ((e.succeeded ts).filterMap Turn.upload?).map some := by
  induction ts generalizing e with
  | nil => rfl
  | cons t ts ih =>
    cases outcome : (step t.fs e t.step).result with
    | error err => simpa only [succeeded, outcome] using ih e
    | ok e' =>
      have attaches := step_upload outcome
      simp only [succeeded, outcome]
      cases upload : t.upload? with
      | none =>
        rw [upload, Option.isSome_none] at attaches
        rw [List.filter_cons_of_neg (by simp [← attaches]), List.filterMap_cons_none upload, ih]
      | some u =>
        rw [upload, Option.isSome_some] at attaches
        rw [List.filter_cons_of_pos attaches.symm, List.filterMap_cons_some upload, List.map_cons,
          List.map_cons, upload, ih]

theorem files_attached (e : MessageEdit) (ts : List Turn) :
    List.Forall₂ Turn.Attaches ((e.succeeded ts).filter Turn.attaches)
      ((e.succeeded ts).filterMap Turn.upload?) := by
  -- The two lists in `uploads` are equal, which is to say that they are related item by item.
  have uploads := uploads_succeeded e ts
  rw [← List.forall₂_eq_eq_eq, List.forall₂_map_left_iff, List.forall₂_map_right_iff] at uploads
  exact uploads.imp fun _ _ upload => Turn.attaches_upload upload

/-- The last write of a field, `write` telling what each turn writes. -/
def lastWrite (write : Turn → Option α) (ts : List Turn) : Option α :=
  (ts.filterMap write).getLast?

theorem lastWrite_cons (write : Turn → Option α) (t : Turn) (ts : List Turn) :
    lastWrite write (t :: ts) = (lastWrite write ts).or (write t) :=
  getLast?_filterMap_cons write t ts

theorem play_eq (e : MessageEdit) (ts : List Turn) :
    e.play ts = { e with
      content := (lastWrite Turn.content? (e.succeeded ts)).getD e.content
      embeds := (lastWrite Turn.embeds? (e.succeeded ts)).getD e.embeds
      rows := (lastWrite Turn.rows? (e.succeeded ts)).getD e.rows
      files := e.files ++ (e.succeeded ts).filterMap Turn.upload?
      updated := fun key => (e.succeeded ts).any (Turn.marks key) || e.updated key } := by
  -- A turn that fails drops out on both sides; one that succeeds moves the start to `e.after t`.
  induction ts generalizing e with
  | nil => simp [play, succeeded, lastWrite]
  | cons t ts ih =>
    cases outcome : (e.step t.fs t.step).result with
    | error err =>
      obtain ⟨kept, dropped⟩ := play_of_error outcome ts
      rw [kept, dropped, ih]
    | ok e' =>
      obtain ⟨moved, listed⟩ := play_of_ok outcome ts
      obtain rfl := step_eq_after outcome
      simp only [moved, ih, listed, lastWrite_cons, List.filterMap_cons, List.any_cons]
      cases upload : t.upload? <;>
        simp [after, upload, Option.getD_or, Bool.or_assoc, Bool.or_left_comm]

-- ---------------------------------------------------------------------------
-- Marks
-- ---------------------------------------------------------------------------

section
variable {t : Turn} {e' : MessageEdit}

theorem content?_isSome (h : (step t.fs e t.step).result = .ok e') :
    t.content?.isSome = t.marks "content" := by
  obtain ⟨fs, s⟩ := t
  cases s with
  | copyFrom message =>
    obtain ⟨m, rfl, -⟩ := copyFrom_ok.mp h
    rfl
  | _ => rfl

theorem embeds?_isSome (h : (step t.fs e t.step).result = .ok e') :
    t.embeds?.isSome = t.marks "embeds" := by
  obtain ⟨fs, s⟩ := t
  cases s with
  | copyFrom message =>
    obtain ⟨m, rfl, -⟩ := copyFrom_ok.mp h
    rfl
  | _ => rfl

theorem rows?_isSome (h : (step t.fs e t.step).result = .ok e') :
    t.rows?.isSome = t.marks "components" := by
  obtain ⟨fs, s⟩ := t
  cases s with
  | copyFrom message =>
    obtain ⟨m, rfl, -⟩ := copyFrom_ok.mp h
    rfl
  | _ => rfl

theorem upload?_isSome (h : (step t.fs e t.step).result = .ok e') :
    t.upload?.isSome = t.marks "files" := by
  rw [step_upload h]
  obtain ⟨fs, s⟩ := t
  cases s <;> rfl

end

end BotPayload.MessageEdit
