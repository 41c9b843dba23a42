import BotPayload.Proofs.Message.History

/-!
# The order of independent steps

Two steps depend on each other when they write a common field; two files do, as the second one goes
behind the first. How a step ends depends on what it is given and, for a file, on the files that are
there (`outcome_congr`). So the steps that mark a field end as they would without the others
(`succeeded_filter`), and an order of steps that keeps dependent ones in order changes nothing
(`run_reordered`).
-/

namespace BotPayload.MessageEdit

def outcome (fs : FileSystem) (e : MessageEdit) (s : Step) : Except Error Unit :=
  (fun _ => ()) <$> (step fs e s).result

/-- Two steps write a common field, or both attach files. -/
def Step.Dependent (s t : Step) : Prop := ∃ key, key ∈ s.marks ∧ key ∈ t.marks

-- ---------------------------------------------------------------------------
-- One step
-- ---------------------------------------------------------------------------

section
variable {fs : FileSystem} {e e' m m' : MessageEdit} {s : Step} {t : Turn} {key : String}

def checkContent (content : Option String) : Except Error Unit :=
  match content with
  | some s => withinLength s maxContentLength "Content"
  | none => .ok ()

theorem writeContent_eq (e : MessageEdit) (content : Option String) :
    e.writeContent content = (do
      checkContent content
      return { e with content, updated := e.mark "content" }) := by
  cases content <;> rfl

theorem outcome_congr (h : "files" ∈ s.marks → e.files = e'.files) :
    outcome fs e s = outcome fs e' s := by
  cases s with
  | writeContent content =>
    simp only [outcome, step, Logged.result_lift, writeContent_eq, map_bind, map_pure]
  | writeEmbeds args =>
    simp only [outcome, step, Logged.result_lift, writeEmbeds, map_bind, map_pure]
  | writeRows args =>
    simp only [outcome, step, Logged.result_lift, writeRows, map_bind, map_pure]
  | writeButtons buttons =>
    simp only [outcome, step, Logged.result_lift, writeButtons, writeRows, map_bind, map_pure]
  | attach name source spoiler =>
    simp only [outcome, step, Logged.result_lift, attach, map_bind, map_pure,
      h List.mem_cons_self]
  | copyFrom message =>
    simp only [outcome, step, copyFrom, Logged.result_bind, Logged.result_lift, writeContent_eq,
      writeEmbeds, writeRows, map_bind, map_pure, bind_assoc, pure_bind]

theorem outcome_ok : outcome fs e s = .ok () ↔ ∃ m, (step fs e s).result = .ok m := by
  simp [outcome, map_ok]

theorem outcome_error : outcome fs e s = .error err ↔ (step fs e s).result = .error err := by
  rw [outcome]
  cases (step fs e s).result <;> simp [Functor.map, Except.map]

/-- Only files are added to, so no other field has a part in the fate of a file. -/
theorem Turn.marks_of_files (h : t.marks "files") (h' : t.marks key) : key = "files" := by
  obtain ⟨fs, s⟩ := t
  cases s <;> simp_all [marks, Step.marks]

theorem Turn.upload?_of_not_marks (h : ¬t.marks "files") : t.upload? = none := by
  obtain ⟨fs, s⟩ := t
  cases s <;> simp_all [marks, Step.marks, upload?]

theorem Turn.content?_of_not_marks (h : ¬t.marks "content") : t.content? = none := by
  obtain ⟨fs, s⟩ := t
  cases s <;> simp_all [marks, Step.marks, content?]

theorem Turn.embeds?_of_not_marks (h : ¬t.marks "embeds") : t.embeds? = none := by
  obtain ⟨fs, s⟩ := t
  cases s <;> simp_all [marks, Step.marks, embeds?]

theorem Turn.rows?_of_not_marks (h : ¬t.marks "components") : t.rows? = none := by
  obtain ⟨fs, s⟩ := t
  cases s <;> simp_all [marks, Step.marks, rows?]

end

-- ---------------------------------------------------------------------------
-- Histories
-- ---------------------------------------------------------------------------

/-- The turns that mark a field succeed as they do without the other turns. -/
theorem succeeded_filter {e e' : MessageEdit} (same : key = "files" → e.files = e'.files)
    (ts : List Turn) :
    (e.succeeded ts).filter (Turn.marks key) = e'.succeeded (ts.filter (Turn.marks key)) := by
  -- The two edits agree in their files where these count: a turn of the field adds the same to
  -- both, and another turn adds nothing if the field is the files.
  induction ts generalizing e e' with
  | nil => rfl
  | cons t ts ih =>
    by_cases marked : t.marks key
    · have ends : outcome t.fs e t.step = outcome t.fs e' t.step :=
        outcome_congr fun files => same (Turn.marks_of_files (decide_eq_true files) marked)
      rw [List.filter_cons_of_pos marked]
      cases result : (step t.fs e t.step).result with
      | ok m =>
        obtain ⟨m', result'⟩ := outcome_ok.mp (ends.symm.trans (outcome_ok.mpr ⟨m, result⟩))
        rw [(play_of_ok result ts).2, (play_of_ok result' _).2, List.filter_cons_of_pos marked]
        obtain rfl := step_eq_after result
        obtain rfl := step_eq_after result'
        have added (files : key = "files") : (e.after t).files = (e'.after t).files :=
          congrArg (· ++ t.upload?.toList) (same files)
        exact congrArg (t :: ·) (ih added)
      | error err =>
        have result' := outcome_error.mp (ends.symm.trans (outcome_error.mpr result))
        rw [(play_of_error result ts).2, (play_of_error result' _).2, ih same]
    · rw [List.filter_cons_of_neg marked]
      cases result : (step t.fs e t.step).result with
      | ok m =>
        rw [(play_of_ok result ts).2, List.filter_cons_of_neg marked]
        obtain rfl := step_eq_after result
        refine ih fun files => ?_
        rw [after, Turn.upload?_of_not_marks (files ▸ marked)]
        exact (List.append_nil _).trans (same files)
      | error err =>
        rw [(play_of_error result ts).2, ih same]

theorem filterMap_succeeded {write : Turn → Option α} (e : MessageEdit)
    (unwritten : ∀ t : Turn, ¬t.marks key → write t = none) (ts : List Turn) :
    (e.succeeded ts).filterMap write =
      (e.succeeded (ts.filter (Turn.marks key))).filterMap write := by
  rw [← succeeded_filter (fun _ => rfl) ts, List.filterMap_filter]
  refine List.filterMap_congr fun t _ => ?_
  by_cases marked : t.marks key
  · rw [if_pos marked]
  · rw [if_neg marked, unwritten t marked]

theorem any_succeeded (e : MessageEdit) (ts : List Turn) :
    (e.succeeded ts).any (Turn.marks key) =
      (e.succeeded (ts.filter (Turn.marks key))).any (Turn.marks key) := by
  rw [← succeeded_filter (fun _ => rfl) ts, List.any_filter]
  simp only [Bool.and_self]

/-- Two histories in which the turns of each field are the same end in the same edit. -/
theorem play_congr {ts us : List Turn}
    (same : ∀ key, ts.filter (Turn.marks key) = us.filter (Turn.marks key)) (e : MessageEdit) :
    e.play ts = e.play us := by
  have written {key : String} {α : Type} {write : Turn → Option α}
      (unwritten : ∀ t : Turn, ¬t.marks key → write t = none) :
      (e.succeeded ts).filterMap write = (e.succeeded us).filterMap write := by
    rw [filterMap_succeeded e unwritten, same, ← filterMap_succeeded e unwritten]
  have marked (key : String) :
      (e.succeeded ts).any (Turn.marks key) = (e.succeeded us).any (Turn.marks key) := by
    rw [any_succeeded, same, ← any_succeeded]
  simp only [play_eq, lastWrite, marked,
    written fun _ => Turn.content?_of_not_marks, written fun _ => Turn.embeds?_of_not_marks,
    written fun _ => Turn.rows?_of_not_marks, written fun _ => Turn.upload?_of_not_marks]

theorem files_play_congr {ts us : List Turn}
    (same : ts.filter (Turn.marks "files") = us.filter (Turn.marks "files")) (e : MessageEdit) :
    (e.play ts).files = (e.play us).files := by
  rw [play_eq, play_eq, filterMap_succeeded e (fun _ => Turn.upload?_of_not_marks) ts, same,
    ← filterMap_succeeded e fun _ => Turn.upload?_of_not_marks]

-- ---------------------------------------------------------------------------
-- Reorderings
-- ---------------------------------------------------------------------------

/-- In an order of steps that keeps dependent ones in order, each step ends as before, and the edits
and the requests built of them are the same. A step that fails changes nothing. -/
theorem run_reordered (fs : FileSystem) (e : MessageEdit) {ss ts : List Step}
    (r : Reordering Step.Dependent ss ts) :
    (∀ i, outcome fs (run fs e (ts.take (r.place i))) ts[r.place i] =
      outcome fs (run fs e (ss.take i)) ss[i]) ∧
    run fs e ts = run fs e ss ∧ (run fs e ts).build = (run fs e ss).build ∧
    ∀ (e : MessageEdit) (s : Step) (err : Error), (step fs e s).result = .error err →
      stepOrKeep fs e s = e := by
  have dependent (key : String) (s t : Step) (hs : decide (key ∈ s.marks))
      (ht : decide (key ∈ t.marks)) : s.Dependent t :=
    ⟨key, of_decide_eq_true hs, of_decide_eq_true ht⟩
  have turns (key : String) (ss : List Step) : (ss.map (Turn.mk fs)).filter (Turn.marks key) =
      (ss.filter fun s => decide (key ∈ s.marks)).map (Turn.mk fs) := List.filter_map ..
  have final : run fs e ts = run fs e ss := by
    rw [run_eq_play, run_eq_play]
    refine play_congr (fun key => ?_) e
    rw [turns, turns, r.filter_eq (dependent key)]
  refine ⟨fun i => ?_, final, congrArg build final, ?_⟩
  · rw [r.moved]
    refine outcome_congr fun files => ?_
    rw [run_eq_play, run_eq_play]
    refine files_play_congr ?_ e
    rw [turns, turns, r.filter_take_eq (dependent "files") (decide_eq_true files)]
  · intro e s err failed
    rw [stepOrKeep, failed]

/-- A content is written before or after a file; the file that comes next is missing in both
orders. -/
theorem run_reordered_missing :
    ∃ (fs : FileSystem) (e : MessageEdit) (content file missing : Step),
      content = .writeContent (some "Hi") ∧
      file = .attach (.text "a.txt") (some (.bytes [1])) true ∧
      missing = .attach (.text "b.txt") none false ∧
      outcome fs (run fs e [content, file]) missing =
        .error (.refused "File" (.fileNotFound "b.txt")) ∧
      outcome fs (run fs e [file, content]) missing =
        .error (.refused "File" (.fileNotFound "b.txt")) ∧
      (run fs e [file, content, missing]).files = [⟨"SPOILER_a.txt", [1]⟩] ∧
      run fs e [content, file, missing] = run fs e [file, content, missing] ∧
      (run fs e [content, file, missing]).build = (run fs e [file, content, missing]).build := by
  have independent : ¬Step.Dependent (.attach (.text "a.txt") (some (.bytes [1])) true)
      (.writeContent (some "Hi")) := by
    simp [Step.Dependent, Step.marks]
  obtain ⟨ends, same, request, -⟩ := run_reordered (FileSystem.ofFiles [])
    { applicationId := .value (.int 42), token := "key", messageId := firstResponse }
    (.swap independent [.attach (.text "b.txt") none false])
  exact ⟨_, _, _, _, _, rfl, rfl, rfl, (ends ⟨2, by decide⟩).trans rfl, rfl, rfl, same, request⟩

end BotPayload.MessageEdit
