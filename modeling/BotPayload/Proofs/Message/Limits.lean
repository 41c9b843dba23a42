import BotPayload.Proofs.Message.History
import BotPayload.Proofs.Row.Reachable

/-!
# Limits of a message

Every step tests what it writes and keeps the rest, so that an edit keeps all limits after any
history of steps (`play_withinLimits`). The names of what is written are those that the successful
steps mark.
-/

namespace BotPayload.MessageEdit

/-- The edit keeps the limits of a message. Embeds and rows are such by their types. -/
structure WithinLimits (e : MessageEdit) : Prop where
  content : ∀ s, e.content = some s → s.length ≤ 2000
  embeds : e.embeds.length ≤ 10 ∧
    ∃ lengths, e.embeds.mapM Embed.length = .ok lengths ∧ Embed.total lengths ≤ 6000
  rows : e.rows.length ≤ 5 ∧ ∀ r ∈ e.rows, r.WellFormed
  files : e.files.length ≤ 10 ∧ ∀ f ∈ e.files, f.name ≠ ""

/-- What differs from a new edit is marked as written, and the files are exactly when there are
any. -/
structure Marked (e : MessageEdit) : Prop where
  content : e.content ≠ none → e.updated "content" = true
  embeds : e.embeds ≠ [] → e.updated "embeds" = true
  rows : e.rows ≠ [] → e.updated "components" = true
  files : e.updated "files" = true ↔ e.files ≠ []

structure Addresses (e : MessageEdit) (application : Parameter) (token : Option Text)
    (message : Parameter) : Prop where
  application : e.applicationId = application ∧ e.applicationId ≠ .value .null
  token : some e.token = token ∧ e.token.isEmpty = false
  message : e.messageId = message ∧ Filled e.messageId

/-- The buttons and rows that a step takes are those that a program can hold. -/
def Step.Supplied : Step → Prop
  | .writeButtons buttons => ∀ b, .given b ∈ buttons → b.Reachable
  | .writeRows args => ∀ r, .given r ∈ Nested.flatten args → r.Reachable
  | .copyFrom (some m) => ∀ r, .row (.given r) ∈ m.components → r.Reachable
  | _ => True

-- ---------------------------------------------------------------------------
-- One step
-- ---------------------------------------------------------------------------

theorem rowOf?_reachable {c : MessageComponent} (h : rowOf? c = some r)
    (given : c = .row (.given r) → r.Reachable) : r.Reachable := by
  cases c with
  | row a =>
    cases a with
    | given r' =>
      obtain rfl := Option.some.inj h
      exact given rfl
    | _ => nomatch h
  | foreign payload =>
    unfold rowOf? at h
    split at h
    · rename_i o read
      rw [h] at read
      exact .decode read
    · nomatch h

variable {e e' : MessageEdit} {s : Step}

theorem step_withinLimits (h : e.WithinLimits) (supplied : s.Supplied)
    (stepped : (step fs e s).result = .ok e') : e'.WithinLimits := by
  obtain ⟨content, embeds, rows, files⟩ := h
  cases s with
  | writeContent text =>
    obtain ⟨short, rfl⟩ := writeContent_ok.mp stepped
    exact ⟨short, embeds, rows, files⟩
  | writeEmbeds args =>
    obtain ⟨es, lengths, -, few, counted, fits, rfl⟩ := writeEmbeds_ok.mp stepped
    exact ⟨content, ⟨few, lengths, counted, fits⟩, rows, files⟩
  | writeButtons buttons =>
    obtain ⟨r, row, rfl⟩ := writeButtons_ok.mp stepped
    have reachable := ActionRow.Reachable.collect supplied row
    exact ⟨content, embeds,
      ⟨by simp, List.forall_mem_singleton.mpr reachable.wellFormed⟩, files⟩
  | writeRows args =>
    obtain ⟨rs, given, few, rfl⟩ := writeRows_ok.mp stepped
    exact ⟨content, embeds,
      ⟨few, fun r hr => (supplied r (given ▸ List.mem_map_of_mem hr)).wellFormed⟩, files⟩
  | attach name source spoiler =>
    obtain ⟨file, origin, data, -, ne, room, -, rfl⟩ := attach_ok.mp stepped
    refine ⟨content, embeds, rows, ?_, ?_⟩
    · rw [List.length_append]
      exact room
    intro f hf
    rcases List.mem_append.mp hf with old | new
    · exact files.2 f old
    · obtain rfl := List.mem_singleton.mp new
      exact Attachment.uploadName_ne spoiler ne
  | copyFrom message =>
    obtain ⟨m, rfl, -, short, es, lengths, -, few, counted, fits, fit, rfl⟩ :=
      copyFrom_ok.mp stepped
    refine ⟨short, ⟨few, lengths, counted, fits⟩, ⟨fit, fun r hr => ?_⟩, files⟩
    -- A copied row is one that was handed over, or it was decoded.
    obtain ⟨c, hc, found⟩ := List.mem_filterMap.mp hr
    exact (rowOf?_reachable found fun same => supplied r (same ▸ hc)).wellFormed

theorem marked_getD {written : Option α} {start empty : α} {mark old : Bool}
    (same : written.isSome = mark) (marked : start ≠ empty → old = true)
    (differs : written.getD start ≠ empty) : (mark || old) = true := by
  cases written with
  | none => rw [marked differs, Bool.or_true]
  | some _ => rw [← same, Option.isSome_some, Bool.true_or]

theorem step_marked {t : Turn} (h : e.Marked) (stepped : (step t.fs e t.step).result = .ok e') :
    e'.Marked := by
  obtain rfl : e' = e.after t := step_eq_after stepped
  refine ⟨marked_getD (content?_isSome stepped) h.content,
    marked_getD (embeds?_isSome stepped) h.embeds, marked_getD (rows?_isSome stepped) h.rows, ?_⟩
  simp only [after, ← upload?_isSome stepped]
  cases t.upload? with
  | none => simpa using h.files
  | some u => simp

-- ---------------------------------------------------------------------------
-- Histories
-- ---------------------------------------------------------------------------

theorem play_withinLimits (h : e.WithinLimits) {ts : List Turn}
    (supplied : ∀ t ∈ ts, t.step.Supplied) : (e.play ts).WithinLimits :=
  play_keeps h fun t mem _ _ limits stepped => step_withinLimits limits (supplied t mem) stepped

theorem play_marked (h : e.Marked) (ts : List Turn) : (e.play ts).Marked :=
  play_keeps h fun _ _ _ _ marked stepped => step_marked marked stepped

variable {application message : Parameter} {token : Option Text}

theorem create_withinLimits (h : create application token message = .ok e) : e.WithinLimits := by
  obtain ⟨t, -, -, -, -, rfl⟩ := create_ok.mp h
  exact ⟨nofun, ⟨Nat.zero_le _, [], rfl, Nat.zero_le _⟩, ⟨Nat.zero_le _, nofun⟩,
    ⟨Nat.zero_le _, nofun⟩⟩

theorem create_marked (h : create application token message = .ok e) : e.Marked := by
  obtain ⟨t, -, -, -, -, rfl⟩ := create_ok.mp h
  exact ⟨fun differs => absurd rfl differs, fun differs => absurd rfl differs,
    fun differs => absurd rfl differs, nofun, fun differs => absurd rfl differs⟩

theorem play_addresses (h : create application token message = .ok e) (ts : List Turn) :
    (e.play ts).Addresses application token message := by
  obtain ⟨t, rfl, ne, present, named, rfl⟩ := create_ok.mp h
  rw [play_eq]
  exact ⟨⟨rfl, present⟩, ⟨rfl, ne⟩, ⟨rfl, named⟩⟩

/-- An edit keeps the limits of a message whatever is done to it, and it stays an edit of the
message that it was made for. Exactly what the successful steps mark is written; each file comes
from the step that attached it. -/
theorem play_keeps_limits (h : create application token message = .ok e) {ts : List Turn}
    (supplied : ∀ t ∈ ts, t.step.Supplied) :
    (e.play ts).WithinLimits ∧ (e.play ts).Addresses application token message ∧
      (e.play ts).Marked ∧
      (∀ key, (e.play ts).updated key = true ↔ ∃ t ∈ e.succeeded ts, key ∈ t.step.marks) ∧
      List.Forall₂ Turn.Attaches ((e.succeeded ts).filter Turn.attaches) (e.play ts).files := by
  have limits := play_withinLimits (create_withinLimits h) supplied
  have marked := play_marked (create_marked h) ts
  refine ⟨limits, play_addresses h ts, marked, ?_, ?_⟩
  · intro key
    obtain ⟨t, -, -, -, -, rfl⟩ := create_ok.mp h
    simp [play_eq, Turn.marks]
  · have attached := files_attached e ts
    obtain ⟨t, -, -, -, -, rfl⟩ := create_ok.mp h
    simpa [play_eq] using attached

/-- A spoiler is attached, no row is made of no buttons, and a row is copied from its payload. -/
theorem play_keeps_limits_spoiler :
    ∃ e ts, create (.value (.int 42)) (some "key") firstResponse = .ok e ∧
      ts = [Step.attach (.text "a.txt") (some (.bytes [1])) true, .writeButtons [],
        .copyFrom (some ⟨some "Hi", [], [.foreign (ActionRow.body [.object [("type", .int 2),
          ("style", .int 1), ("label", .str "Vote"), ("custom_id", .str "vote")]])]⟩)].map
        (Turn.mk (FileSystem.ofFiles [])) ∧
      (∀ t ∈ ts, t.step.Supplied) ∧ (e.play ts).files = [⟨"SPOILER_a.txt", [1]⟩] ∧
      (e.play ts).rows = [⟨[⟨.customId "vote", "Vote", .primary, none, false, none⟩]⟩] ∧
      (e.play ts).WithinLimits ∧
      (e.play ts).Addresses (.value (.int 42)) (some "key") firstResponse ∧
      (∀ key, (e.play ts).updated key = true ↔ ∃ t ∈ e.succeeded ts, key ∈ t.step.marks) := by
  have made : create (.value (.int 42)) (some "key") firstResponse =
      .ok { applicationId := .value (.int 42), token := "key", messageId := firstResponse } := rfl
  have supplied : ∀ t ∈ [Step.attach (.text "a.txt") (some (.bytes [1])) true, .writeButtons [],
      .copyFrom (some ⟨some "Hi", [], [.foreign (ActionRow.body [.object [("type", .int 2),
        ("style", .int 1), ("label", .str "Vote"), ("custom_id", .str "vote")]])]⟩)].map
        (Turn.mk (FileSystem.ofFiles [])), t.step.Supplied := by
    simp [Step.Supplied]
  obtain ⟨limits, addresses, -, marks, -⟩ := play_keeps_limits made supplied
  exact ⟨_, _, made, rfl, supplied, by rfl, by rfl, limits, addresses, marks⟩

end BotPayload.MessageEdit
