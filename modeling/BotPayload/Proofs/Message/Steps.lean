import BotPayload.Message.Edit
import BotPayload.Proofs.Row.RoundTrip

/-!
# The steps of an edit

For each step a lemma `…_ok` says exactly when the step succeeds and which edit it yields.
-/

namespace BotPayload.MessageEdit

section
variable {e e' : MessageEdit} {applicationId messageId : Parameter} {token : Option Text}

structure Filled (p : Parameter) : Prop where
  writable : p.isWritable = true
  nonempty : p.shown.isEmpty = false

theorem create_ok :
    create applicationId token messageId = .ok e ↔
      ∃ t, token = some t ∧ t.isEmpty = false ∧ applicationId ≠ .value .null ∧ Filled messageId ∧
        e = { applicationId, token := t, messageId } := by
  simp only [create, bind_ok, Parameter.requirePresent_ok, present_ok, Parameter.write_ok,
    require_ok, pure_ok, Bool.not_eq_true']
  constructor
  · rintro ⟨_, present, t, given, _, ne, _, ⟨writable, rfl⟩, _, named, rfl⟩
    exact ⟨t, given, ne, present, ⟨writable, named⟩, rfl⟩
  · rintro ⟨t, given, ne, present, ⟨writable, named⟩, rfl⟩
    exact ⟨(), present, t, given, (), ne, _, ⟨writable, rfl⟩, (), named, rfl⟩

theorem mark_eq (e : MessageEdit) (field : String) :
    e.mark field = fun key => key = field || e.updated key := rfl

-- ---------------------------------------------------------------------------
-- Setters
-- ---------------------------------------------------------------------------

theorem writeContent_ok {content : Option String} :
    e.writeContent content = .ok e' ↔
      (∀ s, content = some s → s.length ≤ maxContentLength) ∧
        e' = { e with content, updated := e.mark "content" } := by
  cases content with
  | none =>
    have written : e.writeContent none =
        .ok { e with content := none, updated := e.mark "content" } := rfl
    rw [written]
    simp [eq_comm]
  | some s =>
    simp only [writeContent, bind_ok, withinLength_ok, pure_ok, Option.some.injEq, forall_eq']
    constructor
    · rintro ⟨_, short, rfl⟩
      exact ⟨short, rfl⟩
    · rintro ⟨short, rfl⟩
      exact ⟨(), short, rfl⟩

theorem writeEmbeds_ok {args : List (Nested Embed)} :
    e.writeEmbeds args = .ok e' ↔
      ∃ es lengths, Nested.flatten args = es.map .given ∧ es.length ≤ maxEmbeds ∧
        es.mapM Embed.length = .ok lengths ∧ Embed.total lengths ≤ maxEmbedsLength ∧
        e' = { e with embeds := es, updated := e.mark "embeds" } := by
  simp only [writeEmbeds, bind_ok, allGiven_ok, require_ok, pure_ok, decide_eq_true_eq]
  constructor
  · rintro ⟨es, given, _, few, lengths, counted, _, short, rfl⟩
    exact ⟨es, lengths, given, few, counted, short, rfl⟩
  · rintro ⟨es, lengths, given, few, counted, short, rfl⟩
    exact ⟨es, given, (), few, lengths, counted, (), short, rfl⟩

theorem writeRows_ok {args : List (Nested ActionRow)} :
    e.writeRows args = .ok e' ↔
      ∃ rs, Nested.flatten args = rs.map .given ∧ rs.length ≤ maxRows ∧
        e' = { e with rows := rs, updated := e.mark "components" } := by
  simp only [writeRows, bind_ok, allGiven_ok, require_ok, pure_ok, decide_eq_true_eq]
  constructor
  · rintro ⟨rs, given, _, few, rfl⟩
    exact ⟨rs, given, few, rfl⟩
  · rintro ⟨rs, given, few, rfl⟩
    exact ⟨rs, given, (), few, rfl⟩

theorem writeButtons_ok {buttons : List (Argument Button)} :
    e.writeButtons buttons = .ok e' ↔
      ∃ r, ActionRow.ofArguments buttons = .ok r ∧
        e' = { e with rows := [r], updated := e.mark "components" } := by
  simp only [writeButtons, bind_ok, writeRows_ok]
  constructor
  · rintro ⟨r, row, rs, given, _, rfl⟩
    match rs, given with
    | [_], rfl => exact ⟨r, row, rfl⟩
  · rintro ⟨r, row, rfl⟩
    exact ⟨r, row, [r], rfl, Nat.le_of_ble_eq_true rfl, rfl⟩

theorem attach_ok {source : Option FileSource} :
    e.attach fs name source spoiler = .ok e' ↔
      ∃ file origin data, Attachment.resolve name source = .ok (file, origin) ∧ file ≠ "" ∧
        e.files.length < maxFiles ∧ Attachment.readSource fs origin = .ok data ∧
        e' = { e with
          files := e.files ++ [⟨Attachment.uploadName spoiler file, data⟩]
          updated := e.mark "files" } := by
  simp only [attach, bind_ok, require_ok, pure_ok, decide_eq_true_eq]
  constructor
  · rintro ⟨⟨file, origin⟩, resolved, _, ne, _, few, data, read, rfl⟩
    exact ⟨file, origin, data, resolved, ne, few, read, rfl⟩
  · rintro ⟨file, origin, data, resolved, ne, few, read, rfl⟩
    exact ⟨(file, origin), resolved, (), ne, (), few, data, read, rfl⟩

end

-- ---------------------------------------------------------------------------
-- Copying
-- ---------------------------------------------------------------------------

def rowOf? (component : MessageComponent) : Option ActionRow :=
  match (componentRow component).result with
  | .ok row => row
  | .error _ => none

def Readable (components : List MessageComponent) : Prop :=
  ∀ component ∈ components, ∃ row, (componentRow component).result = .ok row

theorem componentRows_cons (component : MessageComponent) (rest : List MessageComponent) :
    (componentRows (component :: rest)).result = (do
      let row ← (componentRow component).result
      let rows ← (componentRows rest).result
      return row.toList ++ rows) := by
  rw [componentRows, Logged.result_bind]
  congr
  funext row
  cases row with
  | none =>
    simp only [Logged.result_bind, Logged.result_report]
    exact (bind_pure (componentRows rest).result).symm
  | some r => rw [Logged.result_bind]; rfl

theorem componentRows_ok {components : List MessageComponent} :
    (componentRows components).result = .ok rs ↔
      Readable components ∧ rs = components.filterMap rowOf? := by
  induction components generalizing rs with
  | nil => simp [componentRows, Readable, Logged.ok, eq_comm]
  | cons component components ih =>
    simp only [componentRows_cons, bind_ok, pure_ok, ih, Readable, List.forall_mem_cons]
    constructor
    · rintro ⟨row, found, _, ⟨others, rfl⟩, rfl⟩
      refine ⟨⟨⟨row, found⟩, others⟩, ?_⟩
      cases row <;> simp [rowOf?, found]
    · rintro ⟨⟨⟨row, found⟩, others⟩, rfl⟩
      refine ⟨row, found, _, ⟨others, rfl⟩, ?_⟩
      cases row <;> simp [rowOf?, found]

theorem copyFrom_ok {e e' : MessageEdit} {message : Option Message} :
    (e.copyFrom message).result = .ok e' ↔
      ∃ m, message = some m ∧ Readable m.components ∧
        (∀ s, m.content = some s → s.length ≤ maxContentLength) ∧
        ∃ es lengths, m.embeds = es.map .given ∧ es.length ≤ maxEmbeds ∧
          es.mapM Embed.length = .ok lengths ∧ Embed.total lengths ≤ maxEmbedsLength ∧
          (m.components.filterMap rowOf?).length ≤ maxRows ∧
          e' = { e with
            content := m.content
            embeds := es
            rows := m.components.filterMap rowOf?
            updated := fun key => key = "components" || (key = "embeds" ||
              (key = "content" || e.updated key)) } := by
  simp only [copyFrom, Logged.result_bind, Logged.result_lift, bind_ok, present_ok,
    componentRows_ok, writeContent_ok, writeEmbeds_ok, writeRows_ok, Nested.flatten]
  constructor
  · rintro ⟨m, given, _, ⟨readable, rfl⟩, _, ⟨short, rfl⟩, _, ⟨es, lengths, embeds, few, counted,
      total, rfl⟩, rs, rows, fit, rfl⟩
    obtain rfl := map_given_inj.mp rows
    exact ⟨m, given, readable, short, es, lengths, embeds, few, counted, total, fit, rfl⟩
  · rintro ⟨m, given, readable, short, es, lengths, embeds, few, counted, total, fit, rfl⟩
    exact ⟨m, given, _, ⟨readable, rfl⟩, _, ⟨short, rfl⟩, _, ⟨es, lengths, embeds, few, counted,
      total, rfl⟩, _, rfl, fit, rfl⟩

end BotPayload.MessageEdit
