import BotPayload.Proofs.Message.Steps
import BotPayload.Proofs.Row.Reachable

/-!
# Copying a message

The components of a message are rows, or they tell their payloads; a payload may hold components
that are no buttons, and some hold nothing else. `Presents` says which rows a message presents in
this way; copying it is writing its content, its embeds and these rows (`copyFrom_presented`).
-/

namespace BotPayload

/-- The list `bs` is `as` with items of one kind put in anywhere. -/
inductive Interspersed (Extra : α → Prop) : List α → List α → Prop
  | nil : Interspersed Extra [] []
  | keep : Interspersed Extra as bs → Interspersed Extra (a :: as) (a :: bs)
  | insert : Extra b → Interspersed Extra as bs → Interspersed Extra as (b :: bs)

namespace Interspersed

variable {Extra : α → Prop} {as bs : List α}

theorem filter {p : α → Bool} (h : Interspersed Extra as bs)
    (dropped : ∀ b, Extra b → p b = false) : bs.filter p = as.filter p := by
  induction h with
  | nil => rfl
  | keep _ ih => rw [List.filter_cons, List.filter_cons, ih]
  | insert extra _ ih => rw [List.filter_cons_of_neg (by simp [dropped _ extra]), ih]

theorem forall_mem {P : α → Prop} (h : Interspersed Extra as bs) (old : ∀ a ∈ as, P a)
    (new : ∀ b, Extra b → P b) : ∀ b ∈ bs, P b := by
  induction h with
  | nil => exact old
  | keep _ ih =>
    obtain ⟨first, others⟩ := List.forall_mem_cons.mp old
    exact List.forall_mem_cons.mpr ⟨first, ih others⟩
  | insert extra _ ih => exact List.forall_mem_cons.mpr ⟨new _ extra, ih old⟩

end Interspersed

namespace MessageEdit

def Other (v : Value) : Prop := (∃ ms, v = .object ms) ∧ ActionRow.isButton v = false

/-- A component presents a row: it is the row, or its payload is that of the row, other objects put
in between the buttons. -/
inductive PresentsRow (r : ActionRow) : MessageComponent → Prop
  | native : PresentsRow r (.row (.given r))
  | foreign : r.encode = .ok (ActionRow.body payloads) → Interspersed Other payloads children →
      PresentsRow r (.foreign (ActionRow.body children))

inductive Buttonless : MessageComponent → Prop
  | intro : v.get? "type" = some t → t.whole? = some 1 →
      v.get? "components" = some (.list children) → (∀ child ∈ children, Other child) →
      Buttonless (.foreign v)

/-- The components present the rows, in their order, with rows without buttons anywhere between
them. -/
inductive Presents : List ActionRow → List MessageComponent → Prop
  | nil : Presents [] []
  | row : PresentsRow r c → Presents rs cs → Presents (r :: rs) (c :: cs)
  | dropped : Buttonless c → Presents rs cs → Presents rs (c :: cs)

-- ---------------------------------------------------------------------------
-- Reading the components
-- ---------------------------------------------------------------------------

variable {r : ActionRow} {c : MessageComponent}

theorem PresentsRow.read (h : PresentsRow r c) (reachable : r.Reachable) :
    (componentRow c).result = .ok (some r) := by
  cases h with
  | native => rfl
  | @foreign payloads children encoded mixed =>
    obtain ⟨known, same⟩ := ActionRow.encode_ok.mp encoded
    obtain rfl : payloads = r.buttons.map Button.body := by simpa [ActionRow.body] using same
    -- The schema asks objects of all children; the decoder takes up only those of the payloads.
    refine ActionRow.decode_some.mpr ⟨ActionRow.schema_faults.mpr ?_, ?_, reachable.size⟩
    · refine ⟨⟨_, rfl, rfl⟩, children, rfl, mixed.forall_mem ?_ fun _ other => other.1⟩
      intro p hp
      obtain ⟨b, -, rfl⟩ := List.mem_map.mp hp
      exact ⟨_, rfl⟩
    · have kept : (ActionRow.components (ActionRow.body children)).filter ActionRow.isButton =
          r.buttons.map Button.body :=
        (mixed.filter fun _ other => other.2).trans (ActionRow.filter_isButton_bodies r.buttons)
      rw [kept]
      exact ActionRow.decode_bodies (reachable.settled known)

theorem Buttonless.read (h : Buttonless c) : (componentRow c).result = .ok none := by
  cases h with
  | @intro _ children v type one listed others =>
    have children_eq : ActionRow.components v = children := by rw [ActionRow.components, listed]
    refine ActionRow.decode_none.mpr ⟨ActionRow.schema_faults.mpr ?_, ?_⟩
    · exact ⟨⟨_, type, one⟩, children, listed, fun child hc => (others child hc).1⟩
    · rw [children_eq, List.filter_eq_nil_iff]
      exact fun child hc => by simp [(others child hc).2]

/-- The rows that components present are read from them, and nothing else is. -/
theorem Presents.read (h : Presents rs cs) (reachable : ∀ r ∈ rs, r.Reachable) :
    (componentRows cs).result = .ok rs := by
  induction h with
  | nil => rfl
  | row presents _ ih =>
    obtain ⟨first, others⟩ := List.forall_mem_cons.mp reachable
    rw [componentRows_cons, presents.read first, ih others]
    rfl
  | dropped buttonless _ ih =>
    rw [componentRows_cons, buttonless.read, ih reachable]
    rfl

-- ---------------------------------------------------------------------------
-- Copying
-- ---------------------------------------------------------------------------

theorem copyFrom_result (e : MessageEdit) (m : Message) :
    (e.copyFrom (some m)).result = (do
      let rs ← (componentRows m.components).result
      let e ← e.writeContent m.content
      let e ← e.writeEmbeds [.many m.embeds]
      e.writeRows [.many (rs.map .given)]) := by
  simp only [copyFrom, Logged.result_bind, Logged.result_lift]
  rfl

theorem copyFrom_again {e e' : MessageEdit} {m : Option Message}
    (h : (e.copyFrom m).result = .ok e') : (e'.copyFrom m).result = .ok e' := by
  obtain ⟨m, rfl, readable, short, es, lengths, embeds, few, counted, total, fit, rfl⟩ :=
    copyFrom_ok.mp h
  have marked (a b c d : Bool) :
      (a || (b || (c || d))) = (a || (b || (c || (a || (b || (c || d)))))) := by
    cases a <;> cases b <;> cases c <;> rfl
  exact copyFrom_ok.mpr ⟨m, rfl, readable, short, es, lengths, embeds, few, counted, total, fit,
    congrArg (MessageEdit.mk _ _ _ _ _ _ _) (funext fun _ => marked ..)⟩

/-- Copying a message is writing its content, its embeds and the rows that it presents: it ends in
the same edit, or in the same error. That edit holds just these three; its files and the addressed
message are kept, and copying the message again changes nothing. -/
theorem copyFrom_presented {rs : List ActionRow} {cs : List MessageComponent}
    (reachable : ∀ r ∈ rs, r.Reachable) (h : Presents rs cs) (e : MessageEdit)
    (content : Option String) (embeds : List (Argument Embed)) :
    (e.copyFrom (some ⟨content, embeds, cs⟩)).result = (do
      let e ← e.writeContent content
      let e ← e.writeEmbeds [.many embeds]
      e.writeRows [.many (rs.map .given)]) ∧
    ∀ e', (e.copyFrom (some ⟨content, embeds, cs⟩)).result = .ok e' →
      e'.content = content ∧ e'.embeds.map .given = embeds ∧ e'.rows = rs ∧
        e'.files = e.files ∧ e'.applicationId = e.applicationId ∧ e'.token = e.token ∧
        e'.messageId = e.messageId ∧ (e'.copyFrom (some ⟨content, embeds, cs⟩)).result = .ok e' := by
  have read := h.read reachable
  constructor
  · rw [copyFrom_result, read]
    rfl
  · intro e' copied
    have again := copyFrom_again copied
    obtain ⟨m, given, -, -, es, _, listed, -, -, -, -, rfl⟩ := copyFrom_ok.mp copied
    obtain rfl := Option.some.inj given
    exact ⟨rfl, listed.symm, (componentRows_ok.mp read).2.symm, rfl, rfl, rfl, rfl, again⟩

/-- Seven components, among them a row with a menu beside its button and two with nothing but a
menu, are five rows. -/
theorem copyFrom_presented_menus :
    ∃ (r : ActionRow) (menu : Value) (cs : List MessageComponent) (e e' : MessageEdit),
      r = ⟨[⟨.customId "vote", "Vote", .primary, none, false, none⟩]⟩ ∧
      menu = .object [("type", .int 3)] ∧
      cs = [.foreign (ActionRow.body [menu]),
        .foreign (ActionRow.body [menu, .object [("type", .int 2), ("style", .int 1),
          ("label", .str "Vote"), ("disabled", .bool false), ("custom_id", .str "vote")]]),
        .row (.given r), .row (.given r), .row (.given r), .foreign (ActionRow.body [menu]),
        .row (.given r)] ∧
      r.Reachable ∧ Presents (List.replicate 5 r) cs ∧
      (e.copyFrom (some ⟨some "Hi", [], cs⟩)).result = .ok e' ∧
      e'.content = some "Hi" ∧ e'.rows = List.replicate 5 r ∧ e'.files = e.files ∧
      (e'.copyFrom (some ⟨some "Hi", [], cs⟩)).result = .ok e' := by
  have made : (Button.Origin.construct (.customId (some "vote")) (some "Vote") (.given .primary)
      none false).create = .ok ⟨.customId "vote", "Vote", .primary, none, false, none⟩ := rfl
  have built (b : Button) : ActionRow.ofArguments [.given b] = .ok ⟨[b]⟩ := rfl
  have reachable :
      ActionRow.Reachable ⟨[⟨.customId "vote", "Vote", .primary, none, false, none⟩]⟩ :=
    .collect (by simpa using Button.Reachable.create made) (built _)
  have menu : Other (.object [("type", .int 3)]) := ⟨⟨_, rfl⟩, rfl⟩
  have menus : Buttonless (.foreign (ActionRow.body [.object [("type", .int 3)]])) :=
    .intro rfl rfl rfl (List.forall_mem_singleton.mpr menu)
  have presents : Presents (List.replicate 5
      ⟨[⟨.customId "vote", "Vote", .primary, none, false, none⟩]⟩) _ :=
    .dropped menus (.row (.foreign rfl (.insert menu (.keep .nil))) (.row .native (.row .native
      (.row .native (.dropped menus (.row .native .nil))))))
  obtain ⟨same, kept⟩ := copyFrom_presented (fun r hr => List.eq_of_mem_replicate hr ▸ reachable)
    presents { applicationId := .value (.int 1), token := "t", messageId := firstResponse }
    (some "Hi") []
  obtain ⟨content, -, rows, files, -, -, -, again⟩ := kept _ same
  exact ⟨_, _, _, _, _, rfl, rfl, rfl, reachable, presents, same, content, rows, files, again⟩

end MessageEdit

end BotPayload
