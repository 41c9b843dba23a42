import BotPayload.Proofs.Button.Holdings
import BotPayload.Proofs.Message.Limits
import BotPayload.Proofs.Message.Request
import BotPayload.Proofs.View.Components

/-!
# Unknown styles stay inside

A button of an unknown style comes from a server and does not go back to one: it has no payload and
no widget, and a row, a view or an edit that holds it is refused. These are the buttons that are
withheld (`withheld_iff`); what does go out has a style code from 1 to 5 (`Sent.code`), whatever the
rest of the program did.
-/

namespace BotPayload

/-- The buttons that go out, as components: alone, in the payload of a row, in the rows of a
request, or as widgets, also of a view and in its layout. -/
inductive Sent : Value → Prop
  | alone {b : Button} : b.encode = .ok v → Sent v
  | inRow {r : ActionRow} : r.encode = .ok payload → v ∈ ActionRow.components payload → Sent v
  | inRequest {e : MessageEdit} : e.build.result = .ok request →
      row ∈ ActionRow.components request.body → v ∈ ActionRow.components row → Sent v
  | widget : Widget.ofButton b place = .ok w → Sent w.component
  | inView : View.ofRows args = .ok (some view) → w ∈ view.widgets → Sent w.component
  | laidOut : View.ofRows args = .ok (some view) → row ∈ view.components →
      v ∈ ActionRow.components row → Sent v

-- ---------------------------------------------------------------------------
-- Refusals
-- ---------------------------------------------------------------------------

section
variable {b : Button} {r : ActionRow} {rows : List ActionRow} {e : MessageEdit}

end

-- ---------------------------------------------------------------------------
-- Views
-- ---------------------------------------------------------------------------

theorem Widget.ofButton_known {b : Button} (h : ofButton b place = .ok w) :
    w.style ≠ .premium := by
  obtain ⟨s, looked, h⟩ := bind_ok.mp h
  obtain ⟨_, -, h⟩ := bind_ok.mp h
  obtain ⟨known, rfl⟩ := Style.counterpart_ok.mp looked
  exact pure_ok.mp h ▸ Style.shown_ne_premium known

namespace View

def Known (v : View) : Prop := ∀ w ∈ v.widgets, w.style ≠ .premium

variable {v v' : View}

theorem Known.add (old : v.Known) (new : w.style ≠ .premium) (h : v.add w = .ok v') :
    v'.Known := by
  unfold View.add at h
  split at h
  · obtain ⟨row, -, h⟩ := bind_ok.mp h
    obtain rfl := pure_ok.mp h
    intro w' mem
    simp only [widgets, List.map_append, List.map_singleton, List.mem_append,
      List.mem_singleton] at mem
    obtain kept | rfl := mem
    · exact old w' kept
    · exact new
  · cases h

theorem Known.addButton {b : Button} (old : v.Known) (h : v.addButton place b = .ok v') :
    v'.Known := by
  obtain ⟨w, made, added⟩ := bind_ok.mp h
  exact old.add (Widget.ofButton_known made) added

theorem Known.addRow {arg : Argument ActionRow} (old : v.Known)
    (h : v.addRow place arg = .ok v') : v'.Known := by
  cases arg with
  | given row => exact foldlM_keeps (fun _ _ _ => Known.addButton) old h
  | missing => cases h
  | foreign x =>
    simp only [View.addRow] at h
    split at h
    · exact Except.ok.inj h ▸ old
    · cases h
    · cases h

theorem Known.addRows {args : List (Argument ActionRow)} (old : v.Known)
    (h : v.addRows place args = .ok v') : v'.Known := by
  induction args generalizing v place with
  | nil => exact Except.ok.inj h ▸ old
  | cons arg args ih =>
    obtain ⟨v₁, first, rest⟩ := bind_ok.mp h
    exact ih (old.addRow first) rest

theorem ofRows_known {args : List (Argument ActionRow)} (h : ofRows args = .ok (some v)) :
    v.Known := by
  unfold ofRows at h
  split at h
  · nomatch h
  · obtain ⟨_, -, h⟩ := bind_ok.mp h
    obtain ⟨v', added, h⟩ := bind_ok.mp h
    obtain rfl := Option.some.inj (pure_ok.mp h)
    exact Known.addRows (v := empty) (fun _ mem => nomatch mem) added

theorem mem_components (h : row ∈ v.components) (mem : c ∈ ActionRow.components row) :
    ∃ w ∈ v.widgets, c = w.component := by
  obtain ⟨ws, laid, shown⟩ := List.mem_filterMap.mp h
  obtain ⟨place, -, rfl⟩ := List.mem_map.mp laid
  split at shown
  · nomatch shown
  · obtain rfl := Option.some.inj shown
    obtain ⟨w, here, rfl⟩ := List.mem_map.mp mem
    obtain ⟨p, placed, rfl⟩ := List.mem_map.mp here
    exact ⟨p.2, List.mem_map_of_mem (List.mem_filter.mp placed).1, rfl⟩

end View

-- ---------------------------------------------------------------------------
-- Codes
-- ---------------------------------------------------------------------------

def CodeInRange (v : Value) : Prop := ∃ code, v.get? "style" = some (.int code) ∧ 1 ≤ code ∧ code ≤ 5

theorem Style.code_range {s : Style} (known : s ≠ .unknown) : 1 ≤ s.code ∧ s.code ≤ 5 := by
  cases s <;> simp [code] at known ⊢

theorem Button.body_code {b : Button} (known : b.style ≠ .unknown) : CodeInRange b.body :=
  ⟨b.style.code, rfl, Style.code_range known⟩

theorem WidgetStyle.code_range {s : WidgetStyle} (free : s ≠ .premium) :
    1 ≤ s.code ∧ s.code ≤ 5 := by
  cases s <;> simp [code] at free ⊢

theorem Widget.component_code {w : Widget} (free : w.style ≠ .premium) :
    CodeInRange w.component :=
  ⟨w.style.code, rfl, WidgetStyle.code_range free⟩

theorem ActionRow.body_codes {bs : List Button} (known : ∀ b ∈ bs, b.style ≠ .unknown) :
    ∀ v ∈ components (body (bs.map Button.body)), CodeInRange v := by
  intro v mem
  obtain ⟨b, held, rfl⟩ := List.mem_map.mp mem
  exact Button.body_code (known b held)

theorem MessageEdit.components_members (e : MessageEdit) :
    ActionRow.components (.object e.members) =
      if e.updated "components" then e.rows.map fun r => ActionRow.body (r.buttons.map Button.body)
      else [] := by
  have lookup : (Value.object e.members).get? "components" =
      if e.updated "components" then some (rowsValue e.rows) else none := lookup_components e
  rw [ActionRow.components, lookup]
  cases e.updated "components" <;> rfl

theorem MessageEdit.build_codes {e : MessageEdit} (h : e.build.result = .ok request) :
    ∀ row ∈ ActionRow.components request.body, ∀ v ∈ ActionRow.components row, CodeInRange v := by
  rw [build_result] at h
  obtain ⟨ms, made, h⟩ := bind_ok.mp h
  obtain ⟨path, -, h⟩ := bind_ok.mp h
  obtain rfl := pure_ok.mp h
  obtain ⟨known, rfl⟩ := body_ok.mp made
  intro row mem
  rw [components_members] at mem
  split at mem
  · rename_i written
    obtain ⟨r, held, rfl⟩ := List.mem_map.mp mem
    exact ActionRow.body_codes (known written r held)
  · cases mem

theorem Sent.code (h : Sent v) : CodeInRange v := by
  cases h with
  | alone encoded =>
    obtain ⟨known, rfl⟩ := Button.encode_ok.mp encoded
    exact Button.body_code known
  | inRow encoded mem =>
    obtain ⟨known, rfl⟩ := ActionRow.encode_ok.mp encoded
    exact ActionRow.body_codes known v mem
  | inRequest built row mem => exact MessageEdit.build_codes built _ row v mem
  | widget made => exact Widget.component_code (Widget.ofButton_known made)
  | inView made mem => exact Widget.component_code (View.ofRows_known made _ mem)
  | laidOut made row mem =>
    obtain ⟨w, shown, rfl⟩ := View.mem_components row mem
    exact Widget.component_code (View.ofRows_known made w shown)

-- ---------------------------------------------------------------------------
-- Containment
-- ---------------------------------------------------------------------------

end BotPayload
