import BotPayload.Proofs.Row.Reachable
import BotPayload.Proofs.Row.RoundTrip
import BotPayload.Proofs.View.Placement

/-!
# A view shows its rows as their payloads do

A row is sent in two ways: as a payload of its own, and as a component of a view. `ofRows_shows`:
the view of at most five rows of known styles exists, holds the buttons in their order and rows,
and is laid out as the payloads of the rows, in which only empty labels are written out.
-/

namespace BotPayload

def isEmptyLabel : String × Value → Bool
  | (key, .str s) => key == "label" && s == ""
  | _ => false

/-- The same members in some order, each key once; an empty label is left out. -/
def SameButton (component payload : Value) : Prop :=
  ∃ ms ns, component = .object ms ∧ payload = .object ns ∧ (ns.map Prod.fst).Nodup ∧
    ms.Perm (ns.filter fun m => !isEmptyLabel m)

def SameRow (component payload : Value) : Prop :=
  ∃ cs ps, component = ActionRow.body cs ∧ payload = ActionRow.body ps ∧
    List.Forall₂ SameButton cs ps

-- ---------------------------------------------------------------------------
-- Widgets
-- ---------------------------------------------------------------------------

theorem Widget.component_showing (place : Nat) {b : Button} (known : b.style ≠ .unknown) :
    SameButton (showing place b).component b.body := by
  have shown := Style.code_shown known
  obtain ⟨identity, label, style, emoji, disabled, code⟩ := b
  refine ⟨_, _, rfl, rfl, ?_, ?_⟩
  · cases identity <;> cases emoji <;> simp
  · -- A label that is there stands behind the flag in one and before it in the other.
    by_cases empty : label = ""
    · cases identity <;> cases emoji <;>
        simp [showing, shown, member, isEmptyLabel, empty, Button.id?, Button.url?, Emoji.encode]
    · cases identity <;> cases emoji <;>
        simp [showing, shown, member, isEmptyLabel, empty, Button.id?, Button.url?, Emoji.encode,
          List.Perm.swap]

theorem Widget.isPersistent_showing {b : Button} (h : b.Settled) :
    (showing place b).isPersistent = true := by
  have pairing := h.valid.pairing h.known
  obtain ⟨identity, label, style, emoji, disabled, code⟩ := b
  cases identity with
  | customId id =>
    have other : style ≠ .link := by simpa [Identity.isUrl] using pairing
    have shown : style.shown ≠ .link := mt Style.shown_link.mp other
    simp [isPersistent, showing, shown, Button.id?]
  | url address =>
    have link : style = .link := by simpa [Identity.isUrl] using pairing
    have shown : style.shown = .link := Style.shown_link.mpr link
    simp [isPersistent, showing, shown, Button.url?]

namespace View

-- ---------------------------------------------------------------------------
-- Layout
-- ---------------------------------------------------------------------------

theorem widgets_placements (rows : List ActionRow) (place : Nat) :
    (placements place rows).map Prod.snd =
      (rows.mapIdx fun i r => r.buttons.map (Widget.showing (place + i))).flatten := by
  induction rows generalizing place with
  | nil => rfl
  | cons r rs ih =>
    simp only [placements, List.map_append, ih, List.mapIdx_cons, List.flatten_cons,
      rowPlacements, List.map_map, Nat.add_zero]
    congr 3
    funext i r
    rw [Nat.add_right_comm, Nat.add_assoc]

theorem rowWidgets_here (timeout : Option Nat) (r : ActionRow) (rs : List ActionRow) :
    rowWidgets ⟨timeout, placements place (r :: rs)⟩ place =
      r.buttons.map (Widget.showing place) := by
  have later : (placements (place + 1) rs).filter (fun p => p.1 == place) = [] := by
    rw [List.filter_eq_nil_iff]
    intro p hp
    have := le_of_mem_placements hp
    simp only [beq_iff_eq]
    omega
  simp [rowWidgets, placements, later, rowPlacements, List.filter_map, Function.comp_def]

theorem rowWidgets_later (timeout : Option Nat) (r : ActionRow) (rs : List ActionRow)
    (h : place < row) :
    rowWidgets ⟨timeout, placements place (r :: rs)⟩ row =
      rowWidgets ⟨timeout, placements (place + 1) rs⟩ row := by
  have here : (rowPlacements place r.buttons).filter (fun p => p.1 == row) = [] := by
    rw [List.filter_eq_nil_iff]
    intro p hp
    obtain ⟨b, -, rfl⟩ := List.mem_map.mp hp
    simp only [beq_iff_eq]
    omega
  simp [rowWidgets, placements, here]

def rowComponent (ws : List Widget) : Option Value :=
  if ws.isEmpty then none else some (ActionRow.body (ws.map Widget.component))

theorem filterMap_rowComponent {rows : List ActionRow} (timeout : Option Nat) (place : Nat)
    (fit : rows.length ≤ n) (nonempty : ∀ r ∈ rows, r.buttons ≠ []) :
    ((List.range' place n).map (rowWidgets ⟨timeout, placements place rows⟩)).filterMap
        rowComponent =
      rows.mapIdx fun i r =>
        ActionRow.body (r.buttons.map fun b => (Widget.showing (place + i) b).component) := by
  induction rows generalizing place n with
  | nil =>
    rw [List.mapIdx_nil, List.filterMap_eq_nil_iff]
    intro ws h
    obtain ⟨row, -, rfl⟩ := List.mem_map.mp h
    rfl
  | cons r rs ih =>
    obtain ⟨first, others⟩ := List.forall_mem_cons.mp nonempty
    obtain ⟨m, rfl⟩ : ∃ m, n = m + 1 := Nat.exists_eq_add_one.mpr (by simp at fit; omega)
    have shown : rowComponent (r.buttons.map (Widget.showing place)) =
        some (ActionRow.body (r.buttons.map fun b => (Widget.showing place b).component)) := by
      simp [rowComponent, first, Function.comp_def]
    have rest : (List.range' (place + 1) m).map (rowWidgets ⟨timeout, placements place (r :: rs)⟩) =
        (List.range' (place + 1) m).map (rowWidgets ⟨timeout, placements (place + 1) rs⟩) := by
      refine List.map_congr_left fun row h => rowWidgets_later timeout r rs ?_
      have := (List.mem_range'_1.mp h).1
      omega
    rw [List.range'_succ, List.map_cons, rowWidgets_here, List.filterMap_cons_some shown, rest,
      ih (place + 1) (by simpa using fit) others, List.mapIdx_cons]
    simp only [Nat.add_zero, Nat.add_assoc, Nat.add_comm 1]

theorem components_placements {rows : List ActionRow} (timeout : Option Nat)
    (fit : rows.length ≤ maxRows) (nonempty : ∀ r ∈ rows, r.buttons ≠ []) :
    components ⟨timeout, placements 0 rows⟩ =
      rows.mapIdx fun i r =>
        ActionRow.body (r.buttons.map fun b => (Widget.showing i b).component) := by
  have laid := filterMap_rowComponent timeout 0 fit nonempty
  simp only [Nat.zero_add, ← List.range_eq_range'] at laid
  exact laid

theorem sameRow_body (place : Nat) {bs : List Button} (known : ∀ b ∈ bs, b.style ≠ .unknown) :
    SameRow (ActionRow.body (bs.map fun b => (Widget.showing place b).component))
      (ActionRow.body (bs.map Button.body)) := by
  refine ⟨_, _, rfl, rfl, ?_⟩
  rw [List.forall₂_map_left_iff, List.forall₂_map_right_iff, List.forall₂_same]
  exact fun b mem => Widget.component_showing place (known b mem)

-- ---------------------------------------------------------------------------
-- Views
-- ---------------------------------------------------------------------------

/-- The view shows the rows: it never stops, its buttons go on working after a restart and stand in
their order, each in its row, and its components are the payloads of the rows. -/
structure Shows (v : View) (rows : List ActionRow) : Prop where
  timeout : v.timeout = none
  persistent : v.isPersistent = true
  widgets : v.widgets = (rows.mapIdx fun i r => r.buttons.map (Widget.showing i)).flatten
  components : ∃ payloads, rows.mapM ActionRow.encode = .ok payloads ∧
    List.Forall₂ SameRow v.components payloads

variable {rows : List ActionRow}

theorem Shows.ofPlacements (fit : rows.length ≤ maxRows) (h : ∀ r ∈ rows, r.Reachable)
    (known : ∀ r ∈ rows, ∀ b ∈ r.buttons, b.style ≠ .unknown) :
    Shows ⟨none, placements 0 rows⟩ rows where
  timeout := rfl
  persistent := by
    have all : ∀ w ∈ View.widgets ⟨none, placements 0 rows⟩, w.isPersistent = true := by
      intro w hw
      rw [View.widgets, widgets_placements] at hw
      obtain ⟨ws, hws, hw⟩ := List.mem_flatten.mp hw
      obtain ⟨i, hi, rfl⟩ := List.mem_mapIdx.mp hws
      obtain ⟨b, hb, rfl⟩ := List.mem_map.mp hw
      have mem := List.getElem_mem hi
      exact Widget.isPersistent_showing ((h _ mem).settled (known _ mem) b hb)
    simpa [isPersistent] using all
  widgets := by
    have shown := widgets_placements rows 0
    simp only [Nat.zero_add] at shown
    exact shown
  components := by
    have encoded : rows.mapM ActionRow.encode =
        .ok (rows.map fun r => ActionRow.body (r.buttons.map Button.body)) :=
      mapM_of_ok fun r hr => ActionRow.encode_ok.mpr ⟨known r hr, rfl⟩
    refine ⟨_, encoded, ?_⟩
    rw [components_placements none fit fun r hr => (h r hr).size.1, List.forall₂_map_right_iff,
      List.forall₂_iff_get]
    refine ⟨by simp, fun i h₁ h₂ => ?_⟩
    have held : rows[i] ∈ rows := List.getElem_mem _
    simpa using sameRow_body i (known _ held)

theorem ofRows_eq (fit : rows.length ≤ maxRows) (h : ∀ r ∈ rows, r.Reachable) (ne : rows ≠ []) :
    ofRows (rows.map .given) =
      if ∀ r ∈ rows, ∀ b ∈ r.buttons, b.style ≠ .unknown then .ok (some ⟨none, placements 0 rows⟩)
      else .error Widget.refusal := by
  have added := addRows_eq openFrom_empty (by simpa using fit) fun r hr => (h r hr).size.2
  have few : require ((rows.map Argument.given).length ≤ maxRows) "ActionRows"
      (.tooManyViewRows maxRows) = .ok () := by simpa [require_ok] using fit
  rw [ofRows, if_neg (by simpa using ne), few, added]
  split <;> rfl

theorem ofRows_tooMany (many : maxRows < rows.length) :
    ofRows (rows.map .given) = .error (.refused "ActionRows" (.tooManyViewRows maxRows)) := by
  have ne : rows ≠ [] := List.ne_nil_of_length_pos (by omega)
  have refused : require ((rows.map Argument.given).length ≤ maxRows) "ActionRows"
      (.tooManyViewRows maxRows) = .error (.refused "ActionRows" (.tooManyViewRows maxRows)) := by
    simp [require, many]
  rw [ofRows, if_neg (by simpa using ne), refused]
  rfl

/-- Rows have no view exactly when there are none of them. More than five rows are refused, and so
is a button of an unknown style; every other view exists and shows its rows. -/
theorem ofRows_shows (h : ∀ r ∈ rows, r.Reachable) :
    (ofRows (rows.map .given) = .ok none ↔ rows = []) ∧
    (5 < rows.length ∨ (∃ r ∈ rows, ∃ b ∈ r.buttons, b.style = .unknown) →
      ∃ err, ofRows (rows.map .given) = .error err ∧ err.kind = .argument) ∧
    (rows ≠ [] → rows.length ≤ 5 → (∀ r ∈ rows, ∀ b ∈ r.buttons, b.style ≠ .unknown) →
      ∃ v, ofRows (rows.map .given) = .ok (some v) ∧ v.Shows rows) := by
  refine ⟨⟨?_, ?_⟩, ?_, ?_⟩
  · intro none
    by_contra ne
    by_cases fit : rows.length ≤ maxRows
    · rw [ofRows_eq fit h ne] at none
      split at none <;> simp at none
    · simp [ofRows_tooMany (Nat.lt_of_not_le fit)] at none
  · rintro rfl
    rfl
  · rintro refused
    by_cases fit : rows.length ≤ maxRows
    · obtain many | ⟨r, hr, b, hb, unknown⟩ := refused
      · exact absurd fit (Nat.not_le_of_lt many)
      · have ne : rows ≠ [] := List.ne_nil_of_mem hr
        exact ⟨_, (ofRows_eq fit h ne).trans (if_neg fun known => known r hr b hb unknown), rfl⟩
    · exact ⟨_, ofRows_tooMany (Nat.lt_of_not_le fit), rfl⟩
  · intro ne fit known
    exact ⟨_, (ofRows_eq fit h ne).trans (if_pos known), .ofPlacements fit h known⟩

/-- A full view: five rows of five buttons, icons and links in turn. -/
theorem ofRows_shows_full :
    ∃ (icon link : Button) (rows : List ActionRow),
      icon = ⟨.customId "vote", "", .success, some ⟨"yes", some (.number 7), true⟩, true, none⟩ ∧
      link = ⟨.url "https://e.org", "Go", .link, none, false, none⟩ ∧
      rows = List.replicate 5 ⟨[icon, link, icon, link, icon]⟩ ∧ (∀ r ∈ rows, r.Reachable) ∧
      ∃ v, ofRows (rows.map .given) = .ok (some v) ∧ v.Shows rows := by
  have icon : Button.Reachable
      ⟨.customId "vote", "", .success, some ⟨"yes", some (.number 7), true⟩, true, none⟩ :=
    .create (o := .construct (.customId (some "vote")) (some "") (.given .success)
      (some ⟨"yes", some (.number 7), true⟩) true) rfl
  have link : Button.Reachable ⟨.url "https://e.org", "Go", .link, none, false, none⟩ :=
    .create (o := .link (some "https://e.org") (.text "Go")) rfl
  have built (a b : Button) :
      ActionRow.ofArguments ([a, b, a, b, a].map .given) = .ok ⟨[a, b, a, b, a]⟩ := rfl
  have row {a b : Button} (ha : a.Reachable) (hb : b.Reachable) :
      ActionRow.Reachable ⟨[a, b, a, b, a]⟩ := .collect (by simp [ha, hb]) (built a b)
  have rows : ∀ r ∈ List.replicate 5 (ActionRow.mk _), r.Reachable :=
    fun r hr => List.eq_of_mem_replicate hr ▸ row icon link
  refine ⟨_, _, _, rfl, rfl, rfl, rows, (ofRows_shows rows).2.2 nofun (by decide) ?_⟩
  intro r hr
  obtain rfl := List.eq_of_mem_replicate hr
  simp

end View

end BotPayload
