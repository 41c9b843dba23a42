import BotPayload.View

/-!
# Adding rows to a view

Rows of at most five buttons fit into a view one after the other: no row of the view and not the
view itself overflows. What is left to fail is a style that the user interface does not know.
-/

namespace BotPayload

/-- The style of a widget that shows the style; no widget shows an unknown one. -/
def Style.shown (s : Style) : WidgetStyle := (counterparts.lookup s).getD .premium

def Widget.showing (place : Nat) (b : Button) : Widget where
  style := b.style.shown
  label := if b.label = "" then none else some b.label
  disabled := b.disabled
  customId := b.id?
  url := b.url?
  emoji := b.emoji
  row := some place

def Widget.refusal : Error := .refused "Style" (.noCounterpart "UNKNOWN")

theorem Widget.rowNumber_of_lt (h : place < maxRows) : rowNumber (some place) = .ok (some place) := by
  have low : (0 : Int) ≤ place := Int.natCast_nonneg place
  have high : (place : Int) < maxRows := Int.ofNat_lt.mpr h
  simp [rowNumber, low, high]

theorem Style.counterpart_ok {s : Style} {t : WidgetStyle} :
    s.counterpart = .ok t ↔ s ≠ .unknown ∧ t = s.shown := by
  cases s with
  | unknown => exact ⟨nofun, fun h => absurd rfl h.1⟩
  | _ => exact ⟨fun h => ⟨nofun, (Except.ok.inj h).symm⟩, fun h => congrArg _ h.2.symm⟩

theorem Style.code_shown {s : Style} (known : s ≠ .unknown) : s.shown.code = s.code := by
  cases s with
  | unknown => exact absurd rfl known
  | _ => rfl

theorem Style.shown_ne_premium {s : Style} (known : s ≠ .unknown) : s.shown ≠ .premium := by
  cases s with
  | unknown => exact absurd rfl known
  | _ => nofun

theorem Style.shown_link {s : Style} : s.shown = .link ↔ s = .link := by
  cases s <;> decide

/-- The style is looked up before the place, so that no place can be wrong first. -/
theorem Widget.ofButton_unknown {b : Button} (unknown : b.style = .unknown) (place : Option Int) :
    ofButton b place = .error refusal := by
  rw [ofButton, unknown]
  rfl

theorem Widget.ofButton_place {b : Button} (h : place < maxRows) :
    ofButton b (some place) =
      if b.style = .unknown then .error refusal else .ok (showing place b) := by
  by_cases unknown : b.style = .unknown
  · rw [if_pos unknown, ofButton_unknown unknown]
  · have counterpart : b.style.counterpart = .ok b.style.shown :=
      Style.counterpart_ok.mpr ⟨unknown, rfl⟩
    rw [if_neg unknown, ofButton, counterpart, rowNumber_of_lt h]
    rfl

namespace View

variable {v : View}

theorem add_asked {w : Widget} (asked : w.row = some row) (room : v.placed.length < maxWidgets)
    (fits : v.width row < maxWidth) :
    v.add w = .ok { v with placed := v.placed ++ [(row, w)] } := by
  have found : v.rowFor w = .ok row := by
    unfold rowFor
    rw [asked]
    exact if_pos fits
  rw [add, if_pos room, found]
  rfl

theorem width_append (v : View) (placed : List (Nat × Widget)) (row : Nat) :
    width { v with placed := v.placed ++ placed } row =
      v.width row + (placed.filter fun p => p.1 == row).length := by
  simp [width, rowWidgets]

theorem addButton_eq {b : Button} (h : place < maxRows) (room : v.placed.length < maxWidgets)
    (fits : v.width place < maxWidth) :
    v.addButton place b =
      if b.style = .unknown then .error Widget.refusal
      else .ok { v with placed := v.placed ++ [(place, Widget.showing place b)] } := by
  rw [addButton, Widget.ofButton_place h]
  by_cases unknown : b.style = .unknown
  · rw [if_pos unknown, if_pos unknown]
    rfl
  · rw [if_neg unknown, if_neg unknown]
    exact add_asked rfl room fits

def rowPlacements (place : Nat) (bs : List Button) : List (Nat × Widget) :=
  bs.map fun b => (place, Widget.showing place b)

theorem addRow_eq {r : ActionRow} (h : place < maxRows)
    (room : v.placed.length + r.buttons.length ≤ maxWidgets)
    (fits : v.width place + r.buttons.length ≤ maxWidth) :
    v.addRow place (.given r) =
      if ∀ b ∈ r.buttons, b.style ≠ .unknown then
        .ok { v with placed := v.placed ++ rowPlacements place r.buttons }
      else .error Widget.refusal := by
  obtain ⟨bs⟩ := r
  simp only [addRow] at *
  induction bs generalizing v with
  | nil => simp [rowPlacements, pure, Except.pure]
  | cons b bs ih =>
    rw [List.length_cons] at room fits
    rw [List.foldlM_cons, addButton_eq h (by omega) (by omega)]
    by_cases unknown : b.style = .unknown
    · have refused : ¬∀ c ∈ b :: bs, c.style ≠ .unknown :=
        fun known => known b List.mem_cons_self unknown
      rw [if_pos unknown, if_neg refused]
      rfl
    · rw [if_neg unknown]
      have widened := width_append v [(place, Widget.showing place b)] place
      simp only [List.filter_cons, beq_self_eq_true, ↓reduceIte, List.filter_nil,
        List.length_singleton] at widened
      refine (ih ?_ ?_).trans ?_
      · simp only [List.length_append, List.length_singleton]
        omega
      · omega
      · simp [rowPlacements, unknown]

/-- The buttons of rows, each in its row; the first row stands at `place`. -/
def placements (place : Nat) : List ActionRow → List (Nat × Widget)
  | [] => []
  | r :: rs => rowPlacements place r.buttons ++ placements (place + 1) rs

theorem le_of_mem_placements {rows : List ActionRow} {p : Nat × Widget}
    (h : p ∈ placements place rows) : place ≤ p.1 := by
  induction rows generalizing place with
  | nil => nomatch h
  | cons r rs ih =>
    rcases List.mem_append.mp h with here | later
    · obtain ⟨b, -, rfl⟩ := List.mem_map.mp here
      exact Nat.le_refl _
    · exact Nat.le_of_succ_le (ih later)

/-- Nothing stands yet in the rows from `place` on, and the rows before it are not overfull. -/
structure OpenFrom (v : View) (place : Nat) : Prop where
  below : ∀ p ∈ v.placed, p.1 < place
  count : v.placed.length ≤ maxWidth * place

theorem openFrom_empty : OpenFrom empty 0 where
  below := by simp [empty]
  count := by simp [empty]

theorem OpenFrom.width (h : v.OpenFrom place) : v.width place = 0 := by
  have none : v.placed.filter (fun p => p.1 == place) = [] := by
    rw [List.filter_eq_nil_iff]
    intro p hp
    have := h.below p hp
    simp only [beq_iff_eq]
    omega
  simp [View.width, rowWidgets, none]

theorem OpenFrom.next {bs : List Button} (h : v.OpenFrom place) (few : bs.length ≤ maxWidth) :
    OpenFrom { v with placed := v.placed ++ rowPlacements place bs } (place + 1) where
  below p hp := by
    rcases List.mem_append.mp hp with old | new
    · exact Nat.lt_succ_of_lt (h.below p old)
    · obtain ⟨b, -, rfl⟩ := List.mem_map.mp new
      exact Nat.lt_succ_self place
  count := by
    have := h.count
    simp only [List.length_append, rowPlacements, List.length_map, Nat.mul_succ]
    omega

theorem addRows_eq {rows : List ActionRow} (free : v.OpenFrom place)
    (fit : place + rows.length ≤ maxRows) (few : ∀ r ∈ rows, r.buttons.length ≤ maxWidth) :
    v.addRows place (rows.map .given) =
      if ∀ r ∈ rows, ∀ b ∈ r.buttons, b.style ≠ .unknown then
        .ok { v with placed := v.placed ++ placements place rows }
      else .error Widget.refusal := by
  -- The rows before `place` leave room for one more, so each row is added to a view that is open
  -- from its place on.
  induction rows generalizing v place with
  | nil => simp [addRows, placements]
  | cons r rs ih =>
    obtain ⟨first, others⟩ := List.forall_mem_cons.mp few
    rw [List.length_cons] at fit
    have here : place < maxRows := by omega
    have room : v.placed.length + r.buttons.length ≤ maxWidgets := by
      have := free.count
      simp only [maxWidth, maxRows, maxWidgets] at *
      omega
    rw [List.map_cons, addRows, addRow_eq here room (by rw [free.width]; omega)]
    by_cases known : ∀ b ∈ r.buttons, b.style ≠ .unknown
    · rw [if_pos known]
      refine (ih (free.next first) (by omega) others).trans ?_
      simp only [List.forall_mem_cons, and_iff_right known, placements, List.append_assoc]
    · have refused : ¬∀ r' ∈ r :: rs, ∀ b ∈ r'.buttons, b.style ≠ .unknown :=
        fun all => known (all r List.mem_cons_self)
      rw [if_neg known, if_neg refused]
      rfl

end View

end BotPayload
