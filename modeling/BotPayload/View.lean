import BotPayload.Row.Payload

/-!
Buttons and rows as the user interface holds them: a view is a list of widgets, each in its row,
and is laid out as components. Widgets are added one by one, as long as there is room for them.
-/

namespace BotPayload

def maxRows : Nat := 5

inductive WidgetStyle where
  | primary
  | secondary
  | success
  | danger
  | link
  | premium
deriving DecidableEq, Repr

namespace WidgetStyle

def code : WidgetStyle → Int
  | .primary => 1
  | .secondary => 2
  | .success => 3
  | .danger => 4
  | .link => 5
  | .premium => 6

def name : WidgetStyle → String
  | .primary => "primary"
  | .secondary => "secondary"
  | .success => "success"
  | .danger => "danger"
  | .link => "link"
  | .premium => "premium"

end WidgetStyle

namespace Style

def counterparts : List (Style × WidgetStyle) :=
  [(.primary, .primary), (.secondary, .secondary), (.success, .success), (.danger, .danger),
    (.link, .link)]

def counterpart (s : Style) : Except Error WidgetStyle :=
  match counterparts.lookup s with
  | some w => .ok w
  | none => .error (.refused "Style" (.noCounterpart s.name))

/-- The same for an argument: what is no style has no name. -/
def counterpartOf : Argument Style → Except Error WidgetStyle
  | .given s => s.counterpart
  | .missing => .error .noPart
  | .foreign (.list _) => .error .wrongKind
  | .foreign (.object _) => .error .wrongKind
  | .foreign _ => .error .noPart

end Style

structure Widget where
  style : WidgetStyle
  label : Option String
  disabled : Bool
  customId : Option String
  url : Option String
  emoji : Option Emoji
  row : Option Nat
deriving DecidableEq, Repr

namespace Widget

def rowNumber : Option Int → Except Error (Option Nat)
  | none => .ok none
  | some n =>
    if 0 ≤ n ∧ n < maxRows then .ok (some n.toNat) else .error (.viewRowOutOfRange maxRows)

def ofButton (b : Button) (row : Option Int) : Except Error Widget := do
  let style ← b.style.counterpart
  let row ← rowNumber row
  return {
    style, label := if b.label = "" then none else some b.label, disabled := b.disabled,
    customId := b.id?, url := b.url?, emoji := b.emoji, row }

def member (key : String) (v : Option Value) : Members :=
  match v with
  | some v => [(key, v)]
  | none => []

def component (w : Widget) : Value :=
  .object ([("type", .int Button.componentType), ("style", .int w.style.code),
    ("disabled", .bool w.disabled)] ++ member "label" (w.label.map .str)
    ++ member "custom_id" (w.customId.map .str) ++ member "url" (w.url.map .str)
    ++ member "emoji" (w.emoji.map Emoji.encode))

/-- Whether a widget goes on working after a restart: it opens a page or has a fixed id. -/
def isPersistent (w : Widget) : Bool :=
  if w.style = .link then w.url.isSome else w.customId.isSome

end Widget

/-- The widgets of a view in the order in which they were added, each with the row in which it is
shown, and the seconds after which the view stops, if it ever does. -/
structure View where
  timeout : Option Nat
  placed : List (Nat × Widget)
deriving DecidableEq, Repr

namespace View

def maxWidgets : Nat := 25

def maxWidth : Nat := 5

def empty : View := ⟨none, []⟩

def widgets (v : View) : List Widget := v.placed.map Prod.snd

def isPersistent (v : View) : Bool := v.timeout.isNone && v.widgets.all Widget.isPersistent

def rowWidgets (v : View) (row : Nat) : List Widget :=
  (v.placed.filter fun p => p.1 == row).map Prod.snd

def width (v : View) (row : Nat) : Nat := (v.rowWidgets row).length

/-- The components of a view: one for each row that holds a widget. -/
def components (v : View) : List Value :=
  ((List.range maxRows).map v.rowWidgets).filterMap fun ws =>
    if ws.isEmpty then none else some (ActionRow.body (ws.map Widget.component))

/-- The row for one more widget: the one that the widget asks for, else the first with room. -/
def rowFor (v : View) (w : Widget) : Except Error Nat :=
  match w.row with
  | some row =>
    let width := v.width row + 1
    if width ≤ maxWidth then .ok row else .error (.viewRowFull row width maxWidth)
  | none =>
    match (List.range maxRows).find? fun row => v.width row + 1 ≤ maxWidth with
    | some row => .ok row
    | none => .error .noViewRow

def add (v : View) (w : Widget) : Except Error View :=
  if v.placed.length < maxWidgets then do
    let row ← v.rowFor w
    return { v with placed := v.placed ++ [(row, w)] }
  else .error .viewFull

def addButton (place : Nat) (v : View) (b : Button) : Except Error View := do
  v.add (← Widget.ofButton b (some place))

/-- The view with the buttons of one row argument, at its place. What is no row yields no
buttons. -/
def addRow (place : Nat) (v : View) : Argument ActionRow → Except Error View
  | .given row => row.buttons.foldlM (addButton place) v
  | .missing => .error .wrongKind
  | .foreign x =>
    match x.elements? with
    | some [] => .ok v
    | some _ => .error .noPart
    | none => .error .wrongKind

def addRows (place : Nat) (v : View) : List (Argument ActionRow) → Except Error View
  | [] => .ok v
  | row :: rest => do addRows (place + 1) (← v.addRow place row) rest

def ofRows (rows : List (Argument ActionRow)) : Except Error (Option View) := do
  if rows.isEmpty then return none
  else
    require (rows.length ≤ maxRows) "ActionRows" (.tooManyViewRows maxRows)
    return some (← addRows 0 empty rows)

end View

end BotPayload
