import BotPayload.Button.Factory

/-!
Deriving a button from another one by replacing parts of it. Every derivation builds the new
button from a draft, so it passes all constraints again, and a style that is not known is never
passed on. A chain of derivations keeps the current button where one of them fails.
-/

namespace BotPayload.Button

/-- The draft of the same button. The style code that came is left behind. -/
def toDraft (b : Button) : Draft where
  identity := match b.identity with
    | .customId id => .customId (some id)
    | .url address => .url (some address)
  label := some b.label
  style := .given b.style
  emoji := b.emoji
  disabled := b.disabled

def setDisabled (b : Button) (disabled : Bool) : Except Error Button :=
  { b.toDraft with disabled }.build

def disable (b : Button) : Except Error Button := b.setDisabled true

def enable (b : Button) : Except Error Button := b.setDisabled false

/-- Nothing clears the emoji, which needs a label. -/
def setEmoji (b : Button) (content : Content) : Except Error Button := do
  let emoji ← content.toEmoji
  require (emoji.isSome || b.label ≠ "") "Emoji" .emojiNeeded
  { b.toDraft with emoji }.build

def setLabel (b : Button) (label : Option String) : Except Error Button := do
  let label ← presentText label "Label"
  { b.toDraft with label := some label }.build

def setLabelAndEmoji (b : Button) (label : Option String) (content : Content) :
    Except Error Button := do
  let label ← present label "Label"
  let emoji ← content.toEmoji
  { b.toDraft with label := some label, emoji }.build

/-- The style is kept, so a link refuses. -/
def setId (b : Button) (id : Option String) : Except Error Button :=
  { b.toDraft with identity := .customId id }.build

/-- Whatever has a url is a link, so the style changes with it. -/
def setUrl (b : Button) (address : Option String) : Except Error Button :=
  { b.toDraft with identity := .url address, style := .given .link }.build

/-- A link stays a link, and no other button becomes one. -/
def setStyle (b : Button) (style : Argument Style) : Except Error Button := do
  let isLink := match style with
    | .given .link => true
    | _ => false
  match style with
  | .missing => throw (.refused "Style" .missing)
  | .given .unknown => throw (.refused "Style" .unknownStyle)
  | _ => pure ()
  require (!b.isLink || isLink) "Style" .staysLink
  require (b.isLink || !isLink) "Style" .neverLink
  { b.toDraft with style }.build

inductive Derivation where
  | disable
  | enable
  | setDisabled (disabled : Bool)
  | setEmoji (content : Content)
  | setLabel (label : Option String)
  | setLabelAndEmoji (label : Option String) (content : Content)
  | setId (id : Option String)
  | setUrl (address : Option String)
  | setStyle (style : Argument Style)

def derive (b : Button) : Derivation → Except Error Button
  | .disable => b.disable
  | .enable => b.enable
  | .setDisabled disabled => b.setDisabled disabled
  | .setEmoji content => b.setEmoji content
  | .setLabel label => b.setLabel label
  | .setLabelAndEmoji label content => b.setLabelAndEmoji label content
  | .setId id => b.setId id
  | .setUrl address => b.setUrl address
  | .setStyle style => b.setStyle style

def deriveOrKeep (b : Button) (d : Derivation) : Button :=
  match b.derive d with
  | .ok derived => derived
  | .error _ => b

def run (b : Button) (ds : List Derivation) : Button := ds.foldl deriveOrKeep b

/-- The button after a chain in which every derivation succeeds. -/
def chain (b : Button) (ds : List Derivation) : Except Error Button := ds.foldlM derive b

/-- A button whose style is chosen while the program runs: the id is a url for links. At least one
of label and emoji is needed. -/
def make (style : Argument Style) (idOrUrl : Option String) (label : Option String)
    (content : Content) : Except Error Button := do
  match style with
  | .missing => throw (.refused "Style" .missing)
  | .given .unknown => throw (.refused "Style" .unknownStyle)
  | _ => pure ()
  let emoji ← content.toEmoji
  let label := label.getD ""
  let shown : Content := match emoji with
    | some e => .emoji e
    | none => .none
  if label ≠ "" then
    (← ofStyle style idOrUrl (.text label)).setEmoji shown
  else if emoji.isSome then ofStyle style idOrUrl shown
  else throw (.refused "Label/Emoji" .nothingShown)

end BotPayload.Button
