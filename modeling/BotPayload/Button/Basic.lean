import BotPayload.Emoji
import BotPayload.Style

/-!
Buttons. A button has an identity, which is a custom id or the url of a page, a label, a style and
perhaps an emoji. Every button comes from a draft, through `Button.Draft.build`, which refuses the
draft for the first constraint it violates: style, presence of identity and label, lengths, and
last that links and only links have a url.
-/

namespace BotPayload

/-- What a button does: send an interaction under a custom id, or open a page. -/
inductive Identity where
  | customId (id : String)
  | url (address : String)
deriving DecidableEq, Repr

namespace Identity

def value : Identity → String
  | .customId id => id
  | .url address => address

def isUrl : Identity → Bool
  | .customId _ => false
  | .url _ => true

def maxIdLength : Nat := 100

def maxUrlLength : Nat := 512

def limit : Identity → Nat
  | .customId _ => maxIdLength
  | .url _ => maxUrlLength

def field : Identity → String
  | .customId _ => "Id"
  | .url _ => "URL"

end Identity

structure Button where
  identity : Identity
  label : String
  style : Style
  emoji : Option Emoji
  disabled : Bool
  /-- The style code as it came, for a style that is not known. -/
  unknownCode : Option Quantity
deriving DecidableEq, Repr

namespace Button

def maxLabelLength : Nat := 80

def id? (b : Button) : Option String :=
  match b.identity with
  | .customId id => some id
  | .url _ => none

def url? (b : Button) : Option String :=
  match b.identity with
  | .customId _ => none
  | .url address => some address

def isLink (b : Button) : Bool := b.style == .link

/-- An identity as a caller gives it: of one of the two kinds, its value perhaps missing, or
something else. -/
inductive IdentityDraft where
  | customId (id : Option String)
  | url (address : Option String)
  | foreign (v : Value)

structure Draft where
  identity : IdentityDraft
  label : Option String
  style : Argument Style
  emoji : Option Emoji := none
  disabled : Bool := false
  unknownCode : Option Quantity := none

namespace Draft

/-- A style; `unknown` only where the code that came is kept. -/
def checkStyle (d : Draft) : Except Error Style :=
  match d.style with
  | .missing => .error (.refused "Style" .missing)
  | .foreign v => .error (.refused "Style" (.notStyle v.kindName))
  | .given style => do
    require (style ≠ .unknown || d.unknownCode.isSome) "Style" .unknownStyle
    return style

def checkIdentity (d : Draft) : Except Error Identity :=
  match d.identity with
  | .foreign v => .error (.refused "Identity" (.notIdentity v.kindName))
  | .customId id => do return .customId (← presentText id "Id")
  | .url address => do return .url (← presentText address "URL")

def checkLabel (d : Draft) : Except Error String := do
  let label ← present d.label "Label"
  require (label ≠ "" || d.emoji.isSome) "Label" .labelNeeded
  return label

/-- Links and only links have a url. A style that is not known may go with either identity. -/
def checkPairing (style : Style) (identity : Identity) : Except Error Unit :=
  match style with
  | .unknown => .ok ()
  | .link => require identity.isUrl "Id" .linkNeedsUrl
  | style => require (!identity.isUrl) "URL" (.needsCustomId style.name)

def build (d : Draft) : Except Error Button := do
  let style ← d.checkStyle
  let identity ← d.checkIdentity
  let label ← d.checkLabel
  withinLength identity.value identity.limit identity.field
  withinLength label maxLabelLength "Label"
  checkPairing style identity
  return ⟨identity, label, style, d.emoji, d.disabled, d.unknownCode⟩

end Draft

end Button

end BotPayload
