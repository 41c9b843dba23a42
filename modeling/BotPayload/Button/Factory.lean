import BotPayload.Button.Basic

/-!
Making buttons of a given style: one factory for styles that send an interaction, one for links,
and one for a style that is chosen while the program runs.
-/

namespace BotPayload.Button

/-- A button of any style but link, under a custom id. A text is the label. -/
def styled (style : Argument Style) (id : Option String) (content : Content) : Except Error Button :=
  match content with
  | .text label => Draft.build { identity := .customId id, label := some label, style }
  | .none => do
    let _ ← presentText id "Id"
    throw (.refused "Emoji" .missing)
  | .emoji e => do
    let id ← presentText id "Id"
    Draft.build { identity := .customId (some id), label := some "", style, emoji := some e }

def link (address : Option String) (content : Content) : Except Error Button :=
  match content with
  | .text label => Draft.build { identity := .url address, label := some label, style := .given .link }
  | .none => do
    let _ ← presentText address "URL"
    throw (.refused "Emoji" .missing)
  | .emoji e => do
    let address ← presentText address "URL"
    Draft.build
      { identity := .url (some address), label := some "", style := .given .link, emoji := some e }

def ofStyle (style : Argument Style) (idOrUrl : Option String) (content : Content) :
    Except Error Button :=
  match style with
  | .given .link => link idOrUrl content
  | style => styled style idOrUrl content

end BotPayload.Button
