import BotPayload.Row.Payload

/-!
Steps on a row that may not be there, as one read from a payload may hold no buttons.
-/

namespace BotPayload.ActionRow

inductive Step where
  | replace (index : Int) (button : Argument Button)
  | disable
  | enable

def present : Option ActionRow → Except Error ActionRow
  | some r => .ok r
  | none => .error .wrongKind

def step (r : Option ActionRow) (s : Step) : Except Error ActionRow :=
  match r with
  | none => .error .noPart
  | some r =>
    match s with
    | .replace index button => r.replace index button
    | .disable => r.disable
    | .enable => r.enable

def roundTrip (r : Option ActionRow) : Logged (Option ActionRow) := do
  let r ← present r
  let payload ← r.encode
  decode payload

end BotPayload.ActionRow
