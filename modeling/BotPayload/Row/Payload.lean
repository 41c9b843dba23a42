import BotPayload.Button.Payload
import BotPayload.Row.Basic

/-!
Action rows as payloads. Components of a received row that are no buttons are skipped, and a row of
which nothing is left is no row.
-/

namespace BotPayload.ActionRow

def componentType : Int := 1

def schema : Schema := .all [
  .kind [.object],
  .required ["type", "components"],
  .properties [
    ("type", .exactly componentType),
    ("components", .all [.kind [.array], .items (.kind [.object])])]]

def body (components : List Value) : Value :=
  .object [("type", .int componentType), ("components", .list components)]

def encode (r : ActionRow) : Except Error Value := body <$> r.buttons.mapM Button.encode

def isButton (component : Value) : Bool :=
  match component.get? "type" with
  | some kind => kind.equalsInt Button.componentType
  | none => false

/-- The buttons among components, in order; each of the others is reported. -/
def decodeButtons : List Value → Logged (List Button)
  | [] => Logged.ok []
  | component :: rest => do
    if isButton component then
      let button ← Button.decode component
      let buttons ← decodeButtons rest
      return button :: buttons
    else
      Logged.report (.componentSkipped ((component.get? "type").getD .null))
      decodeButtons rest

def components (v : Value) : List Value :=
  match v.get? "components" with
  | some (.list items) => items
  | _ => []

def decode (v : Value) : Logged (Option ActionRow) := do
  let faults := schema.faults v
  require faults.isEmpty "ActionRow" (.rowPayload faults)
  let buttons ← decodeButtons (components v)
  if buttons.isEmpty then return none
  else some <$> (ofArguments (buttons.map .given) : Except Error ActionRow)

end BotPayload.ActionRow
