import BotPayload.Button.Derivation
import BotPayload.Log

/-!
Buttons as payloads: the schema, the encoder, and the decoder, which takes what a server sends. A
style code that is not known is kept beside the style `unknown`; such a button cannot be encoded.
-/

namespace BotPayload.Button

def componentType : Int := 2

def emojiSchema : Schema := .all [
  .kind [.object, .null],
  .properties [
    ("id", .kind [.string, .integer, .null]),
    ("name", .kind [.string, .null]),
    ("animated", .kind [.boolean])]]

def schema : Schema := .all [
  .kind [.object],
  .required ["type", "style"],
  .properties [
    ("type", .exactly componentType),
    ("style", .kind [.integer]),
    ("label", .kind [.string]),
    ("custom_id", .kind [.string]),
    ("url", .kind [.string]),
    ("disabled", .kind [.boolean]),
    ("emoji", emojiSchema)],
  .oneOf ["custom_id", "url"]]

def body (b : Button) : Value :=
  let identity : String × Value := match b.identity with
    | .customId id => ("custom_id", .str id)
    | .url address => ("url", .str address)
  let emoji := match b.emoji with
    | some e => [("emoji", e.encode)]
    | none => []
  .object ([("type", .int componentType), ("style", .int b.style.code), ("label", .str b.label),
    ("disabled", .bool b.disabled), identity] ++ emoji)

def encode (b : Button) : Except Error Value := do
  require (b.style ≠ .unknown) "Style" .unencodableStyle
  return b.body

def textAt? (v : Value) (key : String) : Option String :=
  match v.get? key with
  | some (.str s) => some s
  | _ => none

def decodeIdentity (v : Value) : IdentityDraft :=
  match v.get? "url" with
  | some _ => .url (textAt? v "url")
  | none => .customId (textAt? v "custom_id")

/-- The emoji in a payload; an empty one counts as none. -/
def decodeEmoji (v : Value) : Except Error (Option Emoji) :=
  match v.get? "emoji" with
  | some emoji => if emoji.isTruthy then some <$> Emoji.decode emoji else .ok none
  | none => .ok none

def decode (v : Value) : Logged Button := do
  let faults := schema.faults v
  require faults.isEmpty "Button" (.buttonPayload faults)
  let code := (v.get? "style").getD .null
  let style := Style.ofCode code
  let unknownCode := if style = .unknown then Quantity.ofValue? code else none
  if let some raw := unknownCode then
    Logged.report (.styleNotKnown (raw.toInt?.getD 0))
  let emoji ← decodeEmoji v
  let disabled := match v.get? "disabled" with
    | some (.bool b) => b
    | _ => false
  let draft : Draft :=
    { identity := decodeIdentity v, label := some ((textAt? v "label").getD ""),
      style := .given style, emoji, disabled, unknownCode }
  draft.build

end BotPayload.Button
