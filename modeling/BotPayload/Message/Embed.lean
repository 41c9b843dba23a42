import BotPayload.Argument
import BotPayload.Time.Instant

/-!
Embeds: rich content of a message, made from a payload. Title, description and url become text;
the richer parts are kept as they come. The length of an embed counts the characters that are
shown.
-/

namespace BotPayload

structure Embed where
  title : Option String
  description : Option String
  url : Option String
  kind : Value
  flags : Value
  color : Option Value
  timestamp : Option Instant
  /-- Thumbnail, video, provider, author, fields, image and footer, as far as they were given. -/
  parts : Members

namespace Embed

def partKeys : List String :=
  ["thumbnail", "video", "provider", "author", "fields", "image", "footer"]

/-- A text; whatever else is given is written as text. -/
def textPart (v : Option Value) : Except Error (Option String) :=
  match v with
  | none => .ok none
  | some .null => .ok none
  | some v => some <$> v.write

def readColor : Option Value → Except Error (Option Value)
  | none => .ok none
  | some (.int n) => .ok (some (.int n))
  | some (.bool b) => .ok (some (.bool b))
  | some _ => .error .wrongKind

/-- A time is a text; what is empty is no time. -/
def readTimestamp : Option Value → Except Error (Option Instant)
  | none => .ok none
  | some v =>
    if !v.isTruthy then .ok none
    else
      match v with
      | .str s => (some <$> Instant.read s).mapError (Error.instant s)
      | _ => .error .wrongKind

def decode (ms : Members) : Except Error Embed := do
  let title ← textPart (ms.lookup "title")
  let description ← textPart (ms.lookup "description")
  let url ← textPart (ms.lookup "url")
  let color ← readColor (ms.lookup "color")
  let timestamp ← readTimestamp (ms.lookup "timestamp")
  return {
    title, description, url
    kind := (ms.lookup "type").getD .null
    flags := (ms.lookup "flags").getD (.int 0)
    color, timestamp
    parts := partKeys.filterMap fun key => (ms.lookup key).map fun v => (key, v) }

def memberOf (v : Value) (key : String) : Except Error Value :=
  match v with
  | .object ms =>
    match ms.lookup key with
    | some v => .ok v
    | none => .error (.missingKey key)
  | _ => .error .wrongKind

def lengthOf (v : Value) : Except Error Nat :=
  match v.size? with
  | some n => .ok n
  | none => .error .wrongKind

def fieldLength (field : Value) : Except Error Nat := do
  let name ← lengthOf (← memberOf field "name")
  let value ← lengthOf (← memberOf field "value")
  return name + value

def total (lengths : List Nat) : Nat := lengths.foldl (· + ·) 0

def fieldsLength : Option Value → Except Error Nat
  | none => .ok 0
  | some fields =>
    match fields.elements? with
    | some items => total <$> items.mapM fieldLength
    | none => .error .wrongKind

/-- A footer without a text counts nothing. -/
def footerLength : Option Value → Except Error Nat
  | none => .ok 0
  | some footer =>
    match memberOf footer "text" with
    | .ok text => lengthOf text
    | .error (.missingKey _) => .ok 0
    | .error e => .error e

def authorLength : Option Value → Except Error Nat
  | none => .ok 0
  | some author => do lengthOf (← memberOf author "name")

def length (e : Embed) : Except Error Nat := do
  let fields ← fieldsLength (e.parts.lookup "fields")
  let footer ← footerLength (e.parts.lookup "footer")
  let author ← authorLength (e.parts.lookup "author")
  return (e.title.getD "").length + (e.description.getD "").length + fields + footer + author

def textMember (key : String) (s : Option String) : Members :=
  match s with
  | some s => if s = "" then [] else [(key, .str s)]
  | none => []

def encode (e : Embed) : Value :=
  .object ([("flags", e.flags)] ++ e.parts
    ++ (match e.color with | some c => [("color", c)] | none => [])
    ++ (match e.timestamp with | some t => [("timestamp", .str t.text)] | none => [])
    ++ (if e.kind.isTruthy then [("type", e.kind)] else [])
    ++ textMember "description" e.description ++ textMember "url" e.url
    ++ textMember "title" e.title)

end Embed

end BotPayload
