import BotPayload.Message.Attachment
import BotPayload.Message.Embed
import BotPayload.Route
import BotPayload.View

/-!
Editing a message that was sent through a webhook. An edit holds what is to be replaced; what no
step has written is left as it is in the message, and does not occur in the request. Steps yield
new edits, so that a half-made one can be shared.
-/

namespace BotPayload

structure MessageEdit where
  applicationId : Parameter
  token : Text
  messageId : Parameter
  content : Option String := none
  embeds : List Embed := []
  rows : List ActionRow := []
  files : List Upload := []
  /-- The names of the fields that steps have written. -/
  updated : String → Bool := fun _ => false

/-- A component of a message: a row, or something that can tell its payload. -/
inductive MessageComponent where
  | row (r : Argument ActionRow)
  | foreign (payload : Value)

structure Message where
  content : Option String
  embeds : List (Argument Embed)
  components : List MessageComponent

namespace MessageEdit

def maxContentLength : Nat := 2000
def maxEmbeds : Nat := 10
def maxEmbedsLength : Nat := 6000
def maxFiles : Nat := 10

def firstResponse : Parameter := .value (.str "@original")

def create (applicationId : Parameter) (token : Option Text) (messageId : Parameter) :
    Except Error MessageEdit := do
  applicationId.requirePresent "Application ID"
  let token ← present token "Token"
  require (!token.isEmpty) "Token" .empty
  require (!(← messageId.write).isEmpty) "Message ID" .empty
  return { applicationId, token, messageId }

/-- Makes the tests of a new edit again. -/
def recheck (e : MessageEdit) : Except Error MessageEdit := do
  let _ ← create e.applicationId (some e.token) e.messageId
  return e

def mark (e : MessageEdit) (field : String) : String → Bool := fun key => key = field || e.updated key

/-- No content removes the one of the message. -/
def writeContent (e : MessageEdit) (content : Option String) : Except Error MessageEdit := do
  if let some s := content then withinLength s maxContentLength "Content"
  return { e with content, updated := e.mark "content" }

def writeEmbeds (e : MessageEdit) (args : List (Nested Embed)) : Except Error MessageEdit := do
  let embeds ← allGiven (Nested.flatten args) "Embeds" .notEmbeds
  require (embeds.length ≤ maxEmbeds) "Embeds" (.tooManyEmbeds maxEmbeds)
  let total := Embed.total (← embeds.mapM Embed.length)
  require (total ≤ maxEmbedsLength) "Embeds" (.embedsTooLong maxEmbedsLength total)
  return { e with embeds, updated := e.mark "embeds" }

/-- No rows remove all components. -/
def writeRows (e : MessageEdit) (args : List (Nested ActionRow)) :
    Except Error MessageEdit := do
  let rows ← allGiven (Nested.flatten args) "ActionRows" .notRows
  require (rows.length ≤ maxRows) "ActionRows" (.tooManyRows maxRows)
  return { e with rows, updated := e.mark "components" }

def writeButtons (e : MessageEdit) (buttons : List (Argument Button)) :
    Except Error MessageEdit := do
  e.writeRows [.one (.given (← ActionRow.ofArguments buttons))]

def attach (fs : FileSystem) (e : MessageEdit) (name : FileName) (source : Option FileSource)
    (spoiler : Bool) : Except Error MessageEdit := do
  let (name, source) ← Attachment.resolve name source
  require (name ≠ "") "Name" .empty
  require (e.files.length < maxFiles) "File" (.tooManyFiles maxFiles)
  let data ← Attachment.readSource fs source
  return { e with
    files := e.files ++ [⟨Attachment.uploadName spoiler name, data⟩]
    updated := e.mark "files" }

def componentRow : MessageComponent → Logged (Option ActionRow)
  | .row (.given r) => Logged.ok (some r)
  | .row _ => Logged.fail .noPart
  | .foreign payload => ActionRow.decode payload

/-- The rows of components, in order; rows without buttons are dropped. -/
def componentRows : List MessageComponent → Logged (List ActionRow)
  | [] => Logged.ok []
  | component :: rest => do
    match ← componentRow component with
    | some row => return row :: (← componentRows rest)
    | none =>
      Logged.report .rowDropped
      componentRows rest

def copyFrom (e : MessageEdit) (message : Option Message) : Logged MessageEdit := do
  let message ← present message "Message"
  let rows ← componentRows message.components
  let e ← e.writeContent message.content
  let e ← e.writeEmbeds [.many message.embeds]
  e.writeRows [.many (rows.map .given)]

inductive Step where
  | writeContent (content : Option String)
  | writeEmbeds (args : List (Nested Embed))
  | writeButtons (buttons : List (Argument Button))
  | writeRows (args : List (Nested ActionRow))
  | attach (name : FileName) (source : Option FileSource) (spoiler : Bool)
  | copyFrom (message : Option Message)

def step (fs : FileSystem) (e : MessageEdit) : Step → Logged MessageEdit
  | .writeContent content => e.writeContent content
  | .writeEmbeds args => e.writeEmbeds args
  | .writeButtons buttons => e.writeButtons buttons
  | .writeRows args => e.writeRows args
  | .attach name source spoiler => e.attach fs name source spoiler
  | .copyFrom message => e.copyFrom message

/-- A step, after which the edit has to pass the tests of a new one. -/
def stepChecked (fs : FileSystem) (e : MessageEdit) (s : Step) : Logged MessageEdit := do
  (← e.step fs s).recheck

def stepOrKeep (fs : FileSystem) (e : MessageEdit) (s : Step) : MessageEdit :=
  match (e.step fs s).result with
  | .ok e' => e'
  | .error _ => e

/-- The edit after a sequence of steps, of which some may fail. -/
def run (fs : FileSystem) (e : MessageEdit) (ss : List Step) : MessageEdit :=
  ss.foldl (stepOrKeep fs) e

def attachment (place : Nat) (f : Upload) : Value :=
  .object [("id", .int place), ("filename", .str f.name)]

def attachments (files : List Upload) : List Value := files.mapIdx attachment

def contentValue : Option String → Value
  | some s => .str s
  | none => .null

def writtenMember (e : MessageEdit) (field : String) (v : Value) : Members :=
  if e.updated field then [(field, v)] else []

def body (e : MessageEdit) : Except Error Members := do
  let content := e.writtenMember "content" (contentValue e.content)
  let embeds := e.writtenMember "embeds" (.list (e.embeds.map Embed.encode))
  let components ←
    if e.updated "components" then
      do pure [("components", Value.list (← e.rows.mapM ActionRow.encode))]
    else pure []
  let files := if e.files.isEmpty then [] else [("attachments", Value.list (attachments e.files))]
  return content ++ embeds ++ components ++ files

def parameters (e : MessageEdit) : Parameters :=
  [("application_id", e.applicationId), ("token", .text e.token), ("message_id", e.messageId)]

def build (e : MessageEdit) : Logged Request := do
  let body ← e.body
  let path ← Route.webhookMessage.path e.parameters
  Logged.report (.messageBuilt e.messageId.shown (Route.sorted (body.map Prod.fst)) e.files.length)
  return ⟨Route.webhookMessage.method, path, .object body, e.files, none⟩

def submit (e : MessageEdit) (send : Request → α) : Logged α := do
  return send (← e.build)

end MessageEdit

end BotPayload
