import BotPayload.Log
import BotPayload.Request
import BotPayload.Route
import BotPayload.Snowflake
import BotPayload.Time.Duration

/-!
Creating invites to channels. An invite holds the options that were set; the others are left to
the server: an age of a day, any number of uses, a lasting membership, and an invite that may be
one made before. Steps yield new invites.
-/

namespace BotPayload

inductive ChannelType where
  | text
  | direct
  | voice
  | group
  | category
  | news
  | newsThread
  | publicThread
  | privateThread
  | stageVoice
  | forum
  | media
deriving DecidableEq, Repr

namespace ChannelType

def all : List ChannelType :=
  [.text, .direct, .voice, .group, .category, .news, .newsThread, .publicThread, .privateThread,
    .stageVoice, .forum, .media]

def name : ChannelType → String
  | .text => "text"
  | .direct => "private"
  | .voice => "voice"
  | .group => "group"
  | .category => "category"
  | .news => "news"
  | .newsThread => "news_thread"
  | .publicThread => "public_thread"
  | .privateThread => "private_thread"
  | .stageVoice => "stage_voice"
  | .forum => "forum"
  | .media => "media"

def ofName? (name : String) : Option ChannelType := all.find? fun c => c.name == name

def isVoice : ChannelType → Bool
  | .voice => true
  | .stageVoice => true
  | _ => false

end ChannelType

/-- What an invite to a voice channel leads to: a user's stream, or an activity. -/
inductive InviteTarget where
  | stream
  | application
deriving DecidableEq, Repr

namespace InviteTarget

def code : InviteTarget → Int
  | .stream => 1
  | .application => 2

def name : InviteTarget → String
  | .stream => "STREAM"
  | .application => "EMBEDDED_APPLICATION"

end InviteTarget

inductive TargetChoice where
  | unknown
  | none
  | target (t : InviteTarget)
deriving DecidableEq, Repr

/-- A user or an application as a caller gives it: nothing, a value, or an object whose id may be
missing. -/
inductive TargetRef where
  | none
  | value (v : Value)
  | object (id : Option Value)

inductive Age where
  | none
  | value (v : Value)
  | duration (d : Duration)

structure Invite where
  channelId : Value
  channelType : ChannelType
  maxAge : Option Quantity := none
  maxUses : Option Quantity := none
  temporary : Option Bool := none
  unique : Option Bool := none
  target : Option InviteTarget := none
  targetApplication : Option Quantity := none
  targetUser : Option Quantity := none
  reason : Option Text := none

namespace Invite

def maxAgeLimit : Nat := 604800
def maxUsesLimit : Nat := 100
def maxReasonLength : Nat := 512

def create (channelId : Value) (channelType : ChannelType) : Except Error Invite := do
  channelId.requirePresent "Channel ID"
  return { channelId, channelType }

def isVoice (i : Invite) : Bool := i.channelType.isVoice

def bounded (v : Value) (field : String) (limit : Nat) (tooMuch : String → Reason) :
    Except Error Quantity := do
  match Quantity.ofValue? v with
  | none => throw .wrongKind
  | some q =>
    require (!q.isNegative) field .negative
    -- the message is made before the test that may need it
    let message := tooMuch (← q.write)
    require (!q.exceeds limit) field message
    return q

/-- An age of 0 never ends. -/
def limitAge (i : Invite) (age : Age) : Except Error Invite := do
  let seconds : Value := match age with
    | .none => .null
    | .value v => v
    | .duration d => .int d.seconds
  match seconds with
  | .null => return { i with maxAge := none }
  | v => return { i with maxAge := some (← bounded v "Max age" maxAgeLimit (.ageTooLong maxAgeLimit)) }

/-- No limit is set by 0 uses. -/
def limitUses (i : Invite) (uses : Value) : Except Error Invite := do
  match uses with
  | .null => return { i with maxUses := none }
  | v =>
    return { i with maxUses := some (← bounded v "Max uses" maxUsesLimit (.tooManyUses maxUsesLimit)) }

def setTemporary (i : Invite) (temporary : Option Bool) : Invite := { i with temporary }

def setUnique (i : Invite) (unique : Option Bool) : Invite := { i with unique }

/-- Only voice channels have targets. -/
def aim (i : Invite) (choice : TargetChoice) : Except Error Invite := do
  match choice with
  | .none => return { i with target := none }
  | .unknown => throw (.refused "Target type" .unknownTarget)
  | .target t =>
    require i.isVoice "Target type" (.noTargetIn i.channelType.name)
    return { i with target := some t }

/-- The id of a user or an application: a number, a snowflake in text, or the id of an object. -/
def targetId (ref : TargetRef) (field : String) : Except Error Quantity := do
  let fromId := fun (id : Option Value) => do
    let id := id.getD .null
    id.requirePresent field
    id.requireNonNegative field
    match Quantity.ofValue? id with
    | some q => return q
    | none => throw Error.wrongKind
  match ref with
  | .none => throw (.refused field .missing)
  | .value (.str s) => return .int (← Snowflake.read s field)
  | .value (.int n) => fromId (some (.int n))
  | .value (.bool b) => fromId (some (.bool b))
  | .value _ => fromId none
  | .object id => fromId id

/-- Nothing removes the target. -/
def aimAtApplication (i : Invite) (ref : TargetRef) : Except Error Invite := do
  match ref with
  | .none => return { i with target := none, targetApplication := none }
  | ref =>
    let id ← targetId ref "Application ID"
    let i ← i.aim (.target .application)
    return { i with targetApplication := some id, targetUser := none }

def aimAtUser (i : Invite) (ref : TargetRef) : Except Error Invite := do
  match ref with
  | .none => return { i with target := none, targetUser := none }
  | ref =>
    let id ← targetId ref "User ID"
    let i ← i.aim (.target .stream)
    return { i with targetUser := some id, targetApplication := none }

def setReason (i : Invite) (reason : Option Text) : Except Error Invite := do
  if let some t := reason then
    require (t.length ≤ maxReasonLength) "Reason" (.tooLong maxReasonLength t.length)
  return { i with reason }

inductive Step where
  | limitAge (age : Age)
  | limitUses (uses : Value)
  | setTemporary (temporary : Option Bool)
  | setUnique (unique : Option Bool)
  | aim (choice : TargetChoice)
  | aimAtApplication (ref : TargetRef)
  | aimAtUser (ref : TargetRef)
  | setReason (reason : Option Text)

def step (i : Invite) : Step → Except Error Invite
  | .limitAge age => i.limitAge age
  | .limitUses uses => i.limitUses uses
  | .setTemporary temporary => .ok (i.setTemporary temporary)
  | .setUnique unique => .ok (i.setUnique unique)
  | .aim choice => i.aim choice
  | .aimAtApplication ref => i.aimAtApplication ref
  | .aimAtUser ref => i.aimAtUser ref
  | .setReason reason => i.setReason reason

def stepOrKeep (i : Invite) (s : Step) : Invite :=
  match i.step s with
  | .ok i' => i'
  | .error _ => i

/-- The invite after a sequence of steps, of which some may fail. -/
def run (i : Invite) (ss : List Step) : Invite := ss.foldl stepOrKeep i

def member (key : String) (v : Option Value) : Members :=
  match v with
  | some v => [(key, v)]
  | none => []

def idFor (i : Invite) (t : InviteTarget) (id : Option Quantity) : Except Error (Option Value) := do
  match id with
  | some q => if i.target = some t then return some (.str (← q.write)) else return none
  | none => return none

/-- The body of the request: what is set, and the id that belongs to the target. -/
def body (i : Invite) : Except Error Members := do
  let user ← i.idFor .stream i.targetUser
  let application ← i.idFor .application i.targetApplication
  return member "max_age" (i.maxAge.map Quantity.toValue)
    ++ member "max_uses" (i.maxUses.map Quantity.toValue)
    ++ member "temporary" (i.temporary.map .bool)
    ++ member "unique" (i.unique.map .bool)
    ++ member "target_type" (i.target.map fun t => .int t.code)
    ++ member "target_user_id" user
    ++ member "target_application_id" application

def build (i : Invite) : Logged Request := do
  let body ← i.body
  let path ← Route.channelInvites.path [("channel_id", i.channelId)]
  Logged.report (.inviteBuilt i.channelId (.object body))
  return ⟨Route.channelInvites.method, path, .object body, [], i.reason⟩

def submit (i : Invite) (send : Request → α) : Logged α := do
  return send (← i.build)

end Invite

end BotPayload
