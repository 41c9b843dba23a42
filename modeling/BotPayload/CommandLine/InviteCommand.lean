import BotPayload.CommandLine.Outcome
import BotPayload.Invite
import BotPayload.Value.Json

/-!
The command that prints the request for an invite.
-/

namespace BotPayload.CommandLine

def inviteCommand : Command where
  program := "buttonforge invite"
  usage :=
    "usage: buttonforge invite [-h] [--voice] [--max-age MAX_AGE]\n"
      ++ "                          [--max-uses MAX_USES] [--temporary] [--unique]\n"
      ++ "                          [--target-user TARGET_USER | --target-app TARGET_APP]\n"
      ++ "                          [--reason REASON]\n"
      ++ "                          channel_id\n"
  help :=
    "positional arguments:\n"
      ++ "  channel_id            Channel to invite to\n\n"
      ++ "options:\n"
      ++ "  -h, --help            show this help message and exit\n"
      ++ "  --voice               Channel is a voice channel\n"
      ++ "  --max-age MAX_AGE     Seconds, 0 = never expires\n"
      ++ "  --max-uses MAX_USES   0 = unlimited\n"
      ++ "  --temporary           Grant temporary membership\n"
      ++ "  --unique              Never reuse a similar invite\n"
      ++ "  --target-user TARGET_USER\n"
      ++ "                        Stream of this user (voice only)\n"
      ++ "  --target-app TARGET_APP\n"
      ++ "                        Embedded activity id (voice only)\n"
      ++ "  --reason REASON       Audit log reason\n"
  switches := [
    ⟨["--voice"], none⟩,
    ⟨["--max-age"], some .integer⟩,
    ⟨["--max-uses"], some .integer⟩,
    ⟨["--temporary"], none⟩,
    ⟨["--unique"], none⟩,
    ⟨["--target-user"], some .text⟩,
    ⟨["--target-app"], some .text⟩,
    ⟨["--reason"], some .text⟩]
  operand := "channel_id"
  operandKind := .integer
  exclusive := ["--target-user", "--target-app"]

structure InviteOptions where
  channel : Int
  voice : Bool
  maxAge : Option Int
  maxUses : Option Int
  temporary : Bool
  unique : Bool
  targetUser : Option String
  targetApplication : Option String
  reason : Option Text
deriving DecidableEq, Repr

/-- The options, `wide` telling which text the reason stands for, as arguments hold no surrogates. -/
def InviteOptions.ofParsed (wide : String → Text) (channel : Given) (p : Parsed) :
    InviteOptions where
  channel := match channel with
    | .number n => n
    | _ => 0
  voice := p.hasFlag "--voice"
  maxAge := p.number? "--max-age"
  maxUses := p.number? "--max-uses"
  temporary := p.hasFlag "--temporary"
  unique := p.hasFlag "--unique"
  targetUser := p.text? "--target-user"
  targetApplication := p.text? "--target-app"
  reason := (p.text? "--reason").map wide

def nonEmpty (s : Option String) : Option String := s.filter (· ≠ "")

/-- The steps that the options ask for. Empty targets ask for none. -/
def InviteOptions.steps (o : InviteOptions) : List Invite.Step :=
  let number := fun (n : Option Int) => (n.map Value.int).getD .null
  let age := match o.maxAge with
    | some n => Age.value (.int n)
    | none => Age.none
  let flag := fun (b : Bool) => if b then some true else none
  let target := fun (step : TargetRef → Invite.Step) (s : Option String) =>
    ((nonEmpty s).map fun s => step (.value (.str s))).toList
  [.limitAge age, .limitUses (number o.maxUses), .setTemporary (flag o.temporary),
    .setUnique (flag o.unique), .setReason o.reason]
    ++ target .aimAtUser o.targetUser ++ target .aimAtApplication o.targetApplication

def InviteOptions.request (o : InviteOptions) : Logged Request := do
  let channel := if o.voice then ChannelType.voice else ChannelType.text
  let start ← Invite.create (.int o.channel) channel
  let invite ← (o.steps.foldlM Invite.step start : Except Error Invite)
  invite.build

def printed (s : Settings) (r : Request) : Except Error Value := do
  let headers ← r.headers
  let shown := if headers.isEmpty then []
    else [("headers", Value.object (headers.map fun (k, v) => (k, .str v)))]
  return .object ([("method", .str r.method), ("url", .str (r.url s)), ("json", r.body)] ++ shown)

/-- How the log is shown: events of at least a severity, each behind the time of its line. -/
structure Logging where
  threshold : Nat
  clock : Nat → String

def Logging.text (l : Logging) (events : List Event) : String :=
  let shown := events.filter fun e => l.threshold ≤ e.level.severity
  String.join (shown.mapIdx fun i e => e.line (l.clock i) ++ "\n")

/-- Prints the request, or says why there is none. A reason that cannot be sent is noticed when the
request is printed, where no error is explained. -/
def InviteOptions.run (o : InviteOptions) (s : Settings) (l : Logging) : Outcome :=
  let r := o.request
  let log := l.text r.events
  match r.result with
  | .ok request =>
    match printed s request with
    | .ok document => .finished { success (Json.document .line document) with stderr := log }
    | .error e => .raised e ""
  | .error e =>
    match ofError e with
    | .finished out => .finished { out with stderr := log }
    | outcome => outcome

def runInvite (s : Settings) (l : Logging) (wide : String → Text) (args : List String) : Outcome :=
  match inviteCommand.read args with
  | .error stop => .finished (inviteCommand.stopped stop)
  | .ok (channel, p) => (InviteOptions.ofParsed wide channel p).run s l

end BotPayload.CommandLine
