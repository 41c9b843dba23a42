import BotPayload.CommandLine.ButtonCommand
import BotPayload.CommandLine.InviteCommand

/-!
The command line: settings first, then the level of the log, then the command that the first
argument names.
-/

namespace BotPayload.CommandLine

def helpText : String :=
  "buttonforge -- build Discord button and invite payloads\n\n"
    ++ "commands:\n"
    ++ "  buttonforge button     Print the JSON for a button\n"
    ++ "  buttonforge invite     Print the request that creates an invite\n"
    ++ "  buttonforge help       Show this help message\n\n"
    ++ "examples:\n"
    ++ "  buttonforge button ok --style primary --label \"Click Me\"\n"
    ++ "  buttonforge button https://example.com --style link --emoji \"🔗\"\n"
    ++ "  buttonforge invite 123456789 --max-age 3600 --max-uses 5\n"

def threshold? (level : String) : Option Nat :=
  [("CRITICAL", 50), ("FATAL", 50), ("ERROR", 40), ("WARN", 30), ("WARNING", 30), ("INFO", 20),
    ("DEBUG", 10), ("NOTSET", 0)].lookup level

/-- Runs the command that the arguments name; without one, help is shown and the run fails. -/
def dispatch (s : Settings) (l : Logging) (wide : String → Text) : List String → Outcome
  | [] => .finished { success helpText with exit := 1 }
  | name :: rest =>
    if ["help", "--help", "-h"].contains name then .finished (success helpText)
    else if name = "button" then runButton rest
    else if name = "invite" then runInvite s l wide rest
    else .finished { success helpText with exit := 1 }

/-- The times of the log are those of a clock; `wide` tells which text a reason stands for. -/
def run (env : Environment) (clock : Nat → String) (wide : String → Text) (args : List String) :
    Except Settings.Failure Outcome := do
  let s ← Settings.load env
  match threshold? s.logLevel with
  | some threshold => return dispatch s { threshold, clock } wide args
  | none => return .raised (.unknownLogLevel s.logLevel) ""

end BotPayload.CommandLine
