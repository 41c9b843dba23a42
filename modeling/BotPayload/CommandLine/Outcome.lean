import BotPayload.CommandLine.Options
import BotPayload.Log
import BotPayload.Settings.Basic

/-!
What a run of the command line leads to: an exit code and the text on the two outputs, or an error
that no command explains to the user.
-/

namespace BotPayload.CommandLine

structure Output where
  exit : Nat
  stdout : String
  stderr : String
deriving DecidableEq, Repr

inductive Outcome where
  | finished (o : Output)
  /-- The error, and what was printed before it. -/
  | raised (e : Error) (stdout : String)

def success (line : String) : Output := ⟨0, line ++ "\n", ""⟩

def explained (e : Error) : Output := ⟨1, "error: " ++ e.message ++ "\n", ""⟩

/-- A refused argument is explained; any other error is not. -/
def ofError (e : Error) : Outcome :=
  match e with
  | .refused _ _ => .finished (explained e)
  | e => .raised e ""

/-- What comes of settings that do not load: a bad version is explained; any other error is not. -/
def ofFailure : Settings.Failure → Outcome
  | .badVersion text => .finished ⟨1, "", Settings.versionExplanation text⟩
  | .unreadable e => .raised e ""

def Command.stopped (c : Command) : Stop → Output
  | .help => ⟨0, c.usage ++ "\n" ++ c.help, ""⟩
  | .failure message => ⟨2, "", c.usage ++ c.program ++ ": error: " ++ message ++ "\n"⟩

end BotPayload.CommandLine
