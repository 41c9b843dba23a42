import BotPayload.Error
import BotPayload.Settings.EnvFile
import BotPayload.Text.Uppercase

/-!
Settings that come from variables of the environment: the base address and the version of the
interface, and the level of the log. A file of variables supplies what the environment lacks.
-/

namespace BotPayload

structure Settings where
  apiBase : String
  apiVersion : Int
  logLevel : String
deriving DecidableEq, Repr

/-- The variables of the environment, and the text of a file of further ones. -/
structure Environment where
  bindings : List (String × String)
  file : Option String
deriving DecidableEq, Repr

/-- A variable of the environment; only one that is not set there is looked up in the file. -/
def Environment.get? (env : Environment) (name : String) : Option String :=
  match env.bindings.lookup name with
  | some value => some value
  | none => env.file.bind fun text => EnvFile.lookup env.bindings text name

namespace Settings

def baseVariable : String := "BUTTONFORGE_API_BASE"
def versionVariable : String := "BUTTONFORGE_API_VERSION"
def levelVariable : String := "BUTTONFORGE_LOG_LEVEL"

inductive Failure where
  | badVersion (text : String)
  | unreadable (e : Error)

def versionExplanation (text : String) : String :=
  versionVariable ++ " must be an integer, got " ++ quoted text ++ "\n"
    ++ "Fix it in .env or your environment.\n"

/-- A variable that is not set, or is empty, takes a default. -/
def orDefault (value : Option String) (default : String) : String :=
  match value with
  | some s => if s = "" then default else s
  | none => default

def stripSlashes (s : String) : String :=
  String.ofList (s.toList.reverse.dropWhile (· == '/')).reverse

/-- A version is made of digits of any kind, and must then read as a number. -/
def readVersion (text : String) : Except Failure Int :=
  if text ≠ "" ∧ text.toList.all isDigitLike then
    match Numeral.read text.toList with
    | .ok n => .ok n
    | .error fault => .error (.unreadable (.numeral text fault))
  else .error (.badVersion text)

def load (env : Environment) : Except Failure Settings := do
  let version ← readVersion (orDefault (env.get? versionVariable) "10")
  return {
    apiBase := stripSlashes (orDefault (env.get? baseVariable) "https://discord.com/api")
    apiVersion := version
    logLevel := uppercase (orDefault (env.get? levelVariable) "WARNING") }

def url (s : Settings) (path : String) : String :=
  s.apiBase ++ "/v" ++ intText s.apiVersion ++ path

end Settings

end BotPayload
