import BotPayload.CommandLine.Dispatch

/-!
The program: reads the variables of the environment, runs the command line and prints what comes
of it.
-/

open BotPayload

def printOutput (o : CommandLine.Output) : IO UInt32 := do
  IO.print o.stdout
  IO.eprint o.stderr
  return UInt32.ofNat o.exit

/-- An error that no command has explained is printed as it is. -/
def printOutcome : CommandLine.Outcome → IO UInt32
  | .finished o => printOutput o
  | .raised e stdout => printOutput ⟨1, stdout, e.message ++ "\n"⟩

def main (args : List String) : IO UInt32 := do
  let names := [Settings.baseVariable, Settings.versionVariable, Settings.levelVariable]
  let bindings ← names.filterMapM fun name => do
    return (← IO.getEnv name).map fun value => (name, value)
  let now ← IO.monoMsNow
  match CommandLine.run ⟨bindings, none⟩ (fun _ => natText now) Text.ofString args with
  | .ok o => printOutcome o
  | .error failure => printOutcome (CommandLine.ofFailure failure)
