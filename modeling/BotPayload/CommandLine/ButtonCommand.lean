import BotPayload.Button.Payload
import BotPayload.CommandLine.Outcome
import BotPayload.Value.Json

/-!
The command that prints a button.
-/

namespace BotPayload.CommandLine

def buttonCommand : Command where
  program := "buttonforge button"
  usage :=
    "usage: buttonforge button [-h]\n"
      ++ "                          [--style \x7bprimary,secondary,success,danger,link\x7d]\n"
      ++ "                          [--label LABEL] [--emoji EMOJI] [--disabled]\n"
      ++ "                          [--indent INDENT]\n"
      ++ "                          target\n"
  help :=
    "positional arguments:\n"
      ++ "  target                Custom id, or the url for --style link\n\n"
      ++ "options:\n"
      ++ "  -h, --help            show this help message and exit\n"
      ++ "  --style \x7bprimary,secondary,success,danger,link\x7d, "
      ++ "-s \x7bprimary,secondary,success,danger,link\x7d\n"
      ++ "  --label LABEL, -l LABEL\n"
      ++ "                        Button text (max 80 chars)\n"
      ++ "  --emoji EMOJI, -e EMOJI\n"
      ++ "                        Unicode or \"<:name:id>\" emoji\n"
      ++ "  --disabled            Render greyed out\n"
      ++ "  --indent INDENT       Pretty-print JSON\n"
  switches := [
    ⟨["--style", "-s"], some (.oneOf (Style.known.map Style.label))⟩,
    ⟨["--label", "-l"], some .text⟩,
    ⟨["--emoji", "-e"], some .text⟩,
    ⟨["--disabled"], none⟩,
    ⟨["--indent"], some .integer⟩]
  operand := "target"
  operandKind := .text
  exclusive := []

structure ButtonOptions where
  style : Style
  target : String
  label : Option String
  emoji : Option String
  disabled : Bool
  indent : Option Int
deriving DecidableEq, Repr

/-- The style is secondary unless another one is asked for. -/
def ButtonOptions.ofParsed (target : Given) (p : Parsed) : ButtonOptions where
  style := ((p.text? "--style").bind Style.ofLabel?).getD .secondary
  target := match target with
    | .text s => s
    | _ => ""
  label := p.text? "--label"
  emoji := p.text? "--emoji"
  disabled := p.hasFlag "--disabled"
  indent := p.number? "--indent"

def ButtonOptions.payload (o : ButtonOptions) : Except Error Value := do
  let emoji := match o.emoji with
    | some s => Content.text s
    | none => Content.none
  let button ← Button.make (.given o.style) (some o.target) o.label emoji
  (← button.setDisabled o.disabled).encode

def ButtonOptions.run (o : ButtonOptions) : Outcome :=
  let layout := match o.indent with
    | some width => Json.Layout.indented width
    | none => Json.Layout.line
  match o.payload with
  | .ok v => .finished (success (Json.document layout v))
  | .error e => ofError e

def runButton (args : List String) : Outcome :=
  match buttonCommand.read args with
  | .error stop => .finished (buttonCommand.stopped stop)
  | .ok (target, p) => (ButtonOptions.ofParsed target p).run

end BotPayload.CommandLine
