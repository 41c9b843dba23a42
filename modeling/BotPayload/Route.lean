import BotPayload.Parameter
import BotPayload.Template.Basic
import BotPayload.Text.Percent

/-!
Routes: a method and a template for a path. Every placeholder is filled with the percent-encoded
text of a parameter, so that no parameter can add a segment to the path.
-/

namespace BotPayload

abbrev Parameters := List (String × Parameter)

structure Route where
  method : String
  template : String
deriving DecidableEq, Repr

namespace Route

def segmentSafe : List Char := ['@']

def names (pieces : List Template.Piece) : List String :=
  ((Template.names pieces).map String.ofList).eraseDups

def sorted (names : List String) : List String := names.mergeSort fun a b => decide (a ≤ b)

def segment (p : Parameter) : Except Error String := do
  return Percent.encode segmentSafe (← p.unicode)

/-- All parameters as they stand in a path, those included that no placeholder names. -/
def segments (params : Parameters) : Except Error (List (String × String)) :=
  params.mapM fun (name, p) => do return (name, ← segment p)

def requireFilled (params : Parameters) (name : String) : Except Error Unit :=
  match params.lookup name with
  | some p => do require (!(← p.write).isEmpty) name .empty
  | none => .ok ()

/-- The path: every placeholder must have a parameter, and none an empty one. The names of a
template are a set, of which no order is promised: they are gone through as `visit` puts them. -/
def pathInOrder (visit : List String → List String) (r : Route) (params : Parameters) :
    Except Error String := do
  let pieces ← (Template.read r.template.toList).mapError Error.template
  let names := names pieces
  let missing := names.filter fun name => (params.lookup name).isNone
  require missing.isEmpty "Route" (.parametersMissing (sorted missing))
  (visit names).forM (requireFilled params)
  let segments ← segments params
  let text := fun name => segments.lookup name
  let path ← (Template.fill text Template.maxDepth r.template.toList).mapError Error.template
  return String.ofList path

def path : Route → Parameters → Except Error String := pathInOrder id

/-- The name that the route itself has among the arguments of a call. -/
def ownName : String := "self"

/-- The path for arguments that are given by name. The route is one of them, so that no parameter
can have its name. -/
def call (visit : List String → List String) (r : Route) (arguments : Parameters) :
    Except Error String :=
  if (arguments.lookup ownName).isSome then .error .wrongKind else r.pathInOrder visit arguments

def webhookMessage : Route :=
  ⟨"PATCH", "/webhooks/\x7bapplication_id\x7d/\x7btoken\x7d/messages/\x7bmessage_id\x7d"⟩

def channelInvites : Route := ⟨"POST", "/channels/\x7bchannel_id\x7d/invites"⟩

end Route

end BotPayload
