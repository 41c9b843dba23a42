import BotPayload.Button.Equality
import BotPayload.Main
import BotPayload.Message.Edit
import BotPayload.Row.Step
import BotPayload.Proofs.Button.Constraints
import BotPayload.Proofs.Value.Schema
import BotPayload.Proofs.Button.Reading
import BotPayload.Proofs.Button.Reachable
import BotPayload.Proofs.Button.Format
import BotPayload.Proofs.Button.RoundTrip
import BotPayload.Proofs.Row.RoundTrip
import BotPayload.Proofs.Template.Bare
import BotPayload.Proofs.Route.Path
import BotPayload.Proofs.Message.Steps
import BotPayload.Proofs.Message.History
import BotPayload.Proofs.Message.Request
import BotPayload.Proofs.Message.Copying
import BotPayload.Proofs.Message.Limits
import BotPayload.Proofs.Button.Refusal
import BotPayload.Proofs.Row.Refusal
import BotPayload.Proofs.Invite.Steps
import BotPayload.Proofs.Invite.Naming
import BotPayload.Proofs.Invite.Request
import BotPayload.Proofs.Value.Magnitude
import BotPayload.Proofs.Invite.Consistent
import BotPayload.Proofs.Route.Segment
import BotPayload.Proofs.Route.Readback
import BotPayload.Proofs.Button.NormalForm
import BotPayload.Proofs.Row.NormalForm
import BotPayload.Proofs.Row.Reading
import BotPayload.Proofs.Row.Reachable
import BotPayload.Proofs.View.Placement
import BotPayload.Proofs.View.Components
import BotPayload.Proofs.Sequence.Order
import BotPayload.Proofs.Button.Writes
import BotPayload.Proofs.Button.Holdings
import BotPayload.Proofs.Invite.Removal
import BotPayload.Proofs.Message.Independence
import BotPayload.Proofs.Message.Outbound
import BotPayload.Proofs.Invite.Independence
import BotPayload.Proofs.Button.EqualityLaws
import BotPayload.Proofs.Json.Reader
import BotPayload.Proofs.Json.RoundTrip
import BotPayload.Proofs.Text.Line
import BotPayload.Proofs.CommandLine.Failure
import BotPayload.Proofs.CommandLine.InviteOptions
import BotPayload.Proofs.CommandLine.Printing
import BotPayload.Proofs.CommandLine.Exclusive
import BotPayload.Proofs.CommandLine.Kept
import BotPayload.Proofs.Number.Truncation
import BotPayload.Proofs.Invite.Age
import BotPayload.Proofs.Button.Blame
import BotPayload.Proofs.Button.Derivations
import BotPayload.Proofs.Message.Token
import BotPayload.Proofs.Files.Walk
import BotPayload.Proofs.Message.FilePaths
import BotPayload.Proofs.Button.Factories
import BotPayload.Proofs.Button.Precedence
import BotPayload.Proofs.Row.Skipping
import BotPayload.Proofs.Invite.AuditReason
import BotPayload.Proofs.Route.Substitution
import BotPayload.Proofs.Route.DotSegments
import BotPayload.Proofs.Settings.Loading
import BotPayload.Proofs.Row.Replacement
import BotPayload.Proofs.Row.Disabling
import BotPayload.Proofs.Number.Snowflake
