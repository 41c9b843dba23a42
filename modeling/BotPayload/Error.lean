import BotPayload.Number.Numeral
import BotPayload.Template.Basic
import BotPayload.Text.Wide
import BotPayload.Time.Instant
import BotPayload.Value.Schema

/-!
Everything that can go wrong, as causes. A refused argument names the field it was given for and
the reason; the other errors come from values of a wrong kind, from text that does not read, and
from look-ups that fail. `Error.message` holds all wording.
-/

namespace BotPayload

inductive Reason where
  | missing
  | empty
  | tooLong (limit : Int) (length : Nat)
  | negative
  | holdsMissing
  /-- A reason in the caller's own words. -/
  | stated (message : String)
  | notSnowflake (text : String)
  | notStyle (kind : String)
  | unknownStyle
  | notIdentity (kind : String)
  | labelNeeded
  | emojiNeeded
  | linkNeedsUrl
  | needsCustomId (style : String)
  | staysLink
  | neverLink
  | nothingShown
  | unencodableStyle
  | noCounterpart (style : String)
  | buttonPayload (faults : List Fault)
  | rowPayload (faults : List Fault)
  | notButtons
  | noButtons
  | tooManyButtons (limit count : Nat)
  | notRows
  | tooManyRows (limit : Nat)
  | tooManyViewRows (limit : Nat)
  | notEmbeds
  | tooManyEmbeds (limit : Nat)
  | embedsTooLong (limit total : Nat)
  | tooManyFiles (limit : Nat)
  | fileNotFound (path : String)
  | ageTooLong (limit : Nat) (got : String)
  | tooManyUses (limit : Nat) (got : String)
  | unknownTarget
  | noTargetIn (channel : String)
  | parametersMissing (names : List String)

def faultList (faults : List Fault) : String :=
  String.intercalate "; " (faults.map Fault.message)

def Reason.message (field : String) : Reason → String
  | .missing => field ++ " may not be None"
  | .empty => field ++ " may not be empty"
  | .tooLong limit length =>
    field ++ " may not be longer than " ++ intText limit ++ " characters (got " ++ natText length
      ++ ")"
  | .negative => field ++ " may not be negative"
  | .holdsMissing => field ++ " may not contain None"
  | .stated message => message
  | .notSnowflake text => field ++ " is not a valid snowflake: " ++ quoted text
  | .notStyle kind => "Style must be a ButtonStyle, not " ++ kind
  | .unknownStyle => "Cannot make button with unknown style"
  | .notIdentity kind => "Identity must be a CustomId or Url, not " ++ kind
  | .labelNeeded => "Label may not be empty unless the button has an emoji"
  | .emojiNeeded => "Cannot remove the emoji of a button without a label"
  | .linkNeedsUrl => "Link buttons must have a url, not a custom id"
  | .needsCustomId style => style ++ " buttons must have a custom id, not a url"
  | .staysLink => "Cannot change a link button to another style"
  | .neverLink => "Cannot change a styled button to a link button"
  | .nothingShown => "Cannot build a button without a label and emoji; provide at least one"
  | .unencodableStyle => "Cannot encode a button with an unknown style"
  | .noCounterpart style => style ++ " has no discord.py equivalent"
  | .buttonPayload faults => "Invalid button payload: " ++ faultList faults
  | .rowPayload faults => "Invalid action row payload: " ++ faultList faults
  | .notButtons => "Action rows can only hold buttons"
  | .noButtons => "Action rows need at least one button"
  | .tooManyButtons limit count =>
    "Action rows hold at most " ++ natText limit ++ " buttons (got " ++ natText count ++ ")"
  | .notRows => "ActionRows must be ActionRow instances"
  | .tooManyRows limit => "A message holds at most " ++ natText limit ++ " action rows"
  | .tooManyViewRows limit => "Messages hold at most " ++ natText limit ++ " action rows"
  | .notEmbeds => "Embeds must be discord.Embed instances"
  | .tooManyEmbeds limit => "A message holds at most " ++ natText limit ++ " embeds"
  | .embedsTooLong limit total =>
    "Embeds may hold at most " ++ natText limit ++ " characters in total (got " ++ natText total
      ++ ")"
  | .tooManyFiles limit => "A message holds at most " ++ natText limit ++ " files"
  | .fileNotFound path => "File not found: " ++ path
  | .ageTooLong limit got =>
    "Max age may not exceed " ++ natText limit ++ " seconds (got " ++ got ++ ")"
  | .tooManyUses limit got => "Max uses may not exceed " ++ natText limit ++ " (got " ++ got ++ ")"
  | .unknownTarget => "Cannot set an unknown target type"
  | .noTargetIn channel => "Cannot set a target type for " ++ channel ++ " channels"
  | .parametersMissing names => "Missing route parameters: " ++ String.intercalate ", " names

inductive Error where
  /-- An argument is refused; `field` tells which. -/
  | refused (field : String) (reason : Reason)
  /-- A value is of a kind that the operation does not take. -/
  | wrongKind
  /-- A value has no such part. -/
  | noPart
  /-- A text was to be read as a whole number. -/
  | numeral (text : String) (fault : Numeral.Fault)
  | template (fault : Template.Fault)
  | instant (text : String) (fault : Instant.Fault)
  | missingKey (key : String)
  /-- A number has too many digits to be written. -/
  | tooManyDigits
  /-- A text holds surrogates, which UTF-8 does not encode. -/
  | surrogates (run : SurrogateRun)
  | noButtonAt (index : String)
  | positionOutOfRange
  | viewRowOutOfRange (limit : Nat)
  | viewFull
  /-- A widget is one too many for its row. -/
  | viewRowFull (row width limit : Nat)
  | noViewRow
  | nulInPath
  | isDirectory (path : String)
  | notDirectory (path : String)
  | pathTooLong (path : String)
  | unknownLogLevel (name : String)
  /-- An infinite number was to be made whole. -/
  | infiniteNumber
  | durationTooLong (days : Int)

inductive ErrorKind where
  | argument
  | type
  | part
  | value
  | key
  | position
  | encoding
  | directory
  | notDirectory
  | system
  | range
deriving DecidableEq, Repr

namespace Error

def kind : Error → ErrorKind
  | .refused _ _ => .argument
  | .wrongKind => .type
  | .noPart => .part
  | .numeral _ _ => .value
  | .template (.unbound _) => .key
  | .template .noPart => .part
  | .template .notAnIndex => .type
  | .template .indexOutOfRange => .position
  | .template _ => .value
  | .instant _ .outOfRange => .range
  | .instant _ _ => .value
  | .missingKey _ => .key
  | .tooManyDigits => .value
  | .surrogates _ => .encoding
  | .noButtonAt _ => .position
  | .positionOutOfRange => .position
  | .viewRowOutOfRange _ => .value
  | .viewFull => .value
  | .viewRowFull _ _ _ => .value
  | .noViewRow => .value
  | .nulInPath => .value
  | .isDirectory _ => .directory
  | .notDirectory _ => .notDirectory
  | .pathTooLong _ => .system
  | .unknownLogLevel _ => .value
  | .infiniteNumber => .range
  | .durationTooLong _ => .range

def field? : Error → Option String
  | .refused field _ => some field
  | _ => none

/-- The literal of a text that does not read is cut to this many characters. -/
def literalLimit : Nat := 200

def numeralMessage (text : String) : Numeral.Fault → String
  | .malformed =>
    "invalid literal for int() with base 10: "
      ++ String.ofList ((quoted text).toList.take literalLimit)
  | .tooLong digits =>
    "Exceeds the limit (" ++ natText Numeral.maxDigits
      ++ " digits) for integer string conversion: value has " ++ natText digits
      ++ " digits; use sys.set_int_max_str_digits() to increase the limit"

def surrogatesMessage (run : SurrogateRun) : String :=
  let place :=
    if run.length = 1 then
      "character '" ++ String.ofList (Text.surrogateEscape run.offset) ++ "' in position "
        ++ natText run.position
    else
      "characters in position " ++ natText run.position ++ "-"
        ++ natText (run.position + run.length - 1)
  "'utf-8' codec can't encode " ++ place ++ ": surrogates not allowed"

/-- A number of days is named as long as it fits 32 bits. -/
def durationMessage (days : Int) : String :=
  if -Int.pow 2 31 ≤ days ∧ days < Int.pow 2 31 then
    "days=" ++ intText days ++ "; must have magnitude <= 999999999"
  else "Python int too large to convert to C int"

def message : Error → String
  | .refused field reason => reason.message field
  | .wrongKind => "a value of this kind is not accepted"
  | .noPart => "a value of this kind has no such part"
  | .numeral text fault => numeralMessage text fault
  | .template fault => fault.message
  | .instant text fault => fault.message text
  | .missingKey key => quoted key
  | .tooManyDigits =>
    "Exceeds the limit (" ++ natText Numeral.maxDigits
      ++ " digits) for integer string conversion; use sys.set_int_max_str_digits() to increase "
      ++ "the limit"
  | .surrogates run => surrogatesMessage run
  | .noButtonAt index => "row has no button at index " ++ index
  | .positionOutOfRange => "tuple index out of range"
  | .viewRowOutOfRange limit =>
    "row cannot be negative or greater than or equal to " ++ natText limit
  | .viewFull => "maximum number of children exceeded"
  | .viewRowFull row width limit =>
    "item would not fit at row " ++ natText row ++ " (" ++ natText width ++ " > " ++ natText limit
      ++ " width)"
  | .noViewRow => "could not find open space for item"
  | .nulInPath => "embedded null byte"
  | .isDirectory path => "[Errno 21] Is a directory: " ++ quoted path
  | .notDirectory path => "[Errno 20] Not a directory: " ++ quoted path
  | .pathTooLong path => "[Errno 36] File name too long: " ++ quoted path
  | .unknownLogLevel name => "Unknown level: " ++ quoted name
  | .infiniteNumber => "cannot convert float infinity to integer"
  | .durationTooLong days => durationMessage days

end Error

end BotPayload
