import BotPayload.Argument

/-!
Button styles and their wire codes.
-/

namespace BotPayload

/-- The appearance of a button. A link opens a page; every other style sends an interaction. A
code that is not known stands for `unknown`. -/
inductive Style where
  | unknown
  | primary
  | secondary
  | success
  | danger
  | link
deriving DecidableEq, Repr

namespace Style

def known : List Style := [.primary, .secondary, .success, .danger, .link]

def code : Style → Int
  | .unknown => -1
  | .primary => 1
  | .secondary => 2
  | .success => 3
  | .danger => 4
  | .link => 5

def name : Style → String
  | .unknown => "UNKNOWN"
  | .primary => "PRIMARY"
  | .secondary => "SECONDARY"
  | .success => "SUCCESS"
  | .danger => "DANGER"
  | .link => "LINK"

def label : Style → String
  | .unknown => "unknown"
  | .primary => "primary"
  | .secondary => "secondary"
  | .success => "success"
  | .danger => "danger"
  | .link => "link"

def ofCode (v : Value) : Style := (known.find? fun s => v.equalsInt s.code).getD .unknown

def ofName? (name : String) : Option Style :=
  (unknown :: known).find? fun s => s.name == name

def ofLabel? (label : String) : Option Style := known.find? fun s => s.label == label

theorem ofCode_code (s : Style) : ofCode (.int s.code) = s := by
  cases s <;> rfl

end Style

end BotPayload
