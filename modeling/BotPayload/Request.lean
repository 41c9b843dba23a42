import BotPayload.Settings.Basic
import BotPayload.Text.Percent
import BotPayload.Value.Writing

/-!
Requests, ready to be sent by whatever talks to the network.
-/

namespace BotPayload

structure Upload where
  name : String
  data : List UInt8
deriving DecidableEq, Repr

structure Request where
  method : String
  path : String
  body : Value
  files : List Upload
  reason : Option Text

namespace Request

def reasonSafe : List Char := ['/', ' ']

def headers (r : Request) : Except Error (List (String × String)) :=
  match r.reason with
  | some reason =>
    if reason.isEmpty then .ok []
    else do return [("X-Audit-Log-Reason", Percent.encode reasonSafe (← reason.unicode))]
  | none => .ok []

def url (r : Request) (s : Settings) : String := s.url r.path

end Request

end BotPayload
