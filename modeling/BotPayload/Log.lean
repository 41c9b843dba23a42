import BotPayload.Error

/-!
What a computation reports besides its result: events, in order, each with a level and the part of
the library that it comes from. Events reported before an error are kept.
-/

namespace BotPayload

inductive LogLevel where
  | debug
  | warning
deriving DecidableEq, Repr

def LogLevel.name : LogLevel → String
  | .debug => "DEBUG"
  | .warning => "WARNING"

def LogLevel.severity : LogLevel → Nat
  | .debug => 10
  | .warning => 30

inductive Event where
  /-- A button came with a style code that is not known. -/
  | styleNotKnown (code : Int)
  | componentSkipped (kind : Value)
  | rowDropped
  /-- A request to edit a message was built, with these keys in its body. -/
  | messageBuilt (message : Text) (keys : List String) (files : Nat)
  | inviteBuilt (channel : Value) (body : Value)

namespace Event

def level : Event → LogLevel
  | .componentSkipped _ => .warning
  | .rowDropped => .warning
  | _ => .debug

def source : Event → String
  | .styleNotKnown _ => "buttonforge.wire"
  | .componentSkipped _ => "buttonforge.wire"
  | .rowDropped => "buttonforge.message_update"
  | .messageBuilt _ _ _ => "buttonforge.message_update"
  | .inviteBuilt _ _ => "buttonforge.invite"

def text : Event → String
  | .styleNotKnown code => "Button style " ++ intText code ++ " not recognised, keeping as UNKNOWN"
  | .componentSkipped kind => "Skipping unsupported component type " ++ kind.text
  | .rowDropped => "Dropping action row without buttons from message"
  | .messageBuilt message keys files =>
    "message update for " ++ message.shown ++ ": " ++ (Value.list (keys.map .str)).literal ++ ", "
      ++ natText files ++ " file(s)"
  | .inviteBuilt channel body => "invite for channel " ++ channel.text ++ ": " ++ body.literal

/-- The line of a log that shows an event, with the time at which it is written. -/
def line (time : String) (e : Event) : String :=
  time ++ " " ++ e.level.name ++ " " ++ e.source ++ ": " ++ e.text

end Event

/-- A computation that may fail, with the events that it reported. -/
structure Logged (α : Type) where
  events : List Event
  result : Except Error α

namespace Logged

def ok (a : α) : Logged α := ⟨[], .ok a⟩

def fail (e : Error) : Logged α := ⟨[], .error e⟩

def ofExcept (r : Except Error α) : Logged α := ⟨[], r⟩

def report (e : Event) : Logged Unit := ⟨[e], .ok ()⟩

protected def bind (x : Logged α) (f : α → Logged β) : Logged β :=
  match x.result with
  | .ok a => ⟨x.events ++ (f a).events, (f a).result⟩
  | .error e => ⟨x.events, .error e⟩

instance : Monad Logged where
  pure := Logged.ok
  bind := Logged.bind

instance : MonadLift (Except Error) Logged where
  monadLift := Logged.ofExcept

instance : MonadExceptOf Error Logged where
  throw := Logged.fail
  tryCatch x handle :=
    match x.result with
    | .ok _ => x
    | .error e => ⟨x.events ++ (handle e).events, (handle e).result⟩

theorem result_bind (x : Logged α) (f : α → Logged β) :
    (x >>= f).result = x.result >>= fun a => (f a).result := by
  obtain ⟨events, result⟩ := x
  cases result <;> rfl

@[simp] theorem result_pure (a : α) : (pure a : Logged α).result = .ok a := rfl

@[simp] theorem result_map (f : α → β) (x : Logged α) : (f <$> x).result = f <$> x.result := by
  obtain ⟨events, result⟩ := x
  cases result <;> rfl

@[simp] theorem events_map (f : α → β) (x : Logged α) : (f <$> x).events = x.events := by
  obtain ⟨events, result⟩ := x
  cases result with
  | error e => rfl
  | ok a => exact List.append_nil events

@[simp] theorem result_lift (r : Except Error α) : (liftM r : Logged α).result = r := rfl

@[simp] theorem result_report (e : Event) : (report e).result = .ok () := rfl

theorem id_map (x : Logged α) : id <$> x = x := by
  obtain ⟨events, result⟩ := x
  cases result with
  | error e => rfl
  | ok a => exact congrArg (Logged.mk · _) (List.append_nil events)

theorem bind_assoc (x : Logged α) (f : α → Logged β) (g : β → Logged γ) :
    x >>= f >>= g = x >>= fun a => f a >>= g := by
  obtain ⟨events, result⟩ := x
  cases result with
  | error e => rfl
  | ok a => cases h : (f a).result <;> simp [bind, Logged.bind, h]

theorem bind_congr_of_ok {x : Logged α} {f g : α → Logged β}
    (h : ∀ a, x.result = .ok a → f a = g a) : x >>= f = x >>= g := by
  obtain ⟨events, result⟩ := x
  cases result with
  | error e => rfl
  | ok a => simp only [bind, Logged.bind, h a rfl]

instance : LawfulMonad Logged := LawfulMonad.mk' Logged id_map (fun _ _ => rfl) bind_assoc

instance : LawfulMonadLift (Except Error) Logged where
  monadLift_pure _ := rfl
  monadLift_bind r _ := by cases r <;> rfl

end Logged

end BotPayload
