import BotPayload.Button.Basic
import BotPayload.Value.Equality

/-!
Equality of buttons, and how many members a set of two has. Buttons are equal when all their parts
are; emoji are compared as the user interface does, which is not symmetric. A set compares two of
its members only where their hashes are equal.
-/

namespace BotPayload

namespace Button

def sameCode : Option Quantity → Option Quantity → Bool
  | none, none => true
  | some a, some b => a.toValue.same b.toValue
  | _, _ => false

def sameEmoji : Option Emoji → Option Emoji → Bool
  | none, none => true
  | some a, some b => a.same b
  | _, _ => false

def sameEmojiKey : Option Emoji → Option Emoji → Bool
  | none, none => true
  | some a, some b => a.sameKey b
  | _, _ => false

def same (a b : Button) : Bool :=
  a.identity == b.identity && a.label == b.label && a.style == b.style
    && sameEmoji a.emoji b.emoji && a.disabled == b.disabled && sameCode a.unknownCode b.unknownCode

/-- All that a hash is made of agrees: the parts, numbers by value, and of the emoji id and name. -/
structure HashedAlike (a b : Button) : Prop where
  identity : a.identity = b.identity
  label : a.label = b.label
  style : a.style = b.style
  emoji : sameEmojiKey a.emoji b.emoji = true
  disabled : a.disabled = b.disabled
  code : sameCode a.unknownCode b.unknownCode = true

/-- A way to hash buttons. Others than those that are hashed alike may have one hash, too. -/
structure Hashing where
  hash : Button → Int
  alike : a.HashedAlike b → hash a = hash b

def textCode (s : String) : Nat := s.toList.foldl (fun n c => n * 0x110000 + c.toNat + 1) 0

/-- A hash of what tells apart the emoji of buttons that are equal: the name, and whether there is
an id. -/
def emojiHash : Option Emoji → Int
  | none => 0
  | some e => 2 * textCode e.name + (if e.id.isSome then 2 else 1)

theorem emojiHash_eq {e f : Option Emoji} (h : sameEmojiKey e f = true) :
    emojiHash e = emojiHash f := by
  rcases e with _ | ⟨name, id, _⟩ <;> rcases f with _ | ⟨name', id', _⟩
  · rfl
  · nomatch h
  · nomatch h
  · cases id <;> cases id' <;> simp_all [sameEmojiKey, Emoji.sameKey, emojiHash]

def Hashing.byEmoji : Hashing where
  hash b := emojiHash b.emoji
  alike same := emojiHash_eq same.emoji

end Button

namespace Argument

def same : Argument Button → Argument Button → Bool
  | .given a, .given b => a.same b
  | .missing, .missing => true
  | .foreign v, .foreign w => v.same w
  | _, _ => false

def isHashable : Argument Button → Bool
  | .foreign v => v.isHashable
  | _ => true

/-- The size of the set of two arguments. The first one is in the set when the second one comes,
so that it is the first one that is asked whether they are equal. -/
def setSize (h : Button.Hashing) (a b : Argument Button) : Except Error Nat := do
  if !a.isHashable || !b.isHashable then throw .wrongKind
  let sameHash := match a, b with
    | .given a, .given b => h.hash a == h.hash b
    | _, _ => true
  return if sameHash && a.same b then 1 else 2

end Argument

end BotPayload
