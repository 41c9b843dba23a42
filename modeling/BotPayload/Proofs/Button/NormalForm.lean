import BotPayload.Proofs.Button.RoundTrip

/-!
# Normal forms of payloads

Many payloads describe the same button: members may be left out, numbers may be written as floats
or as text, an emoji may be void. Among them is one that the encoder writes. `NormalForm` says which
one it is by the members of a payload alone; `normalForm_of_decoded` says that decoding and encoding
bring every payload there, and that the normal form is read and written without change.
-/

namespace BotPayload

/-- A member, or a default in place of one that is missing, void, empty or zero. -/
def Value.orElse (x : Option Value) (default : Value) : Value :=
  (x.filter isTruthy).getD default

namespace Emoji

/-- The id in a normal form. Nothing is written as null, what is empty or zero stays as it is, and
everything else becomes a whole number. -/
inductive NormalId : Option Value → Value → Prop
  | missing : NormalId none .null
  | void : v.isTruthy = false → (∀ x, v ≠ .float x) → NormalId (some v) v
  -- Among the floats that are zero, the format has the two of `Binary64.zero`.
  | zero : x.isZero = true → y.isZero = true → (∀ negative, x = .zero negative → y = x) →
      NormalId (some (.float x)) (.float y)
  | whole : v.isTruthy = true → v.whole? = some n → NormalId (some v) (.int n)
  | numeral : s ≠ "" → Numeral.read s.toList = .ok n → NormalId (some (.str s)) (.int n)

def animation : Option Value → Members
  | some (.bool true) => [("animated", .bool true)]
  | _ => []

inductive NormalForm (v : Value) : Value → Prop
  | intro : NormalId (v.get? "id") i →
      NormalForm v (.object ([("id", i), ("name", Value.orElse (v.get? "name") (.str ""))]
        ++ animation (v.get? "animated")))

end Emoji

namespace Button

inductive IdentityMember (v : Value) : String × Value → Prop
  | customId : v.get? "custom_id" = some x → v.get? "url" = none → IdentityMember v ("custom_id", x)
  | url : v.get? "custom_id" = none → v.get? "url" = some x → IdentityMember v ("url", x)

inductive EmojiMember : Option Value → Members → Prop
  | absent : (∀ m ms, x ≠ some (.object (m :: ms))) → EmojiMember x []
  | given : Emoji.NormalForm (.object (m :: ms)) e →
      EmojiMember (some (.object (m :: ms))) [("emoji", e)]

inductive NormalForm (v : Value) : Value → Prop
  | intro : v.get? "style" = some code → code.whole? = some n → IdentityMember v m →
      EmojiMember (v.get? "emoji") ms →
      NormalForm v (.object ([("type", .int 2), ("style", .int n),
        ("label", Value.orElse (v.get? "label") (.str "")),
        ("disabled", Value.orElse (v.get? "disabled") (.bool false)), m] ++ ms))

def CodeKnown (v : Value) : Prop :=
  ∃ code n, v.get? "style" = some code ∧ code.whole? = some n ∧ 1 ≤ n ∧ n ≤ 5

end Button

-- ---------------------------------------------------------------------------
-- What the rules of reading keep
-- ---------------------------------------------------------------------------

theorem TextRead.orElse (h : TextRead x s) : Value.orElse x (.str "") = .str s := by
  cases h with
  | missing => rfl
  | given => by_cases empty : s = "" <;> simp [Value.orElse, Value.isTruthy, Option.filter, empty]

theorem FlagRead.orElse (h : FlagRead x f) : Value.orElse x (.bool false) = .bool f := by
  cases h with
  | missing => rfl
  | given => cases f <;> rfl

theorem NameRead.orElse (h : NameRead x s) : Value.orElse x (.str "") = .str s := by
  cases h with
  | missing => rfl
  | null => rfl
  | given => exact TextRead.given.orElse

namespace Emoji

theorem IdRead.normal :
    IdRead x i → NormalId x (match i with | none => .null | some id => id.toValue) := by
  intro h
  cases h with
  | missing => exact .missing
  | null => exact .void rfl (by simp)
  | @int n =>
    by_cases zero : n = 0
    · subst zero
      exact .void rfl (by simp)
    · exact .whole (by simpa [Value.isTruthy] using zero) rfl
  | float nonzero whole => exact .whole (by simpa [Value.isTruthy] using nonzero) whole
  | @zero x zero =>
    -- The decoder keeps the sign alone, which is all there is to a zero of the format.
    refine .zero zero rfl fun negative same => ?_
    subst same
    cases negative <;> rfl
  | empty => exact .void rfl (by simp)
  | numeral ne read => exact .numeral ne read

theorem animation_read (h : FlagRead x f) :
    animation x = if f then [("animated", .bool true)] else [] := by
  cases h with
  | missing => rfl
  | given => cases f <;> rfl

theorem Reads.normalForm {v : Value} {e : Emoji} (h : Reads v e) : NormalForm v e.encode := by
  rw [encode, ← animation_read h.animated, ← h.name.orElse]
  exact .intro h.id.normal

end Emoji

namespace Button

theorem IdentityRead.member {v : Value} :
    IdentityRead (v.get? "custom_id") (v.get? "url") i → IdentityMember v (match i with
      | .customId id => ("custom_id", .str id)
      | .url address => ("url", .str address)) := by
  intro h
  generalize hx : v.get? "custom_id" = x, hy : v.get? "url" = y at h
  cases h with
  | customId => exact .customId hx hy
  | url => exact .url hx hy

theorem EmojiRead.member : EmojiRead x e → EmojiMember x (match e with
    | some e => [("emoji", e.encode)]
    | none => []) := by
  intro h
  cases h with
  | missing => exact .absent nofun
  | null => exact .absent nofun
  | empty => exact .absent nofun
  | @given ms _ ne reads =>
    cases ms with
    | nil => exact absurd rfl ne
    | cons m ms => exact .given reads.normalForm

variable {v : Value} {b : Button}

theorem Reads.known (h : Reads v b) (code : CodeKnown v) : b.style ≠ .unknown := by
  obtain ⟨code, n, given, whole, low, high⟩ := code
  obtain ⟨_, same, read⟩ := h.style
  cases given.symm.trans same
  exact read.known_of_code whole low high

theorem Reads.normalForm (h : Reads v b) (known : b.style ≠ .unknown) : NormalForm v b.body := by
  obtain ⟨code, given, read⟩ := h.style
  rw [body, ← h.label.orElse, ← h.disabled.orElse]
  exact .intro given (read.whole_of_known known) h.identity.member h.emoji.member

theorem settled_of_decoded (h : (decode v).result = .ok b) (code : CodeKnown v) : b.Settled :=
  (Reachable.create (o := .decode v) h).settled ((decode_ok.mp h).1.known code)

theorem normalForm_of_decoded (h : (decode v).result = .ok b) (code : CodeKnown v) :
    NormalForm v b.body ∧ b.encode = .ok b.body ∧ (decode b.body).result = .ok b := by
  have settled := settled_of_decoded h code
  exact ⟨(decode_ok.mp h).1.normalForm settled.known, settled.decode_encode⟩

end Button

end BotPayload
