import BotPayload.Button.Payload
import BotPayload.Proofs.Button.Constraints
import BotPayload.Proofs.Value.Schema

/-!
# What a payload says about a button

Rules for the parts of a payload, one family for each member: which values may stand there, and
what they say. `Reads` puts them together. `decode_ok`: the decoder returns a button exactly when
the payload reads as that button and the button is valid; the schema, the defaults and the reading
of numerals are all in the rules.
-/

namespace BotPayload

-- ---------------------------------------------------------------------------
-- Rules
-- ---------------------------------------------------------------------------

inductive TextRead : Option Value → String → Prop
  | missing : TextRead none ""
  | given : TextRead (some (.str s)) s

inductive FlagRead : Option Value → Bool → Prop
  | missing : FlagRead none false
  | given : FlagRead (some (.bool f)) f

inductive NameRead : Option Value → String → Prop
  | missing : NameRead none ""
  | null : NameRead (some .null) ""
  | given : NameRead (some (.str s)) s

namespace Emoji

/-- The id of an emoji. What is empty or zero is kept as it came. -/
inductive IdRead : Option Value → Option EmojiId → Prop
  | missing : IdRead none none
  | null : IdRead (some .null) none
  | int : IdRead (some (.int n)) (some (.number n))
  | float : x.isZero = false → x.toInt? = some n → IdRead (some (.float x)) (some (.number n))
  | zero : x.isZero = true → IdRead (some (.float x)) (some (.floatZero (x == .zero true)))
  | empty : IdRead (some (.str "")) (some .emptyText)
  | numeral : s ≠ "" → Numeral.read s.toList = .ok n →
      IdRead (some (.str s)) (some (.number n))

structure Reads (v : Value) (e : Emoji) : Prop where
  id : IdRead (v.get? "id") e.id
  name : NameRead (v.get? "name") e.name
  animated : FlagRead (v.get? "animated") e.animated

end Emoji

namespace Button

inductive StyleRead (code : Value) : Style → Option Quantity → Prop
  | known : s ≠ .unknown → code.whole? = some s.code → StyleRead code s none
  | other : code.whole? = some n → ¬(1 ≤ n ∧ n ≤ 5) → q.toValue = code →
      StyleRead code .unknown (some q)

inductive IdentityRead : Option Value → Option Value → Identity → Prop
  | customId : IdentityRead (some (.str s)) none (.customId s)
  | url : IdentityRead none (some (.str s)) (.url s)

inductive EmojiRead : Option Value → Option Emoji → Prop
  | missing : EmojiRead none none
  | null : EmojiRead (some .null) none
  | empty : EmojiRead (some (.object [])) none
  | given : ms ≠ [] → Emoji.Reads (.object ms) e → EmojiRead (some (.object ms)) (some e)

/-- The button that a payload describes. -/
structure Reads (v : Value) (b : Button) : Prop where
  object : ∃ ms, v = .object ms
  type : ∃ t, v.get? "type" = some t ∧ t.whole? = some 2
  style : ∃ code, v.get? "style" = some code ∧ StyleRead code b.style b.unknownCode
  identity : IdentityRead (v.get? "custom_id") (v.get? "url") b.identity
  label : TextRead (v.get? "label") b.label
  disabled : FlagRead (v.get? "disabled") b.disabled
  emoji : EmojiRead (v.get? "emoji") b.emoji

end Button

-- ---------------------------------------------------------------------------
-- Single members
-- ---------------------------------------------------------------------------

section
variable {x : Option Value}

theorem textRead_iff :
    (∀ v, x = some v → Schema.faults (.kind [.string]) v = []) ∧
      s = (match x with | some (.str s) => s | _ => "") ↔ TextRead x s := by
  constructor
  · rintro ⟨shape, rfl⟩
    cases x with
    | none => exact .missing
    | some v =>
      obtain ⟨s, rfl⟩ : ∃ s, v = .str s := by simpa using shape v rfl
      exact .given
  · rintro (_ | _)
    · exact ⟨nofun, rfl⟩
    · exact ⟨by simp, rfl⟩

theorem flagRead_iff :
    (∀ v, x = some v → Schema.faults (.kind [.boolean]) v = []) ∧
      f = (match x with | some (.bool b) => b | _ => false) ↔ FlagRead x f := by
  constructor
  · rintro ⟨shape, rfl⟩
    cases x with
    | none => exact .missing
    | some v =>
      obtain ⟨f, rfl⟩ : ∃ f, v = .bool f := by simpa using shape v rfl
      exact .given
  · rintro (_ | _)
    · exact ⟨nofun, rfl⟩
    · exact ⟨by simp, rfl⟩

theorem nameRead_iff :
    (∀ v, x = some v → Schema.faults (.kind [.string, .null]) v = []) ∧
      s = (match x with | some (.str s) => s | _ => "") ↔ NameRead x s := by
  constructor
  · rintro ⟨shape, rfl⟩
    cases x with
    | none => exact .missing
    | some v =>
      have : (∃ s, v = .str s) ∨ v = .null := by simpa using shape v rfl
      rcases this with ⟨s, rfl⟩ | rfl
      · exact .given
      · exact .null
  · rintro (_ | _ | _)
    · exact ⟨nofun, rfl⟩
    · exact ⟨by simp, rfl⟩
    · exact ⟨by simp, rfl⟩

end

-- ---------------------------------------------------------------------------
-- Emoji
-- ---------------------------------------------------------------------------

theorem Binary64.truncate?_of_toInt? {x : Binary64} (h : x.toInt? = some n) :
    x.truncate? = some n := by
  cases x with
  | infinite s => cases h
  | finite s m e =>
    simp only [toInt?] at h
    split at h
    · rename_i whole
      cases h
      exact congrArg some (Int.tdiv_eq_ediv_of_dvd (Int.dvd_of_emod_eq_zero whole))
    · cases h

theorem Binary64.toInt?_of_isZero {x : Binary64} (h : x.isZero = true) : x.toInt? = some 0 := by
  cases x with
  | infinite s => cases h
  | finite s m e =>
    obtain rfl : m = 0 := by simpa [isZero] using h
    have zero : (ratio s 0 e).1 = 0 := by cases s <;> simp [ratio, apply_ite Prod.fst]
    simp [toInt?, zero]

namespace Emoji

theorem decodeId_ok {x : Option Value} :
    (∀ v, x = some v → Schema.faults (.kind [.string, .integer, .null]) v = []) ∧
      decodeId x = .ok i ↔ IdRead x i := by
  cases x with
  | none =>
    simp only [decodeId, Except.ok.injEq]
    constructor
    · rintro ⟨_, rfl⟩
      exact .missing
    · rintro ⟨⟩
      exact ⟨nofun, rfl⟩
  | some v =>
    cases v with
    | null =>
      simp only [decodeId, Except.ok.injEq]
      constructor
      · rintro ⟨_, rfl⟩
        exact .null
      · rintro ⟨⟩
        exact ⟨by simp, rfl⟩
    | int n =>
      simp only [decodeId, Except.ok.injEq]
      constructor
      · rintro ⟨_, rfl⟩
        exact .int
      · rintro ⟨⟩
        exact ⟨by simp [Value.whole?], rfl⟩
    | float x =>
      constructor
      · rintro ⟨shape, h⟩
        obtain ⟨n, hn⟩ : ∃ n, x.toInt? = some n := by simpa [Value.whole?] using shape _ rfl
        cases zero : x.isZero with
        | true =>
          simp only [decodeId, zero, ↓reduceIte, Except.ok.injEq] at h
          exact h ▸ .zero zero
        | false =>
          simp only [decodeId, zero, Bool.false_eq_true, ↓reduceIte,
            Binary64.truncate?_of_toInt? hn, Except.ok.injEq] at h
          exact h ▸ .float zero hn
      · rintro (_ | _ | _ | ⟨zero, hn⟩ | zero)
        · refine ⟨by simp [Value.whole?, hn], ?_⟩
          simp [decodeId, zero, Binary64.truncate?_of_toInt? hn]
        · refine ⟨by simp [Value.whole?, Binary64.toInt?_of_isZero zero], ?_⟩
          simp [decodeId, zero]
    | str s =>
      constructor
      · rintro ⟨_, h⟩
        by_cases ne : s = ""
        · subst ne
          cases h
          exact .empty
        · simp only [decodeId, ne, ↓reduceIte] at h
          split at h
          · rename_i n read
            cases h
            exact .numeral ne read
          · cases h
      · rintro (_ | _ | _ | _ | _ | _ | ⟨ne, read⟩)
        · exact ⟨by simp, rfl⟩
        · exact ⟨by simp, by simp [decodeId, ne, read]⟩
    | _ =>
      constructor
      · rintro ⟨shape, _⟩
        simp [Value.whole?] at shape
      · rintro ⟨⟩

theorem decode_ok {v : Value} {e : Emoji} :
    Schema.faults (.properties [("id", .kind [.string, .integer, .null]),
        ("name", .kind [.string, .null]), ("animated", .kind [.boolean])]) v = [] ∧
      decode v = .ok e ↔ Reads v e := by
  simp only [Schema.faults_properties, List.forall_mem_cons, decode, bind_ok, pure_ok]
  constructor
  · rintro ⟨⟨id, name, animated, _⟩, i, hi, rfl⟩
    exact ⟨decodeId_ok.mp ⟨id, hi⟩, nameRead_iff.mp ⟨name, rfl⟩, flagRead_iff.mp ⟨animated, rfl⟩⟩
  · rintro ⟨id, name, animated⟩
    obtain ⟨idShape, hi⟩ := decodeId_ok.mpr id
    obtain ⟨nameShape, hn⟩ := nameRead_iff.mpr name
    obtain ⟨animatedShape, ha⟩ := flagRead_iff.mpr animated
    obtain ⟨n, i, a⟩ := e
    refine ⟨⟨idShape, nameShape, animatedShape, List.forall_mem_nil _⟩, i, hi, ?_⟩
    rw [Emoji.mk.injEq]
    exact ⟨hn.symm, rfl, ha.symm⟩

end Emoji

namespace Button

theorem emojiSchema_faults {x : Value} :
    Schema.faults emojiSchema x = [] ↔ x = .null ∨ (∃ ms, x = .object ms) ∧
      Schema.faults (.properties [("id", .kind [.string, .integer, .null]),
        ("name", .kind [.string, .null]), ("animated", .kind [.boolean])]) x = [] := by
  cases x with
  | null => simp [emojiSchema, Value.get?]
  | _ => simp [emojiSchema]

theorem decodeEmoji_ok {v : Value} {e : Option Emoji} :
    (∀ x, v.get? "emoji" = some x → Schema.faults emojiSchema x = []) ∧ decodeEmoji v = .ok e ↔
      EmojiRead (v.get? "emoji") e := by
  unfold decodeEmoji
  cases v.get? "emoji" with
  | none =>
    constructor
    · rintro ⟨_, ⟨⟩⟩
      exact .missing
    · rintro ⟨⟩
      exact ⟨nofun, rfl⟩
  | some x =>
    simp only [Option.some.injEq, forall_eq', emojiSchema_faults]
    constructor
    · rintro ⟨rfl | ⟨⟨ms, rfl⟩, shape⟩, h⟩
      · cases h
        exact .null
      · cases ms with
        | nil =>
          cases h
          exact .empty
        | cons m ms =>
          obtain ⟨e', d, rfl⟩ := map_ok.mp h
          exact .given (List.cons_ne_nil m ms) (Emoji.decode_ok.mp ⟨shape, d⟩)
    · rintro (_ | _ | _ | ⟨ne, reads⟩)
      · exact ⟨.inl rfl, rfl⟩
      · exact ⟨.inr ⟨⟨_, rfl⟩, by simp [Value.get?]⟩, rfl⟩
      · obtain ⟨shape, d⟩ := Emoji.decode_ok.mpr reads
        refine ⟨.inr ⟨⟨_, rfl⟩, shape⟩, ?_⟩
        simp only [Value.isTruthy, List.isEmpty_eq_false_iff.mpr ne, Bool.not_false, ↓reduceIte]
        exact map_ok.mpr ⟨_, d, rfl⟩

-- ---------------------------------------------------------------------------
-- Buttons
-- ---------------------------------------------------------------------------

theorem ofValue?_of_whole {code : Value} (h : code.whole? = some n) :
    ∃ q, Quantity.ofValue? code = some q ∧ q.toValue = code := by
  cases code with
  | int m => exact ⟨.int m, rfl, rfl⟩
  | float x => exact ⟨.float x, rfl, rfl⟩
  | _ => cases h

theorem ofValue?_toValue (q : Quantity) : Quantity.ofValue? q.toValue = some q := by
  cases q <;> rfl

theorem styleRead_iff {code : Value} :
    (∃ n, code.whole? = some n) ∧ s = Style.ofCode code ∧
      q = (if Style.ofCode code = .unknown then Quantity.ofValue? code else none) ↔
    StyleRead code s q := by
  constructor
  · rintro ⟨⟨n, hn⟩, rfl, rfl⟩
    rw [Style.ofCode_of_whole hn]
    rcases Style.ofCode_int n with ⟨_, _, known, same⟩ | ⟨other, unknown⟩
    · rw [if_neg known]
      exact .known known (by rw [same, hn])
    · obtain ⟨q, hq, back⟩ := ofValue?_of_whole hn
      rw [if_pos unknown, unknown, hq]
      exact .other hn other back
  · rintro (⟨known, hn⟩ | ⟨hn, other, rfl⟩)
    · rw [Style.ofCode_of_whole hn, Style.ofCode_code, if_neg known]
      exact ⟨⟨_, hn⟩, rfl, rfl⟩
    · rcases Style.ofCode_int _ with ⟨low, high, _⟩ | ⟨_, unknown⟩
      · exact absurd ⟨low, high⟩ other
      · rw [Style.ofCode_of_whole hn, unknown, if_pos rfl, ofValue?_toValue]
        exact ⟨⟨_, hn⟩, rfl, rfl⟩

theorem StyleRead.code_iff {code : Value} (h : StyleRead code s q) : q ≠ none ↔ s = .unknown := by
  cases h with
  | known known _ => simp [known]
  | other _ _ _ => simp

theorem StyleRead.code_range {code : Value} (h : StyleRead code s (some q)) :
    ∃ n, q.toValue.whole? = some n ∧ ¬(1 ≤ n ∧ n ≤ 5) := by
  cases h with
  | other whole other same => exact ⟨_, same ▸ whole, other⟩

theorem StyleRead.known_of_code {code : Value} (h : StyleRead code s q)
    (whole : code.whole? = some n) (low : 1 ≤ n) (high : n ≤ 5) : s ≠ .unknown := by
  cases h with
  | known known _ => exact known
  | other whole' other _ =>
    cases whole.symm.trans whole'
    exact absurd ⟨low, high⟩ other

theorem StyleRead.whole_of_known {code : Value} (h : StyleRead code s q) (known : s ≠ .unknown) :
    code.whole? = some s.code := by
  cases h with
  | known _ whole => exact whole
  | other _ _ _ => exact absurd rfl known

theorem identityRead_iff {v : Value} (object : v = .object ms) :
    (∀ x, v.get? "custom_id" = some x → Schema.faults (.kind [.string]) x = []) ∧
      (∀ x, v.get? "url" = some x → Schema.faults (.kind [.string]) x = []) ∧
      Schema.faults (.oneOf ["custom_id", "url"]) v = [] ∧ decodeIdentity v = i.draft ↔
    IdentityRead (v.get? "custom_id") (v.get? "url") i := by
  have key : ∀ k, Schema.hasKey v k = true ↔ ∃ x, v.get? k = some x := by
    subst object
    exact fun k => Schema.hasKey_object
  simp only [Schema.faults_oneOf, key, decodeIdentity, textAt?]
  cases v.get? "custom_id" with
  | none =>
    cases v.get? "url" with
    | none =>
      constructor
      · rintro ⟨_, _, one, _⟩
        simp at one
      · rintro ⟨⟩
    | some y =>
      constructor
      · rintro ⟨_, shape, _, h⟩
        obtain ⟨s, rfl⟩ : ∃ s, y = .str s := by simpa using shape y rfl
        obtain rfl : Identity.url s = i := Identity.draft_inj.mp h
        exact .url
      · rintro ⟨⟩
        exact ⟨by simp, by simp, by simp, rfl⟩
  | some x =>
    cases v.get? "url" with
    | none =>
      constructor
      · rintro ⟨shape, _, _, h⟩
        obtain ⟨s, rfl⟩ : ∃ s, x = .str s := by simpa using shape x rfl
        obtain rfl : Identity.customId s = i := Identity.draft_inj.mp h
        exact .customId
      · rintro ⟨⟩
        exact ⟨by simp, by simp, by simp, rfl⟩
    | some y =>
      constructor
      · rintro ⟨_, _, one, _⟩
        simp at one
      · rintro ⟨⟩

theorem textAt?_getD (v : Value) (key : String) :
    (textAt? v key).getD "" = match v.get? key with | some (.str s) => s | _ => "" := by
  unfold textAt?
  cases v.get? key with
  | none => rfl
  | some x => cases x <;> rfl

def payloadDraft (v : Value) (emoji : Option Emoji) : Draft :=
  let code := (v.get? "style").getD .null
  { identity := decodeIdentity v
    label := some ((textAt? v "label").getD "")
    style := .given (Style.ofCode code)
    emoji
    disabled := match v.get? "disabled" with
      | some (.bool b) => b
      | _ => false
    unknownCode := if Style.ofCode code = .unknown then Quantity.ofValue? code else none }

theorem decode_result (v : Value) : (decode v).result = (do
    require (schema.faults v).isEmpty "Button" (.buttonPayload (schema.faults v))
    (payloadDraft v (← decodeEmoji v)).build) := by
  simp only [decode, Logged.result_bind, Logged.result_lift]
  congr
  funext _
  split <;> simp only [Logged.result_bind, Logged.result_lift, Logged.result_report] <;> rfl

theorem schema_faults {v : Value} :
    schema.faults v = [] ↔ (∃ ms, v = .object ms) ∧
      (∃ t, v.get? "type" = some t ∧ t.whole? = some 2) ∧
      (∃ code, v.get? "style" = some code ∧ ∃ n, code.whole? = some n) ∧
      (∀ x, v.get? "label" = some x → Schema.faults (.kind [.string]) x = []) ∧
      (∀ x, v.get? "custom_id" = some x → Schema.faults (.kind [.string]) x = []) ∧
      (∀ x, v.get? "url" = some x → Schema.faults (.kind [.string]) x = []) ∧
      (∀ x, v.get? "disabled" = some x → Schema.faults (.kind [.boolean]) x = []) ∧
      (∀ x, v.get? "emoji" = some x → Schema.faults emojiSchema x = []) ∧
      Schema.faults (.oneOf ["custom_id", "url"]) v = [] := by
  simp only [schema, Schema.faults_all, List.forall_mem_cons, Schema.faults_properties,
    Schema.faults_required, Schema.faults_exactly]
  constructor
  · rintro ⟨object, ⟨hasType, hasStyle, _⟩, ⟨type, style, label, id, url, disabled, emoji, _⟩, one, _⟩
    obtain ⟨ms, rfl⟩ : ∃ ms, v = .object ms := by simpa using object
    obtain ⟨t, ht⟩ := Schema.hasKey_object.mp hasType
    obtain ⟨code, hc⟩ := Schema.hasKey_object.mp hasStyle
    exact ⟨⟨ms, rfl⟩, ⟨t, ht, type t ht⟩, ⟨code, hc, by simpa using style code hc⟩, label, id, url,
      disabled, emoji, one⟩
  · rintro ⟨⟨ms, rfl⟩, ⟨t, ht, two⟩, ⟨code, hc, whole⟩, label, id, url, disabled, emoji, one⟩
    refine ⟨by simp, ⟨Schema.hasKey_object.mpr ⟨t, ht⟩, Schema.hasKey_object.mpr ⟨code, hc⟩,
      List.forall_mem_nil _⟩, ⟨?_, ?_, label, id, url, disabled, emoji, List.forall_mem_nil _⟩, one,
      List.forall_mem_nil _⟩
    · intro x hx
      cases ht.symm.trans hx
      exact two
    · intro x hx
      cases hc.symm.trans hx
      simpa using whole

/-- The decoder returns the valid buttons that a payload describes. -/
theorem decode_ok {v : Value} : (decode v).result = .ok b ↔ Reads v b ∧ b.Valid := by
  simp only [decode_result, bind_ok, require_ok, List.isEmpty_iff, Draft.build_ok, schema_faults,
    payloadDraft, draft, Draft.mk.injEq, Option.some.injEq, Argument.given.injEq]
  constructor
  · rintro ⟨_, ⟨object, type, ⟨code, hc, whole⟩, label, id, url, disabled, emoji, one⟩, e, he,
      ⟨identity, label', style, rfl, disabled', code'⟩, valid⟩
    obtain ⟨ms, hv⟩ := object
    rw [hc] at style code'
    refine ⟨⟨⟨ms, hv⟩, type, ⟨code, hc, styleRead_iff.mp ⟨whole, style.symm, code'.symm⟩⟩,
      (identityRead_iff hv).mp ⟨id, url, one, identity⟩,
      textRead_iff.mp ⟨label, label'.symm.trans (textAt?_getD v _)⟩,
      flagRead_iff.mp ⟨disabled, disabled'.symm⟩, decodeEmoji_ok.mp ⟨emoji, he⟩⟩, valid⟩
  · rintro ⟨⟨⟨ms, hv⟩, type, ⟨code, hc, styled⟩, identity, label, disabled, emoji⟩, valid⟩
    obtain ⟨whole, style, code'⟩ := styleRead_iff.mpr styled
    obtain ⟨id, url, one, identity⟩ := (identityRead_iff hv).mpr identity
    obtain ⟨labelShape, label⟩ := textRead_iff.mpr label
    obtain ⟨disabledShape, disabled⟩ := flagRead_iff.mpr disabled
    obtain ⟨emojiShape, emoji⟩ := decodeEmoji_ok.mpr emoji
    refine ⟨(), ⟨⟨ms, hv⟩, type, ⟨code, hc, whole⟩, labelShape, id, url, disabledShape, emojiShape,
      one⟩, b.emoji, emoji, ⟨identity, ?_, ?_, rfl, disabled.symm, ?_⟩, valid⟩
    · exact (textAt?_getD v _).trans label.symm
    · rw [hc]
      exact style.symm
    · rw [hc]
      exact code'.symm

end Button

end BotPayload
