import BotPayload.CommandLine.ButtonCommand
import BotPayload.Proofs.Button.RoundTrip
import BotPayload.Proofs.CommandLine.InviteOptions
import BotPayload.Proofs.Json.RoundTrip

/-!
# What the commands print

A command prints one document and ends well, or it prints one line that explains why an argument is
refused, and fails. After the parts have been accepted one thing can still fail: a button that was
made is disabled or not, encoded and written, and a request is written, unless its reason holds a
surrogate. This is an error that no command explains.
-/

namespace BotPayload

def Emoji.Plain (e : Emoji) : Prop := ∀ negative, e.id ≠ some (.floatZero negative)

namespace CommandLine

/-- Nothing is printed but a document, on one line, that is read as a value. -/
def Prints (d : Value) (log : String) (outcome : Outcome) : Prop :=
  ∃ line, outcome = .finished ⟨0, line ++ "\n", log⟩ ∧ OneLine line ∧ Json.read line = some d

/-- Nothing is printed but a line with the message of a refused argument. -/
def Explains (e : Error) (outcome : Outcome) : Prop :=
  e.kind = .argument ∧ OneLine e.message ∧
    outcome = .finished ⟨1, "error: " ++ e.message ++ "\n", ""⟩

def ButtonOptions.made (o : ButtonOptions) : Except Error Button :=
  Button.make (.given o.style) (some o.target) o.label
    (match o.emoji with
    | some s => .text s
    | none => .none)

/-- The document shows a request: its method, its url, its body, and its headers if there are
any. -/
structure Describes (s : Settings) (r : Request) (d : Value) : Prop where
  method : d.get? "method" = some (.str r.method)
  url : d.get? "url" = some (.str (s.url r.path))
  json : d.get? "json" = some r.body
  headers : ∃ hs, r.headers = .ok hs ∧ d.get? "headers" =
    if hs = [] then none else some (.object (hs.map fun (k, v) => (k, .str v)))
  only : ∀ key v, d.get? key = some v → key ∈ ["method", "url", "json", "headers"]

def InviteOptions.log (o : InviteOptions) (l : Logging) (r : Request) : String :=
  if l.threshold ≤ LogLevel.debug.severity then
    (Event.inviteBuilt (.int o.channel) r.body).line (l.clock 0) ++ "\n"
  else ""

theorem prints_document {v : Value} (h : Json.Floatless v) (log : String) :
    Prints v log (.finished { success (Json.document .line v) with stderr := log }) :=
  ⟨_, rfl, Json.oneLine_document h, Json.read_document h .line⟩

theorem explains_ofError {e : Error} (h : e.Explained) : Explains e (ofError e) := by
  refine ⟨h.kind, h.oneLine, ?_⟩
  cases e with
  | refused field reason => rfl
  | _ => exact h.elim

end CommandLine

-- ---------------------------------------------------------------------------
-- Buttons
-- ---------------------------------------------------------------------------

namespace Emoji

theorem readNamed_plain {e : Emoji} {animated : Bool} (h : readNamed animated cs = some e) :
    e.Plain := by
  unfold readNamed at h
  dsimp only at h
  split at h
  · split at h
    · nomatch h
    · obtain rfl := Option.some.inj h
      exact nofun
  · nomatch h

theorem of_orElse {P : α → Prop} {x : Option α} (first : ∀ a, x = some a → P a)
    (second : ∀ a, y () = some a → P a) (h : x.orElse y = some a) : P a := by
  cases x with
  | none => exact second a h
  | some b => exact first a h

theorem readCustom_plain {e : Emoji} (h : readCustom cs = some e) : e.Plain := by
  refine of_orElse (P := Emoji.Plain) (fun e marked => ?_) (fun e unmarked => ?_) h
  · split at marked
    · exact readNamed_plain marked
    · exact readNamed_plain marked
    · nomatch marked
  · exact readNamed_plain unmarked

theorem ofText_plain (s : String) : (ofText s).Plain := by
  unfold ofText
  cases read : readCustom s.toList with
  | none => exact nofun
  | some e => exact readCustom_plain read

theorem Plain.floatless {e : Emoji} (h : e.Plain) : Json.Floatless e.encode := by
  refine .object ?_
  simp only [List.forall_mem_append, List.forall_mem_cons]
  refine ⟨⟨?_, .str, nofun⟩, ?_⟩
  · cases id : e.id with
    | none => exact .null
    | some i =>
      cases i with
      | number n => exact .int
      | emptyText => exact .str
      | floatZero negative => exact absurd id (h negative)
  · split
    · simp only [List.forall_mem_cons]
      exact ⟨.bool, nofun⟩
    · exact nofun

end Emoji

namespace Button

section
variable {b : Button} {style : Argument Style} {idOrUrl label : Option String} {content : Content}

theorem ofStyle_emoji {e : Emoji} (h : ofStyle style idOrUrl (.emoji e) = .ok b) :
    b.emoji = some e := by
  unfold ofStyle at h
  split at h
  · obtain ⟨_, -, h⟩ := bind_ok.mp h
    exact (congrArg Draft.emoji (Draft.build_ok.mp h).1).symm
  · obtain ⟨_, -, h⟩ := bind_ok.mp h
    exact (congrArg Draft.emoji (Draft.build_ok.mp h).1).symm

theorem make_emoji (h : make style idOrUrl label content = .ok b) :
    content.toEmoji = .ok b.emoji := by
  unfold make at h
  split at h
  · nomatch h
  · nomatch h
  · obtain ⟨emoji, asked, h⟩ := bind_ok.mp h
    rw [asked]
    dsimp only at h
    split at h
    · obtain ⟨_, -, set⟩ := bind_ok.mp h
      obtain ⟨e, shown, rfl, -⟩ := setEmoji_ok.mp set
      cases emoji with
      | none => exact shown
      | some emoji => exact shown
    split at h
    · cases emoji with
      | none => contradiction
      | some emoji => rw [ofStyle_emoji h]
    · nomatch h

theorem body_floatless (h : ∀ e, b.emoji = some e → e.Plain) : Json.Floatless b.body := by
  refine .object ?_
  simp only [List.forall_mem_append, List.forall_mem_cons]
  refine ⟨⟨.int, .int, .str, .bool, ?_, nofun⟩, ?_⟩
  · cases b.identity <;> exact .str
  · cases emoji : b.emoji with
    | none => exact nofun
    | some e =>
      simp only [List.forall_mem_cons]
      exact ⟨(h e emoji).floatless, nofun⟩

end

end Button

-- ---------------------------------------------------------------------------
-- Invites
-- ---------------------------------------------------------------------------

def Quantity.Whole : Quantity → Prop
  | .float _ => False
  | _ => True

namespace Invite

theorem member_floatless (key : String) {x : Option α} {f : α → Value}
    (h : ∀ a, x = some a → Json.Floatless (f a)) :
    ∀ m ∈ member key (x.map f), Json.Floatless m.2 := by
  cases x with
  | none => simp [member]
  | some a => simpa [member] using h a rfl

theorem body_floatless {i : Invite} (age : ∀ q, i.maxAge = some q → q.Whole)
    (uses : ∀ q, i.maxUses = some q → q.Whole) : Json.Floatless (.object i.members) := by
  refine .object ?_
  have whole {q : Quantity} (h : q.Whole) : Json.Floatless q.toValue := by
    cases q with
    | int => exact .int
    | flag => exact .bool
    | float => exact h.elim
  have id (key : String) (t : InviteTarget) (id : Option Quantity) :
      ∀ m ∈ member key ((i.told t id).map fun q => .str q.text), Json.Floatless m.2 :=
    member_floatless key fun _ _ => .str
  simp only [members, List.forall_mem_append]
  refine ⟨⟨⟨⟨⟨⟨?_, ?_⟩, ?_⟩, ?_⟩, ?_⟩, id _ .stream _⟩, id _ .application _⟩
  · exact member_floatless _ fun q given => whole (age q given)
  · exact member_floatless _ fun q given => whole (uses q given)
  · exact member_floatless _ fun _ _ => .bool
  · exact member_floatless _ fun _ _ => .bool
  · exact member_floatless _ fun _ _ => .int

end Invite

namespace CommandLine

def shownMembers (s : Settings) (r : Request) (hs : List (String × String)) : Members :=
  [("method", .str r.method), ("url", .str (s.url r.path)), ("json", r.body)] ++
    if hs.isEmpty then [] else [("headers", .object (hs.map fun (k, v) => (k, .str v)))]

theorem printed_eq (h : Request.headers r = .ok hs) (s : Settings) :
    printed s r = .ok (.object (shownMembers s r hs)) := by
  rw [printed, h]
  rfl

theorem shownMembers_describes (h : Request.headers r = .ok hs) (s : Settings) :
    Describes s r (.object (shownMembers s r hs)) where
  method := rfl
  url := rfl
  json := rfl
  headers := by
    refine ⟨hs, h, ?_⟩
    cases hs <;> rfl
  only := by
    intro key v found
    have keys : (shownMembers s r hs).map Prod.fst ⊆ ["method", "url", "json", "headers"] := by
      cases hs <;> simp [shownMembers]
    exact keys (List.mem_map_of_mem (mem_of_lookup found))

theorem shownMembers_floatless {r : Request} (h : Json.Floatless r.body) (s : Settings)
    (hs : List (String × String)) : Json.Floatless (.object (shownMembers s r hs)) := by
  refine .object ?_
  simp only [shownMembers, List.forall_mem_append, List.forall_mem_cons]
  refine ⟨⟨.str, .str, h, nofun⟩, ?_⟩
  split
  · exact nofun
  · simp only [List.forall_mem_cons]
    refine ⟨.object ?_, nofun⟩
    rw [List.forall_mem_map]
    exact fun _ _ => .str

section
variable {o : ButtonOptions} {p : InviteOptions}

theorem made_plain {b : Button} (h : o.made = .ok b) : ∀ e, b.emoji = some e → e.Plain := by
  have asked := Button.make_emoji h
  intro e he
  rw [he] at asked
  cases text : o.emoji with
  | none =>
    rw [text] at asked
    nomatch asked
  | some s =>
    rw [text] at asked
    obtain ⟨_, -, read⟩ := bind_ok.mp asked
    obtain rfl := Option.some.inj (pure_ok.mp read)
    exact Emoji.ofText_plain s

theorem invite_floatless {i : Invite} (h : p.invite = .ok i) :
    Json.Floatless (.object i.members) := by
  have age : i.maxAge = p.maxAge.map .int := congrArg Invite.maxAge (invite_kept h)
  have uses : i.maxUses = p.maxUses.map .int := congrArg Invite.maxUses (invite_kept h)
  refine Invite.body_floatless (fun q given => ?_) (fun q given => ?_)
  · rw [age] at given
    obtain ⟨n, -, rfl⟩ := Option.map_eq_some_iff.mp given
    trivial
  · rw [uses] at given
    obtain ⟨n, -, rfl⟩ := Option.map_eq_some_iff.mp given
    trivial

theorem payload_eq (o : ButtonOptions) : o.payload = (do
    let b ← o.made
    let c ← b.setDisabled o.disabled
    c.encode) := rfl

theorem payload_ok {b : Button} (h : o.made = .ok b) :
    o.payload = .ok { b with disabled := o.disabled }.body := by
  have disabled := (Button.make_settled h).setDisabled o.disabled
  have settled := Button.derive_settled (d := .setDisabled o.disabled) disabled
  rw [payload_eq, h]
  change (b.setDisabled o.disabled >>= Button.encode) = _
  rw [disabled]
  exact settled.decode_encode.1

theorem payload_error {e : Error} (h : o.made = .error e) : o.payload = .error e := by
  rw [payload_eq, h]
  rfl

theorem run_button (o : ButtonOptions) :
    (∃ b c d, o.made = .ok b ∧ b.setDisabled o.disabled = .ok c ∧ (Button.decode d).result = .ok c ∧
        Prints d "" { o with indent := none }.run) ∨
      ∃ e, o.made = .error e ∧ Explains e { o with indent := none }.run := by
  cases made : o.made with
  | error e =>
    have failed : { o with indent := none }.payload = .error e := payload_error made
    refine .inr ⟨e, rfl, ?_⟩
    rw [ButtonOptions.run, failed]
    exact explains_ofError (Button.make_explained _ _ _ _ e made)
  | ok b =>
    have disabled := (Button.make_settled made).setDisabled o.disabled
    have settled := Button.derive_settled (d := .setDisabled o.disabled) disabled
    have written : { o with indent := none }.payload = .ok { b with disabled := o.disabled }.body :=
      payload_ok made
    have plain : Json.Floatless { b with disabled := o.disabled }.body :=
      Button.body_floatless fun e shown => made_plain made e shown
    refine .inl ⟨b, _, _, rfl, disabled, settled.decode_encode.2, ?_⟩
    rw [ButtonOptions.run, written]
    exact prints_document plain ""

end

theorem log_eq (o : InviteOptions) (l : Logging) (r : Request) :
    l.text [.inviteBuilt (.int o.channel) r.body] = o.log l r := by
  have severity : (Event.inviteBuilt (.int o.channel) r.body).level = .debug := rfl
  by_cases shown : l.threshold ≤ LogLevel.debug.severity
  · simp [Logging.text, InviteOptions.log, severity, shown]
  · simp [Logging.text, InviteOptions.log, severity, shown]

theorem headers_error {r : Request} :
    r.headers = .error e ↔ ∃ t, r.reason = some t ∧ t.unicode = .error e := by
  unfold Request.headers
  constructor
  · intro h
    split at h
    · rename_i t given
      split at h
      · cases h
      · obtain failed | ⟨_, -, h⟩ := bind_error.mp h
        · exact ⟨t, given, failed⟩
        · cases h
    · cases h
  · rintro ⟨t, given, failed⟩
    have nonempty : t.isEmpty = false := by
      by_contra empty
      rw [Text.eq_of_isEmpty (Bool.eq_true_of_not_eq_false empty), Text.unicode_ofString] at failed
      cases failed
    rw [given]
    simp only [nonempty, Bool.false_eq_true, ↓reduceIte]
    exact bind_error.mpr (.inl failed)

theorem unicode_kind {t : Text} (h : t.unicode = .error e) : e.kind = .encoding := by
  obtain ⟨_, rfl⟩ := Text.unicode_error h
  rfl

section
variable {o : InviteOptions} {r : Request}

theorem request_reason (short : o.Short) (h : o.request.result = .ok r) : r.reason = o.reason := by
  obtain ⟨i, made, rfl⟩ := (request_ok short).mp h
  exact congrArg Invite.reason (invite_kept made)

theorem run_of_refused (short : o.Short) (h : o.request.result = .error e) (s : Settings)
    (l : Logging) : Explains e (o.run s l) := by
  rw [request_eq short] at h
  unfold InviteOptions.run
  rw [request_eq short]
  cases made : o.invite with
  | ok i => rw [made] at h; cases h
  | error cause =>
    rw [made] at h
    cases h
    have explained := invite_explained short e made
    cases e with
    | refused field reason => exact explains_ofError explained
    | _ => exact explained.elim

theorem run_of_headers (short : o.Short) (h : o.request.result = .ok r) (told : r.headers = .ok hs)
    (s : Settings) (l : Logging) :
    ∃ d, Describes s r d ∧ Prints d (o.log l r) (o.run s l) := by
  obtain ⟨i, made, rfl⟩ := (request_ok short).mp h
  have body : Json.Floatless (requestFor i).body := invite_floatless made
  have plain := shownMembers_floatless body s hs
  have log : l.text [.inviteBuilt (.int o.channel) (.object i.members)] =
      o.log l (requestFor i) := log_eq o l (requestFor i)
  unfold InviteOptions.run
  rw [request_eq short, made]
  dsimp only
  rw [printed_eq told, log]
  exact ⟨_, shownMembers_describes told s, prints_document plain _⟩

theorem run_of_untold (short : o.Short) (h : o.request.result = .ok r) (untold : r.headers = .error e)
    (s : Settings) (l : Logging) : o.run s l = .raised e "" := by
  obtain ⟨i, made, rfl⟩ := (request_ok short).mp h
  have unprinted : printed s (requestFor i) = .error e := by
    rw [printed, untold]
    rfl
  unfold InviteOptions.run
  rw [request_eq short, made]
  dsimp only
  rw [unprinted]

theorem run_invite (short : o.Short) (s : Settings) (l : Logging) :
    (∃ r d, o.request.result = .ok r ∧ Describes s r d ∧ Prints d (o.log l r) (o.run s l)) ∨
      (∃ e, o.request.result = .error e ∧ Explains e (o.run s l)) ∨
      ∃ r t e, o.request.result = .ok r ∧ o.reason = some t ∧ t.unicode = .error e ∧
        o.run s l = .raised e "" := by
  cases built : o.request.result with
  | error e => exact .inr (.inl ⟨e, rfl, run_of_refused short built s l⟩)
  | ok r =>
    cases told : r.headers with
    | ok hs =>
      obtain ⟨d, describes, prints⟩ := run_of_headers short built told s l
      exact .inl ⟨r, d, rfl, describes, prints⟩
    | error e =>
      obtain ⟨t, given, failed⟩ := headers_error.mp told
      exact .inr (.inr ⟨r, t, e, rfl, (request_reason short built).symm.trans given, failed,
        run_of_untold short built told s l⟩)

/-- The commands print one document or explain why they do not, with one exception: a request with a
surrogate in its reason is neither printed nor explained. The button command prints exactly where
the button can be made, and what it prints is read as the button that was asked for; the invite
command shows the request that is built of the options. -/
theorem run_prints_or_explains (p : ButtonOptions) (short : o.Short) (s : Settings) (l : Logging) :
    ((∃ b c d, p.made = .ok b ∧ b.setDisabled p.disabled = .ok c ∧
          (Button.decode d).result = .ok c ∧ Prints d "" { p with indent := none }.run) ∨
        ∃ e, p.made = .error e ∧ Explains e { p with indent := none }.run) ∧
      ((∃ r d, o.request.result = .ok r ∧ Describes s r d ∧ Prints d (o.log l r) (o.run s l)) ∨
          (∃ e, o.request.result = .error e ∧ Explains e (o.run s l)) ↔
        ∀ r t, o.request.result = .ok r → o.reason = some t → ∃ u, t.unicode = .ok u) ∧
      ∀ r t e, o.request.result = .ok r → o.reason = some t → t.unicode = .error e →
        e.kind = .encoding ∧ o.run s l = .raised e "" := by
  have untold {r t e} (built : o.request.result = .ok r) (given : o.reason = some t)
      (failed : t.unicode = .error e) : r.headers = .error e :=
    headers_error.mpr ⟨t, (request_reason short built).trans given, failed⟩
  refine ⟨run_button p, ⟨?_, fun encodable => ?_⟩, fun r t e built given failed => ?_⟩
  · rintro (⟨r', d, made, describes, -⟩ | ⟨e, refused, -⟩) r t built given
    · cases made.symm.trans built
      obtain ⟨hs, told, -⟩ := describes.headers
      cases encoded : t.unicode with
      | ok u => exact ⟨u, rfl⟩
      | error e => cases told.symm.trans (untold built given encoded)
    · cases refused.symm.trans built
  · obtain prints | explains | ⟨r, t, e, built, given, failed, -⟩ := run_invite short s l
    · exact .inl prints
    · exact .inr explains
    · obtain ⟨u, encoded⟩ := encodable r t built given
      cases failed.symm.trans encoded
  · exact ⟨unicode_kind failed, run_of_untold short built (untold built given failed) s l⟩

end

/-- The reason is the single byte 0xFF, which arguments hold as a surrogate. -/
theorem run_prints_or_explains_surrogate :
    ∃ o : InviteOptions, o.Short ∧ o.reason = some ⟨[.surrogate 0x4FF]⟩ ∧
      (∃ r, o.request.result = .ok r) ∧ ∀ s l,
        o.run s l = .raised (.surrogates ⟨0x4FF, 0, 1⟩) "" := by
  let p : ButtonOptions := ⟨.primary, "ok", some "Ok", none, false, none⟩
  have short : InviteOptions.Short ⟨5, false, none, none, false, false, none, none,
      some ⟨[.surrogate 0x4FF]⟩⟩ := ⟨rfl, nofun, nofun⟩
  have built := (request_ok short).mpr ⟨_, rfl, rfl⟩
  refine ⟨_, short, rfl, ⟨_, built⟩, fun s l => ?_⟩
  obtain ⟨-, -, raises⟩ := run_prints_or_explains p short s l
  exact (raises _ _ _ built rfl rfl).2

end CommandLine

end BotPayload
