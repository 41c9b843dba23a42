import BotPayload.Proofs.Message.Independence
import BotPayload.Proofs.Message.Request
import BotPayload.Proofs.Route.Segment

/-!
# What the token of an edit can be told by

Two edits are twins when they differ in their tokens at most. Whatever a caller does to both, they
stay twins, each step ends in the same way and reports the same events, and so does each request if
both tokens can be encoded; the requests then differ in one segment of their paths
(`token_confined`). A step commutes with an exchange of the token (`step_withToken`), and building a
request reads the token only to encode it (`build_eq`).
-/

namespace BotPayload

def Request.segments (r : Request) : List (List Char) := r.path.toList.splitOn '/'

def tokenSegment (token : String) : List Char := (Percent.encode Route.segmentSafe token).toList

/-- Two requests that are the same but for the segment after `/webhooks/` and the application. -/
structure Request.Alike (t t' : String) (r r' : Request) : Prop where
  method : r.method = r'.method
  body : r.body = r'.body
  files : r.files = r'.files
  reason : r.reason = r'.reason
  headers : r.headers = r'.headers
  path : ∃ front back, front.length = 3 ∧ r.segments = front ++ tokenSegment t :: back ∧
    r'.segments = front ++ tokenSegment t' :: back

namespace MessageEdit

def withToken (t : Text) (e : MessageEdit) : MessageEdit := { e with token := t }

/-- Two edits that are the same but for their tokens. -/
structure Twins (t t' : Text) (e e' : MessageEdit) : Prop where
  token : e.token = t
  other : e' = e.withToken t'

/-- What a caller does with an edit: a step, or a request, which is handed over when submitted. -/
inductive Call (α : Type) where
  | step (turn : Turn)
  | build
  | submit (send : Request → α)

inductive Reply (α : Type) where
  | edit (e : MessageEdit)
  | request (r : Request)
  | sent (a : α)

def call (e : MessageEdit) : Call α → Logged (Reply α)
  | .step turn => .edit <$> e.stepChecked turn.fs turn.step
  | .build => .request <$> e.build
  | .submit send => .sent <$> e.submit send

def next (e : MessageEdit) (c : Call α) : MessageEdit :=
  match (e.call c).result with
  | .ok (.edit e') => e'
  | _ => e

def called (e : MessageEdit) (cs : List (Call α)) : MessageEdit := cs.foldl next e

/-- How the same call ends on twins. What is handed over differs as the requests do, whatever the
sender makes of it. -/
inductive Alike (t t' : Text) : Call α → Except Error (Reply α) → Except Error (Reply α) → Prop
  | failed : Alike t t' c (.error err) (.error err)
  | step : Twins t t' e e' → Alike t t' (.step turn) (.ok (.edit e)) (.ok (.edit e'))
  | build : t.unicode = .ok s → t'.unicode = .ok s' → Request.Alike s s' r r' →
      Alike t t' .build (.ok (.request r)) (.ok (.request r'))
  | submit : t.unicode = .ok s → t'.unicode = .ok s' → Request.Alike s s' r r' →
      Alike t t' (.submit send) (.ok (.sent (send r))) (.ok (.sent (send r')))

-- ---------------------------------------------------------------------------
-- Steps
-- ---------------------------------------------------------------------------

section
variable {e e' : MessageEdit} {t t' : Text}

theorem writeContent_withToken (e : MessageEdit) (content : Option String) :
    (e.withToken t).writeContent content = withToken t <$> e.writeContent content := by
  simp only [writeContent_eq, map_bind, map_pure]
  rfl

theorem writeEmbeds_withToken (e : MessageEdit) (args : List (Nested Embed)) :
    (e.withToken t).writeEmbeds args = withToken t <$> e.writeEmbeds args := by
  simp only [writeEmbeds, map_bind, map_pure]
  rfl

theorem writeRows_withToken (e : MessageEdit) (args : List (Nested ActionRow)) :
    (e.withToken t).writeRows args = withToken t <$> e.writeRows args := by
  simp only [writeRows, map_bind, map_pure]
  rfl

theorem attach_withToken (fs : FileSystem) (e : MessageEdit) (name : FileName)
    (source : Option FileSource) (spoiler : Bool) :
    (e.withToken t).attach fs name source spoiler =
      withToken t <$> e.attach fs name source spoiler := by
  simp only [attach, map_bind, map_pure]
  rfl

theorem copyFrom_withToken (e : MessageEdit) (message : Option Message) :
    (e.withToken t).copyFrom message = withToken t <$> e.copyFrom message := by
  simp only [copyFrom, writeContent_withToken, writeEmbeds_withToken, writeRows_withToken,
    liftM_map, bind_map_left, map_bind]

theorem step_withToken (fs : FileSystem) (e : MessageEdit) (s : Step) :
    (e.withToken t).step fs s = withToken t <$> e.step fs s := by
  cases s with
  | writeContent content => simp only [step, writeContent_withToken, liftM_map]
  | writeEmbeds args => simp only [step, writeEmbeds_withToken, liftM_map]
  | writeRows args => simp only [step, writeRows_withToken, liftM_map]
  | writeButtons buttons =>
    simp only [step, writeButtons, writeRows_withToken, ← map_bind, liftM_map]
  | attach name source spoiler => simp only [step, attach_withToken, liftM_map]
  | copyFrom message => exact copyFrom_withToken e message

theorem recheck_eq (given : e.token.isEmpty = false) : e.recheck = (do
    e.applicationId.requirePresent "Application ID"
    require (!(← e.messageId.write).isEmpty) "Message ID" .empty
    return e) := by
  have present : present (some e.token) "Token" = pure e.token := rfl
  have passed : require (!e.token.isEmpty) "Token" .empty = pure () :=
    require_ok.mpr (by rw [given]; rfl)
  simp only [recheck, create, present, passed, bind_assoc, pure_bind]

theorem recheck_withToken (given : e.token.isEmpty = false) (given' : t.isEmpty = false) :
    (e.withToken t).recheck = withToken t <$> e.recheck := by
  have given' : (e.withToken t).token.isEmpty = false := given'
  simp only [recheck_eq given, recheck_eq given', map_bind, map_pure]
  rfl

theorem step_token (h : (e.step fs s).result = .ok e') : e'.token = e.token := by
  rw [step_eq_after h]
  rfl

theorem stepChecked_withToken (given : e.token.isEmpty = false) (given' : t.isEmpty = false)
    (fs : FileSystem) (s : Step) : (e.withToken t).stepChecked fs s = withToken t <$> e.stepChecked fs s := by
  simp only [stepChecked, step_withToken, bind_map_left, map_bind]
  refine Logged.bind_congr_of_ok fun yielded stepped => ?_
  have given : yielded.token.isEmpty = false := step_token stepped ▸ given
  rw [recheck_withToken given given', liftM_map]

theorem stepChecked_token (h : (e.stepChecked fs s).result = .ok e') : e'.token = e.token := by
  rw [stepChecked, Logged.result_bind] at h
  obtain ⟨yielded, stepped, h⟩ := bind_ok.mp h
  obtain ⟨_, -, h⟩ := bind_ok.mp h
  exact pure_ok.mp h ▸ step_token stepped

-- ---------------------------------------------------------------------------
-- Requests
-- ---------------------------------------------------------------------------

/-- What building a request does before it reads the token: the body, and the application in the
path. -/
def located (e : MessageEdit) : Except Error (Members × String) := do
  let body ← e.body
  Route.requireText e.applicationId "application_id"
  Route.requireText e.messageId "message_id"
  return (body, ← e.applicationId.unicode)

def announce (e : MessageEdit) (body : Members) : Logged String := do
  let message ← e.messageId.unicode
  Logged.report (.messageBuilt e.messageId.shown (Route.sorted (body.map Prod.fst)) e.files.length)
  return message

def requestWith (e : MessageEdit) (body : Members) (application token message : String) : Request :=
  ⟨Route.webhookMessage.method, pathFor application token message, .object body, e.files, none⟩

theorem build_eq (given : e.token.isEmpty = false) : e.build = (do
    let (body, application) ← e.located
    let token ← e.token.unicode
    let message ← e.announce body
    return e.requestWith body application token message) := by
  have token : Route.requireText (.text e.token) "token" = pure () :=
    Route.requireText_ok.mpr ⟨rfl, given⟩
  simp only [build, located, announce, webhookMessage_path, token, liftM_bind, liftM_pure,
    bind_assoc, pure_bind]
  rfl

/-- What fails before the token is read, fails whatever it is. -/
theorem build_of_not_located (given : e.token.isEmpty = false) (h : e.located = .error err) :
    e.build = Logged.fail err := by
  rw [build_eq given, h]
  rfl

theorem build_of_not_encoded (given : e.token.isEmpty = false) (h : e.located = .ok p)
    (failed : e.token.unicode = .error err) : e.build = Logged.fail err := by
  rw [build_eq given, h, failed]
  rfl

theorem build_of_encoded (given : e.token.isEmpty = false) (h : e.located = .ok p)
    (encoded : e.token.unicode = .ok s) :
    e.build = e.requestWith p.1 p.2 s <$> e.announce p.1 := by
  rw [build_eq given, h, encoded]
  rfl

theorem pathFor_segments (application token message : String) :
    (pathFor application token message).toList.splitOn '/' =
      [[], "webhooks".toList, tokenSegment application] ++ tokenSegment token ::
        ["messages".toList, tokenSegment message] := by
  have joined : (pathFor application token message).toList = ['/'].intercalate
      ([[], "webhooks".toList, tokenSegment application] ++ tokenSegment token ::
        ["messages".toList, tokenSegment message]) := by
    simp [pathFor, tokenSegment, String.toList_append]
  have clean (s : String) : '/' ∉ tokenSegment s := fun slash =>
    Route.encode_clean s '/' slash List.mem_cons_self
  rw [joined, List.splitOn_intercalate]
  · simp [clean]
  · simp

theorem requestWith_alike (e : MessageEdit) (body : Members) (application message s s' : String) :
    Request.Alike s s' (e.requestWith body application s message)
      ((e.withToken t').requestWith body application s' message) where
  method := rfl
  body := rfl
  files := rfl
  reason := rfl
  headers := rfl
  path := ⟨_, _, rfl, pathFor_segments application s message, pathFor_segments application s' message⟩

-- ---------------------------------------------------------------------------
-- Calls
-- ---------------------------------------------------------------------------

def Call.Requests : Call α → Prop
  | .step _ => False
  | _ => True

/-- A call that makes no request, or tokens that can stand in one. -/
def Call.Encodable (t t' : Text) : Call α → Prop
  | .step _ => True
  | _ => (∃ s, t.unicode = .ok s) ∧ ∃ s, t'.unicode = .ok s

theorem Twins.build (twins : Twins t t' e e') (given : t.isEmpty = false)
    (given' : t'.isEmpty = false) (encoded : t.unicode = .ok s) (encoded' : t'.unicode = .ok s') :
    e.build.events = e'.build.events ∧
      ((∃ err, e.build.result = .error err ∧ e'.build.result = .error err) ∨
        ∃ r r', e.build.result = .ok r ∧ e'.build.result = .ok r' ∧ Request.Alike s s' r r') := by
  obtain ⟨rfl, rfl⟩ := twins
  have located : (e.withToken t').located = e.located := rfl
  cases before : e.located with
  | error err =>
    rw [build_of_not_located given before, build_of_not_located given' (located.trans before)]
    exact ⟨rfl, .inl ⟨err, rfl, rfl⟩⟩
  | ok p =>
    rw [build_of_encoded given before encoded,
      build_of_encoded given' (located.trans before) encoded', Logged.events_map,
      Logged.events_map, Logged.result_map, Logged.result_map]
    refine ⟨rfl, ?_⟩
    have announce : (e.withToken t').announce p.1 = e.announce p.1 := rfl
    rw [announce]
    cases (e.announce p.1).result with
    | error err => exact .inl ⟨err, rfl, rfl⟩
    | ok message => exact .inr ⟨_, _, rfl, rfl, requestWith_alike e p.1 p.2 message s s'⟩

theorem call_submit (send : Request → α) (e : MessageEdit) :
    e.call (.submit send) = (fun r => Reply.sent (send r)) <$> e.build := by
  simp only [MessageEdit.call, submit, bind_pure_comp, Functor.map_map]

theorem call_of_requests {c : Call α} (requests : c.Requests) :
    ∃ reply : Request → Reply α, (∀ r m, reply r ≠ .edit m) ∧
      ∀ e : MessageEdit, e.call c = reply <$> e.build := by
  cases c with
  | step turn => exact requests.elim
  | build => exact ⟨.request, nofun, fun _ => rfl⟩
  | submit send => exact ⟨fun r => .sent (send r), nofun, call_submit send⟩

theorem Twins.replied {c : Call α} {reply : Request → Reply α} (twins : Twins t t' e e')
    (given : t.isEmpty = false) (given' : t'.isEmpty = false) (encoded : t.unicode = .ok s)
    (encoded' : t'.unicode = .ok s') (alike : ∀ r r', Request.Alike s s' r r' →
      Alike t t' c (.ok (reply r)) (.ok (reply r'))) :
    (reply <$> e.build).events = (reply <$> e'.build).events ∧
      Alike t t' c (reply <$> e.build).result (reply <$> e'.build).result := by
  obtain ⟨events, ends⟩ := twins.build given given' encoded encoded'
  simp only [Logged.events_map, Logged.result_map]
  refine ⟨events, ?_⟩
  obtain ⟨err, failed, failed'⟩ | ⟨r, r', made, made', same⟩ := ends
  · rw [failed, failed']
    exact .failed
  · rw [made, made']
    exact alike r r' same

theorem Twins.call (twins : Twins t t' e e') (given : t.isEmpty = false)
    (given' : t'.isEmpty = false) {c : Call α} (encodable : c.Encodable t t') :
    (e.call c).events = (e'.call c).events ∧
      Alike t t' c (e.call c).result (e'.call c).result := by
  cases c with
  | step turn =>
    obtain ⟨rfl, rfl⟩ := twins
    simp only [MessageEdit.call, stepChecked_withToken given given', Logged.events_map,
      Logged.result_map]
    refine ⟨trivial, ?_⟩
    cases stepped : (e.stepChecked turn.fs turn.step).result with
    | error err => exact .failed
    | ok yielded => exact .step ⟨stepChecked_token stepped, rfl⟩
  | build =>
    obtain ⟨⟨s, encoded⟩, s', encoded'⟩ := encodable
    exact twins.replied given given' encoded encoded' fun _ _ same => .build encoded encoded' same
  | submit send =>
    obtain ⟨⟨s, encoded⟩, s', encoded'⟩ := encodable
    rw [call_submit, call_submit]
    exact twins.replied given given' encoded encoded' fun _ _ same => .submit encoded encoded' same

theorem build_of_surrogates (given : e.token.isEmpty = false)
    (failed : e.token.unicode = .error err) :
    e.build = Logged.fail err ∨ ∃ cause, e.build = Logged.fail cause ∧
      ∀ t : Text, t.isEmpty = false → (e.withToken t).build = Logged.fail cause := by
  cases before : e.located with
  | error cause =>
    exact .inr ⟨cause, build_of_not_located given before,
      fun t given => build_of_not_located given before⟩
  | ok p => exact .inl (build_of_not_encoded given before failed)

theorem call_of_build_fail {c : Call α} (requests : c.Requests) (failed : e.build = Logged.fail err) :
    e.call c = Logged.fail err := by
  obtain ⟨reply, -, same⟩ := call_of_requests requests
  rw [same, failed]
  rfl

theorem next_of_requests {c : Call α} (requests : c.Requests) (e : MessageEdit) : e.next c = e := by
  obtain ⟨reply, other, same⟩ := call_of_requests requests
  rw [MessageEdit.next, same, Logged.result_map]
  cases e.build.result with
  | error err => rfl
  | ok r =>
    change (match Except.ok (ε := Error) (reply r) with | .ok (.edit m) => m | _ => e) = e
    cases replied : reply r with
    | edit m => exact absurd replied (other r m)
    | request q => rfl
    | sent a => rfl

theorem Twins.next (twins : Twins t t' e e') (given : t.isEmpty = false)
    (given' : t'.isEmpty = false) (c : Call α) : Twins t t' (e.next c) (e'.next c) := by
  cases c with
  | step turn =>
    obtain ⟨-, alike⟩ := twins.call given given' (c := (.step turn : Call α)) trivial
    unfold MessageEdit.next
    generalize (e.call _).result = ending, (e'.call _).result = ending' at alike
    cases alike with
    | step twins' => exact twins'
    | failed => exact twins
  | build =>
    have requests : Call.Requests (.build : Call α) := trivial
    rwa [next_of_requests requests, next_of_requests requests]
  | submit send =>
    have requests : Call.Requests (.submit send) := trivial
    rwa [next_of_requests requests, next_of_requests requests]

theorem Twins.called (twins : Twins t t' e e') (given : t.isEmpty = false)
    (given' : t'.isEmpty = false) (cs : List (Call α)) :
    Twins t t' (e.called cs) (e'.called cs) := by
  induction cs generalizing e e' with
  | nil => exact twins
  | cons c cs ih => exact ih (twins.next given given' c)

end

/-- Nothing tells of the token of an edit but its own segment of a path: no way in which a call
ends, no event, and no other part of a request. Only a token that cannot be encoded keeps its edit
from building requests, and then this is all that can be told. -/
theorem token_confined {t t' : Text} {e e' : MessageEdit} (twins : Twins t t' e e')
    (given : t.isEmpty = false) (given' : t'.isEmpty = false) (cs : List (Call α)) (c : Call α) :
    Twins t t' (e.called cs) (e'.called cs) ∧
      (c.Encodable t t' → ((e.called cs).call c).events = ((e'.called cs).call c).events ∧
        Alike t t' c ((e.called cs).call c).result ((e'.called cs).call c).result) ∧
      (c.Requests → ∀ err, t.unicode = .error err →
        (e.called cs).call c = Logged.fail err ∨ ∃ cause,
          (e.called cs).call c = Logged.fail cause ∧
          (e'.called cs).call c = Logged.fail cause) := by
  have after := twins.called given given' cs
  refine ⟨after, after.call given given', fun requests err failed => ?_⟩
  obtain ⟨token, other⟩ := after
  rw [← token] at given failed
  obtain own | ⟨cause, own, others⟩ := build_of_surrogates given failed
  · exact .inl (call_of_build_fail requests own)
  · refine .inr ⟨cause, call_of_build_fail requests own, call_of_build_fail requests ?_⟩
    rw [other]
    exact others t' given'

/-- A token with a slash in it is told by its own segment only, also after a step that fails. -/
theorem token_confined_slash :
    ∃ (fs : FileSystem) (e e' last : MessageEdit) (r r' : Request) (cs : List (Call Unit)),
      fs = FileSystem.ofFiles [] ∧
      create (.value (.str "42")) (some "key") firstResponse = .ok e ∧
      create (.value (.str "42")) (some "a/b") firstResponse = .ok e' ∧
      cs = [.step ⟨fs, .writeButtons []⟩, .step ⟨fs, .writeContent (some "Hi")⟩] ∧
      e.called cs = last ∧ last.content = some "Hi" ∧ Twins "key" "a/b" last (e'.called cs) ∧
      (last.call (.build : Call Unit)).result = .ok (.request r) ∧
      ((e'.called cs).call (.build : Call Unit)).result = .ok (.request r') ∧
      Request.Alike "key" "a/b" r r' := by
  have twins : Twins "key" "a/b"
      { applicationId := .value (.str "42"), token := "key", messageId := firstResponse }
      { applicationId := .value (.str "42"), token := "a/b", messageId := firstResponse } :=
    ⟨rfl, rfl⟩
  obtain ⟨after, confined, -⟩ := token_confined twins rfl rfl
    ([.step ⟨FileSystem.ofFiles [], .writeButtons []⟩,
      .step ⟨FileSystem.ofFiles [], .writeContent (some "Hi")⟩] : List (Call Unit)) .build
  obtain ⟨-, alike⟩ := confined ⟨⟨_, rfl⟩, _, rfl⟩
  have first : (call (called
      { applicationId := .value (.str "42"), token := "key", messageId := firstResponse }
      ([.step ⟨FileSystem.ofFiles [], .writeButtons []⟩,
        .step ⟨FileSystem.ofFiles [], .writeContent (some "Hi")⟩] : List (Call Unit)))
      (.build : Call Unit)).result =
      .ok (.request ⟨"PATCH", pathFor "42" "key" "@original", .object [("content", .str "Hi")], [],
        none⟩) := by
    rw [call, build_of_encoded rfl rfl rfl]
    rfl
  rw [first] at alike
  generalize second : (call (called _ _) _).result = result at alike
  cases alike with
  | build encoded encoded' same =>
    cases encoded
    cases encoded'
    exact ⟨_, _, _, _, _, _, _, rfl, rfl, rfl, rfl, rfl, rfl, after, first, second, same⟩

/-- Of two twins, the one whose token holds half of a surrogate pair builds no request. -/
theorem build_twin_surrogate :
    ∃ e e', create (.value (.str "42")) (some "key") firstResponse = .ok e ∧
      create (.value (.str "42")) (some ⟨[.surrogate 0]⟩) firstResponse = .ok e' ∧
      Twins "key" ⟨[.surrogate 0]⟩ e e' ∧ (∃ r, e.build.result = .ok r) ∧
      e'.build.result = .error (.surrogates ⟨0, 0, 1⟩) := by
  refine ⟨_, _, rfl, rfl, ⟨rfl, rfl⟩, ?_, ?_⟩
  · rw [build_of_encoded rfl rfl rfl]
    exact ⟨_, rfl⟩
  · rw [build_of_not_encoded rfl rfl rfl]
    rfl

end MessageEdit

end BotPayload
