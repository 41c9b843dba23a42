import BotPayload.Proofs.Message.History
import BotPayload.Proofs.Route.Path

/-!
# The request of an edit

An edit can be built into a request exactly when its rows hold no button of an unknown style, its
application id is not an empty text, and the texts in its path can be encoded. The body of the
request has one member for each field that the history of the edit has written, and one for the
files.
-/

namespace BotPayload.MessageEdit

-- ---------------------------------------------------------------------------
-- Body
-- ---------------------------------------------------------------------------

section
variable {e : MessageEdit}

theorem lookup_writtenMember (e : MessageEdit) (field key : String) (v : Value) :
    (e.writtenMember field v).lookup key =
      if key = field then (if e.updated field then some v else none) else none := by
  unfold writtenMember
  split
  · exact Members.lookup_single ..
  · simp

theorem writtenMember_keys (e : MessageEdit) (field : String) (v : Value) :
    ((e.writtenMember field v).map Prod.fst).Sublist [field] := by
  unfold writtenMember
  split <;> simp

def embedsValue (es : List Embed) : Value := .list (es.map Embed.encode)

def rowsValue (rs : List ActionRow) : Value :=
  .list (rs.map fun r => ActionRow.body (r.buttons.map Button.body))

def attachmentsMember (files : List Upload) : Members :=
  if files.isEmpty then [] else [("attachments", .list (attachments files))]

theorem lookup_attachmentsMember (files : List Upload) (key : String) :
    (attachmentsMember files).lookup key =
      if key = "attachments" then
        (if files = [] then none else some (.list (attachments files)))
      else none := by
  unfold attachmentsMember
  by_cases empty : files = []
  · simp [empty]
  · rw [if_neg (by simpa using empty), if_neg empty]
    exact Members.lookup_single ..

theorem attachmentsMember_keys (files : List Upload) :
    ((attachmentsMember files).map Prod.fst).Sublist ["attachments"] := by
  unfold attachmentsMember
  split <;> simp

def members (e : MessageEdit) : Members :=
  e.writtenMember "content" (contentValue e.content) ++
    e.writtenMember "embeds" (embedsValue e.embeds) ++
    e.writtenMember "components" (rowsValue e.rows) ++ attachmentsMember e.files

def Encodable (rs : List ActionRow) : Prop := ∀ r ∈ rs, ∀ b ∈ r.buttons, b.style ≠ .unknown

theorem mapM_rows_ok {rs : List ActionRow} :
    rs.mapM ActionRow.encode = .ok vs ↔
      Encodable rs ∧ vs = rs.map fun r => ActionRow.body (r.buttons.map Button.body) :=
  mapM_ok_iff fun _ _ _ => ActionRow.encode_ok

def rowsMember (e : MessageEdit) : Except Error Members :=
  if e.updated "components" then
    do pure [("components", Value.list (← e.rows.mapM ActionRow.encode))]
  else pure []

theorem body_eq (e : MessageEdit) : e.body = (do
    let components ← e.rowsMember
    return e.writtenMember "content" (contentValue e.content) ++
      e.writtenMember "embeds" (embedsValue e.embeds) ++ components ++
      attachmentsMember e.files) := by
  unfold body rowsMember
  cases e.updated "components" with
  | false => rfl
  | true => cases e.rows.mapM ActionRow.encode <;> rfl

theorem rowsMember_ok : e.rowsMember = .ok ms ↔
    (e.updated "components" = true → Encodable e.rows) ∧
      ms = e.writtenMember "components" (rowsValue e.rows) := by
  unfold rowsMember writtenMember
  cases e.updated "components" with
  | false => simp [pure, Except.pure, eq_comm]
  | true =>
    simp only [↓reduceIte, bind_ok, pure_ok, mapM_rows_ok, forall_const]
    constructor
    · rintro ⟨_, ⟨known, rfl⟩, rfl⟩
      exact ⟨known, rfl⟩
    · rintro ⟨known, rfl⟩
      exact ⟨_, ⟨known, rfl⟩, rfl⟩

theorem body_ok : e.body = .ok ms ↔
    (e.updated "components" = true → Encodable e.rows) ∧ ms = e.members := by
  simp only [body_eq, bind_ok, pure_ok, rowsMember_ok, members]
  constructor
  · rintro ⟨_, ⟨known, rfl⟩, rfl⟩
    exact ⟨known, rfl⟩
  · rintro ⟨known, rfl⟩
    exact ⟨_, ⟨known, rfl⟩, rfl⟩

theorem body_error (h : e.body = .error err) : err.kind = .argument := by
  obtain failed | ⟨_, -, h⟩ := bind_error.mp (body_eq e ▸ h)
  · unfold rowsMember at failed
    split at failed
    · obtain failed | ⟨_, -, h⟩ := bind_error.mp failed
      · obtain ⟨r, -, failed⟩ := mapM_error failed
        exact ActionRow.encode_error failed
      · cases h
    · cases failed
  · cases h

end

-- ---------------------------------------------------------------------------
-- Path
-- ---------------------------------------------------------------------------

def pathFor (application token message : String) : String :=
  "/webhooks/" ++ Percent.encode Route.segmentSafe application ++ "/" ++
    Percent.encode Route.segmentSafe token ++ "/messages/" ++
    Percent.encode Route.segmentSafe message

def pathPieces : List Template.Piece :=
  [.text "/webhooks/".toList, .hole ⟨"application_id".toList, none, []⟩, .text "/".toList,
    .hole ⟨"token".toList, none, []⟩, .text "/messages/".toList,
    .hole ⟨"message_id".toList, none, []⟩, .text []]

theorem webhookMessage_pieces :
    Template.pieces (.text []) Route.webhookMessage.template.toList = (pathPieces, none) := by
  decide

theorem pathPieces_bare : ∀ p ∈ pathPieces, p.Bare := by
  have applicationId : Template.PlainName "application_id".toList :=
    ⟨by decide, by simp, Template.index?_of_head (by decide)⟩
  have token : Template.PlainName "token".toList :=
    ⟨by decide, by simp, Template.index?_of_head (by decide)⟩
  have messageId : Template.PlainName "message_id".toList :=
    ⟨by decide, by simp, Template.index?_of_head (by decide)⟩
  simp only [pathPieces, List.forall_mem_cons]
  exact ⟨.text, .hole applicationId, .text, .hole token, .text, .hole messageId, .text, nofun⟩

theorem names_pathPieces :
    Route.names pathPieces = ["application_id", "token", "message_id"] := by
  decide

section
variable {e : MessageEdit}

theorem applicationId_lookup (e : MessageEdit) :
    e.parameters.lookup "application_id" = some e.applicationId := rfl

theorem token_lookup (e : MessageEdit) : e.parameters.lookup "token" = some (.text e.token) := rfl

theorem messageId_lookup (e : MessageEdit) :
    e.parameters.lookup "message_id" = some e.messageId := rfl

theorem requireFilled_parameters (e : MessageEdit) :
    ["application_id", "token", "message_id"].forM (Route.requireFilled e.parameters) = (do
      Route.requireText e.applicationId "application_id"
      Route.requireText (.text e.token) "token"
      Route.requireText e.messageId "message_id") := by
  rw [← Route.requireFilled_of_lookup (applicationId_lookup e),
    ← Route.requireFilled_of_lookup (token_lookup e),
    ← Route.requireFilled_of_lookup (messageId_lookup e)]
  exact bind_congr fun _ => bind_congr fun _ => bind_pure_unit

theorem webhookMessage_path (e : MessageEdit) : Route.webhookMessage.path e.parameters = (do
    Route.requireText e.applicationId "application_id"
    Route.requireText (.text e.token) "token"
    Route.requireText e.messageId "message_id"
    let application ← e.applicationId.unicode
    let token ← e.token.unicode
    let message ← e.messageId.unicode
    return pathFor application token message) := by
  have given : Route.missing e.parameters ["application_id", "token", "message_id"] = [] := rfl
  have encoded : (do
      let _ ← Route.segments e.parameters
      return String.ofList (pathPieces.flatMap
        (Template.Piece.filled (Route.segmentText e.parameters)))) = (do
      let application ← e.applicationId.unicode
      let token ← e.token.unicode
      let message ← e.messageId.unicode
      return pathFor application token message : Except Error String) := by
    have same : (Parameter.text e.token).unicode = e.token.unicode := rfl
    simp only [parameters, Route.segments_cons, Route.segments_nil, same, bind_assoc, pure_bind]
    refine bind_congr_of_ok fun a application => bind_congr_of_ok fun t token =>
      bind_congr_of_ok fun m message => congrArg pure (String.toList_inj.mp ?_)
    rw [String.toList_ofList]
    have first := Route.segmentText_of_lookup (applicationId_lookup e) application
    have second := Route.segmentText_of_lookup (token_lookup e) token
    have third := Route.segmentText_of_lookup (messageId_lookup e) message
    simp only [parameters] at first second third
    simp [pathPieces, Template.Piece.filled, first, second, third, pathFor, String.toList_append]
  rw [Route.path_of_given webhookMessage_pieces pathPieces_bare (names_pathPieces ▸ given),
    names_pathPieces, encoded, requireFilled_parameters]
  simp only [bind_assoc]

/-- The token is no empty text, and neither is the message id, as the tests of a new edit ask. -/
structure Addressed (e : MessageEdit) : Prop where
  token : e.token.isEmpty = false
  message : Filled e.messageId

theorem webhookMessage_path_of_addressed (h : e.Addressed) :
    Route.webhookMessage.path e.parameters = (do
      Route.requireText e.applicationId "application_id"
      let application ← e.applicationId.unicode
      let token ← e.token.unicode
      let message ← e.messageId.unicode
      return pathFor application token message) := by
  have token : Route.requireText (.text e.token) "token" = .ok () :=
    Route.requireText_ok.mpr ⟨rfl, h.token⟩
  have message : Route.requireText e.messageId "message_id" = .ok () :=
    Route.requireText_ok.mpr ⟨h.message.writable, h.message.nonempty⟩
  rw [webhookMessage_path, token, message]
  rfl

-- ---------------------------------------------------------------------------
-- Request
-- ---------------------------------------------------------------------------

theorem build_result (e : MessageEdit) : e.build.result = (do
    let body ← e.body
    let path ← Route.webhookMessage.path e.parameters
    return ⟨Route.webhookMessage.method, path, .object body, e.files, none⟩) := by
  simp only [build, Logged.result_bind, Logged.result_lift, Logged.result_report]
  rfl

structure Located (e : MessageEdit) (application token message : String) : Prop where
  application : e.applicationId.unicode = .ok application
  token : e.token.unicode = .ok token
  message : e.messageId.unicode = .ok message

theorem path_located (h : Route.webhookMessage.path e.parameters = .ok path) :
    ∃ application token message, e.Located application token message := by
  rw [webhookMessage_path] at h
  obtain ⟨_, -, h⟩ := bind_ok.mp h
  obtain ⟨_, -, h⟩ := bind_ok.mp h
  obtain ⟨_, -, h⟩ := bind_ok.mp h
  obtain ⟨a, application, h⟩ := bind_ok.mp h
  obtain ⟨t, token, h⟩ := bind_ok.mp h
  obtain ⟨m, message, -⟩ := bind_ok.mp h
  exact ⟨a, t, m, application, token, message⟩

theorem build_ok (h : e.Addressed) : e.build.result = .ok r ↔
    (e.updated "components" = true → Encodable e.rows) ∧
      ∃ application token message, application ≠ "" ∧ e.Located application token message ∧
        r = ⟨"PATCH", pathFor application token message, .object e.members, e.files, none⟩ := by
  rw [build_result, webhookMessage_path_of_addressed h]
  simp only [bind_ok, body_ok, pure_ok, Route.requireText_ok]
  constructor
  · rintro ⟨_, ⟨known, rfl⟩, _, ⟨_, ⟨_, nonempty⟩, a, application, t, token, m, message, rfl⟩, rfl⟩
    obtain ⟨-, shown⟩ := Parameter.unicode_ok.mp application
    rw [shown, Text.isEmpty_ofString, decide_eq_false_iff_not] at nonempty
    exact ⟨known, a, t, m, nonempty, ⟨application, token, message⟩, rfl⟩
  · rintro ⟨known, a, t, m, nonempty, ⟨application, token, message⟩, rfl⟩
    obtain ⟨writable, shown⟩ := Parameter.unicode_ok.mp application
    refine ⟨_, ⟨known, rfl⟩, _, ⟨(), ⟨writable, ?_⟩, a, application, t, token, m, message, rfl⟩, rfl⟩
    rw [shown, Text.isEmpty_ofString]
    exact decide_eq_false nonempty

theorem build_error (h : e.Addressed) (failed : e.build.result = .error err) :
    err.kind = .argument ∨ e.applicationId.unicode = .error err ∨ e.token.unicode = .error err ∨
      e.messageId.unicode = .error err := by
  rw [build_result, webhookMessage_path_of_addressed h] at failed
  obtain failed | ⟨_, -, failed⟩ := bind_error.mp failed
  · exact .inl (body_error failed)
  obtain failed | ⟨_, -, failed⟩ := bind_error.mp failed
  · obtain failed | ⟨_, -, failed⟩ := bind_error.mp failed
    · obtain unwritten | ⟨-, rfl⟩ := Route.requireText_error failed
      · exact .inr (.inl (bind_error.mpr (.inl unwritten)))
      · exact .inl rfl
    obtain failed | ⟨_, -, failed⟩ := bind_error.mp failed
    · exact .inr (.inl failed)
    obtain failed | ⟨_, -, failed⟩ := bind_error.mp failed
    · exact .inr (.inr (.inl failed))
    obtain failed | ⟨_, -, failed⟩ := bind_error.mp failed
    · exact .inr (.inr (.inr failed))
    · cases failed
  · cases failed

/-- The request carries what the turns write: every field as its last write leaves it, and the
files in their order, numbered from zero. -/
structure Carries (ts : List Turn) (r : Request) (ms : Members) : Prop where
  object : r.body = .object ms
  content : ms.lookup "content" = (lastWrite Turn.content? ts).map contentValue
  embeds : ms.lookup "embeds" =
    (lastWrite Turn.embeds? ts).map fun es => .list (es.map Embed.encode)
  components :
    match lastWrite Turn.rows? ts with
    | some rs => ∃ vs, rs.mapM ActionRow.encode = .ok vs ∧ ms.lookup "components" = some (.list vs)
    | none => ms.lookup "components" = none
  files : List.Forall₂ Turn.Attaches (ts.filter Turn.attaches) r.files
  attachments : ms.lookup "attachments" =
    if r.files = [] then none
    else some (.list (r.files.mapIdx fun i f => .object [("id", .int i), ("filename", .str f.name)]))
  /-- There is no other member. -/
  only : ∀ key ∈ ms.map Prod.fst, key ∈ ["content", "embeds", "components", "attachments"]
  once : (ms.map Prod.fst).Nodup

theorem members_keys (e : MessageEdit) :
    (e.members.map Prod.fst).Sublist ["content", "embeds", "components", "attachments"] := by
  simp only [members, List.map_append]
  exact (((e.writtenMember_keys _ _).append (e.writtenMember_keys _ _)).append
    (e.writtenMember_keys _ _)).append (attachmentsMember_keys _)

theorem lookup_content (e : MessageEdit) : e.members.lookup "content" =
    if e.updated "content" then some (contentValue e.content) else none := by
  simp [members, List.lookup_append, lookup_writtenMember, lookup_attachmentsMember]

theorem lookup_embeds (e : MessageEdit) : e.members.lookup "embeds" =
    if e.updated "embeds" then some (embedsValue e.embeds) else none := by
  simp [members, List.lookup_append, lookup_writtenMember, lookup_attachmentsMember]

theorem lookup_components (e : MessageEdit) : e.members.lookup "components" =
    if e.updated "components" then some (rowsValue e.rows) else none := by
  simp [members, List.lookup_append, lookup_writtenMember, lookup_attachmentsMember]

theorem lookup_attachments (e : MessageEdit) : e.members.lookup "attachments" =
    if e.files = [] then none else some (.list (attachments e.files)) := by
  simp [members, List.lookup_append, lookup_writtenMember, lookup_attachmentsMember]

theorem written_value {mark : Bool} (write : Turn → Option α) (ts : List Turn) (value : α → β)
    (start : α) (marked : mark = (lastWrite write ts).isSome) :
    (if mark then some (value ((lastWrite write ts).getD start)) else none) =
      (lastWrite write ts).map value := by
  cases h : lastWrite write ts <;> simp [marked, h]

structure Holds (e : MessageEdit) (ts : List Turn) : Prop where
  content : e.content = (lastWrite Turn.content? ts).getD none
  content_marked : e.updated "content" = (lastWrite Turn.content? ts).isSome
  embeds : e.embeds = (lastWrite Turn.embeds? ts).getD []
  embeds_marked : e.updated "embeds" = (lastWrite Turn.embeds? ts).isSome
  rows : e.rows = (lastWrite Turn.rows? ts).getD []
  rows_marked : e.updated "components" = (lastWrite Turn.rows? ts).isSome
  files : List.Forall₂ Turn.Attaches (ts.filter Turn.attaches) e.files

theorem Holds.carries (h : Holds e ts) (known : Encodable e.rows) (path : String) :
    Carries ts ⟨"PATCH", path, .object e.members, e.files, none⟩ e.members where
  object := rfl
  content := by
    rw [lookup_content, h.content]
    exact written_value Turn.content? ts contentValue none h.content_marked
  embeds := by
    rw [lookup_embeds, h.embeds]
    exact written_value Turn.embeds? ts embedsValue [] h.embeds_marked
  components := by
    have written := written_value Turn.rows? ts rowsValue [] h.rows_marked
    rw [← h.rows] at written
    rw [lookup_components, written]
    have rows := h.rows
    cases last : lastWrite Turn.rows? ts with
    | none => rfl
    | some rs =>
      rw [last, Option.getD_some] at rows
      subst rows
      exact ⟨_, mapM_rows_ok.mpr ⟨known, rfl⟩, rfl⟩
  files := h.files
  attachments := lookup_attachments e
  only := fun _ mem => e.members_keys.subset mem
  once := e.members_keys.nodup (by decide)

end

section
variable {e : MessageEdit} {application message : Parameter} {token : Text}

end

end BotPayload.MessageEdit
