import BotPayload.Invite
import BotPayload.Proofs.Route.Path

/-!
# The request of an invite

An invite can be built into a request exactly when its channel's id is not an empty text and the ids
in it are short enough to be written. The body names a user or an application only together with
the type of such a target.
-/

namespace BotPayload.Invite

-- ---------------------------------------------------------------------------
-- Body
-- ---------------------------------------------------------------------------

theorem lookup_member (key k : String) (v : Option Value) :
    (member key v).lookup k = if k = key then v else none := by
  cases v with
  | none => simp [member]
  | some v => simp [member, Members.lookup_single]

def told (i : Invite) (t : InviteTarget) (id : Option Quantity) : Option Quantity :=
  if i.target = some t then id else none

def idsWritable (i : Invite) : Bool :=
  (i.told .stream i.targetUser).all (·.toValue.isWritable) &&
    (i.told .application i.targetApplication).all (·.toValue.isWritable)

def members (i : Invite) : Members :=
  member "max_age" (i.maxAge.map Quantity.toValue)
    ++ member "max_uses" (i.maxUses.map Quantity.toValue)
    ++ member "temporary" (i.temporary.map .bool)
    ++ member "unique" (i.unique.map .bool)
    ++ member "target_type" (i.target.map fun t => .int t.code)
    ++ member "target_user_id" ((i.told .stream i.targetUser).map fun q => .str q.text)
    ++ member "target_application_id"
      ((i.told .application i.targetApplication).map fun q => .str q.text)

theorem idFor_eq (i : Invite) (t : InviteTarget) (id : Option Quantity) :
    i.idFor t id =
      if (i.told t id).all (·.toValue.isWritable) then
        .ok ((i.told t id).map fun q => .str q.text)
      else .error .tooManyDigits := by
  cases id with
  | none => by_cases set : i.target = some t <;> simp only [idFor, told, set] <;> rfl
  | some q =>
    by_cases set : i.target = some t
    · simp only [idFor, told, set, ↓reduceIte, Option.all_some, Option.map_some]
      cases short : q.toValue.isWritable with
      | true =>
        have written : q.write = .ok q.text := Value.write_ok.mpr ⟨short, rfl⟩
        rw [written]
        rfl
      | false =>
        have unwritten : q.write = .error .tooManyDigits := Value.write_error.mpr ⟨short, rfl⟩
        rw [unwritten]
        rfl
    · simp only [idFor, told, set, ↓reduceIte]
      rfl

theorem body_eq (i : Invite) :
    i.body = if i.idsWritable then .ok i.members else .error .tooManyDigits := by
  unfold body idsWritable
  rw [idFor_eq, idFor_eq]
  by_cases user : (i.told .stream i.targetUser).all (·.toValue.isWritable) = true
  · by_cases application : (i.told .application i.targetApplication).all (·.toValue.isWritable) = true
    · rw [if_pos user, if_pos application, user, application]
      rfl
    · rw [if_pos user, if_neg application, user, Bool.true_and, if_neg application]
      rfl
  · rw [if_neg user, eq_false_of_ne_true user]
    rfl

theorem lookup_max_age (i : Invite) :
    i.members.lookup "max_age" = i.maxAge.map Quantity.toValue := by
  simp [members, List.lookup_append, lookup_member]

theorem lookup_max_uses (i : Invite) :
    i.members.lookup "max_uses" = i.maxUses.map Quantity.toValue := by
  simp [members, List.lookup_append, lookup_member]

theorem lookup_temporary (i : Invite) : i.members.lookup "temporary" = i.temporary.map .bool := by
  simp [members, List.lookup_append, lookup_member]

theorem lookup_unique (i : Invite) : i.members.lookup "unique" = i.unique.map .bool := by
  simp [members, List.lookup_append, lookup_member]

theorem lookup_target_type (i : Invite) :
    i.members.lookup "target_type" = i.target.map fun t => .int t.code := by
  simp [members, List.lookup_append, lookup_member]

theorem lookup_target_user_id (i : Invite) :
    i.members.lookup "target_user_id" =
      (i.told .stream i.targetUser).map fun q => .str q.text := by
  simp [members, List.lookup_append, lookup_member]

theorem lookup_target_application_id (i : Invite) :
    i.members.lookup "target_application_id" =
      (i.told .application i.targetApplication).map fun q => .str q.text := by
  simp [members, List.lookup_append, lookup_member]

def path (i : Invite) : String :=
  "/channels/" ++ Percent.encode Route.segmentSafe i.channelId.text ++ "/invites"

def pathPieces : List Template.Piece :=
  [.text "/channels/".toList, .hole ⟨"channel_id".toList, none, []⟩, .text "/invites".toList]

theorem channelInvites_pieces :
    Template.pieces (.text []) Route.channelInvites.template.toList = (pathPieces, none) := by
  decide

theorem pathPieces_bare : ∀ p ∈ pathPieces, p.Bare := by
  have channelId : Template.PlainName "channel_id".toList :=
    ⟨by decide, by simp, Template.index?_of_head (by decide)⟩
  simp only [pathPieces, List.forall_mem_cons]
  exact ⟨.text, .hole channelId, .text, nofun⟩

theorem names_pathPieces : Route.names pathPieces = ["channel_id"] := by decide

theorem channelInvites_path_eq (i : Invite) :
    Route.channelInvites.path [("channel_id", i.channelId)] = (do
      Route.requireText i.channelId "channel_id"
      let channel ← (Parameter.value i.channelId).unicode
      return "/channels/" ++ Percent.encode Route.segmentSafe channel ++ "/invites") := by
  have bound : List.lookup "channel_id" [("channel_id", Parameter.value i.channelId)] =
      some (.value i.channelId) := rfl
  have tested : ["channel_id"].forM (Route.requireFilled [("channel_id", .value i.channelId)]) =
      Route.requireText i.channelId "channel_id" := by
    rw [← Route.requireFilled_of_lookup bound]
    exact bind_pure_unit
  have given : Route.missing [("channel_id", .value i.channelId)] ["channel_id"] = [] := rfl
  rw [Route.path_of_given channelInvites_pieces pathPieces_bare (names_pathPieces ▸ given),
    names_pathPieces, tested]
  simp only [Route.segments_cons, Route.segments_nil, bind_assoc, pure_bind]
  refine bind_congr fun _ => bind_congr_of_ok fun channel unicode =>
    congrArg pure (String.toList_inj.mp ?_)
  rw [String.toList_ofList]
  simp [pathPieces, Template.Piece.filled, Route.segmentText_of_lookup bound unicode,
    String.toList_append]

theorem channelInvites_path (i : Invite) :
    Route.channelInvites.path [("channel_id", i.channelId)] =
      if i.channelId.isWritable = false then .error .tooManyDigits
      else if i.channelId.text = "" then .error (.refused "channel_id" .empty) else .ok i.path := by
  rw [channelInvites_path_eq, Route.requireText]
  cases short : i.channelId.isWritable with
  | false =>
    have unwritten : (Parameter.value i.channelId).write = .error .tooManyDigits :=
      Parameter.write_error.mpr ⟨short, rfl⟩
    rw [unwritten]
    rfl
  | true =>
    have written : (Parameter.value i.channelId).write = .ok i.channelId.text :=
      Parameter.write_ok.mpr ⟨short, rfl⟩
    have unicode : (Parameter.value i.channelId).unicode = .ok i.channelId.text :=
      Parameter.unicode_ok.mpr ⟨short, rfl⟩
    rw [written, unicode]
    by_cases empty : i.channelId.text = ""
    · simp [empty, Text.isEmpty_ofString, require, bind, Except.bind]
    · simp [empty, Text.isEmpty_ofString, require, bind, Except.bind, pure, Except.pure, path]

-- ---------------------------------------------------------------------------
-- Request
-- ---------------------------------------------------------------------------

theorem build_result (i : Invite) : i.build.result = (do
    let body ← i.body
    let path ← Route.channelInvites.path [("channel_id", i.channelId)]
    return ⟨Route.channelInvites.method, path, .object body, [], i.reason⟩) := by
  simp only [build, Logged.result_bind, Logged.result_lift, Logged.result_report]
  rfl

def isWritable (i : Invite) : Bool := i.idsWritable && i.channelId.isWritable

theorem build_eq (i : Invite) :
    i.build.result =
      if i.isWritable = false then .error .tooManyDigits
      else if i.channelId.text = "" then .error (.refused "channel_id" .empty)
      else .ok ⟨"POST", i.path, .object i.members, [], i.reason⟩ := by
  rw [build_result, body_eq, channelInvites_path, isWritable]
  cases i.idsWritable with
  | false => rfl
  | true =>
    cases i.channelId.isWritable with
    | false => rfl
    | true => by_cases empty : i.channelId.text = "" <;> simp only [empty] <;> rfl

theorem build_ok {i : Invite} : i.build.result = .ok r ↔
    i.isWritable = true ∧ i.channelId.text ≠ "" ∧
      r = ⟨"POST", i.path, .object i.members, [], i.reason⟩ := by
  rw [build_eq]
  cases i.isWritable with
  | false => simp
  | true => by_cases empty : i.channelId.text = "" <;> simp [empty, eq_comm]

end BotPayload.Invite
