import BotPayload.Proofs.Invite.Request
import BotPayload.Proofs.Message.Request
import BotPayload.Proofs.Route.Segment

/-!
# Reading parameters back from the paths of requests

The paths of edits and of invites tell which webhook, message or channel they are for.
-/

namespace BotPayload

namespace Route

theorem webhookMessage_segments :
    webhookMessage.template.toList.splitOn '/' =
      [[], "webhooks".toList, '\x7b' :: "application_id".toList ++ ['\x7d'],
        '\x7b' :: "token".toList ++ ['\x7d'], "messages".toList,
        '\x7b' :: "message_id".toList ++ ['\x7d']] := by
  decide

theorem channelInvites_segments :
    channelInvites.template.toList.splitOn '/' =
      [[], "channels".toList, '\x7b' :: "channel_id".toList ++ ['\x7d'], "invites".toList] := by
  decide

theorem webhookMessage_segment :
    ∀ s ∈ webhookMessage.template.toList.splitOn '/', Segment s := by
  have applicationId : Template.Identifier "application_id".toList :=
    ⟨by decide, by simp, by simp; decide⟩
  have token : Template.Identifier "token".toList := ⟨by decide, by simp, by simp; decide⟩
  have messageId : Template.Identifier "message_id".toList :=
    ⟨by decide, by simp, by simp; decide⟩
  simp only [webhookMessage_segments, List.forall_mem_cons]
  exact ⟨.literal nofun, .literal (by simp), .hole applicationId, .hole token,
    .literal (by simp), .hole messageId, nofun⟩

theorem channelInvites_segment :
    ∀ s ∈ channelInvites.template.toList.splitOn '/', Segment s := by
  have channelId : Template.Identifier "channel_id".toList :=
    ⟨by decide, by simp, by simp; decide⟩
  simp only [channelInvites_segments, List.forall_mem_cons]
  exact ⟨.literal nofun, .literal (by simp), .hole channelId, .literal (by simp), nofun⟩

end Route

namespace MessageEdit

theorem build_path {e : MessageEdit} (h : e.build.result = .ok q) :
    Route.webhookMessage.path e.parameters = .ok q.path := by
  rw [build_result] at h
  obtain ⟨_, -, h⟩ := bind_ok.mp h
  obtain ⟨path, made, h⟩ := bind_ok.mp h
  obtain rfl := pure_ok.mp h
  exact made

theorem eq_of_path {e e' : MessageEdit} (h : e.build.result = .ok q)
    (h' : e'.build.result = .ok q') (same : q.path = q'.path) :
    e.applicationId.shown = e'.applicationId.shown ∧ e.token = e'.token ∧
      e.messageId.shown = e'.messageId.shown := by
  have first := build_path h
  have second := build_path h'
  rw [← same] at second
  have texts {name : String} (mem : '\x7b' :: name.toList ++ ['\x7d'] ∈
      Route.webhookMessage.template.toList.splitOn '/') :=
    Route.lookup_text_eq Route.webhookMessage_segment mem first second
  rw [Route.webhookMessage_segments] at texts
  refine ⟨?_, ?_, ?_⟩
  · simpa [parameters] using @texts "application_id" (by simp)
  · simpa [parameters, List.lookup_cons, Parameter.shown] using @texts "token" (by simp)
  · simpa [parameters, List.lookup_cons] using @texts "message_id" (by simp)

end MessageEdit

namespace Invite

theorem build_path {i : Invite} (h : i.build.result = .ok q) :
    Route.channelInvites.path [("channel_id", i.channelId)] = .ok q.path := by
  rw [build_result] at h
  obtain ⟨_, -, h⟩ := bind_ok.mp h
  obtain ⟨path, made, h⟩ := bind_ok.mp h
  obtain rfl := pure_ok.mp h
  exact made

theorem eq_of_path {i i' : Invite} (h : i.build.result = .ok q) (h' : i'.build.result = .ok q')
    (same : q.path = q'.path) : i.channelId.text = i'.channelId.text := by
  have first := build_path h
  have second := build_path h'
  rw [← same] at second
  have mem : '\x7b' :: "channel_id".toList ++ ['\x7d'] ∈
      Route.channelInvites.template.toList.splitOn '/' := by
    rw [Route.channelInvites_segments]
    simp
  have texts := Route.lookup_text_eq Route.channelInvites_segment mem first second
  simpa [Parameter.shown, Text.ofString_inj] using texts

end Invite

/-- A parameter never changes the segments of a path, and can be read back from its own. The paths
of edits and invites therefore tell their webhooks, messages and channels apart. -/
theorem Route.path_readable :
    (∀ (r : Route) (params : Parameters) (path : String),
      (∀ s ∈ r.template.toList.splitOn '/', Segment s) → r.path params = .ok path →
        List.Forall₂ (Fills params) (r.template.toList.splitOn '/') (path.toList.splitOn '/')) ∧
      (∀ (e e' : MessageEdit) (q q' : Request), e.build.result = .ok q → e'.build.result = .ok q' →
        q.path = q'.path →
        e.applicationId.shown = e'.applicationId.shown ∧ e.token = e'.token ∧
          e.messageId.shown = e'.messageId.shown) ∧
      ∀ (i i' : Invite) (q q' : Request), i.build.result = .ok q → i'.build.result = .ok q' →
        q.path = q'.path → i.channelId.text = i'.channelId.text :=
  ⟨fun _ _ _ segments made => path_segments segments made,
    fun _ _ _ _ made made' same => MessageEdit.eq_of_path made made' same,
    fun _ _ _ _ made made' same => Invite.eq_of_path made made' same⟩

/-- A slash in a parameter does not split the path, and a number and its text give one path. -/
theorem Route.path_readable_slash :
    List.Forall₂ (Fills [("x", .value (.str "p/%"))]) ("/a/\x7bx\x7d".toList.splitOn '/')
        ("/a/p%2F%25".toList.splitOn '/') ∧
      (∃ (e e' : MessageEdit) (q q' : Request), e.applicationId = .value (.int 42) ∧
        e'.applicationId = .value (.str "42") ∧ e.build.result = .ok q ∧
        e'.build.result = .ok q' ∧ q.path = q'.path ∧
        e.applicationId.shown = e'.applicationId.shown) ∧
      ∃ (i i' : Invite) (q q' : Request), i.channelId = .int 10 ∧ i'.channelId = .str "10" ∧
        i.build.result = .ok q ∧ i'.build.result = .ok q' ∧ q.path = q'.path ∧
        i.channelId.text = i'.channelId.text := by
  obtain ⟨segments, edits, invites⟩ := path_readable
  refine ⟨?_, ?_, ?_⟩
  · have split : "/a/\x7bx\x7d".toList.splitOn '/' = [[], ['a'], '\x7b' :: ['x'] ++ ['\x7d']] := by
      decide
    have name : Template.Identifier ['x'] := ⟨by decide, by simp, by simp; decide⟩
    refine segments ⟨"GET", "/a/\x7bx\x7d"⟩ _ _ ?_ (by rfl)
    simp only [split, List.forall_mem_cons]
    exact ⟨.literal nofun, .literal (by simp), .hole name, nofun⟩
  · have digits : intText 42 = "42" := by decide +kernel
    have addressed (application : Parameter) : MessageEdit.Addressed
        { applicationId := application, token := "key", messageId := .value (.str "7") } :=
      ⟨rfl, rfl, rfl⟩
    have built (application : Parameter) (unicode : application.unicode = .ok "42") :=
      (MessageEdit.build_ok (addressed application)).mpr
        ⟨nofun, "42", "key", "7", by decide, ⟨unicode, rfl, rfl⟩, rfl⟩
    have number := built (.value (.int 42))
      (Parameter.unicode_ok.mpr ⟨rfl, congrArg Text.ofString digits⟩)
    have text := built (.value (.str "42")) rfl
    exact ⟨_, _, _, _, rfl, rfl, number, text, rfl, (edits _ _ _ _ number text rfl).1⟩
  · have built (v : Value) (short : v.isWritable = true) (ne : v.text ≠ "") :=
      (@Invite.build_ok _ { channelId := v, channelType := .text }).mpr ⟨short, ne, rfl⟩
    have number := built (.int 10) rfl (intText_ne 10)
    have text := built (.str "10") rfl (by decide)
    have digits : (Value.int 10).text = "10" := by decide +kernel
    have same : Invite.path { channelId := .int 10, channelType := .text } =
        Invite.path { channelId := .str "10", channelType := .text } := by
      rw [Invite.path, digits]
      rfl
    exact ⟨_, _, _, _, rfl, rfl, number, text, same, invites _ _ _ _ number text same⟩

end BotPayload
