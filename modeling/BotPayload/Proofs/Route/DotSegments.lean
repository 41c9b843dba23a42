import BotPayload.Proofs.Invite.Consistent
import BotPayload.Proofs.Message.Limits
import BotPayload.Proofs.Route.Readback

/-!
# Dot segments

Whoever normalises a path takes the segments `.` and `..` out of it, the second one together with
the segment in front. Percent encoding keeps dots, so that a path has such a segment exactly where
its template has one, or where a parameter is nothing but one or two dots (`path_dots`). The
templates of edits and invites have none; their parameters are not kept from being dots.
-/

namespace BotPayload

def IsDots (cs : List Char) : Prop := cs = ['.'] ∨ cs = ['.', '.']

instance (cs : List Char) : Decidable (IsDots cs) := inferInstanceAs (Decidable (_ ∨ _))

def HasDots (path : String) : Prop := ∃ s ∈ path.toList.splitOn '/', IsDots s

namespace Route

open Template (Part)

variable {params : Parameters}

theorem encode_dots (s : String) :
    IsDots (Percent.encode segmentSafe s).toList ↔ IsDots s.toList := by
  -- What is encoded as itself is the encoding of nothing else.
  have kept {cs : List Char} (plain : Percent.encode segmentSafe (String.ofList cs) = String.ofList cs) :
      (Percent.encode segmentSafe s).toList = cs ↔ s.toList = cs := by
    rw [← String.ofList_inj, ← String.ofList_inj, String.ofList_toList, String.ofList_toList]
    nth_rewrite 1 [← plain]
    exact Percent.encode_inj segmentSafe_ascii
  exact or_congr (kept (by decide)) (kept (by decide))

theorem hole_not_dots (name : List Char) : ¬IsDots ('\x7b' :: name ++ ['\x7d']) := by
  rintro (one | two)
  · nomatch (List.cons.inj one).1
  · nomatch (List.cons.inj two).1

theorem SegmentPart.dots_iff {part : Part} (h : SegmentPart part)
    (fills : Fills params part.source (part.filled (segmentText params))) :
    IsDots (part.filled (segmentText params)) ↔
      IsDots part.source ∨ ∃ name p s, part.source = '\x7b' :: name ++ ['\x7d'] ∧
        params.lookup (String.ofList name) = some p ∧ p.unicode = .ok s ∧ IsDots s.toList := by
  cases h with
  | literal plain _ =>
    rw [Part.source, escaped_of_no_braces plain]
    refine ⟨.inl, fun dots => dots.resolve_right ?_⟩
    rintro ⟨name, p, s, rfl, -⟩
    exact absurd rfl (plain '\x7b' List.mem_cons_self).1
  | @hole name _ =>
    -- A hole is no dot segment itself, so that only the value decides.
    obtain ⟨p, s, bound, unicode, -⟩ := Fills.renders fills
    rw [Part.filled, segmentText_of_lookup bound unicode, encode_dots]
    constructor
    · exact fun dots => .inr ⟨name, p, s, rfl, bound, unicode, dots⟩
    · rintro (dots | ⟨name', p', s', source, bound', unicode', dots⟩)
      · exact absurd dots (hole_not_dots name)
      · obtain rfl := List.append_cancel_right (List.cons.inj source).2
        obtain rfl := Option.some.inj (bound.symm.trans bound')
        obtain rfl := Except.ok.inj (unicode.symm.trans unicode')
        exact dots

theorem path_dots {r : Route} (segments : ∀ s ∈ r.template.toList.splitOn '/', Segment s)
    (h : r.path params = .ok text) :
    HasDots text ↔
      HasDots r.template ∨ ∃ name p s,
        '\x7b' :: name ++ ['\x7d'] ∈ r.template.toList.splitOn '/' ∧
        params.lookup (String.ofList name) = some p ∧ p.unicode = .ok s ∧ IsDots s.toList := by
  obtain ⟨parts, good, split, whole⟩ := path_split segments h
  have each : ∀ part ∈ parts, _ := fun part mem => (good part mem).1.dots_iff (good part mem).2
  simp only [HasDots, split, whole, List.mem_map, exists_exists_and_eq_and]
  constructor
  · rintro ⟨part, mem, dots⟩
    obtain literal | ⟨name, p, s, source, value⟩ := (each part mem).mp dots
    · exact .inl ⟨part, mem, literal⟩
    · exact .inr ⟨name, p, s, ⟨part, mem, source⟩, value⟩
  · rintro (⟨part, mem, literal⟩ | ⟨name, p, s, ⟨part, mem, source⟩, value⟩)
    · exact ⟨part, mem, (each part mem).mpr (.inl literal)⟩
    · exact ⟨part, mem, (each part mem).mpr (.inr ⟨name, p, s, source, value⟩)⟩

theorem hole_inj {name name' : List Char} :
    '\x7b' :: name ++ ['\x7d'] = '\x7b' :: name' ++ ['\x7d'] ↔ name = name' := by simp

theorem hole_literal {name s : List Char} (h : '\x7b' ∉ s) :
    '\x7b' :: name ++ ['\x7d'] = s ↔ False := by
  rw [iff_false]
  rintro rfl
  exact h List.mem_cons_self

theorem webhookMessage_hole {name : List Char} :
    '\x7b' :: name ++ ['\x7d'] ∈ webhookMessage.template.toList.splitOn '/' ↔
      name = "application_id".toList ∨ name = "token".toList ∨ name = "message_id".toList := by
  have root := @hole_literal name [] (by decide)
  have webhooks := @hole_literal name "webhooks".toList (by decide)
  have messages := @hole_literal name "messages".toList (by decide)
  simp only [webhookMessage_segments, List.mem_cons, List.not_mem_nil, hole_inj, root, webhooks,
    messages, false_or, or_false]

theorem channelInvites_hole {name : List Char} :
    '\x7b' :: name ++ ['\x7d'] ∈ channelInvites.template.toList.splitOn '/' ↔
      name = "channel_id".toList := by
  have root := @hole_literal name [] (by decide)
  have channels := @hole_literal name "channels".toList (by decide)
  have invites := @hole_literal name "invites".toList (by decide)
  simp only [channelInvites_segments, List.mem_cons, List.not_mem_nil, hole_inj, root, channels,
    invites, false_or, or_false]

end Route

theorem MessageEdit.build_dots {e : MessageEdit} (h : e.build.result = .ok q) :
    HasDots q.path ↔ ∃ s, IsDots s.toList ∧
      (e.applicationId.shown = .ofString s ∨ e.token = .ofString s ∨
        e.messageId.shown = .ofString s) := by
  have still : ¬HasDots Route.webhookMessage.template := by
    simp only [HasDots, Route.webhookMessage_segments]
    decide
  have made := build_path h
  obtain ⟨a, t, m, application, token, message⟩ := path_located made
  have token : (Parameter.text e.token).unicode = .ok t := token
  rw [Route.path_dots Route.webhookMessage_segment made, or_iff_right still]
  simp only [Route.webhookMessage_hole, or_and_right, exists_or, exists_and_left, exists_eq_left,
    String.ofList_toList, applicationId_lookup, token_lookup, messageId_lookup,
    Option.some.injEq, exists_eq_left', Parameter.unicode_eq_iff application,
    Parameter.unicode_eq_iff token, Parameter.unicode_eq_iff message, and_comm (a := IsDots _)]
  rfl

theorem Invite.build_dots {i : Invite} (h : i.build.result = .ok q) :
    HasDots q.path ↔ IsDots i.channelId.text.toList := by
  have still : ¬HasDots Route.channelInvites.template := by
    simp only [HasDots, Route.channelInvites_segments]
    decide
  have written : i.channelId.isWritable = true := by
    have ids := (build_ok.mp h).1
    rw [isWritable, Bool.and_eq_true] at ids
    exact ids.2
  have unicode : (Parameter.value i.channelId).unicode = .ok i.channelId.text :=
    Parameter.unicode_ok.mpr ⟨written, rfl⟩
  rw [Route.path_dots Route.channelInvites_segment (build_path h), or_iff_right still]
  simp only [Route.channelInvites_hole, exists_and_left, exists_eq_left, String.ofList_toList]
  simp [unicode]

/-- A request that is built of an edit or an invite, and the texts that this was created for. -/
inductive BuiltFor : List Text → Request → Prop
  | edit {e : MessageEdit} {ts : List MessageEdit.Turn} :
      MessageEdit.create application (some token) message = .ok e →
      (e.play ts).build.result = .ok q → BuiltFor [application.shown, token, message.shown] q
  | invite {i : Invite} {ss : List Invite.Step} : Invite.create channel kind = .ok i →
      (i.run ss).build.result = .ok q → BuiltFor [.ofString channel.text] q

/-- Whatever is done to an edit or an invite, the paths of its requests have a dot segment exactly
when one of the texts that it was created for is one or two dots. -/
theorem built_path_dots {texts : List Text} {q : Request} (h : BuiltFor texts q) :
    HasDots q.path ↔ ∃ s, IsDots s.toList ∧ .ofString s ∈ texts := by
  cases h with
  | @edit application _ token message e ts created built =>
    have addresses := MessageEdit.play_addresses created ts
    rw [MessageEdit.build_dots built, addresses.application.1, addresses.message.1,
      Option.some.inj addresses.token.1]
    simp [eq_comm]
  | @invite _ channel kind i ss created built =>
    have kept := ((Invite.create_consistent created).run ss).channelId
    rw [Invite.build_dots built, kept]
    simp [Text.ofString_inj]

/-- A token of two dots, and a channel that is one. -/
theorem built_path_dots_token :
    (∃ q, BuiltFor [.ofString (intText 1), "..", "@original"] q ∧
      q.path = "/webhooks/1/../messages/@original" ∧ HasDots q.path) ∧
    ∃ q, BuiltFor ["."] q ∧ q.path = "/channels/./invites" ∧ HasDots q.path := by
  constructor
  · have created : MessageEdit.create (.value (.int 1)) (some "..") MessageEdit.firstResponse =
        .ok { applicationId := .value (.int 1), token := "..",
              messageId := MessageEdit.firstResponse } := rfl
    have addressed : MessageEdit.Addressed
        { applicationId := .value (.int 1), token := "..",
          messageId := MessageEdit.firstResponse } := ⟨rfl, rfl, rfl⟩
    have unicode : (Parameter.value (.int 1)).unicode = .ok (intText 1) :=
      Parameter.unicode_ok.mpr ⟨rfl, rfl⟩
    have built := (MessageEdit.build_ok addressed).mpr
      ⟨nofun, intText 1, "..", "@original", intText_ne 1, ⟨unicode, rfl, rfl⟩, rfl⟩
    have request : BuiltFor [.ofString (intText 1), "..", "@original"] _ :=
      @BuiltFor.edit _ _ _ _ _ [] created built
    exact ⟨_, request, by decide +kernel,
      (built_path_dots request).mpr ⟨"..", by decide, by simp⟩⟩
  · have created : Invite.create (.str ".") .text =
        .ok { channelId := .str ".", channelType := .text } := rfl
    have built := (@Invite.build_ok _ { channelId := .str ".", channelType := .text }).mpr
      ⟨rfl, by decide, rfl⟩
    have request : BuiltFor ["."] _ := @BuiltFor.invite _ _ _ _ [] created built
    exact ⟨_, request, by decide, (built_path_dots request).mpr ⟨".", by decide, by simp⟩⟩

end BotPayload
