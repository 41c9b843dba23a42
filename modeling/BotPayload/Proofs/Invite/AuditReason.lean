import BotPayload.Proofs.Invite.Independence
import BotPayload.Proofs.Text.Encoded

/-!
# The reason that is told to the audit log

A reason is sent as one header, in which it stands percent-encoded. The header is printable ASCII,
whatever the reason holds, and the reason can be read back from it (`Request.tells`), so that
different reasons are told differently. Nothing is sent where there is no reason, or an empty one.
-/

namespace BotPayload

namespace Request

/-- How a request tells a reason to the audit log. -/
structure Tells (reason : Option String) (r : Request) : Prop where
  silent : r.headers = .ok [] ↔ reason = none ∨ reason = some ""
  told : ∀ s, reason = some s → s ≠ "" → ∃ value,
    r.headers = .ok [("X-Audit-Log-Reason", value)] ∧ Percent.Encoded ['/', ' '] value.toList ∧
      (∀ c ∈ value.toList, 32 ≤ c.toNat ∧ c.toNat ≤ 126) ∧ Percent.decode value = some s

theorem reasonSafe_ascii : ∀ c ∈ reasonSafe, c.toNat < 128 ∧ c ≠ '%' :=
  List.forall_mem_cons.mpr ⟨by decide, List.forall_mem_singleton.mpr (by decide)⟩

theorem reasonSafe_printable : ∀ c ∈ reasonSafe, 32 ≤ c.toNat ∧ c.toNat ≤ 126 :=
  List.forall_mem_cons.mpr ⟨by decide, List.forall_mem_singleton.mpr (by decide)⟩

theorem headers_eq {r : Request} {reason : Option String}
    (given : r.reason = reason.map Text.ofString) :
    r.headers = .ok (if reason.getD "" = "" then []
      else [("X-Audit-Log-Reason", Percent.encode reasonSafe (reason.getD ""))]) := by
  unfold headers
  rw [given]
  cases reason with
  | none => rfl
  | some s =>
    by_cases empty : s = ""
    · simp [empty, Text.isEmpty_ofString]
    · simp only [Option.map_some, Text.isEmpty_ofString, empty, decide_false, Bool.false_eq_true,
        ↓reduceIte, Option.getD_some, Text.unicode_ofString]
      rfl

theorem tells {r : Request} {reason : Option String} (given : r.reason = reason.map Text.ofString) :
    r.Tells reason where
  silent := by
    rw [headers_eq given]
    cases reason with
    | none => simp
    | some s => simp
  told := by
    intro s told nonempty
    have header := headers_eq given
    rw [told, Option.getD_some, if_neg nonempty] at header
    have encoded : Percent.Encoded reasonSafe (Percent.encode reasonSafe s).toList :=
      Percent.encode_encoded s
    exact ⟨_, header, encoded, encoded.printable reasonSafe_printable,
      Percent.decode_encode reasonSafe_ascii s⟩

theorem headers_inj {r r' : Request} {reason reason' : Option String}
    (given : r.reason = reason.map Text.ofString) (given' : r'.reason = reason'.map Text.ofString) :
    r.headers = r'.headers ↔ reason.getD "" = reason'.getD "" := by
  rw [headers_eq given, headers_eq given', Except.ok.injEq]
  by_cases empty : reason.getD "" = ""
  · by_cases empty' : reason'.getD "" = ""
    · simp [empty, empty']
    · simp [empty, empty']
  · by_cases empty' : reason'.getD "" = ""
    · simp [empty, empty']
    · simp [empty, empty', Percent.encode_inj reasonSafe_ascii]

end Request

namespace Invite

/-- A request that is built of an invite to which a reason was given, and no other after it. -/
inductive RequestedFor (reason : Option String) : Request → Prop
  | mk {i i' : Invite} {ss : List Step} : i.setReason (reason.map Text.ofString) = .ok i' →
      (∀ s ∈ ss, s.group ≠ .reason) → (i'.run ss).build.result = .ok r → RequestedFor reason r

theorem run_of_others {i : Invite} {ss : List Step} (others : ∀ s ∈ ss, s.group ≠ .reason) :
    (i.run ss).reason = i.reason ∧ (i.run ss).channelId = i.channelId := by
  -- No step is of the group, so that a run of its own steps alone is no run at all.
  have own : ss.filter (fun s => s.group = .reason) = [] :=
    List.filter_eq_nil_iff.mpr fun s mem => by simpa using others s mem
  have kept : (i.run ss).only .reason = i.only .reason := by
    rw [run_only, own]
    rfl
  have reason := congrArg Invite.reason kept
  have channel := congrArg Invite.channelId kept
  exact ⟨reason, channel⟩

theorem RequestedFor.reason_eq {reason : Option String} (h : RequestedFor reason r) :
    r.reason = reason.map Text.ofString := by
  obtain ⟨accepted, others, built⟩ := h
  obtain ⟨-, rfl⟩ := setReason_ok.mp accepted
  obtain ⟨-, -, rfl⟩ := build_ok.mp built
  exact (run_of_others others).1

/-- An invite to a channel can be requested whatever reason was accepted for it, as long as its ids
can be written. The request tells a reason without surrogates in one header, from which it can be
read back, or in none where there is nothing to tell. Requests have the same headers exactly when
their reasons are the same. -/
theorem reason_told :
    (∀ (i i' : Invite) (reason : Option Text) (ss : List Step), i.setReason reason = .ok i' →
      (∀ s ∈ ss, s.group ≠ .reason) →
      ((∃ r, (i'.run ss).build.result = .ok r) ↔
        (i'.run ss).isWritable = true ∧ i.channelId.text ≠ "")) ∧
    (∀ reason r, RequestedFor reason r → r.Tells reason) ∧
    ∀ reason reason' r r', RequestedFor reason r → RequestedFor reason' r' →
      (r.headers = r'.headers ↔ reason.getD "" = reason'.getD "") := by
  refine ⟨fun i i' reason ss accepted others => ?_, fun reason r requested => ?_,
    fun reason reason' r r' requested requested' => ?_⟩
  · obtain ⟨-, rfl⟩ := setReason_ok.mp accepted
    simp [build_ok, (run_of_others others).2]
  · exact Request.tells requested.reason_eq
  · exact Request.headers_inj requested.reason_eq requested'.reason_eq

/-- A line break and a percent sign in a reason are encoded, and the header is another one than
that of the encoded text. -/
theorem reason_told_line_break :
    ∃ r r', RequestedFor (some "5%\r\né") r ∧ RequestedFor (some "5%25%0D%0A%C3%A9") r' ∧
      r.headers = .ok [("X-Audit-Log-Reason", "5%25%0D%0A%C3%A9")] ∧ r.Tells (some "5%\r\né") ∧
      r.headers ≠ r'.headers := by
  let i : Invite := { channelId := .int 10, channelType := .text }
  obtain ⟨built, tells, apart⟩ := reason_told
  have asked (s : String) (short : s.length ≤ maxReasonLength) : ∃ r, RequestedFor (some s) r := by
    have accepted : i.setReason (some s) = .ok { i with reason := some s } :=
      setReason_ok.mpr ⟨by simpa [Text.length_ofString] using short, rfl⟩
    have writable : (run { i with reason := some s } []).isWritable = true := rfl
    obtain ⟨r, made⟩ :=
      (built i _ _ [] accepted (List.forall_mem_nil _)).mpr ⟨writable, intText_ne 10⟩
    exact ⟨r, .mk accepted (List.forall_mem_nil _) made⟩
  obtain ⟨r, plain⟩ := asked "5%\r\né" (by decide)
  obtain ⟨r', encoded⟩ := asked "5%25%0D%0A%C3%A9" (by decide)
  refine ⟨r, r', plain, encoded, ?_, tells _ _ plain, ?_⟩
  · rw [Request.headers_eq plain.reason_eq, Except.ok.injEq]
    decide
  · rw [ne_eq, apart _ _ _ _ plain encoded]
    decide

end Invite

end BotPayload
