import BotPayload.Proofs.CommandLine.Exclusive
import BotPayload.Proofs.CommandLine.Printing

/-!
# What becomes of the options of an invite

Every option that is given is found in the printed request, with one exception: a target whose text
is empty is dropped without a word, where any other text that names nothing is refused. A reason
that is empty is sent as no header, since there is nothing to send; one that holds a surrogate
cannot be sent, and the command breaks off.
-/

namespace BotPayload.CommandLine

structure TargetKeys (ms : Members) (type user application : Option Value) : Prop where
  type : ms.lookup "target_type" = type
  user : ms.lookup "target_user_id" = user
  application : ms.lookup "target_application_id" = application

/-- A body has a member for every option that was given, with its value. Of a target that is not
empty it has the type and the id that the text reads as. -/
structure CarriesOptions (o : InviteOptions) (ms : Members) : Prop where
  maxAge : ms.lookup "max_age" = o.maxAge.map .int
  maxUses : ms.lookup "max_uses" = o.maxUses.map .int
  temporary : ms.lookup "temporary" = if o.temporary then some (.bool true) else none
  unique : ms.lookup "unique" = if o.unique then some (.bool true) else none
  user : ∀ s, o.targetUser = some s → s ≠ "" → ∃ n : Nat, Snowflake.read s "User ID" = .ok n ∧
    TargetKeys ms (some (.int 1)) (some (.str (intText n))) none
  application : ∀ s, o.targetApplication = some s → s ≠ "" → ∃ n : Nat,
    Snowflake.read s "Application ID" = .ok n ∧
      TargetKeys ms (some (.int 2)) none (some (.str (intText n)))
  untargeted : nonEmpty o.targetUser = none → nonEmpty o.targetApplication = none →
    TargetKeys ms none none none

def reasonHeaders (reason : Option String) : Option Value :=
  (nonEmpty reason).map fun text =>
    .object [("X-Audit-Log-Reason", .str (Percent.encode Request.reasonSafe text))]

/-- Nothing is printed: the reason cannot be encoded, and its error is not explained. -/
def BreaksOff (o : InviteOptions) (outcome : Outcome) : Prop :=
  ∃ t e, o.reason = some t ∧ t.unicode = .error e ∧ outcome = .raised e ""

section
variable {o : InviteOptions} {i i' : Invite}

-- ---------------------------------------------------------------------------
-- Bodies
-- ---------------------------------------------------------------------------

theorem map_toValue_int (n : Option Int) :
    (n.map Quantity.int).map Quantity.toValue = n.map .int := by
  cases n <;> rfl

theorem map_flag (b : Bool) :
    (if b then some true else none).map Value.bool = if b then some (.bool true) else none := by
  cases b <;> rfl

theorem targetKeys_stream (i : Invite) (n : Nat) :
    TargetKeys (i.aimed .stream (.int n)).members (some (.int 1)) (some (.str (intText n))) none where
  type := by rw [Invite.lookup_target_type]; rfl
  user := by rw [Invite.lookup_target_user_id]; rfl
  application := by rw [Invite.lookup_target_application_id]; rfl

theorem targetKeys_application (i : Invite) (n : Nat) :
    TargetKeys (i.aimed .application (.int n)).members (some (.int 2)) none
      (some (.str (intText n))) where
  type := by rw [Invite.lookup_target_type]; rfl
  user := by rw [Invite.lookup_target_user_id]; rfl
  application := by rw [Invite.lookup_target_application_id]; rfl

theorem targetKeys_untargeted (o : InviteOptions) :
    TargetKeys o.untargeted.members none none none where
  type := by rw [Invite.lookup_target_type]; rfl
  user := by rw [Invite.lookup_target_user_id]; rfl
  application := by rw [Invite.lookup_target_application_id]; rfl

theorem Aimed.eq_aimed {t : InviteTarget} {s : String} (h : Aimed t i (some s) i') (ne : s ≠ "")
    (field : String) : ∃ n : Nat, Snowflake.read s field = .ok n ∧ i' = i.aimed t (.int n) := by
  cases h with
  | empty => exact absurd rfl ne
  | named _ read _ => exact ⟨_, Snowflake.read_ok.mpr ⟨ne, read⟩, rfl⟩

theorem carriesOptions (h : o.invite = .ok i)
    (apart : o.targetUser = none ∨ o.targetApplication = none) : CarriesOptions o i.members where
  maxAge := by
    rw [Invite.lookup_max_age, invite_kept h]
    exact map_toValue_int o.maxAge
  maxUses := by
    rw [Invite.lookup_max_uses, invite_kept h]
    exact map_toValue_int o.maxUses
  temporary := by
    rw [Invite.lookup_temporary, invite_kept h]
    exact map_flag o.temporary
  unique := by
    rw [Invite.lookup_unique, invite_kept h]
    exact map_flag o.unique
  user s given ne := by
    obtain ⟨j, user, application⟩ := invite_ok h
    have alone : o.targetApplication = none := apart.resolve_left (by simp [given])
    rw [alone] at application
    rw [given] at user
    obtain ⟨n, read, aimed⟩ := user.eq_aimed ne "User ID"
    rw [application.eq rfl, aimed]
    exact ⟨n, read, targetKeys_stream _ n⟩
  application s given ne := by
    obtain ⟨j, user, application⟩ := invite_ok h
    have alone : o.targetUser = none := apart.resolve_right (by simp [given])
    rw [alone] at user
    rw [given] at application
    obtain ⟨n, read, aimed⟩ := application.eq_aimed ne "Application ID"
    rw [aimed, user.eq rfl]
    exact ⟨n, read, targetKeys_application _ n⟩
  untargeted noUser noApplication := by
    obtain ⟨j, user, application⟩ := invite_ok h
    rw [application.eq noApplication, user.eq noUser]
    exact targetKeys_untargeted o

-- ---------------------------------------------------------------------------
-- Requests
-- ---------------------------------------------------------------------------

theorem headers_ok {r : Request} (h : r.headers = .ok hs) :
    ∃ reason : Option String, r.reason = reason.map Text.ofString ∧
      (if hs = [] then none else some (Value.object (hs.map fun (k, v) => (k, .str v)))) =
        reasonHeaders reason := by
  unfold Request.headers at h
  split at h
  · rename_i t given
    split at h
    · rename_i empty
      cases h
      exact ⟨some "", given.trans (congrArg some (Text.eq_of_isEmpty empty)), rfl⟩
    · rename_i nonempty
      obtain ⟨s, unicode, h⟩ := bind_ok.mp h
      cases h
      obtain rfl := Text.unicode_ok.mp unicode
      have ne : s ≠ "" := by simpa [Text.isEmpty_ofString] using nonempty
      refine ⟨some s, given, ?_⟩
      rw [reasonHeaders, nonEmpty_some ne]
      rfl
  · rename_i given
    cases h
    exact ⟨none, given, rfl⟩

theorem run_empty_user (h : o.targetUser = some "") (s : Settings) (l : Logging) :
    o.run s l = { o with targetUser := none }.run s l := by
  obtain ⟨channel, voice, maxAge, maxUses, temporary, unique, user, application, reason⟩ := o
  subst h
  rfl

theorem run_empty_application (h : o.targetApplication = some "") (s : Settings) (l : Logging) :
    o.run s l = { o with targetApplication := none }.run s l := by
  obtain ⟨channel, voice, maxAge, maxUses, temporary, unique, user, application, reason⟩ := o
  subst h
  rfl

theorem ofParsed_short {args : List String} {channel : Given} {given : Parsed}
    (h : inviteCommand.read args = .ok (channel, given)) (wide : String → Text) :
    (InviteOptions.ofParsed wide channel given).Short where
  channel := by
    have short := (read_short h).1
    unfold InviteOptions.ofParsed
    split
    · exact short
    · rfl
  maxAge _ := number?_short (read_short h).2
  maxUses _ := number?_short (read_short h).2

/-- A command line that reads leads to an explained error, or to a request that carries all its
options, unless its reason cannot be encoded; a target that is an empty text counts as none. -/
theorem runInvite_carries_options {args : List String} {channel : Given} {given : Parsed}
    (h : inviteCommand.read args = .ok (channel, given)) (s : Settings) (l : Logging)
    (wide : String → Text) :
    let o := InviteOptions.ofParsed wide channel given
    ((∃ e, Explains e (runInvite s l wide args)) ∨
      (∃ d log ms reason, Prints d log (runInvite s l wide args) ∧
        d.get? "json" = some (.object ms) ∧ CarriesOptions o ms ∧
        o.reason = reason.map Text.ofString ∧ d.get? "headers" = reasonHeaders reason) ∨
      BreaksOff o (runInvite s l wide args)) ∧
    (o.targetUser = some "" →
      runInvite s l wide args = { o with targetUser := none }.run s l) ∧
    (o.targetApplication = some "" →
      runInvite s l wide args = { o with targetApplication := none }.run s l) := by
  intro o
  have short : o.Short := ofParsed_short h wide
  have run : runInvite s l wide args = o.run s l := by
    rw [runInvite, h]
  rw [run]
  refine ⟨?_, ?_, ?_⟩
  · obtain ⟨r, d, request, describes, prints⟩ | ⟨e, -, explains⟩ |
      ⟨_, t, e, -, given, failed, raised⟩ := run_invite short s l
    · obtain ⟨i, made, rfl⟩ := (request_ok short).mp request
      obtain ⟨hs, headers, shown⟩ := describes.headers
      obtain ⟨reason, given, header⟩ := headers_ok headers
      refine .inr (.inl ⟨d, _, i.members, reason, prints, describes.json, ?_, ?_, shown.trans header⟩)
      · exact carriesOptions made (ofParsed_apart h wide)
      · exact (congrArg Invite.reason (invite_kept made)).symm.trans given
    · exact .inl ⟨e, explains⟩
    · exact .inr (.inr ⟨t, e, given, failed, raised⟩)
  · exact fun empty => run_empty_user empty s l
  · exact fun empty => run_empty_application empty s l

end

section
variable {o : InviteOptions}

theorem not_explains (short : o.Short) (h : o.invite = .ok i) (s : Settings) (l : Logging)
    (e : Error) : ¬Explains e (o.run s l) := by
  rintro ⟨-, -, failed⟩
  obtain ⟨r, d, -, -, line, printed, -⟩ | ⟨e, refused, -⟩ | ⟨_, t, e, -, -, -, raised⟩ :=
    run_invite short s l
  · have same := Outcome.finished.inj (printed.symm.trans failed)
    cases congrArg Output.exit same
  · cases refused.symm.trans ((request_ok short).mpr ⟨i, h, rfl⟩)
  · cases raised.symm.trans failed

theorem not_breaksOff {outcome : Outcome} {reason : Option String}
    (h : o.reason = reason.map Text.ofString) : ¬BreaksOff o outcome := by
  rintro ⟨t, e, given, failed, -⟩
  rw [h] at given
  obtain ⟨s, -, rfl⟩ := Option.map_eq_some_iff.mp given
  rw [Text.unicode_ofString] at failed
  cases failed

/-- A user who is named is found in the request; one who is named by an empty text is not, and
nothing is said about it. -/
theorem runInvite_carries_options_user :
    ∃ (s : Settings) (l : Logging), s = ⟨"https://discord.com/api", 10, "WARNING"⟩ ∧
      (∃ d log ms, Prints d log (runInvite s l Text.ofString
          ["5", "--voice", "--max-age", "0", "--target-user", "42", "--reason", "a/é"]) ∧
        d.get? "json" = some (.object ms) ∧ ms.lookup "max_age" = some (.int 0) ∧
        TargetKeys ms (some (.int 1)) (some (.str (intText 42))) none ∧
        d.get? "headers" = some (.object [("X-Audit-Log-Reason", .str "a/%C3%A9")])) ∧
      ∃ d log ms, Prints d log (runInvite s l Text.ofString
          ["5", "--voice", "--target-user", ""]) ∧
        d.get? "json" = some (.object ms) ∧ TargetKeys ms none none none := by
  have named : inviteCommand.read
      ["5", "--voice", "--max-age", "0", "--target-user", "42", "--reason", "a/é"] =
      .ok (.number 5, [("--reason", .text "a/é"), ("--target-user", .text "42"),
        ("--max-age", .number 0), ("--voice", .flag)]) := by rfl
  have unnamed : inviteCommand.read ["5", "--voice", "--target-user", ""] =
      .ok (.number 5, [("--target-user", .text ""), ("--voice", .flag)]) := by rfl
  refine ⟨⟨"https://discord.com/api", 10, "WARNING"⟩, ⟨30, fun _ => ""⟩, rfl, ?_, ?_⟩
  · have short := ofParsed_short named Text.ofString
    obtain ⟨⟨e, explains⟩ | ⟨d, log, ms, reason, prints, json, carries, given, headers⟩ | broken, -⟩ :=
      runInvite_carries_options named ⟨"https://discord.com/api", 10, "WARNING"⟩ ⟨30, fun _ => ""⟩
        Text.ofString
    · rw [runInvite, named] at explains
      exact absurd explains (not_explains short rfl _ _ _)
    · obtain ⟨n, read, keys⟩ := carries.user "42" rfl (by decide)
      have number : Snowflake.read "42" "User ID" = .ok 42 := rfl
      obtain rfl := Except.ok.inj (number.symm.trans read)
      obtain rfl : reason = some "a/é" := by
        cases reason with
        | none => cases given
        | some text => exact congrArg some (Text.ofString_inj.mp (Option.some.inj given)).symm
      have encoded : Percent.encode Request.reasonSafe "a/é" = "a/%C3%A9" := by decide
      rw [← encoded]
      exact ⟨d, log, ms, prints, json, carries.maxAge, keys, headers⟩
    · exact absurd broken (@not_breaksOff _ _ (some "a/é") rfl)
  · have short := ofParsed_short unnamed Text.ofString
    obtain ⟨⟨e, explains⟩ | ⟨d, log, ms, reason, prints, json, carries, -, -⟩ | broken, -⟩ :=
      runInvite_carries_options unnamed ⟨"https://discord.com/api", 10, "WARNING"⟩ ⟨30, fun _ => ""⟩
        Text.ofString
    · rw [runInvite, unnamed] at explains
      exact absurd explains (not_explains short rfl _ _ _)
    · exact ⟨d, log, ms, prints, json, carries.untargeted rfl rfl⟩
    · exact absurd broken (@not_breaksOff _ _ none rfl)

end

end BotPayload.CommandLine
