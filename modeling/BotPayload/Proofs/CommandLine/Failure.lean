import BotPayload.CommandLine.InviteCommand
import BotPayload.Button.Derivation
import BotPayload.Proofs.Invite.Steps
import BotPayload.Proofs.Text.Line

/-!
# Failures that a command explains

A command explains a failure by its message when an argument is refused; any other error would
escape. What the commands call fails in no other way, and with messages of one line.
-/

namespace BotPayload

/-- An argument is refused, with a message of one line. -/
def Error.Explained : Error → Prop
  | .refused field reason => OneLine (reason.message field)
  | _ => False

def FailsExplained (x : Except Error α) : Prop := ∀ e, x = .error e → e.Explained

theorem Error.Explained.kind {e : Error} (h : e.Explained) : e.kind = .argument := by
  cases e with
  | refused field reason => rfl
  | _ => exact h.elim

theorem Error.Explained.oneLine {e : Error} (h : e.Explained) : OneLine e.message := by
  cases e with
  | refused field reason => exact h
  | _ => exact h.elim

-- ---------------------------------------------------------------------------
-- Tests
-- ---------------------------------------------------------------------------

section
variable {x : Except Error α} {f : α → Except Error β} {field : String} {reason : Reason}

theorem FailsExplained.ok (a : α) : FailsExplained (.ok a) := nofun

theorem FailsExplained.error (line : OneLine (reason.message field)) :
    FailsExplained (.error (.refused field reason) : Except Error α) := by
  rintro _ ⟨⟩
  exact line

theorem FailsExplained.bind (first : FailsExplained x) (next : ∀ a, FailsExplained (f a)) :
    FailsExplained (x >>= f) := by
  intro e failed
  obtain early | ⟨a, -, late⟩ := bind_error.mp failed
  · exact first e early
  · exact next a e late

theorem FailsExplained.foldlM {f : β → α → Except Error β} {as : List α}
    (h : ∀ a ∈ as, ∀ b, FailsExplained (f b a)) (b : β) : FailsExplained (as.foldlM f b) := by
  induction as generalizing b with
  | nil => exact .ok b
  | cons a as ih =>
    refine (h a List.mem_cons_self b).bind fun b => ?_
    exact ih (fun a ha => h a (List.mem_cons_of_mem _ ha)) b

theorem FailsExplained.require (condition : Bool) (line : OneLine (reason.message field)) :
    FailsExplained (require condition field reason) := by
  cases condition with
  | true => exact .ok ()
  | false => exact .error line

inductive Reason.Fixed : Reason → Prop
  | unknownStyle : Fixed .unknownStyle
  | labelNeeded : Fixed .labelNeeded
  | emojiNeeded : Fixed .emojiNeeded
  | linkNeedsUrl : Fixed .linkNeedsUrl
  | nothingShown : Fixed .nothingShown

theorem Reason.Fixed.oneLine (h : reason.Fixed) (field : String) :
    OneLine (reason.message field) := by
  cases h <;> unfold Reason.message <;> exact .ofList (by decide)

theorem oneLine_missing (line : OneLine field) : OneLine (Reason.missing.message field) :=
  oneLine_append.mpr ⟨line, .ofList (by decide)⟩

theorem oneLine_empty (line : OneLine field) : OneLine (Reason.empty.message field) :=
  oneLine_append.mpr ⟨line, .ofList (by decide)⟩

theorem oneLine_negative (line : OneLine field) : OneLine (Reason.negative.message field) :=
  oneLine_append.mpr ⟨line, .ofList (by decide)⟩

theorem FailsExplained.present (a : Option α) (line : OneLine field) :
    FailsExplained (present a field) := by
  cases a with
  | some a => exact .ok a
  | none => exact .error (oneLine_missing line)

theorem FailsExplained.presentText (s : Option String) (line : OneLine field) :
    FailsExplained (presentText s field) :=
  (FailsExplained.present s line).bind fun s =>
    (FailsExplained.require _ (oneLine_empty line)).bind fun _ => .ok s

theorem oneLine_tooLong (limit : Int) (length : Nat) (line : OneLine field) :
    OneLine ((Reason.tooLong limit length).message field) := by
  unfold Reason.message
  simp only [oneLine_append]
  exact ⟨⟨⟨⟨⟨line, .ofList (by decide)⟩, oneLine_intText _⟩, .ofList (by decide)⟩,
    oneLine_natText _⟩, .ofList (by decide)⟩

theorem FailsExplained.withinLength (s : String) (limit : Nat) (line : OneLine field) :
    FailsExplained (withinLength s limit field) :=
  FailsExplained.require _ (oneLine_tooLong _ _ line)

end

theorem oneLine_kindName (v : Value) : OneLine v.kindName := by
  cases v <;> rw [Value.kindName] <;> exact .ofList (by decide)

-- ---------------------------------------------------------------------------
-- Buttons
-- ---------------------------------------------------------------------------

namespace Button

section
variable {style : Style} {identity : Identity}

theorem Draft.checkStyle_explained (d : Draft) : FailsExplained d.checkStyle := by
  unfold checkStyle
  split
  · exact .error (oneLine_missing (.ofList (by decide)))
  · exact .error (oneLine_append.mpr ⟨.ofList (by decide), oneLine_kindName _⟩)
  · exact (FailsExplained.require _ (Reason.Fixed.unknownStyle.oneLine _)).bind fun _ => .ok _

theorem Draft.checkIdentity_explained (d : Draft) : FailsExplained d.checkIdentity := by
  unfold checkIdentity
  split
  · exact .error (oneLine_append.mpr ⟨.ofList (by decide), oneLine_kindName _⟩)
  · exact (FailsExplained.presentText _ (.ofList (by decide))).bind fun _ => .ok _
  · exact (FailsExplained.presentText _ (.ofList (by decide))).bind fun _ => .ok _

theorem Draft.checkLabel_explained (d : Draft) : FailsExplained d.checkLabel := by
  refine (FailsExplained.present _ (.ofList (by decide))).bind fun _ => ?_
  exact (FailsExplained.require _ (Reason.Fixed.labelNeeded.oneLine _)).bind fun _ => .ok _

theorem oneLine_styleName (style : Style) : OneLine style.name := by
  cases style <;> rw [Style.name] <;> exact .ofList (by decide)

theorem Draft.checkPairing_explained : FailsExplained (checkPairing style identity) := by
  unfold checkPairing
  split
  · exact .ok ()
  · exact .require _ (Reason.Fixed.linkNeedsUrl.oneLine _)
  · apply FailsExplained.require
    unfold Reason.message
    exact oneLine_append.mpr ⟨oneLine_styleName _, .ofList (by decide)⟩

theorem oneLine_identity_field (identity : Identity) : OneLine identity.field := by
  cases identity <;> rw [Identity.field] <;> exact .ofList (by decide)

theorem Draft.build_explained (d : Draft) : FailsExplained d.build := by
  refine d.checkStyle_explained.bind fun style => ?_
  refine d.checkIdentity_explained.bind fun identity => ?_
  refine d.checkLabel_explained.bind fun label => ?_
  refine (FailsExplained.withinLength _ _ (oneLine_identity_field identity)).bind fun _ => ?_
  refine (FailsExplained.withinLength _ _ (.ofList (by decide))).bind fun _ => ?_
  exact checkPairing_explained.bind fun _ => .ok _

theorem styled_explained (style : Argument Style) (id : Option String) (content : Content) :
    FailsExplained (styled style id content) := by
  cases content with
  | text label => exact Draft.build_explained _
  | none =>
    refine (FailsExplained.presentText _ (.ofList (by decide))).bind fun _ => ?_
    exact .error (oneLine_missing (.ofList (by decide)))
  | emoji e =>
    refine (FailsExplained.presentText _ (.ofList (by decide))).bind fun _ => ?_
    exact Draft.build_explained _

theorem link_explained (address : Option String) (content : Content) :
    FailsExplained (link address content) := by
  cases content with
  | text label => exact Draft.build_explained _
  | none =>
    refine (FailsExplained.presentText _ (.ofList (by decide))).bind fun _ => ?_
    exact .error (oneLine_missing (.ofList (by decide)))
  | emoji e =>
    refine (FailsExplained.presentText _ (.ofList (by decide))).bind fun _ => ?_
    exact Draft.build_explained _

theorem ofStyle_explained (style : Argument Style) (idOrUrl : Option String) (content : Content) :
    FailsExplained (ofStyle style idOrUrl content) := by
  unfold ofStyle
  split
  · exact link_explained _ _
  · exact styled_explained _ _ _

theorem toEmoji_explained (content : Content) : FailsExplained content.toEmoji := by
  cases content with
  | none => exact .ok _
  | text s =>
    have line : OneLine (Reason.empty.message "Emoji") := oneLine_empty (.ofList (by decide))
    exact (FailsExplained.require _ line).bind fun _ => .ok _
  | emoji e => exact .ok _

theorem setEmoji_explained (b : Button) (content : Content) :
    FailsExplained (b.setEmoji content) := by
  refine (toEmoji_explained content).bind fun _ => ?_
  refine (FailsExplained.require _ (Reason.Fixed.emojiNeeded.oneLine _)).bind fun _ => ?_
  exact Draft.build_explained _

theorem make_explained (style : Argument Style) (idOrUrl label : Option String)
    (content : Content) : FailsExplained (make style idOrUrl label content) := by
  unfold make
  split
  · exact .error (oneLine_missing (.ofList (by decide)))
  · exact .error (Reason.Fixed.unknownStyle.oneLine _)
  · refine (toEmoji_explained content).bind fun emoji => ?_
    dsimp only
    split
    · exact (ofStyle_explained _ _ _).bind fun b => setEmoji_explained b _
    split
    · exact ofStyle_explained _ _ _
    · exact .error (Reason.Fixed.nothingShown.oneLine _)

end

end Button

-- ---------------------------------------------------------------------------
-- Invites
-- ---------------------------------------------------------------------------

namespace Invite

theorem oneLine_channelName (kind : ChannelType) : OneLine kind.name := by
  cases kind <;> rw [ChannelType.name] <;> exact .ofList (by decide)

theorem bounded_explained {v : Value} {q : Quantity} {field : String} {tooMuch : String → Reason}
    (limit : Nat) (number : Quantity.ofValue? v = some q) (short : q.toValue.isWritable = true)
    (line : OneLine field) (above : OneLine ((tooMuch q.text).message field)) :
    FailsExplained (bounded v field limit tooMuch) := by
  have written : q.write = pure q.text := Value.write_ok.mpr ⟨short, rfl⟩
  simp only [bounded, number, written, pure_bind]
  refine (FailsExplained.require _ (oneLine_negative line)).bind fun _ => ?_
  exact (FailsExplained.require _ above).bind fun _ => .ok q

section
variable {n : Int} (short : Numeral.isShort n = true)
include short

theorem limitAge_explained (i : Invite) : FailsExplained (i.limitAge (.value (.int n))) := by
  have bounds := @bounded_explained (.int n) _ "Max age" (.ageTooLong maxAgeLimit) maxAgeLimit rfl
    short (.ofList (by decide))
  refine (bounds ?_).bind fun _ => .ok _
  unfold Reason.message
  simp only [oneLine_append]
  exact ⟨⟨⟨⟨.ofList (by decide), oneLine_natText _⟩, .ofList (by decide)⟩, oneLine_intText n⟩,
    .ofList (by decide)⟩

theorem limitUses_explained (i : Invite) : FailsExplained (i.limitUses (.int n)) := by
  have bounds := @bounded_explained (.int n) _ "Max uses" (.tooManyUses maxUsesLimit) maxUsesLimit
    rfl short (.ofList (by decide))
  refine (bounds ?_).bind fun _ => .ok _
  unfold Reason.message
  simp only [oneLine_append]
  exact ⟨⟨⟨⟨.ofList (by decide), oneLine_natText _⟩, .ofList (by decide)⟩, oneLine_intText n⟩,
    .ofList (by decide)⟩

end

theorem setReason_explained (i : Invite) (reason : Option Text) :
    FailsExplained (i.setReason reason) := by
  cases reason with
  | none => exact .ok _
  | some t =>
    have line : OneLine ((Reason.tooLong maxReasonLength t.length).message "Reason") :=
      oneLine_tooLong _ _ (.ofList (by decide))
    exact (FailsExplained.require _ line).bind fun _ => .ok _

theorem read_explained {field : String} (s : String) (line : OneLine field) :
    FailsExplained (Snowflake.read s field) := by
  refine (FailsExplained.require _ (oneLine_empty line)).bind fun _ => ?_
  split
  · exact .ok _
  · refine .error ?_
    unfold Reason.message
    simp only [oneLine_append]
    exact ⟨⟨line, .ofList (by decide)⟩, oneLine_quoted s⟩

theorem targetId_explained {field : String} (s : String) (line : OneLine field) :
    FailsExplained (targetId (.value (.str s)) field) := by
  unfold targetId
  exact (read_explained s line).bind fun _ => .ok _

theorem aimAt_explained (i : Invite) (t : InviteTarget) (s : String) :
    FailsExplained (i.aimAt t (.value (.str s))) := by
  have given : TargetRef.value (.str s) ≠ .none := nofun
  rw [aimAt_eq t given]
  have line : OneLine t.idField := by
    cases t <;> rw [InviteTarget.idField] <;> exact .ofList (by decide)
  refine (targetId_explained s line).bind fun _ => ?_
  refine (FailsExplained.require _ ?_).bind fun _ => .ok _
  unfold Reason.message
  simp only [oneLine_append]
  exact ⟨⟨.ofList (by decide), oneLine_channelName _⟩, .ofList (by decide)⟩

end Invite

end BotPayload
