import BotPayload.CommandLine.InviteCommand
import BotPayload.Proofs.CommandLine.Reading
import Mathlib.Tactic.ByContra

/-!
# Switches that exclude one another

Of the exclusive switches of a command no two are given at once: a switch is not taken when a rival
of it has been, and nothing but taking a switch adds to what is given.
-/

namespace BotPayload.CommandLine

def Command.Apart (c : Command) (given : Parsed) : Prop :=
  ∀ key ∈ c.exclusive, ∀ rival ∈ c.exclusive, given.hasFlag key = true →
    given.hasFlag rival = true → key = rival

def Command.Known (c : Command) : Prop := ∀ key ∈ c.exclusive, ∃ s ∈ c.switches, s.key = key

section
variable {c : Command} {p p' : Progress}

theorem hasFlag_cons {key k : String} {g : Given} {given : Parsed} :
    Parsed.hasFlag ((k, g) :: given) key = true ↔ key = k ∨ given.hasFlag key = true := by
  by_cases same : key = k
  · simp [Parsed.hasFlag, same]
  · simp [Parsed.hasFlag, List.lookup_cons, same, beq_eq_false_iff_ne.mpr same]

theorem take_apart {s : Switch} {value : Option String} (known : c.Known)
    (h : c.take p s value = .ok p') (apart : c.Apart p.given) : c.Apart p'.given := by
  rw [take_eq] at h
  obtain ⟨g, -, h⟩ := bind_ok.mp h
  obtain ⟨given, -, free⟩ := enter_ok h
  -- Of two keys the one that is not new was given before, where a rival would have been in the way.
  have new : ∀ key ∈ c.exclusive, s.key ∈ c.exclusive → p.given.hasFlag key = true →
      key = s.key := by
    intro key hk exclusive before
    by_contra other
    obtain ⟨r, hr, rfl⟩ := known key hk
    rw [free exclusive r hr hk other] at before
    nomatch before
  intro key hk rival hr first second
  rw [given, hasFlag_cons] at first second
  obtain rfl | first := first
  · obtain rfl | second := second
    · rfl
    · exact (new rival hr hk second).symm
  · obtain rfl | second := second
    · exact new key hk hr first
    · exact apart key hk rival hr first second

theorem takeOperand_given {s : String} (h : c.takeOperand p s = .ok p') : p'.given = p.given := by
  obtain ⟨g, -, h⟩ := bind_ok.mp h
  obtain rfl := pure_ok.mp h
  rfl

/-- No two exclusive switches are given in a whole run. -/
theorem read_apart {args : List String} {operand : Given} {given : Parsed} (known : c.Known)
    (h : c.read args = .ok (operand, given)) : c.Apart given := by
  obtain ⟨p, apart, -, rfl⟩ := @read_keeps c (fun p => c.Apart p.given) args operand given
    (fun _ _ _ _ taken => take_apart known taken)
    (fun _ _ _ taken apart => takeOperand_given taken ▸ apart) (fun _ _ apart => apart) h
    fun _ _ _ _ first => nomatch first
  exact apart

theorem text?_of_hasFlag {given : Parsed} {key : String} (h : given.hasFlag key = false) :
    given.text? key = none := by
  rw [Parsed.hasFlag, Option.isSome_eq_false_iff, Option.isNone_iff_eq_none] at h
  rw [Parsed.text?, h]

theorem ofParsed_apart {args : List String} {channel : Given} {given : Parsed}
    (h : inviteCommand.read args = .ok (channel, given)) (wide : String → Text) :
    (InviteOptions.ofParsed wide channel given).targetUser = none ∨
      (InviteOptions.ofParsed wide channel given).targetApplication = none := by
  have known : inviteCommand.Known := by
    unfold Command.Known
    decide
  have apart := read_apart known h
  by_cases user : given.hasFlag "--target-user" = true
  · refine .inr (text?_of_hasFlag ?_)
    by_contra application
    have same := apart "--target-user" (by decide) "--target-app" (by decide) user
      (by simpa using application)
    exact absurd same (by decide)
  · exact .inl (text?_of_hasFlag (by simpa using user))

end

end BotPayload.CommandLine
