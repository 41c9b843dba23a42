import BotPayload.CommandLine.Outcome
import BotPayload.Proofs.Number.Literal

/-!
# Loading the settings

The version is tested before it is read, and by another rule: the test lets digits in the wide sense
pass, of any number, while the reader takes decimal digits only, and not too many of them. A
version that fails the test is explained to the user. One that passes it and does not read is not:
the error of the reader is what is left of it (`load_loads`).
-/

namespace BotPayload.Settings

open CommandLine (ofFailure)

def versionText (env : Environment) : String := orDefault (env.get? versionVariable) "10"

def baseText (env : Environment) : String :=
  orDefault (env.get? baseVariable) "https://discord.com/api"

/-- A text of decimal digits, of any script, that is short enough to be read. -/
def IsVersion (text : String) : Prop :=
  (∀ c ∈ text.toList, (digitValue? c).isSome) ∧ text.length ≤ 4300

/-- A text that is the other one but for slashes at its end. -/
structure Unslashed (text base : String) : Prop where
  rest : ∃ n, text.toList = base.toList ++ List.replicate n '/'
  last : base.toList.getLast? ≠ some '/'

/-- What becomes of the settings in an environment. -/
inductive Loads (env : Environment) : Except Failure Settings → Prop
  | loaded : IsVersion (versionText env) →
      s.apiVersion = (Numeral.ofDigits (Numeral.digitValues (versionText env).toList) : Int) →
      ((env.get? versionVariable).getD "" = "" → s.apiVersion = 10) →
      Unslashed (baseText env) s.apiBase →
      (∀ path, s.url path = s.apiBase ++ "/v" ++ intText s.apiVersion ++ path) →
      Loads env (.ok s)
  /-- The version is explained, and the program ends with exit code 1. -/
  | explained : c ∈ (versionText env).toList → isDigitLike c = false →
      ofFailure f = .finished ⟨1, "", versionExplanation (versionText env)⟩ →
      Loads env (.error f)
  /-- Nothing is explained: the error of the reader is raised. -/
  | raised : (∀ c ∈ (versionText env).toList, isDigitLike c = true) →
      ¬IsVersion (versionText env) → ofFailure f = .raised e "" → e.kind = .value →
      Loads env (.error f)

-- ---------------------------------------------------------------------------
-- Version
-- ---------------------------------------------------------------------------

theorem orDefault_ne {value : Option String} (h : other ≠ "") : orDefault value other ≠ "" := by
  unfold orDefault
  split
  · split
    · exact h
    · assumption
  · exact h

theorem orDefault_of_empty {value : Option String} (h : value.getD "" = "") :
    orDefault value other = other := by
  cases value with
  | none => rfl
  | some s => exact if_pos h

section
variable {text : String}

theorem readVersion_of_isVersion (ne : text ≠ "") (h : IsVersion text) :
    readVersion text = .ok (Numeral.ofDigits (Numeral.digitValues text.toList)) := by
  have wide : text.toList.all isDigitLike = true :=
    List.all_eq_true.mpr fun c mem => isDigitLike_of_digit (h.1 c mem)
  have few : text.toList.length ≤ Numeral.maxDigits := String.length_toList.symm ▸ h.2
  have read := Numeral.read_digits (by simpa using ne) h.1
  rw [if_pos few] at read
  rw [readVersion, if_pos ⟨ne, wide⟩, read]

theorem readVersion_of_other (mem : c ∈ text.toList) (h : isDigitLike c = false) :
    readVersion text = .error (.badVersion text) := by
  refine if_neg fun passed => ?_
  nomatch (List.all_eq_true.mp passed.2 c mem).symm.trans h

theorem readVersion_of_wide (ne : text ≠ "") (wide : ∀ c ∈ text.toList, isDigitLike c = true)
    (h : ¬IsVersion text) :
    ∃ fault, readVersion text = .error (.unreadable (.numeral text fault)) := by
  obtain ⟨fault, failed⟩ := Numeral.read_isError_iff.mpr fun literal => h (literal.digits wide)
  exact ⟨fault, by rw [readVersion, if_pos ⟨ne, List.all_eq_true.mpr wide⟩, failed]⟩

end

-- ---------------------------------------------------------------------------
-- Settings
-- ---------------------------------------------------------------------------

theorem stripSlashes_unslashed (text : String) : Unslashed text (stripSlashes text) := by
  have kept : (stripSlashes text).toList =
      (text.toList.reverse.dropWhile fun c => c == '/').reverse := String.toList_ofList
  have split := List.takeWhile_append_dropWhile (p := fun c => c == '/') (l := text.toList.reverse)
  have slashes : ∀ c ∈ text.toList.reverse.takeWhile fun c => c == '/', c = '/' :=
    fun c mem => beq_iff_eq.mp (List.all_eq_true.mp List.all_takeWhile c mem)
  refine ⟨⟨(text.toList.reverse.takeWhile fun c => c == '/').length, ?_⟩, ?_⟩
  · have whole := congrArg List.reverse split
    rw [List.reverse_append, List.reverse_reverse, List.eq_replicate_of_mem slashes,
      List.reverse_replicate] at whole
    rw [kept, whole]
  · rw [kept, List.getLast?_reverse]
    intro last
    have other := List.head?_dropWhile_not (fun c => c == '/') text.toList.reverse
    rw [last] at other
    nomatch other

theorem load_eq (env : Environment) : load env =
    (readVersion (versionText env)).map fun version =>
      ⟨stripSlashes (baseText env), version,
        uppercase (orDefault (env.get? levelVariable) "WARNING")⟩ := by
  rw [load]
  change (readVersion (versionText env) >>= _) = _
  cases readVersion (versionText env) <;> rfl

/-- The settings load exactly when the version is one that can be read. They do not otherwise, and
then it is explained why only where the version holds something that is no digit even in the wide
sense. -/
theorem load_loads (env : Environment) : Loads env (load env) := by
  have ne : versionText env ≠ "" := orDefault_ne (by decide)
  rw [load_eq]
  by_cases version : IsVersion (versionText env)
  · rw [readVersion_of_isVersion ne version]
    refine .loaded version rfl (fun unset => ?_) (stripSlashes_unslashed _) fun path => rfl
    have ten : versionText env = "10" := orDefault_of_empty unset
    show ((Numeral.ofDigits _ : Nat) : Int) = 10
    rw [ten]
    rfl
  · by_cases wide : ∀ c ∈ (versionText env).toList, isDigitLike c = true
    · obtain ⟨fault, failed⟩ := readVersion_of_wide ne wide version
      rw [failed]
      exact .raised wide version rfl rfl
    · obtain ⟨c, mem, other⟩ : ∃ c ∈ (versionText env).toList, isDigitLike c = false := by
        simpa using wide
      rw [readVersion_of_other mem other]
      exact .explained mem other rfl

/-- A superscript passes the test and does not read. -/
example : load ⟨[(versionVariable, "²")], none⟩ =
    .error (.unreadable (.numeral "²" .malformed)) := rfl

end BotPayload.Settings
