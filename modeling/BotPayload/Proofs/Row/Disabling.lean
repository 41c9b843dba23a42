import BotPayload.Proofs.Row.Replacement

/-!
# All buttons of a row disabled or enabled

Disabling and enabling write one flag into every button of a row (`switch_known`), and fail for a
row with a button of an unknown style (`switch_unknown`). Of several such writes only the last one
is seen, in the row, in its payload, and around the replacement of a button.
-/

namespace BotPayload

/-- An object with `v` in place of what it has at the key. -/
def Value.overwrite (w : Value) (key : String) (v : Value) : Value :=
  match w with
  | .object ms => .object (ms.map fun m => if m.1 = key then (key, v) else m)
  | w => w

theorem Button.body_disabled (b : Button) (disabled : Bool) :
    body { b with disabled } = b.body.overwrite "disabled" (.bool disabled) := by
  obtain ⟨identity, label, style, emoji, flag, code⟩ := b
  cases identity <;> cases emoji <;> simp [body, Value.overwrite]

theorem Button.get?_body_disabled (b : Button) :
    b.body.get? "disabled" = some (.bool b.disabled) := by
  simp [body, Value.get?, List.lookup_cons]

namespace ActionRow

/-- Disables all buttons of a row, or enables them. -/
def switch (r : ActionRow) : Bool → Except Error ActionRow
  | true => r.disable
  | false => r.enable

def flagged (r : ActionRow) (disabled : Bool) : ActionRow :=
  ⟨r.buttons.map fun b => { b with disabled }⟩

variable {r : ActionRow} {b : Button} {d : Bool}

-- ---------------------------------------------------------------------------
-- Flags
-- ---------------------------------------------------------------------------

@[simp] theorem size_flagged (r : ActionRow) (d : Bool) : (r.flagged d).size = r.size :=
  List.length_map _

theorem flagged_flagged (r : ActionRow) (d d' : Bool) :
    (r.flagged d).flagged d' = r.flagged d' :=
  congrArg mk (by simp [flagged])

theorem flagged_put (r : ActionRow) (k : Nat) (b : Button) (d : Bool) :
    (r.put k b).flagged d = (r.flagged d).put k { b with disabled := d } :=
  congrArg mk List.map_set

theorem Known.flagged (known : r.Known) (d : Bool) : (r.flagged d).Known :=
  List.forall_mem_map.mpr known

-- ---------------------------------------------------------------------------
-- Switching
-- ---------------------------------------------------------------------------

theorem switch_eq (r : ActionRow) (d : Bool) : r.switch d = r.mapButtons (·.setDisabled d) := by
  cases d <;> rfl

theorem mapM_setDisabled_ok (held : r.Reachable) {bs : List Button} :
    r.buttons.mapM (·.setDisabled d) = .ok bs ↔ r.Known ∧ bs = (r.flagged d).buttons := by
  refine mapM_ok_iff fun b hb c => ?_
  by_cases unknown : b.style = .unknown
  · simp [Button.setDisabled_unknown unknown, unknown]
  · simp [((held.buttons b hb).settled unknown).setDisabled, unknown, eq_comm]

theorem switch_known (held : r.Reachable) (known : r.Known) (d : Bool) :
    r.switch d = .ok (r.flagged d) := by
  have row : ofArguments ((r.flagged d).buttons.map .given) = .ok (r.flagged d) := by
    rw [ofArguments_given]
    simpa [flagged] using held.size
  rw [switch_eq, mapButtons, (mapM_setDisabled_ok held).mpr ⟨known, rfl⟩]
  exact row

/-- It does not matter how many buttons come before the one that is refused. -/
theorem switch_unknown (held : r.Reachable) (mem : b ∈ r.buttons) (unknown : b.style = .unknown)
    (d : Bool) : r.switch d = .error (.refused "Style" .unknownStyle) := by
  rw [switch_eq, mapButtons]
  cases mapped : r.buttons.mapM (·.setDisabled d) with
  | ok bs => exact absurd unknown (((mapM_setDisabled_ok held).mp mapped).1 b mem)
  | error err =>
    obtain ⟨x, hx, failed⟩ := mapM_error mapped
    by_cases unknown : x.style = .unknown
    · obtain rfl := Except.error.inj (failed.symm.trans (Button.setDisabled_unknown unknown d))
      rfl
    · cases failed.symm.trans (((held.buttons x hx).settled unknown).setDisabled d)

theorem known_or_unknown (r : ActionRow) : r.Known ∨ ∃ b ∈ r.buttons, b.style = .unknown := by
  by_cases known : r.Known
  · exact .inl known
  · exact .inr (by simpa [Known] using known)

theorem Reachable.flagged (held : r.Reachable) (known : r.Known) (d : Bool) :
    (r.flagged d).Reachable := by
  have switched := switch_known held known d
  cases d with
  | true => exact .step (s := .disable) held trivial switched
  | false => exact .step (s := .enable) held trivial switched

theorem switch_switch (held : r.Reachable) (d d' : Bool) :
    (do (← r.switch d).switch d') = r.switch d' := by
  obtain known | ⟨b, mem, unknown⟩ := r.known_or_unknown
  · rw [switch_known held known, switch_known held known]
    exact (switch_known (held.flagged known d) (known.flagged d) d').trans
      (by rw [flagged_flagged])
  · rw [switch_unknown held mem unknown, switch_unknown held mem unknown]
    rfl

theorem foldlM_switch (held : r.Reachable) (ds : List Bool) (d : Bool) :
    (ds ++ [d]).foldlM switch r = r.switch d := by
  induction ds generalizing r with
  | nil => exact List.foldlM_cons.trans (bind_pure _)
  | cons d₀ ds ih =>
    rw [List.cons_append, List.foldlM_cons, ← switch_switch held d₀ d]
    obtain known | ⟨b, mem, unknown⟩ := r.known_or_unknown
    · rw [switch_known held known]
      exact ih (held.flagged known d₀)
    · rw [switch_unknown held mem unknown]
      rfl

theorem switch_replace (held : r.Reachable) (known : r.Known) (reachable : b.Reachable)
    (new : b.style ≠ .unknown) (i : Int) (d : Bool) :
    (do (← r.replace i (.given b)).switch d) =
      (do (← r.switch d).replace i (.given (← b.setDisabled d))) := by
  rw [switch_known held known, (reachable.settled new).setDisabled]
  change _ = (r.flagged d).replace i (.given { b with disabled := d })
  by_cases range : Indexes r.size i
  · obtain ⟨k, inside, points⟩ := indexes_iff.mp range
    have replaced := replace_eq held.accepted inside points b
    have put : (r.put k b).Reachable :=
      .step (s := .replace i (.given b)) held (fun _ h => Argument.given.inj h ▸ reachable) replaced
    rw [replaced, replace_eq (held.flagged known d).accepted ((size_flagged r d).symm ▸ inside)
      ((size_flagged r d).symm ▸ points), ← flagged_put]
    exact switch_known put (forall_mem_put known new k) d
  · rw [replace_outside range, replace_outside ((size_flagged r d).symm ▸ range)]
    rfl

theorem encode_flagged (known : r.Known) (d : Bool) :
    (r.flagged d).encode =
      .ok (body ((r.buttons.map Button.body).map (·.overwrite "disabled" (.bool d)))) := by
  refine encode_ok.mpr ⟨known.flagged d, congrArg body ?_⟩
  rw [flagged, List.map_map, List.map_map]
  exact List.map_congr_left fun b _ => (b.body_disabled d).symm

/-- Disabling or enabling a row sets the flag of each button and keeps all else, unless one of them
has a style that is not known. The last of several settings wins; it does not matter whether a
button is replaced before or after, if the new one is set as well; and the payload changes in the
flags only. -/
theorem switch_pointwise (held : r.Reachable) (d : Bool) :
    (r.Known → r.switch d = .ok ⟨r.buttons.map fun b => { b with disabled := d }⟩) ∧
    ((∃ b ∈ r.buttons, b.style = .unknown) →
      r.switch d = .error (.refused "Style" .unknownStyle)) ∧
    (do (← r.switch d).switch d) = r.switch d ∧
    (∀ ds, (ds ++ [d]).foldlM switch r = r.switch d) ∧
    (r.Known →
      (∀ i b, b.Reachable → b.style ≠ .unknown →
        (do (← r.replace i (.given b)).switch d) =
          (do (← r.switch d).replace i (.given (← b.setDisabled d)))) ∧
      ∃ cs, r.encode = .ok (body cs) ∧
        (do (← r.switch d).encode) =
          .ok (body (cs.map (·.overwrite "disabled" (.bool d)))) ∧
        ∀ c ∈ cs.map (·.overwrite "disabled" (.bool d)), c.get? "disabled" = some (.bool d)) := by
  refine ⟨fun known => switch_known held known d, ?_, switch_switch held d d,
    fun ds => foldlM_switch held ds d, fun known => ⟨?_, ?_⟩⟩
  · rintro ⟨b, mem, unknown⟩
    exact switch_unknown held mem unknown d
  · intro i b reachable new
    exact switch_replace held known reachable new i d
  · refine ⟨_, encode_ok.mpr ⟨known, rfl⟩, ?_, ?_⟩
    · rw [switch_known held known]
      exact encode_flagged known d
    · simp only [List.forall_mem_map, ← Button.body_disabled, Button.get?_body_disabled,
        implies_true]

/-- A row of a link and a disabled icon, in which a link takes the place of the icon, and a row in
which a button of the style 9 comes behind the link. -/
theorem switch_pointwise_mixed :
    ∃ (link icon new : Button) (r odd : ActionRow),
      link = ⟨.url "https://e.org", "Go", .link, none, false, none⟩ ∧
      icon = ⟨.customId "vote", "", .success, some ⟨"yes", some (.number 7), true⟩, true, none⟩ ∧
      new = ⟨.customId "n", "New", .unknown, none, false, some (.int 9)⟩ ∧
      r = ⟨[link, icon]⟩ ∧ odd = ⟨[link, new]⟩ ∧ r.Reachable ∧ odd.Reachable ∧ r.Known ∧
      new ∈ odd.buttons ∧ new.style = .unknown ∧
      r.switch true = .ok ⟨[{ link with disabled := true }, icon]⟩ ∧
      odd.switch true = .error (.refused "Style" .unknownStyle) ∧
      ([true, true, false] ++ [true]).foldlM switch r = r.switch true ∧
      (do (← r.replace (-1) (.given link)).switch true) =
        (do (← r.switch true).replace (-1) (.given (← link.setDisabled true))) ∧
      ∃ cs, r.encode = .ok (body cs) ∧
        (do (← r.switch true).encode) =
          .ok (body (cs.map (·.overwrite "disabled" (.bool true)))) ∧
        ∀ c ∈ cs.map (·.overwrite "disabled" (.bool true)),
          c.get? "disabled" = some (.bool true) := by
  have link : Button.Reachable ⟨.url "https://e.org", "Go", .link, none, false, none⟩ :=
    .create (o := .link (some "https://e.org") (.text "Go")) rfl
  have icon : Button.Reachable
      ⟨.customId "vote", "", .success, some ⟨"yes", some (.number 7), true⟩, true, none⟩ :=
    .create (o := .construct (.customId (some "vote")) (some "") (.given .success)
      (some ⟨"yes", some (.number 7), true⟩) true) rfl
  have new : Button.Reachable ⟨.customId "n", "New", .unknown, none, false, some (.int 9)⟩ :=
    .create (o := .decode (.object [("type", .int 2), ("style", .int 9), ("label", .str "New"),
      ("custom_id", .str "n")])) rfl
  have built (a b : Button) : ofArguments [.given a, .given b] = .ok ⟨[a, b]⟩ := rfl
  have pair {a b : Button} (ha : a.Reachable) (hb : b.Reachable) : Reachable ⟨[a, b]⟩ :=
    .collect (by simp [ha, hb]) (built a b)
  have known : Known ⟨[⟨.url "https://e.org", "Go", .link, none, false, none⟩,
      ⟨.customId "vote", "", .success, some ⟨"yes", some (.number 7), true⟩, true, none⟩]⟩ :=
    List.forall_mem_cons.mpr ⟨nofun, List.forall_mem_singleton.mpr nofun⟩
  have last (a b : Button) : b ∈ [a, b] := List.mem_pair.mpr (.inr rfl)
  obtain ⟨written, -, -, chain, around⟩ := switch_pointwise (pair link icon) true
  obtain ⟨replaced, payload⟩ := around known
  exact ⟨_, _, _, _, _, rfl, rfl, rfl, rfl, rfl, pair link icon, pair link new, known, last _ _, rfl,
    written known, (switch_pointwise (pair link new) true).2.1 ⟨_, last _ _, rfl⟩, chain _,
    replaced _ _ link nofun, payload⟩

end ActionRow

end BotPayload
