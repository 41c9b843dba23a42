import BotPayload.Proofs.Row.Reading

/-!
# Components that are no buttons

Of the components of a row only the buttons decide what is read (`decode_iff`): the others are
skipped, each with a report, until a button cannot be read (`decodeButtons_skips`).
-/

namespace BotPayload

def Event.skipped? : Event → Option Value
  | .componentSkipped kind => some kind
  | _ => none

namespace Logged

def skips (x : Logged α) : List Value := x.events.filterMap Event.skipped?

variable {x : Logged α} {f : α → Logged β}

theorem skips_bind_ok (h : x.result = .ok a) : (x >>= f).skips = x.skips ++ (f a).skips := by
  obtain ⟨events, result⟩ := x
  obtain rfl : result = .ok a := h
  exact List.filterMap_append

theorem skips_bind_error (h : x.result = .error e) : (x >>= f).skips = x.skips := by
  obtain ⟨events, result⟩ := x
  obtain rfl : result = .error e := h
  rfl

theorem skips_bind_silent (silent : ∀ a, (f a).skips = []) : (x >>= f).skips = x.skips := by
  cases h : x.result with
  | error e => rw [skips_bind_error h]
  | ok a => rw [skips_bind_ok h, silent, List.append_nil]

@[simp] theorem skips_lift (r : Except Error α) : (liftM r : Logged α).skips = [] := rfl

@[simp] theorem skips_map (g : α → β) (x : Logged α) : (g <$> x).skips = x.skips := by
  rw [skips, skips, events_map]

end Logged

theorem Button.decode_skips (v : Value) : (decode v).skips = [] := by
  unfold decode
  refine Logged.skips_bind_silent fun _ => ?_
  extract_lets code style unknownCode disabled rest
  have silent (u : Unit) : (rest u).skips = [] :=
    Logged.skips_bind_silent fun _ => Logged.skips_lift _
  cases unknownCode with
  | none => exact silent ()
  | some raw => exact Logged.skips_bind_silent (x := Logged.report _) silent

namespace ActionRow

/-- The payload of a row with these components, which are objects. -/
structure IsRow (v : Value) (cs : List Value) : Prop where
  type : ∃ t, v.get? "type" = some t ∧ t.whole? = some 1
  components : v.get? "components" = some (.list cs)
  objects : ∀ c ∈ cs, ∃ ms, c = .object ms

inductive Outcome (cs : List Value) : Except Error (Option ActionRow) → Prop
  | none : cs = [] → Outcome cs (.ok none)
  | rejected : cs = front ++ c :: back → (∀ x ∈ front, ∃ b, (Button.decode x).result = .ok b) →
      (Button.decode c).result = .error e → Outcome cs (.error e)
  | tooMany : List.Forall₂ (fun c b => (Button.decode c).result = .ok b) cs bs →
      5 < cs.length → Outcome cs (.error (.refused "Buttons" (.tooManyButtons 5 cs.length)))
  | row : List.Forall₂ (fun c b => (Button.decode c).result = .ok b) cs bs →
      cs ≠ [] → cs.length ≤ 5 → Outcome cs (.ok (some ⟨bs⟩))

def isRejected (component : Value) : Bool :=
  isButton component && match (Button.decode component).result with
    | .ok _ => false
    | .error _ => true

theorem isButton_iff {c : Value} :
    isButton c = true ↔ ∃ kind, c.get? "type" = some kind ∧ kind.whole? = some 2 := by
  unfold isButton
  cases c.get? "type" with
  | none => simp
  | some kind =>
    cases kind with
    | bool b => cases b <;> simp [Value.equalsInt, Value.whole?, Button.componentType]
    | float x => simp [Value.equalsInt, Value.whole?, Button.componentType,
        Binary64.compareInt_eq_iff]
    | _ => simp [Value.equalsInt, Value.whole?, Button.componentType]

-- ---------------------------------------------------------------------------
-- Results
-- ---------------------------------------------------------------------------

section
variable {v w : Value} {cs : List Value}

theorem IsRow.shape (h : IsRow v cs) : schema.faults v = [] :=
  schema_faults.mpr ⟨h.type, cs, h.components, h.objects⟩

theorem IsRow.of_body (cs : List Value) (objects : ∀ c ∈ cs, ∃ ms, c = .object ms) : IsRow (body cs) cs :=
  ⟨⟨.int 1, rfl, rfl⟩, rfl, objects⟩

theorem IsRow.components_eq (h : IsRow v cs) : ActionRow.components v = cs := by
  rw [ActionRow.components, h.components]

theorem ofArguments_tooMany {bs : List Button} (many : maxButtons < bs.length) :
    ofArguments (bs.map .given) =
      .error (.refused "Buttons" (.tooManyButtons maxButtons bs.length)) := by
  have given : allGiven (bs.map .given) "Buttons" .notButtons = .ok bs := allGiven_ok.mpr rfl
  have held : (!bs.isEmpty) = true := by
    rw [Bool.not_eq_true', List.isEmpty_eq_false_iff]
    exact List.ne_nil_of_length_pos (Nat.zero_lt_of_lt many)
  exact bind_error.mpr <| .inr ⟨bs, given, bind_error.mpr <| .inr ⟨(), require_ok.mpr held,
    bind_error.mpr <| .inl (require_refused.mpr ⟨decide_eq_false (Nat.not_le.mpr many), rfl⟩)⟩⟩

theorem Outcome.exists (cs : List Value) : ∃ r, Outcome cs r := by
  cases read : cs.mapM fun c => (Button.decode c).result with
  | error e =>
    obtain ⟨front, c, back, split, fine, failed⟩ := mapM_error_iff.mp read
    exact ⟨_, .rejected split fine failed⟩
  | ok bs =>
    have read := mapM_ok_forall₂.mp read
    by_cases empty : cs = []
    · exact ⟨_, .none empty⟩
    by_cases few : cs.length ≤ maxButtons
    · exact ⟨_, .row read empty few⟩
    · exact ⟨_, .tooMany read (Nat.not_le.mp few)⟩

theorem Outcome.decode (outcome : Outcome (cs.filter isButton) r) (h : IsRow v cs) :
    (decode v).result = r := by
  rw [← h.components_eq] at outcome
  cases outcome with
  | none empty => exact decode_none.mpr ⟨h.shape, empty⟩
  | rejected split fine failed =>
    rw [decode_result, decodeButtons_result, h.shape,
      mapM_error_iff.mpr ⟨_, _, _, split, fine, failed⟩]
    rfl
  | @tooMany bs read many =>
    have length := read.length_eq
    have ne : bs ≠ [] := List.ne_nil_of_length_pos (length ▸ Nat.zero_lt_of_lt many)
    have refused := ofArguments_tooMany (length ▸ many)
    rw [decode_result, decodeButtons_result, h.shape, mapM_ok_forall₂.mpr read, length]
    change (if bs.isEmpty then _ else some <$> ofArguments (bs.map .given)) = _
    rw [if_neg (by simpa using ne), refused]
    rfl
  | @row bs read ne few =>
    have length := read.length_eq
    have ne : bs ≠ [] := List.ne_nil_of_length_pos (length ▸ List.length_pos_iff.mpr ne)
    exact decode_some.mpr ⟨h.shape, read, ne, length ▸ few⟩

/-- What is read from a row is what its buttons come to. -/
theorem decode_iff (h : IsRow v cs) {r : Except Error (Option ActionRow)} :
    (decode v).result = r ↔ Outcome (cs.filter isButton) r := by
  constructor
  · rintro rfl
    obtain ⟨r, outcome⟩ := Outcome.exists (cs.filter isButton)
    exact outcome.decode h ▸ outcome
  · exact fun outcome => outcome.decode h

-- ---------------------------------------------------------------------------
-- Reports
-- ---------------------------------------------------------------------------

theorem decodeButtons_skips (cs : List Value) : (decodeButtons cs).skips =
    ((cs.takeWhile (!isRejected ·)).filter (!isButton ·)).map
      fun c => (c.get? "type").getD .null := by
  induction cs with
  | nil => rfl
  | cons c rest ih =>
    cases button : isButton c with
    | false =>
      have kept : isRejected c = false := by rw [isRejected, button, Bool.false_and]
      rw [decodeButtons, if_neg (by simp [button]), Logged.skips_bind_ok (a := ()) rfl, ih,
        List.takeWhile_cons_of_pos (by simp [kept]), List.filter_cons_of_pos (by simp [button])]
      rfl
    | true =>
      rw [decodeButtons, if_pos button]
      -- Reading stops at a button that is rejected, so that nothing behind it is reported.
      cases read : (Button.decode c).result with
      | error e =>
        have rejected : isRejected c = true := by rw [isRejected, button, read]; rfl
        rw [Logged.skips_bind_error read, Button.decode_skips,
          List.takeWhile_cons_of_neg (by simp [rejected])]
        rfl
      | ok b =>
        have kept : isRejected c = false := by rw [isRejected, button, read]; rfl
        rw [Logged.skips_bind_ok read, Button.decode_skips, List.nil_append,
          Logged.skips_bind_silent fun _ => rfl, ih,
          List.takeWhile_cons_of_pos (by simp [kept]),
          List.filter_cons_of_neg (by simp [button])]

theorem decode_skips (h : IsRow v cs) : (decode v).skips = (decodeButtons cs).skips := by
  have shape : require (schema.faults v).isEmpty "ActionRow" (.rowPayload (schema.faults v)) =
      .ok () := require_ok.mpr (by rw [h.shape]; rfl)
  unfold decode
  extract_lets faults
  rw [Logged.skips_bind_ok shape, Logged.skips_lift, List.nil_append, h.components_eq]
  refine Logged.skips_bind_silent fun bs => ?_
  split
  · rfl
  · rw [Logged.skips_map, Logged.skips_lift]

end

/-- Reading a row sees its buttons only: it does as with those alone, and they decide what comes of
it. A component that is no button is reported, unless a button before it is rejected. -/
theorem decode_buttons_only (row : IsRow v cs) (alone : IsRow w (cs.filter isButton)) :
    (∀ c, isButton c = true ↔ ∃ kind, c.get? "type" = some kind ∧ kind.whole? = some 2) ∧
    (decode v).result = (decode w).result ∧
    (∀ r, (decode v).result = r ↔ Outcome (cs.filter isButton) r) ∧
    (decode v).skips.length = (cs.takeWhile (!isRejected ·)).countP (!isButton ·) := by
  refine ⟨fun _ => isButton_iff, ?_, fun _ => decode_iff row, ?_⟩
  · rw [decode_iff row]
    simpa using (decode_iff alone).mp rfl
  · rw [decode_skips row, decodeButtons_skips, List.length_map, List.countP_eq_length_filter]

/-- A menu, a button whose type is written as a fraction, a component of type true, a button
without an identity, which is rejected, and a menu after it, which is not reported. -/
theorem decode_buttons_only_mixed :
    ∃ plain bare row : Value,
      plain = .object [("type", .float (.ofInt 2)), ("style", .int 1), ("label", .str "Yes"),
        ("custom_id", .str "yes")] ∧
      bare = .object [("type", .int 2), ("style", .int 1)] ∧
      row = body [.object [("type", .int 3)], plain, .object [("type", .bool true)], bare,
        .object [("type", .int 8)]] ∧
      (decode row).result = (decode (body [plain, bare])).result ∧
      (∃ err, (Button.decode bare).result = .error err ∧ (decode row).result = .error err) ∧
      (decode row).skips.length = 2 := by
  refine ⟨_, _, _, rfl, rfl, rfl, ?_⟩
  have row := IsRow.of_body [.object [("type", .int 3)],
      .object [("type", .float (.ofInt 2)), ("style", .int 1), ("label", .str "Yes"),
        ("custom_id", .str "yes")],
      .object [("type", .bool true)], .object [("type", .int 2), ("style", .int 1)],
      .object [("type", .int 8)]] (by simp)
  have alone := IsRow.of_body _ fun c hc => row.objects c (List.mem_of_mem_filter (p := isButton) hc)
  have ⟨_, same, outcome, reports⟩ := decode_buttons_only row alone
  exact ⟨same, ⟨_, rfl, (outcome _).mpr (.rejected List.singleton_append.symm
    (List.forall_mem_singleton.mpr ⟨_, rfl⟩) rfl)⟩, reports.trans (by decide)⟩

end ActionRow

end BotPayload
