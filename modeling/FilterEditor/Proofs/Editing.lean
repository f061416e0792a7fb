import FilterEditor.Session.Editor

/-!
# Proofs — Editing

What one event or one reply does to a draft and to its editor.

* `Draft.Sound`: an answer is awaited exactly while the last id issued has not been applied, and
  nothing is ever known of an empty text.  Every operation on a draft keeps it.
* `Editor.changeText_cases`: a change of the text issues the next id, and its request is the one that
  waits, unless the text is empty.
* `Editor.receive_cases`: a reply is stale, or it answers the draft's last request, or it tells that
  nobody answers it.

Later proofs take an operation apart by its lemma here, and do not open its definition.
-/

namespace FilterEditor

/-! ### Drafts -/

namespace Draft

/-- The parts of a draft agree with each other. -/
structure Sound (d : Draft) : Prop where
  applied_le : d.applied ≤ d.issued
  validating_iff : d.validity = .validating ↔ d.applied < d.issued
  unknown_of_empty : d.text = "" → d.validity = .unknown
  unknown_of_unissued : d.issued = 0 → d.validity = .unknown

/-- The draft after a change to a text that is not empty. -/
def retyped (d : Draft) (text : String) (cursor : Nat) : Draft :=
  { d with text, cursor, issued := d.issued + 1, validity := .validating, error := none }

/-- The draft after a change to the empty text. -/
def cleared (d : Draft) (cursor : Nat) : Draft :=
  { d with
    text := "", cursor, issued := d.issued + 1, applied := d.issued + 1, validity := .unknown
    error := none }

/-- The draft after an answer that it accepts. -/
def answered (d : Draft) (diagnostic : Diagnostic) : Draft :=
  { d with
    applied := d.issued
    validity := if diagnostic.failed then .invalid else .valid
    error := diagnostic.errorMessage }

/-- The draft once nobody answers its last request. -/
def unanswered (d : Draft) : Draft :=
  { d with applied := d.issued, validity := .unknown, error := none }

theorem answer_of_accepts {d : Draft} {id : RequestId} (h : d.accepts id)
    (diagnostic : Diagnostic) : d.answer id diagnostic = (d.answered diagnostic, .applied) := by
  obtain ⟨rfl, -⟩ := accepts_iff.mp h
  simp [answer, h, answered]

theorem giveUp_of_accepts {d : Draft} {id : RequestId} (h : d.accepts id) :
    d.giveUp id = (d.unanswered, .applied) := by
  obtain ⟨rfl, -⟩ := accepts_iff.mp h
  simp [giveUp, h, unanswered]

/-- A change of the text issues the next id.  An empty text settles it at once. -/
theorem edit_of_lt {d : Draft} (h : d.issued + 1 < offsetLimit) (text : String) (cursor : Nat) :
    d.edit text cursor = .ok
      (if text = "" then (d.cleared cursor, .cleared)
      else (d.retyped text cursor, .issued (d.issued + 1))) := by
  unfold edit RequestId.next
  rw [addOffset_of_lt h]
  by_cases hempty : text = ""
  · subst hempty
    rfl
  · simp only [bind, Except.bind, String.isEmpty_iff, hempty, if_false]
    rfl

/-- A change of the text is a fault once no id is left. -/
theorem edit_of_le {d : Draft} (h : offsetLimit ≤ d.issued + 1) (text : String) (cursor : Nat) :
    d.edit text cursor = .error .overflow := by
  unfold edit RequestId.next
  rw [addOffset_of_le h]
  rfl

theorem edit_cases {d d' : Draft} {text : String} {cursor : Nat} {change : Change}
    (h : d.edit text cursor = .ok (d', change)) :
    (text ≠ "" ∧ change = .issued (d.issued + 1) ∧ d' = d.retyped text cursor) ∨
    (text = "" ∧ change = .cleared ∧ d' = d.cleared cursor) := by
  by_cases hlt : d.issued + 1 < offsetLimit
  · rw [edit_of_lt hlt] at h
    by_cases hempty : text = ""
    · rw [if_pos hempty] at h
      cases h
      exact .inr ⟨hempty, rfl, rfl⟩
    · rw [if_neg hempty] at h
      cases h
      exact .inl ⟨hempty, rfl, rfl⟩
  · rw [edit_of_le (Nat.le_of_not_lt hlt)] at h
    cases h

theorem Sound.opening (saved : Option SavedFilter) (maySave : Bool) :
    (opening saved maySave).Sound := by
  cases saved <;> exact ⟨Nat.le_refl _, by simp [Draft.opening, blank, ofSaved],
    fun _ => rfl, fun _ => rfl⟩

theorem Sound.retyped {d : Draft} (hd : d.Sound) {text : String} (hne : text ≠ "") (cursor : Nat) :
    (d.retyped text cursor).Sound := by
  have hlt : d.applied < d.issued + 1 := Nat.lt_succ_of_le hd.applied_le
  exact ⟨Nat.le_of_lt hlt, by simp [Draft.retyped, hlt], fun hempty => absurd hempty hne,
    fun hzero => absurd hzero (Nat.succ_ne_zero _)⟩

theorem Sound.cleared {d : Draft} (cursor : Nat) : (d.cleared cursor).Sound :=
  ⟨Nat.le_refl _, by simp [Draft.cleared], fun _ => rfl, fun _ => rfl⟩

theorem Sound.rename {d : Draft} (hd : d.Sound) (name : String) : (d.rename name).Sound :=
  ⟨hd.applied_le, hd.validating_iff, hd.unknown_of_empty, hd.unknown_of_unissued⟩

/-- An answer can only be awaited for a text that is not empty. -/
theorem Sound.text_ne_of_lt {d : Draft} (hd : d.Sound) (h : d.applied < d.issued) : d.text ≠ "" := by
  intro hempty
  have hv := hd.validating_iff.mpr h
  rw [hd.unknown_of_empty hempty] at hv
  cases hv

theorem Sound.answered {d : Draft} (hd : d.Sound) (h : d.applied < d.issued)
    (diagnostic : Diagnostic) : (d.answered diagnostic).Sound := by
  refine ⟨Nat.le_refl _, ?_, fun hempty => absurd hempty (hd.text_ne_of_lt h), fun hzero => ?_⟩
  · simp only [Draft.answered, Nat.lt_irrefl, iff_false]
    split <;> simp
  · exact absurd (hzero ▸ h) (Nat.not_lt_zero _)

theorem Sound.unanswered {d : Draft} : d.unanswered.Sound :=
  ⟨Nat.le_refl _, by simp [Draft.unanswered], fun _ => rfl, fun _ => rfl⟩

end Draft

/-! ### Editors -/

namespace Editor

/-- A change of the text leaves the request in flight alone, shows where the draft stands, and makes
the request of the new id wait, if there is one. -/
theorem changeText_cases {e e' : Editor} {timing : Timing} {now : Nat} {text : String}
    {cursor : Nat} {signals : List Signal}
    (h : e.changeText timing now text cursor = .ok (e', signals)) :
    signals = e'.draft.status ∧
      ((text ≠ "" ∧ e' = { e with
          draft := e.draft.retyped text cursor
          pending := some (e.schedule timing now (e.draft.issued + 1)) }) ∨
        (text = "" ∧ e' = { e with draft := e.draft.cleared cursor, pending := none })) := by
  unfold changeText at h
  cases hedit : e.draft.edit text cursor with
  | error fault => simp [hedit, bind, Except.bind] at h
  | ok result =>
      obtain ⟨draft, change⟩ := result
      rw [hedit] at h
      rcases Draft.edit_cases hedit with ⟨hne, rfl, rfl⟩ | ⟨hempty, rfl, rfl⟩
      · cases h
        exact ⟨rfl, .inl ⟨hne, rfl⟩⟩
      · cases h
        exact ⟨rfl, .inr ⟨hempty, rfl⟩⟩

/-- A change of the text succeeds while ids last. -/
theorem changeText_of_lt {e : Editor} (h : e.draft.issued + 1 < offsetLimit) (timing : Timing)
    (now : Nat) (text : String) (cursor : Nat) :
    ∃ e' signals, e.changeText timing now text cursor = .ok (e', signals) := by
  unfold changeText
  rw [Draft.edit_of_lt h]
  by_cases hempty : text = ""
  · rw [if_pos hempty]
    exact ⟨_, _, rfl⟩
  · rw [if_neg hempty]
    exact ⟨_, _, rfl⟩

/-- A reply either is stale and says nothing, or answers the draft's last request, or tells that
nobody answers it. -/
theorem receive_cases (e : Editor) (reply : Reply) :
    (¬ e.draft.accepts reply.id ∧
      e.receive reply = ({ e with inFlight := e.landed reply.id }, [])) ∨
    (e.draft.accepts reply.id ∧ ∃ evaluation, reply.result = .completed evaluation ∧
      e.receive reply =
        ({ e with
            draft := e.draft.answered evaluation.diagnostic, inFlight := e.landed reply.id },
          .validated evaluation.diagnostic :: (e.draft.answered evaluation.diagnostic).status ++
            [.suggestions evaluation.suggestions])) ∨
    (e.draft.accepts reply.id ∧ (reply.result = .timedOut ∨ reply.result = .failed) ∧
      e.receive reply =
        ({ e with draft := e.draft.unanswered, inFlight := e.landed reply.id },
          e.draft.unanswered.status)) := by
  by_cases h : e.draft.accepts reply.id
  · right
    unfold receive
    simp only [Draft.answer_of_accepts h, Draft.giveUp_of_accepts h]
    cases hresult : reply.result with
    | completed evaluation => exact .inl ⟨h, evaluation, rfl, rfl⟩
    | timedOut => exact .inr ⟨h, .inl rfl, rfl⟩
    | failed => exact .inr ⟨h, .inr rfl, rfl⟩
  · exact .inl ⟨h, receive_of_not_accepts h⟩

/-- A reply never touches the waiting request. -/
theorem receive_pending (e : Editor) (reply : Reply) :
    (e.receive reply).1.pending = e.pending := by
  rcases e.receive_cases reply with ⟨-, h⟩ | ⟨-, _, -, h⟩ | ⟨-, -, h⟩ <;> rw [h]

/-- A reply never touches the text or the cursor, and issues no id. -/
theorem receive_draft (e : Editor) (reply : Reply) :
    (e.receive reply).1.draft.issued = e.draft.issued ∧
      (e.receive reply).1.draft.text = e.draft.text ∧
      (e.receive reply).1.draft.cursor = e.draft.cursor := by
  rcases e.receive_cases reply with ⟨-, h⟩ | ⟨-, _, -, h⟩ | ⟨-, -, h⟩ <;> rw [h] <;>
    exact ⟨rfl, rfl, rfl⟩

/-- A request waits no longer than the debounce time after the last change. -/
theorem schedule_due (e : Editor) (timing : Timing) (now : Nat) (id : RequestId) :
    now ≤ (e.schedule timing now id).due ∧
      (e.schedule timing now id).due ≤ now + timing.debounceMs :=
  ⟨Nat.le_add_right .., Nat.add_le_add_left (timing.delayMs_le _) now⟩

theorem due?_eq_some {e : Editor} {now : Nat} {id : RequestId} :
    e.due? now = some id ↔ ∃ p, e.pending = some p ∧ p.due ≤ now ∧ p.id = id := by
  unfold due?
  cases e.pending with
  | none => simp
  | some p => by_cases h : p.due ≤ now <;> simp [h]

theorem due?_eq_none {e : Editor} {now : Nat} :
    e.due? now = none ↔ ∀ p, e.pending = some p → now < p.due := by
  unfold due?
  cases e.pending with
  | none => simp
  | some p =>
      by_cases h : p.due ≤ now
      · simp [h]
      · simp [h, Nat.lt_of_not_le h]

end Editor

/-! ### Round trips -/

/-- A round trip succeeds just if the oracle gives a verdict and a proposal. -/
theorem Oracle.evaluate_eq_ok {oracle : Oracle} {formatter : Formatter} {text : String}
    {cursor : Nat} {evaluation : Evaluation} :
    oracle.evaluate formatter text cursor = .ok evaluation ↔
      ∃ verdict proposal, oracle.validate text = .ok verdict ∧
        oracle.propose text cursor = .ok proposal ∧
        evaluation = ⟨formatter.diagnose verdict, proposal.suggestions⟩ := by
  unfold Oracle.evaluate
  cases hverdict : oracle.validate text with
  | error fault => simp [bind, Except.bind]
  | ok verdict =>
      cases hproposal : oracle.propose text cursor with
      | error fault => simp [bind, Except.bind]
      | ok proposal => simp [bind, Except.bind, pure, Except.pure, eq_comm]

end FilterEditor
