import FilterEditor.Proofs.Gating
import FilterEditor.Proofs.Recounting

/-!
# Proofs — Agreement

The views of a draft agree (`views_agree`): the query that may be executed, the actions that are open
to the user and the indicator never contradict each other, although each of them looks at other parts
of the draft.

* `Coherent`: the parts of a draft agree with each other, its error included.  Every operation keeps
  it, whatever id a reply comes under (`Coherent.perform`), and so does every sequence of operations
  (`Coherent.performAll`).
* `Draft.isConsistent`: what each operation asserts of the draft that it leaves.
-/

namespace FilterEditor
namespace Draft

/-- What each operation asserts of the draft that it leaves: while an answer is awaited, the last id
issued has not been applied. -/
def isConsistent (d : Draft) : Bool :=
  d.validity != .validating || decide (d.applied < d.issued)

/-- The parts of a draft agree with each other, and an error is kept for an invalid query only. -/
structure Coherent (d : Draft) : Prop where
  sound : d.Sound
  error_iff : d.error.isSome ↔ d.validity = .invalid

section
variable {d d' : Draft} {ops : List Operation} {op : Operation} {mark : Option Disposition}
  {marks : List (Option Disposition)}

/-! ### What the operations keep -/

namespace Coherent

theorem opening (saved : Option SavedFilter) (maySave : Bool) :
    (opening saved maySave).Coherent where
  sound := .opening saved maySave
  error_iff := by cases saved <;> simp [Draft.opening, blank, ofSaved]

theorem edit (h : d.Coherent) {text : String} {cursor : Nat} {change : Change}
    (hedit : d.edit text cursor = .ok (d', change)) : d'.Coherent := by
  rcases edit_cases hedit with ⟨hne, -, rfl⟩ | ⟨-, -, rfl⟩
  · exact ⟨h.sound.retyped hne cursor, by simp [retyped]⟩
  · exact ⟨.cleared cursor, by simp [cleared]⟩

theorem rename (h : d.Coherent) (name : String) : (d.rename name).Coherent :=
  ⟨h.sound.rename name, h.error_iff⟩

/-- A diagnostic of a failure brings a message, and any other brings none. -/
theorem answered (h : d.Coherent) (hopen : d.applied < d.issued) (diagnostic : Diagnostic) :
    (d.answered diagnostic).Coherent where
  sound := h.sound.answered hopen diagnostic
  error_iff := by
    cases hfailed : diagnostic.failed <;> simp [Draft.answered, Diagnostic.errorMessage, hfailed]

theorem unanswered (d : Draft) : d.unanswered.Coherent :=
  ⟨.unanswered, by simp [Draft.unanswered]⟩

/-- **One operation.**  A change of the text starts over, a new name has no part in what is known of
the query, and a reply either is stale or settles the request that is awaited. -/
theorem perform (h : d.Coherent) (hop : d.perform op = .ok (d', mark)) : d'.Coherent := by
  cases op with
  | edit text cursor =>
      cases hedit : d.edit text cursor with
      | error fault => simp [Draft.perform, hedit, bind, Except.bind] at hop
      | ok result =>
          simp only [Draft.perform, hedit, bind, Except.bind, pure, Except.pure] at hop
          cases hop
          exact h.edit hedit
  | rename name =>
      cases hop
      exact h.rename name
  | answer id diagnostic =>
      by_cases haccepts : d.accepts id
      · rw [Draft.perform, answer_of_accepts haccepts] at hop
        cases hop
        obtain ⟨rfl, hopen⟩ := accepts_iff.mp haccepts
        exact h.answered hopen diagnostic
      · rw [Draft.perform, answer_of_not_accepts haccepts] at hop
        cases hop
        exact h
  | giveUp id =>
      by_cases haccepts : d.accepts id
      · rw [Draft.perform, giveUp_of_accepts haccepts] at hop
        cases hop
        exact .unanswered d
      · rw [Draft.perform, giveUp_of_not_accepts haccepts] at hop
        cases hop
        exact h

/-- **Any operations.** -/
theorem performAll (h : d.Coherent) (hall : d.performAll ops = .ok (d', marks)) : d'.Coherent := by
  induction ops generalizing d marks with
  | nil =>
      cases hall
      exact h
  | cons op ops ih =>
      simp only [Draft.performAll, bind, Except.bind, pure, Except.pure] at hall
      cases hop : d.perform op with
      | error fault => simp [hop] at hall
      | ok result =>
          simp only [hop] at hall
          cases hrest : result.1.performAll ops with
          | error fault => simp [hrest] at hall
          | ok rest =>
              simp only [hrest] at hall
              cases hall
              exact ih (h.perform hop) hrest

/-! ### The views -/

/-- A valid query is never empty, so the check of the text adds nothing to that of the validity. -/
theorem search_iff (h : d.Coherent) : d.gating.search ↔ d.validity = .valid := by
  rw [gating_search]
  refine and_iff_left_of_imp fun hvalid hempty => ?_
  rw [h.sound.unknown_of_empty hempty] at hvalid
  cases hvalid

theorem executable_eq_some_iff (h : d.Coherent) {query : String} :
    d.executable = some query ↔ d.gating.search ∧ query = d.text := by
  rw [h.search_iff, executable]
  split
  · next hvalid => simp [hvalid, eq_comm]
  · next hvalid => simp [hvalid]

/-- The indicator hides no error: none is kept unless the query is invalid. -/
theorem tooltip_eq (h : d.Coherent) : d.feedback.tooltip = d.error := by
  have hnone (hne : d.validity ≠ .invalid) : none = d.error :=
    (Option.not_isSome_iff_eq_none.mp (mt h.error_iff.mp hne)).symm
  cases hvalidity : d.validity <;> simp only [feedback, Feedback.of, hvalidity] <;>
    exact hnone (by simp [hvalidity])

theorem applied_eq (h : d.Coherent) (hvalidity : d.validity ≠ .validating) :
    d.applied = d.issued :=
  Nat.le_antisymm h.sound.applied_le (Nat.le_of_not_lt (mt h.sound.validating_iff.mpr hvalidity))

theorem isConsistent (h : d.Coherent) : d.isConsistent := by
  rw [Draft.isConsistent, Bool.or_eq_true, bne_iff_ne, decide_eq_true_iff, ← h.sound.validating_iff]
  exact (em _).symm

end Coherent

/-! ### The theorem -/

/-- **The views agree.**  Take any operations on a draft, from its opening on, with replies under any
ids and any diagnostics, whose changes of the text do not use up the ids.  None of them is a fault.
Of the draft that they lead to, the following holds:

* there is a query to execute just if searching is open, and it is the text, which is not empty;
* saving is open only if searching is;
* an answer is awaited just while the last id applied is below the last one issued, and else the two
  are the same;
* there is an error just if the query is invalid, and the indicator shows it;
* nothing is known of an empty text;
* what the operations assert is true.

Since the operations so far are operations as well, this holds after each of them. -/
theorem views_agree (saved : Option SavedFilter) (maySave : Bool) (ops : List Operation)
    (hids : (changes ops).length < offsetLimit) :
    ∃ d marks, (Draft.opening saved maySave).performAll ops = .ok (d, marks) ∧
      (d.executable.isSome ↔ d.gating.search) ∧
      (∀ query, d.executable = some query → query = d.text ∧ query ≠ "") ∧
      (d.gating.save → d.gating.search) ∧
      (d.validity = .validating ↔ d.applied < d.issued) ∧
      (d.validity ≠ .validating → d.applied = d.issued) ∧
      (d.error.isSome ↔ d.validity = .invalid) ∧
      d.feedback.tooltip = d.error ∧
      (d.text = "" → d.validity = .unknown) ∧
      d.isConsistent := by
  obtain ⟨d, earlier, since, hall, -, -⟩ := recounts_all saved maySave ops hids
  have h : d.Coherent := (Coherent.opening saved maySave).performAll hall
  refine ⟨d, earlier ++ since, hall, ?_, fun query hquery => ?_, fun hsave => ?_,
    h.sound.validating_iff, h.applied_eq, h.error_iff, h.tooltip_eq, h.sound.unknown_of_empty,
    h.isConsistent⟩
  · simp [Option.isSome_iff_exists, h.executable_eq_some_iff]
  · obtain ⟨hsearch, rfl⟩ := h.executable_eq_some_iff.mp hquery
    exact ⟨rfl, (gating_search.mp hsearch).2⟩
  · exact gating_search.mpr (gating_save.mp hsave).1

end

/-- The query is refused, and then a reply comes under an id that was never issued. -/
def refusedOps : List Operation :=
  [.answer 0 .accepted, .edit "a" 1, .answer 1 ⟨.syntaxError, "message", []⟩, .answer 7 .accepted]

/-- A refused query has an error to show, and no query to execute. -/
theorem views_agree_refused :
    ∃ d marks, (Draft.opening none true).performAll refusedOps = .ok (d, marks) ∧
      d.validity = .invalid ∧ d.executable = none ∧ d.gating.search = false ∧
      d.feedback.tooltip = some "message" ∧ d.applied = d.issued := by
  obtain ⟨d, marks, hall, hexecutes, -, -, -, hsettled, -, htooltip, -⟩ :=
    views_agree none true refusedOps (by decide)
  have hshown : ((Draft.opening none true).performAll refusedOps).toOption.map
      (fun result => (result.1.validity, result.1.error)) = some (.invalid, some "message") := by
    decide
  rw [hall] at hshown
  obtain ⟨hvalidity, herror⟩ := Prod.mk.inj (Option.some.inj hshown)
  dsimp only at hvalidity herror
  have hnone : d.executable = none := by simp [executable, hvalidity]
  refine ⟨d, marks, hall, hvalidity, hnone, ?_, htooltip.trans herror,
    hsettled (by simp [hvalidity])⟩
  rw [← Bool.not_eq_true, ← hexecutes, hnone]
  exact Bool.false_ne_true

end Draft
end FilterEditor
