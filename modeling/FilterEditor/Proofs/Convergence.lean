import FilterEditor.Proofs.Gating
import FilterEditor.Proofs.Lifetime
import FilterEditor.Proofs.Progress

/-!
# Proofs — Convergence

The last text decides.  Once the debounce time after the last change of the text is over, what a
session shows follows from what the oracle says of that text, whatever was typed, held, released or
given up before (`last_text_decides`).

* `Concluded`: when a run has come so far.
* `Concluded.not_validating`: then no answer is awaited.  A request that waits is sent by then, and
  a call that is not held returns at once.
* `Draft.Reports`: what a draft shows that has a diagnostic of its text.  It leaves nothing open, so
  two drafts that report the same agree (`Draft.Reports.agree`).
-/

namespace FilterEditor

/-! ### What a draft shows -/

namespace Draft
open Text

/-- All that the draft shows is what a diagnostic says of its text, and what follows from that, its
name, and the filter it was opened from. -/
structure Reports (d : Draft) (diagnostic : Diagnostic) (saved : Option SavedFilter)
    (maySave : Bool) (text : String) : Prop where
  validity : d.validity = if diagnostic.status = .ok then .valid else .invalid
  error : d.error = diagnostic.errorMessage
  feedback : d.feedback =
    .of (if diagnostic.status = .ok then .valid else .invalid) diagnostic.errorMessage
  search : d.gating.search ↔ diagnostic.status = .ok
  save : d.gating.save ↔ diagnostic.status = .ok ∧ maySave ∧
    (∃ c ∈ d.name.toList, isBlank c = false) ∧ saved ≠ some ⟨d.name, text⟩

variable {d d' : Draft} {diagnostic : Diagnostic} {saved : Option SavedFilter} {maySave : Bool}
  {text : String}

theorem Shows.validity_eq (h : d.Shows diagnostic) :
    d.validity = if diagnostic.status = .ok then .valid else .invalid := by
  rw [h.validity, Diagnostic.failed]
  by_cases hok : diagnostic.status = .ok <;> simp [hok]

theorem Shows.reports (h : d.Shows diagnostic) (hne : d.text ≠ "") (hsaved : d.saved = saved)
    (hmay : d.maySave = maySave) (htext : d.text = text) :
    d.Reports diagnostic saved maySave text := by
  have hvalid : d.validity = .valid ↔ diagnostic.status = .ok := by
    rw [h.validity_eq]
    by_cases hok : diagnostic.status = .ok <;> simp [hok]
  have hopen : d.validity = .valid ∧ d.text ≠ "" ↔ diagnostic.status = .ok :=
    (and_iff_left hne).trans hvalid
  refine ⟨h.validity_eq, h.error, ?_, gating_search.trans hopen, ?_⟩
  · rw [feedback, h.validity_eq, h.error]
  · rw [gating_save, hopen, hsaved, hmay, htext]

/-- Two drafts of one name that report the same diagnostic of the same text show the same. -/
theorem Reports.agree (h : d.Reports diagnostic saved maySave text)
    (h' : d'.Reports diagnostic saved maySave text) (hname : d'.name = d.name) :
    d'.validity = d.validity ∧ d'.error = d.error ∧ d'.feedback = d.feedback ∧
      d'.gating = d.gating := by
  have hsearch : d'.gating.search = d.gating.search :=
    Bool.eq_iff_iff.mpr (h'.search.trans h.search.symm)
  have hsave : d'.gating.save = d.gating.save := by
    rw [Bool.eq_iff_iff, h'.save, h.save, hname]
  refine ⟨h'.validity.trans h.validity.symm, h'.error.trans h.error.symm,
    h'.feedback.trans h.feedback.symm, ?_⟩
  calc d'.gating = ⟨d'.gating.search, d'.gating.save⟩ := rfl
    _ = ⟨d.gating.search, d.gating.save⟩ := by rw [hsearch, hsave]
    _ = d.gating := rfl

end Draft

namespace Session
open Relation Journal

/-! ### Runs that have come to an answer -/

/-- The last change of the text in the run, to one that is not empty and that the oracle does not
hold, is at least the debounce time ago; calls have time, the run was not killed, and ids last. -/
structure Concluded (env : Setting) (saved : Option SavedFilter) (maySave : Bool)
    (steps : List Step) (time : Nat) (text : String) (cursor : Nat) : Prop where
  last : LastChange env saved maySave steps time text cursor
  nonempty : text ≠ ""
  free : env.holds text = false
  timed : 1 ≤ env.timing.oracleTimeoutMs
  debounced : time + env.timing.debounceMs ≤ (after env saved maySave steps).clock
  running : Step.kill ∉ steps
  ids : openingIds saved + steps.countP Step.changesText < offsetLimit

section
variable {env : Setting} {saved : Option SavedFilter} {maySave : Bool} {steps : List Step}
  {time cursor : Nat} {text : String} {e : Editor}

/-- The draft is the one that the last change left. -/
theorem Concluded.draft (h : Concluded env saved maySave steps time text cursor)
    (he : (after env saved maySave steps).editor = some e) :
    e.draft.text = text ∧ e.draft.cursor = cursor ∧ e.draft.issued ≠ 0 := by
  have hchronicle := Arises.chronicle (arises_after steps) e he
  obtain ⟨id, hedit⟩ := lastEdit_after h.last (by simp [he])
  obtain ⟨-, htext, hcursor⟩ := hchronicle.of_lastEdit hedit
  refine ⟨htext.symm, hcursor.symm, fun hzero => ?_⟩
  rw [hchronicle.unedited hzero] at hedit
  cases hedit

/-- **No answer is awaited** any more. -/
theorem Concluded.not_validating (h : Concluded env saved maySave steps time text cursor)
    (he : (after env saved maySave steps).editor = some e) : e.draft.validity ≠ .validating := by
  intro hvalidating
  have hs : Arises env saved maySave (after env saved maySave steps) := arises_after steps
  have still : (after env saved maySave steps).Still := after_still steps
  rcases (Arises.validating_iff hs still he).mp hvalidating with ⟨⟨p, hp, -⟩, -⟩ |
      ⟨⟨-, -, c, hc, hid, -⟩, -⟩
  -- a request that waits is due by now, and a settled session has sent it
  · obtain ⟨id, hedit⟩ := lastEdit_after h.last (by simp [he])
    have hdue := (Arises.allDated hs e _ he hedit).due p hp
    have hlt := still.clock_lt p.due (mem_dueTimes.mpr (.inl ⟨e, p, he, hp, rfl⟩))
    exact Nat.not_lt.mpr (Nat.le_trans hdue h.debounced) hlt
  -- a call that is left in a settled session is held
  · have hholds := ((Arises.timely hs).calls c hc).holds_of_held (still.held c hc)
    rw [((Arises.faithful hs e he).calls c hc hid).1, (h.draft he).1, h.free] at hholds
    cases hholds

/-- The draft reports what the oracle says of the last text. -/
theorem Concluded.reports (h : Concluded env saved maySave steps time text cursor)
    {verdict : Verdict} (hverdict : env.oracle.validate text = .ok verdict) {proposal : Proposal}
    (hproposal : env.oracle.propose text cursor = .ok proposal)
    (he : (after env saved maySave steps).editor = some e) :
    e.draft.Reports (env.formatter.diagnose verdict) saved maySave text := by
  have hs : Arises env saved maySave (after env saved maySave steps) := arises_after steps
  obtain ⟨htext, hcursor, hissued⟩ := h.draft he
  have hchronicle := Arises.chronicle hs e he
  have happlied := (Arises.atRest hs he (h.not_validating he) e he).2
  have hanswer : env.oracle.evaluate env.formatter e.draft.text e.draft.cursor =
      .ok ⟨env.formatter.diagnose verdict, proposal.suggestions⟩ :=
    Oracle.evaluate_eq_ok.mpr ⟨verdict, proposal, htext ▸ hverdict, by rw [htext, hcursor, hproposal],
      rfl⟩
  have hne : e.draft.text ≠ "" := htext ▸ h.nonempty
  rcases Arises.judged hs e he happlied hissued hne with ⟨evaluation, hevaluate, hshows⟩ |
      ⟨hunanswerable, -⟩
  · obtain rfl := Except.ok.inj (hanswer.symm.trans hevaluate)
    exact hshows.reports hne hchronicle.saved_eq hchronicle.maySave_eq htext
  · rcases hunanswerable with ⟨fault, hfault⟩ | hholds | hzero
    · rw [hanswer] at hfault
      cases hfault
    · rw [htext, h.free] at hholds
      cases hholds
    · exact absurd hzero (Nat.ne_of_gt h.timed)

/-! ### The theorem -/

/-- **The last text decides.**  Let the debounce time be over since the last change of the text in a
run that was not killed; let the text not be empty nor held, calls have time, and the oracle answer
on the text and the cursor.  Then the session lives, and what it shows is the diagnostic of the
oracle's verdict, and what follows from that, the text, the current name, the saved filter and the
permission to save.

So another such run, with other changes, held calls, releases and failures before, in other times
and with other texts held, agrees with it in all it shows, as soon as it agrees in the last text, in
the name and in what the oracle says. -/
theorem last_text_decides (h : Concluded env saved maySave steps time text cursor)
    {verdict : Verdict} (hverdict : env.oracle.validate text = .ok verdict) {proposal : Proposal}
    (hproposal : env.oracle.propose text cursor = .ok proposal) :
    ∃ e, (after env saved maySave steps).editor = some e ∧
      e.draft.Reports (env.formatter.diagnose verdict) saved maySave text ∧
      ∀ (env' : Setting) (steps' : List Step) (time' cursor' : Nat) (proposal' : Proposal),
        env'.oracle = env.oracle → env'.formatter = env.formatter →
        Concluded env' saved maySave steps' time' text cursor' →
        env.oracle.propose text cursor' = .ok proposal' →
        ∃ e', (after env' saved maySave steps').editor = some e' ∧
          (e'.draft.name = e.draft.name →
            e'.draft.validity = e.draft.validity ∧ e'.draft.error = e.draft.error ∧
              e'.draft.feedback = e.draft.feedback ∧ e'.draft.gating = e.draft.gating) := by
  obtain ⟨e, he⟩ := lives_after h.running h.ids
  have hreports := h.reports hverdict hproposal he
  refine ⟨e, he, hreports, ?_⟩
  intro env' steps' time' cursor' proposal' horacle hformatter h' hproposal'
  obtain ⟨e', he'⟩ := lives_after h'.running h'.ids
  have hreports' : e'.draft.Reports (env.formatter.diagnose verdict) saved maySave text := by
    rw [← hformatter]
    exact h'.reports (horacle ▸ hverdict) (horacle ▸ hproposal') he'
  exact ⟨e', he', hreports.agree hreports'⟩

end
/-! ### A held call before the last text -/

/-- A new query, after a call on the saved one that is held and then released late. -/
theorem concluded_held : Concluded (accepting (· == "a")) (some ⟨"name", "a"⟩) true
    [.event (.textChanged "b" 1), .release "a"] 0 "b" 1 where
  last := .kept (.changed [] "b" 1) rfl
  nonempty := by decide
  free := rfl
  timed := by decide
  debounced := Nat.le_refl 0
  running := by decide
  ids := by decide

/-- The same query, from the saved one as the oracle accepts it. -/
theorem concluded_free : Concluded (accepting fun _ => false) (some ⟨"name", "a"⟩) true
    [.event (.textChanged "b" 1)] 0 "b" 1 where
  last := .changed [] "b" 1
  nonempty := by decide
  free := rfl
  timed := by decide
  debounced := Nat.le_refl 0
  running := by decide
  ids := by decide

/-- The query is accepted, and the run without the held call shows the same. -/
theorem last_text_decides_held :
    ∃ e e', (after (accepting (· == "a")) (some ⟨"name", "a"⟩) true
        [.event (.textChanged "b" 1), .release "a"]).editor = some e ∧
      e.draft.validity = .valid ∧
      (after (accepting fun _ => false) (some ⟨"name", "a"⟩) true
        [.event (.textChanged "b" 1)]).editor = some e' ∧
      (e'.draft.name = e.draft.name → e'.draft.gating = e.draft.gating) := by
  obtain ⟨e, he, hreports, hagree⟩ := last_text_decides concluded_held rfl rfl
  obtain ⟨e', he', hsame⟩ := hagree (accepting fun _ => false) _ 0 1 _ rfl rfl concluded_free rfl
  exact ⟨e, e', he, hreports.validity, he', fun hname => (hsame hname).2.2.2⟩

end Session
end FilterEditor
