import FilterEditor.Proofs.Replies

/-!
# Proofs — Verdicts

What a draft says of its text when no answer is awaited.

* `Draft.Judged`: it shows what the oracle says of exactly its text and its cursor, or that nothing
  is known because the oracle could not say.
* `Arises.judged`: the draft of every session that arises is judged, whatever came before.
* `Arises.validate_of_valid`: a draft is valid only if the oracle accepts its text.
-/

namespace FilterEditor

/-- Only an accepted query has a diagnostic without a failure. -/
theorem Formatter.failed_diagnose {f : Formatter} {verdict : Verdict} :
    (f.diagnose verdict).failed = false ↔ verdict = .success := by
  cases verdict with
  | success => exact ⟨fun _ => rfl, fun _ => rfl⟩
  | syntaxError raw failure =>
      refine ⟨fun h => ?_, nofun⟩
      cases hids : failure.expected <;> rw [Formatter.diagnose, hids] at h <;> cases h
  | unsupportedField raw => exact ⟨nofun, nofun⟩
  | malformedValue raw => exact ⟨nofun, nofun⟩

/-- The oracle cannot be relied on for an answer about the text and the cursor: it fails there, or
it may be out of time. -/
def Setting.Unanswerable (env : Setting) (text : String) (cursor : Nat) : Prop :=
  (∃ fault, env.oracle.evaluate env.formatter text cursor = .error fault) ∨
    env.holds text ∨ env.timing.oracleTimeoutMs = 0

namespace Draft

/-- The draft shows a diagnostic. -/
structure Shows (d : Draft) (diagnostic : Diagnostic) : Prop where
  validity : d.validity = if diagnostic.failed then .invalid else .valid
  error : d.error = diagnostic.errorMessage

/-- When no answer is awaited, the draft shows what the oracle says of its text, or that nothing is
known of a text on which the oracle cannot be relied. -/
def Judged (env : Setting) (d : Draft) : Prop :=
  d.applied = d.issued → d.issued ≠ 0 → d.text ≠ "" →
    (∃ evaluation, env.oracle.evaluate env.formatter d.text d.cursor = .ok evaluation ∧
      d.Shows evaluation.diagnostic) ∨
    env.Unanswerable d.text d.cursor ∧ d.validity = .unknown ∧ d.error = none

variable {env : Setting} {d : Draft}

/-- Nothing is claimed while an answer is awaited. -/
theorem Judged.of_lt (h : d.applied < d.issued) : d.Judged env :=
  fun happlied => absurd happlied (Nat.ne_of_lt h)

theorem Judged.rename (h : d.Judged env) (name : String) : (d.rename name).Judged env := by
  intro happlied hissued hne
  rcases h happlied hissued hne with ⟨evaluation, hevaluate, hshows⟩ | hunknown
  · exact .inl ⟨evaluation, hevaluate, hshows.validity, hshows.error⟩
  · exact .inr hunknown

theorem Judged.cleared (cursor : Nat) : (d.cleared cursor).Judged env :=
  fun _ _ hne => absurd rfl hne

theorem Judged.answered {evaluation : Evaluation}
    (h : env.oracle.evaluate env.formatter d.text d.cursor = .ok evaluation) :
    (d.answered evaluation.diagnostic).Judged env :=
  fun _ _ _ => .inl ⟨evaluation, h, rfl, rfl⟩

theorem Judged.unanswered (h : env.Unanswerable d.text d.cursor) : d.unanswered.Judged env :=
  fun _ _ _ => .inr ⟨h, rfl, rfl⟩

end Draft

namespace Session
open Relation

section
variable {env : Setting} {saved : Option SavedFilter} {maySave : Bool} {s s' : Session}
  {e e' : Editor}

/-- What a draft makes of a reply about itself is judged. -/
theorem judged_receive (h : e.draft.Judged env) {reply : Reply}
    (hanswers : reply.id = e.draft.issued → reply.Answers env e.draft.text e.draft.cursor) :
    (e.receive reply).1.draft.Judged env := by
  rcases e.receive_cases reply with ⟨-, heq⟩ | ⟨haccepts, evaluation, hresult, heq⟩ |
      ⟨haccepts, hresult, heq⟩ <;> rw [heq]
  · exact h
  · have hanswer := hanswers (Draft.accepts_iff.mp haccepts).1
    rw [Reply.Answers, hresult] at hanswer
    exact .answered hanswer
  · have hanswer := hanswers (Draft.accepts_iff.mp haccepts).1
    rcases hresult with hresult | hresult <;> rw [Reply.Answers, hresult] at hanswer
    · exact .unanswered (.inr hanswer)
    · exact .unanswered (.inl hanswer)

theorem judged_event (h : e.draft.Judged env) (hsound : e.draft.Sound) {event : Event}
    (he' : (s.handle env e event).editor = some e') : e'.draft.Judged env := by
  rcases handle_inv he' with ⟨text, cursor, -, -, rfl, -⟩ | ⟨cursor, -, rfl, -⟩ | ⟨name, -, rfl, -⟩ |
      ⟨signal, -, rfl, -⟩
  · exact .of_lt (Nat.lt_succ_of_le hsound.applied_le)
  · exact .cleared cursor
  · exact h.rename name
  · exact h

/-- **Judged drafts.**  In every session that arises, the draft shows what the oracle says of its
text, once no answer is awaited. -/
theorem Arises.judged (hs : Arises env saved maySave s) :
    ∀ e, s.editor = some e → e.draft.Judged env := by
  induction hs with
  | refl =>
      intro e he
      rcases start_cases env saved maySave with ⟨hempty, hs⟩ | ⟨filter, -, -, hs⟩ <;> rw [hs] at he
      · cases he
        exact fun _ _ hne => absurd hempty hne
      · cases he
        exact .of_lt Nat.zero_lt_one
  | tail hs move ih =>
      intro e he
      cases move with
      | inner move =>
          cases move with
          | pass | expire | collect => exact ih e he
          | receive hreplies =>
              obtain ⟨e, hsome, rfl⟩ := receive_inv he
              refine judged_receive (ih e hsome) ((Arises.faithful hs e hsome).replies _ ?_)
              exact hreplies ▸ List.mem_append_cons_self
          | send hsome =>
              cases he
              have hsent := ih _ hsome
              exact hsent
      | event hsome event =>
          exact judged_event (ih _ hsome) (Arises.singleFlight hs _ hsome).sound he
      | release | closeSignals => exact ih e he
      | kill => cases he

/-- A draft with a verdict has applied the last of at least one id, and its text is not empty. -/
theorem settled_of_verdict {d : Draft} (hsound : d.Sound) (hknown : d.validity ≠ .unknown)
    (hdone : d.validity ≠ .validating) : d.applied = d.issued ∧ d.issued ≠ 0 ∧ d.text ≠ "" := by
  refine ⟨?_, fun hzero => hknown (hsound.unknown_of_unissued hzero),
    fun hempty => hknown (hsound.unknown_of_empty hempty)⟩
  exact Nat.le_antisymm hsound.applied_le
    (Nat.le_of_not_lt fun hlt => hdone (hsound.validating_iff.mpr hlt))

/-- A draft is valid only if the oracle accepts its text. -/
theorem Arises.validate_of_valid (hs : Arises env saved maySave s) (he : s.editor = some e)
    (hvalid : e.draft.validity = .valid) : env.oracle.validate e.draft.text = .ok .success := by
  have hsound := (Arises.singleFlight hs e he).sound
  obtain ⟨happlied, hissued, hne⟩ := settled_of_verdict hsound (by simp [hvalid]) (by simp [hvalid])
  rcases Arises.judged hs e he happlied hissued hne with ⟨evaluation, hevaluate, hshows⟩ |
      ⟨-, hunknown, -⟩
  · obtain ⟨verdict, proposal, hverdict, -, rfl⟩ := Oracle.evaluate_eq_ok.mp hevaluate
    have hfailed : (env.formatter.diagnose verdict).failed = false := by
      have hshown := hshows.validity
      rw [hvalid] at hshown
      by_contra hfails
      rw [Bool.not_eq_false] at hfails
      rw [if_pos hfails] at hshown
      cases hshown
    rw [hverdict, Formatter.failed_diagnose.mp hfailed]
  -- of a text on which the oracle cannot be relied, nothing is known
  · rw [hvalid] at hunknown
    cases hunknown

end
end Session
end FilterEditor
