import FilterEditor.Diagnostic.Formatter

/-!
# Proofs — Innermost

Of a chain of failures only the innermost one counts (`innermost_decides`).

Every failure is an innermost one with errors around it (`Failure.wrappedIn`, `exists_reports`).
What an innermost failure reports of the expected terminals is a matter of its own table
(`Failure.Reports`), and the errors around it neither add to that nor hide it
(`Reports.expected_wrappedIn`).  In a diagnostic all reports that name no terminals look the same.
-/

namespace FilterEditor

namespace Failure
variable {inner : Failure} {report : Except TableError (List Terminal)}

/-- The failure with an error around it for each message, the first one outermost. -/
def wrappedIn (failure : Failure) (messages : List String) : Failure :=
  messages.foldr wrapped failure

/-- What a failure that wraps no other reports of the expected terminals: those in the rows of its
table, or why there are none. -/
inductive Reports : Failure → Except TableError (List Terminal) → Prop where
  | rows (message : String) (rows : List (List Terminal)) :
      Reports (.syntaxError message (.rows rows)) (.ok rows.flatten)
  | missing (message : String) : Reports (.syntaxError message .missing) (.error .missing)
  | unreadable (message reason : String) :
      Reports (.syntaxError message (.unreadable reason)) (.error (.unreadable reason))
  | other (message : String) : Reports (.other message) (.error .noSyntaxError)

theorem wrappedIn_cons (failure : Failure) (message : String) (messages : List String) :
    failure.wrappedIn (message :: messages) = wrapped message (failure.wrappedIn messages) := rfl

theorem expected_wrappedIn (failure : Failure) (messages : List String) :
    (failure.wrappedIn messages).expected = failure.expected := by
  induction messages with
  | nil => rfl
  | cons message messages ih => rw [wrappedIn_cons, expected_wrapped, ih]

theorem Reports.expected_eq (h : inner.Reports report) : inner.expected = report := by
  cases h <;> rfl

theorem Reports.expected_wrappedIn (h : inner.Reports report) (messages : List String) :
    (inner.wrappedIn messages).expected = report :=
  (inner.expected_wrappedIn messages).trans h.expected_eq

/-- There is an innermost failure in every chain. -/
theorem exists_reports (failure : Failure) :
    ∃ inner messages report, failure = wrappedIn inner messages ∧ inner.Reports report := by
  induction failure with
  | wrapped message failure ih =>
      obtain ⟨inner, messages, report, rfl, h⟩ := ih
      exact ⟨inner, message :: messages, report, rfl, h⟩
  | syntaxError message table =>
      cases table with
      | rows rows => exact ⟨_, [], _, rfl, .rows message rows⟩
      | missing => exact ⟨_, [], _, rfl, .missing message⟩
      | unreadable reason => exact ⟨_, [], _, rfl, .unreadable message reason⟩
  | other message => exact ⟨_, [], _, rfl, .other message⟩

end Failure

namespace Formatter
variable {f : Formatter}

theorem expectedTokens_nil (f : Formatter) : f.expectedTokens [] = [] := by
  simp [expectedTokens, TokenTable.isSelectorPair]

/-- The terminals that can be read are all that a diagnostic takes from a failure. -/
theorem diagnose_syntaxError (f : Formatter) (raw : String) (failure : Failure) :
    f.diagnose (.syntaxError raw failure) =
      f.syntaxError raw (failure.expected.toOption.getD []) := by
  rw [diagnose]
  cases failure.expected <;> rfl

theorem status_diagnose (f : Formatter) (verdict : Verdict) :
    (f.diagnose verdict).status = match verdict with
      | .success => .ok
      | .syntaxError _ _ => .syntaxError
      | .unsupportedField _ | .malformedValue _ => .semanticError := by
  cases verdict with
  | syntaxError raw failure =>
      rw [diagnose_syntaxError]
      rfl
  | _ => rfl

/-- Tokens are expected only where a syntax error's terminals can be read. -/
theorem readable_of_expected {verdict : Verdict} (h : (f.diagnose verdict).expected ≠ []) :
    ∃ raw failure ids, verdict = .syntaxError raw failure ∧ failure.expected = .ok ids := by
  cases verdict with
  | syntaxError raw failure =>
      cases hexpected : failure.expected with
      | ok ids => exact ⟨raw, failure, ids, rfl, hexpected⟩
      | error cause =>
          rw [diagnose_syntaxError, hexpected] at h
          exact absurd f.expectedTokens_nil h
  | _ => exact absurd rfl h

/-- **The innermost failure decides.**  Every chain of failures has one.  Whatever is wrapped around
it, the chain yields what it reports, and the diagnostic is that of the terminals reported, or of
none.  So two chains that report the same terminals, or of which neither reports any, have the same
diagnostic.  The status of a diagnostic is a matter of the kind of verdict, and tokens are expected
only after a syntax error that reports its terminals. -/
theorem innermost_decides (f : Formatter) (raw : String) :
    (∀ failure : Failure, ∃ (inner : Failure) (messages : List String)
      (report : Except TableError (List Terminal)),
        failure = inner.wrappedIn messages ∧ inner.Reports report) ∧
    (∀ (inner : Failure) (messages : List String) (report : Except TableError (List Terminal)),
      inner.Reports report →
        let failure := inner.wrappedIn messages
        failure.expected = report ∧
          (∀ ids, report = .ok ids →
            f.diagnose (.syntaxError raw failure) = f.syntaxError raw ids) ∧
          (∀ cause, report = .error cause →
            f.diagnose (.syntaxError raw failure) = f.syntaxError raw [])) ∧
    (∀ (inner inner' : Failure) (report report' : Except TableError (List Terminal)),
      inner.Reports report → inner'.Reports report' → report.toOption = report'.toOption →
        ∀ messages messages', f.diagnose (.syntaxError raw (inner.wrappedIn messages)) =
          f.diagnose (.syntaxError raw (inner'.wrappedIn messages'))) ∧
    (∀ verdict : Verdict, let d := f.diagnose verdict
      (d.status = .ok ↔ verdict = .success) ∧
      (d.status = .syntaxError ↔ ∃ raw failure, verdict = .syntaxError raw failure) ∧
      (d.status = .semanticError ↔
        ∃ raw, verdict = .unsupportedField raw ∨ verdict = .malformedValue raw) ∧
      (d.expected ≠ [] →
        ∃ raw failure ids, verdict = .syntaxError raw failure ∧ failure.expected = .ok ids)) := by
  refine ⟨Failure.exists_reports, fun inner messages report h => ?_,
    fun inner inner' report report' h h' hsame messages messages' => ?_, fun verdict => ?_⟩
  · have hexpected := h.expected_wrappedIn messages
    refine ⟨hexpected, fun ids hids => ?_, fun cause hcause => ?_⟩
    · rw [diagnose_syntaxError, hexpected, hids]
      rfl
    · rw [diagnose_syntaxError, hexpected, hcause]
      rfl
  · rw [diagnose_syntaxError, diagnose_syntaxError, h.expected_wrappedIn, h'.expected_wrappedIn,
      hsame]
  · intro d
    have hstatus : d.status = _ := status_diagnose f verdict
    refine ⟨?_, ?_, ?_, readable_of_expected⟩ <;> rw [hstatus] <;> cases verdict <;> simp

/-- The same terminals in other rows under other wrappings, and two failures that report none. -/
theorem innermost_decides_regrouped :
    let f : Formatter := {}
    let raw := "Parser: <EOF> Was expecting (12)"
    let split : Failure := .syntaxError "at the end" (.rows [[12], [], [5, 12]])
    let joined : Failure := .syntaxError "" (.rows [[12, 5, 12]])
    let lost : Failure := .other "connection lost"
    let torn : Failure := .syntaxError "" (.unreadable "torn")
    (split.wrappedIn ["refused", "in the query"]).expected = .ok [12, 5, 12] ∧
      f.diagnose (.syntaxError raw (split.wrappedIn ["refused", "in the query"])) =
        f.syntaxError raw [12, 5, 12] ∧
      f.diagnose (.syntaxError raw (split.wrappedIn ["refused", "in the query"])) =
        f.diagnose (.syntaxError raw (joined.wrappedIn [])) ∧
      (lost.wrappedIn ["refused"]).expected = .error .noSyntaxError ∧
      f.diagnose (.syntaxError raw (lost.wrappedIn ["refused"])) =
        f.diagnose (.syntaxError raw (torn.wrappedIn [])) := by
  intro f raw split joined lost torn
  have hsplit : split.Reports (.ok [12, 5, 12]) := .rows _ [[12], [], [5, 12]]
  have hjoined : joined.Reports (.ok [12, 5, 12]) := .rows _ [[12, 5, 12]]
  have hlost : lost.Reports (.error .noSyntaxError) := .other _
  have htorn : torn.Reports (.error (.unreadable "torn")) := .unreadable _ _
  obtain ⟨-, hchain, hsame, -⟩ := innermost_decides f raw
  obtain ⟨hids, hdiagnostic, -⟩ := hchain split ["refused", "in the query"] _ hsplit
  exact ⟨hids, hdiagnostic _ rfl, hsame _ _ _ _ hsplit hjoined rfl _ _,
    (hchain lost ["refused"] _ hlost).1, hsame _ _ _ _ hlost htorn rfl _ _⟩

end Formatter
end FilterEditor
