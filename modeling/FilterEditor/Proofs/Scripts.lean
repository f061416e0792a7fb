import FilterEditor.Proofs.FirstOccurrence
import FilterEditor.Script

/-!
# Proofs — Scripts

What a script answers, and which responses make a script (`script_answers`).

Responses are refused just if a text comes up twice, and then with the first text that does
(`firstRepeat_eq_some_iff`).  In a script every text has one response at most, so that the order of
the responses does not matter (`oracle_of_perm`).  A verdict and a proposal are taken from the same
scripted verdict, and so they agree on syntax errors (`ScriptedVerdict.syntaxError?_eq_some_iff`).
-/

namespace FilterEditor

/-- The parser's message is the same in the completions as in the verdict. -/
theorem ScriptedVerdict.syntaxError?_eq_some_iff {v : ScriptedVerdict} {message : String} :
    v.syntaxError? = some message ↔ ∃ failure, v.verdict = .syntaxError message failure := by
  cases v with
  | syntaxError m expected => cases expected <;> simp [syntaxError?, verdict, eq_comm]
  | success | unsupportedField | malformedValue => simp [syntaxError?, verdict]

namespace Script

/-- The script answers the text with this verdict and, at each cursor, with these completions. -/
def Answers (script : Script) (text : String) (verdict : ScriptedVerdict)
    (candidates : List Candidate) (token : Option SelectorToken) : Prop :=
  script.oracle.validate text = .ok verdict.verdict ∧
    ∀ cursor, script.oracle.propose text cursor =
      .ok { cursor, candidates, syntaxError := verdict.syntaxError?, token }

/-! ### Texts that come up twice -/

section
variable {responses : List Response} {fallback : ScriptedVerdict} {script : Script} {r : Response}
  {text : String}

/-- The first response to a text that has come up: the ones before it are to distinct texts. -/
theorem firstRepeat_eq_some_iff {seen : List String} :
    firstRepeat seen responses = some r ↔
      ∃ front back, responses = front ++ r :: back ∧
        (r.text ∈ seen ∨ r.text ∈ front.map (·.text)) ∧ firstRepeat seen front = none := by
  induction responses generalizing seen with
  | nil => simp [firstRepeat]
  | cons q qs ih =>
      rw [firstRepeat]
      split
      · next hq =>
        constructor
        · intro h
          obtain rfl := Option.some.inj h
          exact ⟨[], qs, rfl, .inl hq, rfl⟩
        · rintro ⟨_ | ⟨f, fs⟩, back, hsplit, hr, hfront⟩
          · rw [(List.cons.inj hsplit).1]
          · obtain ⟨rfl, -⟩ := List.cons.inj hsplit
            simp [firstRepeat, hq] at hfront
      · next hq =>
        rw [ih]
        constructor
        · rintro ⟨front, back, rfl, hr, hfront⟩
          refine ⟨q :: front, back, rfl, ?_, by rw [firstRepeat, if_neg hq, hfront]⟩
          simpa [or_left_comm, or_assoc] using hr
        · rintro ⟨_ | ⟨f, fs⟩, back, hsplit, hr, hfront⟩
          · obtain ⟨rfl, -⟩ := List.cons.inj hsplit
            simp [hq] at hr
          · obtain ⟨rfl, rfl⟩ := List.cons.inj hsplit
            rw [firstRepeat, if_neg hq] at hfront
            refine ⟨fs, back, rfl, ?_, hfront⟩
            simpa [or_left_comm, or_assoc] using hr

theorem ofResponses_eq_ok_iff :
    ofResponses responses fallback = .ok script ↔
      (responses.map (·.text)).Nodup ∧ script = { responses, fallback } := by
  constructor
  · intro h
    unfold ofResponses at h
    split at h
    · cases h
    · next hnone => exact ⟨(firstRepeat_eq_none_iff.mp hnone).1, (Except.ok.inj h).symm⟩
  · rintro ⟨hnodup, rfl⟩
    exact ofResponses_of_nodup hnodup fallback

theorem ofResponses_eq_error_iff {d : DuplicateText} :
    ofResponses responses fallback = .error d ↔
      ∃ front r back, responses = front ++ r :: back ∧ d.text = r.text ∧
        r.text ∈ front.map (·.text) ∧ (front.map (·.text)).Nodup := by
  have hrepeat : ofResponses responses fallback = .error d ↔
      ∃ r, firstRepeat [] responses = some r ∧ d.text = r.text := by
    unfold ofResponses
    obtain ⟨text⟩ := d
    cases firstRepeat [] responses <;> simp [eq_comm]
  rw [hrepeat]
  simp only [firstRepeat_eq_some_iff, firstRepeat_eq_none_iff, List.not_mem_nil, false_or,
    not_false_eq_true, implies_true, and_true]
  constructor
  · rintro ⟨r, ⟨front, back, hsplit, hr, hfront⟩, htext⟩
    exact ⟨front, r, back, hsplit, htext, hr, hfront⟩
  · rintro ⟨front, r, back, hsplit, htext, hr, hfront⟩
    exact ⟨r, ⟨front, back, hsplit, hr, hfront⟩, htext⟩

/-! ### Answers -/

theorem answers_of_response (h : script.response? text = some r) :
    script.Answers text r.verdict r.candidates r.token :=
  ⟨by simp [oracle, verdictOn, h], fun cursor => by simp [oracle, proposal, verdictOn, h]⟩

theorem answers_of_none (h : script.response? text = none) :
    script.Answers text script.fallback [] none :=
  ⟨by simp [oracle, verdictOn, h], fun cursor => by simp [oracle, proposal, verdictOn, h]⟩

/-- The order of the responses does not matter. -/
theorem oracle_of_perm {responses' : List Response} (hperm : responses.Perm responses')
    (hnodup : (responses.map (·.text)).Nodup) (fallback : ScriptedVerdict) :
    ({ responses, fallback } : Script).oracle =
      ({ responses := responses', fallback } : Script).oracle := by
  have hresponse : ∀ text, ({ responses, fallback } : Script).response? text =
      ({ responses := responses', fallback } : Script).response? text :=
    find?_eq_of_perm hperm hnodup
  simp only [oracle, proposal, verdictOn, hresponse]

/-- Completions report a syntax error just if the verdict is one, and with the same message. -/
theorem syntaxError_iff {cursor : Nat} {message : String} :
    (∃ p, script.oracle.propose text cursor = .ok p ∧ p.syntaxError = some message) ↔
      ∃ failure, script.oracle.validate text = .ok (.syntaxError message failure) := by
  simp only [oracle, proposal, Except.ok.injEq, exists_eq_left',
    ScriptedVerdict.syntaxError?_eq_some_iff]

/-- **What a script answers.**  Responses make a script just if their texts are distinct.  Otherwise
the text that is reported is that of the first response to a text which has come up before it.  A
script answers the text of each response with that response, and any other text with the fallback
and no completions.  The same responses in another order make a script that answers the same.
Completions report a syntax error just if the verdict is one, and with the same message. -/
theorem script_answers (responses : List Response) (fallback : ScriptedVerdict) :
    ((∃ script, ofResponses responses fallback = .ok script) ↔
        responses.Pairwise fun r r' => r.text ≠ r'.text) ∧
      (∀ d, ofResponses responses fallback = .error d ↔
        ∃ front r back, responses = front ++ r :: back ∧ d.text = r.text ∧
          (∃ f ∈ front, f.text = r.text) ∧ front.Pairwise fun f f' => f.text ≠ f'.text) ∧
      ∀ script, ofResponses responses fallback = .ok script →
        (∀ r ∈ responses, script.Answers r.text r.verdict r.candidates r.token) ∧
          (∀ text, (∀ r ∈ responses, r.text ≠ text) → script.Answers text fallback [] none) ∧
          (∀ responses', responses.Perm responses' →
            ∃ script', ofResponses responses' fallback = .ok script' ∧
              script'.oracle = script.oracle) ∧
          ∀ text cursor message,
            (∃ p, script.oracle.propose text cursor = .ok p ∧ p.syntaxError = some message) ↔
              ∃ failure, script.oracle.validate text = .ok (.syntaxError message failure) := by
  have hdistinct : ∀ rs : List Response,
      (rs.map (·.text)).Nodup ↔ rs.Pairwise fun r r' => r.text ≠ r'.text := fun rs =>
    List.pairwise_map
  refine ⟨?_, fun d => ?_, fun script h => ?_⟩
  · simp only [ofResponses_eq_ok_iff, exists_and_left, exists_eq, and_true, hdistinct]
  · simp only [ofResponses_eq_error_iff, hdistinct, List.mem_map]
  · obtain ⟨hnodup, rfl⟩ := ofResponses_eq_ok_iff.mp h
    refine ⟨fun r hr => ?_, fun text htext => ?_, fun responses' hperm => ?_,
      fun text cursor message => syntaxError_iff⟩
    · exact answers_of_response ((find?_eq_some_iff_of_nodup hnodup).mpr ⟨hr, rfl⟩)
    · exact answers_of_none (List.find?_eq_none.mpr fun r hr => by simpa using htext r hr)
    · exact ⟨_, ofResponses_of_nodup ((hperm.map _).nodup_iff.mp hnodup) fallback,
        (oracle_of_perm hperm hnodup fallback).symm⟩

end

/-- Two responses in the other order, and a third one to the first text. -/
theorem script_answers_reversed :
    let first : Response := { text := "a", verdict := .syntaxError "x" none }
    let second : Response := { text := "A", verdict := .malformedValue "y" }
    let third : Response := { text := "a", verdict := .success }
    [first, second].Perm [second, first] ∧
      (∃ script script', ofResponses [first, second] .success = .ok script ∧
        ofResponses [second, first] .success = .ok script' ∧ script'.oracle = script.oracle ∧
        script'.Answers "a" first.verdict [] none ∧ script'.Answers "b" .success [] none) ∧
      ofResponses [first, second, third, second] .success = .error { text := "a" } := by
  intro first second third
  have hperm : [first, second].Perm [second, first] := .swap ..
  obtain ⟨hmade, -, hanswers⟩ := script_answers [first, second] .success
  obtain ⟨script, hscript⟩ := hmade.mpr (by decide)
  obtain ⟨-, -, hreversed, -⟩ := hanswers script hscript
  obtain ⟨script', hscript', horacle⟩ := hreversed _ hperm
  obtain ⟨hown, hother, -, -⟩ := (script_answers [second, first] .success).2.2 script' hscript'
  obtain ⟨-, hrefused, -⟩ := script_answers [first, second, third, second] .success
  refine ⟨hperm, ⟨script, script', hscript, hscript', horacle, ?_, ?_⟩, ?_⟩
  · exact hown first (by decide)
  · exact hother "b" (by decide)
  · exact (hrefused _).mpr ⟨[first, second], third, [second], rfl, rfl, by decide, by decide⟩

end Script
end FilterEditor
