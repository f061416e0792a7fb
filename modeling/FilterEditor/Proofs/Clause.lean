import FilterEditor.Proofs.Display

/-!
# Proofs — Clause

What a syntax error says is what a semantic error with the same message says, and after that what was
expected (`clause_appended`).

The clause is tidied with the rest of the message, and so it is what it was just if it was in display
form.  That is up to the tokens (`isDisplayed_expectationClause`): the literals of RSQL and the names
of a device's fields are in display form, and none of them is empty (`isDisplayed_of_mem_default`).
-/

namespace FilterEditor
open Text

/-! ### The clause in display form -/

theorem toList_clause (tokens : List String) :
    ("Was expecting: " ++ ", ".intercalate tokens).toList = expectationClause tokens := by
  simp [expectationClause, expectationMark]

/-- Texts in display form, with commas between them. -/
theorem IsDisplayed.listed {ts : List (List Char)} (hne : ts ≠ [])
    (h : ∀ t ∈ ts, t ≠ [] ∧ IsDisplayed t) :
    List.intercalate [',', ' '] ts ≠ [] ∧ IsDisplayed (List.intercalate [',', ' '] ts) := by
  induction ts with
  | nil => exact absurd rfl hne
  | cons t ts ih =>
      obtain ⟨⟨ht, hdisplayed⟩, hts⟩ := List.forall_mem_cons.mp h
      cases ts with
      | nil => simpa using ⟨ht, hdisplayed⟩
      | cons u us =>
          obtain ⟨hrest, hdisplayed'⟩ := ih (List.cons_ne_nil u us) hts
          have hcomma : IsDisplayed (t ++ [',']) := hdisplayed.append (by decide)
          have hcut : List.intercalate [',', ' '] (t :: u :: us) =
              (t ++ [',']) ++ ' ' :: List.intercalate [',', ' '] (u :: us) := by
            simp [List.intercalate_cons_cons]
          rw [hcut]
          exact ⟨by simp, hcomma.appendSpace hdisplayed' (by simp) hrest⟩

theorem isDisplayed_expectationClause {tokens : List String} (hne : tokens ≠ [])
    (h : ∀ t ∈ tokens, t ≠ "" ∧ IsDisplayed t.toList) :
    IsDisplayed (expectationClause tokens) := by
  have hlisted : ∀ t ∈ tokens.map String.toList, t ≠ [] ∧ IsDisplayed t := by
    simpa using h
  obtain ⟨hrest, hdisplayed⟩ := IsDisplayed.listed (by simpa using hne) hlisted
  have hmark : IsDisplayed "Was expecting:".toList := by decide
  have hclause : expectationClause tokens = "Was expecting:".toList ++ ' ' ::
      List.intercalate [',', ' '] (tokens.map String.toList) := rfl
  rw [hclause]
  exact hmark.appendSpace hdisplayed (by decide) hrest

/-! ### The tokens in display form -/

namespace Formatter

/-- An expected token is the name of a field, one of the compounds, or a literal of the table. -/
theorem mem_of_mem_expectedTokens {f : Formatter} {ids : List Terminal} {t : String}
    (h : t ∈ f.expectedTokens ids) :
    t ∈ f.schema.names.map lowercase ++ compoundSelectors ∨ t ∈ f.tokens.literals := by
  unfold expectedTokens at h
  split at h
  · exact .inl (List.mem_eraseDups.mp h)
  · obtain ⟨id, -, hid⟩ := List.mem_filterMap.mp (List.mem_eraseDups.mp h)
    exact .inr (List.mem_of_getElem? hid)

/-- The literals of RSQL and the names of a device's fields are in display form. -/
theorem isDisplayed_of_mem_default {ids : List Terminal} {t : String}
    (h : t ∈ ({} : Formatter).expectedTokens ids) : t ≠ "" ∧ IsDisplayed t.toList := by
  have hliterals : ∀ t ∈ TokenTable.rsql.literals, t ≠ "" ∧ IsDisplayed t.toList := by
    decide +kernel
  have hcompounds : ∀ t ∈ compoundSelectors, t ≠ "" ∧ IsDisplayed t.toList := by decide
  have hnames : ∀ name ∈ Schema.device.names,
      lowercase name ≠ "" ∧ IsDisplayed (lowercase name).toList := by
    intro name hname
    obtain ⟨f, hf, rfl⟩ := Schema.mem_names_ofFields.mp hname
    clear hname
    revert f
    simp (disch := decide) only [List.mem_cons, List.not_mem_nil, false_imp_iff, implies_true,
      and_true, forall_eq_or_imp, Field.plain, Field.map, Field.reference, lowercase_eq_self]
    decide +kernel
  rcases mem_of_mem_expectedTokens h with h | h
  · rcases List.mem_append.mp h with h | h
    · obtain ⟨name, hname, rfl⟩ := List.mem_map.mp h
      exact hnames name hname
    · exact hcompounds t h
  · exact hliterals t h

/-! ### The clause in a message -/

/-- **The clause is appended.**  With nothing expected, a syntax error says what a semantic error
does.  Otherwise the clause follows, tidied, after a space if there is anything before it.  It is as it
was if its tokens are in display form and none of them is empty, which holds of the tokens of RSQL and
the fields of a device. -/
theorem clause_appended (f : Formatter) (raw : String) (ids : List Terminal) :
    let tokens := f.expectedTokens ids
    let said := (semanticError raw).message
    let clause := "Was expecting: " ++ ", ".intercalate tokens
    let tidied := String.ofList (tidy clause.toList)
    let d := f.syntaxError raw ids
    (tokens = [] → d.message = said) ∧
      (tokens ≠ [] → d.message = if said = "" then tidied else said ++ " " ++ tidied) ∧
      d.expected = tokens ∧
      (tokens ≠ [] → (∀ t ∈ tokens, t ≠ "" ∧ IsDisplayed t.toList) →
        ∃ front, d.message = front ++ clause) ∧
      ∀ t ∈ ({} : Formatter).expectedTokens ids, t ≠ "" ∧ IsDisplayed t.toList := by
  intro tokens said clause tidied d
  have hclause : clause.toList = expectationClause tokens := toList_clause tokens
  have hmessage : d.message.toList = if tokens = [] then said.toList
      else spaced said.toList tidied.toList := by
    rw [message_syntaxError, String.toList_ofList, hclause]
  refine ⟨fun hnone => ?_, fun hsome => ?_, rfl, fun hsome hplain => ?_,
    fun t => isDisplayed_of_mem_default⟩
  · rw [if_pos hnone] at hmessage
    exact String.toList_injective hmessage
  · rw [if_neg hsome] at hmessage
    apply String.toList_injective
    rw [hmessage]
    split
    · simp [*]
    · have hsaid : said.toList ≠ [] := by simpa
      have htidied : tidied.toList ≠ [] := by
        rw [String.toList_ofList, hclause]
        exact tidy_expectationClause_ne_nil tokens
      simp [spaced_of_ne_nil hsaid htidied]
  · have hintact : tidied.toList = clause.toList := by
      rw [String.toList_ofList, hclause]
      exact (isDisplayed_expectationClause hsome hplain).tidy_eq
    obtain ⟨front, hfront⟩ := suffix_spaced said.toList clause.toList
    refine ⟨String.ofList front, String.toList_injective ?_⟩
    rw [hmessage, if_neg hsome, hintact, ← hfront]
    simp

/-- Where only brackets are left of a message, the clause stands alone. -/
theorem clause_appended_bracketed :
    let f : Formatter := {}
    let d := f.syntaxError "Error: <> " [12, 0, 13]
    f.expectedTokens [12, 0, 13] = ["(", ")"] ∧ (semanticError "Error: <> ").message = "" ∧
      (∀ t ∈ ["(", ")"], t ≠ "" ∧ IsDisplayed t.toList) ∧
      d.message = String.ofList (tidy ("Was expecting: " ++ ", ".intercalate ["(", ")"]).toList) ∧
      ∃ front, d.message = front ++ ("Was expecting: " ++ ", ".intercalate ["(", ")"]) := by
  intro f d
  have htokens : f.expectedTokens [12, 0, 13] = ["(", ")"] := by decide +kernel
  have hsaid : (semanticError "Error: <> ").message = "" := by decide +kernel
  obtain ⟨-, hmessage, -, hends, hplain⟩ := clause_appended f "Error: <> " [12, 0, 13]
  have hdisplayed := htokens ▸ hplain
  rw [htokens] at hmessage hends
  rw [if_pos hsaid] at hmessage
  exact ⟨htokens, hsaid, hdisplayed, hmessage (by simp), hends (by simp) hdisplayed⟩

end Formatter
end FilterEditor
