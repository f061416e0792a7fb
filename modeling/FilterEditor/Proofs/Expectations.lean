import FilterEditor.Diagnostic.Formatter
import FilterEditor.Proofs.FirstOccurrence

/-!
# Proofs — Expectations

The readable names of expected terminals (`tokens_rendered`).

A grammar waits for a selector if it reports the selector pair and nothing else
(`TokenTable.AwaitsSelector`); then the names are those of the fields, followed by the compounds.
Otherwise each terminal stands for its literal, if it has one and is not the end of the input
(`TokenTable.shown?`).  Either way they are in order of first occurrence (`FirstsOf`).

Terminals that are not shown can be put in anywhere (`TokenTable.Padded`), provided that some terminal
is not of the pair: a list of the pair alone ceases to be one with any other terminal in it.
-/

namespace FilterEditor
open Text

namespace TokenTable
variable {table : TokenTable} {ids ids' : List Terminal}

/-- The terminals are the two of the selector pair and no others. -/
def AwaitsSelector (table : TokenTable) (ids : List Terminal) : Prop :=
  ∀ t, t ∈ ids ↔ t = table.selectorPair.1 ∨ t = table.selectorPair.2

/-- The literal that is shown for a terminal, if there is one. -/
def shown? (table : TokenTable) (t : Terminal) : Option String :=
  if t = table.endOfInput then none else table.literal? t

/-- The second list is the first with terminals put in anywhere that are not shown. -/
inductive Padded (table : TokenTable) : List Terminal → List Terminal → Prop where
  | nil : Padded table [] []
  | keep (t : Terminal) {ids ids' : List Terminal} (h : Padded table ids ids') :
      Padded table (t :: ids) (t :: ids')
  | insert {t : Terminal} {ids ids' : List Terminal}
      (ht : t = table.endOfInput ∨ table.literal? t = none) (h : Padded table ids ids') :
      Padded table ids (t :: ids')

theorem isSelectorPair_iff (hpair : table.selectorPair.1 ≠ table.selectorPair.2) :
    table.isSelectorPair ids ↔ table.AwaitsSelector ids := by
  have hnodup : [table.selectorPair.1, table.selectorPair.2].Nodup := by simpa using hpair
  simp only [isSelectorPair, Bool.and_eq_true, beq_iff_eq, List.contains_iff_mem]
  constructor
  · rintro ⟨⟨hlength, hfirst⟩, hsecond⟩ t
    have hsub : [table.selectorPair.1, table.selectorPair.2] ⊆ ids.eraseDups := by
      simp [hfirst, hsecond]
    have hperm := (List.subperm_of_subset hnodup hsub).perm_of_length_le (by simp [hlength])
    simpa using (hperm.mem_iff (a := t)).symm
  · intro h
    have hperm : ids.eraseDups.Perm [table.selectorPair.1, table.selectorPair.2] :=
      (List.perm_ext_iff_of_nodup (nodup_eraseDups ids) hnodup).mpr fun t => by simpa using h t
    exact ⟨⟨hperm.length_eq, hperm.mem_iff.mpr (by simp)⟩, hperm.mem_iff.mpr (by simp)⟩

theorem shown?_eq_none {t : Terminal} (ht : t = table.endOfInput ∨ table.literal? t = none) :
    table.shown? t = none := by
  unfold shown?
  split
  · rfl
  · exact ht.resolve_left ‹_›

theorem Padded.filterMap_shown (h : table.Padded ids ids') :
    ids'.filterMap table.shown? = ids.filterMap table.shown? := by
  induction h with
  | nil => rfl
  | keep t _ ih => rw [List.filterMap_cons, List.filterMap_cons, ih]
  | insert ht _ ih => rw [List.filterMap_cons_none (shown?_eq_none ht), ih]

theorem Padded.subset (h : table.Padded ids ids') : ids ⊆ ids' := by
  induction h with
  | nil => exact List.Subset.refl []
  | keep t _ ih => exact List.cons_subset_cons t ih
  | insert _ _ ih => exact List.subset_cons_of_subset _ ih

theorem not_awaitsSelector {t : Terminal} (ht : t ∈ ids)
    (hother : t ≠ table.selectorPair.1 ∧ t ≠ table.selectorPair.2) : ¬ table.AwaitsSelector ids :=
  fun h => ((h t).mp ht).elim hother.1 hother.2

/-- No terminal of RSQL is shown as the end of the input. -/
theorem rsql_shown?_ne (t : Terminal) : rsql.shown? t ≠ some "end of input" := by
  have honly : ∀ n < 16, rsql.literals[n]? = some "end of input" → n = 0 := by decide
  intro h
  unfold shown? literal? at h
  split at h
  · exact nomatch h
  · next hne =>
      obtain ⟨hlt, -⟩ := List.getElem?_eq_some_iff.mp h
      exact hne (UInt16.toNat_inj.mp (honly t.toNat hlt h))

end TokenTable

namespace Formatter
variable {f : Formatter} {ids ids' : List Terminal}

theorem expectedTokens_of_awaits (hpair : f.tokens.selectorPair.1 ≠ f.tokens.selectorPair.2)
    (h : f.tokens.AwaitsSelector ids) :
    f.expectedTokens ids = (f.schema.names.map lowercase ++ compoundSelectors).eraseDups := by
  rw [expectedTokens, if_pos ((TokenTable.isSelectorPair_iff hpair).mpr h)]

theorem expectedTokens_of_not_awaits (hpair : f.tokens.selectorPair.1 ≠ f.tokens.selectorPair.2)
    (h : ¬ f.tokens.AwaitsSelector ids) :
    f.expectedTokens ids = (ids.filterMap f.tokens.shown?).eraseDups := by
  have hshown : (fun t => if t != f.tokens.endOfInput then f.tokens.literal? t else none) =
      f.tokens.shown? := by
    funext t
    by_cases ht : t = f.tokens.endOfInput <;> simp [TokenTable.shown?, ht]
  rw [expectedTokens, if_neg ((TokenTable.isSelectorPair_iff hpair).not.mpr h),
    List.filterMap_filter, hshown]

/-- **Expected terminals are rendered** as the fields, when the grammar waits for a selector, and as
their literals otherwise.  So there are no repeats; of the terminals themselves only the first
occurrences matter; terminals that are not shown make no difference among others; and the end of the
input is named only by a field of that name. -/
theorem tokens_rendered (f : Formatter)
    (hpair : f.tokens.selectorPair.1 ≠ f.tokens.selectorPair.2) (ids : List Terminal) :
    let tokens := f.expectedTokens ids
    (f.tokens.AwaitsSelector ids →
        FirstsOf some
          (f.schema.names.map lowercase ++ ["assignedds.name", "assignedds.version"]) tokens) ∧
      (¬ f.tokens.AwaitsSelector ids → FirstsOf f.tokens.shown? ids tokens) ∧
      tokens.Nodup ∧
      (∀ ids', FirstsOf some ids ids' → f.expectedTokens ids' = tokens) ∧
      (∀ ids', f.tokens.Padded ids ids' →
        (∃ t ∈ ids, t ≠ f.tokens.selectorPair.1 ∧ t ≠ f.tokens.selectorPair.2) →
          f.expectedTokens ids' = tokens) ∧
      (f.tokens = .rsql → "end of input" ∈ tokens →
        f.tokens.AwaitsSelector ids ∧ "end of input" ∈ f.schema.names.map lowercase) := by
  intro tokens
  have hawaited : f.tokens.AwaitsSelector ids →
      tokens = (f.schema.names.map lowercase ++ compoundSelectors).eraseDups :=
    expectedTokens_of_awaits hpair
  have hshown : ¬ f.tokens.AwaitsSelector ids →
      tokens = (ids.filterMap f.tokens.shown?).eraseDups :=
    expectedTokens_of_not_awaits hpair
  refine ⟨fun h => ?_, fun h => firstsOf_iff.mpr (hshown h), ?_, fun ids' hfirsts => ?_,
    fun ids' hpadded ⟨t, ht, hother⟩ => ?_, fun hrsql hmem => ?_⟩
  · rw [firstsOf_iff, List.filterMap_some]
    exact hawaited h
  · by_cases h : f.tokens.AwaitsSelector ids
    · rw [hawaited h]
      exact nodup_eraseDups _
    · rw [hshown h]
      exact nodup_eraseDups _
  · have hsame : f.tokens.AwaitsSelector ids' ↔ f.tokens.AwaitsSelector ids :=
      forall_congr' fun t => by simp [hfirsts.mem_iff]
    by_cases h : f.tokens.AwaitsSelector ids
    · rw [expectedTokens_of_awaits hpair (hsame.mpr h), hawaited h]
    · rw [firstsOf_iff, List.filterMap_some] at hfirsts
      rw [expectedTokens_of_not_awaits hpair (hsame.not.mpr h), hshown h, hfirsts,
        eraseDups_filterMap_eraseDups]
  · have h := TokenTable.not_awaitsSelector ht hother
    have h' := TokenTable.not_awaitsSelector (hpadded.subset ht) hother
    rw [expectedTokens_of_not_awaits hpair h', hpadded.filterMap_shown, hshown h]
  · by_cases h : f.tokens.AwaitsSelector ids
    · have hcompound : "end of input" ∉ compoundSelectors := by decide
      rw [hawaited h, List.mem_eraseDups, List.mem_append] at hmem
      exact ⟨h, hmem.resolve_right hcompound⟩
    · rw [hshown h, List.mem_eraseDups, List.mem_filterMap, hrsql] at hmem
      obtain ⟨t, -, ht⟩ := hmem
      exact absurd ht (TokenTable.rsql_shown?_ne t)

/-- Two terminals share a literal here, and a field is given in a capital. -/
def sharedLiterals : Formatter where
  tokens := { literals := ["end", "a", "b", "a"], endOfInput := 0, selectorPair := (1, 2) }
  schema := .ofNames ["B"]

/-- The pair in another order and with a repeat, and the pair among others, known and unknown. -/
theorem tokens_rendered_shared :
    let table := sharedLiterals.tokens
    table.selectorPair.1 ≠ table.selectorPair.2 ∧
      (table.AwaitsSelector [2, 1, 2] ∧ FirstsOf some
        (sharedLiterals.schema.names.map lowercase ++ ["assignedds.name", "assignedds.version"])
        (sharedLiterals.expectedTokens [2, 1, 2])) ∧
      (¬ table.AwaitsSelector [3, 2, 1] ∧
        FirstsOf table.shown? [3, 2, 1] (sharedLiterals.expectedTokens [3, 2, 1])) ∧
      (table.Padded [3, 2, 1] [3, 0, 2, 9, 1] ∧
        sharedLiterals.expectedTokens [3, 0, 2, 9, 1] = sharedLiterals.expectedTokens [3, 2, 1]) := by
  intro table
  have hpair : table.selectorPair.1 ≠ table.selectorPair.2 := by decide
  have hawaits : table.AwaitsSelector [2, 1, 2] := fun t => by
    simp only [table, sharedLiterals, List.mem_cons, List.not_mem_nil]
    tauto
  have hnot : ¬ table.AwaitsSelector [3, 2, 1] :=
    TokenTable.not_awaitsSelector (List.mem_cons_self (a := 3)) (by decide)
  have hpadded : table.Padded [3, 2, 1] [3, 0, 2, 9, 1] :=
    .keep 3 (.insert (.inl rfl) (.keep 2 (.insert (.inr rfl) (.keep 1 .nil))))
  obtain ⟨hnames, -⟩ := tokens_rendered sharedLiterals hpair [2, 1, 2]
  obtain ⟨-, hliterals, -, -, hinserted, -⟩ := tokens_rendered sharedLiterals hpair [3, 2, 1]
  exact ⟨hpair, ⟨hawaits, hnames hawaits⟩, ⟨hnot, hliterals hnot⟩, hpadded,
    hinserted _ hpadded ⟨3, by simp, by decide⟩⟩

end Formatter
end FilterEditor
