import FilterEditor.Draft
import Mathlib.Data.List.TakeWhile

/-!
# Proofs — Gating

What is open to the user, said of a draft's parts: `Draft.gating_search` and `Draft.gating_save`.
A filter has a name if some character of it is not blank (`Draft.isNamed_iff`), and it has changed
unless it was opened from a filter of the same name and query (`Draft.isChanged_iff`).
-/

namespace FilterEditor

/-- Trimming takes everything away just if everything is blank. -/
theorem Text.trim_eq_nil {cs : List Char} : trim cs = [] ↔ ∀ c ∈ cs, isBlank c := by
  rw [trim, trimStart, trimStart, List.reverse_eq_nil_iff, List.dropWhile_eq_nil_iff]
  simp only [List.mem_reverse]
  constructor
  · intro h c hc
    rw [← List.takeWhile_append_dropWhile (p := isBlank) (l := cs), List.mem_append] at hc
    rcases hc with hc | hc
    · exact List.mem_takeWhile_imp hc
    · exact h c hc
  · intro h c hc
    exact h c ((List.dropWhile_suffix _).subset hc)

namespace Draft
open Text
variable {d : Draft}

theorem isNamed_iff : d.isNamed ↔ ∃ c ∈ d.name.toList, isBlank c = false := by
  rw [isNamed, Bool.not_eq_true', List.isEmpty_eq_false_iff, ne_eq, trim_eq_nil]
  simp

theorem isChanged_iff : d.isChanged ↔ d.saved ≠ some ⟨d.name, d.text⟩ := by
  unfold isChanged
  cases d.saved with
  | none => simp
  | some filter =>
      obtain ⟨name, query⟩ := filter
      simp only [Option.all_some, Bool.or_eq_true, bne_iff_ne, ne_eq, Option.some.injEq,
        SavedFilter.mk.injEq, not_and_or]

/-- **To search** takes a valid query that is not empty. -/
theorem gating_search : d.gating.search ↔ d.validity = .valid ∧ d.text ≠ "" := by
  simp [gating]

/-- **To save** takes permission, a name and a change besides. -/
theorem gating_save :
    d.gating.save ↔ (d.validity = .valid ∧ d.text ≠ "") ∧ d.maySave ∧
      (∃ c ∈ d.name.toList, isBlank c = false) ∧ d.saved ≠ some ⟨d.name, d.text⟩ := by
  rw [← isNamed_iff, ← isChanged_iff]
  simp [gating, and_assoc]

/-- Nothing is open to the user unless the query is valid. -/
theorem valid_of_gating (h : d.gating.search ∨ d.gating.save) : d.validity = .valid :=
  h.elim (fun hsearch => (gating_search.mp hsearch).1) fun hsave => (gating_save.mp hsave).1.1

end Draft
end FilterEditor
