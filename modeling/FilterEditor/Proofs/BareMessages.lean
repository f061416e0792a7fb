import FilterEditor.Proofs.Display
import FilterEditor.Proofs.Unframing

/-!
# Proofs — Bare messages

A bare message has no prefix: it starts with its body, in which there is no colon.  If a clause of the
parser's own follows, it is removed and the body is kept, as long as there is no colon in the clause
either (`unframe_bare`).  If there is one, it ends a prefix: the body goes, and of the clause that part
is kept which stands after the colon (`unframe_bare_colon`).

`bare_clause_removed_iff` says what follows for diagnostics: the clause of a bare message makes no
difference just if what stands in it after the first colon, if there is one, is tidied to what the body
is.  The clauses that parsers write are not of that kind (`bare_clause_kept`).
-/

namespace FilterEditor
open Text

section
variable {body front tail rest : List Char}

/-- A body without a mark or a colon is all there is. -/
theorem unframe_of_not_mem (hbody : ':' ∉ body) (hmark : ¬ expectationMark.toList <:+: body) :
    unframe body = body := by
  rw [unframe, splitFirst_eq_none_iff.mpr hbody]
  simp [beforeLast_eq_none_iff.mpr hmark]

/-- What stands before the mark, if there is no colon at all. -/
theorem unframe_bare (hbody : ':' ∉ body) (hcolon : ':' ∉ tail)
    (htail : ¬ expectationMark.toList <:+: tail) :
    unframe (body ++ (expectationMark.toList ++ tail)) = body := by
  have hmark : ':' ∉ expectationMark.toList := by decide
  have hnone : ':' ∉ body ++ (expectationMark.toList ++ tail) := by
    simp only [List.mem_append, hbody, hmark, hcolon, or_self, not_false_iff]
  rw [unframe, splitFirst_eq_none_iff.mpr hnone]
  simp [beforeLast_mark htail]

/-- What stands after the first colon, if that is in the clause. -/
theorem unframe_bare_colon (hbody : ':' ∉ body) (hfront : ':' ∉ front)
    (htail : ¬ expectationMark.toList <:+: front ++ ':' :: rest) :
    unframe (body ++ (expectationMark.toList ++ (front ++ ':' :: rest))) = rest := by
  have hmark : ':' ∉ expectationMark.toList := by decide
  have hprefix : ':' ∉ body ++ (expectationMark.toList ++ front) := by
    simp only [List.mem_append, hbody, hmark, hfront, or_self, not_false_iff]
  have hrest : ¬ expectationMark.toList <:+: rest := fun h =>
    htail ((h.trans (List.suffix_cons ':' rest).isInfix).trans (List.suffix_append ..).isInfix)
  simpa using unframe_prefixed hprefix hrest

end

namespace Formatter
variable {f : Formatter} {ids : List Terminal} {raw raw' : String}

theorem semanticError_eq_iff :
    semanticError raw = semanticError raw' ↔
      tidy (unframe raw.toList) = tidy (unframe raw'.toList) := by
  simp [semanticError, String.ofList_inj]

theorem syntaxError_eq_iff :
    f.syntaxError raw ids = f.syntaxError raw' ids ↔
      tidy (unframe raw.toList) = tidy (unframe raw'.toList) := by
  have hparts : f.syntaxError raw ids = f.syntaxError raw' ids ↔
      (f.syntaxError raw ids).message = (f.syntaxError raw' ids).message := by
    simp only [syntaxError, Diagnostic.mk.injEq, true_and, and_true]
  rw [hparts, ← String.toList_inj, message_syntaxError, message_syntaxError,
    message_semanticError, message_semanticError]
  split
  · rfl
  · exact spaced_left_inj (tidy_expectationClause_ne_nil _)

/-- **The clause of a bare message.**  If there is no colon in it, it makes no difference.  If there is
one, what stands after the first is all that is left, and the clause makes no difference just if that
is tidied to what the body is. -/
theorem bare_clause_removed_iff (f : Formatter) (ids : List Terminal) {body tail : String}
    (hbody : ':' ∉ body.toList) (hmark : ¬ expectationMark.toList <:+: body.toList)
    (htail : ¬ expectationMark.toList <:+: tail.toList) :
    let raw := body ++ expectationMark ++ tail
    (':' ∉ tail.toList → f.syntaxError raw ids = f.syntaxError body ids ∧
        semanticError raw = semanticError body) ∧
      ∀ front rest, tail = front ++ ":" ++ rest → ':' ∉ front.toList →
        unframe raw.toList = rest.toList ∧
          (f.syntaxError raw ids = f.syntaxError body ids ↔
            tidy rest.toList = tidy body.toList) ∧
          (semanticError raw = semanticError body ↔ tidy rest.toList = tidy body.toList) := by
  intro raw
  have hraw : raw.toList = body.toList ++ (expectationMark.toList ++ tail.toList) := by
    simp [raw]
  have hbare : unframe body.toList = body.toList := unframe_of_not_mem hbody hmark
  rw [syntaxError_eq_iff, semanticError_eq_iff, hraw, hbare]
  refine ⟨fun hcolon => ?_, fun front rest hcut hfront => ?_⟩
  · rw [unframe_bare hbody hcolon htail]
    exact ⟨rfl, rfl⟩
  · have hchars : tail.toList = front.toList ++ ':' :: rest.toList := by
      simp [hcut]
    rw [hchars] at htail ⊢
    rw [unframe_bare_colon hbody hfront htail]
    exact ⟨rfl, Iff.rfl, Iff.rfl⟩

/-- Without a colon the clause goes.  With one, as parsers write it, the body goes. -/
theorem bare_clause_removed_iff_listed :
    let f : Formatter := {}
    let body := "Unexpected end of query "
    f.syntaxError (body ++ expectationMark ++ " <EOF> or (") [12] = f.syntaxError body [12] ∧
      unframe (body ++ expectationMark ++ " one of: (").toList = " (".toList ∧
      semanticError (body ++ expectationMark ++ " one of: (") ≠ semanticError body := by
  intro f body
  obtain ⟨hnone, -⟩ := @bare_clause_removed_iff f [12] body " <EOF> or (" (by decide)
    (by decide +kernel) (by decide +kernel)
  obtain ⟨-, hcolon⟩ := @bare_clause_removed_iff f [12] body " one of: (" (by decide)
    (by decide +kernel) (by decide +kernel)
  obtain ⟨hleft, -, hsemantic⟩ := hcolon " one of" " (" (by decide) (by decide)
  exact ⟨(hnone (by decide)).1, hleft, hsemantic.not.mpr (by decide)⟩

/-- Of a parser's own clause after a bare body the list of tokens is kept, and the body is not. -/
theorem bare_clause_kept :
    let f : Formatter := {}
    let body := "Unexpected end of query "
    let tail := " one of: \"(\""
    (':' ∉ body.toList ∧ ¬ expectationMark.toList <:+: body.toList ∧
        ¬ expectationMark.toList <:+: tail.toList) ∧
      (f.syntaxError (body ++ expectationMark ++ tail) [12]).message = "\"(\" Was expecting: (" ∧
      f.syntaxError (body ++ expectationMark ++ tail) [12] ≠ f.syntaxError body [12] ∧
      semanticError (body ++ expectationMark ++ tail) ≠ semanticError body := by
  decide +kernel

end Formatter
end FilterEditor
