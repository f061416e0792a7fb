import FilterEditor.Diagnostic.Formatter

/-!
# Proofs — Unframing

What a parser puts around its message leaves no trace in a diagnostic (`frame_ignored`).

A message in its frame (`framed`) has a prefix up to the first colon before its body, and a mark with
an expectation clause after it.  `unframe` gives back the body, whatever stands in the prefix but a
colon, whatever stands in the clause but a mark, and whatever stands in the body (`unframe_framed`).
The cut is at the last mark because none can start inside another one: its first letter is not among
the others.
-/

namespace FilterEditor
open Text

/-- A message with what a parser puts around its body. -/
def framed (front body tail : String) : String :=
  front ++ ":" ++ body ++ expectationMark ++ tail

section
variable {front body tail : List Char}

/-- What stands after the first colon, if no mark is in it. -/
theorem unframe_prefixed (hfront : ':' ∉ front) (hbody : ¬ expectationMark.toList <:+: body) :
    unframe (front ++ ':' :: body) = body := by
  rw [unframe, splitFirst_append body hfront, beforeLast_eq_none_iff.mpr hbody]
  rfl

/-- The last mark is the one after which there is no other. -/
theorem beforeLast_mark (htail : ¬ expectationMark.toList <:+: tail) :
    beforeLast expectationMark.toList (body ++ (expectationMark.toList ++ tail)) = some body := by
  have hmark : expectationMark.toList = 'W' :: "as expecting".toList := rfl
  rw [hmark] at htail ⊢
  exact beforeLast_append_pattern (by decide) body htail

/-- What stands between the first colon and the last mark. -/
theorem unframe_framed (hfront : ':' ∉ front) (htail : ¬ expectationMark.toList <:+: tail) :
    unframe (front ++ ':' :: (body ++ (expectationMark.toList ++ tail))) = body := by
  rw [unframe, splitFirst_append _ hfront, beforeLast_mark htail]
  rfl

end

section
variable {front front' tail tail' : String}

theorem toList_framed (front body tail : String) :
    (framed front body tail).toList =
      front.toList ++ ':' :: (body.toList ++ (expectationMark.toList ++ tail.toList)) := by
  simp [framed]

/-- **The frame is ignored.**  Two messages with the same body have the same diagnostics, as syntax
errors with any expected terminals and as semantic errors, if their prefixes hold no colon and there
is no mark after the last one of theirs.  If there is no mark in the body either, they are those of
the message without any clause.  What is left of the message is the body, and all of it. -/
theorem frame_ignored (f : Formatter) (ids : List Terminal) (body : String)
    (hfront : ':' ∉ front.toList) (hfront' : ':' ∉ front'.toList)
    (htail : ¬ expectationMark.toList <:+: tail.toList)
    (htail' : ¬ expectationMark.toList <:+: tail'.toList) :
    f.syntaxError (framed front body tail) ids = f.syntaxError (framed front' body tail') ids ∧
      Formatter.semanticError (framed front body tail) =
        Formatter.semanticError (framed front' body tail') ∧
      (¬ expectationMark.toList <:+: body.toList →
        f.syntaxError (framed front body tail) ids = f.syntaxError (front ++ ":" ++ body) ids ∧
          f.syntaxError (framed front' body tail') ids = f.syntaxError (front ++ ":" ++ body) ids ∧
          Formatter.semanticError (framed front body tail) =
            Formatter.semanticError (front ++ ":" ++ body) ∧
          Formatter.semanticError (framed front' body tail') =
            Formatter.semanticError (front ++ ":" ++ body)) ∧
      unframe (framed front body tail).toList = body.toList := by
  have hleft : unframe (framed front body tail).toList = body.toList := by
    rw [toList_framed, unframe_framed hfront htail]
  have hright : unframe (framed front' body tail').toList = body.toList := by
    rw [toList_framed, unframe_framed hfront' htail']
  refine ⟨?_, ?_, fun hbody => ?_, hleft⟩
  · simp only [Formatter.syntaxError, hleft, hright]
  · simp only [Formatter.semanticError, hleft, hright]
  · have hbare : unframe (front ++ ":" ++ body).toList = body.toList := by
      rw [← unframe_prefixed hfront hbody]
      simp
    simp only [Formatter.syntaxError, Formatter.semanticError, hleft, hright, hbare, and_self]

end

/-- Neither a mark in the prefix, nor colons, brackets and broken marks in the clause make any
difference, nor that the body ends in the middle of a mark. -/
theorem frame_ignored_broken :
    let f : Formatter := {}
    let body := " <a>: Was expecting b Was expec"
    f.syntaxError (framed "Was expecting" body ":\n Was expectin") [7, 12] =
        f.syntaxError (framed "" body "") [7, 12] ∧
      unframe (framed "Was expecting" body ":\n Was expectin").toList = body.toList := by
  obtain ⟨hsame, -, -, hbody⟩ :=
    @frame_ignored "Was expecting" "" ":\n Was expectin" "" {} [7, 12]
      " <a>: Was expecting b Was expec" (by decide) (by decide) (by decide +kernel)
      (by decide +kernel)
  exact ⟨hsame, hbody⟩

end FilterEditor
