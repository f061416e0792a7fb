import FilterEditor.Proofs.Comparisons

/-!
# Proofs — Acceptance

What becomes of a query when an operator is accepted (`acceptance_settles`).

An operator is put after a front of the query and reaches past its end, so that it takes the place
of all the rest (`applied_append`).  For the logical operators the front is the whole query, and for
comparisons all but its sign.  Whatever the front, nothing is offered after an operator: it does not
end in a space, and not in a dot, a word and a sign (`Completion.closes`).  Both kinds of operators
are thus cases of one lemma (`settles_of_operatorsAt`).
-/

namespace FilterEditor
open Text

/-- The query with the text of the candidate in place of its range, as far as the query goes. -/
def Candidate.applied (c : Candidate) (query : String) : String :=
  String.ofList (query.toList.take (min c.start query.length)) ++ c.text ++
    String.ofList (query.toList.drop (min c.stop query.length))

namespace Completion

/-- No operator is offered after the text, whatever stands in front of it: it does not end in a
space, and not in a dot, a word and a sign. -/
def closes (text : String) : Bool :=
  match text.toList.reverse with
  | [] => false
  | last :: back =>
      last != ' ' && (!isSign last || (back.dropWhile isWordChar).head?.any (· != '.'))

/-- No operator is offered after the query. -/
def OffersNothing (query : String) : Prop :=
  logical query = .ok [] ∧ ∀ schema, comparison schema query = .ok []

/-! ### After an operator -/

section
variable {text : String}

theorem closes_of_mem {op : String} (h : op ∈ logicalOperators ++ comparisonOperators) :
    closes op := by
  revert op
  decide

theorem comparison_of_none {query : String} (h : comparedMap? query = none) (schema : Schema) :
    comparison schema query = .ok [] := by
  rw [comparison, h]

theorem logical_of_ne {query : String} (h : query.toList.getLast? ≠ some ' ') :
    logical query = .ok [] :=
  if_neg h

/-- Such a text does not end in a space.  If it ends in a sign, no dot stands before its last word.
-/
theorem exists_of_closes (h : closes text) :
    ∃ last back, text.toList.reverse = last :: back ∧ last ≠ ' ' ∧
      (isSign last → ∃ c cs, back.dropWhile isWordChar = c :: cs ∧ c ≠ '.') := by
  unfold closes at h
  split at h
  · cases h
  next last back htext =>
    simp only [Bool.and_eq_true, Bool.or_eq_true, Bool.not_eq_true', bne_iff_ne,
      Option.any_eq_true] at h
    obtain ⟨hspace, hend⟩ := h
    refine ⟨last, back, htext, hspace, fun hsign => ?_⟩
    obtain ⟨c, hc, hdot⟩ := hend.resolve_left (by simp [hsign])
    obtain ⟨cs, hcs⟩ := List.head?_eq_some_iff.mp hc
    exact ⟨c, cs, hcs, hdot⟩

/-- After such a text no operator is offered, whatever stands in front of it. -/
theorem offersNothing_append (front : String) (h : closes text) :
    OffersNothing (front ++ text) := by
  obtain ⟨last, back, htext, hspace, hend⟩ := exists_of_closes h
  have hreverse : (front ++ text).toList.reverse = last :: (back ++ front.toList.reverse) := by
    rw [String.toList_append, List.reverse_append, htext, List.cons_append]
  constructor
  · refine logical_of_ne ?_
    rw [← List.head?_reverse, hreverse]
    simpa using hspace
  · refine comparison_of_none (Option.eq_none_iff_forall_ne_some.mpr fun map hmap => ?_)
    obtain ⟨q, hq, -⟩ := comparedMap?_eq_some_iff.mp hmap
    have hkeyed := q.reverse_text
    rw [hq, hreverse, List.cons.injEq] at hkeyed
    obtain ⟨rfl, hkeyed⟩ := hkeyed
    -- The key is the last word, and here no dot stands in front of that.
    obtain ⟨c, cs, hrest, hdot⟩ := hend (isSign_iff.mpr q.sign_eq)
    have hdrop := congrArg (List.dropWhile isWordChar) hkeyed
    rw [List.dropWhile_append, hrest, dropWhile_word q.reverse_key KeyedQuery.head_dot] at hdrop
    exact hdot (List.cons.inj hdrop).1

end
end Completion

/-! ### Accepting an operator -/

/-- To accept the candidate is to put its text after the front, in place of the rest of the query.
Its range starts within the query and ends at an offset, and no operator is offered afterwards. -/
structure Candidate.Settles (c : Candidate) (query front : String) : Prop where
  applied_eq : c.applied query = front ++ c.text
  start_le : c.start ≤ query.length
  stop_eq : c.stop = c.start + c.text.utf8ByteSize
  stop_lt : c.stop < offsetLimit
  offersNothing : Completion.OffersNothing (c.applied query)

/-- A candidate that starts after a front and reaches past the end takes the place of all the rest.
-/
theorem Candidate.applied_append {c : Candidate} {front back : String}
    (hstart : c.start = front.length) (hstop : (front ++ back).length ≤ c.stop) :
    c.applied (front ++ back) = front ++ c.text := by
  have hfront : min c.start (front ++ back).length = front.toList.length := by
    simp [hstart, String.length_toList]
  have hback : min c.stop (front ++ back).length = (front ++ back).toList.length := by
    rw [Nat.min_eq_right hstop, String.length_toList]
  rw [applied, hfront, hback, List.drop_length, String.toList_append, List.take_left]
  simp

namespace Completion

/-- An operator has a character at least, and all of them are of ASCII. -/
theorem length_of_mem {op : String} (h : op ∈ logicalOperators ++ comparisonOperators) :
    1 ≤ op.length ∧ op.utf8ByteSize = op.length := by
  revert op
  decide

theorem texts_of_operatorsAt {start : Nat} {operators : List String} {candidates : List Candidate}
    (h : operatorsAt start operators = .ok candidates) : candidates.map (·.text) = operators := by
  obtain ⟨-, rfl⟩ := operatorsAt_eq_ok_iff.mp h
  rw [List.map_map]
  exact List.map_id _

/-- Whatever the front, an operator settles the query that goes on with at most one character. -/
theorem settles_of_operatorsAt {operators : List String} {front : String}
    {candidates : List Candidate} (h : operatorsAt front.length operators = .ok candidates)
    (hoperators : operators ⊆ logicalOperators ++ comparisonOperators) (back : String)
    (hback : back.length ≤ 1) :
    ∀ c ∈ candidates, c.text ∈ operators ∧ c.Settles (front ++ back) front := by
  obtain ⟨hlimit, rfl⟩ := operatorsAt_eq_ok_iff.mp h
  intro c hc
  obtain ⟨op, hop, rfl⟩ := List.mem_map.mp hc
  obtain ⟨hpos, hascii⟩ := length_of_mem (hoperators hop)
  have happlied : ({ start := front.length, stop := front.length + op.length, text := op } :
      Candidate).applied (front ++ back) = front ++ op := by
    refine Candidate.applied_append rfl ?_
    rw [String.length_append]
    exact Nat.add_le_add_left (hback.trans hpos) _
  refine ⟨hop, happlied, ?_, ?_, hlimit op hop, ?_⟩
  · rw [String.length_append]
    exact Nat.le_add_right ..
  · rw [hascii]
  · rw [happlied]
    exact offersNothing_append front (closes_of_mem (hoperators hop))

end Completion

namespace KeyedQuery

/-- The query without its sign. -/
def unsigned (q : KeyedQuery) : String :=
  q.front ++ q.map ++ "." ++ q.key

theorem length_text (q : KeyedQuery) : q.text.length = q.unsigned.length + 1 := by
  simp [text, unsigned]

end KeyedQuery

/-- **What an accepted operator comes to.**  For every query with room for an operator there is no
fault, and a query that comparisons fit has a last character to replace.  After a query that ends in
a space all the logical operators are offered, and each of them is put at its end.  Where
comparisons are offered, each of them is put in place of the sign at the end.  After that no
operator is offered. -/
theorem acceptance_settles (schema : Schema) (query : String) :
    (query.length + 6 < offsetLimit →
        (∃ candidates, Completion.logical query = .ok candidates) ∧
          ∃ candidates, Completion.comparison schema query = .ok candidates) ∧
      (∀ map, Completion.comparedMap? query = some map → 1 ≤ query.length) ∧
      (∀ candidates, Completion.logical query = .ok candidates →
        candidates.map (·.text) =
            (if query.toList.getLast? = some ' ' then Completion.logicalOperators else []) ∧
          ∀ c ∈ candidates, query.toList.getLast? = some ' ' ∧
            c.text ∈ Completion.logicalOperators ∧ c.Settles query query) ∧
      ∀ candidates, Completion.comparison schema query = .ok candidates →
        (candidates = [] ∨ candidates.map (·.text) = Completion.comparisonOperators) ∧
          ∀ c ∈ candidates, c.text ∈ Completion.comparisonOperators ∧
            ∃ front sign, (sign = '=' ∨ sign = '!') ∧ query = front ++ String.singleton sign ∧
              c.Settles query front := by
  refine ⟨fun hroom =>
      ⟨Completion.logical_ok (by omega), Completion.comparison_ok schema (by omega)⟩,
    fun map hmap => ?_, fun candidates h => ?_, fun candidates h => ?_⟩
  · obtain ⟨q, rfl, -⟩ := Completion.comparedMap?_eq_some_iff.mp hmap
    rw [q.length_text]
    exact Nat.le_add_left ..
  · rcases Completion.logical_eq_ok h with ⟨hspace, rfl⟩ | ⟨hspace, hoffered⟩
    · simp [hspace]
    · have hsettles := Completion.settles_of_operatorsAt hoffered
        (List.subset_append_left ..) "" (by decide)
      rw [String.append_empty] at hsettles
      rw [if_pos hspace]
      exact ⟨Completion.texts_of_operatorsAt hoffered, fun c hc => ⟨hspace, hsettles c hc⟩⟩
  · rcases Completion.comparison_eq_ok h with ⟨-, rfl⟩ | ⟨⟨map, hmap, -⟩, hoffered⟩
    · exact ⟨.inl rfl, fun c hc => nomatch hc⟩
    · obtain ⟨q, rfl, -⟩ := Completion.comparedMap?_eq_some_iff.mp hmap
      rw [q.length_text, Nat.add_sub_cancel] at hoffered
      have hsettles := Completion.settles_of_operatorsAt hoffered
        (List.subset_append_right ..) (String.singleton q.sign) (by simp)
      refine ⟨.inr (Completion.texts_of_operatorsAt hoffered), fun c hc => ?_⟩
      obtain ⟨htext, hc⟩ := hsettles c hc
      exact ⟨htext, q.unsigned, q.sign, q.sign_eq, rfl, hc⟩

/-- The longest comparison, after letters outside ASCII. -/
theorem acceptance_settles_replaced :
    let schema := Schema.ofFields [.map "Map"]
    let query := "é ß.map.key="
    query.length + 6 < offsetLimit ∧ Completion.comparedMap? query = some "map" ∧
      ∃ candidates, Completion.comparison schema query = .ok candidates ∧
        ∃ c ∈ candidates, c.applied query = "é ß.map.key=out=" ∧
          Completion.OffersNothing "é ß.map.key=out=" := by
  intro schema query
  have hroom : query.length + 6 < offsetLimit := by decide
  have hmap : Completion.comparedMap? query = some "map" := by decide +kernel
  have hout : ∃ candidates, Completion.comparison schema query = .ok candidates ∧
      ⟨11, 16, none, "=out="⟩ ∈ candidates := by
    refine ⟨Completion.comparisonOperators.map fun op => ⟨11, 11 + op.length, none, op⟩, ?_, ?_⟩
    · decide +kernel
    · decide
  obtain ⟨-, -, -, hcomparison⟩ := acceptance_settles schema query
  obtain ⟨candidates, hcandidates, hmem⟩ := hout
  obtain ⟨-, _, _, -, -, hsettles⟩ := (hcomparison candidates hcandidates).2 _ hmem
  have happlied : Candidate.applied ⟨11, 16, none, "=out="⟩ query = "é ß.map.key=out=" := by
    decide +kernel
  exact ⟨hroom, hmap, candidates, hcandidates, _, hmem, happlied,
    happlied ▸ hsettles.offersNothing⟩

end FilterEditor
