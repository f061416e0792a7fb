import FilterEditor.Schema
import FilterEditor.Suggestion

/-!
# Completion — Operator

Operators that fit after a query.  A query that ends in a space can go on with `and` or `or`; one
that ends in `<map>.<key>=` or `<map>.<key>!` can go on with a comparison, which takes the place of
the final sign.  The map and the key are maximal runs of ASCII word characters around the last dot.
-/

namespace FilterEditor.Completion
open Text

/-- What joins two expressions. -/
def logicalOperators : List String := ["and", "or"]

/-- What compares a field with a value. -/
def comparisonOperators : List String :=
  ["==", "!=", "=ge=", "=le=", "=gt=", "=lt=", "=in=", "=out="]

/-- One candidate for each operator, put where `start` is. -/
def operatorsAt (start : Nat) (operators : List String) : Except Fault (List Candidate) :=
  operators.mapM fun op => do
    return { start, stop := ← addOffset start op.length, text := op }

/-- Logical operators after a query that ends in a space. -/
def logical (query : String) : Except Fault (List Candidate) :=
  if query.toList.getLast? = some ' ' then operatorsAt query.length logicalOperators
  else .ok []

/-- A sign that a comparison starts with. -/
def isSign (c : Char) : Bool :=
  c == '=' || c == '!'

/-- The map of a query that ends in `<map>.<key>` and a sign, where map and key are words.  The
text is read backwards: sign, key, dot, map. -/
def comparedMap? (query : String) : Option String :=
  match query.toList.reverse with
  | [] => none
  | sign :: back =>
      let key := back.takeWhile isWordChar
      match back.dropWhile isWordChar with
      | '.' :: front =>
          let map := front.takeWhile isWordChar
          if isSign sign && !key.isEmpty && !map.isEmpty then some (String.ofList map.reverse)
          else none
      | _ => none

/-- Comparisons after a key of a map and the sign that starts one. -/
def comparison (schema : Schema) (query : String) : Except Fault (List Candidate) :=
  match comparedMap? query with
  | some map =>
      if schema.isMap map then operatorsAt (query.length - 1) comparisonOperators else .ok []
  | none => .ok []

/-- Every operator has its candidate, if the place of each is found. -/
theorem operatorsAt_of_lt {start : Nat} {operators : List String}
    (h : ∀ op ∈ operators, start + op.length < offsetLimit) :
    operatorsAt start operators =
      .ok (operators.map fun op => { start, stop := start + op.length, text := op }) := by
  unfold operatorsAt
  induction operators with
  | nil => rfl
  | cons op ops ih =>
      obtain ⟨hop, hops⟩ := List.forall_mem_cons.mp h
      rw [List.mapM_cons, addOffset_of_lt hop, ih hops]
      rfl

/-- There are candidates only if the place of each is found. -/
theorem lt_of_operatorsAt {start : Nat} {operators : List String} {candidates : List Candidate}
    (h : operatorsAt start operators = .ok candidates) :
    ∀ op ∈ operators, start + op.length < offsetLimit := by
  unfold operatorsAt at h
  induction operators generalizing candidates with
  | nil => exact fun _ hop => nomatch hop
  | cons op ops ih =>
      rw [List.mapM_cons] at h
      rcases Nat.lt_or_ge (start + op.length) offsetLimit with hop | hop
      · rw [addOffset_of_lt hop] at h
        cases hrest : ops.mapM fun op => do
            return ({ start, stop := ← addOffset start op.length, text := op } : Candidate) with
        | ok rest => exact List.forall_mem_cons.mpr ⟨hop, ih hrest⟩
        | error fault =>
            rw [hrest] at h
            cases h
      · rw [addOffset_of_le hop] at h
        cases h

theorem operatorsAt_eq_ok_iff {start : Nat} {operators : List String}
    {candidates : List Candidate} :
    operatorsAt start operators = .ok candidates ↔
      (∀ op ∈ operators, start + op.length < offsetLimit) ∧
        candidates = operators.map fun op => { start, stop := start + op.length, text := op } := by
  constructor
  · intro h
    have hroom := lt_of_operatorsAt h
    rw [operatorsAt_of_lt hroom] at h
    exact ⟨hroom, (Except.ok.inj h).symm⟩
  · rintro ⟨hroom, rfl⟩
    exact operatorsAt_of_lt hroom

theorem logical_eq_ok {query : String} {candidates : List Candidate}
    (h : logical query = .ok candidates) :
    query.toList.getLast? ≠ some ' ' ∧ candidates = [] ∨
      query.toList.getLast? = some ' ' ∧
        operatorsAt query.length logicalOperators = .ok candidates := by
  unfold logical at h
  split at h
  · next hspace => exact .inr ⟨hspace, h⟩
  · next hspace => exact .inl ⟨hspace, (Except.ok.inj h).symm⟩

theorem comparison_eq_ok {schema : Schema} {query : String} {candidates : List Candidate}
    (h : comparison schema query = .ok candidates) :
    (∀ map, comparedMap? query = some map → ¬ schema.isMap map) ∧ candidates = [] ∨
      (∃ map, comparedMap? query = some map ∧ schema.isMap map) ∧
        operatorsAt (query.length - 1) comparisonOperators = .ok candidates := by
  unfold comparison at h
  split at h
  · next map hcompared =>
    split at h
    · next hmap => exact .inr ⟨⟨map, hcompared, hmap⟩, h⟩
    · next hmap =>
      refine .inl ⟨fun map' hmap' => ?_, (Except.ok.inj h).symm⟩
      obtain rfl := Option.some.inj (hcompared.symm.trans hmap')
      exact hmap
  · next hnone => exact .inl ⟨by simp [hnone], (Except.ok.inj h).symm⟩

theorem length_logicalOperators : ∀ op ∈ logicalOperators, op.length ≤ 3 := by decide

theorem length_comparisonOperators : ∀ op ∈ comparisonOperators, op.length ≤ 5 := by decide

theorem logical_ok {query : String} (h : query.length + 3 < offsetLimit) :
    ∃ candidates, logical query = .ok candidates := by
  unfold logical
  split
  · refine ⟨_, operatorsAt_of_lt fun op hop => ?_⟩
    have hlength := length_logicalOperators op hop
    omega
  · exact ⟨[], rfl⟩

theorem comparison_ok (schema : Schema) {query : String} (h : query.length + 5 < offsetLimit) :
    ∃ candidates, comparison schema query = .ok candidates := by
  unfold comparison
  split
  · split
    · refine ⟨_, operatorsAt_of_lt fun op hop => ?_⟩
      have hlength := length_comparisonOperators op hop
      omega
    · exact ⟨[], rfl⟩
  · exact ⟨[], rfl⟩

end FilterEditor.Completion
