/-!
# Text — Pattern

Patterns of characters, and the search of a text for one.  A pattern can match at a place in several
ways, which are tried in order: a run of characters is first taken as long as it can be, and then
shorter and shorter, each time with the rest of the pattern after it (`Pattern.ways`).  The places
of a text are tried from left to right, and the first way that is found is the match
(`Pattern.search`).

The ways of each pattern are given by `mem_ways_one` to `mem_ways_finish`, and what a search finds
among them by `search_eq_none_iff` and `leftmost_of_search`.
-/

namespace FilterEditor.Text

/-- What is asked of the text at a place. -/
inductive Pattern where
  /-- A character of the class. -/
  | one (p : Char → Bool)
  /-- One or more characters of the class. -/
  | run (p : Char → Bool)
  | seq (first second : Pattern)
  /-- The pattern, whose text is to be kept. -/
  | keep (pat : Pattern)
  /-- The end of the text. -/
  | finish

/-- A way to match a pattern at the front of a text. -/
structure Match where
  matched : List Char
  /-- What was to be kept of it, in order. -/
  kept : List (List Char) := []
  rest : List Char
deriving DecidableEq, Repr

/-- The ways to cut a run of characters of the class from the front, the longest first. -/
def runs (p : Char → Bool) : List Char → List Match
  | [] => []
  | x :: xs =>
      if p x then
        (runs p xs).map (fun m => { m with matched := x :: m.matched }) ++
          [{ matched := [x], rest := xs }]
      else []

namespace Pattern

/-- The ways to match the pattern at the front of the text, in the order in which they are tried. -/
def ways : Pattern → List Char → List Match
  | one _, [] => []
  | one p, x :: xs => if p x then [{ matched := [x], rest := xs }] else []
  | run p, text => runs p text
  | seq first second, text =>
      (first.ways text).flatMap fun m =>
        (second.ways m.rest).map fun n =>
          { matched := m.matched ++ n.matched, kept := m.kept ++ n.kept, rest := n.rest }
  | keep pat, text => (pat.ways text).map fun m => { m with kept := m.matched :: m.kept }
  | finish, text => if text.isEmpty then [{ matched := [], rest := [] }] else []

/-- The first way to match the pattern at the first place where there is one. -/
def search (pat : Pattern) : List Char → Option Match
  | [] => (pat.ways []).head?
  | x :: xs => (pat.ways (x :: xs)).head?.or (pat.search xs)

end Pattern

/-! ### Ways to match -/

section
variable {p : Char → Bool} {first second pat : Pattern} {text : List Char} {m : Match}

namespace Pattern

theorem mem_ways_one :
    m ∈ (one p).ways text ↔ ∃ x rest, p x ∧ text = x :: rest ∧ m = { matched := [x], rest } := by
  cases text with
  | nil => simp [ways]
  | cons x xs =>
      by_cases hx : p x
      · simp only [ways, hx, if_true, List.mem_singleton]
        constructor
        · rintro rfl
          exact ⟨x, xs, hx, rfl, rfl⟩
        · rintro ⟨y, rest, -, htext, rfl⟩
          obtain ⟨rfl, rfl⟩ := List.cons.inj htext
          rfl
      · simp only [ways, hx, if_false, List.not_mem_nil, false_iff, Bool.false_eq_true]
        rintro ⟨y, rest, hy, htext, -⟩
        exact hx ((List.cons.inj htext).1 ▸ hy)

theorem mem_ways_run :
    m ∈ (run p).ways text ↔
      ∃ word rest, word ≠ [] ∧ (∀ c ∈ word, p c) ∧ text = word ++ rest ∧
        m = { matched := word, rest } := by
  induction text generalizing m with
  | nil => simp +contextual [ways, runs]
  | cons x xs ih =>
      by_cases hx : p x
      · simp only [ways, runs, hx, if_true, List.mem_append, List.mem_map, List.mem_singleton]
        constructor
        · rintro (⟨n, hn, rfl⟩ | rfl)
          · obtain ⟨word, rest, -, hword, rfl, rfl⟩ := ih.mp hn
            exact ⟨x :: word, rest, by simp, List.forall_mem_cons.mpr ⟨hx, hword⟩, rfl, rfl⟩
          · exact ⟨[x], xs, by simp, by simpa using hx, rfl, rfl⟩
        · rintro ⟨word, rest, hne, hword, htext, rfl⟩
          obtain ⟨y, ys, rfl⟩ := List.exists_cons_of_ne_nil hne
          obtain ⟨rfl, rfl⟩ := List.cons.inj htext
          cases ys with
          | nil => exact .inr rfl
          | cons z zs =>
              -- A run of more than one character goes on with a run.
              have hlater := (List.forall_mem_cons.mp hword).2
              exact .inl ⟨_, ih.mpr ⟨z :: zs, rest, by simp, hlater, rfl, rfl⟩, rfl⟩
      · simp only [ways, runs, hx, if_false, List.not_mem_nil, false_iff, Bool.false_eq_true]
        rintro ⟨word, rest, hne, hword, htext, -⟩
        obtain ⟨y, ys, rfl⟩ := List.exists_cons_of_ne_nil hne
        obtain ⟨rfl, -⟩ := List.cons.inj htext
        exact hx (hword x List.mem_cons_self)

theorem mem_ways_seq :
    m ∈ (seq first second).ways text ↔
      ∃ u ∈ first.ways text, ∃ v ∈ second.ways u.rest,
        m = { matched := u.matched ++ v.matched, kept := u.kept ++ v.kept, rest := v.rest } := by
  simp [ways, eq_comm]

theorem mem_ways_keep :
    m ∈ (keep pat).ways text ↔ ∃ u ∈ pat.ways text, m = { u with kept := u.matched :: u.kept } := by
  simp [ways, eq_comm]

theorem mem_ways_finish :
    m ∈ finish.ways text ↔ text = [] ∧ m = { matched := [], rest := [] } := by
  cases text <;> simp [ways]

/-! ### What a search finds -/

/-- Nothing is found just if the pattern matches nowhere. -/
theorem search_eq_none_iff :
    pat.search text = none ↔ ∀ front back, text = front ++ back → pat.ways back = [] := by
  induction text with
  | nil =>
      simp only [search, List.head?_eq_none_iff, List.nil_eq, List.append_eq_nil_iff]
      exact ⟨fun h front back hnil => hnil.2 ▸ h, fun h => h [] [] ⟨rfl, rfl⟩⟩
  | cons x xs ih =>
      rw [search, Option.or_eq_none_iff, List.head?_eq_none_iff, ih]
      constructor
      · rintro ⟨hhere, hlater⟩ (_ | ⟨y, ys⟩) back htext
        · obtain rfl : x :: xs = back := htext
          exact hhere
        · exact hlater ys back (List.cons.inj htext).2
      · intro h
        exact ⟨h [] (x :: xs) rfl, fun front back htext => h (x :: front) back (htext ▸ rfl)⟩

/-- What is found is the first way to match at its place, and there is none at an earlier place. -/
theorem leftmost_of_search (h : pat.search text = some m) :
    ∃ front back, text = front ++ back ∧ (pat.ways back).head? = some m ∧
      ∀ front' back', text = front' ++ back' → pat.ways back' ≠ [] →
        front.length ≤ front'.length := by
  induction text with
  | nil => exact ⟨[], [], rfl, h, fun _ _ _ _ => Nat.zero_le _⟩
  | cons x xs ih =>
      rw [search] at h
      cases hhere : (pat.ways (x :: xs)).head? with
      | some n =>
          rw [hhere] at h
          exact ⟨[], x :: xs, rfl, hhere.trans h, fun _ _ _ _ => Nat.zero_le _⟩
      | none =>
          rw [hhere, Option.none_or] at h
          obtain ⟨front, back, rfl, hway, hleast⟩ := ih h
          refine ⟨x :: front, back, rfl, hway, ?_⟩
          rintro (_ | ⟨y, ys⟩) back' htext hback'
          · obtain rfl : x :: (front ++ back) = back' := htext
            exact absurd (List.head?_eq_none_iff.mp hhere) hback'
          · exact Nat.succ_le_succ (hleast ys back' (List.cons.inj htext).2 hback')

end Pattern
end

end FilterEditor.Text
