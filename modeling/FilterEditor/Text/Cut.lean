/-!
# Text — Cut

Cutting a text at a character or at a pattern.  `splitFirst c` cuts at the first `c`, which belongs
to neither half; `pieces p` cuts at every character of the class `p`; `beforeLast pat` keeps what
stands before the last occurrence of `pat`; `occursIn` asks for an occurrence anywhere.
-/

namespace FilterEditor.Text

/-- The parts before and after the first `c`, if there is one. -/
def splitFirst (c : Char) : List Char → Option (List Char × List Char)
  | [] => none
  | x :: xs =>
      if x = c then some ([], xs)
      else (splitFirst c xs).map fun (front, back) => (x :: front, back)

/-- What stands before the last occurrence of `pat`, if there is one. -/
def beforeLast (pat : List Char) : List Char → Option (List Char)
  | [] => if pat.isEmpty then some [] else none
  | x :: xs =>
      match beforeLast pat xs with
      | some front => some (x :: front)
      | none => if pat.isPrefixOf (x :: xs) then some [] else none

/-- An occurrence of `pat` somewhere in the text. -/
def occursIn (pat : List Char) : List Char → Bool
  | [] => pat.isEmpty
  | x :: xs => pat.isPrefixOf (x :: xs) || occursIn pat xs

/-- The stretches between characters of the class `p`, empty ones included. -/
def pieces (p : Char → Bool) : List Char → List (List Char)
  | [] => [[]]
  | x :: xs =>
      if p x then [] :: pieces p xs
      else
        match pieces p xs with
        | [] => [[x]]
        | w :: ws => (x :: w) :: ws

/-! ### The halves of a cut -/

/-- The two halves and the character between them make up the text. -/
theorem eq_append_of_splitFirst {c : Char} {cs front back : List Char}
    (h : splitFirst c cs = some (front, back)) : cs = front ++ c :: back := by
  induction cs generalizing front with
  | nil => simp [splitFirst] at h
  | cons x xs ih =>
      by_cases hx : x = c
      · simp [splitFirst, hx] at h
        obtain ⟨rfl, rfl⟩ := h
        simp [hx]
      · simp [splitFirst, hx] at h
        obtain ⟨f, hf, rfl⟩ := h
        simp [ih hf]

/-- The cut is at the first `c`. -/
theorem not_mem_of_splitFirst {c : Char} {cs front back : List Char}
    (h : splitFirst c cs = some (front, back)) : c ∉ front := by
  induction cs generalizing front with
  | nil => simp [splitFirst] at h
  | cons x xs ih =>
      by_cases hx : x = c
      · simp [splitFirst, hx] at h
        simp [h.1]
      · simp [splitFirst, hx] at h
        obtain ⟨f, hf, rfl⟩ := h
        simp [ih hf, Ne.symm hx]

/-- A text is cut whenever it holds the character. -/
theorem splitFirst_append {c : Char} {front : List Char} (back : List Char) (h : c ∉ front) :
    splitFirst c (front ++ c :: back) = some (front, back) := by
  induction front with
  | nil => simp [splitFirst]
  | cons x xs ih =>
      simp only [List.mem_cons, not_or] at h
      simp [splitFirst, Ne.symm h.1, ih h.2]

/-- A text without the character is not cut. -/
theorem splitFirst_eq_none_iff {c : Char} {cs : List Char} : splitFirst c cs = none ↔ c ∉ cs := by
  induction cs with
  | nil => simp [splitFirst]
  | cons x xs ih =>
      by_cases hx : x = c
      · simp [splitFirst, hx]
      · simp [splitFirst, hx, ih, Ne.symm hx]

/-! ### The last occurrence -/

/-- There is something before the last occurrence just if there is an occurrence. -/
theorem beforeLast_eq_none_iff {pat cs : List Char} : beforeLast pat cs = none ↔ ¬ pat <:+: cs := by
  induction cs with
  | nil => simp [beforeLast]
  | cons x xs ih =>
      rw [List.infix_cons_iff, not_or, ← ih, beforeLast, ← List.isPrefixOf_iff_prefix]
      cases beforeLast pat xs <;> simp

/-- What stands in front of a text with an occurrence stands before the last one. -/
theorem beforeLast_append {pat cs kept : List Char} (front : List Char)
    (h : beforeLast pat cs = some kept) : beforeLast pat (front ++ cs) = some (front ++ kept) := by
  induction front with
  | nil => exact h
  | cons x xs ih => rw [List.cons_append, beforeLast, ih, List.cons_append]

/-- No occurrence starts in a stretch without the first character of the pattern. -/
theorem beforeLast_append_of_none {c : Char} {pat cs front : List Char} (hfront : c ∉ front)
    (h : beforeLast (c :: pat) cs = none) : beforeLast (c :: pat) (front ++ cs) = none := by
  induction front with
  | nil => exact h
  | cons x xs ih =>
      rw [List.mem_cons, not_or] at hfront
      simp [beforeLast, ih hfront.2, hfront.1]

/-- An occurrence after which there is no further one is the last, unless one can start inside it. -/
theorem beforeLast_append_pattern {c : Char} {pat : List Char} (hpat : c ∉ pat) (front : List Char)
    {back : List Char} (hback : ¬ c :: pat <:+: back) :
    beforeLast (c :: pat) (front ++ (c :: pat ++ back)) = some front := by
  have hnone : beforeLast (c :: pat) (pat ++ back) = none :=
    beforeLast_append_of_none hpat (beforeLast_eq_none_iff.mpr hback)
  have hlast : beforeLast (c :: pat) (c :: pat ++ back) = some [] := by
    rw [List.cons_append, beforeLast, hnone]
    simp [List.isPrefixOf_iff_prefix]
  rw [beforeLast_append front hlast, List.append_nil]

/-! ### Any occurrence -/

theorem occursIn_iff {pat cs : List Char} : occursIn pat cs ↔ pat <:+: cs := by
  induction cs with
  | nil => simp [occursIn]
  | cons x xs ih =>
      rw [occursIn, Bool.or_eq_true, ih, List.isPrefixOf_iff_prefix, List.infix_cons_iff]

/-! ### Pieces -/

theorem pieces_ne_nil {p : Char → Bool} : ∀ cs : List Char, pieces p cs ≠ []
  | [] => by simp [pieces]
  | x :: xs => by
      rw [pieces]
      split
      · simp
      · split <;> simp

/-- A piece is made of characters of the text, none of them of the class. -/
theorem not_of_mem_pieces {p : Char → Bool} {cs w : List Char} (h : w ∈ pieces p cs) :
    ∀ c ∈ w, c ∈ cs ∧ p c = false := by
  induction cs generalizing w with
  | nil =>
      obtain rfl : w = [] := by simpa [pieces] using h
      nofun
  | cons x xs ih =>
      have later : ∀ v ∈ pieces p xs, ∀ c ∈ v, c ∈ x :: xs ∧ p c = false := fun v hv c hc =>
        ⟨List.mem_cons_of_mem x (ih hv c hc).1, (ih hv c hc).2⟩
      by_cases hx : p x
      · simp only [pieces, hx, if_true, List.mem_cons] at h
        rcases h with rfl | h
        · nofun
        · exact later w h
      · obtain ⟨v, vs, hvs⟩ := List.exists_cons_of_ne_nil (pieces_ne_nil (p := p) xs)
        simp only [pieces, hx, hvs, Bool.false_eq_true, if_false, List.mem_cons] at h
        rcases h with rfl | h
        · exact List.forall_mem_cons.mpr
            ⟨⟨List.mem_cons_self, Bool.eq_false_iff.mpr hx⟩, later v (hvs ▸ List.mem_cons_self)⟩
        · exact later w (hvs ▸ List.mem_cons_of_mem v h)

/-- A text with no character of the class is one piece. -/
theorem pieces_eq_singleton {p : Char → Bool} {cs : List Char} (h : ∀ c ∈ cs, p c = false) :
    pieces p cs = [cs] := by
  induction cs with
  | nil => rfl
  | cons x xs ih =>
      obtain ⟨hx, hxs⟩ := List.forall_mem_cons.mp h
      simp [pieces, hx, ih hxs]

/-- A character of the class ends one piece and starts the next. -/
theorem pieces_append_cons {p : Char → Bool} {c : Char} (hc : p c) (xs ys : List Char) :
    pieces p (xs ++ c :: ys) = pieces p xs ++ pieces p ys := by
  induction xs with
  | nil => simp [pieces, hc]
  | cons x xs ih =>
      by_cases hx : p x
      · simp [pieces, hx, ih]
      · obtain ⟨w, ws, h⟩ := List.exists_cons_of_ne_nil (pieces_ne_nil (p := p) xs)
        simp [pieces, hx, ih, h]

end FilterEditor.Text
