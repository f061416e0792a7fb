import FilterEditor.Text.Lowercase.Table

/-!
# Text — Lowercase

Lower-casing by the full Unicode rules.  Each character goes to its small form (`smallForm`), with
two exceptions: the dotted capital `İ` becomes an `i` with a combining dot, and a capital sigma
becomes the final `ς` when it ends a word and `σ` elsewhere.  A sigma ends a word when a cased
character stands before it and none after it, case-ignorable characters not counting.

No small form has another small form of its own, so a text in small letters stays as it is
(`lowercase_lowercase`).
-/

namespace FilterEditor.Text

namespace Lowercase

/-- A character with the Unicode property Cased. -/
def isCased (c : Char) : Bool :=
  inRanges casedRanges c.toNat

/-- A character with the Unicode property Case_Ignorable. -/
def isCaseIgnorable (c : Char) : Bool :=
  inRanges caseIgnorableRanges c.toNat

/-- The small form of a character taken alone. -/
def smallForm (c : Char) : List Char :=
  if c = 'İ' then ['i', '\u0307']
  else
    match rows.find? (·.covers c.toNat) with
    | some row => [Char.ofNat (row.apply c.toNat)]
    | none => [c]

/-- The first character that is not case-ignorable is cased. -/
def reachesCased (cs : List Char) : Bool :=
  match cs.dropWhile isCaseIgnorable with
  | [] => false
  | c :: _ => isCased c

/-- The small sigma between `before`, which is read backwards, and `after`. -/
def sigma (before after : List Char) : Char :=
  if reachesCased before && !reachesCased after then 'ς' else 'σ'

/-- Lower-cases the text that follows `before`, which is read backwards. -/
def lowerAfter (before : List Char) : List Char → List Char
  | [] => []
  | c :: cs =>
      (if c = 'Σ' then [sigma before cs] else smallForm c) ++ lowerAfter (c :: before) cs

end Lowercase

/-- The text in small letters. -/
def lowercase (s : String) : String :=
  String.ofList (Lowercase.lowerAfter [] s.toList)

/-! ### Small letters -/

namespace Lowercase

/-- No small form of a code point of `r` is a code point of `q`: those of `r` lie before `q` or
after it, or between its code points. -/
def Row.misses (r q : Row) : Bool :=
  -- The table is checked pair by pair, so the tests are those that the kernel computes at once.
  (r.apply r.last).blt q.first || q.last.blt (r.apply r.first) ||
    ((r.first.beq r.last || r.stride.beq 2) && q.stride.beq 2 &&
      ((r.apply r.first + q.first) % 2).beq 1)

theorem Row.covers_apply {r q : Row} {n : Nat} (hmiss : r.misses q) (hforms : 0 < r.first + r.shift)
    (hn : r.covers n) : q.covers (r.apply n) = false := by
  simp only [misses, Bool.or_eq_true, Bool.and_eq_true, Nat.blt_eq, Nat.beq_eq] at hmiss
  simp only [covers, Bool.and_eq_true, decide_eq_true_eq, beq_iff_eq] at hn
  simp only [covers, Bool.and_eq_false_iff, decide_eq_false_iff_not, beq_eq_false_iff_ne]
  simp only [apply] at *
  obtain ⟨⟨hfirst, hlast⟩, hstride⟩ := hn
  rcases hmiss with (hbefore | hafter) | ⟨⟨hone | htwo, hq⟩, hparity⟩
  · omega
  · omega
  · rw [hq]
    omega
  · rw [htwo] at hstride
    rw [hq]
    omega

/-- The same of the character, which is the null character if there is none of that number. -/
theorem Row.covers_form {r q : Row} {n : Nat} (hq : 0 < q.first) (hmiss : r.misses q)
    (hforms : 0 < r.first + r.shift) (hn : r.covers n) :
    q.covers (Char.ofNat (r.apply n)).toNat = false := by
  by_cases hvalid : (r.apply n).isValidChar
  · rw [Char.ofNat, dif_pos hvalid]
    exact covers_apply hmiss hforms hn
  · have hnull : ¬ q.first ≤ 0 := Nat.not_le.mpr hq
    rw [Char.ofNat, dif_neg hvalid]
    simp [covers, Char.toNat, hnull]

/-- The small forms of the table have none of their own, and the dotted capital is not among them.
-/
theorem rows_miss {r : Row} (hr : r ∈ rows) : 0 < r.first ∧ 0 < r.first + r.shift ∧
    r.misses ⟨0x0130, 0x0130, 1, 0⟩ ∧ ∀ q ∈ rows, r.misses q := by
  have hbounds : ∀ r ∈ rows, 0 < r.first ∧ 0 < r.first + r.shift ∧
      r.misses ⟨0x0130, 0x0130, 1, 0⟩ := by decide +kernel
  have hpairs : rows.all fun r => rows.all r.misses := by decide +kernel
  obtain ⟨hfirst, hforms, hdotted⟩ := hbounds r hr
  exact ⟨hfirst, hforms, hdotted, List.all_eq_true.mp (List.all_eq_true.mp hpairs r hr)⟩

theorem smallForm_of_not_covered {c : Char} (hdotted : c ≠ 'İ')
    (hrows : ∀ row ∈ rows, row.covers c.toNat = false) : smallForm c = [c] := by
  have hnone : rows.find? (·.covers c.toNat) = none :=
    List.find?_eq_none.mpr fun row hrow => Bool.eq_false_iff.mp (hrows row hrow)
  simp [smallForm, hdotted, hnone]

/-- A small form is its own small form. -/
theorem smallForm_of_mem {c d : Char} (h : d ∈ smallForm c) : smallForm d = [d] := by
  unfold smallForm at h
  split at h
  · have hforms : smallForm 'i' = ['i'] ∧ smallForm '\u0307' = ['\u0307'] := by decide +kernel
    simp only [List.mem_cons, List.not_mem_nil, or_false] at h
    rcases h with rfl | rfl
    · exact hforms.1
    · exact hforms.2
  · next hc =>
    split at h
    · next row hrow =>
      obtain rfl : d = Char.ofNat (row.apply c.toNat) := by simpa using h
      obtain ⟨-, hforms, hdotted, hmiss⟩ := rows_miss (List.mem_of_find?_eq_some hrow)
      have hcovers : row.covers c.toNat := by simpa using List.find?_some hrow
      refine smallForm_of_not_covered (fun hd => ?_) fun q hq =>
        Row.covers_form (rows_miss hq).1 (hmiss q hq) hforms hcovers
      have hfalse := Row.covers_form (by decide) hdotted hforms hcovers
      rw [hd] at hfalse
      exact absurd hfalse (by decide)
    · next hnone =>
      obtain rfl : d = c := by simpa using h
      simp [smallForm, hc, hnone]

theorem smallForm_of_mem_lowerAfter {before cs : List Char} {d : Char}
    (h : d ∈ lowerAfter before cs) : smallForm d = [d] := by
  induction cs generalizing before with
  | nil => exact nomatch h
  | cons c cs ih =>
      rw [lowerAfter, List.mem_append] at h
      rcases h with h | h
      · split at h
        · have hsigmas : smallForm 'ς' = ['ς'] ∧ smallForm 'σ' = ['σ'] := by decide +kernel
          obtain rfl : d = sigma before cs := by simpa using h
          unfold sigma
          split
          · exact hsigmas.1
          · exact hsigmas.2
        · exact smallForm_of_mem h
      · exact ih h

/-- A text of small letters stays as it is. -/
theorem lowerAfter_eq_self {cs : List Char} (before : List Char)
    (h : ∀ c ∈ cs, smallForm c = [c]) : lowerAfter before cs = cs := by
  induction cs generalizing before with
  | nil => rfl
  | cons c cs ih =>
      obtain ⟨hc, hcs⟩ := List.forall_mem_cons.mp h
      have hsigma : c ≠ 'Σ' := by
        rintro rfl
        exact absurd hc (by decide +kernel)
      rw [lowerAfter, if_neg hsigma, hc, ih _ hcs]
      rfl

/-- Between the capitals of ASCII and the next ones. -/
def isBetweenCapitals (c : Char) : Bool :=
  0x5B ≤ c.toNat && c.toNat < 0xC0

theorem smallForm_of_isBetweenCapitals {c : Char} (h : isBetweenCapitals c) : smallForm c = [c] := by
  have hrows : ∀ row ∈ rows, row.last < 0x5B ∨ 0xC0 ≤ row.first := by decide +kernel
  have hdotted : c ≠ 'İ' := by
    rintro rfl
    exact absurd h (by decide)
  refine smallForm_of_not_covered hdotted fun row hrow => ?_
  have hrange := hrows row hrow
  simp only [isBetweenCapitals, Bool.and_eq_true, decide_eq_true_iff] at h
  simp only [Row.covers, Bool.and_eq_false_iff, decide_eq_false_iff_not]
  omega

end Lowercase

/-- Lower-casing again changes nothing. -/
theorem lowercase_lowercase (s : String) : lowercase (lowercase s) = lowercase s := by
  have hsmall : ∀ c ∈ (lowercase s).toList, Lowercase.smallForm c = [c] := fun c hc =>
    Lowercase.smallForm_of_mem_lowerAfter (by simpa [lowercase] using hc)
  rw [lowercase, Lowercase.lowerAfter_eq_self [] hsmall, String.ofList_toList]

/-- A text in small letters of ASCII stays as it is. -/
theorem lowercase_eq_self {s : String} (h : s.toList.all Lowercase.isBetweenCapitals) :
    lowercase s = s := by
  have hsmall : ∀ c ∈ s.toList, Lowercase.smallForm c = [c] := fun c hc =>
    Lowercase.smallForm_of_isBetweenCapitals (List.all_eq_true.mp h c hc)
  rw [lowercase, Lowercase.lowerAfter_eq_self [] hsmall, String.ofList_toList]

end FilterEditor.Text
