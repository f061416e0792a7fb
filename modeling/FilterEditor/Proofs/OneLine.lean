import FilterEditor.Proofs.ReadBack

/-!
# Proofs — One line

A compact text is one line: whatever characters the texts in it hold, none of its own characters is a
control character (`isPrintable_compactChars`), and so none of them ends a line.
-/

namespace FilterEditor.Json

/-- The text has no control characters. -/
def IsPrintable (cs : List Char) : Prop :=
  ∀ c ∈ cs, 0x20 ≤ c.toNat

instance (cs : List Char) : Decidable (IsPrintable cs) :=
  List.decidableBAll (fun c : Char => 0x20 ≤ c.toNat) cs

theorem IsPrintable.append {cs ds : List Char} (hc : IsPrintable cs) (hd : IsPrintable ds) :
    IsPrintable (cs ++ ds) :=
  List.forall_mem_append.mpr ⟨hc, hd⟩

theorem IsPrintable.cons {c : Char} {cs : List Char} (hc : 0x20 ≤ c.toNat) (h : IsPrintable cs) :
    IsPrintable (c :: cs) :=
  List.forall_mem_cons.mpr ⟨hc, h⟩

/-! ### Scalars -/

/-- Whatever character is escaped, none is left that would have to be. -/
theorem isPrintable_escape (c : Char) : IsPrintable (escape c) := by
  have hdigit : ∀ n < 16, 0x20 ≤ (hexDigit n).toNat := by decide
  rcases escape_cases c with ⟨letter, hescape, -, -, hle⟩ | ⟨hcontrol, hescape⟩ |
      ⟨hle, -, -, hescape⟩ <;> rw [hescape]
  · exact .cons (by decide) (.cons hle nofun)
  · have hmark : IsPrintable ['\\', 'u', '0', '0'] := by decide
    have hdigits : IsPrintable [hexDigit (c.toNat / 16), hexDigit (c.toNat % 16)] :=
      .cons (hdigit _ (by omega)) (.cons (hdigit _ (by omega)) nofun)
    exact hmark.append hdigits
  · exact .cons hle nofun

theorem isPrintable_quote (text : String) : IsPrintable (quote text) := by
  have htext : IsPrintable (text.toList.flatMap escape) := fun c hc => by
    obtain ⟨x, -, hx⟩ := List.mem_flatMap.mp hc
    exact isPrintable_escape x c hx
  exact .cons (by decide) (htext.append (by decide))

theorem isPrintable_digits (n : Nat) : IsPrintable (digits n) := fun c hc => by
  have hdigit := isDigit_of_mem_digits hc
  simp only [Char.isDigit, Bool.and_eq_true, decide_eq_true_iff] at hdigit
  exact Nat.le_trans (by decide) hdigit.1

theorem isPrintable_scalar (json : Json) : IsPrintable (scalar json) := by
  cases json with
  | null => decide
  | bool value => cases value <;> decide
  | nat n => exact isPrintable_digits n
  | real negative mantissa exponent =>
      have hsign : IsPrintable (if negative then ['-'] else []) := by cases negative <;> decide
      have hexponent : IsPrintable (exponentDigits exponent) := by
        cases exponent with
        | ofNat n => exact isPrintable_digits n
        | negSucc n => exact .cons (by decide) (isPrintable_digits (n + 1))
      exact (hsign.append (isPrintable_digits mantissa)).append (.cons (by decide) hexponent)
  | str text => exact isPrintable_quote text
  | arr | obj | unreadable => exact nofun

/-! ### Lists and objects -/

mutual

/-- **One line.**  No character of a compact text is a control character. -/
theorem isPrintable_compactChars : ∀ json : Json, IsPrintable (compactChars json)
  | .arr items => by
      rw [compactChars]
      exact .cons (by decide) (isPrintable_compactItems items)
  | .obj members => by
      rw [compactChars]
      exact .cons (by decide) (isPrintable_compactMembers members)
  | .null | .bool _ | .nat _ | .real .. | .str _ | .unreadable => by
      rw [compactChars]
      · exact isPrintable_scalar _
      all_goals nofun

theorem isPrintable_compactItems : ∀ items : List Json, IsPrintable (compactItems items)
  | [] => by decide
  | [item] => by
      rw [compactItems]
      exact (isPrintable_compactChars item).append (by decide)
  | item :: next :: items => by
      rw [compactItems_cons item (List.cons_ne_nil next items)]
      exact (isPrintable_compactChars item).append
        (.cons (by decide) (isPrintable_compactItems (next :: items)))

theorem isPrintable_compactMembers :
    ∀ members : List (String × Json), IsPrintable (compactMembers members)
  | [] => by decide
  | [(key, value)] => by
      have hvalue := IsPrintable.cons (c := ':') (by decide) (isPrintable_compactChars value)
      rw [compactMembers]
      exact ((isPrintable_quote key).append hvalue).append (by decide)
  | (key, value) :: next :: members => by
      have hvalue := IsPrintable.cons (c := ':') (by decide) (isPrintable_compactChars value)
      rw [compactMembers_cons key value (List.cons_ne_nil next members)]
      exact ((isPrintable_quote key).append hvalue).append
        (.cons (by decide) (isPrintable_compactMembers (next :: members)))

end

end FilterEditor.Json
