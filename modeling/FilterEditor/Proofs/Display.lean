import FilterEditor.Diagnostic.Formatter
import Mathlib.Data.List.Chain
import Mathlib.Data.List.DropRight

/-!
# Proofs — Display

The messages of diagnostics are in display form (`IsDisplayed`): no angle brackets, words one space
apart, and nothing else that is blank.

* `tidy_append_cons`: a blank cuts a text in two parts, and each is tidied on its own.  What is left of
  them stands one space apart, unless nothing is left of one of them (`spaced`).
* `tidy_eq_self_iff`: the texts in display form are just those that `tidy` leaves alone.  Whatever it is
  given, it makes one of them (`isDisplayed_tidy`).
* `message_displayed`: whatever an oracle answers, the message of its diagnostic is in display form.
-/

namespace FilterEditor
open Text

/-- Two texts, one space apart unless one of them is empty. -/
def spaced (xs ys : List Char) : List Char :=
  if xs.isEmpty then ys else if ys.isEmpty then xs else xs ++ ' ' :: ys

@[simp] theorem spaced_nil_left (ys : List Char) : spaced [] ys = ys := rfl

@[simp] theorem spaced_nil_right (xs : List Char) : spaced xs [] = xs := by
  cases xs <;> rfl

theorem spaced_eq_nil {xs ys : List Char} : spaced xs ys = [] ↔ xs = [] ∧ ys = [] := by
  cases xs <;> cases ys <;> simp [spaced]

theorem spaced_of_ne_nil {xs ys : List Char} (hxs : xs ≠ []) (hys : ys ≠ []) :
    spaced xs ys = xs ++ ' ' :: ys := by
  simp [spaced, hxs, hys]

theorem spaced_left_inj {xs ys zs : List Char} (hzs : zs ≠ []) :
    spaced xs zs = spaced ys zs ↔ xs = ys := by
  refine ⟨fun h => ?_, fun h => h ▸ rfl⟩
  by_cases hxs : xs = [] <;> by_cases hys : ys = []
  · rw [hxs, hys]
  · have hlength := congrArg List.length h
    simp [hxs, spaced_of_ne_nil hys hzs] at hlength
    omega
  · have hlength := congrArg List.length h
    simp [hys, spaced_of_ne_nil hxs hzs] at hlength
    omega
  · rw [spaced_of_ne_nil hxs hzs, spaced_of_ne_nil hys hzs] at h
    exact List.append_cancel_right h

theorem suffix_spaced (xs ys : List Char) : ys <:+ spaced xs ys := by
  by_cases hxs : xs = []
  · simp [hxs]
  by_cases hys : ys = []
  · simp [hys]
  · rw [spaced_of_ne_nil hxs hys, List.append_cons]
    exact List.suffix_append ..

/-! ### Tidying part by part -/

theorem intercalate_append {us vs : List (List Char)} (hus : us ≠ []) (hvs : vs ≠ []) :
    List.intercalate [' '] (us ++ vs) =
      List.intercalate [' '] us ++ ' ' :: List.intercalate [' '] vs := by
  induction us with
  | nil => exact absurd rfl hus
  | cons u us ih =>
      rw [List.cons_append, List.intercalate_cons_of_ne_nil (List.append_ne_nil_of_right_ne_nil us hvs)]
      by_cases h : us = []
      · simp [h]
      · rw [ih h, List.intercalate_cons_of_ne_nil h]
        simp

theorem intercalate_ne_nil {w : List Char} (hw : w ≠ []) (ws : List (List Char)) :
    List.intercalate [' '] (w :: ws) ≠ [] := by
  cases ws <;> simp [List.intercalate_cons_cons, hw]

/-- Nothing is left of a text just if it has no words. -/
theorem collapse_eq_nil {cs : List Char} : collapse cs = [] ↔ words cs = [] := by
  rw [collapse]
  cases h : words cs with
  | nil => simp
  | cons w ws => simp [intercalate_ne_nil (mem_words (h ▸ List.mem_cons_self)).1 ws]

theorem collapse_append_cons {c : Char} (hc : isBlank c) (xs ys : List Char) :
    collapse (xs ++ c :: ys) = spaced (collapse xs) (collapse ys) := by
  by_cases hxs : words xs = []
  · rw [collapse_eq_nil.mpr hxs, collapse, words_append_cons hc, hxs]
    rfl
  by_cases hys : words ys = []
  · rw [collapse_eq_nil.mpr hys, collapse, words_append_cons hc, hys, List.append_nil,
      spaced_nil_right]
    rfl
  · rw [spaced_of_ne_nil (collapse_eq_nil.not.mpr hxs) (collapse_eq_nil.not.mpr hys), collapse,
      words_append_cons hc, intercalate_append hxs hys]
    rfl

theorem not_isAngle_of_isBlank {c : Char} (hc : isBlank c) : isAngle c = false := by
  cases h : isAngle c with
  | false => rfl
  | true =>
      simp only [isAngle, Bool.or_eq_true, beq_iff_eq] at h
      rcases h with rfl | rfl <;> simp [isBlank] at hc

@[simp] theorem tidy_nil : tidy [] = [] := rfl

/-- **A blank cuts a text in two**, and each part is tidied on its own. -/
theorem tidy_append_cons {c : Char} (hc : isBlank c) (xs ys : List Char) :
    tidy (xs ++ c :: ys) = spaced (tidy xs) (tidy ys) := by
  rw [tidy, List.filter_append, List.filter_cons_of_pos (by simp [not_isAngle_of_isBlank hc]),
    collapse_append_cons hc]
  rfl

theorem tidy_trimStart (cs : List Char) : tidy (trimStart cs) = tidy cs := by
  induction cs with
  | nil => rfl
  | cons c cs ih =>
      by_cases hc : isBlank c
      · rw [trimStart, List.dropWhile_cons_of_pos hc, ← trimStart, ih]
        simpa using (tidy_append_cons hc [] cs).symm
      · rw [trimStart, List.dropWhile_cons_of_neg hc]

theorem tidy_rdropWhile (cs : List Char) : tidy (cs.rdropWhile isBlank) = tidy cs := by
  induction cs using List.reverseRecOn with
  | nil => rfl
  | append_singleton cs c ih =>
      by_cases hc : isBlank c
      · rw [List.rdropWhile_concat_pos _ _ _ hc, ih]
        simpa using (tidy_append_cons hc cs []).symm
      · rw [List.rdropWhile_concat_neg _ _ _ hc]

/-- Tidying trims. -/
theorem tidy_trim (cs : List Char) : tidy (trim cs) = tidy cs :=
  (tidy_rdropWhile (trimStart cs)).trans (tidy_trimStart cs)

/-! ### Display form -/

/-- Words without angle brackets, one space apart, and nothing blank around them. -/
structure IsDisplayed (cs : List Char) : Prop where
  noAngle : ∀ c ∈ cs, isAngle c = false
  space : ∀ c ∈ cs, isBlank c → c = ' '
  apart : cs.IsChain fun a b => ¬ (isBlank a ∧ isBlank b)
  head : ∀ c ∈ cs.head?, isBlank c = false
  last : ∀ c ∈ cs.getLast?, isBlank c = false

-- Instances are given by name: `Char` is a finite type, and a search may settle on trying all of it.
instance (cs : List Char) : Decidable (IsDisplayed cs) :=
  letI := List.decidableBAll (fun c => isAngle c = false) cs
  letI := List.decidableBAll (fun c => isBlank c → c = ' ') cs
  letI := Option.decidableForallMem (p := fun c => isBlank c = false)
  decidable_of_iff
    ((∀ c ∈ cs, isAngle c = false) ∧ (∀ c ∈ cs, isBlank c → c = ' ') ∧
      (cs.IsChain fun a b => ¬ (isBlank a ∧ isBlank b)) ∧ (∀ c ∈ cs.head?, isBlank c = false) ∧
      ∀ c ∈ cs.getLast?, isBlank c = false)
    ⟨fun ⟨angle, space, apart, head, last⟩ => ⟨angle, space, apart, head, last⟩,
      fun ⟨angle, space, apart, head, last⟩ => ⟨angle, space, apart, head, last⟩⟩

namespace IsDisplayed
variable {xs ys : List Char}

theorem nil : IsDisplayed [] := by decide

theorem word {w : List Char} (hblank : ∀ c ∈ w, isBlank c = false)
    (hangle : ∀ c ∈ w, isAngle c = false) : IsDisplayed w where
  noAngle := hangle
  space := fun c hc h => absurd h (by simp [hblank c hc])
  apart := List.Pairwise.isChain (List.pairwise_of_forall_mem_list fun a ha _ _ h =>
    absurd h.1 (by simp [hblank a ha]))
  head := fun c hc => hblank c (List.mem_of_mem_head? hc)
  last := fun c hc => hblank c (List.mem_of_getLast? hc)

theorem append (hxs : IsDisplayed xs) (hys : IsDisplayed ys) : IsDisplayed (xs ++ ys) where
  noAngle := List.forall_mem_append.mpr ⟨hxs.noAngle, hys.noAngle⟩
  space := List.forall_mem_append.mpr ⟨hxs.space, hys.space⟩
  apart := List.isChain_append.mpr ⟨hxs.apart, hys.apart, fun a ha _ _ h =>
    absurd h.1 (by simp [hxs.last a ha])⟩
  head := by
    intro c hc
    cases xs with
    | nil => exact hys.head c hc
    | cons x xs => exact hxs.head c hc
  last := by
    intro c hc
    rw [List.getLast?_append, Option.mem_def, Option.or_eq_some_iff] at hc
    rcases hc with hc | ⟨-, hc⟩
    · exact hys.last c hc
    · exact hxs.last c hc

theorem appendSpace (hxs : IsDisplayed xs) (hys : IsDisplayed ys) (hx : xs ≠ []) (hy : ys ≠ []) :
    IsDisplayed (xs ++ ' ' :: ys) where
  noAngle := List.forall_mem_append.mpr
    ⟨hxs.noAngle, List.forall_mem_cons.mpr ⟨by decide, hys.noAngle⟩⟩
  space := List.forall_mem_append.mpr
    ⟨hxs.space, List.forall_mem_cons.mpr ⟨fun _ => rfl, hys.space⟩⟩
  apart := by
    refine List.isChain_append.mpr ⟨hxs.apart, hys.apart.cons fun b hb h => ?_, fun a ha _ _ h => ?_⟩
    · exact absurd h.2 (by simp [hys.head b hb])
    · exact absurd h.1 (by simp [hxs.last a ha])
  head := by
    intro c hc
    obtain ⟨x, xs, rfl⟩ := List.exists_cons_of_ne_nil hx
    exact hxs.head c hc
  last := by
    intro c hc
    obtain ⟨y, ys, rfl⟩ := List.exists_cons_of_ne_nil hy
    exact hys.last c (by simpa using hc)

/-- A space of a text in display form stands between two texts in display form. -/
theorem of_space (h : IsDisplayed (xs ++ ' ' :: ys)) :
    (IsDisplayed xs ∧ xs ≠ []) ∧ IsDisplayed ys ∧ ys ≠ [] := by
  obtain ⟨hangle, hspace, hchain, hhead, hlast⟩ := h
  obtain ⟨hfront, hback, hseam⟩ := List.isChain_append.mp hchain
  obtain ⟨hnext, hback⟩ := List.isChain_cons.mp hback
  have hxs : xs ≠ [] := by
    rintro rfl
    exact absurd (hhead ' ' rfl) (by decide)
  have hys : ys ≠ [] := by
    rintro rfl
    exact absurd (hlast ' ' (by simp)) (by decide)
  have hbefore : ∀ a ∈ xs.getLast?, isBlank a = false := fun a ha =>
    Bool.eq_false_iff.mpr fun hblank => hseam a ha ' ' rfl ⟨hblank, by decide⟩
  have hafter : ∀ b ∈ ys.head?, isBlank b = false := fun b hb =>
    Bool.eq_false_iff.mpr fun hblank => hnext b hb ⟨by decide, hblank⟩
  refine ⟨⟨⟨?_, ?_, hfront, fun c hc => hhead c ?_, hbefore⟩, hxs⟩,
    ⟨?_, ?_, hback, hafter, fun c hc => hlast c ?_⟩, hys⟩
  · exact fun c hc => hangle c (List.mem_append_left _ hc)
  · exact fun c hc => hspace c (List.mem_append_left _ hc)
  · obtain ⟨x, xs, rfl⟩ := List.exists_cons_of_ne_nil hxs
    exact hc
  · exact fun c hc => hangle c (List.mem_append_right _ (List.mem_cons_of_mem _ hc))
  · exact fun c hc => hspace c (List.mem_append_right _ (List.mem_cons_of_mem _ hc))
  · obtain ⟨y, ys, rfl⟩ := List.exists_cons_of_ne_nil hys
    simpa using hc

/-- Whatever is blank in a text in display form is a single space between two other characters. -/
theorem between {c : Char} (h : IsDisplayed (xs ++ c :: ys)) (hc : isBlank c) :
    c = ' ' ∧ (∃ a, xs.getLast? = some a ∧ isBlank a = false) ∧
      ∃ b, ys.head? = some b ∧ isBlank b = false := by
  obtain rfl : c = ' ' := h.space c (by simp) hc
  obtain ⟨⟨hxs, hx⟩, hys, hy⟩ := h.of_space
  refine ⟨rfl, ⟨xs.getLast hx, List.getLast?_eq_some_getLast hx, ?_⟩,
    ⟨ys.head hy, List.head?_eq_some_head hy, ?_⟩⟩
  · exact hxs.last _ (List.getLast?_eq_some_getLast hx)
  · exact hys.head _ (List.head?_eq_some_head hy)

theorem spaced (hxs : IsDisplayed xs) (hys : IsDisplayed ys) : IsDisplayed (spaced xs ys) := by
  unfold FilterEditor.spaced
  split
  · exact hys
  · split
    · exact hxs
    · exact hxs.appendSpace hys (by simp_all) (by simp_all)

theorem intercalate {ws : List (List Char)} (h : ∀ w ∈ ws, w ≠ [] ∧ IsDisplayed w) :
    IsDisplayed (List.intercalate [' '] ws) := by
  induction ws with
  | nil => exact nil
  | cons w ws ih =>
      obtain ⟨⟨hne, hw⟩, hws⟩ := List.forall_mem_cons.mp h
      cases ws with
      | nil => simpa using hw
      | cons v vs =>
          rw [List.intercalate_cons_cons, List.append_assoc]
          exact hw.appendSpace (ih hws) hne (intercalate_ne_nil (hws v List.mem_cons_self).1 vs)

end IsDisplayed

/-- Whatever a text holds, tidying brings it into display form. -/
theorem isDisplayed_tidy (cs : List Char) : IsDisplayed (tidy cs) := by
  refine .intercalate fun w hw => ?_
  obtain ⟨hne, hchars⟩ := mem_words hw
  refine ⟨hne, .word (fun c hc => (hchars c hc).2) fun c hc => ?_⟩
  simpa using (List.mem_filter.mp (hchars c hc).1).2

/-- A text in display form stays as it is. -/
theorem IsDisplayed.tidy_eq {cs : List Char} (h : IsDisplayed cs) : tidy cs = cs := by
  induction hn : cs.length using Nat.strong_induction_on generalizing cs with
  | _ n ih =>
      cases hcut : splitFirst ' ' cs with
      | none =>
          have hblank : ∀ c ∈ cs, isBlank c = false := fun c hc =>
            Bool.eq_false_iff.mpr fun hblank =>
              splitFirst_eq_none_iff.mp hcut (h.space c hc hblank ▸ hc)
          rw [tidy, List.filter_eq_self.mpr (by simpa using h.noAngle), collapse_of_not_blank hblank]
      | some halves =>
          obtain ⟨front, back⟩ := halves
          obtain rfl := eq_append_of_splitFirst hcut
          obtain ⟨⟨hfront, hne⟩, hback, hne'⟩ := h.of_space
          simp only [List.length_append, List.length_cons] at hn
          rw [tidy_append_cons (by decide), ih front.length (by omega) hfront rfl,
            ih back.length (by omega) hback rfl, spaced_of_ne_nil hne hne']

/-- **Display form** is what tidying leaves alone. -/
theorem tidy_eq_self_iff {cs : List Char} : tidy cs = cs ↔ IsDisplayed cs :=
  ⟨fun h => h ▸ isDisplayed_tidy cs, IsDisplayed.tidy_eq⟩

/-! ### Messages -/

namespace Formatter

/-- What a semantic error says is what is left of the parser's message. -/
theorem message_semanticError (raw : String) :
    (semanticError raw).message.toList = tidy (unframe raw.toList) := by
  simp [semanticError]

/-- **A syntax error says what a semantic error does**, and then what was expected, if anything. -/
theorem message_syntaxError (f : Formatter) (raw : String) (ids : List Terminal) :
    (f.syntaxError raw ids).message.toList =
      if f.expectedTokens ids = [] then (semanticError raw).message.toList
      else spaced (semanticError raw).message.toList
        (tidy (expectationClause (f.expectedTokens ids))) := by
  rw [message_semanticError, ← tidy_trim (unframe raw.toList)]
  simp only [syntaxError, String.toList_ofList, List.isEmpty_iff]
  split
  · rfl
  · split
    · simp [*]
    · exact tidy_append_cons (by decide) _ _

/-- Whatever the tokens are, a clause starts with a word. -/
theorem tidy_expectationClause_ne_nil (tokens : List String) :
    tidy (expectationClause tokens) ≠ [] := by
  have hclause : expectationClause tokens = "Was".toList ++ ' ' :: ("expecting: ".toList ++
      List.intercalate [',', ' '] (tokens.map String.toList)) := rfl
  have hword : tidy "Was".toList ≠ [] := by decide
  rw [hclause, tidy_append_cons (by decide), ne_eq, spaced_eq_nil]
  exact fun h => hword h.1

theorem message_ne_of_expected (f : Formatter) (raw : String) (ids : List Terminal)
    (h : f.expectedTokens ids ≠ []) : (f.syntaxError raw ids).message ≠ "" := by
  rw [ne_eq, ← String.toList_eq_nil_iff, message_syntaxError, if_neg h, spaced_eq_nil]
  exact fun hnil => tidy_expectationClause_ne_nil _ hnil.2

theorem isDisplayed_semanticError (raw : String) :
    IsDisplayed (semanticError raw).message.toList := by
  rw [message_semanticError]
  exact isDisplayed_tidy _

theorem isDisplayed_syntaxError (f : Formatter) (raw : String) (ids : List Terminal) :
    IsDisplayed (f.syntaxError raw ids).message.toList := by
  rw [message_syntaxError]
  split
  · exact isDisplayed_semanticError raw
  · exact (isDisplayed_semanticError raw).spaced (isDisplayed_tidy _)

theorem isDisplayed_diagnose (f : Formatter) (verdict : Verdict) :
    IsDisplayed (f.diagnose verdict).message.toList := by
  cases verdict with
  | success => exact .nil
  | syntaxError raw failure =>
      rw [diagnose]
      split <;> exact f.isDisplayed_syntaxError raw _
  | unsupportedField raw | malformedValue raw =>
      rw [diagnose]
      exact isDisplayed_semanticError raw

/-- **Messages are in display form.**  Whatever the oracle answers, the message has no angle brackets
and no line breaks; its blanks are single spaces between two other characters, so that it neither
starts nor ends with one; and tidying it changes nothing.  If something was expected, there is a
message. -/
theorem message_displayed (f : Formatter) (verdict : Verdict) :
    let message := (f.diagnose verdict).message.toList
    (∀ c ∈ message, c ≠ '<' ∧ c ≠ '>' ∧ c ≠ '\r' ∧ c ≠ '\n') ∧
      (∀ front c back, message = front ++ c :: back → isBlank c →
        c = ' ' ∧ (∃ a, front.getLast? = some a ∧ isBlank a = false) ∧
          ∃ b, back.head? = some b ∧ isBlank b = false) ∧
      (∀ c, message.head? = some c ∨ message.getLast? = some c → isBlank c = false) ∧
      tidy message = message ∧
      ∀ raw ids, (f.syntaxError raw ids).failed ∧
        ((f.syntaxError raw ids).expected ≠ [] → (f.syntaxError raw ids).message ≠ "") := by
  intro message
  have h : IsDisplayed message := f.isDisplayed_diagnose verdict
  clear_value message
  refine ⟨fun c hc => ?_, fun front c back hcut => ?_, ?_, h.tidy_eq, fun raw ids => ⟨rfl, ?_⟩⟩
  · have hangle := h.noAngle c hc
    have hspace := h.space c hc
    refine ⟨?_, ?_, ?_, ?_⟩ <;> rintro rfl
    · exact absurd hangle (by decide)
    · exact absurd hangle (by decide)
    · exact absurd (hspace (by decide)) (by decide)
    · exact absurd (hspace (by decide)) (by decide)
  · subst hcut
    exact h.between
  · rintro c (hc | hc)
    · exact h.head c hc
    · exact h.last c hc
  · exact f.message_ne_of_expected raw ids

/-- A table whose literals hold brackets and breaks. -/
def brokenLiterals : Formatter where
  tokens := { literals := ["end", " <", "<\n>b "], endOfInput := 0, selectorPair := (5, 7) }

/-- Of a bracketed, broken message and two broken literals, three words and a comma are left. -/
theorem message_displayed_broken :
    let failure := Failure.wrapped "query" (.syntaxError "text" (.rows [[0, 1], [2, 9]]))
    let d := brokenLiterals.diagnose (.syntaxError "Error: <a\r\n> \u2028<" failure)
    d.message.toList = ['a'] ++ ' ' :: "Was expecting: , b".toList ∧ isBlank ' ' ∧
      (∃ b, "Was expecting: , b".toList.head? = some b ∧ isBlank b = false) ∧
      tidy d.message.toList = d.message.toList ∧ d.expected ≠ [] ∧ d.message ≠ "" := by
  intro failure d
  have hmessage : d.message.toList = ['a'] ++ ' ' :: "Was expecting: , b".toList := by
    decide +kernel
  have hexpected : d.expected ≠ [] := by decide +kernel
  obtain ⟨-, hbetween, -, htidy, hsaid⟩ :=
    message_displayed brokenLiterals (.syntaxError "Error: <a\r\n> \u2028<" failure)
  exact ⟨hmessage, by decide, (hbetween _ _ _ hmessage (by decide)).2.2, htidy, hexpected,
    (hsaid "Error: <a\r\n> \u2028<" [0, 1, 2, 9]).2 hexpected⟩

end Formatter
end FilterEditor
