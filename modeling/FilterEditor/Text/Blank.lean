import FilterEditor.Text.Cut

/-!
# Text — Blank

The blank characters are the twenty-five with the Unicode property White_Space.  `trim` takes them
off both ends of a text, `words` cuts a text at them, and `collapse` puts the words back together
with one space between neighbours, so that a collapsed text has single inner spaces and nothing
else that is blank.
-/

namespace FilterEditor.Text

/-- A character with the Unicode property White_Space. -/
def isBlank (c : Char) : Bool :=
  let n := c.toNat
  (0x09 ≤ n && n ≤ 0x0D) || n == 0x20 || n == 0x85 || n == 0xA0 || n == 0x1680 ||
  (0x2000 ≤ n && n ≤ 0x200A) || n == 0x2028 || n == 0x2029 || n == 0x202F || n == 0x205F ||
  n == 0x3000

/-- The text without its leading blanks. -/
def trimStart (cs : List Char) : List Char :=
  cs.dropWhile isBlank

/-- The text without the blanks at its two ends. -/
def trim (cs : List Char) : List Char :=
  (trimStart (trimStart cs).reverse).reverse

/-- The maximal runs of characters that are not blank, in order. -/
def words (cs : List Char) : List (List Char) :=
  (pieces isBlank cs).filter (!·.isEmpty)

/-- The words of the text, with one space between neighbours. -/
def collapse (cs : List Char) : List Char :=
  List.intercalate [' '] (words cs)

/-! ### Words -/

@[simp] theorem trim_nil : trim [] = [] := rfl

@[simp] theorem words_nil : words [] = [] := rfl

/-- A blank ends one word, if any, and belongs to none. -/
theorem words_append_cons {c : Char} (hc : isBlank c) (xs ys : List Char) :
    words (xs ++ c :: ys) = words xs ++ words ys := by
  simp [words, pieces_append_cons hc]

/-- A word is not empty, and is made of characters of the text, none of them blank. -/
theorem mem_words {cs w : List Char} (h : w ∈ words cs) :
    w ≠ [] ∧ ∀ c ∈ w, c ∈ cs ∧ isBlank c = false := by
  obtain ⟨hpiece, hne⟩ := List.mem_filter.mp h
  exact ⟨by simpa using hne, not_of_mem_pieces hpiece⟩

/-- A text without blanks is collapsed already. -/
theorem collapse_of_not_blank {cs : List Char} (h : ∀ c ∈ cs, isBlank c = false) :
    collapse cs = cs := by
  rw [collapse, words, pieces_eq_singleton h]
  cases cs with
  | nil => rfl
  | cons c cs => exact List.intercalate_singleton

end FilterEditor.Text
