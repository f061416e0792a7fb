import FilterEditor.Json.Printer
import FilterEditor.Json.Reader
import Mathlib.Data.List.TakeWhile

/-!
# Proofs — Reading back

The reader undoes the printer: the compact text of plain data gives back the data
(`Plain.parse?_compact`).

* `readNumber_digits`, `readString_escape`: a number and a string are read back, whatever follows
  that does not make them longer.  `escape_cases` is the one place where an escape is opened.
* `Plain`: what a text can give back, with the levels of lists and objects that it takes.
* `ReadsBack`: the reader gets from the text of the data to what follows it, in as many steps as there
  are characters.  Lists and objects have it from their parts (`readValue_arr`, `readValue_obj`), and
  plain data has it throughout (`Plain.readsBack`).
-/

namespace FilterEditor.Json

/-! ### Numbers -/

/-- A text does not go on with what a number could take in. -/
def EndsNumber (rest : List Char) : Prop :=
  ∀ c ∈ rest.head?, c.isDigit = false ∧ c ≠ '.' ∧ c ≠ 'e' ∧ c ≠ 'E'

variable {rest : List Char} {n : Nat}

theorem isDigit_of_mem_digits {c : Char} (h : c ∈ digits n) : c.isDigit :=
  Nat.isDigit_of_mem_toDigits (by decide) (by decide) h

theorem exists_cons_digits (n : Nat) : ∃ d ds, digits n = d :: ds :=
  List.exists_cons_of_ne_nil Nat.toDigits_ne_nil

/-- No number but zero starts with the digit zero. -/
theorem head?_digits_ne_zero (h : 0 < n) : (digits n).head? ≠ some '0' := by
  induction n using Nat.strongRecOn with
  | _ n ih =>
      rw [digits, Nat.toDigits_eq_if (by decide)]
      split
      · simp [Nat.digitChar_eq_zero, Nat.ne_of_gt h]
      · have hlead := ih (n / 10) (by omega) (by omega)
        obtain ⟨d, ds, hdigits⟩ := exists_cons_digits (n / 10)
        rw [hdigits] at hlead
        rw [← digits, hdigits]
        exact hlead

theorem spanDigits_digits (h : EndsNumber rest) :
    spanDigits (digits n ++ rest) = (digits n, rest) := by
  have hdigits : ∀ c ∈ digits n, c.isDigit := fun c => isDigit_of_mem_digits
  have hrest : rest.takeWhile Char.isDigit = [] ∧ rest.dropWhile Char.isDigit = rest := by
    cases rest with
    | nil => exact ⟨rfl, rfl⟩
    | cons c cs => simp [(h c rfl).1]
  rw [spanDigits, List.takeWhile_append_of_pos hdigits, List.dropWhile_append_of_pos hdigits,
    hrest.1, hrest.2, List.append_nil]

theorem readInteger_digits (h : EndsNumber rest) :
    readInteger (digits n ++ rest) = some (digits n, rest) := by
  rw [readInteger, spanDigits_digits h]
  split
  · next heq => exact absurd (congrArg Prod.fst heq) Nat.toDigits_ne_nil
  · next d ds _ heq =>
      have hdigits : digits n = '0' :: d :: ds := congrArg Prod.fst heq
      rcases Nat.eq_zero_or_pos n with rfl | hpos
      · simp [digits] at hdigits
      · exact absurd (by rw [hdigits]; rfl) (head?_digits_ne_zero hpos)
  · next heq => rw [heq]

theorem readFraction_of_endsNumber (h : EndsNumber rest) : readFraction rest = some ([], rest) := by
  unfold readFraction
  split
  · exact absurd rfl (h _ rfl).2.1
  · rfl

theorem readExponent_of_endsNumber (h : EndsNumber rest) :
    readExponent rest = some (none, rest) := by
  cases rest with
  | nil => rfl
  | cons c cs =>
      obtain ⟨-, -, hsmall, hlarge⟩ := h c rfl
      simp [readExponent, hsmall, hlarge]

/-- Digits add to the number that the digits before them spell. -/
theorem le_ofDigitChars (ds : List Char) (value : Nat) : value ≤ Nat.ofDigitChars 10 ds value := by
  rw [Nat.ofDigitChars_eq_ofDigitChars_zero]
  exact Nat.le_trans (Nat.le_mul_of_pos_left value (Nat.pow_pos (by decide))) (Nat.le_add_right ..)

/-- Digits that spell a number of 64 bits are all taken. -/
theorem leading_eq {ds : List Char} {value : Nat} (count : Nat)
    (h : Nat.ofDigitChars 10 ds value < UInt64.size) :
    Magnitude.leading value count ds = (Nat.ofDigitChars 10 ds value, count + ds.length) := by
  induction ds generalizing value count with
  | nil => rfl
  | cons d ds ih =>
      rw [Nat.ofDigitChars_cons] at h ⊢
      have hnext := Nat.lt_of_le_of_lt (le_ofDigitChars ds _) h
      rw [Magnitude.leading, if_pos hnext, ih (count + 1) h, List.length_cons]
      congr 1
      omega

theorem isBeyond_digits (h : n < UInt64.size) : Magnitude.isBeyond (digits n) 0 = false := by
  have hvalue : Nat.ofDigitChars 10 (digits n) 0 = n := Nat.ofDigitChars_ten_toDigits
  have hleading := leading_eq 0 (hvalue.symm ▸ h)
  simp [Magnitude.isBeyond, hleading, Magnitude.maxPower]

/-- **A number** of 64 bits is read back. -/
theorem readNumber_digits (hn : n < UInt64.size) (h : EndsNumber rest) :
    readNumber (digits n ++ rest) = some (.nat n, rest) := by
  have hunsigned : readUnsigned false (digits n ++ rest) = some (.nat n, rest) := by
    have hvalue : ofDigits (digits n) = n := Nat.ofDigitChars_ten_toDigits
    simp [readUnsigned, readInteger_digits h, readFraction_of_endsNumber h,
      readExponent_of_endsNumber h, isBeyond_digits hn, hvalue]
  unfold readNumber
  split
  · next cs heq =>
      obtain ⟨d, ds, hdigits⟩ := exists_cons_digits n
      have hd : d.isDigit := isDigit_of_mem_digits (hdigits ▸ List.mem_cons_self ..)
      rw [hdigits] at heq
      cases heq
      cases hd
  · exact hunsigned

/-! ### Strings -/

/-- A character is escaped by a letter, by its number if it is another control character, or not at
all. -/
theorem escape_cases (c : Char) :
    (∃ letter, escape c = ['\\', letter] ∧ unescape letter = some c ∧ letter ≠ 'u' ∧
      0x20 ≤ letter.toNat) ∨
    (c.toNat < 0x20 ∧ escape c =
      ['\\', 'u', '0', '0', hexDigit (c.toNat / 16), hexDigit (c.toNat % 16)]) ∨
    (0x20 ≤ c.toNat ∧ c ≠ '"' ∧ c ≠ '\\' ∧ escape c = [c]) := by
  by_cases hletter : c ∈ ['"', '\\', '\x08', '\t', '\n', '\x0c', '\r']
  · simp only [List.mem_cons, List.not_mem_nil, or_false] at hletter
    rcases hletter with rfl | rfl | rfl | rfl | rfl | rfl | rfl <;>
      exact .inl ⟨_, rfl, rfl, by decide, by decide⟩
  · simp only [List.mem_cons, List.not_mem_nil, or_false, not_or] at hletter
    obtain ⟨hquote, hslash, hb, ht, hn, hf, hr⟩ := hletter
    have hescape : escape c = if c.toNat < 0x20 then
        ['\\', 'u', '0', '0', hexDigit (c.toNat / 16), hexDigit (c.toNat % 16)] else [c] := by
      simp only [escape, hquote, hslash, hb, ht, hn, hf, hr, if_false]
    by_cases hcontrol : c.toNat < 0x20
    · exact .inr (.inl ⟨hcontrol, hescape.trans (if_pos hcontrol)⟩)
    · exact .inr (.inr ⟨Nat.le_of_not_lt hcontrol, hquote, hslash,
        hescape.trans (if_neg hcontrol)⟩)

theorem hexValue_hexDigit : ∀ n < 16, hexValue (hexDigit n) = some n := by
  decide

/-- The four digits of a control character give it back. -/
theorem codePoint_hexDigits {c : Char} (hc : c.toNat < 0x20) (rest : List Char) :
    codePoint '0' '0' (hexDigit (c.toNat / 16)) (hexDigit (c.toNat % 16)) rest =
      some (some c, rest) := by
  have hzero : hexValue '0' = some 0 := rfl
  have hhigh := hexValue_hexDigit (c.toNat / 16) (by omega)
  have hlow := hexValue_hexDigit (c.toNat % 16) (by omega)
  have hvalue : ((0 * 16 + 0) * 16 + c.toNat / 16) * 16 + c.toNat % 16 = c.toNat := by omega
  have hsurrogate : isHighSurrogate c.toNat = false ∧ isLowSurrogate c.toNat = false := by
    simp only [isHighSurrogate, isLowSurrogate, Bool.and_eq_false_iff, decide_eq_false_iff_not]
    omega
  simp only [codePoint, hexValue4, hzero, hhigh, hlow, bind, Option.bind, pure, hvalue, hsurrogate,
    Bool.false_eq_true, if_false, Char.ofNat_toNat]

/-- A character is read back from its escape, whatever follows. -/
theorem readChar_escape (c : Char) (rest : List Char) :
    readChar (escape c ++ rest) = some (some c, rest) := by
  rcases escape_cases c with ⟨letter, hescape, hletter, hu, -⟩ | ⟨hcontrol, hescape⟩ |
      ⟨hle, -, hslash, hescape⟩ <;> rw [hescape]
  · simp [readChar, hletter, hu]
  · exact codePoint_hexDigits hcontrol rest
  · simp [readChar, hslash, Nat.not_lt.mpr hle]

/-- An escape does not begin with the quote that ends a string. -/
theorem head_escape_ne (c : Char) (rest back : List Char) : escape c ++ rest ≠ '"' :: back := by
  rcases escape_cases c with ⟨letter, hescape, -⟩ | ⟨-, hescape⟩ | ⟨-, hquote, -, hescape⟩ <;>
    simp [*]

/-- **A string** is read back up to its closing quote. -/
theorem readString_escape (cs rest : List Char) {fuel : Nat} (h : cs.length < fuel) :
    readString fuel (cs.flatMap escape ++ '"' :: rest) = some (some cs, rest) := by
  induction cs generalizing fuel with
  | nil =>
      obtain ⟨fuel, rfl⟩ := Nat.exists_eq_add_one_of_ne_zero (Nat.ne_of_gt h)
      rfl
  | cons c cs ih =>
      obtain ⟨fuel, rfl⟩ := Nat.exists_eq_add_one_of_ne_zero (Nat.ne_of_gt (Nat.zero_lt_of_lt h))
      rw [List.flatMap_cons, List.append_assoc, readString]
      · simp [readChar_escape, ih (Nat.lt_of_succ_lt_succ h)]
      · exact head_escape_ne c _

theorem length_le_flatMap_escape (cs : List Char) : cs.length ≤ (cs.flatMap escape).length := by
  induction cs with
  | nil => exact Nat.le_refl _
  | cons c cs ih =>
      have hpos : 0 < (escape c).length := by
        rcases escape_cases c with ⟨letter, hescape, -⟩ | ⟨-, hescape⟩ | ⟨-, -, -, hescape⟩ <;>
          simp [hescape]
      rw [List.flatMap_cons, List.length_append, List.length_cons]
      omega

/-! ### Values -/

/-- Data that a text gives back: integers of 64 bits, texts and truth values, in lists and objects
that are nested no deeper than so many levels. -/
inductive Plain : Nat → Json → Prop where
  | null {levels : Nat} : Plain levels .null
  | bool {levels : Nat} (value : Bool) : Plain levels (.bool value)
  | nat {levels n : Nat} (h : n < UInt64.size) : Plain levels (.nat n)
  | str {levels : Nat} (text : String) : Plain levels (.str text)
  | arr {levels : Nat} {items : List Json} (h : ∀ item ∈ items, Plain levels item) :
      Plain (levels + 1) (.arr items)
  | obj {levels : Nat} {members : List (String × Json)} (h : ∀ m ∈ members, Plain levels m.2) :
      Plain (levels + 1) (.obj members)

/-- The reader gives back the data from its text, in no more steps than the text has characters. -/
def ReadsBack (levels : Nat) (json : Json) : Prop :=
  ∀ fuel rest, (compactChars json).length ≤ fuel → EndsNumber rest →
    readValue fuel levels (compactChars json ++ rest) = some (json, rest)

theorem skipGaps_cons {c : Char} (h : isGap c = false) (cs : List Char) :
    skipGaps (c :: cs) = c :: cs := by
  rw [skipGaps, List.dropWhile_cons_of_neg (by simp [h])]

theorem endsNumber_cons {c : Char} (h : c.isDigit = false ∧ c ≠ '.' ∧ c ≠ 'e' ∧ c ≠ 'E')
    (rest : List Char) : EndsNumber (c :: rest) := by
  rintro _ ⟨⟩
  exact h

theorem isGap_of_isDigit {c : Char} (h : c.isDigit) : isGap c = false := by
  simp only [isGap, Bool.or_eq_false_iff, beq_eq_false_iff_ne]
  refine ⟨⟨⟨?_, ?_⟩, ?_⟩, ?_⟩ <;> rintro rfl <;> cases h

/-- The text of plain data begins with a character that is neither a gap nor a closing bracket. -/
theorem Plain.head {levels : Nat} {json : Json} (h : Plain levels json) :
    ∃ c cs, compactChars json = c :: cs ∧ isGap c = false ∧ c ≠ ']' := by
  cases h with
  | null => exact ⟨_, _, rfl, by decide, by decide⟩
  | bool value => cases value <;> exact ⟨_, _, rfl, by decide, by decide⟩
  | @nat _ n =>
      obtain ⟨d, ds, hdigits⟩ := exists_cons_digits n
      have hd : d.isDigit := isDigit_of_mem_digits (hdigits ▸ List.mem_cons_self ..)
      refine ⟨d, ds, hdigits, isGap_of_isDigit hd, ?_⟩
      rintro rfl
      cases hd
  | str text => exact ⟨_, _, rfl, by decide, by decide⟩
  | arr => exact ⟨'[', _, by rw [compactChars], by decide, by decide⟩
  | obj => exact ⟨'\x7b', _, by rw [compactChars], by decide, by decide⟩

theorem compactItems_cons (item : Json) {items : List Json} (h : items ≠ []) :
    compactItems (item :: items) = compactChars item ++ ',' :: compactItems items := by
  rw [compactItems]
  exact h

theorem compactMembers_cons (key : String) (value : Json) {members : List (String × Json)}
    (h : members ≠ []) :
    compactMembers ((key, value) :: members) =
      quote key ++ ':' :: compactChars value ++ ',' :: compactMembers members := by
  rw [compactMembers]
  exact h

section
variable {levels : Nat}

/-- The items of a list are read back up to its closing bracket. -/
theorem readItems_compactItems {items : List Json} (h : ∀ item ∈ items, ReadsBack levels item)
    (hne : items ≠ []) {fuel : Nat} (hfuel : (compactItems items).length ≤ fuel) (rest : List Char) :
    readItems fuel levels (compactItems items ++ rest) = some (items, rest) := by
  induction items generalizing fuel with
  | nil => exact absurd rfl hne
  | cons item items ih =>
      obtain ⟨hitem, hitems⟩ := List.forall_mem_cons.mp h
      by_cases hlast : items = []
      · subst hlast
        simp only [compactItems, List.length_append, List.length_singleton] at hfuel
        obtain ⟨fuel, rfl⟩ := Nat.exists_eq_add_of_le' (Nat.le_of_add_left_le hfuel)
        have hread := hitem fuel (']' :: rest) (Nat.le_of_succ_le_succ hfuel)
          (endsNumber_cons (by decide) rest)
        simp only [compactItems, List.append_assoc, List.singleton_append, readItems, hread]
        rfl
      · rw [compactItems_cons item hlast, List.length_append, List.length_cons] at hfuel
        obtain ⟨fuel, rfl⟩ := Nat.exists_eq_add_of_le' (show 1 ≤ fuel by omega)
        have hread := hitem fuel (',' :: (compactItems items ++ rest)) (by omega)
          (endsNumber_cons (by decide) _)
        have hmore := ih hitems hlast (show (compactItems items).length ≤ fuel by omega)
        rw [compactItems_cons item hlast, List.append_assoc, List.cons_append, readItems, hread]
        simp only [bind, Option.bind, skipGaps_cons (show isGap ',' = false by decide), hmore,
          Option.map_some]

theorem consMember_some (key : String) (value : Json) (members : List (String × Json)) :
    consMember (some key.toList) value (some members) = some ((key, value) :: members) := by
  simp [consMember]

/-- A member is read back, and what comes after it tells whether there are more. -/
theorem readMembers_quote {key : String} {value : Json} (hvalue : ReadsBack levels value)
    {fuel : Nat} (hkey : key.toList.length < fuel) (hfuel : (compactChars value).length ≤ fuel)
    (rest : List Char) :
    readMembers (fuel + 1) levels (quote key ++ ':' :: compactChars value ++ '\x7d' :: rest) =
        some (some [(key, value)], rest) ∧
      readMembers (fuel + 1) levels (quote key ++ ':' :: compactChars value ++ ',' :: rest) =
        (readMembers fuel levels rest).map fun (members, rest) =>
          (consMember (some key.toList) value members, rest) := by
  have hread {c : Char} (hc : c.isDigit = false ∧ c ≠ '.' ∧ c ≠ 'e' ∧ c ≠ 'E') :=
    hvalue fuel (c :: rest) hfuel (endsNumber_cons hc rest)
  have hstring (back : List Char) := readString_escape key.toList back hkey
  simp only [quote, List.append_assoc, List.cons_append, List.nil_append, readMembers,
    skipGaps_cons (show isGap '"' = false by decide), hstring, bind, Option.bind,
    skipGaps_cons (show isGap ':' = false by decide),
    hread (c := '\x7d') (by decide), hread (c := ',') (by decide),
    skipGaps_cons (show isGap '\x7d' = false by decide),
    skipGaps_cons (show isGap ',' = false by decide), pure, consMember_some, true_and]

/-- The members of an object are read back up to its closing brace. -/
theorem readMembers_compactMembers {members : List (String × Json)}
    (h : ∀ m ∈ members, ReadsBack levels m.2) (hne : members ≠ []) {fuel : Nat}
    (hfuel : (compactMembers members).length ≤ fuel) (rest : List Char) :
    readMembers fuel levels (compactMembers members ++ rest) = some (some members, rest) := by
  induction members generalizing fuel with
  | nil => exact absurd rfl hne
  | cons m members ih =>
      obtain ⟨key, value⟩ := m
      obtain ⟨hvalue, hmembers⟩ := List.forall_mem_cons.mp h
      have hkey := length_le_flatMap_escape key.toList
      by_cases hlast : members = []
      · subst hlast
        simp only [compactMembers, quote, List.length_append, List.length_cons,
          List.length_nil] at hfuel
        obtain ⟨fuel, rfl⟩ := Nat.exists_eq_add_of_le' (show 1 ≤ fuel by omega)
        have hread := (readMembers_quote hvalue (show key.toList.length < fuel by omega)
          (show (compactChars value).length ≤ fuel by omega) rest).1
        rw [compactMembers, List.append_assoc]
        exact hread
      · rw [compactMembers_cons key value hlast] at hfuel ⊢
        simp only [quote, List.length_append, List.length_cons, List.length_nil] at hfuel
        obtain ⟨fuel, rfl⟩ := Nat.exists_eq_add_of_le' (show 1 ≤ fuel by omega)
        have hread := (readMembers_quote hvalue (show key.toList.length < fuel by omega)
          (show (compactChars value).length ≤ fuel by omega) (compactMembers members ++ rest)).2
        have hmore := ih hmembers hlast (show (compactMembers members).length ≤ fuel by omega)
        rw [List.append_assoc, List.cons_append, hread, hmore, Option.map_some]
        simp only [consMember_some]

/-- A value that begins with a digit is a number. -/
theorem readValue_digit {d : Char} (hd : d.isDigit) (fuel : Nat) (cs : List Char) :
    readValue (fuel + 1) levels (d :: cs) = readNumber (d :: cs) := by
  rw [readValue, skipGaps_cons (isGap_of_isDigit hd)]
  split <;> first | rfl | (next heq => cases heq; cases hd)

theorem readValue_arr {items : List Json} (hplain : ∀ item ∈ items, Plain levels item)
    (h : ∀ item ∈ items, ReadsBack levels item) {fuel : Nat}
    (hfuel : (compactItems items).length ≤ fuel) (rest : List Char) :
    readValue (fuel + 1) (levels + 1) ('[' :: (compactItems items ++ rest)) =
      some (.arr items, rest) := by
  rw [readValue, skipGaps_cons (by decide)]
  cases items with
  | nil => rfl
  | cons item items =>
      have hne : item :: items ≠ [] := List.cons_ne_nil item items
      have hread := readItems_compactItems h hne hfuel rest
      -- the first item does not begin like the end of a list
      obtain ⟨c, cs, hchars, hgap, hc⟩ := (hplain item (List.mem_cons_self ..)).head
      obtain ⟨back, hback⟩ : ∃ back, compactItems (item :: items) ++ rest = c :: back := by
        cases items <;> simp [compactItems, hchars]
      rw [hback] at hread ⊢
      simp only [skipGaps_cons hgap, Nat.add_sub_cancel]
      split
      · next heq => exact absurd (List.cons.inj heq).1 hc
      · rw [hread]
        rfl

theorem readValue_obj {members : List (String × Json)} (h : ∀ m ∈ members, ReadsBack levels m.2)
    {fuel : Nat} (hfuel : (compactMembers members).length ≤ fuel) (rest : List Char) :
    readValue (fuel + 1) (levels + 1) ('\x7b' :: (compactMembers members ++ rest)) =
      some (.obj members, rest) := by
  rw [readValue, skipGaps_cons (by decide)]
  cases members with
  | nil => rfl
  | cons m members =>
      have hne : m :: members ≠ [] := List.cons_ne_nil m members
      have hread := readMembers_compactMembers h hne hfuel rest
      obtain ⟨back, hback⟩ : ∃ back, compactMembers (m :: members) ++ rest = '"' :: back := by
        cases members <;> simp [compactMembers, quote]
      rw [hback] at hread ⊢
      simp only [skipGaps_cons (show isGap '"' = false by decide), Nat.add_sub_cancel]
      split
      · next heq => cases heq
      · rw [hread]
        rfl

end

/-- Every text takes one step at least. -/
theorem Plain.readsBack_of_succ {levels : Nat} {json : Json} (h : Plain levels json)
    (hread : ∀ fuel rest, (compactChars json).length ≤ fuel + 1 → EndsNumber rest →
      readValue (fuel + 1) levels (compactChars json ++ rest) = some (json, rest)) :
    ReadsBack levels json := by
  intro fuel rest hfuel hrest
  obtain ⟨c, cs, hchars, -, -⟩ := h.head
  have hpos : 1 ≤ fuel := Nat.le_of_add_left_le (hchars ▸ hfuel)
  obtain ⟨fuel, rfl⟩ := Nat.exists_eq_add_of_le' hpos
  exact hread fuel rest hfuel hrest

/-- **Plain data** is read back from its compact text, whatever follows that does not make a number
longer. -/
theorem Plain.readsBack {levels : Nat} {json : Json} (h : Plain levels json) :
    ReadsBack levels json := by
  induction h with
  | null => exact Plain.null.readsBack_of_succ fun _ _ _ _ => rfl
  | bool value =>
      refine (Plain.bool value).readsBack_of_succ fun _ _ _ _ => ?_
      cases value <;> rfl
  | @nat levels n hn =>
      refine (Plain.nat hn).readsBack_of_succ fun fuel rest _ hrest => ?_
      have hread := readNumber_digits hn hrest
      obtain ⟨d, ds, hdigits⟩ := exists_cons_digits n
      have hd : d.isDigit := isDigit_of_mem_digits (hdigits ▸ List.mem_cons_self ..)
      simp only [compactChars, scalar]
      rw [hdigits] at hread ⊢
      rw [List.cons_append, readValue_digit hd, ← List.cons_append, hread]
  | str text =>
      refine (Plain.str text).readsBack_of_succ fun fuel rest hfuel _ => ?_
      have hchars := length_le_flatMap_escape text.toList
      simp only [compactChars, scalar, quote, List.length_append, List.length_cons,
        List.length_nil] at hfuel
      have hread := readString_escape text.toList rest (show text.toList.length < fuel by omega)
      simp only [compactChars, scalar, quote, List.append_assoc, List.cons_append, List.nil_append,
        readValue, skipGaps_cons (show isGap '"' = false by decide), hread, Option.map_some, ofChars,
        String.ofList_toList]
  | arr h ih =>
      refine (Plain.arr h).readsBack_of_succ fun fuel rest hfuel _ => ?_
      rw [compactChars, List.length_cons] at hfuel
      rw [compactChars, List.cons_append]
      exact readValue_arr h ih (Nat.le_of_succ_le_succ hfuel) rest
  | obj h ih =>
      refine (Plain.obj h).readsBack_of_succ fun fuel rest hfuel _ => ?_
      rw [compactChars, List.length_cons] at hfuel
      rw [compactChars, List.cons_append]
      exact readValue_obj ih (Nat.le_of_succ_le_succ hfuel) rest

/-- **The reader undoes the printer** on plain data that is nested no deeper than it reads. -/
theorem Plain.parse?_compact {json : Json} (h : Plain maxLevels json) :
    parse? json.compact = some json := by
  have hfuel : (compactChars json).length ≤ stepsFor json.compact.length := by
    simp only [stepsFor, compact, String.length_ofList]
    omega
  have hread := h.readsBack _ [] hfuel nofun
  rw [List.append_nil] at hread
  rw [parse?, compact, String.toList_ofList, ← compact, hread]
  rfl

theorem areReadable_iff {items : List Json} :
    areReadable items ↔ ∀ item ∈ items, item.isReadable := by
  induction items with
  | nil => simp [areReadable]
  | cons item items ih => rw [areReadable, Bool.and_eq_true, ih, List.forall_mem_cons]

theorem haveReadable_iff {members : List (String × Json)} :
    haveReadable members ↔ ∀ m ∈ members, m.2.isReadable := by
  induction members with
  | nil => simp [haveReadable]
  | cons m members ih => rw [haveReadable, Bool.and_eq_true, ih, List.forall_mem_cons]

/-- Plain data has a value throughout. -/
theorem Plain.isReadable {levels : Nat} {json : Json} (h : Plain levels json) : json.isReadable := by
  induction h with
  | null | bool | nat | str => rfl
  | arr _ ih => rwa [Json.isReadable, areReadable_iff]
  | obj _ ih => rwa [Json.isReadable, haveReadable_iff]

end FilterEditor.Json
