import FilterEditor.Completion.Selector

/-!
# Proofs — Selectors

Accepting a candidate for a selector leads on to a known selector (`completion_progresses`).

A selector is a name, or a path below a name (`name_or_path`), and what is offered depends on what
the schema knows of it (`selector_unknown` to `selector_below`).  Whatever is offered, it is one of
three things: a field for an unknown name, a dot after a name with something below it, or an
attribute for the rest of a path (`offers_cases`).

Each of them takes the selector one stage further: an unknown name, a known one, a path, a known
path.  `Schema.remaining` counts the stages that are left, and `Offers.remaining_lt` that an
acceptance uses one up.  So no more than three can follow one another, and at the end nothing is
offered.
-/

namespace FilterEditor
open Text

/-- Something can stand below the field: the keys of a map, or attributes. -/
def Field.HasParts (field : Field) : Prop :=
  field.isMap ∨ field.attributes ≠ []

/-- A selector is a name, or goes on after its first dot. -/
theorem name_or_path (image : String) :
    '.' ∉ image.toList ∨ ∃ top sub, image = top ++ "." ++ sub ∧ '.' ∉ top.toList := by
  cases hcut : splitFirst '.' image.toList with
  | none => exact .inl (splitFirst_eq_none_iff.mp hcut)
  | some halves =>
      obtain ⟨top, sub⟩ := halves
      refine .inr ⟨String.ofList top, String.ofList sub, ?_, ?_⟩
      · rw [← String.toList_inj, eq_append_of_splitFirst hcut]
        simp
      · simpa using not_mem_of_splitFirst hcut

/-! ### What is offered -/

namespace Completion
variable {schema : Schema} {token : SelectorToken} {field : Field} {top sub : String}

theorem selector_name (h : '.' ∉ token.image.toList) :
    selector schema token = .ok (nameCandidates schema token) := by
  rw [selector, splitFirst_eq_none_iff.mpr h]

/-- Every field is offered for an unknown name. -/
theorem selector_unknown (hname : '.' ∉ token.image.toList)
    (hunknown : schema.get? token.image = none) :
    selector schema token = .ok (some (schema.names.map fun name =>
      { start := token.start, stop := token.stop, label := some token.image, text := name })) := by
  rw [selector_name hname]
  simp [nameCandidates, Schema.hasAttributes_name hname, Schema.containsPath_name hname,
    Schema.isMap, hunknown]

/-- A dot is offered after a name with something below it. -/
theorem selector_parted (hname : '.' ∉ token.image.toList)
    (hfield : schema.get? token.image = some field) (hparts : field.HasParts) :
    selector schema token =
      .ok (some [{ start := token.stop, stop := token.stop, text := "." }]) := by
  have hopen : schema.hasAttributes token.image || schema.isMap token.image := by
    simpa [Schema.hasAttributes_name hname, Schema.isMap, hfield] using hparts.symm
  rw [selector_name hname, nameCandidates, if_pos hopen]

theorem selector_plain (hname : '.' ∉ token.image.toList)
    (hfield : schema.get? token.image = some field) (hparts : ¬ field.HasParts) :
    selector schema token = .ok none := by
  simp only [Field.HasParts, not_or, ne_eq, Decidable.not_not] at hparts
  rw [selector_name hname]
  simp [nameCandidates, Schema.hasAttributes_name hname, Schema.containsPath_name hname,
    Schema.isMap, hfield, hparts]

/-- Nothing is offered for a path that is known. -/
theorem selector_known (hpath : '.' ∈ token.image.toList)
    (hknown : schema.containsPath token.image) : selector schema token = .ok none := by
  cases hcut : splitFirst '.' token.image.toList with
  | none => exact absurd hpath (splitFirst_eq_none_iff.mp hcut)
  | some halves => simp [selector, hcut, hknown]

theorem splitFirst_image (himage : token.image = top ++ "." ++ sub) (htop : '.' ∉ top.toList) :
    splitFirst '.' token.image.toList = some (top.toList, sub.toList) := by
  rw [himage, Schema.splitFirst_path htop]

/-- Nothing is offered below a name that is unknown or that of a map. -/
theorem selector_free (himage : token.image = top ++ "." ++ sub) (htop : '.' ∉ top.toList)
    (hfree : ∀ field, schema.get? top = some field → field.isMap) :
    selector schema token = .ok none := by
  simp only [selector, splitFirst_image himage htop, String.ofList_toList]
  cases hfield : schema.get? top with
  | none => simp
  | some field => simp [hfree field hfield]

/-- The attributes of a field are offered for the rest of a path, once its place is found. -/
theorem selector_below (himage : token.image = top ++ "." ++ sub) (htop : '.' ∉ top.toList)
    (hfield : schema.get? top = some field) (hmap : ¬ field.isMap)
    (hunknown : ¬ schema.containsPath token.image) :
    selector schema token =
      (addOffset token.start (top.length + 1)).map fun start =>
        some (attributeCandidates field sub start token.stop) := by
  simp only [selector, splitFirst_image himage htop, String.ofList_toList, hunknown, hfield, hmap,
    if_false, Bool.false_eq_true, String.length_toList]
  rfl

/-- Everything that completing a selector can come to. -/
inductive Outcome (schema : Schema) (token : SelectorToken) :
    Except Fault (Option (List Candidate)) → Prop where
  | unknown (hname : '.' ∉ token.image.toList) (hunknown : schema.get? token.image = none) :
      Outcome schema token (.ok (some (schema.names.map fun name =>
        { start := token.start, stop := token.stop, label := some token.image, text := name })))
  | parted (hname : '.' ∉ token.image.toList) {field : Field}
      (hfield : schema.get? token.image = some field) (hparts : field.HasParts) :
      Outcome schema token (.ok (some [{ start := token.stop, stop := token.stop, text := "." }]))
  | plain (hname : '.' ∉ token.image.toList) {field : Field}
      (hfield : schema.get? token.image = some field) (hparts : ¬ field.HasParts) :
      Outcome schema token (.ok none)
  | known (hpath : '.' ∈ token.image.toList) (hknown : schema.containsPath token.image) :
      Outcome schema token (.ok none)
  | free {top sub : String} (himage : token.image = top ++ "." ++ sub) (htop : '.' ∉ top.toList)
      (hfree : ∀ field, schema.get? top = some field → field.isMap) :
      Outcome schema token (.ok none)
  | below {top sub : String} (himage : token.image = top ++ "." ++ sub) (htop : '.' ∉ top.toList)
      {field : Field} (hfield : schema.get? top = some field) (hmap : ¬ field.isMap)
      (hunknown : ¬ schema.containsPath token.image)
      (hlimit : token.start + (top.length + 1) < offsetLimit) :
      Outcome schema token
        (.ok (some (attributeCandidates field sub (token.start + (top.length + 1)) token.stop)))
  | overflow {top sub : String} (himage : token.image = top ++ "." ++ sub)
      (hlimit : offsetLimit ≤ token.start + (top.length + 1)) :
      Outcome schema token (.error .overflow)

theorem selector_outcome (schema : Schema) (token : SelectorToken) :
    Outcome schema token (selector schema token) := by
  rcases name_or_path token.image with hname | ⟨top, sub, himage, htop⟩
  · cases hfield : schema.get? token.image with
    | none =>
        rw [selector_unknown hname hfield]
        exact .unknown hname hfield
    | some field =>
        by_cases hparts : field.HasParts
        · rw [selector_parted hname hfield hparts]
          exact .parted hname hfield hparts
        · rw [selector_plain hname hfield hparts]
          exact .plain hname hfield hparts
  · by_cases hknown : schema.containsPath token.image
    · have hpath : '.' ∈ token.image.toList := by simp [himage]
      rw [selector_known hpath hknown]
      exact .known hpath hknown
    by_cases hfree : ∀ field, schema.get? top = some field → field.isMap
    · rw [selector_free himage htop hfree]
      exact .free himage htop hfree
    · obtain ⟨field, hfield⟩ := Classical.not_forall.mp hfree
      obtain ⟨hfield, hmap⟩ := Classical.not_imp.mp hfield
      rw [selector_below himage htop hfield hmap hknown]
      rcases Nat.lt_or_ge (token.start + (top.length + 1)) offsetLimit with hlimit | hlimit
      · rw [addOffset_of_lt hlimit]
        exact .below himage htop hfield hmap hknown hlimit
      · rw [addOffset_of_le hlimit]
        exact .overflow himage hlimit

end Completion

/-! ### Accepting a candidate -/

/-- The candidate is one of those offered for the selector. -/
def Schema.Offers (schema : Schema) (token : SelectorToken) (c : Candidate) : Prop :=
  ∃ candidates, Completion.selector schema token = .ok (some candidates) ∧ c ∈ candidates

instance (schema : Schema) (token : SelectorToken) (c : Candidate) :
    Decidable (schema.Offers token c) :=
  match h : Completion.selector schema token with
  | .ok (some candidates) => decidable_of_iff (c ∈ candidates) (by simp [Schema.Offers, h])
  | .ok none => .isFalse (by simp [Schema.Offers, h])
  | .error _ => .isFalse (by simp [Schema.Offers, h])

namespace SelectorToken

/-- The token ends where its image does, and that is at an offset. -/
def IsPlaced (token : SelectorToken) : Prop :=
  token.stop = token.start + token.image.length ∧ token.stop < offsetLimit

instance (token : SelectorToken) : Decidable token.IsPlaced :=
  inferInstanceAs (Decidable (_ ∧ _))

/-- The token with the text of the candidate in place of what stands from the candidate's start on.
-/
def accept (token : SelectorToken) (c : Candidate) : SelectorToken :=
  let image := String.ofList (token.image.toList.take (c.start - token.start)) ++ c.text
  { image, start := token.start, stop := token.start + image.length }

end SelectorToken

/-- The second selector comes from the first one by so many candidates, each offered for the
selector that the one before it led to. -/
inductive Schema.Completes (schema : Schema) : Nat → SelectorToken → SelectorToken → Prop where
  | refl (token : SelectorToken) : schema.Completes 0 token token
  | accept {n : Nat} {token token' : SelectorToken} {c : Candidate} (hc : schema.Offers token c)
      (h : schema.Completes n (token.accept c) token') :
      schema.Completes (n + 1) token token'

/-- How many stages a selector has before it, at most: an unknown name, a known one, a path, and a
path that is known. -/
def Schema.remaining (schema : Schema) (image : String) : Nat :=
  if '.' ∈ image.toList then if schema.containsPath image then 0 else 1
  else if (schema.get? image).isSome then 2 else 3

section
variable {schema : Schema} {token token' : SelectorToken} {field : Field} {c : Candidate}
  {top sub : String}

/-- What is offered is a field, a dot, or an attribute. -/
theorem offers_cases (h : schema.Offers token c) :
    ('.' ∉ token.image.toList ∧ schema.get? token.image = none ∧ ∃ name ∈ schema.names,
        c = { start := token.start, stop := token.stop, label := some token.image, text := name }) ∨
      ('.' ∉ token.image.toList ∧
        (∃ field, schema.get? token.image = some field ∧ field.HasParts) ∧
        c = { start := token.stop, stop := token.stop, text := "." }) ∨
      ∃ top sub field, token.image = top ++ "." ++ sub ∧ '.' ∉ top.toList ∧
        schema.get? top = some field ∧ ¬ schema.containsPath token.image ∧
        c.start = token.start + (top.length + 1) ∧ c.stop = token.stop ∧
        c.text ∈ field.attributes := by
  obtain ⟨candidates, hoffered, hc⟩ := h
  have houtcome := Completion.selector_outcome schema token
  rw [hoffered] at houtcome
  cases houtcome with
  | unknown hname hunknown =>
      obtain ⟨name, hmem, rfl⟩ := List.mem_map.mp hc
      exact .inl ⟨hname, hunknown, name, hmem, rfl⟩
  | parted hname hfield hparts =>
      exact .inr (.inl ⟨hname, ⟨_, hfield, hparts⟩, List.mem_singleton.mp hc⟩)
  | below himage htop hfield hmap hunknown hlimit =>
      obtain ⟨name, hname, rfl⟩ := List.mem_map.mp hc
      exact .inr (.inr ⟨_, _, _, himage, htop, hfield, hunknown, rfl, rfl, hname⟩)

/-! ### What becomes of the image -/

/-- A candidate is put after some of the image. -/
theorem exists_image_accept (token : SelectorToken) (c : Candidate) :
    ∃ front, (token.accept c).image = front ++ c.text ∧
      ∀ d ∈ front.toList, d ∈ token.image.toList := by
  refine ⟨_, rfl, fun d hd => ?_⟩
  rw [String.toList_ofList] at hd
  exact List.mem_of_mem_take hd

/-- A candidate that starts where the image ends is put after it. -/
theorem image_accept_end (hplaced : token.IsPlaced) (hstart : c.start = token.stop) :
    (token.accept c).image = token.image ++ c.text := by
  have hlength : c.start - token.start = token.image.toList.length := by
    rw [hstart, hplaced.1, Nat.add_sub_cancel_left, String.length_toList]
  rw [SelectorToken.accept, hlength, List.take_length, String.ofList_toList]

/-- A candidate that starts where the image does takes its place. -/
theorem image_accept_start (hstart : c.start = token.start) : (token.accept c).image = c.text := by
  simp [SelectorToken.accept, hstart]

/-- A candidate that starts after the dot of a path takes the place of the rest. -/
theorem image_accept_below (himage : token.image = top ++ "." ++ sub)
    (hstart : c.start = token.start + (top.length + 1)) :
    (token.accept c).image = top ++ "." ++ c.text := by
  have hlength : c.start - token.start = (top ++ ".").toList.length := by
    rw [hstart, Nat.add_sub_cancel_left, String.length_toList, String.length_append]
    rfl
  have hsplit : token.image.toList = (top ++ ".").toList ++ sub.toList := by
    rw [himage, ← String.toList_append]
  rw [SelectorToken.accept, hlength, hsplit, List.take_left, String.ofList_toList]

/-- No path ends at its dot. -/
theorem not_containsPath_dot (hname : '.' ∉ top.toList) : ¬ schema.containsPath (top ++ ".") := by
  have hpath : top ++ "." = top ++ "." ++ "" := by simp
  rw [hpath, Schema.containsPath_path hname]
  simp

/-- A path to an attribute is known. -/
theorem containsPath_attribute {name : String} (htop : '.' ∉ top.toList)
    (hfield : schema.get? top = some field) (hname : name ∈ field.attributes) (hne : name ≠ "") :
    schema.containsPath (top ++ "." ++ name) :=
  (Schema.containsPath_path htop).mpr ⟨field, hfield, hne, name, hname, sameAscii_iff.mpr rfl⟩

/-! ### One stage further -/

namespace Schema

theorem remaining_le (schema : Schema) (image : String) : schema.remaining image ≤ 3 := by
  unfold remaining
  split <;> split <;> decide

theorem known_of_remaining {image : String} (h : schema.remaining image = 0) :
    '.' ∈ image.toList ∧ schema.containsPath image := by
  unfold remaining at h
  split at h <;> split at h <;> simp_all

/-- What an accepted candidate leads to: a name with a dot after it, or a known selector. -/
theorem Offers.accepted {fields : List Field} (h : (ofFields fields).Offers token c)
    (hnames : ∀ name ∈ (ofFields fields).names, '.' ∉ name.toList)
    (hattributes : ∀ field ∈ (ofFields fields).fields, ∀ name ∈ field.attributes, name ≠ "")
    (hplaced : token.IsPlaced) :
    ((token.accept c).image = token.image ++ "." ∧
        ∃ field, (ofFields fields).get? token.image = some field ∧ field.HasParts) ∨
      (ofFields fields).containsPath (token.accept c).image := by
  rcases offers_cases h with ⟨-, -, name, hname, rfl⟩ | ⟨-, hfield, rfl⟩ |
      ⟨top, sub, field, himage, htop, hfield, -, hstart, -, htext⟩
  · right
    rw [image_accept_start rfl, containsPath_name (hnames name hname)]
    exact isSome_get?_of_mem_names hname
  · left
    exact ⟨image_accept_end hplaced rfl, hfield⟩
  · right
    rw [image_accept_below himage hstart]
    exact containsPath_attribute htop hfield htext
      (hattributes field (mem_fields_of_get? hfield) _ htext)

/-- **An acceptance uses up a stage.** -/
theorem Offers.remaining_lt {fields : List Field} (h : (ofFields fields).Offers token c)
    (hattributes : ∀ field ∈ (ofFields fields).fields, ∀ name ∈ field.attributes, name ≠ "") :
    (ofFields fields).remaining (token.accept c).image < (ofFields fields).remaining token.image := by
  rcases offers_cases h with ⟨hdot, hunknown, name, hname, rfl⟩ | ⟨hdot, ⟨field, hfield, -⟩, rfl⟩ |
      ⟨top, sub, field, himage, htop, hfield, hknown, hstart, -, htext⟩
  · have hold : (ofFields fields).remaining token.image = 3 := by
      simp [remaining, hdot, hunknown]
    rw [hold, image_accept_start rfl, remaining, if_pos (isSome_get?_of_mem_names hname)]
    split
    · split <;> decide
    · decide
  · have hold : (ofFields fields).remaining token.image = 2 := by
      simp [remaining, hdot, hfield]
    obtain ⟨front, himage, hfront⟩ := exists_image_accept token ⟨token.stop, token.stop, none, "."⟩
    have hnew : '.' ∈ (front ++ ".").toList := by simp
    rw [hold, himage, remaining, if_pos hnew,
      if_neg (not_containsPath_dot fun hmem => hdot (hfront _ hmem))]
    decide
  · have hold : (ofFields fields).remaining token.image = 1 := by
      have hpath : '.' ∈ token.image.toList := by simp [himage]
      rw [remaining, if_pos hpath, if_neg hknown]
    have hnew : '.' ∈ (top ++ "." ++ c.text).toList := by simp
    have hfound : (ofFields fields).containsPath (top ++ "." ++ c.text) :=
      containsPath_attribute htop hfield htext
        (hattributes field (mem_fields_of_get? hfield) _ htext)
    rw [hold, image_accept_below himage hstart, remaining, if_pos hnew, if_pos hfound]
    decide

/-- So many candidates use up as many stages. -/
theorem Completes.add_remaining_le {fields : List Field} {n : Nat}
    (h : (ofFields fields).Completes n token token')
    (hattributes : ∀ field ∈ (ofFields fields).fields, ∀ name ∈ field.attributes, name ≠ "") :
    n + (ofFields fields).remaining token'.image ≤ (ofFields fields).remaining token.image := by
  induction h with
  | refl token => exact Nat.le_of_eq (Nat.zero_add _)
  | accept hc _ ih =>
      have hlt := hc.remaining_lt hattributes
      omega

end Schema

/-- A path has its dot before its end. -/
theorem below_le (himage : token.image = top ++ "." ++ sub) :
    token.start + (top.length + 1) ≤ token.start + token.image.length := by
  have hlength : token.image.length = top.length + 1 + sub.length := by
    rw [himage, String.length_append, String.length_append]
    rfl
  omega

/-- There is no fault if the token ends at an offset. -/
theorem selector_ok (schema : Schema)
    (hlimit : token.start + token.image.length < offsetLimit) :
    ∃ offered, Completion.selector schema token = .ok offered := by
  have houtcome := Completion.selector_outcome schema token
  cases hselector : Completion.selector schema token with
  | ok offered => exact ⟨offered, rfl⟩
  | error fault =>
      rw [hselector] at houtcome
      cases houtcome with
      | overflow himage hover =>
          have hle := below_le himage
          omega

/-- **A completion makes progress.**  For a selector that is placed there is no fault.  What is
offered lies within its range, and leads to a name with a dot after it, where there is something
below the name, or to a known selector.  After three candidates, at the latest, nothing more is
offered. -/
theorem completion_progresses (fields : List Field)
    (hnames : ∀ name ∈ (Schema.ofFields fields).names, '.' ∉ name.toList)
    (hattributes : ∀ field ∈ (Schema.ofFields fields).fields, ∀ name ∈ field.attributes,
      name ≠ "") :
    let schema := Schema.ofFields fields
    (∀ token : SelectorToken, token.IsPlaced →
      (∃ offered, Completion.selector schema token = .ok offered) ∧
        ∀ c, schema.Offers token c →
          (token.start ≤ c.start ∧ c.start ≤ c.stop ∧ c.stop = token.stop) ∧
            ((token.accept c).image = token.image ++ "." ∧
                (∃ field, schema.get? token.image = some field ∧ field.HasParts) ∨
              schema.containsPath (token.accept c).image)) ∧
      ∀ n token token', schema.Completes n token token' →
        n ≤ 3 ∧ (n = 3 → Completion.selector schema token' = .ok none) := by
  intro schema
  refine ⟨fun token hplaced => ?_, fun n token token' h => ?_⟩
  · have hstop := hplaced.1
    refine ⟨selector_ok schema (hstop ▸ hplaced.2), fun c hc =>
      ⟨?_, hc.accepted hnames hattributes hplaced⟩⟩
    rcases offers_cases hc with ⟨-, -, name, -, rfl⟩ | ⟨-, -, rfl⟩ |
        ⟨top, sub, field, himage, -, -, -, hstart, hend, -⟩
    · exact ⟨Nat.le_refl _, hstop ▸ Nat.le_add_right .., rfl⟩
    · exact ⟨hstop ▸ Nat.le_add_right .., Nat.le_refl _, rfl⟩
    · rw [hstart, hend, hstop]
      exact ⟨Nat.le_add_right .., below_le himage, rfl⟩
  · have hstages := h.add_remaining_le hattributes
    have hthree := (Schema.ofFields fields).remaining_le token.image
    refine ⟨by omega, fun hn => ?_⟩
    have hzero : (Schema.ofFields fields).remaining token'.image = 0 := by omega
    obtain ⟨hpath, hknown⟩ := Schema.known_of_remaining hzero
    exact Completion.selector_known hpath hknown

end

/-- A field of each kind, one of them given in capitals. -/
def kindsOfFields : List Field :=
  [.plain "id", .map "at", .reference "DS" ["k", "v"]]

/-- All three stages, the first from a part of the name in a capital. -/
theorem completion_progresses_staged :
    let schema := Schema.ofFields kindsOfFields
    let typed : SelectorToken := { image := "S", start := 5, stop := 6 }
    let path : SelectorToken := { image := "ds.v", start := 5, stop := 9 }
    ((∀ name ∈ schema.names, '.' ∉ name.toList) ∧
        (∀ field ∈ schema.fields, ∀ name ∈ field.attributes, name ≠ "") ∧ typed.IsPlaced) ∧
      (∃ c, schema.Offers typed c ∧ c.stop = 6 ∧
        ((typed.accept c).image = "S." ∧ (∃ field, schema.get? "S" = some field ∧ field.HasParts) ∨
          schema.containsPath (typed.accept c).image)) ∧
      schema.Completes 3 typed path ∧ Completion.selector schema path = .ok none := by
  intro schema typed path
  have hnames : ∀ name ∈ schema.names, '.' ∉ name.toList := by decide +kernel
  have hattributes : ∀ field ∈ schema.fields, ∀ name ∈ field.attributes, name ≠ "" := by
    decide +kernel
  have hplaced : typed.IsPlaced := by decide
  have hname : schema.Offers typed ⟨5, 6, some "S", "ds"⟩ := by decide +kernel
  have hend : ((typed.accept ⟨5, 6, some "S", "ds"⟩).accept ⟨7, 7, none, "."⟩).accept
      ⟨8, 8, none, "v"⟩ = path := by decide
  have hpath : schema.Completes 3 typed path := by
    refine .accept hname (.accept (c := ⟨7, 7, none, "."⟩) ?_
      (.accept (c := ⟨8, 8, none, "v"⟩) ?_ ?_))
    · decide +kernel
    · decide +kernel
    · rw [hend]
      exact .refl path
  obtain ⟨hprogress, hends⟩ := completion_progresses kindsOfFields hnames hattributes
  obtain ⟨⟨-, -, hstop⟩, himage⟩ := (hprogress typed hplaced).2 _ hname
  exact ⟨⟨hnames, hattributes, hplaced⟩, ⟨_, hname, hstop, himage⟩, hpath,
    (hends 3 typed path hpath).2 rfl⟩

end FilterEditor
