import FilterEditor.Replay

/-!
# Proofs — Extent

A recording has no more steps than its text has room for (`Recording.length_steps_le`).  Each item of
a list takes the reader a step of its own, so that a list read in so many steps has no more items than
that (`Narrow`), and the steps are given by the length of the text.
-/

namespace FilterEditor

namespace Json

/-- Every list in the data has fewer items than so many, and fewer still inside other data. -/
inductive Narrow : Nat → Json → Prop where
  | null {n : Nat} : Narrow n .null
  | bool {n : Nat} (value : Bool) : Narrow n (.bool value)
  | nat {n : Nat} (value : Nat) : Narrow n (.nat value)
  | real {n : Nat} (negative : Bool) (mantissa : Nat) (exponent : Int) :
      Narrow n (.real negative mantissa exponent)
  | str {n : Nat} (text : String) : Narrow n (.str text)
  | unreadable {n : Nat} : Narrow n .unreadable
  | arr {n : Nat} {items : List Json} (hlength : items.length ≤ n)
      (h : ∀ item ∈ items, Narrow n item) : Narrow (n + 1) (.arr items)
  | obj {n : Nat} {members : List (String × Json)} (h : ∀ m ∈ members, Narrow n m.2) :
      Narrow (n + 1) (.obj members)

theorem Narrow.succ {n : Nat} {json : Json} (h : Narrow n json) : Narrow (n + 1) json := by
  induction h with
  | null => exact .null
  | bool => exact .bool _
  | nat => exact .nat _
  | real => exact .real ..
  | str => exact .str _
  | unreadable => exact .unreadable
  | arr hlength _ ih => exact .arr (Nat.le_succ_of_le hlength) ih
  | obj _ ih => exact .obj ih

theorem Narrow.within {n levels : Nat} {json : Json} (h : Narrow n json) :
    Narrow n (within levels json) := by
  rw [Json.within]
  split
  · exact .unreadable
  · exact h

theorem readUnsigned_narrow {n : Nat} {negative : Bool} {cs rest : List Char} {json : Json}
    (h : readUnsigned negative cs = some (json, rest)) : Narrow n json := by
  simp only [readUnsigned, Option.bind_eq_bind, Option.bind_eq_some_iff] at h
  obtain ⟨⟨whole, rest⟩, -, ⟨fraction, rest⟩, -, ⟨power, rest⟩, -, h⟩ := h
  split at h
  · cases h
    exact .unreadable
  · split at h <;> cases h
    · exact .nat _
    · exact .real ..

theorem readNumber_narrow {n : Nat} {cs rest : List Char} {json : Json}
    (h : readNumber cs = some (json, rest)) : Narrow n json := by
  unfold readNumber at h
  split at h <;> exact readUnsigned_narrow h

theorem consMember_eq_some {key : Option (List Char)} {value : Json}
    {more : Option (List (String × Json))} {members : List (String × Json)}
    (h : consMember key value more = some members) :
    ∃ cs rest, key = some cs ∧ more = some rest ∧ members = (String.ofList cs, value) :: rest := by
  simp only [consMember, Option.bind_eq_bind, Option.bind_eq_some_iff] at h
  obtain ⟨cs, hkey, rest, hmore, h⟩ := h
  exact ⟨cs, rest, hkey, hmore, (Option.some.inj h).symm⟩

/-- What is read in so many steps is narrow by as many. -/
structure ReadsNarrowly (fuel : Nat) : Prop where
  value : ∀ {levels cs json rest},
    readValue fuel levels cs = some (json, rest) → Narrow fuel json
  items : ∀ {levels cs items rest},
    readItems fuel levels cs = some (items, rest) →
      items.length ≤ fuel ∧ ∀ item ∈ items, Narrow fuel item
  members : ∀ {levels cs members rest},
    readMembers fuel levels cs = some (some members, rest) → ∀ m ∈ members, Narrow fuel m.2

theorem ReadsNarrowly.succ_value {fuel levels : Nat} (ih : ReadsNarrowly fuel)
    {cs rest : List Char} {json : Json}
    (h : readValue (fuel + 1) levels cs = some (json, rest)) : Narrow (fuel + 1) json := by
  rw [readValue] at h
  split at h
  · cases h
    exact .null
  · cases h
    exact .bool true
  · cases h
    exact .bool false
  · obtain ⟨⟨text, _⟩, -, h⟩ := Option.map_eq_some_iff.mp h
    cases h
    cases text <;> constructor
  · split at h
    · cases h
      exact (Narrow.arr (Nat.zero_le _) (by simp)).within
    · obtain ⟨⟨items, _⟩, hread, h⟩ := Option.map_eq_some_iff.mp h
      cases h
      exact (Narrow.arr (ih.items hread).1 (ih.items hread).2).within
  · split at h
    · cases h
      exact (Narrow.obj (by simp)).within
    · obtain ⟨⟨members, _⟩, hread, h⟩ := Option.map_eq_some_iff.mp h
      cases h
      cases members with
      | none => exact Narrow.unreadable.within
      | some members => exact (Narrow.obj (ih.members hread)).within
  · exact readNumber_narrow h

theorem ReadsNarrowly.succ_items {fuel levels : Nat} (ih : ReadsNarrowly fuel)
    {cs rest : List Char} {items : List Json}
    (h : readItems (fuel + 1) levels cs = some (items, rest)) :
    items.length ≤ fuel + 1 ∧ ∀ item ∈ items, Narrow (fuel + 1) item := by
  rw [readItems] at h
  obtain ⟨⟨item, _⟩, hitem, h⟩ := Option.bind_eq_some_iff.mp h
  dsimp only at h
  have hfirst := (ih.value hitem).succ
  split at h
  · obtain ⟨⟨items, _⟩, hread, h⟩ := Option.map_eq_some_iff.mp h
    cases h
    obtain ⟨hlength, hitems⟩ := ih.items hread
    exact ⟨Nat.succ_le_succ hlength,
      List.forall_mem_cons.mpr ⟨hfirst, fun item hmem => (hitems item hmem).succ⟩⟩
  · cases h
    exact ⟨Nat.le_add_left 1 fuel, List.forall_mem_singleton.mpr hfirst⟩
  · cases h

theorem ReadsNarrowly.succ_members {fuel levels : Nat} (ih : ReadsNarrowly fuel)
    {cs rest : List Char} {members : List (String × Json)}
    (h : readMembers (fuel + 1) levels cs = some (some members, rest)) :
    ∀ m ∈ members, Narrow (fuel + 1) m.2 := by
  rw [readMembers] at h
  split at h
  · obtain ⟨⟨key, _⟩, -, h⟩ := Option.bind_eq_some_iff.mp h
    dsimp only at h
    split at h
    · obtain ⟨⟨value, _⟩, hvalue, h⟩ := Option.bind_eq_some_iff.mp h
      dsimp only at h
      have hfirst := (ih.value hvalue).succ
      split at h
      · obtain ⟨⟨more, _⟩, hread, h⟩ := Option.map_eq_some_iff.mp h
        obtain ⟨key, more, rfl, rfl, rfl⟩ := consMember_eq_some (Prod.mk.inj h).1
        exact List.forall_mem_cons.mpr ⟨hfirst, fun m hmem => (ih.members hread m hmem).succ⟩
      · obtain ⟨key, more, rfl, hmore, rfl⟩ := consMember_eq_some (Prod.mk.inj (Option.some.inj h)).1
        cases hmore
        exact List.forall_mem_singleton.mpr hfirst
      · cases h
    · cases h
  · cases h

theorem readsNarrowly (fuel : Nat) : ReadsNarrowly fuel := by
  induction fuel with
  | zero =>
      refine ⟨fun h => ?_, fun h => ?_, fun h => ?_⟩
      · rw [readValue] at h
        cases h
      · rw [readItems] at h
        cases h
      · rw [readMembers] at h
        cases h
  | succ fuel ih => exact ⟨ih.succ_value, ih.succ_items, ih.succ_members⟩

/-! ### Records -/

/-- The values of a record are narrower than the data it comes from. -/
theorem Narrow.fields {n : Nat} {json : Json} (h : Narrow (n + 1) json) {names : List String}
    {fields : Fields} (hfields : fields? names json = some fields) :
    ∀ field ∈ fields, Narrow n field.2 := by
  cases h with
  | obj h =>
      rw [fields?] at hfields
      split at hfields <;> cases hfields
      exact fun field hmem => h field (List.mem_filter.mp hmem).1
  | arr _ h =>
      rw [fields?] at hfields
      split at hfields <;> cases hfields
      exact fun field hmem => h field.2 (List.of_mem_zip hmem).2
  | _ => cases hfields

theorem length_of_list? {α : Type} {decode : Decoder α} {items : List Json} {as : List α}
    (h : list? decode (.arr items) = some as) : as.length = items.length := by
  rw [list?] at h
  induction items generalizing as with
  | nil =>
      cases h
      rfl
  | cons item items ih =>
      simp only [List.mapM_cons, Option.bind_eq_bind, Option.bind_eq_some_iff] at h
      obtain ⟨a, -, rest, hrest, h⟩ := h
      cases h
      rw [List.length_cons, List.length_cons, ih hrest]

theorem Narrow.length_le {n : Nat} {json : Json} (h : Narrow (n + 1) json) {α : Type}
    {decode : Decoder α} {as : List α} (hlist : list? decode json = some as) : as.length ≤ n := by
  cases h with
  | arr hlength => exact length_of_list? hlist ▸ hlength
  | _ => cases hlist

/-- The items of a field that holds a list. -/
theorem Narrow.length_required_le {n : Nat} {json : Json} (h : Narrow (n + 2) json)
    {names : List String} {fields : Fields} (hfields : fields? names json = some fields) {α : Type}
    {name : String} {decode : Decoder α} {as : List α}
    (hlist : fields.required name (list? decode) = some as) : as.length ≤ n := by
  obtain ⟨value, hvalue, hlist⟩ := Option.bind_eq_some_iff.mp hlist
  obtain ⟨front, back, hsplit, -⟩ := List.lookup_eq_some_iff.mp hvalue
  have hmem : (name, value) ∈ fields := hsplit ▸ List.mem_append_right front (List.mem_cons_self ..)
  exact (h.fields hfields (name, value) hmem).length_le hlist

end Json

open Json

/-- **The steps of a recording** are no more than twice the characters of its text. -/
theorem Replay.Recording.length_steps_le {text : String} {r : Recording}
    (h : Recording.parse? text = some r) : r.steps.length ≤ 2 * text.length := by
  obtain ⟨json, hjson, hrecording⟩ := Option.bind_eq_some_iff.mp h
  have hnarrow : Narrow (2 * text.length + 2) json := by
    rw [Json.parse?] at hjson
    split at hjson
    · next hread =>
        split at hjson <;> cases hjson
        exact (readsNarrowly _).value hread
    · cases hjson
  simp only [Recording.ofJson?, Option.bind_eq_bind, Option.bind_eq_some_iff] at hrecording
  obtain ⟨fields, hfields, _, -, _, -, _, -, _, -, steps, hsteps, hrecording⟩ := hrecording
  cases hrecording
  exact hnarrow.length_required_le hfields hsteps

end FilterEditor
