import Mathlib.Data.Finset.Card
import FilterEditor.Proofs.FirstOccurrence
import FilterEditor.Schema

/-!
# Proofs — Fields

What a schema holds of the fields it was made from (`schema_holds`).

The fields are listed one after the other, so everything here goes by induction from the end of the
list, where `put` says what one more field does (`ofFields_concat`).  Names are kept where they
first came up (`names_ofFields`), and a look-up finds the field that was listed last
(`get?_ofFields`).

A schema keeps no keys of its own.  `entries` is the same list of fields with a key for each, and
the key of a field is always its name (`entries_eq`).
-/

namespace FilterEditor
open Text

/-- The field under its name in small letters. -/
def Field.folded (f : Field) : Field :=
  { f with name := lowercase f.name }

namespace Schema

/-- Puts a field under a key: in the place of the one that has the key, or else at the end. -/
def putUnder (key : String) (f : Field) : List (String × Field) → List (String × Field)
  | [] => [(key, f)]
  | e :: es => if e.1 = key then (key, f) :: es else e :: putUnder key f es

/-- The listed fields, each put under its name in small letters. -/
def entries (fields : List Field) : List (String × Field) :=
  fields.foldl (fun acc f => putUnder (lowercase f.name) f.folded acc) []

section
variable {fields : List Field} {f g : Field} {name : String}

/-! ### One more field -/

theorem ofFields_concat (fields : List Field) (f : Field) :
    ofFields (fields ++ [f]) = { fields := put f.folded (ofFields fields).fields } := by
  simp [ofFields, Field.folded]

theorem get?_concat (fields : List Field) (f : Field) (name : String) :
    (ofFields (fields ++ [f])).get? name =
      if lowercase f.name = lowercase name then some f.folded else (ofFields fields).get? name := by
  rw [ofFields_concat]
  exact find?_put f.folded (ofFields fields).fields (lowercase name)

theorem put_of_not_mem (h : f.name ∉ fields.map (·.name)) : put f fields = fields ++ [f] := by
  induction fields with
  | nil => rfl
  | cons g gs ih =>
      rw [List.map_cons, List.mem_cons, not_or] at h
      rw [put, if_neg (Ne.symm h.1), ih h.2, List.cons_append]

/-! ### Names -/

/-- The names of a schema, each where it first came up. -/
theorem names_ofFields (fields : List Field) :
    (ofFields fields).names = (fields.map (lowercase ·.name)).eraseDups := by
  induction fields using List.reverseRecOn with
  | nil => rfl
  | append_singleton fs f ih =>
      have hput := map_name_put f.folded (ofFields fs).fields
      rw [ofFields_concat, List.map_append, List.map_cons, List.map_nil, eraseDups_concat, ← ih]
      have hmem : lowercase f.name ∈ (ofFields fs).names ↔
          lowercase f.name ∈ fs.map (lowercase ·.name) := by
        rw [ih, List.mem_eraseDups]
      simp only [← hmem]
      exact hput

theorem nodup_names (fields : List Field) : (ofFields fields).names.Nodup := by
  rw [names_ofFields]
  exact nodup_eraseDups _

theorem name_of_mem_fields (h : f ∈ (ofFields fields).fields) : lowercase f.name = f.name :=
  lowercase_of_mem_names (List.mem_map_of_mem h)

/-- The number of fields is that of their different names. -/
theorem size_ofFields (fields : List Field) :
    (ofFields fields).size = (fields.map (lowercase ·.name)).toFinset.card := by
  have hsame : (fields.map (lowercase ·.name)).toFinset = (ofFields fields).names.toFinset := by
    ext name
    rw [List.mem_toFinset, List.mem_toFinset, names_ofFields, List.mem_eraseDups]
  rw [hsame, List.toFinset_card_of_nodup (nodup_names fields), names, List.length_map, size]

/-- A schema is made from its own fields. -/
theorem ofFields_fields (fields : List Field) :
    ofFields (ofFields fields).fields = ofFields fields := by
  have hmade : ∀ gs : List Field, (gs.map (·.name)).Nodup → (∀ g ∈ gs, lowercase g.name = g.name) →
      (ofFields gs).fields = gs := by
    intro gs
    induction gs using List.reverseRecOn with
    | nil => exact fun _ _ => rfl
    | append_singleton hs g ih =>
        intro hnodup hsmall
        simp only [List.map_append, List.map_cons, List.map_nil, List.nodup_append,
          List.mem_singleton, List.forall_mem_append] at hnodup hsmall
        obtain ⟨hnodup, -, hnew⟩ := hnodup
        obtain ⟨hsmall, hg⟩ := hsmall
        have hfolded : g.folded = g := by rw [Field.folded, hg g rfl]
        rw [ofFields_concat, ih hnodup hsmall, hfolded]
        exact put_of_not_mem fun hmem => hnew g.name hmem g.name rfl rfl
  exact congrArg Schema.mk (hmade _ (nodup_names fields) fun g hg => name_of_mem_fields hg)

/-! ### Look-ups -/

/-- A look-up goes through the listed fields from the last one on. -/
theorem get?_ofFields (fields : List Field) (name : String) :
    (ofFields fields).get? name =
      (fields.reverse.find? (lowercase ·.name == lowercase name)).map Field.folded := by
  induction fields using List.reverseRecOn with
  | nil => rfl
  | append_singleton fs f ih =>
      rw [get?_concat, ih, List.reverse_append, List.reverse_singleton, List.singleton_append]
      by_cases h : lowercase f.name = lowercase name
      · rw [if_pos h, List.find?_cons_of_pos (by simpa using h), Option.map_some]
      · rw [if_neg h, List.find?_cons_of_neg (by simpa using h)]

/-- What is found is the last of the fields with that name. -/
theorem get?_ofFields_eq_some_iff :
    (ofFields fields).get? name = some g ↔
      ∃ front f back, fields = front ++ f :: back ∧ lowercase f.name = lowercase name ∧
        (∀ h ∈ back, lowercase h.name ≠ lowercase name) ∧
        g = { f with name := lowercase f.name } := by
  rw [get?_ofFields, Option.map_eq_some_iff]
  constructor
  · rintro ⟨f, hf, rfl⟩
    obtain ⟨hname, later, earlier, hfields, hlater⟩ := List.find?_eq_some_iff_append.mp hf
    refine ⟨earlier.reverse, f, later.reverse, ?_, by simpa using hname, ?_, rfl⟩
    · rw [← List.reverse_inj, hfields]
      simp
    · simpa using hlater
  · rintro ⟨front, f, back, rfl, hname, hback, rfl⟩
    refine ⟨f, List.find?_eq_some_iff_append.mpr ⟨by simpa using hname, back.reverse,
      front.reverse, by simp, by simpa using hback⟩, rfl⟩

theorem get?_ofFields_eq_none_iff :
    (ofFields fields).get? name = none ↔ ∀ f ∈ fields, lowercase f.name ≠ lowercase name := by
  simp [get?_ofFields]

/-- The fields of a schema are told apart by their names. -/
theorem get?_eq_some_iff_mem :
    (ofFields fields).get? name = some g ↔
      g ∈ (ofFields fields).fields ∧ g.name = lowercase name :=
  find?_eq_some_iff_of_nodup (nodup_names fields)

/-- A map is named by its name, in any case. -/
theorem isMap_ofFields_iff :
    (ofFields fields).isMap name ↔
      ∃ field ∈ (ofFields fields).fields, field.isMap ∧ field.name = lowercase name := by
  rw [isMap, Option.any_eq_true]
  constructor
  · rintro ⟨field, hfield, hmap⟩
    obtain ⟨hmem, hname⟩ := get?_eq_some_iff_mem.mp hfield
    exact ⟨field, hmem, hmap, hname⟩
  · rintro ⟨field, hmem, hmap, hname⟩
    exact ⟨field, get?_eq_some_iff_mem.mpr ⟨hmem, hname⟩, hmap⟩

/-! ### Keys -/

theorem putUnder_name (f : Field) (gs : List Field) :
    putUnder f.name f (gs.map fun g => (g.name, g)) = (put f gs).map fun g => (g.name, g) := by
  induction gs with
  | nil => rfl
  | cons g gs ih =>
      by_cases h : g.name = f.name
      · simp [putUnder, put, h]
      · simp [putUnder, put, h, ih]

/-- Every field is under its name. -/
theorem entries_eq (fields : List Field) :
    entries fields = (ofFields fields).fields.map fun f => (f.name, f) := by
  induction fields using List.reverseRecOn with
  | nil => rfl
  | append_singleton fs f ih =>
      rw [ofFields_concat, ← putUnder_name, ← ih, entries, entries, List.foldl_append]
      rfl

theorem lookup_entries (fields : List Field) (name : String) :
    (entries fields).lookup (lowercase name) = (ofFields fields).get? name := by
  rw [entries_eq, get?]
  induction (ofFields fields).fields with
  | nil => rfl
  | cons g gs ih =>
      by_cases h : g.name = lowercase name
      · simp [h]
      · have hkey : (lowercase name == g.name) = false := by simpa using Ne.symm h
        simp [List.lookup_cons, h, ih, hkey]

/-- **What a schema holds.**  Its names are those of the listed fields in small letters, each where
it first came up, and there are as many fields as different names.  A field is kept under its name,
which is in small letters.  A look-up, in any case, finds the last of the listed fields with that
name and nothing of the others, and finds none only if there is none.  Made from its own fields
again, the schema is the same.  A path is known if it goes from a field to one of its attributes, up
to ASCII case, and does not end at the dot. -/
theorem schema_holds (fields : List Field) :
    let schema := ofFields fields
    (schema.names = (fields.map (lowercase ·.name)).eraseDups ∧
        FirstsOf (fun f => some (lowercase f.name)) fields schema.names ∧
        schema.size = (fields.map (lowercase ·.name)).toFinset.card) ∧
      ((entries fields).map (·.1) = schema.names ∧ (entries fields).map (·.2) = schema.fields ∧
        ∀ e ∈ entries fields, e.2.name = e.1 ∧ lowercase e.2.name = e.2.name) ∧
      (∀ name, schema.get? name = (entries fields).lookup (lowercase name) ∧
        (∀ g, schema.get? name = some g ↔
          ∃ front f back, fields = front ++ f :: back ∧ lowercase f.name = lowercase name ∧
            (∀ h ∈ back, lowercase h.name ≠ lowercase name) ∧
            g = { f with name := lowercase f.name }) ∧
        (schema.get? name = none ↔ ∀ f ∈ fields, lowercase f.name ≠ lowercase name)) ∧
      ofFields schema.fields = schema ∧
      ∀ top sub, '.' ∉ top.toList →
        (schema.containsPath (top ++ "." ++ sub) ↔
          sub ≠ "" ∧ ∃ field, schema.get? top = some field ∧ ∃ a ∈ field.attributes,
            sameAscii a sub) := by
  intro schema
  refine ⟨⟨names_ofFields fields, firstsOf_iff.mpr ?_, size_ofFields fields⟩, ⟨?_, ?_, ?_⟩,
    fun name => ⟨(lookup_entries fields name).symm, fun g => get?_ofFields_eq_some_iff,
      get?_ofFields_eq_none_iff⟩,
    ofFields_fields fields, fun top sub htop => ?_⟩
  · rw [names_ofFields, ← List.filterMap_eq_map]
    rfl
  · rw [entries_eq, List.map_map]
    rfl
  · rw [entries_eq, List.map_map]
    exact List.map_id _
  · rw [entries_eq]
    intro e he
    obtain ⟨f, hf, rfl⟩ := List.mem_map.mp he
    exact ⟨rfl, name_of_mem_fields hf⟩
  · rw [containsPath_path htop]
    constructor
    · rintro ⟨field, hfield, hsub, hattribute⟩
      exact ⟨hsub, field, hfield, hattribute⟩
    · rintro ⟨hsub, field, hfield, hattribute⟩
      exact ⟨field, hfield, hsub, hattribute⟩

end

/-- A map given again as a field with attributes, in another case. -/
theorem schema_holds_repeated :
    let fields : List Field :=
      [{ name := "DS", isMap := true }, .plain "id", { name := "Ds", attributes := ["Key"] }]
    let schema := ofFields fields
    schema.names = ["ds", "id"] ∧
      schema.get? "dS" = some { name := "ds", attributes := ["Key"] } ∧
      '.' ∉ "dS".toList ∧ schema.containsPath ("dS" ++ "." ++ "kEY") := by
  intro fields schema
  obtain ⟨⟨hnames, -, -⟩, -, hget, -, hpath⟩ := schema_holds fields
  have hds : lowercase "DS" = "ds" ∧ lowercase "id" = "id" ∧ lowercase "Ds" = "ds" ∧
      lowercase "dS" = "ds" := by decide +kernel
  have hfound : schema.get? "dS" = some { name := "ds", attributes := ["Key"] } := by
    refine ((hget "dS").2.1 _).mpr ⟨[{ name := "DS", isMap := true }, .plain "id"],
      { name := "Ds", attributes := ["Key"] }, [], rfl, ?_, nofun, ?_⟩
    · rw [hds.2.2.1, hds.2.2.2]
    · rw [hds.2.2.1]
  refine ⟨?_, hfound, by decide, (hpath "dS" "kEY" (by decide)).mpr
    ⟨by decide, _, hfound, "Key", by decide, by decide⟩⟩
  rw [hnames]
  decide +kernel

end Schema
end FilterEditor
