import FilterEditor.Text.Ascii
import FilterEditor.Text.Cut
import FilterEditor.Text.Lowercase

/-!
# Schema

The fields a filter query may select on.  A field is plain (`name`), a map with any keys
(`attribute.hwRevision`), or refers to an entity with attributes of its own (`assignedds.version`).
A schema lists fields in order under small-letter names: a field given again under a name that
differs in case only takes the place of the earlier one (`put`), and look-ups fold case the same
way.
-/

namespace FilterEditor
open Text

/-- A field a query may select on. -/
structure Field where
  name : String
  attributes : List String := []
  isMap : Bool := false
deriving DecidableEq, Repr

namespace Field

/-- A plain field. -/
def plain (name : String) : Field where
  name := lowercase name

/-- A field that refers to an entity with the given attributes. -/
def reference (name : String) (attributes : List String) : Field where
  name := lowercase name
  attributes := attributes

/-- A field that holds keys and values. -/
def map (name : String) : Field where
  name := lowercase name
  isMap := true

end Field

/-- The fields a query may select on, in order. -/
structure Schema where
  fields : List Field
deriving DecidableEq, Repr

namespace Schema

/-- Puts a field in the place of the one of its name, or else at the end. -/
def put (f : Field) : List Field → List Field
  | [] => [f]
  | g :: gs => if g.name = f.name then f :: gs else g :: put f gs

/-- The schema of the listed fields, under their small-letter names. -/
def ofFields (fields : List Field) : Schema where
  fields := fields.foldl (fun acc f => put { f with name := lowercase f.name } acc) []

/-- The schema of plain fields with the given names. -/
def ofNames (names : List String) : Schema :=
  ofFields (names.map Field.plain)

/-- The fields of a device. -/
def device : Schema := ofFields [
  .plain "id", .plain "name", .plain "description", .plain "createdat", .plain "lastmodifiedat",
  .plain "controllerid", .plain "updatestatus", .plain "ipaddress", .map "attribute",
  .reference "assignedds" ["name", "version"], .reference "installedds" ["name", "version"],
  .plain "tag", .plain "lastcontrollerrequestat", .map "metadata",
  .reference "targettype" ["key", "name"]]

/-- The names of the fields, in order. -/
def names (schema : Schema) : List String :=
  schema.fields.map (·.name)

/-- The number of fields. -/
def size (schema : Schema) : Nat :=
  schema.fields.length

/-- The field of a name, in any case. -/
def get? (schema : Schema) (name : String) : Option Field :=
  schema.fields.find? (·.name == lowercase name)

/-- The part of a name before its first dot names a field with attributes. -/
def hasAttributes (schema : Schema) (name : String) : Bool :=
  let top := match splitFirst '.' name.toList with
    | some (front, _) => String.ofList front
    | none => name
  (schema.get? top).any (!·.attributes.isEmpty)

/-- The name is that of a map. -/
def isMap (schema : Schema) (name : String) : Bool :=
  (schema.get? name).any (·.isMap)

/-- A complete selector: the name of a field, or that of a field and one of its attributes. -/
def containsPath (schema : Schema) (path : String) : Bool :=
  match splitFirst '.' path.toList with
  | none => (schema.get? path).isSome
  | some (top, sub) =>
      (schema.get? (String.ofList top)).any fun field =>
        !sub.isEmpty && field.attributes.any (sameAscii · (String.ofList sub))

/-! ### Putting a field in its place -/

/-- A new name goes to the end, and a known one stays where it is. -/
theorem map_name_put (f : Field) (fields : List Field) :
    (put f fields).map (·.name) =
      if f.name ∈ fields.map (·.name) then fields.map (·.name)
      else fields.map (·.name) ++ [f.name] := by
  induction fields with
  | nil => simp [put]
  | cons g gs ih =>
      by_cases h : g.name = f.name
      · simp [put, h]
      · simp only [put, h, if_false, List.map_cons, ih, List.mem_cons, Ne.symm h, false_or]
        split <;> simp

theorem mem_map_name_put {f : Field} {fields : List Field} {name : String} :
    name ∈ (put f fields).map (·.name) ↔ name ∈ fields.map (·.name) ∨ name = f.name := by
  rw [map_name_put]
  split
  · refine (or_iff_left_of_imp ?_).symm
    rintro rfl
    assumption
  · simp

/-- The names of a schema are those of the fields it was made from, in small letters. -/
theorem mem_names_ofFields {fields : List Field} {name : String} :
    name ∈ (ofFields fields).names ↔ ∃ f ∈ fields, name = lowercase f.name := by
  have hfold : ∀ acc : List Field,
      name ∈ (fields.foldl (fun acc f => put { f with name := lowercase f.name } acc) acc).map
          (·.name) ↔
        name ∈ acc.map (·.name) ∨ ∃ f ∈ fields, name = lowercase f.name := by
    induction fields with
    | nil => simp
    | cons f fs ih =>
        intro acc
        rw [List.foldl_cons, ih, mem_map_name_put, or_assoc]
        simp only [List.mem_cons, exists_eq_or_imp]
  rw [names, ofFields, hfold]
  simp

/-- The field put is found under its name, and every other as before. -/
theorem find?_put (f : Field) (fields : List Field) (name : String) :
    (put f fields).find? (·.name == name) =
      if f.name = name then some f else fields.find? (·.name == name) := by
  induction fields with
  | nil => by_cases h : f.name = name <;> simp [put, h]
  | cons g gs ih =>
      by_cases hg : g.name = f.name
      · by_cases h : f.name = name <;> simp [put, hg, h]
      · by_cases h : g.name = name
        · subst h
          simp [put, hg, Ne.symm hg]
        · simp [put, hg, h, ih]

/-! ### Look-ups -/

/-- The names of a schema are in small letters. -/
theorem lowercase_of_mem_names {fields : List Field} {name : String}
    (h : name ∈ (ofFields fields).names) : lowercase name = name := by
  obtain ⟨f, -, rfl⟩ := mem_names_ofFields.mp h
  exact lowercase_lowercase f.name

section
variable {schema : Schema} {name top sub : String}

theorem isSome_get?_iff : (schema.get? name).isSome ↔ lowercase name ∈ schema.names := by
  simp [get?, names]

theorem get?_eq_none_iff : schema.get? name = none ↔ lowercase name ∉ schema.names := by
  rw [← isSome_get?_iff, Option.not_isSome_iff_eq_none]

theorem isSome_get?_of_mem_names {fields : List Field} (h : name ∈ (ofFields fields).names) :
    ((ofFields fields).get? name).isSome := by
  rwa [isSome_get?_iff, lowercase_of_mem_names h]

theorem mem_fields_of_get? {field : Field} (h : schema.get? name = some field) :
    field ∈ schema.fields :=
  List.mem_of_find?_eq_some h

theorem hasAttributes_name (h : '.' ∉ name.toList) :
    schema.hasAttributes name = (schema.get? name).any (!·.attributes.isEmpty) := by
  rw [hasAttributes, splitFirst_eq_none_iff.mpr h]

theorem containsPath_name (h : '.' ∉ name.toList) :
    schema.containsPath name = (schema.get? name).isSome := by
  rw [containsPath, splitFirst_eq_none_iff.mpr h]

theorem splitFirst_path (h : '.' ∉ top.toList) :
    splitFirst '.' (top ++ "." ++ sub).toList = some (top.toList, sub.toList) := by
  rw [← splitFirst_append sub.toList h]
  simp

/-- A path is known if it goes from a field to one of its attributes, which is not empty. -/
theorem containsPath_path (h : '.' ∉ top.toList) :
    schema.containsPath (top ++ "." ++ sub) ↔
      ∃ field, schema.get? top = some field ∧ sub ≠ "" ∧ ∃ a ∈ field.attributes, sameAscii a sub := by
  simp only [containsPath, splitFirst_path h, String.ofList_toList]
  cases schema.get? top <;> simp

end

end Schema
end FilterEditor
