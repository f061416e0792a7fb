import FilterEditor.Json

/-!
# Json — Record

Reading records out of JSON data.  A record comes as an object or as a list of its values in order.
In an object the keys the record does not know are passed over with whatever they hold, and a key
that it knows may stand only once; in a list nothing may follow the last value (`fields?`).  A choice
comes with a tag, the value of one key or the first item, and the rest is the record of that choice
(`tagged?`).  Since the tag may come last, the rest is read before it is known what is asked for, so
that all of it has to be readable.
-/

namespace FilterEditor.Json

/-- A reader of values of a type. -/
abbrev Decoder (α : Type) := Json → Option α

/-- The values given for the fields of a record, by name. -/
abbrev Fields := List (String × Json)

/-- The values that the data gives for the named fields. -/
def fields? (names : List String) : Json → Option Fields
  | .obj members =>
      let known := members.filter (names.contains ·.1)
      if (known.map (·.1)).eraseDups.length = known.length then some known else none
  | .arr items => if items.length ≤ names.length then some (names.zip items) else none
  | _ => none

/-- The tag of a choice and the data of its record. -/
def splitTag (tag : String) : Json → Option (String × Json)
  | .obj members =>
      match members.filter (·.1 == tag) with
      | [(_, .str choice)] => some (choice, .obj (members.filter (·.1 != tag)))
      | _ => none
  | .arr (.str choice :: items) => some (choice, .arr items)
  | _ => none

/-- The tag of a choice and the data of its record, if the data is readable. -/
def tagged? (tag : String) (json : Json) : Option (String × Json) :=
  if json.isReadable then splitTag tag json else none

namespace Fields

/-- A field that has to be given. -/
def required {α : Type} (fields : Fields) (name : String) (decode : Decoder α) : Option α :=
  (fields.lookup name).bind decode

/-- A field with a value of its own when it is not given. -/
def getD {α : Type} (fields : Fields) (name : String) (decode : Decoder α) (default : α) :
    Option α :=
  match fields.lookup name with
  | some json => decode json
  | none => some default

end Fields

/-! ### Values -/

/-- A text. -/
def text? : Decoder String
  | .str text => some text
  | _ => none

/-- A truth value. -/
def bool? : Decoder Bool
  | .bool value => some value
  | _ => none

/-- An unsigned integer below a limit. -/
def below? (limit : Nat) : Decoder Nat
  | .nat n => if n < limit then some n else none
  | _ => none

/-- An offset, a cursor, an id or a time. -/
def offset? : Decoder Nat :=
  below? UInt64.size

/-- A list. -/
def list? {α : Type} (decode : Decoder α) : Decoder (List α)
  | .arr items => items.mapM decode
  | _ => none

/-- A value or nothing. -/
def optional? {α : Type} (decode : Decoder α) : Decoder (Option α)
  | .null => some none
  | json => (decode json).map some

/-- The name of a choice without a record: a text, or the one key of an object that holds nothing. -/
def choice? : Decoder String
  | .str name => some name
  | .obj [(name, .null)] => some name
  | _ => none

/-- A choice without a record.  Given as a list, its record has no items. -/
def nothing? : Decoder Unit
  | .obj _ | .arr [] => some ()
  | _ => none

end FilterEditor.Json
