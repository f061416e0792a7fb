/-!
# Json

The data of a JSON text.  A number keeps apart what an unsigned integer literal can spell (`nat`)
and every other literal (`real`), because where a count is read, only the first is taken.  An object
lists its members as they come, repeated keys included: what a repeated key means is for the reader
of the data to say.

A text can have the shape of JSON and still hold something that has no value, such as half a
surrogate pair (`unreadable`).  Data that nobody asks for may hold it; nothing is read from it.
-/

namespace FilterEditor

/-- The data of a JSON text. -/
inductive Json where
  | null
  | bool (value : Bool)
  /-- An integer literal without sign, fraction or exponent. -/
  | nat (value : Nat)
  /-- Any other number: the digits `mantissa`, shifted by `exponent` places. -/
  | real (negative : Bool) (mantissa : Nat) (exponent : Int)
  | str (text : String)
  | arr (items : List Json)
  | obj (members : List (String × Json))
  /-- Something of the right shape without a value. -/
  | unreadable
deriving Repr, Inhabited

namespace Json

/-- Text, or nothing. -/
def ofText? : Option String → Json
  | some text => .str text
  | none => .null

/-- A list of texts. -/
def ofTexts (texts : List String) : Json :=
  .arr (texts.map .str)

mutual

/-- The data has a value throughout. -/
def isReadable : Json → Bool
  | .unreadable => false
  | .arr items => areReadable items
  | .obj members => haveReadable members
  | _ => true

/-- Every item has a value throughout. -/
def areReadable : List Json → Bool
  | [] => true
  | item :: items => isReadable item && areReadable items

/-- Every member has a value throughout. -/
def haveReadable : List (String × Json) → Bool
  | [] => true
  | (_, value) :: members => isReadable value && haveReadable members

end

mutual

/-- The data with only the last member of each key in every object. -/
def keepLast : Json → Json
  | .arr items => .arr (keepLastItems items)
  | .obj members => .obj (keepLastMembers members)
  | json => json

/-- `keepLast` in every item. -/
def keepLastItems : List Json → List Json
  | [] => []
  | item :: items => keepLast item :: keepLastItems items

/-- `keepLast` for the members of one object. -/
def keepLastMembers : List (String × Json) → List (String × Json)
  | [] => []
  | (key, value) :: members =>
      let rest := keepLastMembers members
      if rest.any (·.1 == key) then rest else (key, keepLast value) :: rest

end

end Json
end FilterEditor
