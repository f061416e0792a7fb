import FilterEditor.Json
import FilterEditor.Json.Magnitude

/-!
# Json — Reader

JSON data from JSON text.  The text has the strict shape of JSON: one value, blanks around its
tokens, no leading zeros, and no control characters in strings.  Four things have that shape and no
value, and are read as unreadable: a string with half a surrogate pair, a number beyond the doubles,
a container too deep inside others, and an object with an unreadable key.  Each reader takes the text
from where it stands and gives back the rest.
-/

namespace FilterEditor.Json

/-- A blank between tokens. -/
def isGap (c : Char) : Bool :=
  c == ' ' || c == '\t' || c == '\n' || c == '\r'

/-- The text from its next token on. -/
def skipGaps (cs : List Char) : List Char :=
  cs.dropWhile isGap

/-! ### Strings -/

/-- The value of a hexadecimal digit. -/
def hexValue (c : Char) : Option Nat :=
  if c.isDigit then some (c.toNat - '0'.toNat)
  else if 'a' ≤ c ∧ c ≤ 'f' then some (c.toNat - 'a'.toNat + 10)
  else if 'A' ≤ c ∧ c ≤ 'F' then some (c.toNat - 'A'.toNat + 10)
  else none

/-- The value of four hexadecimal digits. -/
def hexValue4 (a b c d : Char) : Option Nat := do
  return (((← hexValue a) * 16 + (← hexValue b)) * 16 + (← hexValue c)) * 16 + (← hexValue d)

/-- The first half of a surrogate pair. -/
def isHighSurrogate (n : Nat) : Bool :=
  0xD800 ≤ n && n < 0xDC00

/-- The second half of a surrogate pair. -/
def isLowSurrogate (n : Nat) : Bool :=
  0xDC00 ≤ n && n < 0xE000

/-- The character that a letter stands for after a backslash. -/
def unescape (c : Char) : Option Char :=
  if c = '"' ∨ c = '\\' ∨ c = '/' then some c
  else if c = 'b' then some '\x08'
  else if c = 't' then some '\t'
  else if c = 'n' then some '\n'
  else if c = 'f' then some '\x0c'
  else if c = 'r' then some '\r'
  else none

/-- The second half of a surrogate pair that the text begins with, and the text after it. -/
def readLowSurrogate : List Char → Option (Nat × List Char)
  | '\\' :: 'u' :: a :: b :: c :: d :: rest =>
      ((hexValue4 a b c d).filter isLowSurrogate).map (·, rest)
  | _ => none

/-- The character of four hexadecimal digits, with those of the second half of a pair if they are
the first one, and the text after them.  Half a pair is no character. -/
def codePoint (a b c d : Char) (rest : List Char) : Option (Option Char × List Char) := do
  let first ← hexValue4 a b c d
  if isHighSurrogate first then
    match readLowSurrogate rest with
    | some (second, rest) =>
        return (some (Char.ofNat (0x10000 + (first - 0xD800) * 0x400 + (second - 0xDC00))), rest)
    | none => return (none, rest)
  else if isLowSurrogate first then return (none, rest)
  else return (some (Char.ofNat first), rest)

/-- A character of a string, unless it is half a pair, and the text after it. -/
def readChar : List Char → Option (Option Char × List Char)
  | '\\' :: 'u' :: a :: b :: c :: d :: rest => codePoint a b c d rest
  | '\\' :: c :: rest => (unescape c).map fun c => (some c, rest)
  | c :: rest => if c.toNat < 0x20 ∨ c = '\\' then none else some (some c, rest)
  | [] => none

/-- The characters of a string up to its closing quote, unless half a pair is among them, and the
text after it. -/
def readString : Nat → List Char → Option (Option (List Char) × List Char)
  | 0, _ => none
  | _ + 1, '"' :: rest => some (some [], rest)
  | fuel + 1, cs => do
      let (c, rest) ← readChar cs
      let (text, rest) ← readString fuel rest
      return (c.bind fun c => text.map (c :: ·), rest)

/-! ### Numbers -/

/-- The digits at the head of the text, and the text after them. -/
def spanDigits (cs : List Char) : List Char × List Char :=
  (cs.takeWhile Char.isDigit, cs.dropWhile Char.isDigit)

/-- The number that some digits spell. -/
def ofDigits (ds : List Char) : Nat :=
  Nat.ofDigitChars 10 ds 0

/-- An integer part: digits without a leading zero, unless it is the only one. -/
def readInteger (cs : List Char) : Option (List Char × List Char) :=
  match spanDigits cs with
  | ([], _) => none
  | ('0' :: _ :: _, _) => none
  | (ds, rest) => some (ds, rest)

/-- The digits of a fraction, if there is one. -/
def readFraction : List Char → Option (List Char × List Char)
  | '.' :: cs =>
      match spanDigits cs with
      | ([], _) => none
      | (ds, rest) => some (ds, rest)
  | cs => some ([], cs)

/-- The digits of an exponent without its sign. -/
def readPower (cs : List Char) : Option (Nat × List Char) :=
  match spanDigits cs with
  | ([], _) => none
  | (ds, rest) => some (ofDigits ds, rest)

/-- An exponent, if there is one. -/
def readExponent : List Char → Option (Option Int × List Char)
  | c :: cs =>
      if c = 'e' ∨ c = 'E' then
        match cs with
        | '+' :: cs => (readPower cs).map fun (n, rest) => (some (n : Int), rest)
        | '-' :: cs => (readPower cs).map fun (n, rest) => (some (-(n : Int)), rest)
        | cs => (readPower cs).map fun (n, rest) => (some (n : Int), rest)
      else some (none, c :: cs)
  | [] => some (none, [])

/-- A number without its sign. -/
def readUnsigned (negative : Bool) (cs : List Char) : Option (Json × List Char) := do
  let (whole, rest) ← readInteger cs
  let (fraction, rest) ← readFraction rest
  let (power, rest) ← readExponent rest
  let digits := whole ++ fraction
  let exponent := power.getD 0 - fraction.length
  if Magnitude.isBeyond digits exponent then return (.unreadable, rest)
  else if !negative && fraction.isEmpty && power.isNone then return (.nat (ofDigits whole), rest)
  else return (.real negative (ofDigits digits) exponent, rest)

/-- A number. -/
def readNumber : List Char → Option (Json × List Char)
  | '-' :: cs => readUnsigned true cs
  | cs => readUnsigned false cs

/-! ### Values -/

/-- A text, unless it has none. -/
def ofChars : Option (List Char) → Json
  | some cs => .str (String.ofList cs)
  | none => .unreadable

/-- An object, unless one of its keys is unreadable. -/
def ofMembers : Option (List (String × Json)) → Json
  | some members => .obj members
  | none => .unreadable

/-- A member and those after it, unless a key is unreadable. -/
def consMember (key : Option (List Char)) (value : Json) (members : Option (List (String × Json))) :
    Option (List (String × Json)) := do
  return (String.ofList (← key), value) :: (← members)

/-- How many containers may stand one inside the other. -/
def maxLevels : Nat := 127

/-- A container, unless there are no levels left for it. -/
def within (levels : Nat) (json : Json) : Json :=
  if levels = 0 then .unreadable else json

mutual

/-- A value with some levels left for containers, and the text after it. -/
def readValue : Nat → Nat → List Char → Option (Json × List Char)
  | 0, _, _ => none
  | fuel + 1, levels, cs =>
      match skipGaps cs with
      | 'n' :: 'u' :: 'l' :: 'l' :: rest => some (.null, rest)
      | 't' :: 'r' :: 'u' :: 'e' :: rest => some (.bool true, rest)
      | 'f' :: 'a' :: 'l' :: 's' :: 'e' :: rest => some (.bool false, rest)
      | '"' :: rest => (readString fuel rest).map fun (text, rest) => (ofChars text, rest)
      | '[' :: rest =>
          match skipGaps rest with
          | ']' :: rest => some (within levels (.arr []), rest)
          | rest =>
              (readItems fuel (levels - 1) rest).map fun (items, rest) =>
                (within levels (.arr items), rest)
      | '\x7b' :: rest =>
          match skipGaps rest with
          | '\x7d' :: rest => some (within levels (.obj []), rest)
          | rest =>
              (readMembers fuel (levels - 1) rest).map fun (members, rest) =>
                (within levels (ofMembers members), rest)
      | cs => readNumber cs

/-- The items of a list, one at least, up to its closing bracket. -/
def readItems : Nat → Nat → List Char → Option (List Json × List Char)
  | 0, _, _ => none
  | fuel + 1, levels, cs => do
      let (item, rest) ← readValue fuel levels cs
      match skipGaps rest with
      | ',' :: rest => (readItems fuel levels rest).map fun (items, rest) => (item :: items, rest)
      | ']' :: rest => return ([item], rest)
      | _ => none

/-- The members of an object, one at least, up to its closing brace, unless a key is unreadable. -/
def readMembers : Nat → Nat → List Char → Option (Option (List (String × Json)) × List Char)
  | 0, _, _ => none
  | fuel + 1, levels, cs =>
      match skipGaps cs with
      | '"' :: rest => do
          let (key, rest) ← readString fuel rest
          match skipGaps rest with
          | ':' :: rest => do
              let (value, rest) ← readValue fuel levels rest
              match skipGaps rest with
              | ',' :: rest =>
                  (readMembers fuel levels rest).map fun (members, rest) =>
                    (consMember key value members, rest)
              | '\x7d' :: rest => return (consMember key value (some []), rest)
              | _ => none
          | _ => none
      | _ => none

end

/-- More steps than a text of this length can take: a list takes two for its bracket and one for
each further item, and every other token takes no more steps than it has characters. -/
def stepsFor (length : Nat) : Nat :=
  2 * length + 2

/-- The data of a text, if the whole of it has the shape of JSON. -/
def parse? (text : String) : Option Json :=
  match readValue (stepsFor text.length) maxLevels text.toList with
  | some (json, rest) => if (skipGaps rest).isEmpty then some json else none
  | none => none

end FilterEditor.Json
