import FilterEditor.Json

/-!
# Json — Printer

JSON text of JSON data.  The compact form has no blanks; the indented form puts every item and
member on a line of its own.  In strings, quotes, backslashes and the control characters below the
space are escaped, and every other character stands for itself.
-/

namespace FilterEditor.Json

/-- A hexadecimal digit in small letters. -/
def hexDigit (n : Nat) : Char :=
  Nat.digitChar n

/-- A character inside a string. -/
def escape (c : Char) : List Char :=
  if c = '"' then ['\\', '"']
  else if c = '\\' then ['\\', '\\']
  else if c = '\x08' then ['\\', 'b']
  else if c = '\t' then ['\\', 't']
  else if c = '\n' then ['\\', 'n']
  else if c = '\x0c' then ['\\', 'f']
  else if c = '\r' then ['\\', 'r']
  else if c.toNat < 0x20 then
    ['\\', 'u', '0', '0', hexDigit (c.toNat / 16), hexDigit (c.toNat % 16)]
  else [c]

/-- A text in quotes. -/
def quote (text : String) : List Char :=
  '"' :: text.toList.flatMap escape ++ ['"']

/-- The digits of a number. -/
def digits (n : Nat) : List Char :=
  Nat.toDigits 10 n

/-- An exponent, with its sign. -/
def exponentDigits : Int → List Char
  | .ofNat n => digits n
  | .negSucc n => '-' :: digits (n + 1)

/-- A scalar.  Lists and objects have no text here, and what has no value has none anywhere. -/
def scalar : Json → List Char
  | .null => ['n', 'u', 'l', 'l']
  | .bool true => ['t', 'r', 'u', 'e']
  | .bool false => ['f', 'a', 'l', 's', 'e']
  | .nat n => digits n
  | .real negative mantissa exponent =>
      (if negative then ['-'] else []) ++ digits mantissa ++ 'e' :: exponentDigits exponent
  | .str text => quote text
  | .arr _ | .obj _ | .unreadable => []

mutual

/-- The compact text. -/
def compactChars : Json → List Char
  | .arr items => '[' :: compactItems items
  | .obj members => '\x7b' :: compactMembers members
  | json => scalar json

/-- The items of a list and its closing bracket. -/
def compactItems : List Json → List Char
  | [] => [']']
  | [item] => compactChars item ++ [']']
  | item :: items => compactChars item ++ ',' :: compactItems items

/-- The members of an object and its closing brace. -/
def compactMembers : List (String × Json) → List Char
  | [] => ['\x7d']
  | [(key, value)] => quote key ++ ':' :: compactChars value ++ ['\x7d']
  | (key, value) :: members => quote key ++ ':' :: compactChars value ++ ',' :: compactMembers members

end

/-- The compact text. -/
def compact (json : Json) : String :=
  String.ofList (compactChars json)

/-- A new line, indented to a depth. -/
def newline (depth : Nat) : List Char :=
  '\n' :: List.replicate (2 * depth) ' '

mutual

/-- The indented text, at a depth. -/
def indentedChars (depth : Nat) : Json → List Char
  | .arr [] => ['[', ']']
  | .arr items => '[' :: indentedItems depth items
  | .obj [] => ['\x7b', '\x7d']
  | .obj members => '\x7b' :: indentedMembers depth members
  | json => scalar json

/-- The items of a list, each on its line, and the closing bracket. -/
def indentedItems (depth : Nat) : List Json → List Char
  | [] => newline depth ++ [']']
  | item :: items =>
      newline (depth + 1) ++ indentedChars (depth + 1) item ++
        (if items.isEmpty then [] else [',']) ++ indentedItems depth items

/-- The members of an object, each on its line, and the closing brace. -/
def indentedMembers (depth : Nat) : List (String × Json) → List Char
  | [] => newline depth ++ ['\x7d']
  | (key, value) :: members =>
      newline (depth + 1) ++ quote key ++ ':' :: ' ' :: indentedChars (depth + 1) value ++
        (if members.isEmpty then [] else [',']) ++ indentedMembers depth members

end

/-- The indented text. -/
def indented (json : Json) : String :=
  String.ofList (indentedChars 0 json)

end FilterEditor.Json
