/-!
# Text — Ascii

Case folding and word characters for ASCII.  Letters outside ASCII keep their case here, and are no
word characters: labels and attribute names are compared this way, while selector names are folded
by the full rules of `FilterEditor.Text.Lowercase`.
-/

namespace FilterEditor.Text

/-- The ASCII capitals of the text made small. -/
def asciiLower (cs : List Char) : List Char :=
  cs.map Char.toLower

/-- Equality of two texts up to ASCII case. -/
def sameAscii (a b : String) : Bool :=
  asciiLower a.toList == asciiLower b.toList

/-- A letter, a digit or an underscore of ASCII. -/
def isWordChar (c : Char) : Bool :=
  c.isAlphanum || c == '_'

theorem sameAscii_iff {a b : String} :
    sameAscii a b ↔ asciiLower a.toList = asciiLower b.toList := by
  simp [sameAscii]

end FilterEditor.Text
