import FilterEditor.Diagnostic
import FilterEditor.Failure
import FilterEditor.Schema
import FilterEditor.Text.Blank

/-!
# Diagnostic — Formatter

A parser's message in display form.  Parsers begin their messages with a class name and a colon and
end them with an expectation clause of their own; both are removed (`unframe`), the clause is
written again from the token table, and the result is one line without angle brackets (`tidy`).
When the grammar waits for a field selector, the clause lists the fields of the schema.
-/

namespace FilterEditor
open Text

/-- What an expectation clause starts with. -/
def expectationMark : String := "Was expecting"

/-- The compound selectors offered next to the fields of the schema. -/
def compoundSelectors : List String := ["assignedds.name", "assignedds.version"]

/-- The message without its prefix, which ends at the first colon, and without its own expectation
clause, which starts at the last mark. -/
def unframe (raw : List Char) : List Char :=
  let body := match splitFirst ':' raw with
    | some (_, rest) => rest
    | none => raw
  (beforeLast expectationMark.toList body).getD body

/-- An angle bracket, which parsers put around the names of their terminals. -/
def isAngle (c : Char) : Bool :=
  c == '<' || c == '>'

/-- The text on one line, without angle brackets, its words one space apart. -/
def tidy (cs : List Char) : List Char :=
  collapse (cs.filter (!isAngle ·))

/-- An expectation clause for the tokens. -/
def expectationClause (tokens : List String) : List Char :=
  expectationMark.toList ++ [':', ' '] ++ List.intercalate [',', ' '] (tokens.map String.toList)

/-- A grammar's tokens and the fields it may select on. -/
structure Formatter where
  tokens : TokenTable := .rsql
  schema : Schema := .device

namespace Formatter

/-- The readable names of expected terminals, each once: the fields when the grammar waits for a
selector, and otherwise the literals of the table, the end of the input left out. -/
def expectedTokens (f : Formatter) (ids : List Terminal) : List String :=
  if f.tokens.isSelectorPair ids then
    (f.schema.names.map lowercase ++ compoundSelectors).eraseDups
  else
    ((ids.filter (· != f.tokens.endOfInput)).filterMap f.tokens.literal?).eraseDups

/-- The diagnostic of a syntax error. -/
def syntaxError (f : Formatter) (raw : String) (ids : List Terminal) : Diagnostic :=
  let tokens := f.expectedTokens ids
  let cleaned := trim (unframe raw.toList)
  let message :=
    if tokens.isEmpty then cleaned
    else if cleaned.isEmpty then expectationClause tokens
    else cleaned ++ ' ' :: expectationClause tokens
  { status := .syntaxError, message := String.ofList (tidy message), expected := tokens }

/-- The diagnostic of an unknown field or an impossible value. -/
def semanticError (raw : String) : Diagnostic where
  status := .semanticError
  message := String.ofList (tidy (unframe raw.toList))
  expected := []

/-- The diagnostic of a verdict.  A syntax error whose table cannot be read has no expectations. -/
def diagnose (f : Formatter) : Verdict → Diagnostic
  | .success => .accepted
  | .syntaxError raw failure =>
      match failure.expected with
      | .ok ids => f.syntaxError raw ids
      | .error _ => f.syntaxError raw []
  | .unsupportedField raw => semanticError raw
  | .malformedValue raw => semanticError raw

end Formatter
end FilterEditor
