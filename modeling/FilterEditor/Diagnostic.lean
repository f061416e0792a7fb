/-!
# Diagnostic

What the user is told about a query: whether it is accepted, a message in display form, and the
tokens or field names that would have been accepted in place of what stands there.
-/

namespace FilterEditor

/-- The outcome of validating a query. -/
inductive Status where
  | ok
  /-- The grammar refuses the text. -/
  | syntaxError
  /-- The text parses, and names an unknown field or holds an impossible value. -/
  | semanticError
deriving DecidableEq, Repr

/-- The result of validating a query, ready to be shown. -/
structure Diagnostic where
  status : Status
  message : String
  expected : List String
deriving DecidableEq, Repr

namespace Diagnostic

/-- The query is accepted. -/
def accepted : Diagnostic where
  status := .ok
  message := ""
  expected := []

/-- The query is refused, for its syntax or its meaning. -/
def failed (d : Diagnostic) : Bool :=
  d.status != .ok

/-- The message, if it is one of an error. -/
def errorMessage (d : Diagnostic) : Option String :=
  if d.failed then some d.message else none

end Diagnostic
end FilterEditor
