import FilterEditor.Diagnostic.Formatter
import FilterEditor.Output
import FilterEditor.Wire.Diagnostic

/-!
# Explain

The command that shows a parser's message the way the editor would: as a line and a list of the
expected tokens, or as JSON.
-/

namespace FilterEditor

/-- What is to be explained. -/
structure Explain where
  message : String
  /-- The terminals the parser expected. -/
  expected : List Terminal := []
  /-- The fields to select on; none stands for those of a device. -/
  fields : List String := []
  json : Bool := false
  /-- The message tells of an unknown field or an impossible value. -/
  semantic : Bool := false
deriving DecidableEq, Repr

namespace Explain

/-- The formatter for the fields. -/
def formatter (x : Explain) : Formatter :=
  if x.fields.isEmpty then {} else { schema := .ofNames x.fields }

/-- The diagnostic of the message. -/
def diagnostic (x : Explain) : Diagnostic :=
  if x.semantic then Formatter.semanticError x.message
  else x.formatter.syntaxError x.message x.expected

/-- The diagnostic in lines. -/
def lines (d : Diagnostic) : List String :=
  (Output.cross ++ " " ++ d.message) ::
    if d.expected.isEmpty then []
    else "  Expected tokens:" :: d.expected.map ("  * " ++ ·)

/-- The output of the command. -/
def output (x : Explain) : Output :=
  .printed <|
    if x.json then x.diagnostic.toJson.indented
    else "\n".intercalate (lines x.diagnostic)

end Explain
end FilterEditor
