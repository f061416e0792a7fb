import FilterEditor.Diagnostic
import FilterEditor.Json.Printer
import FilterEditor.Json.Record

/-!
# Wire — Diagnostic

Diagnostics as JSON: a status by name, the message, and the expected tokens.
-/

namespace FilterEditor
open Json

/-- The name of a status. -/
def Status.name : Status → String
  | .ok => "ok"
  | .syntaxError => "syntaxError"
  | .semanticError => "semanticError"

/-- The status of a name. -/
def Status.ofName? : String → Option Status
  | "ok" => some .ok
  | "syntaxError" => some .syntaxError
  | "semanticError" => some .semanticError
  | _ => none

@[simp] theorem Status.ofName?_name (status : Status) : ofName? status.name = some status := by
  cases status <;> rfl

namespace Diagnostic

/-- The members of a diagnostic's object. -/
def members (d : Diagnostic) : List (String × Json) :=
  [("status", .str d.status.name), ("message", .str d.message),
    ("expectedTokens", Json.ofTexts d.expected)]

/-- A diagnostic as JSON. -/
def toJson (d : Diagnostic) : Json :=
  .obj d.members

/-- The diagnostic of the data. -/
def ofJson? (json : Json) : Option Diagnostic := do
  let fields ← fields? ["status", "message", "expectedTokens"] json
  return {
    status := ← fields.required "status" fun status => (choice? status).bind Status.ofName?
    message := ← fields.required "message" text?
    expected := ← fields.required "expectedTokens" (list? text?) }

end Diagnostic
end FilterEditor
