import FilterEditor.Signal
import FilterEditor.Wire.Diagnostic
import FilterEditor.Wire.Message

/-!
# Wire — Signal

Signals as JSON: an object whose first member names the signal.
-/

namespace FilterEditor

/-- The name of a validity. -/
def Validity.name : Validity → String
  | .unknown => "UNKNOWN"
  | .validating => "VALIDATING"
  | .valid => "VALID"
  | .invalid => "INVALID"

/-- The validity of a name. -/
def Validity.ofName? : String → Option Validity
  | "UNKNOWN" => some .unknown
  | "VALIDATING" => some .validating
  | "VALID" => some .valid
  | "INVALID" => some .invalid
  | _ => none

/-- The validity of the data. -/
def Validity.ofJson? (json : Json) : Option Validity :=
  json.choice?.bind Validity.ofName?

/-- The name of an icon. -/
def Icon.name : Icon → String
  | .none => "none"
  | .inProgress => "inProgress"
  | .success => "success"
  | .error => "error"

/-- The members of a gating's object. -/
def Gating.members (g : Gating) : List (String × Json) :=
  [("searchEnabled", .bool g.search), ("saveEnabled", .bool g.save)]

/-- The members of a feedback's object. -/
def Feedback.members (f : Feedback) : List (String × Json) :=
  [("icon", .str f.icon.name), ("tooltip", Json.ofText? f.tooltip)]

namespace Signal

/-- The name of a signal. -/
def name : Signal → String
  | .gating _ => "gating"
  | .feedback _ => "feedback"
  | .validated _ => "validated"
  | .suggestions _ => "suggestions"
  | .executeQuery _ => "executeQuery"
  | .executeRejected _ => "executeRejected"

/-- What a signal says besides its name. -/
def members : Signal → List (String × Json)
  | .gating g => g.members
  | .feedback f => f.members
  | .validated d => d.members
  | .suggestions s => s.record.members
  | .executeQuery query => [("query", .str query)]
  | .executeRejected validity => [("validity", .str validity.name)]

/-- A signal as JSON. -/
def toJson (s : Signal) : Json :=
  .obj (("signal", .str s.name) :: s.members)

/-- The text of a signal, on one line. -/
def line (s : Signal) : String :=
  s.toJson.compact

end Signal
end FilterEditor
