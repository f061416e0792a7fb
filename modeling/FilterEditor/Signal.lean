import FilterEditor.Draft
import FilterEditor.Suggestion

/-!
# Signal

What passes between the editing surface and a session: events one way, signals the other.
-/

namespace FilterEditor

/-- What the user does. -/
inductive Event where
  /-- The text was changed; the cursor counts code points. -/
  | textChanged (text : String) (cursor : Nat)
  | nameChanged (name : String)
  /-- The query is to be run. -/
  | execute
deriving DecidableEq, Repr

/-- What the editing surface is told. -/
inductive Signal where
  | gating (gating : Gating)
  | feedback (feedback : Feedback)
  /-- The text was validated. -/
  | validated (diagnostic : Diagnostic)
  | suggestions (suggestions : Suggestions)
  /-- The repository is to be searched with this query. -/
  | executeQuery (query : String)
  /-- The query cannot be run in its present state. -/
  | executeRejected (validity : Validity)
deriving DecidableEq, Repr

/-- The two signals that show where a draft stands. -/
def Draft.status (d : Draft) : List Signal :=
  [.feedback d.feedback, .gating d.gating]

end FilterEditor
