import FilterEditor.Diagnostic
import FilterEditor.Fault
import FilterEditor.Text.Blank

/-!
# Draft

A filter while it is being edited: its query, its name, the filter it was opened from, and what is
known of the query's validity.

Every change of the text issues a new request id, and only an answer to the last issued id, given
for the first time, is applied (`Draft.accepts`); any other answer is stale and leaves the draft as
it was.  An empty text needs no answer, and settles its id at once.
-/

namespace FilterEditor
open Text

/-- The number of a request to the oracle; 0 comes before every request. -/
abbrev RequestId := Nat

/-- The id after this one. -/
def RequestId.next (id : RequestId) : Except Fault RequestId :=
  addOffset id 1

/-- What is known of a query. -/
inductive Validity where
  /-- There is nothing to validate, or the oracle could not answer. -/
  | unknown
  /-- An answer is awaited. -/
  | validating
  | valid
  | invalid
deriving DecidableEq, Repr

/-- The word for a validity in messages. -/
def Validity.word : Validity → String
  | .unknown => "unknown"
  | .validating => "validating"
  | .valid => "valid"
  | .invalid => "invalid"

/-- The actions that are open to the user. -/
structure Gating where
  search : Bool
  save : Bool
deriving DecidableEq, Repr

/-- The sign shown beside the query. -/
inductive Icon where
  | none
  | inProgress
  | success
  | error
deriving DecidableEq, Repr

/-- The validation indicator shown beside the query. -/
structure Feedback where
  icon : Icon
  tooltip : Option String
deriving DecidableEq, Repr

/-- The indicator of a validity.  Only an invalid query has a tooltip. -/
def Feedback.of (validity : Validity) (error : Option String) : Feedback :=
  match validity with
  | .unknown => ⟨.none, none⟩
  | .validating => ⟨.inProgress, none⟩
  | .valid => ⟨.success, none⟩
  | .invalid => ⟨.error, error⟩

/-- A filter as it was last saved. -/
structure SavedFilter where
  name : String
  query : String
deriving DecidableEq, Repr

/-- A filter while it is being edited. -/
structure Draft where
  text : String := ""
  cursor : Nat := 0
  name : String := ""
  saved : Option SavedFilter := none
  maySave : Bool
  issued : RequestId := 0
  applied : RequestId := 0
  validity : Validity := .unknown
  error : Option String := none
deriving DecidableEq, Repr

/-- What a change of the text asks for. -/
inductive Change where
  /-- The oracle is to be asked, under this id. -/
  | issued (id : RequestId)
  /-- The text is empty, and needs no answer. -/
  | cleared
deriving DecidableEq, Repr

/-- What became of an answer. -/
inductive Disposition where
  | applied
  /-- A later change overtook the request, or it was answered before. -/
  | stale
deriving DecidableEq, Repr

namespace Draft

/-- The draft of a new filter. -/
def blank (maySave : Bool) : Draft where
  maySave := maySave

/-- The draft of a saved filter, the cursor at the end of its query. -/
def ofSaved (saved : SavedFilter) (maySave : Bool) : Draft where
  text := saved.query
  cursor := saved.query.length
  name := saved.name
  saved := some saved
  maySave := maySave

/-- The draft of a new filter, or of the saved one. -/
def opening (saved : Option SavedFilter) (maySave : Bool) : Draft :=
  match saved with
  | some filter => ofSaved filter maySave
  | none => blank maySave

/-- The draft after a change of its text. -/
def edit (d : Draft) (text : String) (cursor : Nat) : Except Fault (Draft × Change) := do
  let id ← RequestId.next d.issued
  let d := { d with text, cursor, issued := id, error := none }
  if text.isEmpty then return ({ d with applied := id, validity := .unknown }, .cleared)
  else return ({ d with validity := .validating }, .issued id)

/-- The draft after a change of its name. -/
def rename (d : Draft) (name : String) : Draft :=
  { d with name }

/-- An answer under this id is neither stale nor given before. -/
def accepts (d : Draft) (id : RequestId) : Bool :=
  id == d.issued && decide (d.applied < id)

/-- The draft after the oracle's diagnostic for a request. -/
def answer (d : Draft) (id : RequestId) (diagnostic : Diagnostic) : Draft × Disposition :=
  if d.accepts id then
    ({ d with
        applied := id
        validity := if diagnostic.failed then .invalid else .valid
        error := diagnostic.errorMessage }, .applied)
  else (d, .stale)

/-- The draft after a request that the oracle could not answer. -/
def giveUp (d : Draft) (id : RequestId) : Draft × Disposition :=
  if d.accepts id then
    ({ d with applied := id, validity := .unknown, error := none }, .applied)
  else (d, .stale)

/-- The query to search with, if the last answer accepted it. -/
def executable (d : Draft) : Option String :=
  if d.validity = .valid then some d.text else none

/-- What is said of a query that cannot be executed. -/
def refusal (validity : Validity) : String :=
  "the query cannot be executed while it is " ++ validity.word

/-- The draft differs from the filter it was opened from, if there is one. -/
def isChanged (d : Draft) : Bool :=
  d.saved.all fun saved => saved.name != d.name || saved.query != d.text

/-- The name has a character that is not blank. -/
def isNamed (d : Draft) : Bool :=
  !(trim d.name.toList).isEmpty

/-- Searching takes a valid query that is not empty.  Saving takes a name, a change and permission
besides. -/
def gating (d : Draft) : Gating :=
  let search := d.validity == .valid && !d.text.isEmpty
  { search, save := search && d.maySave && d.isNamed && d.isChanged }

/-- The indicator of the draft. -/
def feedback (d : Draft) : Feedback :=
  .of d.validity d.error

/-! ### Stale answers -/

theorem accepts_iff {d : Draft} {id : RequestId} :
    d.accepts id ↔ id = d.issued ∧ d.applied < id := by
  simp [accepts]

theorem answer_of_not_accepts {d : Draft} {id : RequestId} (h : ¬ d.accepts id)
    (diagnostic : Diagnostic) : d.answer id diagnostic = (d, .stale) := by
  simp [answer, h]

theorem giveUp_of_not_accepts {d : Draft} {id : RequestId} (h : ¬ d.accepts id) :
    d.giveUp id = (d, .stale) := by
  simp [giveUp, h]

end Draft
end FilterEditor
