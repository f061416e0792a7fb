import FilterEditor.Token

/-!
# Failure

What a parser reports about a text it refuses: a chain of errors, each around the next, that ends
in a syntax error or in some other error.  A syntax error carries the table of the terminals the
grammar would have accepted, one row per alternative, and `Failure.expected` reads that table from
however far down the chain.
-/

namespace FilterEditor

/-- The terminals a grammar would have accepted, as its syntax error reports them. -/
inductive ExpectedTable where
  | rows (rows : List (List Terminal))
  | missing
  | unreadable (reason : String)
deriving DecidableEq, Repr

/-- A parser's error, with the errors it wraps. -/
inductive Failure where
  | wrapped (message : String) (inner : Failure)
  | syntaxError (message : String) (table : ExpectedTable)
  | other (message : String)
deriving DecidableEq, Repr

/-- Why a failure yields no expected terminals. -/
inductive TableError where
  | noSyntaxError
  | missing
  | unreadable (reason : String)
deriving DecidableEq, Repr

/-- The text of a table error. -/
def TableError.message : TableError → String
  | .noSyntaxError => "no syntax error record in the failure chain"
  | .missing => "syntax error record carries no expected-token table"
  | .unreadable reason => "expected-token table is unreadable: " ++ reason

namespace Failure

/-- The messages of the chain, outermost first. -/
def chain : Failure → List String
  | .wrapped message inner => message :: inner.chain
  | .syntaxError message _ => [message]
  | .other message => [message]

/-- The table of the first syntax error in the chain. -/
def table? : Failure → Option ExpectedTable
  | .wrapped _ inner => inner.table?
  | .syntaxError _ table => some table
  | .other _ => none

/-- The terminals the parser expected: the rows of the table, one after the other. -/
def expected (failure : Failure) : Except TableError (List Terminal) :=
  match failure.table? with
  | none => .error .noSyntaxError
  | some .missing => .error .missing
  | some (.unreadable reason) => .error (.unreadable reason)
  | some (.rows rows) => .ok rows.flatten

@[simp] theorem expected_wrapped (message : String) (inner : Failure) :
    (wrapped message inner).expected = inner.expected := rfl

end Failure

/-- What the oracle concludes about a query. -/
inductive Verdict where
  | success
  /-- The grammar refuses the text. -/
  | syntaxError (message : String) (failure : Failure)
  /-- The text parses, and selects on a field that does not exist. -/
  | unsupportedField (message : String)
  /-- The text parses, and gives a field a value it cannot hold. -/
  | malformedValue (message : String)
deriving DecidableEq, Repr

end FilterEditor
