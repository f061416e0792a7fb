/-!
# Output

What a command leaves behind: text for the standard output or the error output, and whether it
succeeded.
-/

namespace FilterEditor

/-- What a command leaves behind. -/
inductive Output where
  /-- The command succeeded, and this is its output. -/
  | printed (text : String)
  /-- The command ran to its end, and its output tells of a problem with its input. -/
  | rejected (text : String)
  /-- The command could not run, and this is why. -/
  | failed (text : String)
deriving DecidableEq, Repr

namespace Output

/-- The sign of bad news. -/
def cross : String := "❌"

/-- The sign of good news. -/
def check : String := "✅"

/-- The text for the standard output. -/
def stdout : Output → Option String
  | .printed text | .rejected text => some text
  | .failed _ => none

/-- The text for the error output. -/
def stderr : Output → Option String
  | .failed text => some text
  | _ => none

/-- The exit code. -/
def exitCode : Output → Nat
  | .printed _ => 0
  | _ => 1

end Output
end FilterEditor
