import FilterEditor.CommandLine.Grammar
import FilterEditor.Explain
import FilterEditor.Replay

/-!
# CommandLine

The command line of the program: `explain` and `replay`, and how much is logged.
-/

namespace FilterEditor
namespace CommandLine

/-! ### The grammars -/

/-- The switch that asks for help. -/
def helpSwitch : Switch := { name := "help", letter := some 'h', effect := .help }

/-- The words before a subcommand. -/
def program : Grammar where
  switches := [
    { name := "verbose", letter := some 'v', effect := .count }, helpSwitch,
    { name := "version", letter := some 'V', effect := .version }]
  subcommands := ["explain", "replay"]

/-- The words after `explain`. -/
def explainWords : Grammar where
  switches := [{ name := "json", effect := .once }, { name := "semantic", effect := .once },
    helpSwitch]
  options := [
    { name := "expected", kind := .terminal, isList := true },
    { name := "fields", kind := .text, isList := true }]
  operand := some .text

/-- The words after `replay`. -/
def replayWords : Grammar where
  switches := [{ name := "complete", effect := .once }, helpSwitch]
  options := [
    { name := "debounce-ms", kind := .millis }, { name := "oracle-timeout-ms", kind := .millis }]
  operand := some .path

/-! ### Commands -/

/-- A command to carry out. -/
inductive Command where
  | explain (explain : Explain)
  /-- The recording is in a file. -/
  | replay (options : Replay.Options) (path : String)
deriving DecidableEq, Repr

/-- What a command line asks for. -/
structure Request where
  /-- How often more logging was asked for. -/
  verbose : Nat
  /-- Without a command, the program shows its help. -/
  command : Option Command
deriving DecidableEq, Repr

/-- The words after a subcommand, with the operand that it has to have. -/
def readCommand (grammar : Grammar) (words : List String)
    (conflicts : Given → Bool) : Except UsageError (Given × String) := do
  let (g, _) ← grammar.read false words {}
  if conflicts g then throw .argumentConflict
  match g.operand with
  | some operand => return (g, operand)
  | none => throw .missingRequiredArgument

/-- Reads the words after `explain`.  A message is not semantic and about expected terminals both. -/
def readExplain (words : List String) : Except UsageError Command := do
  let (g, message) ← readCommand explainWords words fun g =>
    g.hasSwitch "semantic" && g.hasOption "expected"
  return .explain {
    message
    expected := (g.pieces "expected").filterMap fun piece =>
      (readTerminal piece).map UInt16.ofNat
    fields := g.pieces "fields"
    json := g.hasSwitch "json"
    semantic := g.hasSwitch "semantic" }

/-- Reads the words after `replay`. -/
def readReplay (words : List String) : Except UsageError Command := do
  let (g, path) ← readCommand replayWords words fun _ => false
  let millis (name : String) := (g.pieces name).head?.bind readMillis
  return .replay {
    complete := g.hasSwitch "complete"
    debounceMs := millis "debounce-ms"
    oracleTimeoutMs := millis "oracle-timeout-ms" } path

/-- The most that is counted of a switch. -/
def maxCount : Nat := 255

/-- Reads a command line. -/
def read (words : List String) : Except UsageError Request := do
  let (g, subcommand) ← program.read false words {}
  let verbose := min (g.switches.count "verbose") maxCount
  match subcommand with
  | some ("explain", words) => return { verbose, command := some (← readExplain words) }
  | some (_, words) => return { verbose, command := some (← readReplay words) }
  | none => return { verbose, command := none }

end CommandLine
end FilterEditor
