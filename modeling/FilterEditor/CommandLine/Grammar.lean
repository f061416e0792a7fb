import FilterEditor.Text.Cut

/-!
# CommandLine — Grammar

Reading the words of a command line.  A grammar names switches, which stand alone, options, which
take a value from the same word (`--name=value`) or the next one, at most one operand, and
subcommands, at which reading stops.

Words are read from left to right and the first mistake is the one reported.  A value is checked
only when the word after it is read, so a mistake in that word, if it needs no check of what came
before, is reported in place of the value's.  After `--` every word is an operand.
-/

namespace FilterEditor.CommandLine
open Text

/-- Why a command line is not carried out. -/
inductive UsageError where
  | displayHelp
  | displayVersion
  | invalidSubcommand
  | unknownArgument
  | valueValidation
  | invalidValue
  | missingRequiredArgument
  | argumentConflict
  | tooManyValues
deriving DecidableEq, Repr

/-- The name of a usage error. -/
def UsageError.name : UsageError → String
  | .displayHelp => "DisplayHelp"
  | .displayVersion => "DisplayVersion"
  | .invalidSubcommand => "InvalidSubcommand"
  | .unknownArgument => "UnknownArgument"
  | .valueValidation => "ValueValidation"
  | .invalidValue => "InvalidValue"
  | .missingRequiredArgument => "MissingRequiredArgument"
  | .argumentConflict => "ArgumentConflict"
  | .tooManyValues => "TooManyValues"

/-! ### Values -/

/-- The number that digits spell. -/
def readDigits (cs : List Char) : Option Nat :=
  if !cs.isEmpty && cs.all Char.isDigit then some (Nat.ofDigitChars 10 cs 0) else none

/-- An unsigned number below a limit.  A plus sign may stand before it. -/
def readUnsigned (limit : Nat) (word : String) : Option Nat :=
  let number := match word.toList with
    | '+' :: cs => readDigits cs
    | cs => readDigits cs
  number.filter (· < limit)

/-- A number below a limit, with any sign.  Of the negative ones only zero is in range. -/
def readSigned (limit : Nat) (word : String) : Option Nat :=
  match word.toList with
  | '-' :: cs => (readDigits cs).filter (· == 0)
  | _ => readUnsigned limit word

/-- What a value has to be. -/
inductive Kind where
  | text
  /-- A text that is not empty. -/
  | path
  /-- A number of 16 bits. -/
  | terminal
  /-- A number of 64 bits. -/
  | millis
deriving DecidableEq, Repr

/-- A terminal on the command line. -/
def readTerminal : String → Option Nat :=
  readSigned UInt16.size

/-- A number of milliseconds on the command line. -/
def readMillis : String → Option Nat :=
  readUnsigned UInt64.size

/-- Checks a value. -/
def Kind.check (kind : Kind) (word : String) : Except UsageError Unit :=
  match kind with
  | .text => .ok ()
  | .path => if word.isEmpty then .error .invalidValue else .ok ()
  | .terminal => if (readTerminal word).isSome then .ok () else .error .valueValidation
  | .millis => if (readMillis word).isSome then .ok () else .error .valueValidation

/-! ### Grammars -/

/-- What a switch does. -/
inductive Effect where
  /-- It may be given any number of times. -/
  | count
  /-- It may be given once. -/
  | once
  | help
  | version
deriving DecidableEq, Repr

/-- A word that stands alone. -/
structure Switch where
  name : String
  letter : Option Char := none
  effect : Effect
deriving DecidableEq, Repr

/-- A word that takes a value. -/
structure Valued where
  name : String
  kind : Kind
  /-- It may be given again, and each value is a list between commas. -/
  isList : Bool := false
deriving DecidableEq, Repr

/-- The words a command understands. -/
structure Grammar where
  switches : List Switch
  options : List Valued := []
  operand : Option Kind := none
  subcommands : List String := []
deriving Repr

/-- The subcommand that explains the others. -/
def helpWord : String := "help"

/-- The word is a subcommand, or the one that explains them. -/
def Grammar.isCommand (grammar : Grammar) (word : String) : Bool :=
  !grammar.subcommands.isEmpty && (grammar.subcommands.contains word || word == helpWord)

/-! ### Reading -/

/-- A value that was read and not checked. -/
inductive Unchecked where
  /-- An option, and its value if that was read. -/
  | option (option : Valued) (value : Option String)
  | operand (value : String)
deriving DecidableEq, Repr

/-- What was read of a command line. -/
structure Given where
  /-- The switches, each time they were given. -/
  switches : List String := []
  /-- The options with the pieces of their values, in order. -/
  options : List (String × List String) := []
  operand : Option String := none
  unchecked : Option Unchecked := none
deriving DecidableEq, Repr

namespace Given

/-- An option waits for its value. -/
def awaitsValue (g : Given) : Bool :=
  match g.unchecked with
  | some (.option _ none) => true
  | _ => false

/-- The operand was read, whether or not it was checked. -/
def hasOperand (g : Given) : Bool :=
  match g.unchecked with
  | some (.operand _) => true
  | _ => g.operand.isSome

/-- The option was given. -/
def hasOption (g : Given) (name : String) : Bool :=
  g.options.any (·.1 == name)

/-- The switch was given. -/
def hasSwitch (g : Given) (name : String) : Bool :=
  g.switches.contains name

/-- Every piece given for an option, in order. -/
def pieces (g : Given) (name : String) : List String :=
  (g.options.filter (·.1 == name)).flatMap (·.2)

/-- Takes an option with its value. -/
def takeOption (g : Given) (option : Valued) (value : String) : Except UsageError Given := do
  let pieces :=
    if option.isList then (Text.pieces (· == ',') value.toList).map String.ofList else [value]
  if !option.isList && g.hasOption option.name then throw .argumentConflict
  pieces.forM option.kind.check
  return { g with options := g.options ++ [(option.name, pieces)] }

/-- Checks what was read and not checked. -/
def settle (g : Given) (grammar : Grammar) : Except UsageError Given := do
  let rest := { g with unchecked := none }
  match g.unchecked with
  | none => return g
  | some (.option _ none) => throw .invalidValue
  | some (.option option (some value)) => rest.takeOption option value
  | some (.operand value) =>
      grammar.operand.forM (·.check value)
      return { rest with operand := some value }

/-- Takes a switch. -/
def takeSwitch (g : Given) (grammar : Grammar) (switch : Switch) : Except UsageError Given := do
  let g ← g.settle grammar
  match switch.effect with
  | .help => throw .displayHelp
  | .version => throw .displayVersion
  | .count => return { g with switches := g.switches ++ [switch.name] }
  | .once =>
      if g.hasSwitch switch.name then throw .argumentConflict
      return { g with switches := g.switches ++ [switch.name] }

/-- Takes the part of a word after its two dashes. -/
def takeLong (g : Given) (grammar : Grammar) (body : List Char) : Except UsageError Given := do
  let (name, attached) := match splitFirst '=' body with
    | some (name, value) => (String.ofList name, some (String.ofList value))
    | none => (String.ofList body, none)
  match grammar.switches.find? (·.name == name), grammar.options.find? (·.name == name) with
  | some switch, _ => if attached.isSome then throw .tooManyValues else g.takeSwitch grammar switch
  | none, some option =>
      let g ← g.settle grammar
      match attached with
      | some value => g.takeOption option value
      | none => return { g with unchecked := some (.option option none) }
  | none, none => throw .unknownArgument

/-- Takes the letters of a word after its one dash. -/
def takeLetters (grammar : Grammar) : List Char → Given → Except UsageError Given
  | [], g => .ok g
  | c :: cs, g =>
      match grammar.switches.find? (·.letter == some c) with
      | some switch => do takeLetters grammar cs (← g.takeSwitch grammar switch)
      | none => .error .unknownArgument

/-- Takes a word that is neither switch nor option.  Where a subcommand belongs, no other word may
stand.  A subcommand comes here after `--` only, where it is one word too many. -/
def takeOperand (g : Given) (grammar : Grammar) (word : String) : Except UsageError Given := do
  if grammar.operand.isSome && !g.hasOperand then
    return { ← g.settle grammar with unchecked := some (.operand word) }
  else if grammar.subcommands.isEmpty || grammar.isCommand word then throw .unknownArgument
  else throw .invalidSubcommand

/-- Takes a word that is no subcommand. -/
def takeWord (g : Given) (grammar : Grammar) (word : String) : Except UsageError Given :=
  match word.toList with
  | '-' :: '-' :: body => g.takeLong grammar body
  | '-' :: c :: letters => takeLetters grammar (c :: letters) g
  | _ =>
      match g.unchecked with
      | some (.option option none) =>
          .ok { g with unchecked := some (.option option (some word)) }
      | _ => g.takeOperand grammar word

end Given

/-- Asking for help on nothing, on a subcommand, or on help itself. -/
def askHelp (grammar : Grammar) : List String → UsageError
  | [] => .displayHelp
  | [word] =>
      if grammar.isCommand word then .displayHelp else .invalidSubcommand
  | _ => .invalidSubcommand

/-- Reads words up to a subcommand, and gives back the subcommand with the words after it. -/
def Grammar.read (grammar : Grammar) (operandsOnly : Bool) :
    List String → Given → Except UsageError (Given × Option (String × List String))
  | [], g => do return (← g.settle grammar, none)
  | word :: words, g =>
      if operandsOnly then do
        grammar.read true words (← g.takeOperand grammar word)
      else if !g.awaitsValue && grammar.subcommands.contains word then .ok (g, some (word, words))
      else if !g.awaitsValue && !grammar.subcommands.isEmpty && word == helpWord then
        .error (askHelp grammar words)
      else if word == "--" then grammar.read true words g
      else do grammar.read false words (← g.takeWord grammar word)

end FilterEditor.CommandLine
