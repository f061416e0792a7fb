import FilterEditor.Text.Ascii
import FilterEditor.Text.Blank

/-!
# LogLevel

How much is logged.  The switches of the command line decide, and without them an environment
variable does; a value of it that means nothing is reported, and the usual level stands.
-/

namespace FilterEditor
open Text

/-- How much is logged, from most to least. -/
inductive LogLevel where
  | trace
  | debug
  | info
  | warn
  | error
deriving DecidableEq, Repr

namespace LogLevel

/-- The name of a level. -/
def name : LogLevel → String
  | .trace => "TRACE"
  | .debug => "DEBUG"
  | .info => "INFO"
  | .warn => "WARN"
  | .error => "ERROR"

/-- The variable that sets the level. -/
def variableName : String := "TFQ_LOG"

/-- The level of a word in small letters. -/
def ofWord? : String → Option LogLevel
  | "trace" => some .trace
  | "debug" | "verbose" => some .debug
  | "info" => some .info
  | "warn" => some .warn
  | "error" => some .error
  | _ => none

/-- What is said of a word that is no level. -/
def warning (word : String) : String :=
  String.ofList ("Invalid ".toList ++ '\x60' :: variableName.toList ++
    '\x60' :: " environment variable value: ".toList ++ '\x60' :: word.toList ++ ['\x60'])

/-- The level for so many switches and a value of the variable, and a warning about the value. -/
def choose (verbose : Nat) (value : Option String) : LogLevel × Option String :=
  match verbose, value with
  | 0, none => (.info, none)
  | 0, some value =>
      let word := String.ofList (asciiLower (trim value.toList))
      match ofWord? word with
      | some level => (level, none)
      | none => (.info, some (warning word))
  | 1, _ => (.debug, none)
  | _, _ => (.trace, none)

end LogLevel
end FilterEditor
