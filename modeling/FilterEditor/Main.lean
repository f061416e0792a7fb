import FilterEditor.CommandLine
import FilterEditor.LogLevel

/-!
# Main

The program: it reads its command line, carries it out, and prints what comes of it.
-/

namespace FilterEditor
open CommandLine

/-- The problem that an attempt to read a file ran into. -/
def fileProblem (path : String) : IO.Error → FileProblem
  | .permissionDenied .. => .denied
  | .inappropriateType .. => .isDirectory
  | .userError .. => .notText
  | _ => .ofPath path

/-- Plays the recording in a file, at the pace of its oracle. -/
def replayFile (options : Replay.Options) (path : String) : IO (Except Fault Output) := do
  match ← (IO.FS.readFile path).toBaseIO with
  | .ok text =>
      match Replay.Recording.parse? text with
      | some recording => return Replay.output { options with paced := true } recording
      | none => return .ok (Replay.failure (Replay.unreadableFile path))
  | .error e => return .ok (Replay.failure (Replay.noText path (fileProblem path e)))

/-- Carries out a command. -/
def carryOut : Command → IO (Except Fault Output)
  | .explain explain => return .ok explain.output
  | .replay options path => replayFile options path

/-- The exit code of a fault. -/
def faultCode : UInt32 := 101

/-- The exit code of a command line that is not carried out. -/
def CommandLine.UsageError.exitCode : UsageError → UInt32
  | .displayHelp | .displayVersion => 0
  | _ => 2

/-- Warns of a log level that means nothing. -/
def warn (request : Request) : IO Unit := do
  let (_, warning) := LogLevel.choose request.verbose (← IO.getEnv LogLevel.variableName)
  if let some text := warning then IO.eprintln text

/-- Carries out a request. -/
def serve (request : Request) : IO UInt32 := do
  warn request
  match request.command with
  | none =>
      IO.println UsageError.displayHelp.name
      return 0
  | some command =>
      match ← carryOut command with
      | .ok output =>
          if let some text := output.stdout then IO.println text
          if let some text := output.stderr then IO.eprintln text
          return UInt32.ofNat output.exitCode
      | .error fault =>
          IO.eprintln fault.message
          return faultCode

end FilterEditor

/-- The program. -/
def main (words : List String) : IO UInt32 := do
  match FilterEditor.CommandLine.read words with
  | .ok request => FilterEditor.serve request
  | .error e =>
      IO.eprintln e.name
      return e.exitCode
