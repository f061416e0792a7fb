import FilterEditor.FileProblem
import FilterEditor.Output
import FilterEditor.Session
import FilterEditor.Text.Quoted
import FilterEditor.Wire.Script
import FilterEditor.Wire.Signal

/-!
# Replay

The command that plays a recorded session against a scripted oracle, and prints each signal on a
line of its own.

The clock moves in the waits of the recording and nowhere else.  The events between two waits reach
the session first, and only then are replies received and requests sent; so an event overtakes every
reply, and what is still under way after the last event is dropped.  A wait of no time is no wait,
and what falls due at the very end of a wait comes after the player has gone on.

The oracle takes its time for a text if the recording is played at its pace (`Options.paced`).  A
call is held until the oracle is done with it, and may be given up before that.  Otherwise every call
returns at once.

This is one order of many.  Where there is no room for an event, or a timer is late, replies and
requests come between events; `Proofs.Performances` has every order that is open.
-/

namespace FilterEditor
open Json

namespace Replay

/-- One step of a recording. -/
inductive Step where
  | event (event : Event)
  /-- Some milliseconds go by. -/
  | wait (ms : Nat)
deriving DecidableEq, Repr

/-- A recorded session. -/
structure Recording where
  saved : Option SavedFilter := none
  maySave : Bool := true
  timing : Option Timing := none
  /-- The names of the fields to select on; none given stands for those of a device. -/
  fields : Option (List String) := none
  responses : List Response := []
  steps : List Step
deriving DecidableEq, Repr

/-- How a recording is played. -/
structure Options where
  /-- Completions of the schema are added to the script's. -/
  complete : Bool := false
  debounceMs : Option Nat := none
  oracleTimeoutMs : Option Nat := none
  /-- The oracle takes as long as the recording says.  If not, the clock stands still for it. -/
  paced : Bool := false
deriving DecidableEq, Repr

/-! ### Recordings in JSON -/

/-- The step of the data.  Without a cursor, the cursor is at the end of the text. -/
def Step.ofJson? (json : Json) : Option Step := do
  match ← tagged? "type" json with
  | ("textChanged", rest) =>
      let fields ← fields? ["text", "cursor"] rest
      let text ← fields.required "text" text?
      let cursor ← fields.getD "cursor" (optional? offset?) none
      return .event (.textChanged text (cursor.getD text.length))
  | ("nameChanged", rest) =>
      let fields ← fields? ["name"] rest
      return .event (.nameChanged (← fields.required "name" text?))
  | ("execute", rest) => (nothing? rest).map fun _ => .event .execute
  | ("wait", rest) =>
      let fields ← fields? ["ms"] rest
      return .wait (← fields.required "ms" offset?)
  | _ => none

/-- The saved filter of the data. -/
def savedFilter? (json : Json) : Option SavedFilter := do
  let fields ← fields? ["name", "query"] json
  return {
    name := ← fields.required "name" text?
    query := ← fields.required "query" text? }

/-- How a session opens: the filter it edits, and whether that may be saved. -/
def opening? (json : Json) : Option (Option SavedFilter × Bool) := do
  let fields ← fields? ["saved", "maySave"] json
  return (← fields.getD "saved" (optional? savedFilter?) none, ← fields.getD "maySave" bool? true)

/-- The recording of the data. -/
def Recording.ofJson? (json : Json) : Option Recording := do
  let fields ← fields? ["session", "config", "fields", "responses", "steps"] json
  let (saved, maySave) ← fields.getD "session" opening? (none, true)
  return {
    saved, maySave
    timing := ← fields.getD "config" (optional? Timing.ofJson?) none
    fields := ← fields.getD "fields" (optional? (list? text?)) none
    responses := ← fields.getD "responses" (list? Response.ofJson?) []
    steps := ← fields.required "steps" (list? Step.ofJson?) }

/-- The recording of a text. -/
def Recording.parse? (text : String) : Option Recording :=
  (Json.parse? text).bind Recording.ofJson?

/-! ### What a recording is played against -/

/-- The fields to select on. -/
def Recording.schema (r : Recording) : Schema :=
  match r.fields with
  | some names => .ofNames names
  | none => .device

/-- The timing of the recording, with what the options put in its place. -/
def Recording.timingWith (r : Recording) (o : Options) : Timing :=
  let timing := r.timing.getD {}
  { timing with
    debounceMs := o.debounceMs.getD timing.debounceMs
    oracleTimeoutMs := o.oracleTimeoutMs.getD timing.oracleTimeoutMs }

/-- How long the oracle takes for a text, in milliseconds. -/
def Recording.delayMs (r : Recording) (o : Options) (text : String) : Nat :=
  if o.paced then ({ responses := r.responses } : Script).delayMs text else 0

/-- What the recording is played against. -/
def Recording.setting (r : Recording) (o : Options) : Except DuplicateText Setting := do
  let script ← Script.ofResponses r.responses .success
  return {
    oracle := if o.complete then script.oracle.completing r.schema else script.oracle
    formatter := { schema := r.schema }
    timing := r.timingWith o
    holds := fun text => decide (0 < r.delayMs o text) }

/-! ### The time of the oracle

The oracle takes `delay text` milliseconds for a text. -/

/-- When the oracle is done with a call, counted from when it was made. -/
def doneAt (env : Setting) (delay : String → Nat) (c : Call) : Nat :=
  c.deadline - env.timing.oracleTimeoutMs + delay c.text

/-- The call at the instant `now`, held no more if the oracle is done with it. -/
def callAt (env : Setting) (delay : String → Nat) (now : Nat) (c : Call) : Call :=
  if doneAt env delay c ≤ now then { c with held := false } else c

/-- The session, its calls held no more that the oracle is done with. -/
def ripen (env : Setting) (delay : String → Nat) (s : Session) : Session :=
  { s with calls := s.calls.map (callAt env delay s.clock) }

/-- Everything that happens while the clock stands still. -/
def settle (env : Setting) (delay : String → Nat) (s : Session) : Session :=
  (ripen env delay s).settle env

/-- The instants at which something falls due by itself, or the oracle is done with a call. -/
def dueTimes (env : Setting) (delay : String → Nat) (s : Session) : List Nat :=
  s.dueTimes ++ (s.calls.filter (·.held)).map (doneAt env delay)

/-- How much of a stretch of time goes by before something falls due, one millisecond at least. -/
def pause (env : Setting) (delay : String → Nat) (s : Session) (ms : Nat) : Nat :=
  max 1 ((dueTimes env delay s).foldl (fun ms due => min ms (due - s.clock)) ms)

/-- Some milliseconds later.  The session settles whenever something falls due and at the end. -/
def advance (env : Setting) (delay : String → Nat) (ms : Nat) (s : Session) : Session :=
  if 0 < ms then
    advance env delay (ms - pause env delay s ms)
      (settle env delay { s with clock := s.clock + pause env delay s ms })
  else s
termination_by ms
decreasing_by
  have : 0 < pause env delay s ms := Nat.le_max_left ..
  omega

/-! ### Playing -/

/-- The session after a step.  The last millisecond of a wait goes by without anything happening at
its end. -/
def play (env : Setting) (delay : String → Nat) (s : Session) : Step → Session
  | .event event =>
      match s.editor with
      | some e => s.handle env e event
      | none => s
  | .wait 0 => s
  | .wait (ms + 1) =>
      let s := advance env delay ms (settle env delay s)
      { s with clock := s.clock + 1 }

/-- The session after the whole recording. -/
def Recording.play (r : Recording) (o : Options) (env : Setting) : Session :=
  r.steps.foldl (Replay.play env (r.delayMs o)) (Session.start env (.opening r.saved r.maySave))

/-! ### The report -/

/-- What is known of the query at the end. -/
def finalValidity (s : Session) : Validity :=
  match s.editor with
  | some e => e.draft.validity
  | none => .unknown

/-- The last line of a report. -/
def summary : Validity → String
  | .invalid => Output.cross ++ " Session ended with an invalid query."
  | validity => Output.check ++ " Session ended with a query that is " ++ validity.word ++ "."

/-- The text of a report: a line for each signal, and a summary. -/
def text (lines : List String) (validity : Validity) : String :=
  "\n".intercalate lines ++ "\n" ++ summary validity

/-- The failure of a replay. -/
def failure (reason : String) : Output :=
  .failed (Output.cross ++ " Replay failed: " ++ reason)

/-- The reason when no text can be read from a path. -/
def noText (path : String) (problem : FileProblem) : String :=
  "reading " ++ Text.Quoted.quote path ++ ": " ++ problem.message

/-- The reason when the file at a path holds no recording. -/
def unreadableFile (path : String) : String :=
  "parsing " ++ Text.Quoted.quote path

/-- What a played session leaves behind: the lines of its signals, and what is known of the query at
its end. -/
def report (lines : List String) (validity : Validity) : Output :=
  if validity = .invalid then .rejected (text lines validity) else .printed (text lines validity)

/-- The output of playing a recording, if its session can start. -/
def output (o : Options) (r : Recording) : Except Fault Output :=
  match r.setting o with
  | .error duplicate => .ok (failure duplicate.message)
  | .ok env => do
      env.timing.check
      let s := r.play o env
      return report (s.signals.map Signal.line) (finalValidity s)

end Replay
end FilterEditor
