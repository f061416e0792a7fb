import FilterEditor.Session

/-!
# Session — Run

Runs of a session.  A run opens a draft and takes steps: events from the surface, stretches of time,
releases of calls that the oracle holds, and the loss of the reader or of the session itself.  The
session settles after it opens and after every step, and each step reports the signals it gave rise
to (`transcript`).  No session starts with a buffer that is too large (`run`).
-/

namespace FilterEditor

/-- One step of a run. -/
inductive Step where
  | event (event : Event)
  /-- Some milliseconds go by. -/
  | advance (ms : Nat)
  /-- The oldest held call on the text returns. -/
  | release (text : String)
  /-- The surface stops reading signals. -/
  | closeSignals
  /-- The session is ended from outside. -/
  | kill
deriving DecidableEq, Repr

/-- What a step reports besides signals. -/
inductive Remark where
  /-- A call was held on the text of a release, or none was. -/
  | released (wasHeld : Bool)
  /-- The session had ended before the event. -/
  | ended
deriving DecidableEq, Repr

/-- What is said of an event after the end of a session. -/
def Remark.endedText : String := "the query editing session has ended"

/-- What a step reports. -/
structure Report where
  remark : Option Remark
  signals : List Signal
deriving DecidableEq, Repr

/-- The reports of a run, and the session it ends in. -/
structure Run where
  reports : List Report
  final : Session

namespace Session

/-- Lets the call under an id return. -/
def release (s : Session) (id : RequestId) : Session :=
  { s with calls := s.calls.map fun c => if c.id = id then { c with held := false } else c }

/-- The oldest held call on a text. -/
def heldCall? (s : Session) (text : String) : Option Call :=
  s.calls.find? fun c => c.held && c.text == text

/-- The session after a step that was not followed up yet, and the remark on the step. -/
def take (env : Setting) (s : Session) : Step → Session × Option Remark
  | .event event =>
      match s.editor with
      | some e => (s.handle env e event, none)
      | none => (s, some .ended)
  | .advance ms => (s.advance env ms, none)
  | .release text =>
      match s.heldCall? text with
      | some c => (s.release c.id, some (.released true))
      | none => (s, some (.released false))
  | .closeSignals => ({ s with listening := false }, none)
  | .kill => ({ s with editor := none }, none)

/-- The session after a step. -/
def step (env : Setting) (s : Session) (st : Step) : Session :=
  (s.take env st).1.settle env

/-- The session that opens with a draft, settled. -/
def opened (env : Setting) (draft : Draft) : Session :=
  (start env draft).settle env

/-- The signals told since the journal had `past` entries. -/
def signalsSince (s : Session) (past : Nat) : List Signal :=
  { s with journal := s.journal.take (s.journal.length - past) }.signals

/-- The reports of the steps, and the session after them. -/
def runFrom (env : Setting) (s : Session) : List Step → Run
  | [] => ⟨[], s⟩
  | st :: steps =>
      let next := s.step env st
      let rest := runFrom env next steps
      ⟨⟨(s.take env st).2, next.signalsSince s.journal.length⟩ :: rest.reports, rest.final⟩

/-- A run: the report of its opening, those of its steps, and the session it ends in. -/
def transcript (env : Setting) (draft : Draft) (steps : List Step) : Run :=
  let s := Session.opened env draft
  let rest := runFrom env s steps
  ⟨⟨none, s.signals⟩ :: rest.reports, rest.final⟩

/-- A run, if its session can start. -/
def run (env : Setting) (draft : Draft) (steps : List Step) : Except Fault Run := do
  env.timing.check
  return transcript env draft steps

end Session
end FilterEditor
