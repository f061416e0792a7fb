import FilterEditor.Oracle
import FilterEditor.Signal
import FilterEditor.Timing

/-!
# Session — Editor

The rules of one editing surface.  An editor holds a draft, the request that waits out its debounce
time, and the request that was sent last.  It takes events and replies, each at an instant, and
says which signals they give rise to.

* A change of the text replaces the waiting request, and keeps the start of its burst.
* An empty text drops the waiting request.
* A reply changes the draft only if the draft accepts its id; what a stale reply may change is the
  note of the request in flight, which no signal shows.
-/

namespace FilterEditor

/-- A request that waits out its debounce time. -/
structure Pending where
  id : RequestId
  /-- When the burst of changes began. -/
  burstStart : Nat
  /-- When the request is sent. -/
  due : Nat
deriving DecidableEq, Repr

/-- What came of a request to the oracle. -/
inductive Result where
  | completed (evaluation : Evaluation)
  | timedOut
  /-- The oracle failed. -/
  | failed
deriving DecidableEq, Repr

/-- What came of the request with an id. -/
structure Reply where
  id : RequestId
  result : Result
deriving DecidableEq, Repr

/-- One editing surface. -/
structure Editor where
  draft : Draft
  pending : Option Pending := none
  inFlight : Option RequestId := none
deriving DecidableEq, Repr

namespace Editor

/-- The request as it waits after a change at the instant `now`. -/
def schedule (e : Editor) (timing : Timing) (now : Nat) (id : RequestId) : Pending :=
  let burstStart := match e.pending with
    | some p => p.burstStart
    | none => now
  { id, burstStart, due := now + timing.delayMs (now - burstStart) }

/-- The editor after a change of the text. -/
def changeText (e : Editor) (timing : Timing) (now : Nat) (text : String) (cursor : Nat) :
    Except Fault (Editor × List Signal) := do
  match ← e.draft.edit text cursor with
  | (draft, .issued id) =>
      return ({ e with draft, pending := some (e.schedule timing now id) }, draft.status)
  | (draft, .cleared) => return ({ e with draft, pending := none }, draft.status)

/-- The editor after an event. -/
def handle (e : Editor) (timing : Timing) (now : Nat) : Event → Except Fault (Editor × List Signal)
  | .textChanged text cursor => e.changeText timing now text cursor
  | .nameChanged name =>
      let draft := e.draft.rename name
      .ok ({ e with draft }, [.gating draft.gating])
  | .execute =>
      match e.draft.executable with
      | some query => .ok (e, [.executeQuery query])
      | none => .ok (e, [.executeRejected e.draft.validity])

/-- The note of the request in flight, once it was replied to. -/
def landed (e : Editor) (id : RequestId) : Option RequestId :=
  if e.inFlight = some id then none else e.inFlight

/-- The editor after a reply. -/
def receive (e : Editor) (reply : Reply) : Editor × List Signal :=
  let e := { e with inFlight := e.landed reply.id }
  match reply.result with
  | .completed evaluation =>
      match e.draft.answer reply.id evaluation.diagnostic with
      | (draft, .applied) =>
          ({ e with draft },
            .validated evaluation.diagnostic :: draft.status ++ [.suggestions evaluation.suggestions])
      | (_, .stale) => (e, [])
  | .timedOut | .failed =>
      match e.draft.giveUp reply.id with
      | (draft, .applied) => ({ e with draft }, draft.status)
      | (_, .stale) => (e, [])

/-- When the waiting request is sent. -/
def dueTime? (e : Editor) : Option Nat :=
  e.pending.map (·.due)

/-- The waiting request, if its time has come. -/
def due? (e : Editor) (now : Nat) : Option RequestId :=
  match e.pending with
  | some p => if p.due ≤ now then some p.id else none
  | none => none

/-- The editor once a request was sent. -/
def sent (e : Editor) (id : RequestId) : Editor :=
  { e with pending := none, inFlight := some id }

/-- A stale reply says nothing, and leaves the draft and the waiting request alone. -/
theorem receive_of_not_accepts {e : Editor} {reply : Reply} (h : ¬ e.draft.accepts reply.id) :
    e.receive reply = ({ e with inFlight := e.landed reply.id }, []) := by
  simp only [receive, Draft.answer_of_not_accepts h, Draft.giveUp_of_not_accepts h]
  split <;> rfl

end Editor
end FilterEditor
