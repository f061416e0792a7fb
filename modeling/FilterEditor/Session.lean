import FilterEditor.Session.Editor

/-!
# Session

An editing session on a virtual clock: the editor, the calls that the oracle has not returned from,
the replies that the editor has not received, and a journal of what happened.

The clock counts milliseconds and moves only in `advance`, from one instant at which something falls
due to the next.  What can happen while it stands still happens in `settle`: a call whose time is
over is given up, a call that is not held returns, replies are received, and a request whose debounce
time is over is sent.  Since only a change of the text makes a request wait, one such request can be
sent while the clock stands still, and two rounds of replies around it are all there is to do.

A call on a text that the setting holds back stays with the oracle until it is released.  It keeps
its place after its time is over, and what it returns then is dropped.
-/

namespace FilterEditor

/-- What a session runs against. -/
structure Setting where
  oracle : Oracle
  formatter : Formatter
  timing : Timing
  /-- The texts on which the oracle does not return until released. -/
  holds : String → Bool := fun _ => false

/-- A call that the oracle has not returned from. -/
structure Call where
  id : RequestId
  text : String
  cursor : Nat
  /-- When the call is given up. -/
  deadline : Nat
  /-- The call does not return by itself. -/
  held : Bool
  /-- The call was given up. -/
  expired : Bool
deriving DecidableEq, Repr

namespace Call

/-- The call on the text and the cursor of an editor's draft, made at the instant `now`. -/
def make (env : Setting) (now : Nat) (e : Editor) (id : RequestId) : Call where
  id := id
  text := e.draft.text
  cursor := e.draft.cursor
  deadline := now + env.timing.oracleTimeoutMs
  held := env.holds e.draft.text
  expired := false

/-- What the oracle returns from the call. -/
def result (env : Setting) (c : Call) : Result :=
  match env.oracle.evaluate env.formatter c.text c.cursor with
  | .ok evaluation => .completed evaluation
  | .error _ => .failed

/-- The call's time is over, and it was not given up yet. -/
def isOverdue (c : Call) (now : Nat) : Bool :=
  !c.expired && decide (c.deadline ≤ now)

/-- The call, given up if its time is over. -/
def expireAt (now : Nat) (c : Call) : Call :=
  if c.isOverdue now then { c with expired := true } else c

end Call

/-- Something that happened in a session. -/
inductive Happening where
  /-- The text was changed, which issued the id. -/
  | changed (id : RequestId) (text : String) (cursor : Nat)
  | renamed (name : String)
  /-- The oracle was asked. -/
  | asked (id : RequestId) (text : String) (cursor : Nat)
  /-- The surface was told. -/
  | told (signal : Signal)
deriving DecidableEq, Repr

/-- Something that happened, and when. -/
structure Entry where
  time : Nat
  happening : Happening
deriving DecidableEq, Repr

/-- An editing session. -/
structure Session where
  clock : Nat := 0
  /-- The editor, until the session ends. -/
  editor : Option Editor
  /-- The calls the oracle has not returned from, oldest first. -/
  calls : List Call := []
  /-- The replies the editor has not received, oldest first. -/
  replies : List Reply := []
  /-- The surface reads its signals. -/
  listening : Bool := true
  /-- What happened, latest first. -/
  journal : List Entry := []
deriving Repr

namespace Session

/-! ### The journal -/

/-- The session with one more entry in its journal. -/
def note (s : Session) (happening : Happening) : Session :=
  { s with journal := ⟨s.clock, happening⟩ :: s.journal }

/-- The session after signals to the surface, which are lost if it does not read them. -/
def tell (s : Session) (signals : List Signal) : Session :=
  if s.listening then signals.foldl (fun s signal => s.note (.told signal)) s else s

/-- The session with an editor in a new state, and the signals of the change. -/
def become (s : Session) (editor : Editor) (signals : List Signal) : Session :=
  { s with editor := some editor }.tell signals

/-- The signals told so far, in order. -/
def signals (s : Session) : List Signal :=
  s.journal.reverse.filterMap fun entry =>
    match entry.happening with
    | .told signal => some signal
    | _ => none

/-- The texts the oracle was asked to validate so far, in order. -/
def askedTexts (s : Session) : List String :=
  s.journal.reverse.filterMap fun entry =>
    match entry.happening with
    | .asked _ text _ => some text
    | _ => none

/-- What a reader is told goes to the journal, and nothing else of the session changes. -/
theorem tell_eq (s : Session) (signals : List Signal) :
    s.tell signals =
      { s with
        journal :=
          if s.listening then
            (signals.map fun signal => ⟨s.clock, .told signal⟩).reverse ++ s.journal
          else s.journal } := by
  unfold tell
  split
  · induction signals generalizing s with
    | nil => rfl
    | cons signal signals ih =>
        rw [List.foldl_cons, ih (s.note (.told signal)) ‹_›]
        simp [note]
  · rfl

theorem signals_tell (s : Session) (signals : List Signal) :
    (s.tell signals).signals = s.signals ++ if s.listening then signals else [] := by
  rw [tell_eq]
  cases h : s.listening with
  | false => simp [Session.signals]
  | true =>
      simp only [Session.signals, if_true, List.reverse_append, List.reverse_reverse,
        List.filterMap_append, List.filterMap_map]
      exact congrArg _ List.filterMap_some

/-! ### Requests and replies -/

/-- The session once the editor's request was sent. -/
def ask (env : Setting) (s : Session) (e : Editor) (id : RequestId) : Session :=
  { s with
    editor := some (e.sent id)
    calls := s.calls ++ [Call.make env s.clock e id] }.note
      (.asked id e.draft.text e.draft.cursor)

/-- Gives up the calls whose time is over. -/
def expire (s : Session) : Session :=
  { s with
    calls := s.calls.map (Call.expireAt s.clock)
    replies := s.replies ++
      (s.calls.filter (·.isOverdue s.clock)).map fun c => ⟨c.id, .timedOut⟩ }

/-- Lets every call return that is not held.  What a call returns after it was given up is
dropped. -/
def collect (env : Setting) (s : Session) : Session :=
  { s with
    calls := s.calls.filter (·.held)
    replies := s.replies ++
      (s.calls.filter fun c => !c.held && !c.expired).map fun c => ⟨c.id, c.result env⟩ }

/-- The session once its editor received a reply. -/
def receive (s : Session) (reply : Reply) : Session :=
  match s.editor with
  | some e => let (e, signals) := e.receive reply; s.become e signals
  | none => s

/-- Lets the editor receive the oldest reply, if there is one. -/
def receiveNext (s : Session) : Session :=
  match s.replies with
  | [] => s
  | reply :: replies => { s with replies }.receive reply

/-- Lets the editor receive every reply. -/
def deliver (s : Session) : Session :=
  Nat.repeat receiveNext s.replies.length s

/-- Sends the waiting request, if its time has come. -/
def fire (env : Setting) (s : Session) : Session :=
  match s.editor with
  | some e =>
      match e.due? s.clock with
      | some id => s.ask env e id
      | none => s
  | none => s

/-- One round of replies. -/
def exchange (env : Setting) (s : Session) : Session :=
  (s.expire.collect env).deliver

/-- Everything that happens while the clock stands still. -/
def settle (env : Setting) (s : Session) : Session :=
  ((s.exchange env).fire env).exchange env

/-! ### Time -/

/-- The instants at which something falls due by itself: the waiting request, and the calls that
were not given up. -/
def dueTimes (s : Session) : List Nat :=
  (s.editor.bind (·.dueTime?)).toList ++ (s.calls.filter (!·.expired)).map (·.deadline)

/-- How much of a stretch of time goes by before something falls due, one millisecond at least. -/
def pause (s : Session) (ms : Nat) : Nat :=
  max 1 (s.dueTimes.foldl (fun ms due => min ms (due - s.clock)) ms)

theorem pause_pos (s : Session) (ms : Nat) : 0 < s.pause ms :=
  Nat.le_max_left ..

/-- Some milliseconds later, settled. -/
def elapse (env : Setting) (s : Session) (ms : Nat) : Session :=
  { s with clock := s.clock + ms }.settle env

/-- Some milliseconds later.  The session settles whenever something falls due and at the end; the
time between is passed over at once, for nothing happens in it. -/
def advance (env : Setting) (ms : Nat) (s : Session) : Session :=
  if 0 < ms then advance env (ms - s.pause ms) (s.elapse env (s.pause ms)) else s
termination_by ms
decreasing_by have := s.pause_pos ms; omega

/-! ### Events -/

/-- Notes an event that changed the draft, which left the editor as it is. -/
def noteEvent (s : Session) (event : Event) (e : Editor) : Session :=
  match event with
  | .textChanged text cursor => s.note (.changed e.draft.issued text cursor)
  | .nameChanged name => s.note (.renamed name)
  | .execute => s

/-- The session after an event.  A fault ends the session. -/
def handle (env : Setting) (s : Session) (e : Editor) (event : Event) : Session :=
  match e.handle env.timing s.clock event with
  | .ok (e, signals) => (s.noteEvent event e).become e signals
  | .error _ => { s with editor := none }

/-- The session that opens with a draft.  A query that it starts with is sent at once. -/
def start (env : Setting) (draft : Draft) : Session :=
  let s : Session := { editor := some { draft } }
  if draft.text.isEmpty then s.tell draft.status
  else
    match draft.edit draft.text draft.cursor with
    | .ok (draft, _) =>
        ((s.note (.changed draft.issued draft.text draft.cursor)).ask env { draft }
          draft.issued).tell draft.status
    | .error _ => { s with editor := none }

end Session
end FilterEditor
