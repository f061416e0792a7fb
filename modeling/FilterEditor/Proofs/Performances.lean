import FilterEditor.Proofs.Handling
import FilterEditor.Replay

/-!
# Proofs — Performances

A recording as its parties perform it: a player that takes its steps, a session, an oracle, and a
reader that writes a line for each signal.  Each party does one thing at a time (`Act`), and any time
goes by in between (`Proceeds`).

The parties are bound to no order but this: the session handles every event that waits before it
receives a reply, and receives every reply before it sends a request; and once the player has closed
the events, the session handles those that wait and ends.  All times are lower bounds.  A wait is
over, a request is sent, the oracle is done with a call and a call is given up when their time has
come, or whenever later.

* `Sound`: what holds of every performance.  The session lives and is mirrored, the events are
  handled in order, and the lines are those of the first signals (`Performs.sound`).
* `acts_end`: no performance goes on for ever, for every act leaves less to do (`Performance.work`).
* `Sound.exists_act`: a performance that is not done goes on.
-/

namespace FilterEditor
namespace Replay
open Relation Journal Session

/-! ### The acts -/

/-- How far a performance is. -/
inductive Phase where
  /-- The player takes the steps of the recording. -/
  | playing
  /-- The player has closed the events. -/
  | closing
  /-- The session has ended. -/
  | ended
deriving DecidableEq, Repr

/-- A recording while it is performed. -/
structure Performance where
  session : Session
  /-- The steps that the player has not taken. -/
  steps : List Step
  /-- The player takes no step before this instant. -/
  resumes : Nat := 0
  /-- The events that the session has not handled, oldest first. -/
  queue : List Event := []
  phase : Phase := .playing
  /-- The lines that the reader has written. -/
  lines : List String := []

/-- One thing that one of the parties does. -/
inductive Act (env : Setting) (delay : String → Nat) : Performance → Performance → Prop where
  /-- The player sends an event, if there is room for it. -/
  | send {p : Performance} {event : Event} {steps : List Step}
      (hsteps : p.steps = .event event :: steps) (hresumes : p.resumes ≤ p.session.clock)
      (hroom : p.queue.length < env.timing.room) :
      Act env delay p { p with steps, queue := p.queue ++ [event] }
  /-- The player begins to wait. -/
  | wait {p : Performance} {ms : Nat} {steps : List Step} (hsteps : p.steps = .wait ms :: steps)
      (hresumes : p.resumes ≤ p.session.clock) :
      Act env delay p { p with steps, resumes := p.session.clock + ms }
  /-- The player has taken all steps, and closes the events. -/
  | close {p : Performance} (hphase : p.phase = .playing) (hsteps : p.steps = [])
      (hresumes : p.resumes ≤ p.session.clock) : Act env delay p { p with phase := .closing }
  /-- The session handles the oldest event. -/
  | handle {p : Performance} {e : Editor} {event : Event} {queue : List Event}
      (hqueue : p.queue = event :: queue) (he : p.session.editor = some e) :
      Act env delay p { p with session := p.session.handle env e event, queue }
  /-- The session receives the oldest reply. -/
  | receive {p : Performance} {reply : Reply} {replies : List Reply} (hphase : p.phase = .playing)
      (hqueue : p.queue = []) (hreplies : p.session.replies = reply :: replies) :
      Act env delay p { p with session := { p.session with replies }.receive reply }
  /-- The session sends the waiting request. -/
  | ask {p : Performance} {e : Editor} {id : RequestId} (hphase : p.phase = .playing)
      (hqueue : p.queue = []) (hreplies : p.session.replies = []) (he : p.session.editor = some e)
      (hdue : e.due? p.session.clock = some id) :
      Act env delay p { p with session := p.session.ask env e id }
  /-- The oracle is done with a call. -/
  | answer {p : Performance} {front back : List Call} {c : Call}
      (hcalls : p.session.calls = front ++ c :: back) (hc : c.held)
      (hdone : doneAt env delay c ≤ p.session.clock) :
      Act env delay p
        { p with
          session := { p.session with calls := front ++ { c with held := false } :: back } }
  /-- A call that the oracle is done with returns.  It replies unless it was given up. -/
  | collect {p : Performance} {front back : List Call} {c : Call}
      (hcalls : p.session.calls = front ++ c :: back) (hc : c.held = false) :
      Act env delay p
        { p with
          session := { p.session with
            calls := front ++ back
            replies := p.session.replies ++ if c.expired then [] else [⟨c.id, c.result env⟩] } }
  /-- A call whose time is over is given up. -/
  | expire {p : Performance} {front back : List Call} {c : Call}
      (hcalls : p.session.calls = front ++ c :: back) (hc : c.isOverdue p.session.clock) :
      Act env delay p
        { p with
          session := { p.session with
            calls := front ++ { c with expired := true } :: back
            replies := p.session.replies ++ [⟨c.id, .timedOut⟩] } }
  /-- The session ends, once the events are closed and all of them handled. -/
  | stop {p : Performance} (hphase : p.phase = .closing) (hqueue : p.queue = []) :
      Act env delay p { p with phase := .ended }
  /-- The reader writes the line of the next signal. -/
  | write {p : Performance} (hunread : p.lines.length < p.session.signals.length) :
      Act env delay p { p with lines := p.lines ++ [p.session.signals[p.lines.length].line] }

namespace Performance

/-- The performance some milliseconds later. -/
def later (p : Performance) (ms : Nat) : Performance :=
  { p with session := { p.session with clock := p.session.clock + ms } }

/-- The session has ended, and the reader has written every line. -/
def IsDone (p : Performance) : Prop :=
  p.phase = .ended ∧ p.lines.length = p.session.signals.length

/-- What the performance leaves behind. -/
def output (p : Performance) : Output :=
  report p.lines (finalValidity p.session)

end Performance

/-- Time goes by, or one of the parties does something. -/
inductive Proceeds (env : Setting) (delay : String → Nat) : Performance → Performance → Prop where
  | pass (p : Performance) (ms : Nat) : Proceeds env delay p (p.later ms)
  | act {p q : Performance} (h : Act env delay p q) : Proceeds env delay p q

/-- The performance as the session opens. -/
def Recording.opening (r : Recording) (env : Setting) : Performance where
  session := Session.start env (.opening r.saved r.maySave)
  steps := r.steps

/-- The recording can be performed like this, up to here. -/
def Performs (env : Setting) (r : Recording) (o : Options) (p : Performance) : Prop :=
  ReflTransGen (Proceeds env (r.delayMs o)) (r.opening env) p

/-! ### What holds of every performance -/

/-- The event of a step. -/
def Step.event? (st : Replay.Step) : Option Event :=
  match st with
  | .event e => some e
  | .wait _ => none

section
variable {env : Setting} {delay : String → Nat} {r : Recording} {o : Options} {p q : Performance}

/-- What holds of every performance of a recording. -/
structure Sound (r : Recording) (p : Performance) : Prop where
  /-- There are ids for what is still to be handled. -/
  lives : ∃ ids, p.session.LivesWithin ids ∧
    ids + p.queue.length + p.steps.length ≤ openingIds r.saved + r.steps.length
  listening : p.session.listening
  mirrored : p.session.Mirrored
  /-- No event is lost on its way. -/
  handled : handled p.session.journal ++ p.queue ++ p.steps.filterMap Step.event? =
    openingEvents r.saved ++ r.steps.filterMap Step.event?
  lines : p.lines <+: p.session.signals.map Signal.line
  closed : p.phase ≠ .playing → p.steps = []
  ended : p.phase = .ended → p.queue = []

theorem Sound.opening (r : Recording) (env : Setting) : Sound r (r.opening env) where
  lives := ⟨openingIds r.saved, .start, Nat.le_refl _⟩
  listening := by
    rcases start_cases env r.saved r.maySave with ⟨-, hs⟩ | ⟨filter, -, -, hs⟩ <;>
      rw [Recording.opening, hs]
  mirrored := .start
  handled := by
    simp only [Recording.opening]
    rw [handled_start, List.append_nil]
  lines := List.nil_prefix
  closed h := absurd rfl h
  ended := nofun

/-- The session moves by itself. -/
theorem Sound.innerMove (h : Sound r p) {s : Session} (move : InnerMove env p.session s) :
    Sound r { p with session := s } where
  lives := by
    obtain ⟨ids, hlives, hroom⟩ := h.lives
    exact ⟨ids, hlives.innerMoves (.single move), hroom⟩
  listening := (innerMoves_listening (.single move)).trans h.listening
  mirrored := h.mirrored.innerMove move
  handled := by rw [handled_innerMove h.listening move, h.handled]
  lines := h.lines.trans ((innerMove_signals move).map Signal.line)
  closed := h.closed
  ended := h.ended

/-- A player that has a step before it has not closed the events. -/
theorem Sound.playing (h : Sound r p) {st : Replay.Step} {steps : List Replay.Step}
    (hsteps : p.steps = st :: steps) : p.phase = .playing := by
  by_contra hphase
  cases hsteps.symm.trans (h.closed hphase)

theorem Sound.send (h : Sound r p) {event : Event} {steps : List Step}
    (hsteps : p.steps = .event event :: steps) :
    Sound r { p with steps, queue := p.queue ++ [event] } where
  lives := by
    obtain ⟨ids, hlives, hroom⟩ := h.lives
    rw [hsteps, List.length_cons] at hroom
    refine ⟨ids, hlives, ?_⟩
    simp only [List.length_append, List.length_singleton]
    omega
  listening := h.listening
  mirrored := h.mirrored
  handled := by
    rw [← h.handled, hsteps, List.filterMap_cons_some (show Step.event? (.event event) = _ from rfl)]
    simp only [List.append_assoc, List.singleton_append]
  lines := h.lines
  closed hphase := absurd (h.playing hsteps) hphase
  ended hphase := by cases hphase.symm.trans (h.playing hsteps)

theorem Sound.handle (h : Sound r p) (hids : openingIds r.saved + r.steps.length < offsetLimit)
    {e : Editor} {event : Event} {queue : List Event} (hqueue : p.queue = event :: queue)
    (he : p.session.editor = some e) :
    Sound r { p with session := p.session.handle env e event, queue } := by
  obtain ⟨ids, hlives, hroom⟩ := h.lives
  rw [hqueue, List.length_cons] at hroom
  have hone : (if (FilterEditor.Step.event event).changesText then 1 else 0) ≤ 1 := by
    split <;> decide
  have hlives' : (p.session.handle env e event).LivesWithin _ := hlives.event he event (by omega)
  have hediting : (p.session.handle env e event).editor ≠ none := by
    obtain ⟨e', he', -⟩ := hlives'
    simp [he']
  obtain ⟨told, -, htold⟩ := handle_tells env p.session e event
  exact {
    lives := ⟨_, hlives', by simp only; omega⟩
    listening := (handle_keeps env p.session e event).2.2.2.trans h.listening
    mirrored := h.mirrored.event he event
    handled := by
      rw [← h.handled, hqueue, handled_event h.listening hediting]
      simp only [List.append_assoc, List.singleton_append]
    lines := by
      rw [htold, List.map_append]
      exact h.lines.trans (List.prefix_append ..)
    closed := h.closed
    ended := fun hphase => by cases hqueue.symm.trans (h.ended hphase) }

/-- The lines that are written, and the line of the next signal. -/
theorem next_line_prefix {lines : List String} {signals : List Signal}
    (hlines : lines <+: signals.map Signal.line) (hunread : lines.length < signals.length) :
    lines ++ [signals[lines.length].line] <+: signals.map Signal.line := by
  have hlength : lines.length < (signals.map Signal.line).length := by rwa [List.length_map]
  have hnext := List.take_append_getElem hlength
  rw [← List.prefix_iff_eq_take.mp hlines, List.getElem_map] at hnext
  rw [hnext]
  exact List.take_prefix ..

/-- Every act keeps a performance sound, while there are ids for the events. -/
theorem Sound.act (h : Sound r p) (hids : openingIds r.saved + r.steps.length < offsetLimit)
    (act : Act env delay p q) : Sound r q := by
  cases act with
  | send hsteps => exact h.send hsteps
  | wait hsteps =>
      obtain ⟨ids, hlives, hroom⟩ := h.lives
      rw [hsteps, List.length_cons] at hroom
      exact { h with
        lives := ⟨ids, hlives, by simp only; omega⟩
        handled := by
          rw [← h.handled, hsteps]
          rfl
        closed := fun hphase => absurd (h.playing hsteps) hphase }
  | close hphase hsteps => exact { h with closed := fun _ => hsteps, ended := nofun }
  | handle hqueue he => exact h.handle hids hqueue he
  | @receive reply replies _ _ hreplies =>
      have move : InnerMove env p.session ({ p.session with replies }.receive reply) :=
        .receive (show p.session.replies = [] ++ reply :: replies from hreplies)
      exact h.innerMove move
  | ask _ _ _ he hdue => exact h.innerMove (.send he hdue)
  | answer => exact { h with }
  | collect hcalls hc => exact h.innerMove (.collect hcalls hc)
  | expire hcalls hc =>
      have move : InnerMove env p.session _ := .expire hcalls hc
      exact h.innerMove move
  | stop hphase hqueue =>
      exact { h with closed := fun _ => h.closed (by rw [hphase]; decide), ended := fun _ => hqueue }
  | write hunread => exact { h with lines := next_line_prefix h.lines hunread }

theorem Sound.proceeds (h : Sound r p) (hids : openingIds r.saved + r.steps.length < offsetLimit)
    (proceeds : ReflTransGen (Proceeds env delay) p q) : Sound r q := by
  induction proceeds with
  | refl => exact h
  | tail _ proceeds ih =>
      cases proceeds with
      | pass => exact { ih with }
      | act act => exact ih.act hids act

/-- **Every performance is sound**, if there are ids for the events of the recording. -/
theorem Performs.sound (h : Performs env r o p)
    (hids : openingIds r.saved + r.steps.length < offsetLimit) : Sound r p :=
  (Sound.opening r env).proceeds hids h

/-! ### How a performance ends

Every act leaves less work than there was.  An event is worth more of it than the signals that it may
tell and the request that it may leave, that request more than its call, a call that was not given up
more than its reply, and a reply more than the signals that it may tell. -/

/-- The work that calls are worth.  All are to return, those that were not given up may reply, and the
oracle is to be done with those that are held. -/
def callsWork (calls : List Call) : Nat :=
  calls.length + 6 * calls.countP (!·.expired) + calls.countP (·.held)

/-- The work that a waiting request is worth. -/
def pendingWork (s : Session) : Nat :=
  match s.editor.map (·.pending) with
  | some (some _) => 9
  | _ => 0

/-- The work that a phase is worth. -/
def Phase.work : Phase → Nat
  | .playing => 2
  | .closing => 1
  | .ended => 0

/-- The work that is left in a performance. -/
def Performance.work (p : Performance) : Nat :=
  13 * p.steps.length + 12 * p.queue.length + pendingWork p.session + callsWork p.session.calls +
    5 * p.session.replies.length + (p.session.signals.length - p.lines.length) + p.phase.work

theorem pendingWork_le (s : Session) : pendingWork s ≤ 9 := by
  unfold pendingWork
  split <;> decide

theorem pendingWork_congr {s s' : Session}
    (h : s'.editor.map (·.pending) = s.editor.map (·.pending)) : pendingWork s' = pendingWork s := by
  rw [pendingWork, h, pendingWork]

theorem callsWork_split (front back : List Call) (c : Call) :
    callsWork (front ++ c :: back) =
      callsWork (front ++ back) + 1 + (if c.expired then 0 else 6) + if c.held then 1 else 0 := by
  cases hx : c.expired <;> cases hc : c.held <;>
    simp [callsWork, List.countP_append, hx, hc] <;> omega

/-- A request that is sent is worth more than its call. -/
theorem work_ask_lt (env : Setting) {s : Session} {e : Editor} {id : RequestId}
    (he : s.editor = some e) (hdue : e.due? s.clock = some id) :
    pendingWork (s.ask env e id) + callsWork (s.ask env e id).calls <
      pendingWork s + callsWork s.calls := by
  have hcall : callsWork (s.ask env e id).calls ≤ callsWork s.calls + 8 := by
    have hcalls : (s.ask env e id).calls = s.calls ++ [Call.make env s.clock e id] := rfl
    have hlive : (if (Call.make env s.clock e id).expired then 0 else 6) = 6 := rfl
    have hheld : (if (Call.make env s.clock e id).held then 1 else 0) ≤ 1 := by split <;> decide
    rw [hcalls, callsWork_split, List.append_nil, hlive]
    omega
  have hsent : pendingWork (s.ask env e id) = 0 := rfl
  have hwaiting : pendingWork s = 9 := by
    unfold Editor.due? at hdue
    split at hdue
    · next p hp => rw [pendingWork, he, Option.map_some, hp]
    · cases hdue
  omega

/-- What becomes of the calls and their replies is worth less than before. -/
theorem work_lt_of_calls {s : Session} (heditor : s.editor = p.session.editor)
    (hjournal : s.journal = p.session.journal)
    (hless : callsWork s.calls + 5 * s.replies.length <
      callsWork p.session.calls + 5 * p.session.replies.length) :
    ({ p with session := s } : Performance).work < p.work := by
  have hsignals : s.signals = p.session.signals := by rw [Session.signals, hjournal, Session.signals]
  have hpending := pendingWork_congr (congrArg (Option.map (·.pending)) heditor)
  simp only [Performance.work, hsignals, hpending]
  omega

/-- Every act leaves less to do. -/
theorem Act.work_lt (act : Act env delay p q) : q.work < p.work := by
  cases act with
  | send hsteps =>
      simp only [Performance.work, hsteps, List.length_append, List.length_cons, List.length_nil]
      omega
  | wait hsteps =>
      simp only [Performance.work, hsteps, List.length_cons]
      omega
  | close hphase =>
      simp only [Performance.work, hphase, Phase.work]
      omega
  | @handle e event queue hqueue he =>
      obtain ⟨hcalls, hreplies, -⟩ := handle_keeps env p.session e event
      have htold := TellsAtMost.length_le (handle_tells env p.session e event)
      have hpending := pendingWork_le (p.session.handle env e event)
      simp only [Performance.work, hqueue, List.length_cons, hcalls, hreplies]
      omega
  | @receive reply replies _ _ hreplies =>
      obtain ⟨hcalls, hrest, -, -, hpending⟩ := receive_keeps { p.session with replies } reply
      have htold : _ ≤ p.session.signals.length + 4 :=
        TellsAtMost.length_le (receive_tells { p.session with replies } reply)
      dsimp only at htold
      have hsame : _ = pendingWork p.session := pendingWork_congr hpending
      simp only [Performance.work, hreplies, List.length_cons, hcalls, hrest, hsame]
      omega
  | @ask e id _ _ _ he hdue =>
      have hsent := work_ask_lt env he hdue
      have hreplies : (p.session.ask env e id).replies = p.session.replies := rfl
      simp only [Performance.work, ask_signals, hreplies]
      omega
  | answer hcalls hc =>
      refine work_lt_of_calls rfl rfl ?_
      simp only [hcalls, callsWork_split, hc, if_true, Bool.false_eq_true, if_false]
      omega
  | @collect front back c hcalls hc =>
      refine work_lt_of_calls rfl rfl ?_
      simp only [hcalls, callsWork_split, List.length_append]
      cases c.expired with
      | true =>
          simp only [if_true, List.length_nil]
          omega
      | false =>
          simp only [Bool.false_eq_true, if_false, List.length_singleton]
          omega
  | expire hcalls hc =>
      simp only [Call.isOverdue, Bool.and_eq_true, Bool.not_eq_true'] at hc
      refine work_lt_of_calls rfl rfl ?_
      simp only [hcalls, callsWork_split, hc.1, List.length_append, List.length_singleton, if_true,
        Bool.false_eq_true, if_false]
      omega
  | stop hphase =>
      simp only [Performance.work, hphase, Phase.work]
      omega
  | write hunread =>
      simp only [Performance.work, List.length_append, List.length_singleton]
      omega

/-- **No performance goes on for ever**, however much time goes by between its acts. -/
theorem acts_end (env : Setting) (delay : String → Nat) :
    WellFounded fun q p : Performance => ∃ ms, Act env delay (p.later ms) q := by
  refine Subrelation.wf ?_ (measure Performance.work).wf
  rintro q p ⟨ms, act⟩
  exact act.work_lt

/-- Once its wait is over, a player who is not done takes the next step. -/
theorem Sound.exists_act (h : Sound r p) (hdone : ¬ p.IsDone) :
    ∃ ms q, Act env delay (p.later ms) q := by
  have hresumes : p.resumes ≤ (p.later p.resumes).session.clock := Nat.le_add_left ..
  cases hqueue : p.queue with
  | cons event queue =>
      obtain ⟨ids, ⟨e, he, -⟩, -⟩ := h.lives
      exact ⟨0, _, .handle (p := p.later 0) hqueue he⟩
  | nil =>
      cases hphase : p.phase with
      | playing =>
          refine ⟨p.resumes, ?_⟩
          cases hsteps : p.steps with
          | nil => exact ⟨_, .close (p := p.later p.resumes) hphase hsteps hresumes⟩
          | cons st steps =>
              cases st with
              | event event =>
                  have hroom : p.queue.length < env.timing.room := by
                    rw [hqueue]
                    exact Nat.le_max_left ..
                  exact ⟨_, .send (p := p.later p.resumes) hsteps hresumes hroom⟩
              | wait ms => exact ⟨_, .wait (p := p.later p.resumes) hsteps hresumes⟩
      | closing => exact ⟨0, _, .stop (p := p.later 0) hphase hqueue⟩
      | ended =>
          have hle := h.lines.length_le
          rw [List.length_map] at hle
          have hunread : p.lines.length < p.session.signals.length :=
            Nat.lt_of_le_of_ne hle fun hall => hdone ⟨hphase, hall⟩
          exact ⟨0, _, .write (p := p.later 0) hunread⟩

end
end Replay
end FilterEditor
