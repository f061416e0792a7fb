import FilterEditor.Proofs.Editing
import FilterEditor.Session.Run
import Mathlib.Logic.Relation

/-!
# Proofs — Moves

A session taken apart into single moves.  Some happen by themselves, one call or one reply at a time
and in any order (`InnerMove`); the others come from outside (`Move`).  Time goes by only when
nothing else can happen (`Still`), and not past an instant at which something falls due.

What holds of every session that arises by moves (`Arises`) holds at every moment of every run, also
between the parts of one step, and whatever the order in which calls return and replies are
received.

* `settle_moves` and `settle_still`: settling is a sequence of inner moves, after which nothing is
  left to happen.
* `handle_cases`: what an event can do, and `handle_inv`: what it makes of a session that lives on.
* `Call.Continues`: what a move can make of a call.
-/

namespace FilterEditor

/-- The first call is the second one later on: perhaps given up, perhaps held no more. -/
structure Call.Continues (c d : Call) : Prop where
  id : c.id = d.id
  text : c.text = d.text
  cursor : c.cursor = d.cursor
  deadline : c.deadline = d.deadline
  held : c.held → d.held
  expired : c.expired = false → d.expired = false

theorem Call.Continues.refl (c : Call) : c.Continues c := ⟨rfl, rfl, rfl, rfl, fun h => h, fun h => h⟩

namespace Session
open Relation

/-! ### The moves -/

/-- Nothing is left to happen while the clock stands still. -/
structure Still (s : Session) : Prop where
  replies_nil : s.replies = []
  held : ∀ c ∈ s.calls, c.held
  not_overdue : ∀ c ∈ s.calls, c.isOverdue s.clock = false
  not_due : ∀ e, s.editor = some e → e.due? s.clock = none

/-- One thing that happens by itself. -/
inductive InnerMove (env : Setting) : Session → Session → Prop where
  /-- Time goes by, and not past what falls due. -/
  | pass {s : Session} (ms : Nat) (still : s.Still) (hdue : ∀ due ∈ s.dueTimes, s.clock + ms ≤ due) :
      InnerMove env s { s with clock := s.clock + ms }
  /-- A call whose time is over is given up. -/
  | expire {s : Session} {front back : List Call} {c : Call} (hcalls : s.calls = front ++ c :: back)
      (hc : c.isOverdue s.clock) :
      InnerMove env s
        { s with
          calls := front ++ { c with expired := true } :: back
          replies := s.replies ++ [⟨c.id, .timedOut⟩] }
  /-- A call that is not held returns.  It replies unless it was given up. -/
  | collect {s : Session} {front back : List Call} {c : Call} (hcalls : s.calls = front ++ c :: back)
      (hc : c.held = false) :
      InnerMove env s
        { s with
          calls := front ++ back
          replies := s.replies ++ if c.expired then [] else [⟨c.id, c.result env⟩] }
  /-- The editor receives some reply that waits. -/
  | receive {s : Session} {front back : List Reply} {reply : Reply}
      (hreplies : s.replies = front ++ reply :: back) :
      InnerMove env s ({ s with replies := front ++ back }.receive reply)
  /-- The waiting request is sent. -/
  | send {s : Session} {e : Editor} {id : RequestId} (he : s.editor = some e)
      (hdue : e.due? s.clock = some id) : InnerMove env s (s.ask env e id)

/-- One thing that happens, by itself or from outside. -/
inductive Move (env : Setting) : Session → Session → Prop where
  | inner {s s' : Session} (h : InnerMove env s s') : Move env s s'
  | event {s : Session} {e : Editor} (he : s.editor = some e) (event : Event) :
      Move env s (s.handle env e event)
  | release (s : Session) (id : RequestId) : Move env s (s.release id)
  | closeSignals (s : Session) : Move env s { s with listening := false }
  | kill (s : Session) : Move env s { s with editor := none }

/-- The session arises in a run that opens with a new filter or with a saved one. -/
def Arises (env : Setting) (saved : Option SavedFilter) (maySave : Bool) (s : Session) : Prop :=
  ReflTransGen (Move env) (start env (.opening saved maySave)) s

theorem moves_of_inner {env : Setting} {s s' : Session} (h : ReflTransGen (InnerMove env) s s') :
    ReflTransGen (Move env) s s' :=
  ReflTransGen.mono (fun _ _ => Move.inner) _ _ h

/-! ### How a session opens -/

/-- The draft whose saved query goes out for validation. -/
def openedDraft (filter : SavedFilter) (maySave : Bool) : Draft :=
  (Draft.ofSaved filter maySave).retyped filter.query filter.query.length

/-- A session opens with a text that is empty and nothing under way, or with a saved query that was
sent at once. -/
theorem start_cases (env : Setting) (saved : Option SavedFilter) (maySave : Bool) :
    ((Draft.opening saved maySave).text = "" ∧
      start env (.opening saved maySave) =
        { editor := some { draft := .opening saved maySave }
          journal := [⟨0, .told (.gating (Draft.opening saved maySave).gating)⟩,
            ⟨0, .told (.feedback (Draft.opening saved maySave).feedback)⟩] }) ∨
    ∃ filter, saved = some filter ∧ filter.query ≠ "" ∧
      start env (.opening saved maySave) =
        { editor := some { draft := openedDraft filter maySave, inFlight := some 1 }
          calls := [Call.make env 0 { draft := openedDraft filter maySave } 1]
          journal := [⟨0, .told (.gating (openedDraft filter maySave).gating)⟩,
            ⟨0, .told (.feedback (openedDraft filter maySave).feedback)⟩,
            ⟨0, .asked 1 filter.query filter.query.length⟩,
            ⟨0, .changed 1 filter.query filter.query.length⟩] } := by
  by_cases hempty : (Draft.opening saved maySave).text = ""
  · exact .inl ⟨hempty, by simp [start, hempty, tell_eq, Draft.status]⟩
  · cases saved with
    | none => exact absurd rfl hempty
    | some filter =>
        have hquery : filter.query ≠ "" := hempty
        have hedit : (Draft.ofSaved filter maySave).edit filter.query filter.query.length =
            .ok (openedDraft filter maySave, .issued 1) := by
          rw [Draft.edit_of_lt (show 0 + 1 < offsetLimit by decide), if_neg hquery]
          rfl
        refine .inr ⟨filter, rfl, hquery, ?_⟩
        change start env (Draft.ofSaved filter maySave) = _
        have htext : (Draft.ofSaved filter maySave).text = filter.query := rfl
        have hcursor : (Draft.ofSaved filter maySave).cursor = filter.query.length := rfl
        simp only [start, htext, hcursor, hedit, String.isEmpty_iff, hquery, if_false, tell_eq]
        rfl

/-! ### Receiving replies -/

/-- What waits besides a reply waited before. -/
theorem mem_of_rest {s : Session} {front back : List Reply} {reply : Reply}
    (hreplies : s.replies = front ++ reply :: back) : ∀ r ∈ front ++ back, r ∈ s.replies := by
  rw [hreplies]
  exact ((List.sublist_cons_self reply back).append_left front).subset

theorem receive_none {s : Session} (h : s.editor = none) (reply : Reply) : s.receive reply = s := by
  simp [receive, h]

theorem receive_some {s : Session} {e : Editor} (h : s.editor = some e) (reply : Reply) :
    s.receive reply = s.become (e.receive reply).1 (e.receive reply).2 := by
  simp [receive, h]

@[simp] theorem become_editor (s : Session) (e : Editor) (signals : List Signal) :
    (s.become e signals).editor = some e := by
  simp [become, tell_eq]

@[simp] theorem become_calls (s : Session) (e : Editor) (signals : List Signal) :
    (s.become e signals).calls = s.calls := by
  simp [become, tell_eq]

@[simp] theorem become_replies (s : Session) (e : Editor) (signals : List Signal) :
    (s.become e signals).replies = s.replies := by
  simp [become, tell_eq]

@[simp] theorem become_clock (s : Session) (e : Editor) (signals : List Signal) :
    (s.become e signals).clock = s.clock := by
  simp [become, tell_eq]

@[simp] theorem become_listening (s : Session) (e : Editor) (signals : List Signal) :
    (s.become e signals).listening = s.listening := by
  simp [become, tell_eq]

theorem become_journal (s : Session) (e : Editor) (signals : List Signal) :
    (s.become e signals).journal =
      if s.listening then (signals.map fun signal => ⟨s.clock, .told signal⟩).reverse ++ s.journal
      else s.journal := by
  simp [become, tell_eq]

theorem receive_keeps (s : Session) (reply : Reply) :
    (s.receive reply).calls = s.calls ∧ (s.receive reply).replies = s.replies ∧
      (s.receive reply).clock = s.clock ∧ (s.receive reply).listening = s.listening ∧
      (s.receive reply).editor.map (·.pending) = s.editor.map (·.pending) := by
  cases h : s.editor with
  | none => simp [receive_none h, h]
  | some e => simp [receive_some h, e.receive_pending]

/-- A session that lives on after a reply has the editor that received it. -/
theorem receive_inv {s : Session} {reply : Reply} {e' : Editor}
    (h : (s.receive reply).editor = some e') :
    ∃ e, s.editor = some e ∧ (e.receive reply).1 = e' := by
  cases he : s.editor with
  | none => rw [receive_none he, he] at h; cases h
  | some e => exact ⟨e, rfl, Option.some.inj ((by simp [receive_some he] :
      (s.receive reply).editor = some (e.receive reply).1).symm.trans h)⟩

/-- A part of a session that receiving leaves alone is left alone by receiving everything. -/
theorem deliver_keeps {α : Type} (part : Session → α)
    (h : ∀ s, part s.receiveNext = part s) (s : Session) : part s.deliver = part s := by
  unfold deliver
  induction s.replies.length with
  | zero => rfl
  | succ n ih => rw [Nat.repeat, h, ih]

theorem receiveNext_replies (s : Session) : s.receiveNext.replies = s.replies.tail := by
  unfold receiveNext
  split
  · next h => simp [h]
  · next h => simp [h, receive_keeps]

theorem deliver_replies (s : Session) : s.deliver.replies = [] := by
  have drop : ∀ n, (Nat.repeat receiveNext n s).replies = s.replies.drop n := by
    intro n
    induction n with
    | zero => rfl
    | succ n ih => rw [Nat.repeat, receiveNext_replies, ih, List.tail_drop]
  rw [deliver, drop, List.drop_length]

theorem receiveNext_keeps (s : Session) :
    s.receiveNext.calls = s.calls ∧ s.receiveNext.clock = s.clock ∧
      s.receiveNext.editor.map (·.pending) = s.editor.map (·.pending) := by
  unfold receiveNext
  split
  · exact ⟨rfl, rfl, rfl⟩
  · next reply replies _ =>
      obtain ⟨hcalls, -, hclock, -, hpending⟩ := receive_keeps { s with replies } reply
      exact ⟨hcalls, hclock, hpending⟩

/-- Replies are received one after the other, the oldest first. -/
theorem deliver_each {R : Session → Session → Prop}
    (hreceive : ∀ {s : Session} {reply : Reply} {replies : List Reply},
      s.replies = reply :: replies → R s ({ s with replies }.receive reply)) (s : Session) :
    ReflTransGen R s s.deliver := by
  have hnext : ∀ t : Session, ReflTransGen R t t.receiveNext := by
    intro t
    unfold receiveNext
    split
    · exact .refl
    · next h => exact .single (hreceive h)
  unfold deliver
  induction s.replies.length with
  | zero => exact .refl
  | succ n ih => exact ih.trans (hnext _)

theorem deliver_moves (env : Setting) (s : Session) :
    ReflTransGen (InnerMove env) s s.deliver :=
  deliver_each (fun {s reply replies} (h : s.replies = [] ++ reply :: replies) => .receive h) s

/-! ### Events -/

@[simp] theorem note_editor (s : Session) (h : Happening) : (s.note h).editor = s.editor := rfl

@[simp] theorem note_calls (s : Session) (h : Happening) : (s.note h).calls = s.calls := rfl

@[simp] theorem note_replies (s : Session) (h : Happening) : (s.note h).replies = s.replies := rfl

@[simp] theorem note_clock (s : Session) (h : Happening) : (s.note h).clock = s.clock := rfl

@[simp] theorem note_listening (s : Session) (h : Happening) : (s.note h).listening = s.listening :=
  rfl

/-- What an event can do: end the session with a fault, change the text, clear it, change the name,
or ask for the query to be run. -/
theorem handle_cases (env : Setting) (s : Session) (e : Editor) (event : Event) :
    s.handle env e event = { s with editor := none } ∨
    (∃ text cursor, event = .textChanged text cursor ∧ text ≠ "" ∧
      s.handle env e event = (s.note (.changed (e.draft.issued + 1) text cursor)).become
        { e with
          draft := e.draft.retyped text cursor
          pending := some (e.schedule env.timing s.clock (e.draft.issued + 1)) }
        (e.draft.retyped text cursor).status) ∨
    (∃ cursor, event = .textChanged "" cursor ∧
      s.handle env e event = (s.note (.changed (e.draft.issued + 1) "" cursor)).become
        { e with draft := e.draft.cleared cursor, pending := none }
        (e.draft.cleared cursor).status) ∨
    (∃ name, event = .nameChanged name ∧
      s.handle env e event = (s.note (.renamed name)).become
        { e with draft := e.draft.rename name } [.gating (e.draft.rename name).gating]) ∨
    ∃ signal, event = .execute ∧ s.handle env e event = s.become e [signal] ∧
      (signal = .executeQuery e.draft.text ∧ e.draft.validity = .valid ∨
        signal = .executeRejected e.draft.validity ∧ e.draft.validity ≠ .valid) := by
  cases event with
  | textChanged text cursor =>
      cases hchange : e.changeText env.timing s.clock text cursor with
      | error fault => exact .inl (by simp [handle, Editor.handle, hchange])
      | ok result =>
          obtain ⟨e', signals⟩ := result
          have hhandle : s.handle env e (.textChanged text cursor) =
              (s.note (.changed e'.draft.issued text cursor)).become e' signals := by
            simp [handle, Editor.handle, hchange, noteEvent]
          obtain ⟨rfl, ⟨hne, rfl⟩ | ⟨rfl, rfl⟩⟩ := Editor.changeText_cases hchange
          · exact .inr (.inl ⟨text, cursor, rfl, hne, hhandle⟩)
          · exact .inr (.inr (.inl ⟨cursor, rfl, hhandle⟩))
  | nameChanged name => exact .inr (.inr (.inr (.inl ⟨name, rfl, rfl⟩)))
  | execute =>
      refine .inr (.inr (.inr (.inr ?_)))
      by_cases hvalid : e.draft.validity = .valid
      · exact ⟨.executeQuery e.draft.text, rfl,
          by simp [handle, Editor.handle, Draft.executable, hvalid, noteEvent], .inl ⟨rfl, hvalid⟩⟩
      · exact ⟨.executeRejected e.draft.validity, rfl,
          by simp [handle, Editor.handle, Draft.executable, hvalid, noteEvent], .inr ⟨rfl, hvalid⟩⟩

/-- An event has no part in the calls and the replies. -/
theorem handle_keeps (env : Setting) (s : Session) (e : Editor) (event : Event) :
    (s.handle env e event).calls = s.calls ∧ (s.handle env e event).replies = s.replies ∧
      (s.handle env e event).clock = s.clock ∧ (s.handle env e event).listening = s.listening := by
  rcases s.handle_cases env e event with hs | ⟨text, cursor, -, -, hs⟩ | ⟨cursor, -, hs⟩ |
      ⟨name, -, hs⟩ | ⟨signal, -, hs, -⟩ <;> rw [hs] <;> simp

/-- What an event makes of a session that lives on. -/
theorem handle_inv {env : Setting} {s : Session} {e e' : Editor} {event : Event}
    (he' : (s.handle env e event).editor = some e') :
    (∃ text cursor, event = .textChanged text cursor ∧ text ≠ "" ∧
      e' = { e with
        draft := e.draft.retyped text cursor
        pending := some (e.schedule env.timing s.clock (e.draft.issued + 1)) } ∧
      s.handle env e event =
        (s.note (.changed (e.draft.issued + 1) text cursor)).become e' e'.draft.status) ∨
    (∃ cursor, event = .textChanged "" cursor ∧
      e' = { e with draft := e.draft.cleared cursor, pending := none } ∧
      s.handle env e event =
        (s.note (.changed (e.draft.issued + 1) "" cursor)).become e' e'.draft.status) ∨
    (∃ name, event = .nameChanged name ∧ e' = { e with draft := e.draft.rename name } ∧
      s.handle env e event = (s.note (.renamed name)).become e' [.gating e'.draft.gating]) ∨
    ∃ signal, event = .execute ∧ e' = e ∧ s.handle env e event = s.become e [signal] := by
  rcases s.handle_cases env e event with hs | ⟨text, cursor, hevent, hne, hs⟩ |
      ⟨cursor, hevent, hs⟩ | ⟨name, hevent, hs⟩ | ⟨signal, hevent, hs, -⟩
  · rw [hs] at he'
    cases he'
  all_goals
    rw [hs, become_editor] at he'
    cases he'
  · exact .inl ⟨text, cursor, hevent, hne, rfl, hs⟩
  · exact .inr (.inl ⟨cursor, hevent, rfl, hs⟩)
  · exact .inr (.inr (.inl ⟨name, hevent, rfl, hs⟩))
  · exact .inr (.inr (.inr ⟨signal, hevent, rfl, hs⟩))

/-! ### Calls that end -/

theorem expireAt_clock {c : Call} {now : Nat} (h : c.isOverdue now = false) :
    c.expireAt now = c := by
  simp [Call.expireAt, h]

/-- Calls are given up one after the other. -/
theorem expire_each {R : Session → Session → Prop}
    (hexpire : ∀ {s : Session} {front back : List Call} {c : Call}, s.calls = front ++ c :: back →
      c.isOverdue s.clock → R s
        { s with
          calls := front ++ { c with expired := true } :: back
          replies := s.replies ++ [⟨c.id, .timedOut⟩] }) (s : Session) :
    ReflTransGen R s s.expire := by
  -- on the calls that are still to be looked at, behind those that were
  suffices h : ∀ (back front : List Call) (replies : List Reply),
      ReflTransGen R { s with calls := front ++ back, replies }
        { s with
          calls := front ++ back.map (Call.expireAt s.clock)
          replies := replies ++
            (back.filter (·.isOverdue s.clock)).map fun c => ⟨c.id, .timedOut⟩ } from
    h s.calls [] s.replies
  intro back
  induction back with
  | nil => intro front replies; simp; exact .refl
  | cons c back ih =>
      intro front replies
      by_cases hc : c.isOverdue s.clock
      · have move : R { s with calls := front ++ c :: back, replies } _ := hexpire rfl hc
        have rest := ih (front ++ [{ c with expired := true }]) (replies ++ [⟨c.id, .timedOut⟩])
        refine .head move ?_
        simpa [Call.expireAt, hc] using rest
      · have rest := ih (front ++ [c]) replies
        simpa [Call.expireAt, hc] using rest

theorem expire_moves (env : Setting) (s : Session) : ReflTransGen (InnerMove env) s s.expire :=
  expire_each .expire s

/-- Calls return one after the other. -/
theorem collect_each {env : Setting} {R : Session → Session → Prop}
    (hcollect : ∀ {s : Session} {front back : List Call} {c : Call}, s.calls = front ++ c :: back →
      c.held = false → R s
        { s with
          calls := front ++ back
          replies := s.replies ++ if c.expired then [] else [⟨c.id, c.result env⟩] }) (s : Session) :
    ReflTransGen R s (s.collect env) := by
  -- on the calls that are still to be looked at, behind those that were kept
  suffices h : ∀ (back front : List Call) (replies : List Reply),
      ReflTransGen R { s with calls := front ++ back, replies }
        { s with
          calls := front ++ back.filter (·.held)
          replies := replies ++
            (back.filter fun c => !c.held && !c.expired).map fun c => ⟨c.id, c.result env⟩ } from
    h s.calls [] s.replies
  intro back
  induction back with
  | nil => intro front replies; simp; exact .refl
  | cons c back ih =>
      intro front replies
      cases hc : c.held with
      | true =>
          have rest := ih (front ++ [c]) replies
          simpa [hc] using rest
      | false =>
          have move : R { s with calls := front ++ c :: back, replies } _ := hcollect rfl hc
          refine .head move ?_
          cases hx : c.expired with
          | true => simpa [hc, hx] using ih front replies
          | false =>
              have rest := ih front (replies ++ [⟨c.id, c.result env⟩])
              rw [List.append_assoc, List.singleton_append] at rest
              simpa [hc, hx] using rest

theorem collect_moves (env : Setting) (s : Session) :
    ReflTransGen (InnerMove env) s (s.collect env) :=
  collect_each .collect s

theorem continues_of_mem {s : Session} {c : Call} (h : c ∈ s.calls) :
    ∃ d ∈ s.calls, c.Continues d :=
  ⟨c, h, .refl c⟩

theorem continues_expire {s : Session} {front back : List Call} {c : Call}
    (hcalls : s.calls = front ++ c :: back) :
    ∀ d ∈ front ++ { c with expired := true } :: back, ∃ d' ∈ s.calls, d.Continues d' := by
  intro d hd
  rw [hcalls]
  rcases List.mem_append.mp hd with hd | hd
  · exact ⟨d, List.mem_append_left _ hd, .refl d⟩
  · rcases List.mem_cons.mp hd with rfl | hd
    · exact ⟨c, List.mem_append_right _ (List.mem_cons_self ..), rfl, rfl, rfl, rfl, fun h => h, nofun⟩
    · exact ⟨d, List.mem_append_right _ (List.mem_cons_of_mem _ hd), .refl d⟩

theorem continues_collect {s : Session} {front back : List Call} {c : Call}
    (hcalls : s.calls = front ++ c :: back) :
    ∀ d ∈ front ++ back, ∃ d' ∈ s.calls, d.Continues d' := by
  intro d hd
  rw [hcalls]
  rcases List.mem_append.mp hd with hd | hd
  · exact ⟨d, List.mem_append_left _ hd, .refl d⟩
  · exact ⟨d, List.mem_append_right _ (List.mem_cons_of_mem _ hd), .refl d⟩

theorem continues_release {s : Session} {id : RequestId} :
    ∀ c ∈ (s.release id).calls, ∃ d ∈ s.calls, c.Continues d := by
  intro c hc
  obtain ⟨d, hd, rfl⟩ := List.mem_map.mp hc
  refine ⟨d, hd, ?_⟩
  split
  · exact ⟨rfl, rfl, rfl, rfl, nofun, fun hx => hx⟩
  · exact .refl d

/-! ### Settling -/

theorem exchange_moves (env : Setting) (s : Session) :
    ReflTransGen (InnerMove env) s (s.exchange env) :=
  ((expire_moves env s).trans (collect_moves env _)).trans (deliver_moves env _)

/-- The waiting request is sent, or nothing happens. -/
theorem fire_each {env : Setting} {R : Session → Session → Prop} {s : Session}
    (hask : ∀ {e : Editor} {id : RequestId}, s.editor = some e → e.due? s.clock = some id →
      R s (s.ask env e id)) : ReflTransGen R s (s.fire env) := by
  unfold fire
  split
  · next he =>
      split
      · next hdue => exact .single (hask he hdue)
      · exact .refl
  · exact .refl

theorem fire_moves (env : Setting) (s : Session) : ReflTransGen (InnerMove env) s (s.fire env) :=
  fire_each .send

/-- Settling is a sequence of inner moves. -/
theorem settle_moves (env : Setting) (s : Session) :
    ReflTransGen (InnerMove env) s (s.settle env) :=
  ((exchange_moves env s).trans (fire_moves env _)).trans (exchange_moves env _)

theorem exchange_calls (env : Setting) (s : Session) :
    (s.exchange env).calls = (s.calls.map (Call.expireAt s.clock)).filter (·.held) :=
  deliver_keeps (·.calls) (fun s => (receiveNext_keeps s).1) _

theorem exchange_clock (env : Setting) (s : Session) : (s.exchange env).clock = s.clock :=
  deliver_keeps (·.clock) (fun s => (receiveNext_keeps s).2.1) _

theorem exchange_pending (env : Setting) (s : Session) :
    (s.exchange env).editor.map (·.pending) = s.editor.map (·.pending) :=
  deliver_keeps (fun s => s.editor.map (·.pending)) (fun s => (receiveNext_keeps s).2.2) _

theorem fire_clock (env : Setting) (s : Session) : (s.fire env).clock = s.clock := by
  unfold fire
  split
  · split <;> rfl
  · rfl

/-- Once the waiting request was sent, none is due. -/
theorem fire_not_due (env : Setting) (s : Session) :
    ∀ p, (s.fire env).editor.map (·.pending) = some (some p) → s.clock < p.due := by
  unfold fire
  intro p hp
  split at hp
  · next e he =>
      split at hp
      · simp [ask, note, Editor.sent] at hp
      · next hdue => exact Editor.due?_eq_none.mp hdue p (by simpa [he] using hp)
  · next he => simp [he] at hp

theorem settle_clock (env : Setting) (s : Session) : (s.settle env).clock = s.clock := by
  rw [settle, exchange_clock, fire_clock, exchange_clock]

theorem not_isOverdue_expireAt (c : Call) (now : Nat) : (c.expireAt now).isOverdue now = false := by
  unfold Call.expireAt
  split
  · simp [Call.isOverdue]
  · next h => simpa using h

/-- Nothing is left to happen in a session that has settled. -/
theorem settle_still (env : Setting) (s : Session) : (s.settle env).Still where
  replies_nil := deliver_replies _
  held c hc := by
    rw [settle, exchange_calls] at hc
    exact (List.mem_filter.mp hc).2
  not_overdue c hc := by
    rw [settle_clock]
    rw [settle, exchange_calls, fire_clock, exchange_clock] at hc
    obtain ⟨c₀, -, rfl⟩ := List.mem_map.mp (List.mem_filter.mp hc).1
    exact not_isOverdue_expireAt c₀ s.clock
  not_due e he := by
    rw [settle_clock, Editor.due?_eq_none]
    intro p hp
    have h := fire_not_due env (s.exchange env) p
    rw [← exchange_pending env, ← settle, he, exchange_clock] at h
    exact h (by simp [hp])

end Session
end FilterEditor
