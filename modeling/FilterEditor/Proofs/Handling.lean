import FilterEditor.Proofs.CallLog
import FilterEditor.Proofs.Mirroring

/-!
# Proofs — Handling

What a session has handled and told, move by move.

* `Journal.handled`: the events that a journal shows to have been handled.  An event that is handled
  adds itself, and nothing else adds any (`handled_event`, `handled_innerMove`).
* `TellsAtMost`: a reply tells four signals at most and an event two; and no signal is taken back
  (`receive_tells`, `handle_tells`, `innerMove_signals`).
-/

namespace FilterEditor

/-! ### Handled events -/

/-- The event that the signal answers, if it answers one: a request to run the query. -/
def Signal.event? : Signal → Option Event
  | .executeQuery _ | .executeRejected _ => some .execute
  | _ => none

/-- The event that the entry shows to have been handled, if it shows one. -/
def Entry.event? (entry : Entry) : Option Event :=
  match entry.happening with
  | .changed _ text cursor => some (.textChanged text cursor)
  | .renamed name => some (.nameChanged name)
  | .asked .. => none
  | .told signal => signal.event?

namespace Journal

/-- The events handled, in order. -/
def handled (past : List Entry) : List Event :=
  past.reverse.filterMap Entry.event?

theorem handled_append (front past : List Entry) :
    handled (front ++ past) = handled past ++ handled front := by
  rw [handled, List.reverse_append, List.filterMap_append, handled, handled]

theorem handled_cons (entry : Entry) (past : List Entry) :
    handled (entry :: past) = handled past ++ entry.event?.toList := by
  rw [← List.singleton_append, handled_append]
  cases h : entry.event? <;> simp [handled, h]

end Journal

namespace Session
open Relation Journal

section
variable {env : Setting} {saved : Option SavedFilter} {maySave : Bool} {s s' : Session} {e : Editor}

theorem handled_become (hlistening : s.listening) (e : Editor) (signals : List Signal) :
    handled (s.become e signals).journal =
      handled s.journal ++ signals.filterMap Signal.event? := by
  rw [become_journal, if_pos hlistening, handled_append]
  congr 1
  rw [handled, List.reverse_reverse, List.filterMap_map]
  rfl

/-- No reply answers an event. -/
theorem handled_receive (hlistening : s.listening) (reply : Reply) :
    handled (s.receive reply).journal = handled s.journal := by
  cases he : s.editor with
  | none => rw [receive_none he]
  | some e =>
      rw [receive_some he, handled_become hlistening]
      rcases e.receive_cases reply with ⟨-, heq⟩ | ⟨-, evaluation, -, heq⟩ | ⟨-, -, heq⟩ <;>
        rw [heq] <;> exact List.append_nil _

theorem handled_innerMove (hlistening : s.listening) (move : InnerMove env s s') :
    handled s'.journal = handled s.journal := by
  cases move with
  | pass | expire | collect => rfl
  | @receive front back reply =>
      exact handled_receive (s := { s with replies := front ++ back }) hlistening reply
  | send =>
      rw [ask, note, handled_cons]
      exact List.append_nil _

/-- A change of the draft that is noted and told, with nothing told that answers an event. -/
theorem handled_noted (hlistening : s.listening) (happening : Happening) (e : Editor)
    {signals : List Signal} (hsignals : signals.filterMap Signal.event? = []) :
    handled ((s.note happening).become e signals).journal =
      handled s.journal ++ (Entry.event? ⟨s.clock, happening⟩).toList := by
  rw [handled_become (s := s.note happening) hlistening, hsignals, List.append_nil, note,
    handled_cons]

/-- An event that does not end the session is handled. -/
theorem handled_event (hlistening : s.listening) {event : Event}
    (hlives : (s.handle env e event).editor ≠ none) :
    handled (s.handle env e event).journal = handled s.journal ++ [event] := by
  rcases s.handle_cases env e event with hs | ⟨text, cursor, rfl, -, hs⟩ | ⟨cursor, rfl, hs⟩ |
      ⟨name, rfl, hs⟩ | ⟨signal, rfl, hs, hsignal⟩ <;> rw [hs] at hlives ⊢
  · exact absurd rfl hlives
  · exact handled_noted hlistening _ _ rfl
  · exact handled_noted hlistening _ _ rfl
  · exact handled_noted hlistening _ _ rfl
  · rw [handled_become hlistening]
    rcases hsignal with ⟨rfl, -⟩ | ⟨rfl, -⟩ <;> rfl

/-- The change of the text that opens a session with a query. -/
def openingEvents (saved : Option SavedFilter) : List Event :=
  (openingChange saved).map fun (text, cursor) => .textChanged text cursor

theorem handled_start :
    handled (start env (.opening saved maySave)).journal = openingEvents saved := by
  rcases start_cases env saved maySave with ⟨hempty, hs⟩ | ⟨filter, rfl, hne, hs⟩ <;> rw [hs]
  · cases saved with
    | none => rfl
    | some filter =>
        have hquery : filter.query = "" := hempty
        rw [openingEvents, openingChange, if_pos hquery]
        rfl
  · rw [openingEvents, openingChange, if_neg hne]
    rfl

/-! ### What is told at once -/

/-- The second session was told all that the first one was, and then no more than so many signals. -/
def TellsAtMost (most : Nat) (s s' : Session) : Prop :=
  ∃ told, told.length ≤ most ∧ s'.signals = s.signals ++ told

theorem TellsAtMost.length_le {most : Nat} (h : TellsAtMost most s s') :
    s'.signals.length ≤ s.signals.length + most := by
  obtain ⟨told, hmost, htold⟩ := h
  rw [htold, List.length_append]
  exact Nat.add_le_add_left hmost _

theorem become_tells (s : Session) (e : Editor) {signals : List Signal} {most : Nat}
    (hmost : signals.length ≤ most) : TellsAtMost most s (s.become e signals) := by
  refine ⟨if s.listening then signals else [], ?_, signals_tell { s with editor := some e } signals⟩
  split
  · exact hmost
  · exact Nat.zero_le most

theorem receive_tells (s : Session) (reply : Reply) : TellsAtMost 4 s (s.receive reply) := by
  cases he : s.editor with
  | none => exact ⟨[], Nat.zero_le 4, by rw [receive_none he, List.append_nil]⟩
  | some e =>
      rw [receive_some he]
      refine s.become_tells _ ?_
      rcases e.receive_cases reply with ⟨-, heq⟩ | ⟨-, evaluation, -, heq⟩ | ⟨-, -, heq⟩ <;>
        rw [heq] <;> simp [Draft.status]

theorem note_tells (s : Session) (happening : Happening) (h : ∀ signal, happening ≠ .told signal)
    {most : Nat} (htells : TellsAtMost most (s.note happening) s') : TellsAtMost most s s' := by
  rwa [TellsAtMost, signals_note s happening h] at htells

theorem handle_tells (env : Setting) (s : Session) (e : Editor) (event : Event) :
    TellsAtMost 2 s (s.handle env e event) := by
  rcases s.handle_cases env e event with hs | ⟨text, cursor, -, -, hs⟩ | ⟨cursor, -, hs⟩ |
      ⟨name, -, hs⟩ | ⟨signal, -, hs, -⟩ <;> rw [hs]
  · exact ⟨[], Nat.zero_le 2, (List.append_nil _).symm⟩
  · exact note_tells s (.changed ..) (by simp) (become_tells _ _ (by simp [Draft.status]))
  · exact note_tells s (.changed ..) (by simp) (become_tells _ _ (by simp [Draft.status]))
  · exact note_tells s (.renamed name) (by simp) (become_tells _ _ (Nat.le_succ 1))
  · exact s.become_tells e (Nat.le_succ 1)

theorem ask_signals (env : Setting) (s : Session) (e : Editor) (id : RequestId) :
    (s.ask env e id).signals = s.signals :=
  signals_note _ (.asked id e.draft.text e.draft.cursor) (by simp)

/-- Whatever happens by itself takes no signal back. -/
theorem innerMove_signals (move : InnerMove env s s') : s.signals <+: s'.signals := by
  cases move with
  | pass | expire | collect => exact List.prefix_rfl
  | @receive front back reply =>
      obtain ⟨told, -, htold⟩ := receive_tells { s with replies := front ++ back } reply
      exact ⟨told, htold.symm⟩
  | @send e id => exact ⟨[], (List.append_nil _).trans (ask_signals env s e id).symm⟩

end
end Session

end FilterEditor
