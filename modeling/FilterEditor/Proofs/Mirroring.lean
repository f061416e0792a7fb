import FilterEditor.Proofs.Lifetime

/-!
# Proofs — Mirroring

A surface that shows no more than the last gating and the last feedback it was told is never out of
date (`surface_mirrors`).

* `Signal.last?`: the last signal of a kind, by what it shows.
* `Mirrors`: the last two are those of the draft.  Telling the status of a draft brings this about,
  and telling anything of another kind leaves it (`Mirrors.status`, `Mirrors.aside`).
* `Arises.mirrored`: at every moment of every run, what a surface was told mirrors the draft, as
  long as it reads its signals.
* `listening_after`: a surface reads its signals until it stops for good.
-/

namespace FilterEditor

/-! ### The last signal of a kind -/

namespace Signal

/-- What the signal shows of the actions open to the user. -/
def gating? : Signal → Option Gating
  | .gating shown => some shown
  | _ => none

/-- The indicator that the signal shows. -/
def feedback? : Signal → Option Feedback
  | .feedback shown => some shown
  | _ => none

/-- What the last signal shows that shows anything of the kind. -/
def last? {α : Type} (view : Signal → Option α) (signals : List Signal) : Option α :=
  (signals.filterMap view).getLast?

variable {α : Type} {view : Signal → Option α} {past more : List Signal}

theorem last?_append (view : Signal → Option α) (past more : List Signal) :
    last? view (past ++ more) = (last? view more).or (last? view past) := by
  rw [last?, List.filterMap_append, List.getLast?_append, last?, last?]

theorem last?_of_none (h : ∀ signal ∈ more, view signal = none) :
    last? view (past ++ more) = last? view past := by
  have hmore : last? view more = none := by
    rw [last?, List.filterMap_eq_nil_iff.mpr h, List.getLast?_nil]
  rw [last?_append, hmore, Option.none_or]

end Signal

/-- The last signals that show what is open to the user and the indicator show those of the draft. -/
structure Mirrors (signals : List Signal) (d : Draft) : Prop where
  gating : Signal.last? Signal.gating? signals = some d.gating
  feedback : Signal.last? Signal.feedback? signals = some d.feedback

namespace Mirrors
variable {d : Draft} {past more : List Signal}

theorem status (past : List Signal) (d : Draft) : Mirrors (past ++ d.status) d where
  gating := by rw [Signal.last?_append]; rfl
  feedback := by rw [Signal.last?_append]; rfl

/-- Signals of other kinds leave what is shown. -/
theorem aside (h : Mirrors past d)
    (hmore : ∀ signal ∈ more, signal.gating? = none ∧ signal.feedback? = none) :
    Mirrors (past ++ more) d where
  gating := by rw [Signal.last?_of_none fun signal hmem => (hmore signal hmem).1, h.gating]
  feedback := by rw [Signal.last?_of_none fun signal hmem => (hmore signal hmem).2, h.feedback]

/-- A new name has no part in the indicator. -/
theorem rename (h : Mirrors past d) (name : String) :
    Mirrors (past ++ [.gating (d.rename name).gating]) (d.rename name) where
  gating := by rw [Signal.last?_append]; rfl
  feedback := by
    rw [Signal.last?_append, show (d.rename name).feedback = d.feedback from rfl, ← h.feedback]
    rfl

end Mirrors

namespace Session
open Relation

section
variable {env : Setting} {saved : Option SavedFilter} {maySave : Bool} {s s' : Session} {e : Editor}

/-! ### What a session tells -/

theorem signals_become (hlistening : s.listening) (e : Editor) (signals : List Signal) :
    (s.become e signals).signals = s.signals ++ signals := by
  rw [become, signals_tell]
  simp only [hlistening, if_true]
  rfl

/-- A note of what the user did, or of a request, tells nothing. -/
theorem signals_note (s : Session) (happening : Happening)
    (h : ∀ signal, happening ≠ .told signal) : (s.note happening).signals = s.signals := by
  rw [signals, note, List.reverse_cons, List.filterMap_append]
  cases happening with
  | told signal => exact absurd rfl (h signal)
  | changed | renamed | asked => exact List.append_nil _

/-- What a surface was told that reads its signals mirrors the draft. -/
def Mirrored (s : Session) : Prop :=
  s.listening → ∀ e, s.editor = some e → Mirrors s.signals e.draft

theorem Mirrored.receive (h : s.Mirrored) (reply : Reply) : (s.receive reply).Mirrored := by
  intro hlistening e' he'
  obtain ⟨e, he, rfl⟩ := receive_inv he'
  rw [(receive_keeps s reply).2.2.2.1] at hlistening
  rw [receive_some he, signals_become hlistening]
  rcases e.receive_cases reply with ⟨-, heq⟩ | ⟨-, evaluation, -, heq⟩ | ⟨-, -, heq⟩ <;> rw [heq]
  · exact (h hlistening e he).aside nofun
  -- the status of the draft, between the diagnostic and the suggestions
  · have hstatus := Mirrors.status (s.signals ++ [.validated evaluation.diagnostic])
      (e.draft.answered evaluation.diagnostic)
    have haside : ∀ signal ∈ [Signal.suggestions evaluation.suggestions],
        signal.gating? = none ∧ signal.feedback? = none := List.forall_mem_singleton.mpr ⟨rfl, rfl⟩
    simpa only [List.append_assoc, List.cons_append, List.nil_append] using hstatus.aside haside
  · exact .status s.signals _

theorem Mirrored.event (h : s.Mirrored) (he : s.editor = some e) (event : Event) :
    (s.handle env e event).Mirrored := by
  rcases s.handle_cases env e event with hs | ⟨text, cursor, -, -, hs⟩ | ⟨cursor, -, hs⟩ |
      ⟨name, -, hs⟩ | ⟨signal, -, hs, hsignal⟩ <;> rw [hs] <;> intro hlistening e' he'
  · cases he'
  all_goals
    rw [become_editor] at he'
    rw [become_listening] at hlistening
    obtain rfl := Option.some.inj he'
    rw [signals_become hlistening]
  · exact .status _ _
  · exact .status _ _
  · rw [s.signals_note (.renamed name) nofun]
    exact (h hlistening e he).rename name
  · refine (h hlistening e he).aside (List.forall_mem_singleton.mpr ?_)
    rcases hsignal with ⟨rfl, -⟩ | ⟨rfl, -⟩ <;> exact ⟨rfl, rfl⟩

theorem Mirrored.start : (Session.start env (.opening saved maySave)).Mirrored := by
  intro _ e he
  rcases start_cases env saved maySave with ⟨-, hs⟩ | ⟨filter, -, -, hs⟩ <;> rw [hs] at he ⊢ <;>
    obtain rfl := Option.some.inj he
  · exact .status [] (.opening saved maySave)
  · exact .status [] (openedDraft filter maySave)

theorem Mirrored.innerMove (h : s.Mirrored) (move : InnerMove env s s') : s'.Mirrored := by
  cases move with
  | pass | expire | collect => exact h
  | @receive front back reply =>
      have hrest : Mirrored { s with replies := front ++ back } := h
      exact hrest.receive reply
  | @send e id he =>
      intro hlistening e' he'
      obtain rfl := Option.some.inj he'
      rw [ask, signals_note _ (.asked id e.draft.text e.draft.cursor) (by simp)]
      exact h hlistening e he

/-- **Mirroring.**  In every session that arises, what a surface was told that reads its signals
mirrors the draft. -/
theorem Arises.mirrored (hs : Arises env saved maySave s) : s.Mirrored := by
  induction hs with
  | refl => exact .start
  | tail _ move ih =>
      cases move with
      | inner move => exact ih.innerMove move
      | event he event => exact ih.event he event
      | release => exact ih
      | closeSignals => exact fun hlistening => absurd hlistening Bool.false_ne_true
      | kill =>
          intro _ _ he
          cases he

/-! ### Who reads -/

theorem innerMoves_listening (moves : ReflTransGen (InnerMove env) s s') :
    s'.listening = s.listening := by
  induction moves with
  | refl => rfl
  | tail _ move ih =>
      cases move with
      | pass | expire | collect | send => exact ih
      | receive => exact (receive_keeps _ _).2.2.2.1.trans ih

theorem step_listening (still : s.Still) (st : Step) :
    (s.step env st).listening = (s.listening && decide (st ≠ .closeSignals)) := by
  rw [step, innerMoves_listening (settle_moves env _)]
  cases st with
  | event event =>
      cases he : s.editor with
      | none => simp [take, he]
      | some e => simp [take, he, handle_keeps]
  | advance ms => simp [take, innerMoves_listening (advance_moves ms still).1]
  | release text =>
      rcases take_release env s text with hs | ⟨id, hs⟩ <;> rw [hs] <;> simp [release]
  | closeSignals => simp [take]
  | kill => simp [take]

/-- A surface reads its signals just if it was never made to stop. -/
theorem listening_after (steps : List Step) :
    (after env saved maySave steps).listening ↔ Step.closeSignals ∉ steps := by
  induction steps using List.reverseRecOn with
  | nil =>
      rw [after_nil, innerMoves_listening (settle_moves env _)]
      rcases start_cases env saved maySave with ⟨-, hs⟩ | ⟨filter, -, -, hs⟩ <;> rw [hs] <;> simp
  | append_singleton steps st ih =>
      rw [after_concat, step_listening (after_still steps), Bool.and_eq_true, ih, decide_eq_true_iff,
        List.mem_append, List.mem_singleton, not_or, ne_comm]

/-! ### The theorem -/

/-- **The surface mirrors the draft.**  At every moment of every run at which the session lives and
the surface reads its signals, whatever the order of changes, renames, replies, timeouts and failures
so far, the last gating told is that of the draft, and so is the last feedback.

In particular, a run that was not killed, whose changes do not use up the ids, and whose surface did
not stop reading comes to a session that lives, and of which this holds: after it opened, and after
each of its steps, however short the stretches in which it lets time go by. -/
theorem surface_mirrors :
    (∀ s e, Arises env saved maySave s → s.editor = some e → s.listening →
      Signal.last? Signal.gating? s.signals = some e.draft.gating ∧
        Signal.last? Signal.feedback? s.signals = some e.draft.feedback) ∧
    ∀ steps, Step.kill ∉ steps → openingIds saved + steps.countP Step.changesText < offsetLimit →
      Step.closeSignals ∉ steps →
      ∃ e, (after env saved maySave steps).editor = some e ∧
        Signal.last? Signal.gating? (after env saved maySave steps).signals = some e.draft.gating ∧
        Signal.last? Signal.feedback? (after env saved maySave steps).signals =
          some e.draft.feedback := by
  have hmoment : ∀ s e, Arises env saved maySave s → s.editor = some e → s.listening →
      Signal.last? Signal.gating? s.signals = some e.draft.gating ∧
        Signal.last? Signal.feedback? s.signals = some e.draft.feedback := by
    intro s e hs he hlistening
    have hmirrors := Arises.mirrored hs hlistening e he
    exact ⟨hmirrors.gating, hmirrors.feedback⟩
  refine ⟨hmoment, fun steps hkill hids hopen => ?_⟩
  obtain ⟨e, he⟩ := lives_after hkill hids
  exact ⟨e, he, hmoment _ e (arises_after steps) he ((listening_after steps).mpr hopen)⟩

end

/-! ### A query that is accepted under a new name -/

/-- The saved query is changed and accepted, and then the filter gets another name. -/
def renamedSteps : List Step :=
  [.event (.textChanged "b" 1), .event (.nameChanged "other"), .event .execute]

/-- What the surface shows in the end is that of the accepted query under its new name. -/
theorem surface_mirrors_renamed :
    ∃ e, (after (accepting fun _ => false) (some ⟨"name", "a"⟩) true renamedSteps).editor = some e ∧
      e.draft.name = "other" ∧ e.draft.gating = ⟨true, true⟩ ∧
      Signal.last? Signal.gating?
        (after (accepting fun _ => false) (some ⟨"name", "a"⟩) true renamedSteps).signals =
          some e.draft.gating ∧
      Signal.last? Signal.feedback?
        (after (accepting fun _ => false) (some ⟨"name", "a"⟩) true renamedSteps).signals =
          some e.draft.feedback := by
  obtain ⟨-, hruns⟩ := @surface_mirrors (accepting fun _ => false) (some ⟨"name", "a"⟩) true
  obtain ⟨e, he, hgating, hfeedback⟩ := hruns renamedSteps (by decide) (by decide) (by decide)
  have hshown : (after (accepting fun _ => false) (some ⟨"name", "a"⟩) true renamedSteps).editor.map
      (fun e => (e.draft.name, e.draft.gating)) = some ("other", ⟨true, true⟩) := by
    decide +kernel
  rw [he] at hshown
  obtain ⟨hname, hshows⟩ := Prod.mk.inj (Option.some.inj hshown)
  exact ⟨e, he, hname, hshows, hgating, hfeedback⟩

end Session
end FilterEditor
