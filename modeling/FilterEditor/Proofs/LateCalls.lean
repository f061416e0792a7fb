import FilterEditor.Proofs.Pruning
import FilterEditor.Proofs.Turns

/-!
# Proofs — Late calls

A call whose text was changed since, or that was given up, may return whenever it likes, with any
outcome: nobody can tell (`late_calls_unobservable`).

* `Spent`: a call that is late stays late, and so does its reply.
* `prune_returned`: the return of a late call takes nothing away that is not pruned anyway.
* `course`: what a run does and tells, without the returns of its late calls.  Pruned sessions go
  through the same courses (`course_eq`), so the course of a run is all that decides what it tells.
-/

namespace FilterEditor
namespace Session
open Relation Journal

/-- The deed is the return of a late call, or of none. -/
def isLateReturn (s : Session) : Deed → Bool
  | .returns id _ => s.calls.all fun c => c.id != id || s.isLate c
  | _ => false

/-- What is done in a run, and what each deed makes the session tell, without the returns of late
calls. -/
def course (env : Setting) (s : Session) : List Deed → List (Deed × List Signal)
  | [] => []
  | deed :: deeds =>
      let next := s.does env deed
      if s.isLateReturn deed then course env next deeds
      else (deed, next.signalsSince s.journal.length) :: course env next deeds

section
variable {env : Setting} {saved : Option SavedFilter} {maySave : Bool} {s s' t : Session}
  {id : RequestId} {deed : Deed}

theorem Reached.tracked (hs : Reached env saved maySave s) : s.Tracked := by
  induction hs with
  | refl => exact .start
  | tail _ turn ih =>
      cases turn with
      | move move => exact ih.move move
      | returns => exact ih

/-! ### Late for good -/

/-- No call under the id counts, now or later. -/
structure Spent (s : Session) (id : RequestId) : Prop where
  isLate : ∀ c ∈ s.calls, c.id = id → s.isLate c
  issued : ∀ e, s.editor = some e → id ≤ e.draft.issued
  unsent : ∀ e p, s.editor = some e → e.pending = some p → p.id ≠ id

/-- An id that is superseded stays so. -/
theorem supersedes_turn (hsuperseded : s.supersedes id)
    (hle : ∀ e, s.editor = some e → id ≤ e.draft.issued) (turn : Turn env s s') :
    s'.supersedes id := by
  cases turn with
  | returns => exact hsuperseded
  | move move =>
      cases move with
      | inner move => rwa [supersedes, lastEdit?_innerMove move]
      | @event e he event =>
          have hnext : (e.draft.issued + 1 != id) = true :=
            bne_iff_ne.mpr (Nat.ne_of_gt (Nat.lt_succ_of_le (hle e he)))
          rcases s.handle_cases env e event with hs | ⟨text, cursor, -, -, hs⟩ | ⟨cursor, -, hs⟩ |
              ⟨name, -, hs⟩ | ⟨signal, -, hs, -⟩ <;> rw [hs]
          · exact hsuperseded
          all_goals rw [supersedes_become]
          · exact hnext
          · exact hnext
          · exact hsuperseded
          · exact hsuperseded
      | release | closeSignals | kill => exact hsuperseded

/-- A call that is late is spent. -/
theorem Reached.spent (hs : Reached env saved maySave s) {c : Call} (hc : c ∈ s.calls)
    (hlate : s.isLate c) : s.Spent c.id where
  isLate _ hd hid := List.inj_on_of_nodup_map hs.distinct.nodup hd hc hid ▸ hlate
  issued e he := (hs.singleFlight e he).calls_le c hc
  unsent e p he hp := (hs.distinct.unsent p (by rw [he, Option.map_some, hp]) c hc).symm

theorem Spent.turn (h : s.Spent id) (turn : Turn env s s') : s'.Spent id where
  isLate c hc hid := by
    rcases calls_turn turn c hc with ⟨d, hd, hcontinues⟩ | ⟨p, hp, hp'⟩
    · have hid' : d.id = id := hcontinues.id.symm.trans hid
      rcases Bool.or_eq_true_iff.mp (h.isLate d hd hid') with hexpired | hsuperseded
      · refine Bool.or_eq_true_iff.mpr (.inl ?_)
        by_contra hnot
        rw [hcontinues.expired (Bool.not_eq_true _ ▸ hnot)] at hexpired
        cases hexpired
      · rw [hid'] at hsuperseded
        exact Bool.or_eq_true_iff.mpr (.inr (hid ▸ supersedes_turn hsuperseded h.issued turn))
    · obtain ⟨e, he, hpending⟩ := Option.map_eq_some_iff.mp hp
      exact absurd (hp'.symm.trans hid) (h.unsent e p he hpending)
  issued e' he' := by
    obtain ⟨e, he, ⟨hsame, -⟩ | ⟨hnext, -⟩⟩ := editor_turn turn he'
    · exact hsame ▸ h.issued e he
    · exact hnext ▸ Nat.le_succ_of_le (h.issued e he)
  unsent e' p he' hp := by
    obtain ⟨e, he, ⟨-, hpending⟩ | ⟨-, hnew⟩⟩ := editor_turn turn he'
    · exact h.unsent e p he (hpending p hp)
    · rw [hnew p hp]
      exact Nat.ne_of_gt (Nat.lt_succ_of_le (h.issued e he))

theorem Spent.turns (h : s.Spent id) (turns : ReflTransGen (Turn env) s s') : s'.Spent id := by
  induction turns with
  | refl => exact h
  | tail _ turn ih => exact ih.turn turn

theorem supersedes_turns (hsuperseded : s.supersedes id) (h : s.Spent id)
    (turns : ReflTransGen (Turn env) s s') : s'.supersedes id := by
  induction turns with
  | refl => exact hsuperseded
  | tail turns turn ih => exact supersedes_turn ih (h.turns turns).issued turn

/-- The return of a late call takes nothing away that is not pruned anyway. -/
theorem prune_returned (h : ∀ c ∈ s.calls, c.id = id → s.isLate c) (result : Result) :
    (s.returned id result).prune = s.prune := by
  have hcalls : (s.calls.filter (·.id != id)).filter (!s.isLate ·) = s.calls.filter (!s.isLate ·) := by
    rw [List.filter_filter]
    refine List.filter_congr fun c hc => ?_
    by_cases hid : c.id = id
    · simp [h c hc hid]
    · simp [hid]
  have hreplies : ((s.calls.filter fun c => c.id == id && !c.expired).map
      fun c => (⟨c.id, result⟩ : Reply)).filter (!s.supersedes ·.id) = [] := by
    refine List.filter_eq_nil_iff.mpr fun reply hreply => ?_
    obtain ⟨c, hc, rfl⟩ := List.mem_map.mp hreply
    simp only [List.mem_filter, Bool.and_eq_true, beq_iff_eq, Bool.not_eq_true'] at hc
    obtain ⟨hmem, hid, hexpired⟩ := hc
    have hlate := h c hmem hid
    simpa [isLate, hexpired] using hlate
  show ({ s.prune with
      calls := (s.calls.filter (·.id != id)).filter (!s.isLate ·)
      replies := (s.replies ++ _).filter (!s.supersedes ·.id) } : Session) = s.prune
  rw [List.filter_append, hcalls, hreplies, List.append_nil]
  rfl

theorem returned_ignoresLate (id : RequestId) (result : Result) :
    IgnoresLate fun s => s.returned id result where
  tracked s hs := hs
  prune_eq _ _ := prune_calls (filter_pruned _) (fun c hc => by simp_all) fun _ => rfl

/-! ### Courses -/

/-- A millisecond that goes by does not look at what is late. -/
theorem tick_ignoresLate : IgnoresLate (step env · (.advance 1)) := by
  have hlater : IgnoresLate fun s : Session => { s with clock := s.clock + 1 } :=
    .of_prune (fun _ hs => hs) fun _ => rfl
  have htick : IgnoresLate fun s : Session => ({ s with clock := s.clock + 1 }.settle env).settle env :=
    settle_ignoresLate.comp (settle_ignoresLate.comp hlater)
  convert htick using 2 with s
  rw [step, take, advance_one, elapse]

theorem does_event_congr (hs : Reached env saved maySave s) (ht : Reached env saved maySave t)
    (h : s.prune = t.prune) (event : Event) :
    (s.step env (.event event)).prune = (t.step env (.event event)).prune := by
  have heditor : s.prune.editor = t.prune.editor := congrArg Session.editor h
  cases he : s.editor with
  | none =>
      have he' : t.editor = none := by simpa [prune, he] using heditor.symm
      simpa only [step, take, he, he'] using settle_ignoresLate.congr hs.tracked ht.tracked h
  | some e =>
      obtain ⟨e', he', hsame⟩ : ∃ e', t.editor = some e' ∧
          ({ e' with inFlight := none } : Editor) = { e with inFlight := none } := by
        simpa [prune, he] using heditor.symm
      have hhandled : (s.handle env e event).prune = (t.handle env e' event).prune := by
        rw [prune_handle (hs.singleFlight e he), prune_handle (ht.singleFlight e' he'), h, hsame]
      simpa only [step, take, he, he'] using
        settle_ignoresLate.congr (hs.tracked.event he event) (ht.tracked.event he' event) hhandled

/-- **A deed** does not look at what is late. -/
theorem does_congr (hs : Reached env saved maySave s) (ht : Reached env saved maySave t)
    (h : s.prune = t.prune) (deed : Deed) : (s.does env deed).prune = (t.does env deed).prune := by
  cases deed with
  | event event => exact does_event_congr hs ht h event
  | tick => exact tick_ignoresLate.congr hs.tracked ht.tracked h
  | returns id result =>
      exact (settle_ignoresLate.comp (returned_ignoresLate id result)).congr hs.tracked ht.tracked h
  | closeSignals =>
      have hclose : IgnoresLate fun s : Session => { s with listening := false } :=
        .of_prune (fun _ hs => hs) fun _ => rfl
      exact (settle_ignoresLate.comp hclose).congr hs.tracked ht.tracked h
  | kill =>
      have hkill : IgnoresLate fun s : Session => { s with editor := none } :=
        .of_prune (fun _ _ => nofun) fun _ => rfl
      exact (settle_ignoresLate.comp hkill).congr hs.tracked ht.tracked h

/-- The return of a late call changes nothing but what is late. -/
theorem prune_does_late (hs : Reached env saved maySave s) (still : s.Still)
    (hlate : s.isLateReturn deed) : (s.does env deed).prune = s.prune := by
  cases deed with
  | returns id result =>
      have hcalls : ∀ c ∈ s.calls, c.id = id → s.isLate c := by
        simpa [isLateReturn, or_iff_not_imp_left] using hlate
      have htracked : (s.returned id result).Tracked := hs.tracked
      calc ((s.returned id result).settle env).prune
          = (s.settle env).prune :=
            settle_ignoresLate.congr htracked hs.tracked (prune_returned hcalls result)
        _ = s.prune := by rw [settle_of_still still]
  | event | tick | closeSignals | kill => cases hlate

/-- What deeds make a session tell, one after the other. -/
def reports (env : Setting) (s : Session) : List Deed → List (Deed × List Signal)
  | [] => []
  | deed :: deeds =>
      let next := s.does env deed
      (deed, next.signalsSince s.journal.length) :: reports env next deeds

theorem journal_eq_of_prune (h : s.prune = t.prune) : s.journal = t.journal :=
  (congrArg Session.journal h : s.prune.journal = t.prune.journal)

theorem signalsSince_congr (h : s.journal = t.journal) (past : Nat) :
    s.signalsSince past = t.signalsSince past := by
  simp [signalsSince, signals, h]

/-- **The course of a run** decides what it tells, and the session it ends in but for what is
late. -/
theorem course_eq (deeds : List Deed) : ∀ {s t : Session}, Reached env saved maySave s →
    Reached env saved maySave t → s.Still → t.Still → s.prune = t.prune →
    course env s deeds = reports env t ((course env s deeds).map Prod.fst) ∧
      (deeds.foldl (does env) s).prune =
        (((course env s deeds).map Prod.fst).foldl (does env) t).prune := by
  induction deeds with
  | nil => exact fun _ _ _ _ h => ⟨rfl, h⟩
  | cons deed deeds ih =>
      intro s t hs ht still still' h
      have hs' := does_reached hs still deed
      cases hlate : s.isLateReturn deed with
      | true =>
          have hsame := (prune_does_late hs still hlate).trans h
          simpa [course, hlate] using ih hs' ht (does_still env s deed) still' hsame
      | false =>
          have hsame := does_congr hs ht h deed
          have hrest := ih hs' (does_reached ht still' deed) (does_still env s deed)
            (does_still env t deed) hsame
          have htold := signalsSince_congr (journal_eq_of_prune hsame) t.journal.length
          simp only [course, hlate, Bool.false_eq_true, if_false, List.map_cons, List.foldl_cons,
            reports, journal_eq_of_prune h]
          refine ⟨?_, hrest.2⟩
          rw [htold, ← hrest.1]

/-! ### The theorem -/

/-- **Late calls are unobservable.**  Take any session that is reached in any run, in which calls may
return anything, and a call of it that is late: its text was changed since, or it was given up.

Whenever the call returns from then on, and whatever it returns, the session is left as it was but
for what is pruned: it has told and asked nothing, its draft and the waiting request are the same, and
so are all calls and replies that still count, with their deadlines and results.  Nor does the reply
of a call that was not given up yet change any of this, whenever it is received.

So two runs with the same course, which do the same things in the same order except that late calls
return at other times, with other results or never, tell the same after each of the things they do,
and end in sessions that are the same but for what is pruned, with one journal and one draft.

Every run of steps is such a run. -/
theorem late_calls_unobservable :
    (∀ s c t result, Reached env saved maySave s → c ∈ s.calls → s.isLate c →
      ReflTransGen (Turn env) s t →
        (t.returned c.id result).prune = t.prune ∧
          (c.expired = false → (t.receive ⟨c.id, result⟩).prune = t.prune)) ∧
    (∀ deeds deeds',
      (course env (after env saved maySave []) deeds).map Prod.fst =
        (course env (after env saved maySave []) deeds').map Prod.fst →
      course env (after env saved maySave []) deeds = course env (after env saved maySave []) deeds' ∧
        (deeds.foldl (does env) (after env saved maySave [])).prune =
          (deeds'.foldl (does env) (after env saved maySave [])).prune) ∧
    ∀ steps, after env saved maySave steps =
      (deedsOfSteps env (after env saved maySave []) steps).foldl (does env)
        (after env saved maySave []) := by
  have hopened : Reached env saved maySave (after env saved maySave []) := reached_after []
  have still : (after env saved maySave []).Still := after_still []
  refine ⟨?_, ?_, ?_⟩
  · intro s c t result hs hc hlate turns
    have hspent : t.Spent c.id := (hs.spent hc hlate).turns turns
    refine ⟨prune_returned hspent.isLate result, fun hexpired => ?_⟩
    have hsuperseded : s.supersedes c.id := by simpa [isLate, hexpired] using hlate
    have ht : Reached env saved maySave t := hs.trans turns
    exact prune_receive_superseded ht.tracked
      (supersedes_turns hsuperseded (hs.spent hc hlate) turns)
  · intro deeds deeds' hcourse
    obtain ⟨htold, hends⟩ := course_eq deeds hopened hopened still still rfl
    obtain ⟨htold', hends'⟩ := course_eq deeds' hopened hopened still still rfl
    rw [← hcourse] at htold' hends'
    exact ⟨htold.trans htold'.symm, hends.trans hends'.symm⟩
  · intro steps
    rw [← foldl_step steps hopened still, ← after_append, List.nil_append]

end

/-! ### A call that fails late -/

/-- The settled session that opens with a saved query, the call on which is held. -/
def heldSession : Session :=
  after (accepting (· == "a")) (some ⟨"name", "a"⟩) true []

/-- The call on the saved query. -/
def heldCall : Call :=
  Call.make (accepting (· == "a")) 0 { draft := openedDraft ⟨"name", "a"⟩ true } 1

/-- The text is changed, and the new query is to be run. -/
def retypingDeeds : List Deed :=
  [.event (.textChanged "b" 1), .event .execute]

/-- The same, and the call on the saved query fails in between. -/
def failingDeeds : List Deed :=
  [.event (.textChanged "b" 1), .returns 1 .failed, .event .execute]

/-- Once the text is changed, the call on the saved query may return anything; and that it fails
leaves no trace in the journal. -/
theorem late_calls_unobservable_failed :
    (∀ result, ((heldSession.does (accepting (· == "a")) (.event (.textChanged "b" 1))).returned
        heldCall.id result).prune =
      (heldSession.does (accepting (· == "a")) (.event (.textChanged "b" 1))).prune) ∧
    (failingDeeds.foldl (does (accepting (· == "a"))) heldSession).journal =
      (retypingDeeds.foldl (does (accepting (· == "a"))) heldSession).journal := by
  obtain ⟨hlate, hcourse, -⟩ :=
    @late_calls_unobservable (accepting (· == "a")) (some ⟨"name", "a"⟩) true
  have hreached : Reached (accepting (· == "a")) (some ⟨"name", "a"⟩) true
      (heldSession.does (accepting (· == "a")) (.event (.textChanged "b" 1))) :=
    does_reached (reached_after []) (after_still []) _
  have hcall : heldCall ∈
      (heldSession.does (accepting (· == "a")) (.event (.textChanged "b" 1))).calls := by
    decide +kernel
  have hcourses : (course (accepting (· == "a")) heldSession failingDeeds).map Prod.fst =
      (course (accepting (· == "a")) heldSession retypingDeeds).map Prod.fst := by
    decide +kernel
  exact ⟨fun result => (hlate _ _ _ result hreached hcall (by decide +kernel) .refl).1,
    journal_eq_of_prune (hcourse failingDeeds retypingDeeds hcourses).2⟩

end Session
end FilterEditor
