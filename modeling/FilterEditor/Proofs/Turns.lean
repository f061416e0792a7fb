import FilterEditor.Proofs.Replies
import Mathlib.Data.List.Nodup

/-!
# Proofs — Turns

Sessions in which calls return one by one, under their ids, with any result: what the oracle says, or
that it failed.  A *turn* is a move or such a return, and a session is *reached* by turns (`Reached`).
More sessions are reached than arise with a given oracle.

* `Reached.singleFlight` and `Reached.distinct`: the last id is outstanding once at most, and no two
  calls bear one id.
* `calls_turn` and `editor_turn`: what a turn makes of the calls and of the editor.

A run is taken apart into *deeds* (`Deed`): the session settles after each, and time goes by a
millisecond at a time.  Every run of steps is a run of deeds (`foldl_step`).
-/

namespace FilterEditor

/-- One thing done to a session from outside, while it settles after each. -/
inductive Deed where
  | event (event : Event)
  /-- A millisecond goes by. -/
  | tick
  /-- The call under an id returns. -/
  | returns (id : RequestId) (result : Result)
  | closeSignals
  | kill
deriving DecidableEq, Repr

namespace Session
open Relation

/-! ### Calls that return anything -/

/-- The call under an id returns with a result.  It replies unless it was given up. -/
def returned (s : Session) (id : RequestId) (result : Result) : Session :=
  { s with
    calls := s.calls.filter (·.id != id)
    replies := s.replies ++
      (s.calls.filter fun c => c.id == id && !c.expired).map fun c => ⟨c.id, result⟩ }

/-- A move, or the return of a call with any result. -/
inductive Turn (env : Setting) : Session → Session → Prop where
  | move {s s' : Session} (h : Move env s s') : Turn env s s'
  | returns (s : Session) (id : RequestId) (result : Result) : Turn env s (s.returned id result)

/-- The session is reached in some run, in which calls may return anything. -/
def Reached (env : Setting) (saved : Option SavedFilter) (maySave : Bool) (s : Session) : Prop :=
  ReflTransGen (Turn env) (start env (.opening saved maySave)) s

section
variable {env : Setting} {saved : Option SavedFilter} {maySave : Bool} {s s' : Session}
  {e : Editor} {id : RequestId} {result : Result}

theorem turns_of_moves (h : ReflTransGen (Move env) s s') : ReflTransGen (Turn env) s s' :=
  ReflTransGen.mono (fun _ _ => Turn.move) _ _ h

theorem mem_of_returned {c : Call} (hc : c ∈ (s.returned id result).calls) : c ∈ s.calls :=
  (List.mem_filter.mp hc).1

/-- A call that returns is outstanding until its reply is received. -/
theorem outstanding_returned (s : Session) (id : RequestId) (result : Result) :
    (s.returned id result).outstanding.Perm s.outstanding := by
  let live := s.calls.filter (!·.expired)
  have hkept : (s.calls.filter (·.id != id)).filter (!·.expired) = live.filter (·.id != id) := by
    simp only [live, List.filter_filter, Bool.and_comm]
  have hgone : s.calls.filter (fun c => c.id == id && !c.expired) =
      live.filter fun c => !(c.id != id) := by
    simp only [live, List.filter_filter, bne, Bool.not_not]
  have hsplit : (live.filter (·.id != id) ++ live.filter fun c => !(c.id != id)).Perm live :=
    List.filter_append_perm (·.id != id) live
  calc (s.returned id result).outstanding
      = (live.filter (·.id != id)).map (·.id) ++ (s.replies.map (·.id) ++
          (live.filter fun c => !(c.id != id)).map (·.id)) := by
        simp only [outstanding, returned, hkept, hgone, List.map_append, List.map_map]
        rfl
    List.Perm _ ((live.filter (·.id != id) ++ live.filter fun c => !(c.id != id)).map (·.id) ++
          s.replies.map (·.id)) := by
        rw [List.map_append, List.append_assoc]
        exact List.perm_append_comm.append_left _
    List.Perm _ s.outstanding := (hsplit.map _).append_right _

theorem SingleFlight.returned (h : SingleFlight s e) : SingleFlight (s.returned id result) e := by
  refine h.of_perm (outstanding_returned s id result)
    (fun c hc => continues_of_mem (mem_of_returned hc)) fun reply hreply => ?_
  rcases List.mem_append.mp hreply with hreply | hreply
  · exact h.replies_le reply hreply
  · obtain ⟨c, hc, rfl⟩ := List.mem_map.mp hreply
    exact h.calls_le c (List.mem_filter.mp hc).1

theorem Reached.singleFlight (hs : Reached env saved maySave s) :
    ∀ e, s.editor = some e → SingleFlight s e := by
  induction hs with
  | refl => exact fun e he => .start he
  | tail _ turn ih =>
      cases turn with
      | move move => exact singleFlight_move move ih
      | returns => exact fun e he => (ih e he).returned

/-! ### One call to an id -/

/-- No two calls bear one id, and none bears that of the request that waits. -/
structure Distinct (s : Session) : Prop where
  nodup : (s.calls.map (·.id)).Nodup
  unsent : ∀ p, s.editor.map (·.pending) = some (some p) → ∀ c ∈ s.calls, c.id ≠ p.id

/-- Calls that end leave the others distinct. -/
theorem Distinct.of_sublist (h : s.Distinct)
    (hcalls : (s'.calls.map (·.id)).Sublist (s.calls.map (·.id)))
    (hpending : ∀ p, s'.editor.map (·.pending) = some (some p) →
      s.editor.map (·.pending) = some (some p)) : s'.Distinct where
  nodup := h.nodup.sublist hcalls
  unsent p hp c hc := by
    obtain ⟨d, hd, hid⟩ := List.mem_map.mp (hcalls.subset (List.mem_map_of_mem hc))
    exact hid ▸ h.unsent p (hpending p hp) d hd

/-- Nothing is asked, and no request comes to wait. -/
theorem Distinct.congr (h : s.Distinct) (hcalls : s'.calls = s.calls)
    (hpending : ∀ p, s'.editor.map (·.pending) = some (some p) →
      s.editor.map (·.pending) = some (some p)) : s'.Distinct :=
  h.of_sublist (hcalls ▸ List.Sublist.refl _) hpending

theorem Distinct.send (h : s.Distinct) (he : s.editor = some e)
    (hdue : e.due? s.clock = some id) : (s.ask env e id).Distinct where
  nodup := by
    obtain ⟨p, hp, -, rfl⟩ := Editor.due?_eq_some.mp hdue
    have hunsent : ∀ c ∈ s.calls, c.id ≠ p.id := h.unsent p (by rw [he, Option.map_some, hp])
    have hnew : p.id ∉ s.calls.map (·.id) := by
      intro hmem
      obtain ⟨c, hc, hid⟩ := List.mem_map.mp hmem
      exact hunsent c hc hid
    show ((s.calls ++ [Call.make env s.clock e p.id]).map (·.id)).Nodup
    rw [List.map_append]
    exact List.nodup_append.mpr ⟨h.nodup, by simp, fun _ hmem _ hlast heq => hnew (by
      rw [List.map_singleton, List.mem_singleton] at hlast
      rwa [heq, hlast] at hmem)⟩
  unsent p hp := by cases hp

theorem Distinct.event (h : s.Distinct) (hflight : SingleFlight s e) (he : s.editor = some e)
    (event : Event) : (s.handle env e event).Distinct := by
  rcases s.handle_cases env e event with hs | ⟨text, cursor, -, -, hs⟩ | ⟨cursor, -, hs⟩ |
      ⟨name, -, hs⟩ | ⟨signal, -, hs, -⟩ <;> rw [hs]
  · exact h.congr rfl nofun
  -- the new request bears a new id
  · refine ⟨by simpa using h.nodup, fun p hp c hc => ?_⟩
    rw [become_editor] at hp
    cases hp
    exact Nat.ne_of_lt (Nat.lt_succ_of_le (hflight.calls_le c (by simpa using hc)))
  · exact h.congr (by simp) (by simp)
  · exact h.congr (by simp) (by simp [he])
  · exact h.congr (by simp) (by simp [he])

theorem Distinct.move (h : s.Distinct) (hflight : ∀ e, s.editor = some e → SingleFlight s e)
    (move : Move env s s') : s'.Distinct := by
  cases move with
  | inner move =>
      cases move with
      | pass => exact h.congr rfl fun _ hp => hp
      | expire hcalls => exact h.of_sublist (by simp [hcalls]) fun _ hp => hp
      | collect hcalls => exact h.of_sublist (by simp [hcalls]) fun _ hp => hp
      | receive =>
          obtain ⟨hcalls, -, -, -, hpending⟩ := receive_keeps _ _
          exact h.congr hcalls fun p hp => hpending.symm.trans hp
      | send he hdue => exact h.send he hdue
  | event he event => exact h.event (hflight _ he) he event
  | release id =>
      have hids : (s.release id).calls.map (·.id) = s.calls.map (·.id) := by
        rw [release, List.map_map]
        exact List.map_congr_left fun c _ => by simp only [Function.comp_apply]; split <;> rfl
      exact h.of_sublist (hids ▸ List.Sublist.refl _) fun _ hp => hp
  | closeSignals => exact h.congr rfl fun _ hp => hp
  | kill => exact h.congr rfl fun _ hp => by cases hp

theorem Distinct.start : (Session.start env (.opening saved maySave)).Distinct := by
  rcases start_cases env saved maySave with ⟨-, hs⟩ | ⟨filter, -, -, hs⟩ <;> rw [hs]
  · exact ⟨List.nodup_nil, nofun⟩
  · exact ⟨by simp, nofun⟩

theorem Reached.distinct (hs : Reached env saved maySave s) : s.Distinct := by
  induction hs with
  | refl => exact .start
  | tail hs turn ih =>
      cases turn with
      | move move => exact ih.move (Reached.singleFlight hs) move
      | returns =>
          exact ih.of_sublist (List.filter_sublist.map _) fun _ hp => hp

/-! ### What a turn leaves -/

/-- A turn leaves of the calls what they were, and adds none but that of the request that waits. -/
theorem calls_turn (turn : Turn env s s') :
    ∀ c ∈ s'.calls, (∃ d ∈ s.calls, c.Continues d) ∨
      ∃ p, s.editor.map (·.pending) = some (some p) ∧ c.id = p.id := by
  intro c hc
  cases turn with
  | returns => exact .inl (continues_of_mem (mem_of_returned hc))
  | move move =>
      cases move with
      | inner move =>
          cases move with
          | pass => exact .inl (continues_of_mem hc)
          | expire hcalls => exact .inl (continues_expire hcalls c hc)
          | collect hcalls => exact .inl (continues_collect hcalls c hc)
          | receive =>
              rw [(receive_keeps _ _).1] at hc
              exact .inl (continues_of_mem hc)
          | send he hdue =>
              obtain ⟨p, hp, -, rfl⟩ := Editor.due?_eq_some.mp hdue
              rcases List.mem_append.mp hc with hc | hc
              · exact .inl (continues_of_mem hc)
              · rw [List.mem_singleton.mp hc]
                exact .inr ⟨p, by rw [he, Option.map_some, hp], rfl⟩
      | event =>
          rw [(handle_keeps ..).1] at hc
          exact .inl (continues_of_mem hc)
      | release id => exact .inl (continues_release c hc)
      | closeSignals | kill => exact .inl (continues_of_mem hc)

/-- A turn issues no id and makes no request wait, or it issues the next id, for the request that
waits from then on. -/
theorem editor_turn (turn : Turn env s s') {e' : Editor} (he' : s'.editor = some e') :
    ∃ e, s.editor = some e ∧
      (e'.draft.issued = e.draft.issued ∧ (∀ p, e'.pending = some p → e.pending = some p) ∨
        e'.draft.issued = e.draft.issued + 1 ∧
          ∀ p, e'.pending = some p → p.id = e.draft.issued + 1) := by
  cases turn with
  | returns => exact ⟨e', he', .inl ⟨rfl, fun _ hp => hp⟩⟩
  | move move =>
      cases move with
      | inner move =>
          cases move with
          | pass | expire | collect => exact ⟨e', he', .inl ⟨rfl, fun _ hp => hp⟩⟩
          | receive =>
              obtain ⟨e, he, rfl⟩ := receive_inv he'
              refine ⟨e, he, .inl ⟨(e.receive_draft _).1, fun p hp => ?_⟩⟩
              rwa [e.receive_pending] at hp
          | send he =>
              cases he'
              exact ⟨_, he, .inl ⟨rfl, nofun⟩⟩
      | event he =>
          refine ⟨_, he, ?_⟩
          rcases handle_inv he' with ⟨text, cursor, -, -, rfl, -⟩ | ⟨cursor, -, rfl, -⟩ |
              ⟨name, -, rfl, -⟩ | ⟨signal, -, rfl, -⟩
          · exact .inr ⟨rfl, fun p hp => by cases hp; rfl⟩
          · exact .inr ⟨rfl, nofun⟩
          · exact .inl ⟨rfl, fun _ hp => hp⟩
          · exact .inl ⟨rfl, fun _ hp => hp⟩
      | release | closeSignals => exact ⟨e', he', .inl ⟨rfl, fun _ hp => hp⟩⟩
      | kill => cases he'

end

/-! ### Deeds -/

/-- The session after a deed, settled. -/
def does (env : Setting) (s : Session) : Deed → Session
  | .event event => s.step env (.event event)
  | .tick => s.step env (.advance 1)
  | .returns id result => (s.returned id result).settle env
  | .closeSignals => s.step env .closeSignals
  | .kill => s.step env .kill

/-- The deeds that a step comes to. -/
def deedsOf (env : Setting) (s : Session) : Step → List Deed
  | .event event => [.event event]
  | .advance ms => List.replicate ms .tick
  | .release text =>
      match s.heldCall? text with
      | some c => [.returns c.id (c.result env)]
      | none => []
  | .closeSignals => [.closeSignals]
  | .kill => [.kill]

/-- The deeds that steps come to, one after the other. -/
def deedsOfSteps (env : Setting) (s : Session) : List Step → List Deed
  | [] => []
  | st :: steps => s.deedsOf env st ++ deedsOfSteps env (s.step env st) steps

section
variable {env : Setting} {saved : Option SavedFilter} {maySave : Bool} {s : Session} {c : Call}

theorem advance_one (s : Session) : advance env 1 s = s.elapse env 1 := by
  have hpause : s.pause 1 = 1 := Nat.le_antisymm (pause_le Nat.one_pos) (s.pause_pos 1)
  rw [advance_pos env Nat.one_pos, hpause, Nat.sub_self, advance_zero]

theorem does_still (env : Setting) (s : Session) (deed : Deed) : (s.does env deed).Still := by
  cases deed <;> exact settle_still env _

theorem does_turns (still : s.Still) (deed : Deed) :
    ReflTransGen (Turn env) s (s.does env deed) := by
  cases deed with
  | returns id result =>
      exact .head (.returns s id result) (turns_of_moves (moves_of_inner (settle_moves env _)))
  | event | tick | closeSignals | kill => exact turns_of_moves (step_moves still _)

theorem does_reached (hs : Reached env saved maySave s) (still : s.Still) (deed : Deed) :
    Reached env saved maySave (s.does env deed) :=
  hs.trans (does_turns still deed)

/-- Time may be let go by a millisecond at a time. -/
theorem foldl_tick (still : s.Still) (ms : Nat) :
    (List.replicate ms Deed.tick).foldl (does env) s = advance env ms s := by
  induction ms generalizing s with
  | zero => rw [advance_zero]; rfl
  | succ ms ih =>
      have hstill : (advance env 1 s).Still := (advance_moves 1 still).2.1
      have htick : s.does env .tick = advance env 1 s := settle_of_still hstill
      rw [List.replicate_succ, List.foldl_cons, htick, ih hstill, Nat.add_comm ms 1,
        advance_add 1 ms still]

/-- The other calls of a session bear other ids than one of its calls. -/
theorem Distinct.split (h : s.Distinct) (hc : c ∈ s.calls) :
    ∃ front back, s.calls = front ++ c :: back ∧ ∀ d ∈ front ++ back, d.id ≠ c.id := by
  obtain ⟨front, back, hcalls⟩ := List.append_of_mem hc
  have hnodup := h.nodup
  rw [hcalls, List.map_append, List.map_cons, List.nodup_middle, List.nodup_cons,
    ← List.map_append] at hnodup
  exact ⟨front, back, hcalls, fun d hd hid => hnodup.1 (hid ▸ List.mem_map_of_mem hd)⟩

theorem release_eq {front back : List Call} (hcalls : s.calls = front ++ c :: back)
    (hother : ∀ d ∈ front ++ back, d.id ≠ c.id) :
    s.release c.id = { s with calls := front ++ { c with held := false } :: back } := by
  obtain ⟨hfront, hback⟩ := List.forall_mem_append.mp hother
  have hkept : ∀ {calls : List Call}, (∀ d ∈ calls, d.id ≠ c.id) →
      calls.map (fun d => if d.id = c.id then { d with held := false } else d) = calls :=
    fun h => (List.map_congr_left fun d hd => if_neg (h d hd)).trans (List.map_id' _)
  simp [release, hcalls, hkept hfront, hkept hback]

theorem returned_eq {front back : List Call} (hcalls : s.calls = front ++ c :: back)
    (hother : ∀ d ∈ front ++ back, d.id ≠ c.id) (result : Result) :
    s.returned c.id result =
      { s with
        calls := front ++ back
        replies := s.replies ++ if c.expired then [] else [⟨c.id, result⟩] } := by
  obtain ⟨hfront, hback⟩ := List.forall_mem_append.mp hother
  have hkept : ∀ {calls : List Call}, (∀ d ∈ calls, d.id ≠ c.id) →
      calls.filter (·.id != c.id) = calls :=
    fun h => List.filter_eq_self.mpr fun d hd => by simp [h d hd]
  have hnone : ∀ {calls : List Call}, (∀ d ∈ calls, d.id ≠ c.id) →
      calls.filter (fun d => d.id == c.id && !d.expired) = [] :=
    fun h => List.filter_eq_nil_iff.mpr fun d hd => by simp [h d hd]
  cases hexpired : c.expired <;>
    simp [returned, hcalls, hkept hfront, hkept hback, hnone hfront, hnone hback, hexpired]

/-- A held call that is released is taken off the calls, and replies what the oracle says. -/
theorem collect_release (held : ∀ d ∈ s.calls, d.held) (hdistinct : s.Distinct) (hc : c ∈ s.calls) :
    (s.release c.id).collect env = (s.returned c.id (c.result env)).collect env := by
  obtain ⟨front, back, hcalls, hother⟩ := hdistinct.split hc
  have hrest : ∀ d ∈ front ++ back, d.held := by
    intro d hd
    refine held d ?_
    rw [hcalls, List.perm_middle.mem_iff]
    exact List.mem_cons_of_mem c hd
  obtain ⟨hfront, hback⟩ := List.forall_mem_append.mp hrest
  have hkept : ∀ {calls : List Call}, (∀ d ∈ calls, d.held) → calls.filter (·.held) = calls :=
    fun h => List.filter_eq_self.mpr h
  have hnone : ∀ {calls : List Call}, (∀ d ∈ calls, d.held) →
      calls.filter (fun d => !d.held && !d.expired) = [] :=
    fun h => List.filter_eq_nil_iff.mpr fun d hd => by simp [h d hd]
  rw [release_eq hcalls hother, returned_eq hcalls hother]
  cases c.expired <;>
    simp [collect, hkept hfront, hkept hback, hnone hfront, hnone hback, Call.result]

/-- A held call that is released returns what the oracle says. -/
theorem settle_release (still : s.Still) (hdistinct : s.Distinct) (hc : c ∈ s.calls) :
    (s.release c.id).settle env = (s.returned c.id (c.result env)).settle env := by
  have hreleased : (s.release c.id).expire = s.release c.id := by
    refine expire_of_not_overdue fun d hd => ?_
    obtain ⟨d', hd', rfl⟩ := List.mem_map.mp hd
    have hdue := still.not_overdue d' hd'
    split <;> exact hdue
  have hreturned : (s.returned c.id (c.result env)).expire = s.returned c.id (c.result env) :=
    expire_of_not_overdue fun d hd => still.not_overdue d (mem_of_returned hd)
  have hexchange : (s.release c.id).exchange env = (s.returned c.id (c.result env)).exchange env := by
    rw [exchange, exchange, hreleased, hreturned, collect_release still.held hdistinct hc]
  rw [settle, settle, hexchange]

/-- A step is the deeds that it comes to. -/
theorem step_eq (still : s.Still) (hdistinct : s.Distinct) (st : Step) :
    s.step env st = (s.deedsOf env st).foldl (does env) s := by
  cases st with
  | event | closeSignals | kill => rfl
  | advance ms =>
      rw [deedsOf, foldl_tick still]
      exact settle_of_still (advance_moves ms still).2.1
  | release text =>
      cases hc : s.heldCall? text with
      | none => simpa only [step, take, deedsOf, hc, List.foldl_nil] using settle_of_still still
      | some c =>
          have hmem : c ∈ s.calls := List.mem_of_find?_eq_some hc
          simpa only [step, take, deedsOf, hc, List.foldl_cons, List.foldl_nil, does] using
            settle_release still hdistinct hmem

/-- **Every run of steps** is a run of deeds. -/
theorem foldl_step (steps : List Step) : ∀ {s : Session}, Reached env saved maySave s → s.Still →
    steps.foldl (step env) s = (deedsOfSteps env s steps).foldl (does env) s := by
  induction steps with
  | nil => exact fun _ _ => rfl
  | cons st steps ih =>
      intro s hs still
      have hnext : Reached env saved maySave (s.step env st) :=
        hs.trans (turns_of_moves (step_moves still st))
      rw [List.foldl_cons, ih hnext (settle_still env _), deedsOfSteps, List.foldl_append,
        ← step_eq still hs.distinct]

theorem reached_after (steps : List Step) :
    Reached env saved maySave (after env saved maySave steps) :=
  turns_of_moves (arises_after steps)

end
end Session
end FilterEditor
