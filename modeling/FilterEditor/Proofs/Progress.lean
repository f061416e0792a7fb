import FilterEditor.Proofs.History
import Mathlib.Logic.Basic

/-!
# Proofs — Progress

A session does not hang while it waits for an answer.

* `Arises.validating_iff`: in a settled session, a query is being validated just if its request
  waits to be sent, or was sent and its call neither returned nor was given up.
* `Arises.clock_lt_of_validating`: either way that ends by the debounce time and the time of a call
  after the last change of the text (`Dated`).
* `innerMoves_unmoved`: after that, nothing that happens by itself changes the draft, says anything
  or asks anything (`Unmoved`).

`validating_ends` puts them together for runs.
-/

namespace FilterEditor
namespace Session
open Relation Journal

/-! ### Deadlines -/

/-- A request that waits, and a call under the last id, are bound by the time of the last change. -/
structure Dated (env : Setting) (s : Session) (e : Editor) (time : Nat) : Prop where
  due : ∀ p, e.pending = some p → p.due ≤ time + env.timing.debounceMs
  deadline : ∀ c ∈ s.calls, c.id = e.draft.issued →
    c.deadline ≤ time + env.timing.debounceMs + env.timing.oracleTimeoutMs

section
variable {env : Setting} {saved : Option SavedFilter} {maySave : Bool} {s s' : Session}
  {e e' : Editor} {time : Nat}

theorem Dated.congr (h : Dated env s e time)
    (hcalls : ∀ c ∈ s'.calls, ∃ d ∈ s.calls, c.Continues d)
    (hissued : e'.draft.issued = e.draft.issued) (hpending : e'.pending = e.pending) :
    Dated env s' e' time where
  due p hp := h.due p (hpending ▸ hp)
  deadline c hc hid := by
    obtain ⟨d, hd, hcontinues⟩ := hcalls c hc
    rw [hcontinues.deadline]
    exact h.deadline d hd (hcontinues.id.symm.trans (hid.trans hissued))

/-- A call is made when its request falls due, and not later. -/
theorem Dated.send (h : Dated env s e time) (htimely : Timely env s) (he : s.editor = some e)
    {p : Pending} (hp : e.pending = some p) (id : RequestId) :
    Dated env (s.ask env e id) (e.sent id) time where
  due p hp := nomatch hp
  deadline c hc hid := by
    rcases List.mem_append.mp hc with hc | hc
    · exact h.deadline c hc hid
    · rw [List.mem_singleton.mp hc]
      have hclock : s.clock ≤ time + env.timing.debounceMs :=
        Nat.le_trans (htimely.le_due e p he hp) (h.due p hp)
      exact Nat.add_le_add_right hclock _

/-- A new request waits no longer than the debounce time, and no call bears its id yet. -/
theorem Dated.retype (hflight : SingleFlight s e) (text : String) (cursor : Nat)
    (hcalls : s'.calls = s.calls) :
    Dated env s'
      { e with
        draft := e.draft.retyped text cursor
        pending := some (e.schedule env.timing s.clock (e.draft.issued + 1)) } s.clock where
  due p hp := by
    obtain rfl := Option.some.inj hp
    exact (e.schedule_due env.timing s.clock _).2
  deadline c hc hid := by
    have hle := hflight.calls_le c (hcalls ▸ hc)
    rw [hid] at hle
    exact absurd hle (Nat.not_succ_le_self _)

theorem Dated.clear (hflight : SingleFlight s e) (cursor : Nat) (hcalls : s'.calls = s.calls) :
    Dated env s' { e with draft := e.draft.cleared cursor, pending := none } time where
  due p hp := nomatch hp
  deadline c hc hid := by
    have hle := hflight.calls_le c (hcalls ▸ hc)
    rw [hid] at hle
    exact absurd hle (Nat.not_succ_le_self _)

/-- Nothing under way outlasts the last change for longer than it may. -/
def AllDated (env : Setting) (s : Session) : Prop :=
  ∀ e edit, s.editor = some e → lastEdit? s.journal = some edit → Dated env s e edit.time

theorem AllDated.event (h : AllDated env s) (hflight : SingleFlight s e) (he : s.editor = some e)
    (event : Event) : AllDated env (s.handle env e event) := by
  intro e' edit he' hedit
  rcases handle_inv he' with ⟨text, cursor, -, -, rfl, hs⟩ | ⟨cursor, -, rfl, hs⟩ |
      ⟨name, -, rfl, hs⟩ | ⟨signal, -, rfl, hs⟩ <;> rw [hs] at hedit ⊢ <;> rw [lastEdit?_become] at hedit
  · obtain rfl := Option.some.inj hedit
    exact .retype hflight text cursor (by simp)
  · exact .clear hflight cursor (by simp)
  · exact (h e edit he hedit).congr (fun c hc => continues_of_mem (by simpa using hc)) rfl rfl
  · exact (h _ edit he hedit).congr (fun c hc => continues_of_mem (by simpa using hc)) rfl rfl

theorem AllDated.innerMove (h : AllDated env s) (hs : Arises env saved maySave s)
    (move : InnerMove env s s') : AllDated env s' := by
  intro e' edit he' hedit
  rw [lastEdit?_innerMove move] at hedit
  cases move with
  | pass => exact (h e' edit he' hedit).congr (fun _ => continues_of_mem) rfl rfl
  | expire hcalls => exact (h e' edit he' hedit).congr (continues_expire hcalls) rfl rfl
  | collect hcalls => exact (h e' edit he' hedit).congr (continues_collect hcalls) rfl rfl
  | receive hreplies =>
      obtain ⟨e, he, rfl⟩ := receive_inv he'
      refine (h e edit he hedit).congr (fun c hc => ?_) (e.receive_draft _).1 (e.receive_pending _)
      rw [(receive_keeps _ _).1] at hc
      exact continues_of_mem hc
  | send he hdue =>
      cases he'
      obtain ⟨p, hp, -⟩ := Editor.due?_eq_some.mp hdue
      exact (h _ edit he hedit).send (Arises.timely hs) he hp _

theorem AllDated.start : AllDated env (Session.start env (.opening saved maySave)) := by
  intro e edit he hedit
  rcases start_cases env saved maySave with ⟨-, hs⟩ | ⟨filter, -, -, hs⟩ <;> rw [hs] at he hedit ⊢
  · cases hedit
  · cases he
    obtain rfl := Option.some.inj hedit
    refine ⟨nofun, fun c hc _ => ?_⟩
    rw [List.mem_singleton.mp hc]
    exact Nat.add_le_add_right (Nat.zero_le _) _

/-- In every session that arises, nothing under way outlasts the last change for longer than it
may. -/
theorem Arises.allDated (hs : Arises env saved maySave s) : AllDated env s := by
  induction hs with
  | refl => exact .start
  | tail hs move ih =>
      cases move with
      | inner move => exact ih.innerMove hs move
      | event he event => exact ih.event (Arises.singleFlight hs _ he) he event
      | release id =>
          exact fun e edit he hedit => (ih e edit he hedit).congr continues_release rfl rfl
      | closeSignals =>
          exact fun e edit he hedit => (ih e edit he hedit).congr (fun _ => continues_of_mem) rfl rfl
      | kill => exact fun _ _ he => nomatch he

/-! ### Waiting for an answer -/

/-- In a settled session, the answer that is awaited is that of a call which neither returned nor
was given up. -/
theorem SingleFlight.isAwaiting_iff_call (h : SingleFlight s e) (still : s.Still) :
    e.isAwaiting ↔ ∃ c ∈ s.calls, c.id = e.draft.issued ∧ c.expired = false := by
  constructor
  · intro hawaiting
    have hcount := h.count
    rw [if_pos hawaiting] at hcount
    have hmem : e.draft.issued ∈ s.outstanding :=
      List.count_pos_iff.mp (hcount ▸ Nat.zero_lt_one)
    rw [outstanding, still.replies_nil, List.map_nil, List.append_nil] at hmem
    obtain ⟨c, hc, hid⟩ := List.mem_map.mp hmem
    obtain ⟨hcall, hx⟩ := List.mem_filter.mp hc
    exact ⟨c, hcall, hid, by simpa using hx⟩
  · rintro ⟨c, hc, hid, hx⟩
    exact h.isAwaiting_of_mem (hid ▸ mem_outstanding_of_call hc hx)

/-- **While a query is validated**, its request waits to be sent, or else it is in flight and its
call neither returned nor was given up; and never otherwise. -/
theorem Arises.validating_iff (hs : Arises env saved maySave s) (still : s.Still)
    (he : s.editor = some e) :
    e.draft.validity = .validating ↔
      Xor (∃ p, e.pending = some p ∧ p.id = e.draft.issued)
        (e.pending = none ∧ e.inFlight = some e.draft.issued ∧
          ∃ c ∈ s.calls, c.id = e.draft.issued ∧ c.expired = false) := by
  have h := Arises.singleFlight hs e he
  rw [h.sound.validating_iff]
  -- a request that waits leaves its id open; without one, an open id is one that is awaited
  cases hp : e.pending with
  | some p =>
      have hopen := h.pending_open p hp
      exact ⟨fun _ => .inl ⟨⟨p, rfl, h.pending_id p hp⟩, nofun⟩, fun _ => hopen⟩
  | none =>
      have hawaiting : e.isAwaiting ↔ e.draft.applied < e.draft.issued := by
        simp [Editor.isAwaiting_iff, hp]
      rw [← hawaiting]
      constructor
      · intro hyes
        exact .inr ⟨⟨rfl, h.inFlight hyes, (h.isAwaiting_iff_call still).mp hyes⟩, nofun⟩
      · rintro (⟨⟨p, hnone, -⟩, -⟩ | ⟨⟨-, -, hcall⟩, -⟩)
        · cases hnone
        · exact (h.isAwaiting_iff_call still).mpr hcall

/-- **The wait ends** by the debounce time and the time of a call after the last change. -/
theorem Arises.clock_lt_of_validating (hs : Arises env saved maySave s) (still : s.Still)
    (he : s.editor = some e) (hvalidating : e.draft.validity = .validating) {edit : Edit}
    (hedit : lastEdit? s.journal = some edit) :
    s.clock < edit.time + env.timing.debounceMs + env.timing.oracleTimeoutMs := by
  have hdated := Arises.allDated hs e edit he hedit
  rcases (Arises.validating_iff hs still he).mp hvalidating with ⟨⟨p, hp, -⟩, -⟩ |
      ⟨⟨-, -, c, hc, hid, hx⟩, -⟩
  · have hlt := still.clock_lt p.due (mem_dueTimes.mpr (.inl ⟨e, p, he, hp, rfl⟩))
    exact Nat.lt_of_lt_of_le hlt (Nat.le_trans (hdated.due p hp) (Nat.le_add_right ..))
  · have hlt := still.clock_lt c.deadline (mem_dueTimes.mpr (.inr ⟨c, hc, hx, rfl⟩))
    exact Nat.lt_of_lt_of_le hlt (hdated.deadline c hc hid)

/-! ### At rest -/

/-- No request waits, and no answer is awaited. -/
def AtRest (s : Session) : Prop :=
  ∀ e, s.editor = some e → e.pending = none ∧ e.draft.applied = e.draft.issued

/-- Nothing was said and nothing asked, and the draft and the waiting request are the same. -/
structure Unmoved (s s' : Session) : Prop where
  journal : s'.journal = s.journal
  draft : s'.editor.map (·.draft) = s.editor.map (·.draft)
  pending : s'.editor.map (·.pending) = s.editor.map (·.pending)

theorem Unmoved.refl (s : Session) : Unmoved s s := ⟨rfl, rfl, rfl⟩

theorem Unmoved.trans {s'' : Session} (h : Unmoved s s') (h' : Unmoved s' s'') : Unmoved s s'' :=
  ⟨h'.journal.trans h.journal, h'.draft.trans h.draft, h'.pending.trans h.pending⟩

theorem Unmoved.atRest (h : Unmoved s s') (hrest : s.AtRest) : s'.AtRest := by
  intro e' he'
  obtain ⟨-, hdraft, hpending⟩ := h
  rw [he'] at hdraft hpending
  cases he : s.editor with
  | none => rw [he] at hdraft; cases hdraft
  | some e =>
      rw [he] at hdraft hpending
      obtain ⟨hnone, happlied⟩ := hrest e he
      have hsame : e'.draft = e.draft := Option.some.inj hdraft
      exact ⟨(Option.some.inj hpending).trans hnone, by rw [hsame, happlied]⟩

/-- A session is at rest just if its query is not being validated. -/
theorem Arises.atRest (hs : Arises env saved maySave s) (he : s.editor = some e)
    (hdone : e.draft.validity ≠ .validating) : s.AtRest := by
  intro e' he'
  cases he.symm.trans he'
  have h := Arises.singleFlight hs e he
  have hclosed : ¬ e.draft.applied < e.draft.issued := fun hlt =>
    hdone (h.sound.validating_iff.mpr hlt)
  refine ⟨?_, Nat.le_antisymm h.sound.applied_le (Nat.le_of_not_lt hclosed)⟩
  cases hp : e.pending with
  | none => rfl
  | some p => exact absurd (h.pending_open p hp) hclosed

/-- A reply to a session at rest is stale. -/
theorem receive_unmoved (hrest : s.AtRest) (reply : Reply) : Unmoved s (s.receive reply) := by
  cases he : s.editor with
  | none =>
      rw [receive_none he]
      exact .refl s
  | some e =>
      have hstale : ¬ e.draft.accepts reply.id := fun haccepts => by
        obtain ⟨hid, hopen⟩ := Draft.accepts_iff.mp haccepts
        rw [hid, (hrest e he).2] at hopen
        exact Nat.lt_irrefl _ hopen
      rw [receive_some he, Editor.receive_of_not_accepts hstale]
      exact ⟨by simp [become_journal], by simp [he], by simp [he]⟩

theorem innerMove_unmoved (hrest : s.AtRest) (move : InnerMove env s s') : Unmoved s s' := by
  cases move with
  | pass | expire | collect => exact ⟨rfl, rfl, rfl⟩
  | @receive front back reply =>
      have hkept : AtRest { s with replies := front ++ back } := hrest
      obtain ⟨hjournal, hdraft, hpending⟩ := receive_unmoved hkept reply
      exact ⟨hjournal, hdraft, hpending⟩
  | send he hdue =>
      obtain ⟨p, hp, -⟩ := Editor.due?_eq_some.mp hdue
      rw [(hrest _ he).1] at hp
      cases hp

/-- **At rest**, nothing that happens by itself changes the draft, says anything or asks anything. -/
theorem innerMoves_unmoved (hrest : s.AtRest) (moves : ReflTransGen (InnerMove env) s s') :
    Unmoved s s' := by
  induction moves with
  | refl => exact .refl s
  | tail _ move ih => exact ih.trans (innerMove_unmoved (ih.atRest hrest) move)

theorem advance_unmoved (still : s.Still) (hrest : s.AtRest) (ms : Nat) :
    Unmoved s (s.step env (.advance ms)) := by
  have hpassed : Unmoved s (advance env ms s) := innerMoves_unmoved hrest (advance_moves ms still).1
  exact hpassed.trans (innerMoves_unmoved (hpassed.atRest hrest) (settle_moves env _))

theorem release_unmoved (hrest : s.AtRest) (text : String) :
    Unmoved s (s.step env (.release text)) := by
  have hreleased : Unmoved s (s.take env (.release text)).1 := by
    rcases take_release env s text with hs | ⟨id, hs⟩ <;> rw [hs]
    · exact .refl s
    · exact ⟨rfl, rfl, rfl⟩
  exact hreleased.trans (innerMoves_unmoved (hreleased.atRest hrest) (settle_moves env _))

/-- A session stays at rest until its text is changed. -/
theorem atRest_step (still : s.Still) (hrest : s.AtRest) {st : Step} (hst : st.changesText = false) :
    (s.step env st).AtRest := by
  suffices h : (s.take env st).1.AtRest from
    (innerMoves_unmoved h (settle_moves env _)).atRest h
  rcases take_kept still hst with hmoves | ⟨id, hs⟩ | ⟨e, name, he, hs⟩ | ⟨e, signal, he, hs⟩ | hs | hs
  · exact (innerMoves_unmoved hrest hmoves).atRest hrest
  all_goals
    rw [hs]
    intro e' he'
  · exact hrest e' he'
  · rw [become_editor] at he'
    cases he'
    exact hrest e he
  · rw [become_editor] at he'
    cases he'
    exact hrest e he
  · exact hrest e' he'
  · cases he'

theorem atRest_after {steps : List Step} (hrest : (after env saved maySave steps).AtRest)
    (more : List Step) (hmore : ∀ st ∈ more, st.changesText = false) :
    (after env saved maySave (steps ++ more)).AtRest := by
  induction more using List.reverseRecOn with
  | nil => rwa [List.append_nil]
  | append_singleton more st ih =>
      rw [← List.append_assoc, after_concat]
      exact atRest_step (after_still _) (ih fun st hst => hmore st (List.mem_append_left _ hst))
        (hmore st (List.mem_append_right _ (List.mem_singleton_self st)))

/-! ### The theorem -/

/-- **A session does not hang.**  Let a run come to a session that lives.

The query is being validated just if exactly one of two things holds: a request waits that bears the
last id; or none waits, the request in flight bears the last id, and its call neither returned nor
was given up.

It is not being validated any more once the clock stands at the time of the last change, the debounce
time and the time of a call later.

And once it is not, and for as long as the text is not changed, no stretch of time and no release
changes the draft, tells the surface anything or asks the oracle. -/
theorem validating_ends (steps : List Step) (he : (after env saved maySave steps).editor = some e) :
    (e.draft.validity = .validating ↔
      Xor (∃ p, e.pending = some p ∧ p.id = e.draft.issued)
        (e.pending = none ∧ e.inFlight = some e.draft.issued ∧
          ∃ c ∈ (after env saved maySave steps).calls, c.id = e.draft.issued ∧ c.expired = false)) ∧
    (∀ time text cursor, LastChange env saved maySave steps time text cursor →
      time + env.timing.debounceMs + env.timing.oracleTimeoutMs ≤
        (after env saved maySave steps).clock →
      e.draft.validity ≠ .validating) ∧
    (e.draft.validity ≠ .validating → ∀ more, (∀ st ∈ more, Step.changesText st = false) →
      (∀ ms, Unmoved (after env saved maySave (steps ++ more))
        (after env saved maySave (steps ++ more ++ [.advance ms]))) ∧
      ∀ text, Unmoved (after env saved maySave (steps ++ more))
        (after env saved maySave (steps ++ more ++ [.release text]))) := by
  have hs : Arises env saved maySave (after env saved maySave steps) := arises_after steps
  have still : (after env saved maySave steps).Still := after_still steps
  refine ⟨Arises.validating_iff hs still he, ?_, ?_⟩
  · intro time text cursor hlast hclock hvalidating
    obtain ⟨id, hedit⟩ := lastEdit_after hlast (by simp [he])
    exact Nat.not_lt.mpr hclock (Arises.clock_lt_of_validating hs still he hvalidating hedit)
  · intro hdone more hmore
    have hrest := atRest_after (Arises.atRest hs he hdone) more hmore
    constructor
    · intro ms
      rw [after_concat]
      exact advance_unmoved (after_still _) hrest ms
    · intro text
      rw [after_concat]
      exact release_unmoved hrest text

end

/-! ### A call that is held for good -/

/-- A new query on which the oracle does not return in time. -/
def silentSteps : List Step :=
  [.event (.textChanged "b" 1), .advance 2000]

/-- The editor once the call on the new query was given up. -/
def silentEditor : Editor where
  draft :=
    { text := "b", cursor := 1, name := "name", saved := some ⟨"name", "a"⟩, maySave := true
      issued := 2, applied := 2 }

theorem silent_editor :
    (after (accepting (· == "b")) (some ⟨"name", "a"⟩) true silentSteps).editor =
      some silentEditor := by
  decide +kernel

/-- The query is not being validated any more, and releasing the call changes nothing. -/
theorem validating_ends_silent :
    silentEditor.draft.validity ≠ .validating ∧
      ∀ text, Unmoved (after (accepting (· == "b")) (some ⟨"name", "a"⟩) true silentSteps)
        (after (accepting (· == "b")) (some ⟨"name", "a"⟩) true
          (silentSteps ++ [.release text])) := by
  have hlast : LastChange (accepting (· == "b")) (some ⟨"name", "a"⟩) true silentSteps 0 "b" 1 :=
    .kept (.changed [] "b" 1) rfl
  obtain ⟨-, hends, hrests⟩ := validating_ends silentSteps silent_editor
  have hdone := hends 0 "b" 1 hlast (by decide +kernel)
  exact ⟨hdone, (hrests hdone [] nofun).2⟩

end Session
end FilterEditor
