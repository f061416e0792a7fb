import FilterEditor.Proofs.Requests

/-!
# Proofs — Replies

What the replies of a session say, and when they come.

* `Timely`: no call outlives its deadline unnoticed, no request waits past its time, and a call that
  is not held is over at the instant at which it was made.
* `Faithful`: a call or a reply under the last id issued is about exactly the text and the cursor of
  the draft.  Of older calls and replies nothing is said, and nothing needs to be: the draft accepts
  none of them.

`Arises.timely` and `Arises.faithful` prove both of every session that arises.
-/

namespace FilterEditor

/-- The reply is what comes of a request on the text and the cursor.  Only a call that is held runs
out of time, unless it was given none. -/
def Reply.Answers (env : Setting) (text : String) (cursor : Nat) (reply : Reply) : Prop :=
  match reply.result with
  | .completed evaluation => env.oracle.evaluate env.formatter text cursor = .ok evaluation
  | .failed => ∃ fault, env.oracle.evaluate env.formatter text cursor = .error fault
  | .timedOut => env.holds text ∨ env.timing.oracleTimeoutMs = 0

theorem Call.answers_result (env : Setting) (c : Call) :
    Reply.Answers env c.text c.cursor ⟨c.id, c.result env⟩ := by
  unfold Reply.Answers Call.result
  cases h : env.oracle.evaluate env.formatter c.text c.cursor with
  | ok evaluation => exact rfl
  | error fault => exact ⟨fault, rfl⟩

/-- The call is held only on a text that the setting holds back.  On any other text it is as old as
the instant, and its time is not over unnoticed. -/
structure Call.Timely (env : Setting) (now : Nat) (c : Call) : Prop where
  holds_of_held : c.held → env.holds c.text
  fresh : env.holds c.text = false → c.deadline = now + env.timing.oracleTimeoutMs
  le_deadline : c.expired = false → now ≤ c.deadline

/-- A call that was timely once is timely for as long as the clock stands still. -/
theorem Call.Continues.timely {env : Setting} {now : Nat} {c d : Call} (h : c.Continues d)
    (hd : d.Timely env now) : c.Timely env now where
  holds_of_held hheld := h.text ▸ hd.holds_of_held (h.held hheld)
  fresh hfree := h.deadline ▸ hd.fresh (h.text ▸ hfree)
  le_deadline hx := h.deadline ▸ hd.le_deadline (h.expired hx)

namespace Session
open Relation

/-! ### Time -/

/-- Nothing is overdue unnoticed. -/
structure Timely (env : Setting) (s : Session) : Prop where
  calls : ∀ c ∈ s.calls, c.Timely env s.clock
  le_due : ∀ e p, s.editor = some e → e.pending = some p → s.clock ≤ p.due

section
variable {env : Setting} {saved : Option SavedFilter} {maySave : Bool} {s s' : Session}

theorem Timely.of_calls (h : Timely env s) (hclock : s'.clock = s.clock)
    (hcalls : ∀ c ∈ s'.calls, ∃ d ∈ s.calls, c.Continues d)
    (hpending : s'.editor.map (·.pending) = s.editor.map (·.pending)) : Timely env s' where
  calls c hc := by
    obtain ⟨d, hd, hcontinues⟩ := hcalls c hc
    rw [hclock]
    exact hcontinues.timely (h.calls d hd)
  le_due e' p he' hp := by
    rw [he'] at hpending
    cases he : s.editor with
    | none => rw [he] at hpending; cases hpending
    | some e =>
        rw [he] at hpending
        exact hclock ▸ h.le_due e p he ((Option.some.inj hpending).symm.trans hp)

theorem Timely.pass (h : Timely env s) (still : s.Still) {ms : Nat}
    (hdue : ∀ due ∈ s.dueTimes, s.clock + ms ≤ due) :
    Timely env { s with clock := s.clock + ms } where
  calls c hc :=
    { holds_of_held := (h.calls c hc).holds_of_held
      -- time goes by only once every call that is not held has returned
      fresh := fun hfree => by
        rw [(h.calls c hc).holds_of_held (still.held c hc)] at hfree
        cases hfree
      le_deadline := fun hx => hdue c.deadline (mem_dueTimes.mpr (.inr ⟨c, hc, hx, rfl⟩)) }
  le_due e p he hp := hdue p.due (mem_dueTimes.mpr (.inl ⟨e, p, he, hp, rfl⟩))

theorem Timely.innerMove (h : Timely env s) (move : InnerMove env s s') : Timely env s' := by
  cases move with
  | pass ms still hdue => exact h.pass still hdue
  | expire hcalls => exact h.of_calls rfl (continues_expire hcalls) rfl
  | collect hcalls => exact h.of_calls rfl (continues_collect hcalls) rfl
  | receive hreplies =>
      obtain ⟨hcalls, -, hclock, -, hpending⟩ := receive_keeps _ _
      exact h.of_calls hclock (fun c hc => continues_of_mem (hcalls ▸ hc)) hpending
  | send he hdue =>
      refine ⟨fun c hc => ?_, fun e p he hp => ?_⟩
      · rcases List.mem_append.mp hc with hc | hc
        · exact h.calls c hc
        · rw [List.mem_singleton.mp hc]
          exact ⟨id, fun _ => rfl, fun _ => Nat.le_add_right ..⟩
      · cases he
        cases hp

theorem Timely.event (h : Timely env s) {e : Editor} (he : s.editor = some e) (event : Event) :
    Timely env (s.handle env e event) := by
  rcases s.handle_cases env e event with hs | ⟨text, cursor, -, -, hs⟩ | ⟨cursor, -, hs⟩ |
      ⟨name, -, hs⟩ | ⟨signal, -, hs, -⟩ <;> rw [hs]
  · exact ⟨h.calls, fun _ _ he => nomatch he⟩
  · refine ⟨by simpa using h.calls, fun e' p he' hp => ?_⟩
    rw [become_editor] at he'
    cases he'
    cases hp
    simpa using (e.schedule_due env.timing s.clock (e.draft.issued + 1)).1
  · refine ⟨by simpa using h.calls, fun e' p he' hp => ?_⟩
    rw [become_editor] at he'
    cases he'
    cases hp
  · exact h.of_calls (by simp) (fun c hc => continues_of_mem (by simpa using hc)) (by simp [he])
  · exact h.of_calls (by simp) (fun c hc => continues_of_mem (by simpa using hc)) (by simp [he])

theorem Timely.move (h : Timely env s) (move : Move env s s') : Timely env s' := by
  cases move with
  | inner move => exact h.innerMove move
  | event he event => exact h.event he event
  | release id => exact h.of_calls rfl continues_release rfl
  | closeSignals => exact ⟨h.calls, h.le_due⟩
  | kill => exact ⟨h.calls, fun _ _ he => nomatch he⟩

theorem Timely.start : Timely env (Session.start env (.opening saved maySave)) := by
  rcases start_cases env saved maySave with ⟨-, hs⟩ | ⟨filter, -, -, hs⟩ <;> rw [hs]
  · refine ⟨nofun, fun e p he hp => ?_⟩
    cases he
    cases hp
  · refine ⟨fun c hc => ?_, fun e p he hp => ?_⟩
    · rw [List.mem_singleton.mp hc]
      exact ⟨id, fun _ => rfl, fun _ => Nat.le_add_right ..⟩
    · cases he
      cases hp

/-- In every session that arises, nothing is overdue unnoticed. -/
theorem Arises.timely (hs : Arises env saved maySave s) : Timely env s := by
  induction hs with
  | refl => exact .start
  | tail _ move ih => exact ih.move move

/-! ### Contents -/

/-- The calls and the replies under the last id are about the draft as it stands. -/
structure Faithful (env : Setting) (s : Session) (e : Editor) : Prop where
  calls : ∀ c ∈ s.calls, c.id = e.draft.issued → c.text = e.draft.text ∧ c.cursor = e.draft.cursor
  replies : ∀ reply ∈ s.replies, reply.id = e.draft.issued →
    reply.Answers env e.draft.text e.draft.cursor

variable {e e' : Editor}

/-- The calls of a session are about the same text and cursor for as long as they last. -/
theorem Faithful.calls_continue (h : Faithful env s e) {calls : List Call}
    (hcalls : ∀ c ∈ calls, ∃ d ∈ s.calls, c.Continues d) :
    ∀ c ∈ calls, c.id = e.draft.issued → c.text = e.draft.text ∧ c.cursor = e.draft.cursor := by
  intro c hc hid
  obtain ⟨d, hd, hcontinues⟩ := hcalls c hc
  rw [hcontinues.text, hcontinues.cursor]
  exact h.calls d hd (hcontinues.id.symm.trans hid)

/-- A session stays faithful while neither the text nor the last id changes. -/
theorem Faithful.congr (h : Faithful env s e)
    (hcalls : ∀ c ∈ s'.calls, ∃ d ∈ s.calls, c.Continues d)
    (hreplies : ∀ reply ∈ s'.replies, reply ∈ s.replies) (hissued : e'.draft.issued = e.draft.issued)
    (htext : e'.draft.text = e.draft.text) (hcursor : e'.draft.cursor = e.draft.cursor) :
    Faithful env s' e' where
  calls c hc hid := by
    rw [htext, hcursor]
    exact h.calls_continue hcalls c hc (hid.trans hissued)
  replies reply hreply hid := by
    rw [htext, hcursor]
    exact h.replies reply (hreplies reply hreply) (hid.trans hissued)

/-- No call and no reply bears an id that was issued just now. -/
theorem Faithful.of_next (h : SingleFlight s e) (hcalls : s'.calls = s.calls)
    (hreplies : s'.replies = s.replies) (hissued : e'.draft.issued = e.draft.issued + 1) :
    Faithful env s' e' where
  calls c hc hid := by
    have hle := h.calls_le c (hcalls ▸ hc)
    rw [hid, hissued] at hle
    exact absurd hle (Nat.not_succ_le_self _)
  replies reply hreply hid := by
    have hle := h.replies_le reply (hreplies ▸ hreply)
    rw [hid, hissued] at hle
    exact absurd hle (Nat.not_succ_le_self _)

/-- The reply that a draft accepts is about the draft as it stands. -/
theorem Faithful.answers (h : Faithful env s e) {reply : Reply} (hreply : reply ∈ s.replies)
    (haccepts : e.draft.accepts reply.id) : reply.Answers env e.draft.text e.draft.cursor :=
  h.replies reply hreply (Draft.accepts_iff.mp haccepts).1

theorem Faithful.event (h : Faithful env s e) (hflight : SingleFlight s e) (event : Event)
    (he' : (s.handle env e event).editor = some e') : Faithful env (s.handle env e event) e' := by
  rcases handle_inv he' with ⟨text, cursor, -, -, rfl, hs⟩ | ⟨cursor, -, rfl, hs⟩ |
      ⟨name, -, rfl, hs⟩ | ⟨signal, -, rfl, hs⟩ <;> rw [hs]
  · exact .of_next hflight (by simp) (by simp) rfl
  · exact .of_next hflight (by simp) (by simp) rfl
  · exact h.congr (fun c hc => continues_of_mem (by simpa using hc)) (by simp) rfl rfl rfl
  · exact h.congr (fun c hc => continues_of_mem (by simpa using hc)) (by simp) rfl rfl rfl

/-- What is sent is the draft as it stands. -/
theorem Faithful.send (h : Faithful env s e) (id : RequestId) :
    Faithful env (s.ask env e id) (e.sent id) where
  calls c hc hid := by
    rcases List.mem_append.mp hc with hc | hc
    · exact h.calls c hc hid
    · rw [List.mem_singleton.mp hc]
      exact ⟨rfl, rfl⟩
  replies := h.replies

theorem Faithful.expire (h : Faithful env s e) (htimely : Timely env s) {front back : List Call}
    {c : Call} (hcalls : s.calls = front ++ c :: back) (hc : c.isOverdue s.clock) :
    Faithful env
      { s with
        calls := front ++ { c with expired := true } :: back
        replies := s.replies ++ [⟨c.id, .timedOut⟩] } e where
  calls := h.calls_continue (continues_expire hcalls)
  replies reply hreply hid := by
    rcases List.mem_append.mp hreply with hreply | hreply
    · exact h.replies reply hreply hid
    · obtain rfl := List.mem_singleton.mp hreply
      have hmem : c ∈ s.calls := hcalls ▸ List.mem_append_cons_self
      show env.holds e.draft.text ∨ env.timing.oracleTimeoutMs = 0
      rw [← (h.calls c hmem hid).1]
      cases hfree : env.holds c.text with
      | true => exact .inl rfl
      | false =>
          -- the call was made just now, and its time is over already
          have hdeadline := (htimely.calls c hmem).fresh hfree
          simp only [Call.isOverdue, Bool.and_eq_true, decide_eq_true_eq] at hc
          exact .inr (by omega)

theorem Faithful.collect (h : Faithful env s e) {front back : List Call} {c : Call}
    (hcalls : s.calls = front ++ c :: back) :
    Faithful env
      { s with
        calls := front ++ back
        replies := s.replies ++ if c.expired then [] else [⟨c.id, c.result env⟩] } e where
  calls := h.calls_continue (continues_collect hcalls)
  replies reply hreply hid := by
    rcases List.mem_append.mp hreply with hreply | hreply
    · exact h.replies reply hreply hid
    · cases hx : c.expired <;> simp [hx] at hreply
      subst hreply
      obtain ⟨htext, hcursor⟩ :=
        h.calls c (hcalls ▸ List.mem_append_cons_self) hid
      rw [← htext, ← hcursor]
      exact c.answers_result env

theorem Faithful.receive (h : Faithful env s e) {front back : List Reply} {reply : Reply}
    (hreplies : s.replies = front ++ reply :: back) :
    Faithful env ({ s with replies := front ++ back }.receive reply) (e.receive reply).1 := by
  obtain ⟨hissued, htext, hcursor⟩ := e.receive_draft reply
  obtain ⟨hcalls, hrest, -⟩ := receive_keeps { s with replies := front ++ back } reply
  refine h.congr (fun c hc => continues_of_mem (hcalls ▸ hc)) (fun r hr => ?_) hissued htext hcursor
  rw [hrest] at hr
  exact mem_of_rest hreplies r hr

theorem Faithful.release (h : Faithful env s e) (id : RequestId) :
    Faithful env (s.release id) e where
  calls := h.calls_continue continues_release
  replies := h.replies

theorem Faithful.start (he : (Session.start env (.opening saved maySave)).editor = some e) :
    Faithful env (Session.start env (.opening saved maySave)) e := by
  rcases start_cases env saved maySave with ⟨-, hs⟩ | ⟨filter, -, -, hs⟩ <;> rw [hs] at he ⊢
  · exact ⟨nofun, nofun⟩
  · cases he
    refine ⟨fun c hc _ => ?_, nofun⟩
    rw [List.mem_singleton.mp hc]
    exact ⟨rfl, rfl⟩

/-- **Faithful replies.**  In every session that arises, the calls and the replies under the last id
are about the text and the cursor of the draft. -/
theorem Arises.faithful (hs : Arises env saved maySave s) :
    ∀ e, s.editor = some e → Faithful env s e := by
  induction hs with
  | refl => exact fun e he => .start he
  | tail hs move ih =>
      intro e he
      cases move with
      | inner move =>
          cases move with
          | pass => exact (ih e he).congr (fun _ => continues_of_mem) (fun _ => id) rfl rfl rfl
          | expire hcalls hc => exact (ih e he).expire (Arises.timely hs) hcalls hc
          | collect hcalls => exact (ih e he).collect hcalls
          | receive hreplies =>
              obtain ⟨e, hsome, rfl⟩ := receive_inv he
              exact (ih e hsome).receive hreplies
          | send hsome =>
              cases he
              exact (ih _ hsome).send _
      | event hsome event =>
          exact (ih _ hsome).event (Arises.singleFlight hs _ hsome) event he
      | release id => exact (ih e he).release id
      | closeSignals => exact (ih e he).congr (fun _ => continues_of_mem) (fun _ => id) rfl rfl rfl
      | kill => cases he

end
end Session
end FilterEditor
