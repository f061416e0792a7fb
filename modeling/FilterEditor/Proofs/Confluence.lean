import FilterEditor.Proofs.LastRequest

/-!
# Proofs — Confluence

While the clock stands still, a session serves the replies that wait, in any order, and sends the
request that is due (`Serves`).  It is all the same which comes first (`served_in_any_order`).

* `SingleFlight.accepted`: at most one reply that waits or may still come is not stale, and
  `SingleFlight.stale_of_pending`: none is while a request waits.
* `Editor.receive_comm`: a stale reply may be received before or after any other.  All that it may
  change is the note of the request in flight.
* `serves_diamond`: two things that can be served, can be served in either order, and lead to the same
  session.
* `served_iff`: so whatever a session serves first, and in whatever order its replies wait, it ends up
  the same.
-/

namespace FilterEditor

/-! ### Stale replies -/

namespace Editor
variable {e : Editor} {reply reply' : Reply} {id : RequestId}

theorem receive_inFlight (e : Editor) (reply : Reply) :
    (e.receive reply).1.inFlight = e.landed reply.id := by
  rcases e.receive_cases reply with ⟨-, h⟩ | ⟨-, _, -, h⟩ | ⟨-, -, h⟩ <;> rw [h]

/-- What a reply says and does to the draft has nothing to do with the request in flight. -/
theorem receive_with_inFlight (e : Editor) (inFlight : Option RequestId) (reply : Reply) :
    { e with inFlight }.receive reply =
      ({ (e.receive reply).1 with inFlight := { e with inFlight }.landed reply.id },
        (e.receive reply).2) := by
  unfold receive
  cases reply.result <;> simp only <;> split <;> rfl

/-- A reply that is stale stays so. -/
theorem not_accepts_receive (h : ¬ e.draft.accepts id) (reply : Reply) :
    ¬ (e.receive reply).1.draft.accepts id := by
  intro haccepts
  obtain ⟨hid, hopen⟩ := Draft.accepts_iff.mp haccepts
  rcases e.receive_cases reply with ⟨-, heq⟩ | ⟨-, _, -, heq⟩ | ⟨-, -, heq⟩ <;> rw [heq] at hid hopen
  · exact h (Draft.accepts_iff.mpr ⟨hid, hopen⟩)
  · exact Nat.ne_of_gt hopen hid
  · exact Nat.ne_of_gt hopen hid

theorem landed_comm (e : Editor) (id id' : RequestId) :
    { e with inFlight := e.landed id }.landed id' = { e with inFlight := e.landed id' }.landed id := by
  unfold landed
  simp only
  split <;> split <;> simp_all

/-- **A stale reply** may be received before or after any other. -/
theorem receive_comm (h : ¬ e.draft.accepts reply.id) (reply' : Reply) :
    (e.receive reply).1.receive reply' =
      (((e.receive reply').1.receive reply).1, (e.receive reply').2) := by
  have hlanded : (e.receive reply').1.landed reply.id =
      { e with inFlight := e.landed reply'.id }.landed reply.id := by
    unfold landed
    rw [e.receive_inFlight reply']
    rfl
  rw [receive_of_not_accepts h, receive_with_inFlight,
    receive_of_not_accepts (not_accepts_receive h reply'), hlanded, landed_comm]

end Editor

namespace Session
open Relation

/-! ### What can be served -/

/-- What a session may serve while the clock stands still. -/
inductive Service where
  /-- A reply that waits is received. -/
  | reply (reply : Reply)
  /-- The request that is due is sent. -/
  | request
deriving DecidableEq, Repr

/-- The session serves one thing, and becomes another. -/
inductive Serves (env : Setting) (s : Session) : Service → Session → Prop where
  | reply {reply : Reply} {s' : Session} (h : Receives s reply s') : Serves env s (.reply reply) s'
  | request {e : Editor} {id : RequestId} (he : s.editor = some e)
      (hdue : e.due? s.clock = some id) : Serves env s .request (s.ask env e id)

/-- The session lets something be served. -/
def ServesOne (env : Setting) (s s' : Session) : Prop :=
  ∃ service, Serves env s service s'

/-- Nothing is left to be served. -/
def Idle (env : Setting) (s : Session) : Prop :=
  ∀ s', ¬ ServesOne env s s'

section
variable {env : Setting} {saved : Option SavedFilter} {maySave : Bool} {s s' s₁ s₂ : Session}
  {e : Editor} {reply reply' : Reply} {a b : Service}

theorem Serves.move (h : Serves env s a s') : Move env s s' := by
  cases h with
  | reply h => exact h.move
  | request he hdue => exact .inner (.send he hdue)

/-- Receiving a reply does not look at the replies that wait. -/
theorem receive_with_replies (s : Session) (replies : List Reply) (reply : Reply) :
    { s with replies }.receive reply = { s.receive reply with replies } := by
  cases he : s.editor with
  | none => simp [receive, he]
  | some e => simp [receive, he, become, tell_eq]

/-- A stale reply changes nothing but the note of the request in flight. -/
theorem receive_stale (he : s.editor = some e) (h : ¬ e.draft.accepts reply.id) :
    s.receive reply = { s with editor := some { e with inFlight := e.landed reply.id } } := by
  rw [receive_some he, Editor.receive_of_not_accepts h, become, tell_eq]
  simp

/-- A stale reply may be received before or after any other. -/
theorem receive_receive (he : s.editor = some e) (h : ¬ e.draft.accepts reply.id) (reply' : Reply) :
    (s.receive reply).receive reply' = (s.receive reply').receive reply := by
  have hfirst : (s.receive reply).editor = some (e.receive reply).1 := by simp [receive_some he]
  have hother : (s.receive reply').editor = some (e.receive reply').1 := by simp [receive_some he]
  have hstale := Editor.not_accepts_receive h reply'
  calc (s.receive reply).receive reply'
      = s.become ((e.receive reply').1.receive reply).1 (e.receive reply').2 := by
        rw [receive_some hfirst, Editor.receive_comm h, receive_stale he h]
        rfl
    _ = (s.receive reply').receive reply := by
        rw [receive_stale hother hstale, Editor.receive_of_not_accepts hstale, receive_some he,
          become, become, tell_eq, tell_eq]

/-! ### Two things to serve -/

/-- At most one of two replies that wait is accepted. -/
theorem SingleFlight.stale_of_two (h : SingleFlight s e) {front mid back : List Reply}
    (hreplies : s.replies = front ++ reply :: (mid ++ reply' :: back)) :
    ¬ e.draft.accepts reply.id ∨ ¬ e.draft.accepts reply'.id := by
  by_contra hboth
  rw [not_or, Decidable.not_not, Decidable.not_not] at hboth
  have hid := (Draft.accepts_iff.mp hboth.1).1
  have hid' := (Draft.accepts_iff.mp hboth.2).1
  have hcount := h.count
  rw [outstanding, hreplies] at hcount
  simp only [List.map_append, List.map_cons, List.count_append, hid, hid', List.count_cons_self]
    at hcount
  split at hcount <;> omega

/-- No reply to the last request may still come while it waits to be sent. -/
theorem SingleFlight.not_mem_of_pending (h : SingleFlight s e) {p : Pending}
    (hp : e.pending = some p) : e.draft.issued ∉ s.outstanding := by
  intro hmem
  have hnone := (Editor.isAwaiting_iff.mp (h.isAwaiting_of_mem hmem)).1
  rw [hp] at hnone
  cases hnone

theorem receive_receive_with (s : Session) (waiting rest : List Reply) (reply reply' : Reply) :
    { { s with replies := waiting }.receive reply with replies := rest }.receive reply' =
      { (s.receive reply).receive reply' with replies := rest } := by
  rw [receive_with_replies s waiting reply]
  exact receive_with_replies (s.receive reply) rest reply'

/-- Two replies that wait may be received in either order. -/
theorem receives_comm (h : ∀ e, s.editor = some e → SingleFlight s e) {front mid back : List Reply}
    (hreplies : s.replies = front ++ reply :: (mid ++ reply' :: back)) :
    ∃ s₃, Receives ({ s with replies := front ++ (mid ++ reply' :: back) }.receive reply) reply' s₃ ∧
      Receives ({ s with replies := front ++ reply :: mid ++ back }.receive reply') reply s₃ := by
  have hcomm : (s.receive reply).receive reply' = (s.receive reply').receive reply := by
    cases he : s.editor with
    | none => rw [receive_none he, receive_none he, receive_none he]
    | some e =>
        rcases (h e he).stale_of_two hreplies with hstale | hstale
        · exact receive_receive he hstale reply'
        · exact (receive_receive he hstale reply).symm
  have hfirst := receive_receive_with s (front ++ (mid ++ reply' :: back)) (front ++ (mid ++ back))
    reply reply'
  have hsecond := receive_receive_with s (front ++ reply :: mid ++ back) (front ++ (mid ++ back))
    reply' reply
  rw [← hcomm] at hsecond
  refine ⟨_, ⟨front ++ mid, back, ?_, ?_⟩, ⟨front, mid ++ back, ?_, hsecond.symm⟩⟩
  · rw [(receive_keeps ..).2.1, List.append_assoc]
  · rw [List.append_assoc]
    exact hfirst.symm
  · rw [(receive_keeps ..).2.1, List.append_assoc, List.cons_append]

/-- Two replies that wait are one, or may be received in either order. -/
theorem receives_diamond (h : ∀ e, s.editor = some e → SingleFlight s e) (ha : Receives s reply s₁)
    (hb : Receives s reply' s₂) :
    (reply = reply' ∧ s₁ = s₂) ∨ ∃ s₃, Receives s₁ reply' s₃ ∧ Receives s₂ reply s₃ := by
  obtain ⟨front, back, hreplies, rfl⟩ := ha
  obtain ⟨front', back', hreplies', rfl⟩ := hb
  -- on which of the two stands further to the front
  rcases List.append_eq_append_iff.mp (hreplies.symm.trans hreplies') with
    ⟨_ | ⟨first, mid⟩, rfl, hmid⟩ | ⟨_ | ⟨first, mid⟩, rfl, hmid⟩
  · cases hmid
    rw [List.append_nil]
    exact .inl ⟨rfl, rfl⟩
  · cases hmid
    exact .inr (receives_comm h hreplies)
  · cases hmid
    rw [List.append_nil]
    exact .inl ⟨rfl, rfl⟩
  · cases hmid
    obtain ⟨s₃, h₂, h₁⟩ := receives_comm h hreplies'
    exact .inr ⟨s₃, h₁, h₂⟩

/-- A reply that waits may be received before or after the request that is due is sent. -/
theorem receives_ask (env : Setting) (h : SingleFlight s e) (he : s.editor = some e) {id : RequestId}
    (hdue : e.due? s.clock = some id) (hreceives : Receives s reply s') :
    ∃ s₃, Serves env s' .request s₃ ∧ Receives (s.ask env e id) reply s₃ := by
  obtain ⟨front, back, hreplies, rfl⟩ := hreceives
  obtain ⟨p, hp, -, hid⟩ := Editor.due?_eq_some.mp hdue
  have hne : reply.id ≠ e.draft.issued := fun heq => h.not_mem_of_pending hp
    (heq ▸ mem_outstanding_of_reply (hreplies ▸ List.mem_append_cons_self))
  have hstale : ¬ e.draft.accepts reply.id := fun haccepts => hne (Draft.accepts_iff.mp haccepts).1
  have hlanded : (e.sent id).landed reply.id = some id :=
    if_neg fun heq => hne (by rw [← Option.some.inj heq, ← hid, h.pending_id p hp])
  -- on either way the note of the request in flight is the new id
  have hbefore : { s with replies := front ++ back }.receive reply =
      { s with replies := front ++ back, editor := some { e with inFlight := e.landed reply.id } } :=
    receive_stale he hstale
  have hafter : { s.ask env e id with replies := front ++ back }.receive reply =
      { s with replies := front ++ back }.ask env { e with inFlight := e.landed reply.id } id := by
    rw [receive_stale (e := e.sent id) rfl hstale, hlanded]
    rfl
  refine ⟨_, ?_, front, back, hreplies, hafter.symm⟩
  rw [hbefore]
  exact .request rfl hdue

/-- **Two things to serve** may be served in either order, with the same outcome. -/
theorem serves_diamond (h : ∀ e, s.editor = some e → SingleFlight s e) (ha : Serves env s a s₁)
    (hb : Serves env s b s₂) :
    (a = b ∧ s₁ = s₂) ∨ ∃ s₃, Serves env s₁ b s₃ ∧ Serves env s₂ a s₃ := by
  cases ha with
  | @reply reply _ ha =>
      cases hb with
      | @reply reply' _ hb =>
          rcases receives_diamond h ha hb with ⟨rfl, hsame⟩ | ⟨s₃, h₁, h₂⟩
          · exact .inl ⟨rfl, hsame⟩
          · exact .inr ⟨s₃, .reply h₁, .reply h₂⟩
      | request he hdue =>
          obtain ⟨s₃, h₁, h₂⟩ := receives_ask env (h _ he) he hdue ha
          exact .inr ⟨s₃, h₁, .reply h₂⟩
  | request he hdue =>
      cases hb with
      | reply hb =>
          obtain ⟨s₃, h₁, h₂⟩ := receives_ask env (h _ he) he hdue hb
          exact .inr ⟨s₃, .reply h₂, h₁⟩
      | request he' hdue' =>
          cases he.symm.trans he'
          cases hdue.symm.trans hdue'
          exact .inl ⟨rfl, rfl⟩

/-! ### All there is to serve -/

theorem singleFlight_serves (h : ∀ e, s.editor = some e → SingleFlight s e)
    (hserves : ReflTransGen (ServesOne env) s s') : ∀ e, s'.editor = some e → SingleFlight s' e := by
  induction hserves with
  | refl => exact h
  | tail _ hone ih =>
      obtain ⟨a, hone⟩ := hone
      exact singleFlight_move hone.move ih

/-- **Confluence.**  Whatever a session serves first, it can go on to the same session. -/
theorem serves_confluent (h : ∀ e, s.editor = some e → SingleFlight s e)
    (h₁ : ReflTransGen (ServesOne env) s s₁) (h₂ : ReflTransGen (ServesOne env) s s₂) :
    Join (ReflTransGen (ServesOne env)) s₁ s₂ := by
  -- the diamond is there only while the last id is outstanding at most once, which serving keeps
  let Guarded (s s' : Session) : Prop :=
    (∀ e, s.editor = some e → SingleFlight s e) ∧ ServesOne env s s'
  have hguard : ∀ {s'}, ReflTransGen (ServesOne env) s s' → ReflTransGen Guarded s s' := by
    intro s' hserves
    induction hserves with
    | refl => exact .refl
    | tail hserves hone ih => exact ih.tail ⟨singleFlight_serves h hserves, hone⟩
  have hdiamond : ∀ t t₁ t₂, Guarded t t₁ → Guarded t t₂ →
      ∃ t₃, ReflGen Guarded t₁ t₃ ∧ ReflTransGen Guarded t₂ t₃ := by
    rintro t t₁ t₂ ⟨hflight, a, ha⟩ ⟨-, b, hb⟩
    have hflight₁ := singleFlight_move ha.move hflight
    have hflight₂ := singleFlight_move hb.move hflight
    rcases serves_diamond hflight ha hb with ⟨-, rfl⟩ | ⟨t₃, hb', ha'⟩
    · exact ⟨t₁, .refl, .refl⟩
    · exact ⟨t₃, .single ⟨hflight₁, b, hb'⟩, .single ⟨hflight₂, a, ha'⟩⟩
  obtain ⟨t, ht₁, ht₂⟩ := church_rosser hdiamond (hguard h₁) (hguard h₂)
  exact ⟨t, ReflTransGen.mono (fun _ _ hone => hone.2) _ _ ht₁,
    ReflTransGen.mono (fun _ _ hone => hone.2) _ _ ht₂⟩

theorem Idle.eq_of_serves (h : Idle env s) (hserves : ReflTransGen (ServesOne env) s s') : s' = s := by
  rcases hserves.cases_head with rfl | ⟨t, hone, -⟩
  · rfl
  · exact absurd hone (h t)

/-! ### The order of the program -/

theorem deliver_serves (s : Session) : ReflTransGen (ServesOne env) s s.deliver :=
  deliver_each (fun {_ _ replies} hreplies => ⟨_, .reply ⟨[], replies, hreplies, rfl⟩⟩) s

theorem fire_serves (s : Session) : ReflTransGen (ServesOne env) s (s.fire env) :=
  fire_each fun he hdue => ⟨_, .request he hdue⟩

theorem fire_replies (env : Setting) (s : Session) : (s.fire env).replies = s.replies := by
  unfold fire
  split
  · split <;> rfl
  · rfl

/-- Once the replies were received and the request was sent, nothing is left. -/
theorem deliver_fire_idle (s : Session) : Idle env (s.deliver.fire env) := by
  rintro s' ⟨_, hreceives | ⟨he, hdue⟩⟩
  · have hmem := hreceives.mem
    rw [fire_replies, deliver_replies] at hmem
    cases hmem
  · obtain ⟨p, hp, hle, -⟩ := Editor.due?_eq_some.mp hdue
    have hlater := fire_not_due env s.deliver p (by rw [he, ← hp]; rfl)
    rw [fire_clock] at hle
    exact Nat.not_lt.mpr hle hlater

/-- The replies may wait in another order. -/
theorem Serves.of_perm (h : Serves env s a s') {queue : List Reply} (hperm : queue.Perm s.replies) :
    ∃ queue', queue'.Perm s'.replies ∧
      Serves env { s with replies := queue } a { s' with replies := queue' } := by
  cases h with
  | @reply reply s' hreceives =>
      obtain ⟨front, back, hreplies, rfl⟩ := hreceives
      obtain ⟨front', back', rfl⟩ := List.append_of_mem
        (hperm.mem_iff.mpr (hreplies ▸ List.mem_append_cons_self : reply ∈ s.replies))
      rw [hreplies] at hperm
      refine ⟨front' ++ back', ?_, .reply ⟨front', back', rfl, ?_⟩⟩
      · rw [(receive_keeps ..).2.1]
        exact (List.perm_cons reply).mp
          ((List.perm_middle.symm.trans hperm).trans List.perm_middle)
      · rw [receive_with_replies s (front ++ back)]
        exact (receive_with_replies s (front' ++ back') reply).symm
  | request he hdue => exact ⟨queue, hperm, .request he hdue⟩

theorem serves_of_perm (h : ReflTransGen (ServesOne env) s s') {queue : List Reply}
    (hperm : queue.Perm s.replies) :
    ∃ queue', queue'.Perm s'.replies ∧
      ReflTransGen (ServesOne env) { s with replies := queue } { s' with replies := queue' } := by
  induction h with
  | refl => exact ⟨queue, hperm, .refl⟩
  | tail _ hone ih =>
      obtain ⟨queue', hperm', hserves⟩ := ih
      obtain ⟨a, hone⟩ := hone
      obtain ⟨queue'', hperm'', hone'⟩ := hone.of_perm hperm'
      exact ⟨queue'', hperm'', hserves.tail ⟨a, hone'⟩⟩

/-- **In whatever order** its replies wait, and whatever comes first, a session that served
everything is the one that received its replies as they stand and sent its request then. -/
theorem served_iff (h : ∀ e, s.editor = some e → SingleFlight s e) {queue : List Reply}
    (hperm : queue.Perm s.replies) :
    ReflTransGen (ServesOne env) { s with replies := queue } s' ∧ Idle env s' ↔
      s' = s.deliver.fire env := by
  have hown : ReflTransGen (ServesOne env) s (s.deliver.fire env) :=
    (deliver_serves s).trans (fire_serves s.deliver)
  have hnone : (s.deliver.fire env).replies = [] := by rw [fire_replies, deliver_replies]
  have hidle : Idle env (s.deliver.fire env) := deliver_fire_idle s
  -- the same services, with the replies in the other order
  obtain ⟨queue', hperm', hserved⟩ := serves_of_perm hown hperm
  rw [hnone, List.perm_nil] at hperm'
  have hsame : { s.deliver.fire env with replies := queue' } = s.deliver.fire env := by
    rw [hperm', ← hnone]
  rw [hsame] at hserved
  refine ⟨fun ⟨hserves, hidle'⟩ => ?_, fun heq => heq ▸ ⟨hserved, hidle⟩⟩
  have hflight : ∀ e, s.editor = some e → SingleFlight { s with replies := queue } e := fun e he =>
    (h e he).of_perm ((hperm.map _).append_left _) (fun _ hc => continues_of_mem hc)
      fun reply hreply => (h e he).replies_le reply (hperm.mem_iff.mp hreply)
  obtain ⟨t, ht, ht'⟩ := serves_confluent hflight hserves hserved
  rw [← hidle'.eq_of_serves ht, hidle.eq_of_serves ht']

/-! ### The theorem -/

/-- While a request waits to be sent, it bears the last id issued, and no reply that may still come
is accepted. -/
theorem SingleFlight.stale_of_pending (h : SingleFlight s e) {p : Pending} (hp : e.pending = some p) :
    p.id = e.draft.issued ∧ ∀ id ∈ s.outstanding, ¬ e.draft.accepts id := by
  refine ⟨h.pending_id p hp, fun id hid haccepts => h.not_mem_of_pending hp ?_⟩
  rwa [← (Draft.accepts_iff.mp haccepts).1]

/-- Of the replies that may still come, one at most is accepted: that to the request in flight. -/
theorem SingleFlight.accepted (h : SingleFlight s e) :
    (s.outstanding.filter e.draft.accepts).length ≤ 1 ∧
      ∀ id ∈ s.outstanding, e.draft.accepts id → e.inFlight = some id := by
  constructor
  · calc (s.outstanding.filter e.draft.accepts).length
        ≤ s.outstanding.count e.draft.issued := by
          rw [← List.countP_eq_length_filter, List.count]
          exact List.countP_mono_left fun id _ haccepts =>
            beq_iff_eq.mpr (Draft.accepts_iff.mp haccepts).1
      _ ≤ 1 := by
          rw [h.count]
          split <;> decide
  · intro id hmem haccepts
    obtain rfl := (Draft.accepts_iff.mp haccepts).1
    exact h.inFlight (h.isAwaiting_of_mem hmem)

/-- **Whatever is served first.**  Take any session that arises in any run.

If a request waits to be sent, it bears the last id issued, and no reply that waits or may still come
is accepted.  If none waits, at most one of them is, and it is the one to the request in flight.

Any two of the things that the session can serve while the clock stands still (to receive some reply
that waits, or to send the request that is due) are the same one, or either can be served after the
other, and the two orders lead to the same session: the same draft, the same waiting request, the same
calls and the same journal.

So in whatever order the replies wait, and whatever is served first, there is one session in which
everything is served: the one that receives its replies as they stand, and then sends its request. -/
theorem served_in_any_order (hs : Arises env saved maySave s) :
    (∀ e, s.editor = some e →
      (∀ p, e.pending = some p →
        p.id = e.draft.issued ∧ ∀ id ∈ s.outstanding, ¬ e.draft.accepts id) ∧
      (e.pending = none →
        (s.outstanding.filter e.draft.accepts).length ≤ 1 ∧
          ∀ id ∈ s.outstanding, e.draft.accepts id → e.inFlight = some id)) ∧
    (∀ a b s₁ s₂, Serves env s a s₁ → Serves env s b s₂ →
      (a = b ∧ s₁ = s₂) ∨ ∃ s₃, Serves env s₁ b s₃ ∧ Serves env s₂ a s₃) ∧
    ∀ queue, queue.Perm s.replies → ∀ s',
      ReflTransGen (ServesOne env) { s with replies := queue } s' ∧ Idle env s' ↔
        s' = s.deliver.fire env := by
  have hflight := Arises.singleFlight hs
  exact ⟨fun e he => ⟨fun _ hp => (hflight e he).stale_of_pending hp, fun _ => (hflight e he).accepted⟩,
    fun _ _ _ _ ha hb => serves_diamond hflight ha hb,
    fun _ hperm _ => served_iff hflight hperm⟩

end

/-! ### A reply and a request at once -/

/-- A session in which the reply on the saved query waits, and a request on a new text is due. -/
def crowded : Session :=
  let env := accepting (· == "a")
  let s := start env (.opening (some ⟨"name", "a"⟩) true)
  ((s.handle env sentEditor (.textChanged "b" 1)).release 1).collect env

theorem crowded_arises : Arises (accepting (· == "a")) (some ⟨"name", "a"⟩) true crowded :=
  ((ReflTransGen.refl.tail (.event rfl _)).tail (.release _ 1)).trans
    (moves_of_inner (collect_moves _ _))

/-- The reply may be received before or after the request is sent. -/
theorem served_in_any_order_crowded :
    ∃ reply s₁ s₂ s₃, Serves (accepting (· == "a")) crowded (.reply reply) s₁ ∧
      Serves (accepting (· == "a")) crowded .request s₂ ∧
      Serves (accepting (· == "a")) s₁ .request s₃ ∧
      Serves (accepting (· == "a")) s₂ (.reply reply) s₃ := by
  have hreply : Serves (accepting (· == "a")) crowded
      (.reply ⟨1, .completed ⟨.accepted, { cursor := 1 }⟩⟩) _ := .reply ⟨[], [], rfl, rfl⟩
  have hrequest : Serves (accepting (· == "a")) crowded .request _ :=
    @Serves.request (accepting (· == "a")) crowded _ 2 rfl rfl
  obtain ⟨-, hdiamond, -⟩ := served_in_any_order crowded_arises
  rcases hdiamond _ _ _ _ hreply hrequest with ⟨hsame, -⟩ | ⟨s₃, h₁, h₂⟩
  · cases hsame
  · exact ⟨_, _, _, s₃, hreply, hrequest, h₁, h₂⟩

end Session
end FilterEditor
