import FilterEditor.Proofs.Runs

/-!
# Proofs — Requests

The ids under which a reply is waiting or may still come are the *outstanding* ids of a session.
While an answer to the last request is awaited and no request waits to be sent, the last id issued
is outstanding exactly once; at all other times it is not outstanding at all (`SingleFlight`).  So at
most one outstanding reply can change the draft, and it is the one to the request in flight.

`Arises.singleFlight` proves it of every session that arises.  No other id matters: the ids of all
calls and replies are at most the last one issued, and a draft accepts no other.
-/

namespace FilterEditor

/-- The request under the last id was sent, and is not answered. -/
def Editor.isAwaiting (e : Editor) : Bool :=
  e.pending.isNone && decide (e.draft.applied < e.draft.issued)

theorem Editor.isAwaiting_iff {e : Editor} :
    e.isAwaiting ↔ e.pending = none ∧ e.draft.applied < e.draft.issued := by
  simp [isAwaiting]

namespace Session
open Relation

/-- The ids under which a reply is waiting or may still come. -/
def outstanding (s : Session) : List RequestId :=
  (s.calls.filter (!·.expired)).map (·.id) ++ s.replies.map (·.id)

theorem mem_outstanding_of_reply {s : Session} {reply : Reply} (h : reply ∈ s.replies) :
    reply.id ∈ s.outstanding :=
  List.mem_append_right _ (List.mem_map_of_mem h)

theorem mem_outstanding_of_call {s : Session} {c : Call} (h : c ∈ s.calls)
    (hc : c.expired = false) : c.id ∈ s.outstanding :=
  List.mem_append_left _ (List.mem_map_of_mem (List.mem_filter.mpr ⟨h, by simp [hc]⟩))

/-- The last id issued is outstanding once while its answer is awaited, and else not at all. -/
structure SingleFlight (s : Session) (e : Editor) : Prop where
  sound : e.draft.Sound
  calls_le : ∀ c ∈ s.calls, c.id ≤ e.draft.issued
  replies_le : ∀ reply ∈ s.replies, reply.id ≤ e.draft.issued
  pending_id : ∀ p, e.pending = some p → p.id = e.draft.issued
  pending_open : ∀ p, e.pending = some p → e.draft.applied < e.draft.issued
  count : s.outstanding.count e.draft.issued = if e.isAwaiting then 1 else 0
  inFlight : e.isAwaiting → e.inFlight = some e.draft.issued

namespace SingleFlight
variable {env : Setting} {s s' : Session} {e : Editor}

theorem isAwaiting_of_mem (h : SingleFlight s e) (hmem : e.draft.issued ∈ s.outstanding) :
    e.isAwaiting := by
  have hpos := List.count_pos_iff.mpr hmem
  rw [h.count] at hpos
  by_contra hnot
  rw [if_neg hnot] at hpos
  exact Nat.lt_irrefl 0 hpos

/-- The draft accepts a waiting reply just if it bears the last id issued. -/
theorem accepts_iff_id (h : SingleFlight s e) {reply : Reply} (hreply : reply ∈ s.replies) :
    e.draft.accepts reply.id ↔ reply.id = e.draft.issued := by
  refine ⟨fun haccepts => (Draft.accepts_iff.mp haccepts).1, fun hid => ?_⟩
  have hawaiting := h.isAwaiting_of_mem (hid ▸ mem_outstanding_of_reply hreply)
  exact Draft.accepts_iff.mpr ⟨hid, hid ▸ (Editor.isAwaiting_iff.mp hawaiting).2⟩

/-- Calls and replies may be shuffled as long as the outstanding ids stay the same. -/
theorem of_perm (h : SingleFlight s e) (hperm : s'.outstanding.Perm s.outstanding)
    (hcalls : ∀ c ∈ s'.calls, ∃ d ∈ s.calls, c.Continues d)
    (hreplies : ∀ reply ∈ s'.replies, reply.id ≤ e.draft.issued) : SingleFlight s' e :=
  { h with
    calls_le := fun c hc => by
      obtain ⟨d, hd, hcontinues⟩ := hcalls c hc
      exact hcontinues.id ▸ h.calls_le d hd
    replies_le := hreplies
    count := by rw [hperm.count_eq, h.count] }

/-- A new name changes nothing that matters here. -/
theorem rename (h : SingleFlight s e) (name : String) :
    SingleFlight s { e with draft := e.draft.rename name } :=
  { h with sound := h.sound.rename name }

/-- What an event, a reply or a request sent says and notes changes nothing that matters here. -/
theorem congr (h : SingleFlight s e) (hcalls : s'.calls = s.calls)
    (hreplies : s'.replies = s.replies) : SingleFlight s' e :=
  h.of_perm (by rw [outstanding, outstanding, hcalls, hreplies])
    (fun _ hc => continues_of_mem (hcalls ▸ hc)) (hreplies ▸ h.replies_le)

/-- A new id is not outstanding. -/
theorem count_next (h : SingleFlight s e) : s.outstanding.count (e.draft.issued + 1) = 0 := by
  rw [List.count_eq_zero]
  intro hmem
  rcases List.mem_append.mp hmem with hmem | hmem
  · obtain ⟨c, hc, hid⟩ := List.mem_map.mp hmem
    have hle := h.calls_le c (List.mem_filter.mp hc).1
    exact Nat.not_succ_le_self _ (hid ▸ hle)
  · obtain ⟨reply, hreply, hid⟩ := List.mem_map.mp hmem
    exact Nat.not_succ_le_self _ (hid ▸ h.replies_le reply hreply)

theorem retype (h : SingleFlight s e) {text : String} (hne : text ≠ "") (cursor : Nat)
    (timing : Timing) (now : Nat) :
    SingleFlight s
      { e with
        draft := e.draft.retyped text cursor
        pending := some (e.schedule timing now (e.draft.issued + 1)) } where
  sound := h.sound.retyped hne cursor
  calls_le c hc := Nat.le_succ_of_le (h.calls_le c hc)
  replies_le reply hreply := Nat.le_succ_of_le (h.replies_le reply hreply)
  pending_id p hp := by cases hp; rfl
  pending_open _ _ := Nat.lt_succ_of_le h.sound.applied_le
  count := h.count_next
  inFlight hawaiting := by cases (Editor.isAwaiting_iff.mp hawaiting).1

theorem clear (h : SingleFlight s e) (cursor : Nat) :
    SingleFlight s { e with draft := e.draft.cleared cursor, pending := none } where
  sound := .cleared cursor
  calls_le c hc := Nat.le_succ_of_le (h.calls_le c hc)
  replies_le reply hreply := Nat.le_succ_of_le (h.replies_le reply hreply)
  pending_id p hp := by cases hp
  pending_open p hp := by cases hp
  count := by
    rw [if_neg fun hawaiting => Nat.lt_irrefl _ (Editor.isAwaiting_iff.mp hawaiting).2]
    exact h.count_next
  inFlight hawaiting := absurd (Editor.isAwaiting_iff.mp hawaiting).2 (Nat.lt_irrefl _)

theorem event (h : SingleFlight s e) (event : Event) {e' : Editor}
    (he' : (s.handle env e event).editor = some e') : SingleFlight (s.handle env e event) e' := by
  rcases handle_inv he' with ⟨text, cursor, -, hne, rfl, hs⟩ | ⟨cursor, -, rfl, hs⟩ |
      ⟨name, -, rfl, hs⟩ | ⟨signal, -, rfl, hs⟩ <;> rw [hs]
  · exact (h.retype hne cursor env.timing s.clock).congr (by simp) (by simp)
  · exact (h.clear cursor).congr (by simp) (by simp)
  · exact (h.rename name).congr (by simp) (by simp)
  · exact h.congr (by simp) (by simp)

/-- The waiting request, once sent, is the only one outstanding under its id. -/
theorem send (h : SingleFlight s e) {id : RequestId} (hdue : e.due? s.clock = some id) :
    SingleFlight (s.ask env e id) (e.sent id) := by
  obtain ⟨p, hp, -, rfl⟩ := Editor.due?_eq_some.mp hdue
  have hid := h.pending_id p hp
  have hopen := h.pending_open p hp
  have hawaiting : (e.sent p.id).isAwaiting := Editor.isAwaiting_iff.mpr ⟨rfl, hopen⟩
  have hnot : ¬ e.isAwaiting := by simp [Editor.isAwaiting, hp]
  have hcount := h.count
  rw [if_neg hnot] at hcount
  refine ⟨h.sound, ?_, h.replies_le, nofun, nofun, ?_, fun _ => congrArg some hid⟩
  · intro c hc
    rcases List.mem_append.mp hc with hc | hc
    · exact h.calls_le c hc
    · rw [List.mem_singleton.mp hc]
      exact Nat.le_of_eq hid
  -- nothing was outstanding under the last id, and the new call is the one that is
  · rw [if_pos hawaiting]
    simp only [outstanding, ask, note, Editor.sent, List.count_append, List.filter_append,
      List.map_append, Call.make, hid] at hcount ⊢
    simp only [List.filter_cons, List.filter_nil, Bool.not_false, if_true, List.map_cons,
      List.map_nil, List.count_singleton_self]
    omega

/-- A reply is taken off the outstanding ones; if it is the awaited one, nothing is awaited any
more. -/
theorem receive (h : SingleFlight s e) {front back : List Reply} {reply : Reply}
    (hreplies : s.replies = front ++ reply :: back) :
    SingleFlight { s with replies := front ++ back } (e.receive reply).1 := by
  have hreply : reply ∈ s.replies := by simp [hreplies]
  have hrest := mem_of_rest hreplies
  have hcount : s.outstanding.count e.draft.issued =
      (outstanding { s with replies := front ++ back }).count e.draft.issued +
        if reply.id = e.draft.issued then 1 else 0 := by
    simp only [outstanding, hreplies, List.map_append, List.map_cons, List.count_append,
      List.count_cons, beq_iff_eq]
    omega
  rw [h.count] at hcount
  by_cases hid : reply.id = e.draft.issued
  -- the awaited reply: the draft has applied its id, whatever came of the request
  · have hawaiting := h.isAwaiting_of_mem (hid ▸ mem_outstanding_of_reply hreply)
    have hnone := (Editor.isAwaiting_iff.mp hawaiting).1
    have hlt := (Editor.isAwaiting_iff.mp hawaiting).2
    rw [if_pos hawaiting, if_pos hid] at hcount
    have key : (e.receive reply).1.draft.Sound ∧
        (e.receive reply).1.draft.issued = e.draft.issued ∧
        (e.receive reply).1.draft.applied = e.draft.issued := by
      rcases e.receive_cases reply with ⟨hstale, -⟩ | ⟨-, evaluation, -, heq⟩ | ⟨-, -, heq⟩
      · exact absurd ((h.accepts_iff_id hreply).mpr hid) hstale
      · rw [heq]
        exact ⟨h.sound.answered hlt _, rfl, rfl⟩
      · rw [heq]
        exact ⟨.unanswered, rfl, rfl⟩
    obtain ⟨hsound, hissued, happlied⟩ := key
    have hnot : ¬ (e.receive reply).1.isAwaiting := by
      rw [Editor.isAwaiting_iff, hissued, happlied]
      exact fun hboth => Nat.lt_irrefl _ hboth.2
    have hpending : ∀ p, (e.receive reply).1.pending ≠ some p := by
      rw [e.receive_pending, hnone]
      nofun
    refine ⟨hsound, ?_, ?_, fun p hp => absurd hp (hpending p), fun p hp => absurd hp (hpending p),
      ?_, fun hyes => absurd hyes hnot⟩
    · rw [hissued]
      exact h.calls_le
    · rw [hissued]
      exact fun r hr => h.replies_le r (hrest r hr)
    · rw [hissued, if_neg hnot]
      omega
  -- a stale reply
  · have hstale : ¬ e.draft.accepts reply.id := fun haccepts =>
      hid ((h.accepts_iff_id hreply).mp haccepts)
    rw [Editor.receive_of_not_accepts hstale]
    rw [if_neg hid] at hcount
    refine ⟨h.sound, h.calls_le, fun r hr => h.replies_le r (hrest r hr), h.pending_id,
      h.pending_open, hcount.symm, fun hawaiting => ?_⟩
    have hflight := h.inFlight hawaiting
    simp only [Editor.landed, hflight, Option.some.injEq]
    rw [if_neg (Ne.symm hid)]

theorem expire (h : SingleFlight s e) {front back : List Call} {c : Call}
    (hcalls : s.calls = front ++ c :: back) (hc : c.isOverdue s.clock) :
    SingleFlight
      { s with
        calls := front ++ { c with expired := true } :: back
        replies := s.replies ++ [⟨c.id, .timedOut⟩] } e := by
  have hx : c.expired = false := by
    simp only [Call.isOverdue, Bool.and_eq_true, Bool.not_eq_true'] at hc
    exact hc.1
  have hle : c.id ≤ e.draft.issued :=
    h.calls_le c (hcalls ▸ List.mem_append_cons_self)
  refine h.of_perm ?_ (continues_expire hcalls) fun reply hreply => ?_
  · rw [List.perm_iff_count]
    intro id
    simp only [outstanding, hcalls, List.filter_append, List.filter_cons, hx, Bool.not_true,
      Bool.not_false, if_true, Bool.false_eq_true, if_false, List.map_append, List.map_cons,
      List.map_nil, List.count_append, List.count_cons, List.count_nil]
    omega
  · rcases List.mem_append.mp hreply with hreply | hreply
    · exact h.replies_le reply hreply
    · rw [List.mem_singleton.mp hreply]
      exact hle

theorem collect (h : SingleFlight s e) {front back : List Call} {c : Call}
    (hcalls : s.calls = front ++ c :: back) :
    SingleFlight
      { s with
        calls := front ++ back
        replies := s.replies ++ if c.expired then [] else [⟨c.id, c.result env⟩] } e := by
  have hle : c.id ≤ e.draft.issued :=
    h.calls_le c (hcalls ▸ List.mem_append_cons_self)
  refine h.of_perm ?_ (continues_collect hcalls) fun reply hreply => ?_
  · rw [List.perm_iff_count]
    intro id
    cases hx : c.expired <;>
      simp only [outstanding, hcalls, List.filter_append, List.filter_cons, hx, Bool.not_true,
        Bool.not_false, if_true, Bool.false_eq_true, if_false, List.map_append, List.map_cons,
        List.map_nil, List.count_append, List.count_cons, List.count_nil] <;>
      omega
  · rcases List.mem_append.mp hreply with hreply | hreply
    · exact h.replies_le reply hreply
    · cases hx : c.expired <;> simp [hx] at hreply
      rw [hreply]
      exact hle

theorem release (h : SingleFlight s e) (id : RequestId) : SingleFlight (s.release id) e := by
  have hid : ∀ c : Call, (if c.id = id then { c with held := false } else c).id = c.id := by
    intro c
    split <;> rfl
  have hexpired : ∀ c : Call,
      (if c.id = id then { c with held := false } else c).expired = c.expired := by
    intro c
    split <;> rfl
  refine h.of_perm (List.Perm.of_eq ?_) continues_release h.replies_le
  simp only [outstanding, Session.release, List.filter_map, List.map_map, Function.comp_def, hid,
    hexpired]

theorem start {saved : Option SavedFilter} {maySave : Bool}
    (he : (start env (.opening saved maySave)).editor = some e) :
    SingleFlight (Session.start env (.opening saved maySave)) e := by
  rcases start_cases env saved maySave with ⟨-, hs⟩ | ⟨filter, -, hne, hs⟩ <;> rw [hs] at he ⊢
  · cases he
    have hsound := Draft.Sound.opening saved maySave
    have hnot : ¬ Editor.isAwaiting { draft := .opening saved maySave } := by
      rw [Editor.isAwaiting_iff]
      cases saved <;> exact fun h => Nat.lt_irrefl 0 h.2
    exact ⟨hsound, nofun, nofun, nofun, nofun, by rw [if_neg hnot]; rfl, fun h => absurd h hnot⟩
  · cases he
    have hsound : (openedDraft filter maySave).Sound :=
      (Draft.Sound.opening (some filter) maySave).retyped hne _
    have hawaiting : Editor.isAwaiting
        { draft := openedDraft filter maySave, inFlight := some 1 } :=
      Editor.isAwaiting_iff.mpr ⟨rfl, Nat.zero_lt_one⟩
    refine ⟨hsound, fun c hc => ?_, nofun, nofun, nofun, by rw [if_pos hawaiting]; rfl, fun _ => rfl⟩
    rw [List.mem_singleton.mp hc]
    exact Nat.le_refl 1

end SingleFlight

/-- A move keeps it, as long as the session lives. -/
theorem singleFlight_move {env : Setting} {s s' : Session} (move : Move env s s')
    (h : ∀ e, s.editor = some e → SingleFlight s e) :
    ∀ e, s'.editor = some e → SingleFlight s' e := by
  intro e he
  cases move with
  | inner move =>
      cases move with
      | pass => exact (h e he).congr rfl rfl
      | expire hcalls hc => exact (h e he).expire hcalls hc
      | collect hcalls => exact (h e he).collect hcalls
      | receive hreplies =>
          obtain ⟨e, hs, rfl⟩ := receive_inv he
          exact ((h e hs).receive hreplies).congr (receive_keeps ..).1 (receive_keeps ..).2.1
      | send hs hdue =>
          cases he
          exact (h _ hs).send hdue
  | event hs event => exact (h _ hs).event event he
  | release id => exact (h e he).release id
  | closeSignals => exact (h e he).congr rfl rfl
  | kill => cases he

/-- **Single flight.**  In every session that arises, the last id issued is outstanding once while
its answer is awaited, and else not at all. -/
theorem Arises.singleFlight {env : Setting} {saved : Option SavedFilter} {maySave : Bool}
    {s : Session} (hs : Arises env saved maySave s) :
    ∀ e, s.editor = some e → SingleFlight s e := by
  induction hs with
  | refl => exact fun e he => .start he
  | tail _ move ih => exact singleFlight_move move ih

end Session
end FilterEditor
