import FilterEditor.Proofs.Replies

/-!
# Proofs — the last request wins

A reply that changes a draft, or tells the surface anything, answers the last request of the session,
for the first time, and is about exactly the text and the cursor that the draft has at that moment
(`last_request_wins`).  Whatever order the oracle returns in, nothing that it said of an older text
is ever applied or shown.

That it answers for the first time follows from the two counters of a draft, which never go back
(`counters_le_of_moves`): a reply under the last id is applied when it is received, and from then on
the id counts as applied.
-/

namespace FilterEditor
namespace Session
open Relation

/-- The session receives one of the replies that wait, and becomes another. -/
def Receives (s : Session) (reply : Reply) (s' : Session) : Prop :=
  ∃ front back, s.replies = front ++ reply :: back ∧
    s' = { s with replies := front ++ back }.receive reply

section
variable {env : Setting} {saved : Option SavedFilter} {maySave : Bool} {s s' : Session}
  {e e' : Editor} {reply : Reply}

theorem Receives.mem (h : Receives s reply s') : reply ∈ s.replies := by
  obtain ⟨front, back, hreplies, -⟩ := h
  exact hreplies ▸ List.mem_append_cons_self

theorem Receives.move (h : Receives s reply s') : Move env s s' := by
  obtain ⟨front, back, hreplies, rfl⟩ := h
  exact .inner (.receive hreplies)

theorem Receives.editor (h : Receives s reply s') (he : s.editor = some e) :
    s'.editor = some (e.receive reply).1 := by
  obtain ⟨front, back, -, rfl⟩ := h
  have hrest : { s with replies := front ++ back }.editor = some e := he
  rw [receive_some hrest, become_editor]

/-! ### Counters -/

theorem counters_le_of_receive (hsound : e.draft.Sound) (reply : Reply) :
    e.draft.applied ≤ (e.receive reply).1.draft.applied ∧
      e.draft.issued ≤ (e.receive reply).1.draft.issued := by
  refine ⟨?_, Nat.le_of_eq (e.receive_draft reply).1.symm⟩
  rcases e.receive_cases reply with ⟨-, heq⟩ | ⟨-, evaluation, -, heq⟩ | ⟨-, -, heq⟩
  · exact Nat.le_of_eq (by rw [heq])
  · exact heq ▸ hsound.applied_le
  · exact heq ▸ hsound.applied_le

theorem counters_le_of_event (hsound : e.draft.Sound) {event : Event}
    (he' : (s.handle env e event).editor = some e') :
    e.draft.applied ≤ e'.draft.applied ∧ e.draft.issued ≤ e'.draft.issued := by
  rcases handle_inv he' with ⟨text, cursor, -, -, rfl, -⟩ | ⟨cursor, -, rfl, -⟩ | ⟨name, -, rfl, -⟩ |
      ⟨signal, -, rfl, -⟩
  · exact ⟨Nat.le_refl _, Nat.le_succ _⟩
  · exact ⟨Nat.le_succ_of_le hsound.applied_le, Nat.le_succ _⟩
  · exact ⟨Nat.le_refl _, Nat.le_refl _⟩
  · exact ⟨Nat.le_refl _, Nat.le_refl _⟩

theorem counters_le_of_move (move : Move env s s') (hsound : e.draft.Sound)
    (he : s.editor = some e) (he' : s'.editor = some e') :
    e.draft.applied ≤ e'.draft.applied ∧ e.draft.issued ≤ e'.draft.issued := by
  cases move with
  | inner move =>
      cases move with
      | pass | expire | collect =>
          rw [he] at he'
          cases he'
          exact ⟨Nat.le_refl _, Nat.le_refl _⟩
      | receive =>
          obtain ⟨e, hsome, rfl⟩ := receive_inv he'
          cases hsome.symm.trans he
          exact counters_le_of_receive hsound _
      | send hsome =>
          cases hsome.symm.trans he
          cases he'
          exact ⟨Nat.le_refl _, Nat.le_refl _⟩
  | event hsome event =>
      cases hsome.symm.trans he
      exact counters_le_of_event hsound he'
  | release | closeSignals =>
      cases he.symm.trans he'
      exact ⟨Nat.le_refl _, Nat.le_refl _⟩
  | kill => cases he'

/-- The ids that a draft issued and applied never go back. -/
theorem counters_le_of_moves (hs : Arises env saved maySave s) (moves : ReflTransGen (Move env) s s')
    (he : s.editor = some e) (he' : s'.editor = some e') :
    e.draft.applied ≤ e'.draft.applied ∧ e.draft.issued ≤ e'.draft.issued := by
  induction moves generalizing e' with
  | refl =>
      cases he.symm.trans he'
      exact ⟨Nat.le_refl _, Nat.le_refl _⟩
  | @tail t t' moves move ih =>
      cases ht : t.editor with
      | none => rw [editor_none_of_moves (.single move) ht] at he'; cases he'
      | some d =>
          obtain ⟨happlied, hissued⟩ := ih ht
          have hsound := (Arises.singleFlight (hs.trans moves) d ht).sound
          obtain ⟨happlied', hissued'⟩ := counters_le_of_move move hsound ht he'
          exact ⟨Nat.le_trans happlied happlied', Nat.le_trans hissued hissued'⟩

/-- A reply under the last id settles it. -/
theorem applied_of_receive (h : SingleFlight s e) (hreply : reply ∈ s.replies)
    (hid : reply.id = e.draft.issued) : (e.receive reply).1.draft.applied = reply.id := by
  have haccepts := (h.accepts_iff_id hreply).mpr hid
  rcases e.receive_cases reply with ⟨hstale, -⟩ | ⟨-, evaluation, -, heq⟩ | ⟨-, -, heq⟩
  · exact absurd haccepts hstale
  · rw [heq, hid]
    rfl
  · rw [heq, hid]
    rfl

/-- **First answer.**  No reply that was received before bears the id of one that the draft
accepts. -/
theorem id_ne_of_receives {s₀ s₁ : Session} {reply₀ : Reply} (hs₀ : Arises env saved maySave s₀)
    (hreceives : Receives s₀ reply₀ s₁) (moves : ReflTransGen (Move env) s₁ s)
    (he : s.editor = some e) (haccepts : e.draft.accepts reply.id) : reply₀.id ≠ reply.id := by
  intro hsame
  obtain ⟨hid, hopen⟩ := Draft.accepts_iff.mp haccepts
  cases he₀ : s₀.editor with
  | none =>
      have hnone := editor_none_of_moves ((ReflTransGen.single hreceives.move).trans moves) he₀
      rw [he] at hnone
      cases hnone
  | some e₀ =>
      have hs₁ : Arises env saved maySave s₁ := hs₀.tail hreceives.move
      have hflight := Arises.singleFlight hs₀ e₀ he₀
      obtain ⟨happlied, hissued⟩ := counters_le_of_moves hs₁ moves (hreceives.editor he₀) he
      rw [(e₀.receive_draft reply₀).1] at hissued
      -- the id was the last one issued then, too, and has counted as applied since
      have hid₀ : reply₀.id = e₀.draft.issued := Nat.le_antisymm
        (hflight.replies_le reply₀ hreceives.mem) (Nat.le_trans hissued (Nat.le_of_eq (hid ▸ hsame.symm)))
      rw [applied_of_receive hflight hreceives.mem hid₀, hsame] at happlied
      exact Nat.not_lt.mpr happlied hopen

/-! ### The theorem -/

/-- A reply that changes the draft or says anything was accepted. -/
theorem accepts_of_effect (heffect : (e.receive reply).1.draft ≠ e.draft ∨ (e.receive reply).2 ≠ []) :
    e.draft.accepts reply.id := by
  by_contra hstale
  rw [Editor.receive_of_not_accepts hstale] at heffect
  exact heffect.elim (fun h => h rfl) (fun h => h rfl)

/-- **The last request wins.**  Let a session that arises in any run receive any of the replies that
wait, and let that change the draft or tell the surface anything.  Then the reply bears the last id
issued, which was not applied yet, and no reply received before bears that id.  If it brings an
evaluation, that is the one of the draft's own text and cursor at that moment. -/
theorem last_request_wins (hs : Arises env saved maySave s) (he : s.editor = some e)
    (hreceives : Receives s reply s')
    (heffect : (e.receive reply).1.draft ≠ e.draft ∨ (e.receive reply).2 ≠ []) :
    reply.id = e.draft.issued ∧ e.draft.applied < reply.id ∧
      (∀ s₀ reply₀ s₁, Arises env saved maySave s₀ → Receives s₀ reply₀ s₁ →
        ReflTransGen (Move env) s₁ s → reply₀.id ≠ reply.id) ∧
      ∀ evaluation, reply.result = .completed evaluation →
        ∃ verdict proposal, env.oracle.validate e.draft.text = .ok verdict ∧
          env.oracle.propose e.draft.text e.draft.cursor = .ok proposal ∧
          evaluation.diagnostic = env.formatter.diagnose verdict ∧
          evaluation.suggestions = proposal.suggestions := by
  have haccepts := accepts_of_effect heffect
  obtain ⟨hid, hopen⟩ := Draft.accepts_iff.mp haccepts
  refine ⟨hid, hopen, fun s₀ reply₀ s₁ hs₀ hreceives₀ moves =>
    id_ne_of_receives hs₀ hreceives₀ moves he haccepts, fun evaluation hresult => ?_⟩
  have hanswers := (Arises.faithful hs e he).replies reply hreceives.mem hid
  rw [Reply.Answers, hresult] at hanswers
  obtain ⟨verdict, proposal, hverdict, hproposal, rfl⟩ := Oracle.evaluate_eq_ok.mp hanswers
  exact ⟨verdict, proposal, hverdict, hproposal, rfl, rfl⟩

end

/-! ### Two replies at once -/

/-- The editor of a saved filter whose query went out. -/
def sentEditor : Editor where
  draft := openedDraft ⟨"name", "a"⟩ true
  inFlight := some 1

/-- A session in which the replies to two requests wait: the call on the saved query was held, and
returned only after a new text was sent. -/
def overtaken : Session :=
  let env := accepting (· == "a")
  let s := start env (.opening (some ⟨"name", "a"⟩) true)
  (((s.handle env sentEditor (.textChanged "b" 1)).release 1).fire env).collect env

theorem overtaken_arises : Arises (accepting (· == "a")) (some ⟨"name", "a"⟩) true overtaken :=
  (((ReflTransGen.refl.tail (.event rfl _)).tail (.release _ 1)).trans
    (moves_of_inner (fire_moves _ _))).trans (moves_of_inner (collect_moves _ _))

/-- The reply to the second request is received before the one to the first, and is applied. -/
theorem last_request_wins_overtaken :
    ∃ reply s', Receives overtaken reply s' ∧ reply.id = 2 ∧
      ∀ evaluation, reply.result = .completed evaluation →
        ∃ verdict proposal, (accepting (· == "a")).oracle.validate "b" = .ok verdict ∧
          (accepting (· == "a")).oracle.propose "b" 1 = .ok proposal ∧
          evaluation.diagnostic = (accepting (· == "a")).formatter.diagnose verdict ∧
          evaluation.suggestions = proposal.suggestions := by
  have hreceives : Receives overtaken ⟨2, .completed ⟨.accepted, { cursor := 1 }⟩⟩ _ :=
    ⟨[⟨1, .completed ⟨.accepted, { cursor := 1 }⟩⟩], [], rfl, rfl⟩
  have h := last_request_wins overtaken_arises rfl hreceives (.inr (by decide))
  exact ⟨_, _, hreceives, rfl, h.2.2.2⟩

end Session
end FilterEditor
