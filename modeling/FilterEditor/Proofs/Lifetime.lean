import FilterEditor.Proofs.Runs

/-!
# Proofs — Lifetime

How long a session lives: a run that is not killed comes to a session with an editor, as long as its
changes of the text do not use up the ids (`lives_after`).  One id goes to the saved query that a
session opens with (`openingIds`), and one to each change; nothing else issues any (`LivesWithin`).
-/

namespace FilterEditor
namespace Session
open Relation

/-- The number of ids that a session issues as it opens: one, if it opens with a query. -/
def openingIds (saved : Option SavedFilter) : Nat :=
  if (Draft.opening saved false).text = "" then 0 else 1

theorem openingIds_le_one (saved : Option SavedFilter) : openingIds saved ≤ 1 := by
  rw [openingIds]
  split <;> decide

/-- The session lives, and has issued at most so many ids. -/
def LivesWithin (s : Session) (ids : Nat) : Prop :=
  ∃ e, s.editor = some e ∧ e.draft.issued ≤ ids

section
variable {env : Setting} {saved : Option SavedFilter} {maySave : Bool} {s s' : Session} {ids : Nat}

theorem LivesWithin.mono (h : s.LivesWithin ids) {more : Nat} (hle : ids ≤ more) :
    s.LivesWithin more := by
  obtain ⟨e, he, hids⟩ := h
  exact ⟨e, he, Nat.le_trans hids hle⟩

theorem LivesWithin.receive (h : s.LivesWithin ids) (reply : Reply) :
    (s.receive reply).LivesWithin ids := by
  obtain ⟨e, he, hids⟩ := h
  refine ⟨(e.receive reply).1, by rw [receive_some he, become_editor], ?_⟩
  rwa [(e.receive_draft reply).1]

/-- Nothing that happens by itself ends a session, or issues an id. -/
theorem LivesWithin.innerMoves (h : s.LivesWithin ids) (moves : ReflTransGen (InnerMove env) s s') :
    s'.LivesWithin ids := by
  induction moves with
  | refl => exact h
  | @tail t _ _ move ih =>
      cases move with
      | pass | expire | collect => exact ih
      | @receive front back reply =>
          have hrest : LivesWithin { t with replies := front ++ back } ids := ih
          exact hrest.receive reply
      | send he =>
          obtain ⟨e, hsome, hids⟩ := ih
          cases hsome.symm.trans he
          exact ⟨_, rfl, hids⟩

/-- An event is no fault while ids last. -/
theorem handle_lives {e : Editor} {event : Event}
    (hlt : (Step.event event).changesText → e.draft.issued + 1 < offsetLimit) :
    (s.handle env e event).editor ≠ none := by
  cases event with
  | textChanged text cursor =>
      obtain ⟨e', signals, hchange⟩ :=
        e.changeText_of_lt (hlt rfl) env.timing s.clock text cursor
      simp [handle, Editor.handle, hchange]
  | nameChanged name => simp [handle, Editor.handle]
  | execute => cases hquery : e.draft.executable <;> simp [handle, Editor.handle, hquery]

/-- A change of the text takes an id; no other event takes one. -/
theorem LivesWithin.event (h : s.LivesWithin ids) {e : Editor} (he : s.editor = some e)
    (event : Event) (hroom : ids + (if (Step.event event).changesText then 1 else 0) < offsetLimit) :
    (s.handle env e event).LivesWithin
      (ids + if (Step.event event).changesText then 1 else 0) := by
  obtain ⟨e', he', hids⟩ := h
  cases he.symm.trans he'
  have hlives : (s.handle env e event).editor ≠ none := handle_lives fun hchanges => by
    rw [if_pos hchanges] at hroom
    exact Nat.lt_of_le_of_lt (Nat.add_le_add_right hids 1) hroom
  rcases s.handle_cases env e event with hs | ⟨text, cursor, rfl, -, hs⟩ | ⟨cursor, rfl, hs⟩ |
      ⟨name, rfl, hs⟩ | ⟨signal, rfl, hs, -⟩ <;> rw [hs] at hlives ⊢
  · exact absurd rfl hlives
  · exact ⟨_, become_editor .., by simpa [Step.changesText, Draft.retyped] using hids⟩
  · exact ⟨_, become_editor .., by simpa [Step.changesText, Draft.cleared] using hids⟩
  · exact ⟨_, become_editor .., Nat.le_trans hids (Nat.le_add_right ..)⟩
  · exact ⟨_, become_editor .., Nat.le_trans hids (Nat.le_add_right ..)⟩

theorem LivesWithin.step (h : s.LivesWithin ids) (still : s.Still) {st : Step} (hst : st ≠ .kill)
    (hroom : ids + (if st.changesText then 1 else 0) < offsetLimit) :
    (s.step env st).LivesWithin (ids + if st.changesText then 1 else 0) := by
  suffices htake : (s.take env st).1.LivesWithin (ids + if st.changesText then 1 else 0) from
    htake.innerMoves (settle_moves env _)
  cases st with
  | event event =>
      obtain ⟨e, he, hids⟩ := h
      simp only [take, he]
      exact LivesWithin.event ⟨e, he, hids⟩ he event hroom
  | advance ms => exact (h.innerMoves (advance_moves ms still).1).mono (Nat.le_add_right ..)
  | release text =>
      have hreleased : (s.take env (.release text)).1.LivesWithin ids := by
        rcases take_release env s text with hs | ⟨id, hs⟩ <;> rw [hs] <;> exact h
      exact hreleased.mono (Nat.le_add_right ..)
  | closeSignals => exact LivesWithin.mono (by exact h) (Nat.le_add_right ..)
  | kill => exact absurd rfl hst

theorem LivesWithin.start :
    (Session.start env (.opening saved maySave)).LivesWithin (openingIds saved) := by
  rcases start_cases env saved maySave with ⟨-, hs⟩ | ⟨filter, rfl, hne, hs⟩ <;> rw [hs]
  · refine ⟨_, rfl, ?_⟩
    cases saved <;> exact Nat.zero_le _
  · have hone : openingIds (some filter) = 1 := if_neg hne
    exact ⟨_, rfl, Nat.le_of_eq hone.symm⟩

theorem livesWithin_after (steps : List Step) (hkill : Step.kill ∉ steps)
    (hids : openingIds saved + steps.countP Step.changesText < offsetLimit) :
    (after env saved maySave steps).LivesWithin
      (openingIds saved + steps.countP Step.changesText) := by
  induction steps using List.reverseRecOn with
  | nil =>
      rw [after_nil]
      exact LivesWithin.start.innerMoves (settle_moves env _)
  | append_singleton steps st ih =>
      rw [List.countP_append, List.countP_singleton] at hids ⊢
      rw [List.mem_append, List.mem_singleton, not_or] at hkill
      have hbefore := ih hkill.1 (by omega)
      rw [after_concat, ← Nat.add_assoc]
      exact hbefore.step (after_still steps) (Ne.symm hkill.2) (by omega)

/-- **A run that is not killed** comes to a session that lives, while ids last. -/
theorem lives_after {steps : List Step} (hkill : Step.kill ∉ steps)
    (hids : openingIds saved + steps.countP Step.changesText < offsetLimit) :
    ∃ e, (after env saved maySave steps).editor = some e := by
  obtain ⟨e, he, -⟩ := livesWithin_after steps hkill hids
  exact ⟨e, he⟩

end
end Session
end FilterEditor
