import FilterEditor.Proofs.Bursts
import FilterEditor.Proofs.Lifetime
import Mathlib.Data.List.TakeWhile

/-!
# Proofs — the call log

The log of the calls to the oracle follows the changes of the text in a run (`calls_follow_changes`).

The changes are counted from one, with the query that a session opens with as the first, and the
number of a change is the id of its request (`edits_after`).  What the oracle is asked is a sublist
of that (`Journal.Orderly.requests_sublist`): in order, each request at most once, and about exactly
the text of its change.
-/

namespace FilterEditor

/-- The change of the text that the step makes, if it makes one. -/
def Step.change? : Step → Option (String × Nat)
  | .event (.textChanged text cursor) => some (text, cursor)
  | _ => none

namespace Session
open Relation Journal

/-! ### The changes of a run -/

/-- The change that a session opens with: the saved query, if it is not empty. -/
def openingChange (saved : Option SavedFilter) : List (String × Nat) :=
  match saved with
  | some filter => if filter.query = "" then [] else [(filter.query, filter.query.length)]
  | none => []

/-- The changes of the text in a run, with their cursors.  A session that was ended takes no more. -/
def changes (saved : Option SavedFilter) (steps : List Step) : List (String × Nat) :=
  openingChange saved ++ (steps.takeWhile (· ≠ .kill)).filterMap Step.change?

/-- The requests of some changes, with the ids from one on. -/
def numbered (changes : List (String × Nat)) : List Request :=
  changes.mapIdx fun i change => ⟨i + 1, change.1, change.2⟩

section
variable {env : Setting} {saved : Option SavedFilter} {maySave : Bool} {s s' : Session} {e : Editor}
  {steps : List Step} {st : Step}

theorem numbered_concat (changes : List (String × Nat)) (text : String) (cursor : Nat) :
    numbered (changes ++ [(text, cursor)]) =
      numbered changes ++ [⟨changes.length + 1, text, cursor⟩] :=
  List.mapIdx_concat

/-- A step changes the text, or makes no change. -/
theorem change?_cases (st : Step) :
    (∃ text cursor, st = .event (.textChanged text cursor)) ∨
      st.changesText = false ∧ st.change? = none := by
  cases st with
  | event event =>
      cases event with
      | textChanged text cursor => exact .inl ⟨text, cursor, rfl⟩
      | nameChanged | execute => exact .inr ⟨rfl, rfl⟩
  | advance | release | closeSignals | kill => exact .inr ⟨rfl, rfl⟩

theorem takeWhile_running (hkill : Step.kill ∉ steps) : steps.takeWhile (· ≠ .kill) = steps :=
  List.takeWhile_eq_self_iff.mpr fun _ hst => decide_eq_true fun heq => hkill (heq ▸ hst)

/-- Nothing is changed any more once a session was ended. -/
theorem changes_concat_ended (hkill : Step.kill ∈ steps) (st : Step) :
    changes saved (steps ++ [st]) = changes saved steps := by
  obtain ⟨front, back, rfl⟩ := List.append_of_mem hkill
  have hends : ∀ more, (front ++ Step.kill :: more).takeWhile (· ≠ .kill) =
      front.takeWhile (· ≠ .kill) := fun more => by
    rw [List.takeWhile_append]
    split
    · next hall =>
        rw [List.takeWhile_cons_of_neg (by simp), List.append_nil]
        exact ((List.takeWhile_prefix _).eq_of_length hall).symm
    · rfl
  rw [changes, List.append_assoc, List.cons_append, hends, changes, hends]

theorem changes_concat (hkill : Step.kill ∉ steps) (st : Step) :
    changes saved (steps ++ [st]) = changes saved steps ++ st.change?.toList := by
  have hrunning := takeWhile_running hkill
  rw [changes, List.takeWhile_append, hrunning, if_pos rfl, List.filterMap_append,
    ← List.append_assoc, changes, hrunning]
  cases st with
  | event event => cases event <;> rfl
  | advance | release | closeSignals | kill => rfl

theorem length_changes (hkill : Step.kill ∉ steps) :
    (changes saved steps).length = openingIds saved + steps.countP Step.changesText := by
  have hopening : (openingChange saved).length = openingIds saved := by
    cases saved with
    | none => rfl
    | some filter =>
        by_cases hempty : filter.query = "" <;>
          simp [openingChange, openingIds, Draft.opening, Draft.ofSaved, hempty]
  rw [changes, takeWhile_running hkill, List.length_append, hopening, List.length_filterMap_eq_countP]
  refine congrArg _ (List.countP_congr fun st _ => ?_)
  cases st with
  | event event => cases event <;> simp [Step.change?, Step.changesText]
  | advance | release | closeSignals | kill => simp [Step.change?, Step.changesText]

/-! ### The changes in the journal -/

/-- A session that has ended takes no change. -/
theorem edits_ended (moves : ReflTransGen (Move env) s s') (hs : s.editor = none) :
    edits s'.journal = edits s.journal := by
  induction moves with
  | refl => rfl
  | tail moves move ih =>
      have hnone := editor_none_of_moves moves hs
      rcases move_cases move with hgrown | ⟨e, -, he, -⟩ | ⟨e, -, -, he, -⟩
      · rw [hgrown.edits_eq, ih]
      · rw [hnone] at he
        cases he
      · rw [hnone] at he
        cases he

theorem ended_after (hkill : Step.kill ∈ steps) : (after env saved maySave steps).editor = none := by
  obtain ⟨front, back, rfl⟩ := List.append_of_mem hkill
  have hended : (after env saved maySave (front ++ [.kill])).editor = none := by
    rw [after_concat]
    exact editor_none_of_moves (moves_of_inner (settle_moves env _)) rfl
  have hmoves : ReflTransGen (Move env) (after env saved maySave (front ++ [.kill]))
      (after env saved maySave (front ++ [.kill] ++ back)) := after_moves (front ++ [.kill]) back
  rw [List.append_assoc] at hmoves
  exact editor_none_of_moves hmoves hended

/-- A change that a session takes is noted under the next id. -/
theorem edits_changed (hs : Arises env saved maySave s) (he : s.editor = some e)
    (hlt : e.draft.issued + 1 < offsetLimit) (text : String) (cursor : Nat) :
    edits (s.step env (.event (.textChanged text cursor))).journal =
      ⟨s.clock, (edits s.journal).length + 1, text, cursor⟩ :: edits s.journal := by
  rw [step, edits_innerMoves (settle_moves env _), ← (Arises.waits hs e he).issued]
  simp only [take, he]
  rcases s.handle_cases env e (.textChanged text cursor) with hs | ⟨_, _, heq, -, hs⟩ |
      ⟨_, heq, hs⟩ | ⟨_, heq, -⟩ | ⟨_, heq, -⟩
  -- there is an id left, so this is no fault
  · refine absurd (congrArg Session.editor hs) (handle_lives fun _ => hlt)
  · cases heq
    rw [hs, edits_become]
    rfl
  · cases heq
    rw [hs, edits_become]
    rfl
  · cases heq
  · cases heq

/-- **The changes of a run** are those in its journal, each under its number. -/
theorem edits_after (hids : (changes saved steps).length < offsetLimit) :
    (edits (after env saved maySave steps).journal).reverse.map Edit.request =
      numbered (changes saved steps) := by
  induction steps using List.reverseRecOn with
  | nil =>
      rw [after_nil, edits_innerMoves (settle_moves env _)]
      rcases start_cases env saved maySave with ⟨hempty, hs⟩ | ⟨filter, rfl, hne, hs⟩ <;> rw [hs]
      · have hnone : changes saved [] = [] := by
          cases saved with
          | none => rfl
          | some filter => simp [changes, openingChange, show filter.query = "" from hempty]
        rw [hnone]
        rfl
      · have hone : changes (some filter) [] = [(filter.query, filter.query.length)] := by
          simp [changes, openingChange, hne]
        rw [hone]
        rfl
  | append_singleton steps st ih =>
      by_cases hkill : Step.kill ∈ steps
      · rw [changes_concat_ended hkill] at hids ⊢
        rw [after_concat, edits_ended (step_moves (after_still steps) st) (ended_after hkill)]
        exact ih hids
      · rw [changes_concat hkill] at hids ⊢
        have hbefore : (changes saved steps).length < offsetLimit :=
          Nat.lt_of_le_of_lt (by simp) hids
        have ih := ih hbefore
        have still : (after env saved maySave steps).Still := after_still steps
        rw [after_concat]
        rcases change?_cases st with ⟨text, cursor, rfl⟩ | ⟨hst, hnone⟩
        · obtain ⟨e, he⟩ : ∃ e, (after env saved maySave steps).editor = some e :=
            lives_after hkill (length_changes hkill ▸ hbefore)
          have hs : Arises env saved maySave (after env saved maySave steps) := arises_after steps
          have hlength : (edits (after env saved maySave steps).journal).length =
              (changes saved steps).length := by
            simpa [numbered] using congrArg List.length ih
          have hlt : e.draft.issued + 1 < offsetLimit := by
            rw [(Arises.waits hs e he).issued, hlength]
            simpa [Step.change?] using hids
          rw [edits_changed hs he hlt, List.reverse_cons, List.map_append, ih, hlength]
          exact (numbered_concat ..).symm
        · rw [edits_step still hst, ih, hnone, Option.toList_none, List.append_nil]

/-! ### The theorem -/

theorem askedTexts_eq (s : Session) : s.askedTexts = (requests s.journal).reverse.map (·.text) := by
  rw [askedTexts, requests, ← List.filterMap_reverse, List.map_filterMap]
  refine congrArg (List.filterMap · s.journal.reverse) (funext fun entry => ?_)
  obtain ⟨time, happening⟩ := entry
  cases happening <;> rfl

/-- The oracle is never asked about an empty text. -/
theorem Arises.text_ne_of_mem_requests (hs : Arises env saved maySave s) {request : Request}
    (hrequest : request ∈ requests s.journal) : request.text ≠ "" := by
  obtain ⟨entry, hentry, hnotes⟩ := List.mem_filterMap.mp hrequest
  obtain ⟨front, past, hjournal⟩ := List.append_of_mem hentry
  rcases (Arises.orderly hs).sent entry past request (hjournal ▸ List.suffix_append ..) hnotes with
    ⟨last, older, hburst, rfl, -⟩ | ⟨edit, -, rfl, hne, -⟩
  · exact text_ne_of_mem_burst (hburst ▸ List.mem_cons_self ..)
  · exact hne

theorem mem_numbered {changes : List (String × Nat)} {request : Request}
    (h : request ∈ numbered changes) :
    1 ≤ request.id ∧ changes[request.id - 1]? = some (request.text, request.cursor) := by
  obtain ⟨i, hi, rfl⟩ := List.mem_mapIdx.mp h
  exact ⟨Nat.succ_pos i, List.getElem?_eq_getElem hi⟩

/-- **The calls follow the changes.**  Take any run whose changes do not use up the ids.

The changes of the text in its journal are those of the run, the n-th one under the id n, and as long
as the session lives, their number is the last id that it issued.  The requests in the journal bear
ids that grow, so none bears the id of another, and each is about exactly the text and the cursor of
the change that its id was issued for, and about no empty text.  So the texts that the oracle was
asked about are a sublist of the texts of the run that are not empty. -/
theorem calls_follow_changes (hids : (changes saved steps).length < offsetLimit) :
    (edits (after env saved maySave steps).journal).reverse.map Edit.request =
      numbered (changes saved steps) ∧
    (∀ e, (after env saved maySave steps).editor = some e →
      e.draft.issued = (changes saved steps).length) ∧
    ((requests (after env saved maySave steps).journal).reverse.map (·.id)).Pairwise (· < ·) ∧
    (∀ request ∈ requests (after env saved maySave steps).journal, 1 ≤ request.id ∧
      (changes saved steps)[request.id - 1]? = some (request.text, request.cursor) ∧
      request.text ≠ "") ∧
    (after env saved maySave steps).askedTexts =
      (requests (after env saved maySave steps).journal).reverse.map (·.text) ∧
    (after env saved maySave steps).askedTexts.Sublist
      (((changes saved steps).map Prod.fst).filter (· ≠ "")) := by
  have hs : Arises env saved maySave (after env saved maySave steps) := arises_after steps
  have hedits : (edits (after env saved maySave steps).journal).reverse.map Edit.request =
      numbered (changes saved steps) := edits_after hids
  have horderly := Arises.orderly hs
  have hsublist : (requests (after env saved maySave steps).journal).reverse.Sublist
      (numbered (changes saved steps)) := by
    have hall := horderly.requests_sublist.trans ((List.drop_sublist _ _).map _)
    rw [← hedits, List.map_reverse]
    exact hall.reverse
  have hnonempty : ∀ request ∈ requests (after env saved maySave steps).journal,
      request.text ≠ "" := fun _ hrequest => Arises.text_ne_of_mem_requests hs hrequest
  refine ⟨hedits, fun e he => ?_, ?_, fun request hrequest => ?_, askedTexts_eq _, ?_⟩
  · rw [(Arises.waits hs e he).issued]
    simpa [numbered] using congrArg List.length hedits
  · rw [List.map_reverse, List.pairwise_reverse]
    exact horderly.requests_decreasing
  · obtain ⟨hpos, hchange⟩ := mem_numbered (hsublist.subset (List.mem_reverse.mpr hrequest))
    exact ⟨hpos, hchange, hnonempty request hrequest⟩
  · have htexts := (hsublist.map Request.text).filter (· ≠ "")
    have hall : ((requests (after env saved maySave steps).journal).reverse.map Request.text).filter
        (· ≠ "") = (requests (after env saved maySave steps).journal).reverse.map Request.text := by
      refine List.filter_eq_self.mpr fun text htext => ?_
      obtain ⟨request, hrequest, rfl⟩ := List.mem_map.mp htext
      exact decide_eq_true (hnonempty request (List.mem_reverse.mp hrequest))
    have hnumbered : (numbered (changes saved steps)).map Request.text =
        (changes saved steps).map Prod.fst :=
      List.ext_getElem (by simp [numbered]) (by simp [numbered])
    rwa [hall, hnumbered, ← askedTexts_eq] at htexts

end

/-! ### A query that is cleared and typed again -/

/-- The saved query is sent.  It is cleared before a change is sent, and typed again. -/
def retypedSteps : List Step :=
  [.event (.textChanged "ab" 2), .event (.textChanged "" 0), .event (.textChanged "a" 1),
    .advance 1000]

/-- Of the four changes, those to the empty text and to a text that was overtaken go unasked. -/
theorem calls_follow_changes_retyped :
    (changes (some ⟨"name", "a"⟩) retypedSteps).length < offsetLimit ∧
      (edits (after patient (some ⟨"name", "a"⟩) true retypedSteps).journal).reverse.map Edit.request =
        [⟨1, "a", 1⟩, ⟨2, "ab", 2⟩, ⟨3, "", 0⟩, ⟨4, "a", 1⟩] ∧
      (after patient (some ⟨"name", "a"⟩) true retypedSteps).askedTexts.Sublist ["a", "ab", "a"] := by
  have hids : (changes (some ⟨"name", "a"⟩) retypedSteps).length < offsetLimit := by decide
  obtain ⟨hedits, -, -, -, -, hasked⟩ :=
    @calls_follow_changes patient (some ⟨"name", "a"⟩) true retypedSteps hids
  exact ⟨hids, hedits.trans (by decide), hasked⟩

end Session
end FilterEditor
