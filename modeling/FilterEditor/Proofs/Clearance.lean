import FilterEditor.Proofs.Gating
import FilterEditor.Proofs.History

/-!
# Proofs — Clearance

A surface is told to run a query, or that the user may search or save, only on the strength of what
its journal holds at that moment (`told_cleared`): since the last change of the text, the oracle was
asked about exactly this text, it accepts it, and the surface was told so.  To save takes besides
that the user is permitted to, that the filter has a name, and that it differs from the saved one.

`Earned` says this of one signal, and `AllEarned` of all signals in a journal.  A move adds to the
journal only what the draft shows afterwards, and what the draft shows is borne out by the journal
(`Chronicle`).
-/

namespace FilterEditor
open Text

namespace Session
open Relation Journal

/-! ### What a signal takes -/

/-- The last change of the text is to a text that is not empty and that the oracle accepts, it was
asked about since, and the surface was told then that the query is accepted. -/
structure Cleared (env : Setting) (past : List Entry) (edit : Edit) : Prop where
  last : lastEdit? past = some edit
  nonempty : edit.text ≠ ""
  verdict : env.oracle.validate edit.text = .ok .success
  accepted : Accepted past edit.id edit.text edit.cursor

/-- The user is permitted to save, the filter has a name, and with this text it differs from the
saved one. -/
structure Saveable (saved : Option SavedFilter) (maySave : Bool) (past : List Entry)
    (text : String) : Prop where
  permitted : maySave
  named : ∃ c ∈ (nameAfter saved past).toList, isBlank c = false
  changed : saved ≠ some ⟨nameAfter saved past, text⟩

/-- What stands before the signal in the journal entitles the surface to it. -/
def Earned (env : Setting) (saved : Option SavedFilter) (maySave : Bool) (past : List Entry) :
    Signal → Prop
  | .executeQuery query => ∃ edit, Cleared env past edit ∧ query = edit.text
  | .gating gating => gating.search ∨ gating.save →
      ∃ edit, Cleared env past edit ∧ (gating.save → Saveable saved maySave past edit.text)
  | _ => True

/-- Every signal in the journal was earned. -/
def AllEarned (env : Setting) (saved : Option SavedFilter) (maySave : Bool)
    (journal : List Entry) : Prop :=
  ∀ time signal past, (⟨time, .told signal⟩ :: past) <:+ journal →
    Earned env saved maySave past signal

section
variable {env : Setting} {saved : Option SavedFilter} {maySave : Bool} {s : Session} {e : Editor}
  {journal : List Entry}

theorem AllEarned.nil : AllEarned env saved maySave [] :=
  fun _ _ _ hsuffix => nomatch List.suffix_nil.mp hsuffix

theorem AllEarned.cons (h : AllEarned env saved maySave journal) {entry : Entry}
    (hentry : ∀ signal, entry.happening = .told signal → Earned env saved maySave journal signal) :
    AllEarned env saved maySave (entry :: journal) := by
  intro time signal past hsuffix
  rcases List.suffix_cons_iff.mp hsuffix with heq | hsuffix
  · cases heq
    exact hentry signal rfl
  · exact h time signal past hsuffix

/-- A signal is told to a surface that reads its signals. -/
theorem AllEarned.tell_one (h : AllEarned env saved maySave s.journal) (e : Editor)
    {signal : Signal} (hsignal : s.listening → Earned env saved maySave s.journal signal) :
    AllEarned env saved maySave (s.become e [signal]).journal := by
  rw [become_journal]
  split
  · next hlistening =>
      refine h.cons fun signal' heq => ?_
      cases heq
      exact hsignal hlistening
  · exact h

/-! ### What a draft shows -/

/-- A draft that is valid has a text that is not empty and that the oracle accepts. -/
def Warranted (env : Setting) (d : Draft) : Prop :=
  d.validity = .valid → d.issued ≠ 0 ∧ d.text ≠ "" ∧ env.oracle.validate d.text = .ok .success

theorem Arises.warranted (hs : Arises env saved maySave s) (he : s.editor = some e) :
    Warranted env e.draft := by
  intro hvalid
  have hsound := (Arises.singleFlight hs e he).sound
  obtain ⟨-, hissued, hne⟩ := settled_of_verdict hsound (by simp [hvalid]) (by simp [hvalid])
  exact ⟨hissued, hne, Arises.validate_of_valid hs he hvalid⟩

/-- A valid draft is cleared by its journal. -/
theorem Chronicle.cleared (h : Chronicle saved maySave s e) (hwarrant : Warranted env e.draft)
    (hlistening : s.listening) (hvalid : e.draft.validity = .valid) :
    ∃ edit, Cleared env s.journal edit ∧ edit.text = e.draft.text := by
  obtain ⟨hissued, hne, hverdict⟩ := hwarrant hvalid
  obtain ⟨time, hedit⟩ := h.edit hissued
  exact ⟨_, ⟨hedit, hne, hverdict, h.accepted hlistening hvalid⟩, rfl⟩

theorem Chronicle.earned_gating (h : Chronicle saved maySave s e)
    (hwarrant : Warranted env e.draft) (hlistening : s.listening) :
    Earned env saved maySave s.journal (.gating e.draft.gating) := by
  intro hopen
  have hvalid := Draft.valid_of_gating hopen
  obtain ⟨edit, hcleared, htext⟩ := h.cleared hwarrant hlistening hvalid
  refine ⟨edit, hcleared, fun hsaving => ?_⟩
  obtain ⟨-, hpermitted, hnamed, hchanged⟩ := Draft.gating_save.mp hsaving
  refine ⟨h.maySave_eq ▸ hpermitted, h.name_eq ▸ hnamed, ?_⟩
  rwa [← h.name_eq, ← h.saved_eq, htext]

/-- The two signals that show where a draft stands are earned. -/
theorem AllEarned.tell_status (hall : AllEarned env saved maySave s.journal)
    (h : Chronicle saved maySave s e) (hwarrant : Warranted env e.draft) (e' : Editor) :
    AllEarned env saved maySave (s.become e' e.draft.status).journal := by
  rw [Draft.status, ← List.singleton_append, become_append]
  have hfeedback : AllEarned env saved maySave (s.become e' [.feedback e.draft.feedback]).journal :=
    hall.tell_one e' fun _ => trivial
  refine hfeedback.tell_one e' fun hlistening => ?_
  exact (h.become e' _).earned_gating hwarrant (by simpa using hlistening)

/-! ### What a move tells -/

theorem AllEarned.receive (hall : AllEarned env saved maySave s.journal)
    (h : Chronicle saved maySave s e) (he : s.editor = some e) {reply : Reply}
    (hasked : e.draft.accepts reply.id →
      Asked s.journal e.draft.issued e.draft.text e.draft.cursor)
    (hanswers : e.draft.accepts reply.id → reply.Answers env e.draft.text e.draft.cursor)
    (hwarrant : Warranted env (e.receive reply).1.draft) :
    AllEarned env saved maySave (s.receive reply).journal := by
  rw [receive_some he]
  rcases e.receive_cases reply with ⟨-, heq⟩ | ⟨haccepts, evaluation, hresult, heq⟩ | ⟨-, -, heq⟩ <;>
    rw [heq] at hwarrant ⊢
  · simpa [become_journal] using hall
  · have hanswer := hanswers haccepts
    rw [Reply.Answers, hresult] at hanswer
    rw [List.cons_append, ← List.singleton_append, become_append, become_append]
    -- the gating is told after the verdict, and stands on it
    refine AllEarned.tell_one (AllEarned.tell_status ?_ ?_ hwarrant _) _ fun _ => trivial
    · exact hall.tell_one _ fun _ => trivial
    · exact h.answer hanswer (hasked haccepts) (e.landed reply.id) _
  · refine AllEarned.tell_status hall ?_ hwarrant _
    refine h.settle fun _ hvalid => ?_
    cases hvalid

theorem AllEarned.event (hall : AllEarned env saved maySave s.journal)
    (h : Chronicle saved maySave s e) (hwarrant : Warranted env e.draft) (event : Event) :
    AllEarned env saved maySave (s.handle env e event).journal := by
  rcases s.handle_cases env e event with hs | ⟨text, cursor, -, -, hs⟩ | ⟨cursor, -, hs⟩ |
      ⟨name, -, hs⟩ | ⟨signal, -, hs, hsignal⟩ <;> rw [hs]
  · exact hall
  · have hnote : AllEarned env saved maySave
        (s.note (.changed (e.draft.issued + 1) text cursor)).journal := hall.cons nofun
    have hretyped := h.retype text cursor (e.schedule env.timing s.clock (e.draft.issued + 1))
    exact hnote.tell_status hretyped (fun hvalid => nomatch hvalid) _
  · have hnote : AllEarned env saved maySave
        (s.note (.changed (e.draft.issued + 1) "" cursor)).journal := hall.cons nofun
    exact hnote.tell_status (h.clear cursor) (fun hvalid => nomatch hvalid) _
  · have hnote : AllEarned env saved maySave (s.note (.renamed name)).journal := hall.cons nofun
    exact hnote.tell_one _ fun hlistening => (h.rename name).earned_gating hwarrant hlistening
  · refine hall.tell_one e fun hlistening => ?_
    rcases hsignal with ⟨rfl, hvalid⟩ | ⟨rfl, -⟩
    · obtain ⟨edit, hcleared, htext⟩ := h.cleared hwarrant hlistening hvalid
      exact ⟨edit, hcleared, htext.symm⟩
    · trivial

/-- What a draft shows that is not valid takes nothing. -/
theorem AllEarned.cons_status (hall : AllEarned env saved maySave journal) {d : Draft}
    (hvalid : d.validity ≠ .valid) (time : Nat) :
    AllEarned env saved maySave
      (⟨time, .told (.gating d.gating)⟩ :: ⟨time, .told (.feedback d.feedback)⟩ :: journal) := by
  have hfeedback : AllEarned env saved maySave (⟨time, .told (.feedback d.feedback)⟩ :: journal) :=
    hall.cons fun signal heq => by cases heq; trivial
  refine hfeedback.cons fun signal heq => ?_
  cases heq
  exact fun hopen => absurd (Draft.valid_of_gating hopen) hvalid

theorem AllEarned.start :
    AllEarned env saved maySave (Session.start env (.opening saved maySave)).journal := by
  rcases start_cases env saved maySave with ⟨-, hs⟩ | ⟨filter, -, -, hs⟩ <;> rw [hs]
  · have hunknown : (Draft.opening saved maySave).validity = .unknown := by cases saved <;> rfl
    exact AllEarned.nil.cons_status (by simp [hunknown]) 0
  · have hchanged : AllEarned env saved maySave
        [⟨0, .changed 1 filter.query filter.query.length⟩] := AllEarned.nil.cons nofun
    have hasked : AllEarned env saved maySave
        [⟨0, .asked 1 filter.query filter.query.length⟩,
          ⟨0, .changed 1 filter.query filter.query.length⟩] := hchanged.cons nofun
    have hvalidating : (openedDraft filter maySave).validity ≠ .valid := nofun
    exact hasked.cons_status hvalidating 0

/-- In the journal of every session that arises, every signal was earned. -/
theorem Arises.allEarned (hs : Arises env saved maySave s) :
    AllEarned env saved maySave s.journal := by
  induction hs with
  | refl => exact .start
  | @tail t _ hs move ih =>
      cases move with
      | inner move =>
          cases move with
          | pass | expire | collect => exact ih
          | @receive front back reply hreplies =>
              cases he : t.editor with
              | none => simpa only [receive, he] using ih
              | some e =>
                  have hreply : reply ∈ t.replies :=
                    hreplies ▸ List.mem_append_cons_self
                  have hnext := hs.tail (.inner (.receive hreplies))
                  have hwarrant : Warranted env (e.receive reply).1.draft :=
                    Arises.warranted hnext (by simp [receive, he])
                  have h := Arises.chronicle hs e he
                  have hasked := h.asked_of_accepts (Arises.singleFlight hs e he) hreply
                  have hkept : Chronicle saved maySave { t with replies := front ++ back } e :=
                    h.congr rfl id
                  have hall : AllEarned env saved maySave
                      { t with replies := front ++ back }.journal := ih
                  rw [← he]
                  exact hall.receive hkept he hasked ((Arises.faithful hs e he).answers hreply)
                    hwarrant
          | send =>
              refine ih.cons fun signal heq => ?_
              cases heq
      | event hsome event =>
          exact ih.event (Arises.chronicle hs _ hsome) (Arises.warranted hs hsome) event
      | release | closeSignals | kill => exact ih

/-! ### The theorem -/

/-- **Nothing without clearance.**  Take any signal in the journal of a session that arises in any
run, with what stood before it.

If the signal is to run a query, then the query is the text of the last change, which is not empty;
since that change the oracle was asked about exactly this text, under the id of the change, then the
surface was told that it is accepted, and the oracle does accept it.  The same holds of the text if
the signal opens the search or the saving; and if it opens the saving, then the user may save, the
name is not blank, and name and text are not those of the saved filter. -/
theorem told_cleared (hs : Arises env saved maySave s) {time : Nat} {signal : Signal}
    {past : List Entry} (htold : (⟨time, .told signal⟩ :: past) <:+ s.journal) :
    (∀ query, signal = .executeQuery query →
      ∃ edit, Cleared env past edit ∧ query = edit.text) ∧
    ∀ gating, signal = .gating gating → gating.search ∨ gating.save →
      ∃ edit, Cleared env past edit ∧ (gating.save → Saveable saved maySave past edit.text) := by
  have hearned := Arises.allEarned hs time signal past htold
  constructor
  · rintro query rfl
    exact hearned
  · rintro gating rfl
    exact hearned

end

/-! ### A query that may be saved -/

/-- A saved filter whose query was changed. -/
def edited : Session :=
  after (accepting fun _ => false) (some ⟨"name", "a"⟩) true [.event (.textChanged "b" 1)]

/-- Once the new query is accepted, it may be searched with and saved. -/
theorem told_cleared_edited :
    ∃ past edit, (⟨0, .told (.gating ⟨true, true⟩)⟩ :: past) <:+ edited.journal ∧
      Cleared (accepting fun _ => false) past edit ∧
      Saveable (some ⟨"name", "a"⟩) true past edit.text := by
  have htold : (⟨0, .told (.gating ⟨true, true⟩)⟩ :: edited.journal.drop 2) <:+ edited.journal :=
    ⟨edited.journal.take 1, rfl⟩
  obtain ⟨edit, hcleared, hsave⟩ := (told_cleared (arises_after _) htold).2 _ rfl (.inl rfl)
  exact ⟨_, edit, htold, hcleared, hsave rfl⟩

end Session
end FilterEditor
