import FilterEditor.Proofs.Verdicts

/-!
# Proofs — History

What a journal tells of the session that keeps it.

A journal is read from its latest entry: the last change of the text (`Journal.lastEdit?`), what
happened since (`Journal.sinceEdit`), and the name of the filter (`Journal.nameAfter`).  The query
of a saved filter counts as a change made when the session opens.

* `Chronicle`: the journal bears out the draft.  A request that is not waiting was sent since the
  last change, and a surface that reads its signals was told of the verdict after that.
* `Arises.chronicle` proves it of every session that arises.
* `lastEdit_after`: the last change that a run has among its steps is the last one in its journal.
-/

namespace FilterEditor

/-- A change of the text, as a journal notes it. -/
structure Edit where
  time : Nat
  id : RequestId
  text : String
  cursor : Nat
deriving DecidableEq, Repr

namespace Entry

/-- The change of the text that the entry notes, if it notes one. -/
def edit? (entry : Entry) : Option Edit :=
  match entry.happening with
  | .changed id text cursor => some ⟨entry.time, id, text, cursor⟩
  | _ => none

/-- The new name that the entry notes, if it notes one. -/
def name? (entry : Entry) : Option String :=
  match entry.happening with
  | .renamed name => some name
  | _ => none

/-- The entry changes neither the text nor the name. -/
structure Passive (entry : Entry) : Prop where
  edit : entry.edit? = none
  name : entry.name? = none

theorem Passive.told (time : Nat) (signal : Signal) : Passive ⟨time, .told signal⟩ := ⟨rfl, rfl⟩

end Entry

/-! ### Reading a journal -/

namespace Journal

/-- The changes of the text, latest first. -/
def edits (past : List Entry) : List Edit :=
  past.filterMap Entry.edit?

/-- The last change of the text. -/
def lastEdit? (past : List Entry) : Option Edit :=
  past.findSome? Entry.edit?

/-- What happened since the last change of the text, latest first. -/
def sinceEdit (past : List Entry) : List Entry :=
  past.takeWhile (·.edit?.isNone)

/-- The name of the filter, which a session takes over from the saved one. -/
def nameAfter (saved : Option SavedFilter) (past : List Entry) : String :=
  (past.findSome? Entry.name?).getD ((saved.map (·.name)).getD "")

variable {front past : List Entry}

theorem edits_append (front past : List Entry) : edits (front ++ past) = edits front ++ edits past :=
  List.filterMap_append

theorem head?_edits (past : List Entry) : (edits past).head? = lastEdit? past :=
  List.head?_filterMap

theorem lastEdit?_append (h : ∀ entry ∈ front, entry.edit? = none) :
    lastEdit? (front ++ past) = lastEdit? past := by
  rw [lastEdit?, List.findSome?_append, List.findSome?_eq_none_iff.mpr h, Option.none_or, lastEdit?]

theorem sinceEdit_append (h : ∀ entry ∈ front, entry.edit? = none) :
    sinceEdit (front ++ past) = front ++ sinceEdit past :=
  List.takeWhile_append_of_pos fun entry hmem => by simp [h entry hmem]

theorem nameAfter_append (saved : Option SavedFilter) (h : ∀ entry ∈ front, entry.name? = none) :
    nameAfter saved (front ++ past) = nameAfter saved past := by
  rw [nameAfter, List.findSome?_append, List.findSome?_eq_none_iff.mpr h, Option.none_or, nameAfter]

/-- The request about the change was sent since. -/
def Asked (past : List Entry) (id : RequestId) (text : String) (cursor : Nat) : Prop :=
  ∃ time, ⟨time, .asked id text cursor⟩ ∈ sinceEdit past

/-- The request about the change was sent since, and then the surface was told that the query is
accepted. -/
def Accepted (past : List Entry) (id : RequestId) (text : String) (cursor : Nat) : Prop :=
  ∃ asked told, List.Sublist [⟨told, .told (.validated .accepted)⟩, ⟨asked, .asked id text cursor⟩]
    (sinceEdit past)

variable {id : RequestId} {text : String} {cursor : Nat}

theorem Asked.append (h : Asked past id text cursor) (hfront : ∀ entry ∈ front, entry.edit? = none) :
    Asked (front ++ past) id text cursor := by
  obtain ⟨time, hmem⟩ := h
  exact ⟨time, sinceEdit_append hfront ▸ List.mem_append_right _ hmem⟩

theorem Accepted.append (h : Accepted past id text cursor)
    (hfront : ∀ entry ∈ front, entry.edit? = none) : Accepted (front ++ past) id text cursor := by
  obtain ⟨asked, told, hsub⟩ := h
  exact ⟨asked, told, sinceEdit_append hfront ▸ hsub.trans (List.sublist_append_right ..)⟩

theorem Asked.cons (h : Asked past id text cursor) {entry : Entry} (hentry : entry.edit? = none) :
    Asked (entry :: past) id text cursor := by
  rw [← List.singleton_append]
  exact h.append (by simpa using hentry)

theorem Accepted.cons (h : Accepted past id text cursor) {entry : Entry}
    (hentry : entry.edit? = none) : Accepted (entry :: past) id text cursor := by
  rw [← List.singleton_append]
  exact h.append (by simpa using hentry)

/-- A verdict that is told once the request was sent is one on the change. -/
theorem Asked.accepted (h : Asked past id text cursor) (time : Nat) :
    Accepted (⟨time, .told (.validated .accepted)⟩ :: past) id text cursor := by
  obtain ⟨asked, hmem⟩ := h
  exact ⟨asked, time, (List.singleton_sublist.mpr hmem).cons_cons _⟩

end Journal

namespace Session
open Relation Journal

/-! ### The journal of a session -/

theorem become_append (s : Session) (e : Editor) (signals more : List Signal) :
    s.become e (signals ++ more) = (s.become e signals).become e more := by
  simp only [become, tell_eq]
  cases s.listening <;> simp

/-- A session that becomes another notes what it tells. -/
theorem become_told (s : Session) (e : Editor) (signals : List Signal) :
    ∃ front, (s.become e signals).journal = front ++ s.journal ∧
      ∀ entry ∈ front, ∃ signal, entry = ⟨s.clock, .told signal⟩ := by
  have hjournal := s.become_journal e signals
  split at hjournal
  · refine ⟨_, hjournal, fun entry hmem => ?_⟩
    obtain ⟨signal, -, rfl⟩ := List.mem_map.mp (List.mem_reverse.mp hmem)
    exact ⟨signal, rfl⟩
  · exact ⟨[], hjournal, nofun⟩

/-- What the surface is told changes neither the text nor the name. -/
theorem become_extends (s : Session) (e : Editor) (signals : List Signal) :
    ∃ front, (s.become e signals).journal = front ++ s.journal ∧
      ∀ entry ∈ front, entry.Passive := by
  obtain ⟨front, hjournal, htold⟩ := s.become_told e signals
  refine ⟨front, hjournal, fun entry hmem => ?_⟩
  obtain ⟨signal, rfl⟩ := htold entry hmem
  exact .told s.clock signal

@[simp] theorem edits_become (s : Session) (e : Editor) (signals : List Signal) :
    edits (s.become e signals).journal = edits s.journal := by
  obtain ⟨front, hjournal, hfront⟩ := s.become_extends e signals
  have hnone : edits front = [] :=
    List.filterMap_eq_nil_iff.mpr fun entry hmem => (hfront entry hmem).edit
  rw [hjournal, edits_append, hnone, List.nil_append]

@[simp] theorem lastEdit?_become (s : Session) (e : Editor) (signals : List Signal) :
    lastEdit? (s.become e signals).journal = lastEdit? s.journal := by
  rw [← head?_edits, edits_become, head?_edits]

/-- The journal bears out what the editor shows. -/
structure Chronicle (saved : Option SavedFilter) (maySave : Bool) (s : Session) (e : Editor) :
    Prop where
  saved_eq : e.draft.saved = saved
  maySave_eq : e.draft.maySave = maySave
  name_eq : e.draft.name = nameAfter saved s.journal
  edit : e.draft.issued ≠ 0 → ∃ time,
    lastEdit? s.journal = some ⟨time, e.draft.issued, e.draft.text, e.draft.cursor⟩
  unedited : e.draft.issued = 0 → lastEdit? s.journal = none
  asked : e.pending = none → e.draft.issued ≠ 0 → e.draft.text ≠ "" →
    Asked s.journal e.draft.issued e.draft.text e.draft.cursor
  accepted : s.listening → e.draft.validity = .valid →
    Accepted s.journal e.draft.issued e.draft.text e.draft.cursor

namespace Chronicle
variable {env : Setting} {saved : Option SavedFilter} {maySave : Bool} {s s' : Session}
  {e e' : Editor}

/-- Requests and signals are added to the journal freely. -/
theorem extend (h : Chronicle saved maySave s e) {front : List Entry}
    (hjournal : s'.journal = front ++ s.journal) (hlistening : s'.listening → s.listening)
    (hfront : ∀ entry ∈ front, entry.Passive) : Chronicle saved maySave s' e where
  saved_eq := h.saved_eq
  maySave_eq := h.maySave_eq
  name_eq := by
    rw [hjournal, nameAfter_append saved fun entry hmem => (hfront entry hmem).name]
    exact h.name_eq
  edit hissued := by
    rw [hjournal, lastEdit?_append fun entry hmem => (hfront entry hmem).edit]
    exact h.edit hissued
  unedited hissued := by
    rw [hjournal, lastEdit?_append fun entry hmem => (hfront entry hmem).edit]
    exact h.unedited hissued
  asked hpending hissued hne := by
    rw [hjournal]
    exact (h.asked hpending hissued hne).append fun entry hmem => (hfront entry hmem).edit
  accepted hreads hvalid := by
    rw [hjournal]
    exact (h.accepted (hlistening hreads) hvalid).append fun entry hmem => (hfront entry hmem).edit

/-- What happens outside the journal takes nothing away. -/
theorem congr (h : Chronicle saved maySave s e) (hjournal : s'.journal = s.journal)
    (hlistening : s'.listening → s.listening) : Chronicle saved maySave s' e := by
  have hfront : s'.journal = [] ++ s.journal := hjournal
  exact h.extend hfront hlistening nofun

/-- What the surface is told takes nothing away. -/
theorem become (h : Chronicle saved maySave s e) (e' : Editor) (signals : List Signal) :
    Chronicle saved maySave (s.become e' signals) e := by
  obtain ⟨front, hjournal, hfront⟩ := s.become_extends e' signals
  exact h.extend hjournal (by simp) hfront

theorem retype (h : Chronicle saved maySave s e) (text : String) (cursor : Nat) (p : Pending) :
    Chronicle saved maySave (s.note (.changed (e.draft.issued + 1) text cursor))
      { e with draft := e.draft.retyped text cursor, pending := some p } where
  saved_eq := h.saved_eq
  maySave_eq := h.maySave_eq
  name_eq := h.name_eq
  edit _ := ⟨s.clock, rfl⟩
  unedited hissued := nomatch hissued
  asked hpending := nomatch hpending
  accepted _ hvalid := nomatch hvalid

theorem clear (h : Chronicle saved maySave s e) (cursor : Nat) :
    Chronicle saved maySave (s.note (.changed (e.draft.issued + 1) "" cursor))
      { e with draft := e.draft.cleared cursor, pending := none } where
  saved_eq := h.saved_eq
  maySave_eq := h.maySave_eq
  name_eq := h.name_eq
  edit _ := ⟨s.clock, rfl⟩
  unedited hissued := nomatch hissued
  asked _ _ hne := absurd rfl hne
  accepted _ hvalid := nomatch hvalid

theorem rename (h : Chronicle saved maySave s e) (name : String) :
    Chronicle saved maySave (s.note (.renamed name)) { e with draft := e.draft.rename name } where
  saved_eq := h.saved_eq
  maySave_eq := h.maySave_eq
  name_eq := rfl
  edit := h.edit
  unedited := h.unedited
  asked hpending hissued hne := (h.asked hpending hissued hne).cons rfl
  accepted hlistening hvalid := (h.accepted hlistening hvalid).cons rfl

/-- The request is sent under the last id. -/
theorem send (h : Chronicle saved maySave s e) {id : RequestId} (hid : id = e.draft.issued) :
    Chronicle saved maySave (s.ask env e id) (e.sent id) where
  saved_eq := h.saved_eq
  maySave_eq := h.maySave_eq
  name_eq := h.name_eq
  edit := h.edit
  unedited := h.unedited
  asked _ _ _ := ⟨s.clock, hid ▸ List.mem_cons_self ..⟩
  accepted hlistening hvalid := (h.accepted hlistening hvalid).cons rfl

/-- A draft may settle on anything but a verdict that the surface was not told of. -/
theorem settle (h : Chronicle saved maySave s e) {applied : RequestId} {validity : Validity}
    {error : Option String} {inFlight : Option RequestId}
    (haccepted : s.listening → validity = .valid →
      Accepted s.journal e.draft.issued e.draft.text e.draft.cursor) :
    Chronicle saved maySave s
      { e with draft := { e.draft with applied, validity, error }, inFlight } where
  saved_eq := h.saved_eq
  maySave_eq := h.maySave_eq
  name_eq := h.name_eq
  edit := h.edit
  unedited := h.unedited
  asked := h.asked
  accepted := haccepted

/-- A verdict that the draft takes over is told to a surface that reads its signals. -/
theorem answer (h : Chronicle saved maySave s e) {evaluation : Evaluation}
    (hevaluate : env.oracle.evaluate env.formatter e.draft.text e.draft.cursor = .ok evaluation)
    (hasked : Asked s.journal e.draft.issued e.draft.text e.draft.cursor)
    (inFlight : Option RequestId) (e' : Editor) :
    Chronicle saved maySave (s.become e' [.validated evaluation.diagnostic])
      { e with draft := e.draft.answered evaluation.diagnostic, inFlight } := by
  refine (h.become e' _).settle fun hlistening hvalid => ?_
  have hfailed : evaluation.diagnostic.failed = false := by
    by_contra hfails
    rw [if_pos (Bool.not_eq_false _ ▸ hfails)] at hvalid
    cases hvalid
  -- a diagnostic without a failure is that of an accepted query
  obtain ⟨verdict, proposal, -, -, rfl⟩ := Oracle.evaluate_eq_ok.mp hevaluate
  rw [become_listening] at hlistening
  rw [become_journal, if_pos hlistening, Formatter.failed_diagnose.mp hfailed]
  exact hasked.accepted s.clock

/-- Whatever reply the editor receives, the journal bears out what it makes of it. -/
theorem receive (h : Chronicle saved maySave s e) (he : s.editor = some e) {reply : Reply}
    (hasked : e.draft.accepts reply.id →
      Asked s.journal e.draft.issued e.draft.text e.draft.cursor)
    (hanswers : e.draft.accepts reply.id → reply.Answers env e.draft.text e.draft.cursor) :
    Chronicle saved maySave (s.receive reply) (e.receive reply).1 := by
  rw [receive_some he]
  rcases e.receive_cases reply with ⟨-, heq⟩ | ⟨haccepts, evaluation, hresult, heq⟩ | ⟨-, -, heq⟩ <;>
    rw [heq]
  · exact (h.settle h.accepted).become _ _
  · have hanswer := hanswers haccepts
    rw [Reply.Answers, hresult] at hanswer
    rw [List.cons_append, ← List.singleton_append, become_append]
    exact (h.answer hanswer (hasked haccepts) (e.landed reply.id) _).become _ _
  · refine become (h.settle fun _ hvalid => ?_) _ _
    cases hvalid

theorem event (h : Chronicle saved maySave s e) (event : Event)
    (he' : (s.handle env e event).editor = some e') :
    Chronicle saved maySave (s.handle env e event) e' := by
  rcases handle_inv he' with ⟨text, cursor, -, -, rfl, hs⟩ | ⟨cursor, -, rfl, hs⟩ |
      ⟨name, -, rfl, hs⟩ | ⟨signal, -, rfl, hs⟩ <;> rw [hs]
  · exact (h.retype text cursor _).become _ _
  · exact (h.clear cursor).become _ _
  · exact (h.rename name).become _ _
  · exact h.become _ _

theorem start (he : (start env (.opening saved maySave)).editor = some e) :
    Chronicle saved maySave (Session.start env (.opening saved maySave)) e := by
  rcases start_cases env saved maySave with ⟨-, hs⟩ | ⟨filter, rfl, hne, hs⟩ <;> rw [hs] at he ⊢
  · cases he
    cases saved with
    | none => exact ⟨rfl, rfl, rfl, fun h => absurd rfl h, fun _ => rfl, fun _ h => absurd rfl h, nofun⟩
    | some filter => exact ⟨rfl, rfl, rfl, fun h => absurd rfl h, fun _ => rfl, fun _ h => absurd rfl h, nofun⟩
  · cases he
    refine ⟨rfl, rfl, rfl, fun _ => ⟨0, rfl⟩, nofun, fun _ _ _ => ⟨0, ?_⟩, nofun⟩
    exact List.mem_cons_of_mem _ (List.mem_cons_of_mem _ (List.mem_cons_self ..))

end Chronicle

section
variable {env : Setting} {saved : Option SavedFilter} {maySave : Bool} {s : Session} {e : Editor}
  {reply : Reply}

/-- The reply that a draft accepts is to a request that was sent since the last change. -/
theorem Chronicle.asked_of_accepts (h : Chronicle saved maySave s e) (hflight : SingleFlight s e)
    (hreply : reply ∈ s.replies) (haccepts : e.draft.accepts reply.id) :
    Asked s.journal e.draft.issued e.draft.text e.draft.cursor := by
  have hid := (Draft.accepts_iff.mp haccepts).1
  have hopen := Editor.isAwaiting_iff.mp
    (hflight.isAwaiting_of_mem (hid ▸ mem_outstanding_of_reply hreply))
  exact h.asked hopen.1 (Nat.ne_of_gt (Nat.zero_lt_of_lt hopen.2))
    (hflight.sound.text_ne_of_lt hopen.2)

/-- **Chronicles.**  In every session that arises, the journal bears out what the editor shows. -/
theorem Arises.chronicle (hs : Arises env saved maySave s) :
    ∀ e, s.editor = some e → Chronicle saved maySave s e := by
  induction hs with
  | refl => exact fun e he => .start he
  | @tail t _ hs move ih =>
      intro e he
      cases move with
      | inner move =>
          cases move with
          | pass | expire | collect => exact (ih e he).congr rfl id
          | @receive front back reply hreplies =>
              obtain ⟨e, hsome, rfl⟩ := receive_inv he
              have h := ih e hsome
              have hreply : reply ∈ t.replies :=
                hreplies ▸ List.mem_append_cons_self
              have hasked := h.asked_of_accepts (Arises.singleFlight hs e hsome) hreply
              have hrest : Chronicle saved maySave { t with replies := front ++ back } e :=
                h.congr rfl id
              exact hrest.receive hsome hasked ((Arises.faithful hs e hsome).answers hreply)
          | send hsome hdue =>
              cases he
              obtain ⟨p, hp, -, rfl⟩ := Editor.due?_eq_some.mp hdue
              have h := ih _ hsome
              exact h.send ((Arises.singleFlight hs _ hsome).pending_id p hp)
      | event hsome event => exact (ih _ hsome).event event he
      | release => exact (ih e he).congr rfl id
      | closeSignals => exact (ih e he).congr rfl nofun
      | kill => cases he

/-- The last change in the journal is the one that the draft came from. -/
theorem Chronicle.of_lastEdit (h : Chronicle saved maySave s e) {edit : Edit}
    (hedit : lastEdit? s.journal = some edit) :
    edit.id = e.draft.issued ∧ edit.text = e.draft.text ∧ edit.cursor = e.draft.cursor := by
  by_cases hissued : e.draft.issued = 0
  · rw [h.unedited hissued] at hedit
    cases hedit
  · obtain ⟨time, heq⟩ := h.edit hissued
    obtain rfl := Option.some.inj (heq.symm.trans hedit)
    exact ⟨rfl, rfl, rfl⟩

/-! ### The last change of a run -/

theorem edits_receive (s : Session) (reply : Reply) :
    edits (s.receive reply).journal = edits s.journal := by
  cases he : s.editor with
  | none => rw [receive_none he]
  | some e => rw [receive_some he, edits_become]

theorem edits_innerMove {s' : Session} (move : InnerMove env s s') :
    edits s'.journal = edits s.journal := by
  cases move with
  | pass | expire | collect | send => rfl
  | receive => exact edits_receive _ _

theorem edits_innerMoves {s' : Session} (moves : ReflTransGen (InnerMove env) s s') :
    edits s'.journal = edits s.journal := by
  induction moves with
  | refl => rfl
  | tail _ move ih => exact (edits_innerMove move).trans ih

/-- A step that does not change the text leaves the changes as they are. -/
theorem edits_step (still : s.Still) {st : Step} (hst : st.changesText = false) :
    edits (s.step env st).journal = edits s.journal := by
  rw [step, edits_innerMoves (settle_moves env _)]
  rcases take_kept still hst with hmoves | ⟨id, hs⟩ | ⟨e, name, -, hs⟩ | ⟨e, signal, -, hs⟩ | hs | hs
  · exact edits_innerMoves hmoves
  all_goals rw [hs]
  · rfl
  · exact edits_become ..
  · exact edits_become ..

theorem lastEdit?_receive (s : Session) (reply : Reply) :
    lastEdit? (s.receive reply).journal = lastEdit? s.journal := by
  rw [← head?_edits, edits_receive, head?_edits]

theorem lastEdit?_innerMove {s' : Session} (move : InnerMove env s s') :
    lastEdit? s'.journal = lastEdit? s.journal := by
  rw [← head?_edits, edits_innerMove move, head?_edits]

theorem lastEdit?_innerMoves {s' : Session} (moves : ReflTransGen (InnerMove env) s s') :
    lastEdit? s'.journal = lastEdit? s.journal := by
  rw [← head?_edits, edits_innerMoves moves, head?_edits]

theorem lastEdit?_step (still : s.Still) {st : Step} (hst : st.changesText = false) :
    lastEdit? (s.step env st).journal = lastEdit? s.journal := by
  rw [← head?_edits, edits_step still hst, head?_edits]

/-- **The last change of a run** is the last one in its journal, as long as the session lives. -/
theorem lastEdit_after {steps : List Step} {time : Nat} {text : String} {cursor : Nat}
    (h : LastChange env saved maySave steps time text cursor)
    (hlives : (after env saved maySave steps).editor ≠ none) :
    ∃ id, lastEdit? (after env saved maySave steps).journal = some ⟨time, id, text, cursor⟩ := by
  induction h with
  | @opened filter hsaved hne =>
      refine ⟨1, ?_⟩
      rw [after_nil, lastEdit?_innerMoves (settle_moves env _)]
      rcases start_cases env saved maySave with ⟨hempty, -⟩ | ⟨filter', hsaved', -, hs⟩
      · subst hsaved
        exact absurd hempty hne
      · obtain rfl := Option.some.inj (hsaved.symm.trans hsaved')
        rw [hs]
        rfl
  | changed steps text cursor =>
      rw [after_concat] at hlives ⊢
      cases he : (after env saved maySave steps).editor with
      | none => exact absurd (editor_none_of_moves (step_moves (after_still steps) _) he) hlives
      | some e =>
          refine ⟨e.draft.issued + 1, (lastEdit?_innerMoves (settle_moves env _)).trans ?_⟩
          simp only [take, he]
          rcases handle_cases env (after env saved maySave steps) e (.textChanged text cursor) with hs |
              ⟨_, _, heq, -, hs⟩ | ⟨_, heq, hs⟩ | ⟨_, heq, -⟩ | ⟨_, heq, -⟩
          -- a fault ends the session
          · refine absurd (editor_none_of_moves (moves_of_inner (settle_moves env _)) ?_) hlives
            simp only [take, he, hs]
          · cases heq
            rw [hs, lastEdit?_become]
            rfl
          · cases heq
            rw [hs, lastEdit?_become]
            rfl
          · cases heq
          · cases heq
  | @kept steps time text cursor st h hst ih =>
      rw [after_concat] at hlives ⊢
      rw [lastEdit?_step (after_still steps) hst]
      exact ih fun hnone => hlives (editor_none_of_moves (step_moves (after_still steps) st) hnone)

end
end Session
end FilterEditor
