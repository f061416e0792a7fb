import FilterEditor.Proofs.Bursts
import FilterEditor.Proofs.Mirroring

/-!
# Proofs — Interference

What has nothing to do with the query does not interfere with its validation
(`validation_undisturbed`): new names, requests to run the query, and the loss of the reader
(`Step.isIncidental`).  A run less any of these steps (`Erases`) makes the same requests at the same
times and comes to the same draft, but for its name; and as long as both surfaces read their
signals, they are told the same of the query at the same times.

* `Journal.work`: the changes of the text and the requests in a journal.
* `Journal.essence`: these, and what the surface was told, less the answers to requests to run the
  query and the gating that comes with a new name.  Of any other gating, whether saving is open is
  left out, since that takes a name.
* `Alike`: two sessions that are the same but for that.  Everything that happens by itself, a change
  of the text, and a release make alike sessions out of alike sessions (`Alike.step`), and an
  incidental step makes a session like the one before (`alike_incidental`).
-/

namespace FilterEditor

/-- The step has nothing to do with the query: a new name, a request to run the query, or the loss
of the reader. -/
def Step.isIncidental : Step → Bool
  | .event (.nameChanged _) | .event .execute | .closeSignals => true
  | _ => false

/-- The second run is the first one less some of its incidental steps. -/
inductive Erases : List Step → List Step → Prop where
  | nil : Erases [] []
  | keep {steps kept : List Step} (st : Step) (h : Erases steps kept) :
      Erases (st :: steps) (st :: kept)
  | drop {steps kept : List Step} {st : Step} (h : Erases steps kept) (hst : st.isIncidental) :
      Erases (st :: steps) kept

theorem Erases.append {front front' rest rest' : List Step} (hfront : Erases front front')
    (hrest : Erases rest rest') : Erases (front ++ rest) (front' ++ rest') := by
  induction hfront with
  | nil => exact hrest
  | keep st _ ih => exact .keep st ih
  | drop _ hst ih => exact .drop ih hst

/-! ### Journals -/

/-- What the signal says of the query. -/
def Signal.essential? : Signal → Option Signal
  | .gating shown => some (.gating ⟨shown.search, false⟩)
  | .executeQuery _ | .executeRejected _ => none
  | signal => some signal

/-- What the entry says of the query, by what stands before it. -/
def Entry.essential? (past : List Entry) (entry : Entry) : Option Entry :=
  match entry.happening with
  | .renamed _ => none
  | .told signal =>
      if signal.gating?.isSome && past.head?.any (·.name?.isSome) then none
      else signal.essential?.map fun signal => ⟨entry.time, .told signal⟩
  | _ => some entry

/-- The surface was told a diagnostic, an indicator or suggestions. -/
def Entry.isOutcome (entry : Entry) : Bool :=
  match entry.happening with
  | .told (.feedback _) | .told (.validated _) | .told (.suggestions _) => true
  | _ => false

/-- The entry notes a change of the text or a request. -/
def Entry.isWork (entry : Entry) : Bool :=
  entry.edit?.isSome || entry.request?.isSome

namespace Journal

/-- The changes of the text and the requests, latest first. -/
def work (past : List Entry) : List Entry :=
  past.filter Entry.isWork

/-- What a journal says of the query, latest first. -/
def essence : List Entry → List Entry
  | [] => []
  | entry :: past => (entry.essential? past).toList ++ essence past

/-- Every diagnostic, indicator and suggestion is of the essence. -/
theorem filter_essence (past : List Entry) :
    (essence past).filter Entry.isOutcome = past.filter Entry.isOutcome := by
  induction past with
  | nil => rfl
  | cons entry past ih =>
      have hentry : (entry.essential? past).toList.filter Entry.isOutcome =
          [entry].filter Entry.isOutcome := by
        obtain ⟨time, happening⟩ := entry
        cases happening with
        | changed | renamed | asked => rfl
        | told signal =>
            cases signal with
            | gating => simp only [Entry.essential?]; split <;> rfl
            | feedback | validated | suggestions | executeQuery | executeRejected => rfl
      rw [essence, List.filter_append, hentry, ih, ← List.filter_append, List.singleton_append]

/-- The entries that note that the surface was told the signals. -/
def telling (time : Nat) (signals : List Signal) : List Entry :=
  (signals.map fun signal => ⟨time, .told signal⟩).reverse

theorem work_telling (time : Nat) (signals : List Signal) (past : List Entry) :
    work (telling time signals ++ past) = work past := by
  have hnone : work (telling time signals) = [] := by
    refine List.filter_eq_nil_iff.mpr fun entry hmem => ?_
    obtain ⟨signal, -, rfl⟩ := List.mem_map.mp (List.mem_reverse.mp hmem)
    exact Bool.false_ne_true
  rw [work, List.filter_append, ← work, hnone, List.nil_append, work]

/-- What is told says of the query what its signals say, unless it starts with a gating, which may
come with a new name. -/
theorem essence_telling (time : Nat) {signals : List Signal} (past : List Entry)
    (hfirst : ∀ shown, signals.head? ≠ some (.gating shown)) :
    essence (telling time signals ++ past) =
      telling time (signals.filterMap Signal.essential?) ++ essence past := by
  induction signals using List.reverseRecOn with
  | nil => rfl
  | append_singleton signals signal ih =>
      have hlast : essence (telling time (signals ++ [signal]) ++ past) =
          (Entry.essential? (telling time signals ++ past) ⟨time, .told signal⟩).toList ++
            essence (telling time signals ++ past) := by
        simp only [telling, List.map_append, List.reverse_append]
        rfl
      -- what stands before the signal is no new name, or the signal is no gating
      have hnew : Entry.essential? (telling time signals ++ past) ⟨time, .told signal⟩ =
          signal.essential?.map fun signal => ⟨time, .told signal⟩ := by
        refine if_neg fun hboth => ?_
        obtain ⟨hgating, hnamed⟩ := Bool.and_eq_true_iff.mp hboth
        rcases List.eq_nil_or_concat signals with rfl | ⟨signals, last, rfl⟩
        · cases signal with
          | gating shown => exact hfirst shown rfl
          | feedback | validated | suggestions | executeQuery | executeRejected => cases hgating
        · simp [telling, Entry.name?] at hnamed
      have hrest : ∀ shown, signals.head? ≠ some (.gating shown) := by
        intro shown hhead
        refine hfirst shown ?_
        rw [List.head?_append, hhead, Option.some_or]
      rw [hlast, hnew, ih hrest, List.filterMap_append, ← List.append_assoc]
      congr 1
      cases hessential : signal.essential? <;> simp [telling, hessential]

end Journal

/-! ### Editors -/

/-- What a draft shows says of the query how it stands, and whether it may be searched with. -/
theorem Draft.essential_status (d : Draft) :
    d.status.filterMap Signal.essential? =
      [.feedback d.feedback, .gating ⟨d.validity == .valid && !d.text.isEmpty, false⟩] := rfl

namespace Editor

/-- The editor of the same filter under no name. -/
def nameless (e : Editor) : Editor :=
  { e with draft := e.draft.rename "" }

/-- The editor after a change of the text that is no fault. -/
def retype (e : Editor) (timing : Timing) (now : Nat) (text : String) (cursor : Nat) : Editor :=
  if text = "" then { e with draft := e.draft.cleared cursor, pending := none }
  else
    { e with
      draft := e.draft.retyped text cursor
      pending := some (e.schedule timing now (e.draft.issued + 1)) }

theorem nameless_retype (e : Editor) (timing : Timing) (now : Nat) (text : String) (cursor : Nat) :
    (e.retype timing now text cursor).nameless = e.nameless.retype timing now text cursor := by
  unfold retype
  split <;> rfl

/-- What a draft shows says the same of the query under any name. -/
theorem nameless_status (e : Editor) :
    e.nameless.draft.status.filterMap Signal.essential? =
      e.draft.status.filterMap Signal.essential? := by
  rw [Draft.essential_status, Draft.essential_status]
  rfl

/-- The name has no part in what a reply does. -/
theorem nameless_receive (e : Editor) (reply : Reply) :
    (e.receive reply).1.nameless = (e.nameless.receive reply).1 ∧
      (e.receive reply).2.filterMap Signal.essential? =
        (e.nameless.receive reply).2.filterMap Signal.essential? := by
  by_cases h : e.draft.accepts reply.id
  · have hnameless : e.nameless.draft.accepts reply.id := h
    simp only [receive, Draft.answer_of_accepts h, Draft.giveUp_of_accepts h,
      Draft.answer_of_accepts hnameless, Draft.giveUp_of_accepts hnameless]
    have hanswered (d : Diagnostic) :
        (e.draft.answered d).status.filterMap Signal.essential? =
          (e.nameless.draft.answered d).status.filterMap Signal.essential? := by
      rw [Draft.essential_status, Draft.essential_status]
      rfl
    cases reply.result with
    | completed evaluation =>
        refine ⟨rfl, ?_⟩
        simp only [List.filterMap_append, List.filterMap_cons, hanswered evaluation.diagnostic]
    | timedOut | failed =>
        refine ⟨rfl, ?_⟩
        simp only [Draft.essential_status]
        rfl
  · have hnameless : ¬ e.nameless.draft.accepts reply.id := h
    rw [receive_of_not_accepts h, receive_of_not_accepts hnameless]
    exact ⟨rfl, rfl⟩

/-- A reply is told of by something else than a gating first. -/
theorem receive_head (e : Editor) (reply : Reply) (shown : Gating) :
    (e.receive reply).2.head? ≠ some (.gating shown) := by
  rcases e.receive_cases reply with ⟨-, heq⟩ | ⟨-, evaluation, -, heq⟩ | ⟨-, -, heq⟩ <;>
    rw [heq] <;> nofun

end Editor

namespace Session
open Journal

/-- The sessions are the same but for the name of the filter and what their journals do not say of
the query.  If it matters what is heard, the surfaces were told the same of the query. -/
structure Alike (heard : Prop) (s s' : Session) : Prop where
  clock : s'.clock = s.clock
  editor : s'.editor.map Editor.nameless = s.editor.map Editor.nameless
  calls : s'.calls = s.calls
  replies : s'.replies = s.replies
  work : work s'.journal = work s.journal
  listening : heard → s'.listening = s.listening
  essence : heard → essence s'.journal = essence s.journal

section
variable {env : Setting} {saved : Option SavedFilter} {maySave : Bool} {heard : Prop}
  {s s' s'' : Session} {e e' : Editor}

/-- A change of the text is a fault once no id is left. -/
theorem handle_textChanged (env : Setting) (s : Session) (e : Editor) (text : String)
    (cursor : Nat) :
    s.handle env e (.textChanged text cursor) =
      if e.draft.issued + 1 < offsetLimit then
        (s.note (.changed (e.draft.issued + 1) text cursor)).become
          (e.retype env.timing s.clock text cursor)
          (e.retype env.timing s.clock text cursor).draft.status
      else { s with editor := none } := by
  split
  · next hlt =>
      have hedit := Draft.edit_of_lt hlt text cursor
      by_cases hempty : text = ""
      · rw [if_pos hempty] at hedit
        simp only [handle, Editor.handle, Editor.changeText, hedit, Editor.retype, if_pos hempty]
        subst hempty
        rfl
      · rw [if_neg hempty] at hedit
        simp only [handle, Editor.handle, Editor.changeText, hedit, Editor.retype, if_neg hempty]
        rfl
  · next hnot =>
      have hedit := Draft.edit_of_le (Nat.le_of_not_lt hnot) text cursor
      simp only [handle, Editor.handle, Editor.changeText, hedit]
      rfl

namespace Alike

theorem refl (heard : Prop) (s : Session) : Alike heard s s :=
  ⟨rfl, rfl, rfl, rfl, rfl, fun _ => rfl, fun _ => rfl⟩

theorem symm (h : Alike heard s s') : Alike heard s' s :=
  ⟨h.clock.symm, h.editor.symm, h.calls.symm, h.replies.symm, h.work.symm,
    fun hheard => (h.listening hheard).symm, fun hheard => (h.essence hheard).symm⟩

theorem trans (h : Alike heard s s') (h' : Alike heard s' s'') : Alike heard s s'' :=
  ⟨h'.clock.trans h.clock, h'.editor.trans h.editor, h'.calls.trans h.calls,
    h'.replies.trans h.replies, h'.work.trans h.work,
    fun hheard => (h'.listening hheard).trans (h.listening hheard),
    fun hheard => (h'.essence hheard).trans (h.essence hheard)⟩

/-- Both sessions live or neither does. -/
theorem editor_cases (h : Alike heard s s') :
    (s.editor = none ∧ s'.editor = none) ∨
      ∃ e e', s.editor = some e ∧ s'.editor = some e' ∧ e'.nameless = e.nameless := by
  have heditor := h.editor
  cases he : s.editor with
  | none =>
      rw [he, Option.map_none, Option.map_eq_none_iff] at heditor
      exact .inl ⟨rfl, heditor⟩
  | some e =>
      rw [he, Option.map_some, Option.map_eq_some_iff] at heditor
      obtain ⟨e', he', hsame⟩ := heditor
      exact .inr ⟨e, e', rfl, he', hsame⟩

theorem pending (h : Alike heard s s') :
    s'.editor.map (·.pending) = s.editor.map (·.pending) := by
  rcases h.editor_cases with ⟨he, he'⟩ | ⟨e, e', he, he', hsame⟩ <;> rw [he, he']
  exact congrArg (fun e => some e.pending) hsame

theorem dueTimes (h : Alike heard s s') : s'.dueTimes = s.dueTimes := by
  have hpending : s'.editor.bind (·.dueTime?) = s.editor.bind (·.dueTime?) := by
    rcases h.editor_cases with ⟨he, he'⟩ | ⟨e, e', he, he', hsame⟩ <;> rw [he, he']
    exact congrArg (fun e => e.dueTime?) hsame
  rw [Session.dueTimes, Session.dueTimes, hpending, h.calls]

/-- Both editors come to the same but for the name, and their surfaces are told the same of the
query. -/
theorem become (h : Alike heard s s') (hsame : e'.nameless = e.nameless)
    {signals signals' : List Signal}
    (hsignals : signals'.filterMap Signal.essential? = signals.filterMap Signal.essential?)
    (hfirst : ∀ shown, signals.head? ≠ some (.gating shown))
    (hfirst' : ∀ shown, signals'.head? ≠ some (.gating shown)) :
    Alike heard (s.become e signals) (s'.become e' signals') where
  clock := by simpa using h.clock
  editor := by simpa using hsame
  calls := by simpa using h.calls
  replies := by simpa using h.replies
  work := by
    have hwork (t : Session) (e : Editor) (signals : List Signal) :
        Journal.work (t.become e signals).journal = Journal.work t.journal := by
      rw [become_journal]
      split
      · exact work_telling t.clock signals t.journal
      · rfl
    rw [hwork, hwork, h.work]
  listening hheard := by simpa using h.listening hheard
  essence hheard := by
    rw [become_journal, become_journal, h.listening hheard]
    split
    · have htold := essence_telling s.clock s.journal hfirst
      have htold' := essence_telling s'.clock s'.journal hfirst'
      rw [h.clock, hsignals, h.essence hheard, ← htold, telling, telling] at htold'
      rwa [h.clock]
    · exact h.essence hheard

/-- A change of the text or a request is noted by both. -/
theorem note (h : Alike heard s s') (happening : Happening)
    (hwork : ∀ time, Entry.isWork ⟨time, happening⟩) :
    Alike heard (s.note happening) (s'.note happening) := by
  refine ⟨h.clock, h.editor, h.calls, h.replies, ?_, h.listening, fun hheard => ?_⟩
  · have hkept (time : Nat) (past : List Entry) :
        Journal.work (⟨time, happening⟩ :: past) = ⟨time, happening⟩ :: Journal.work past :=
      List.filter_cons_of_pos (hwork time)
    rw [Session.note, Session.note, hkept, hkept, h.clock, h.work]
  · have hkept (time : Nat) (past : List Entry) :
        Journal.essence (⟨time, happening⟩ :: past) =
          ⟨time, happening⟩ :: Journal.essence past := by
      cases happening with
      | changed | asked => rfl
      | renamed | told => cases hwork 0
    rw [Session.note, Session.note, hkept, hkept, h.clock, h.essence hheard]

/-! ### What happens by itself -/

theorem expire (h : Alike heard s s') : Alike heard s.expire s'.expire :=
  { h with
    calls := by simp only [Session.expire, h.calls, h.clock]
    replies := by simp only [Session.expire, h.calls, h.clock, h.replies] }

theorem collect (h : Alike heard s s') (env : Setting) :
    Alike heard (s.collect env) (s'.collect env) :=
  { h with
    calls := by simp only [Session.collect, h.calls]
    replies := by simp only [Session.collect, h.calls, h.replies] }

theorem receive (h : Alike heard s s') (reply : Reply) :
    Alike heard (s.receive reply) (s'.receive reply) := by
  rcases h.editor_cases with ⟨he, he'⟩ | ⟨e, e', he, he', hsame⟩
  · rwa [receive_none he, receive_none he']
  · rw [receive_some he, receive_some he']
    obtain ⟨heditor, hsignals⟩ := e.nameless_receive reply
    obtain ⟨heditor', hsignals'⟩ := e'.nameless_receive reply
    rw [hsame] at heditor' hsignals'
    exact h.become (heditor'.trans heditor.symm) (hsignals'.trans hsignals.symm)
      (e.receive_head reply) (e'.receive_head reply)

theorem receiveNext (h : Alike heard s s') : Alike heard s.receiveNext s'.receiveNext := by
  unfold Session.receiveNext
  rw [h.replies]
  split
  · exact h
  · next reply replies _ =>
      have hrest : Alike heard { s with replies } { s' with replies } := { h with replies := rfl }
      exact hrest.receive reply

theorem deliver (h : Alike heard s s') : Alike heard s.deliver s'.deliver := by
  unfold Session.deliver
  rw [h.replies]
  induction s.replies.length with
  | zero => exact h
  | succ n ih => exact ih.receiveNext

/-- Both send the same request. -/
theorem ask (h : Alike heard s s') (hsame : e'.nameless = e.nameless) (env : Setting)
    (id : RequestId) : Alike heard (s.ask env e id) (s'.ask env e' id) := by
  have htext : e'.draft.text = e.draft.text := congrArg (·.draft.text) hsame
  have hcursor : e'.draft.cursor = e.draft.cursor := congrArg (·.draft.cursor) hsame
  have hcall : Call.make env s'.clock e' id = Call.make env s.clock e id := by
    rw [h.clock]
    exact (congrArg (Call.make env s.clock · id) hsame :)
  have hsent : Alike heard
      { s with editor := some (e.sent id), calls := s.calls ++ [Call.make env s.clock e id] }
      { s' with
        editor := some (e'.sent id), calls := s'.calls ++ [Call.make env s'.clock e' id] } :=
    { h with
      editor := (congrArg (fun e => some (e.sent id)) hsame :)
      calls := by rw [h.calls, hcall] }
  rw [Session.ask, Session.ask, htext, hcursor]
  exact hsent.note (.asked id e.draft.text e.draft.cursor) fun _ => rfl

theorem fire (h : Alike heard s s') (env : Setting) : Alike heard (s.fire env) (s'.fire env) := by
  rcases h.editor_cases with ⟨he, he'⟩ | ⟨e, e', he, he', hsame⟩
  · simpa only [Session.fire, he, he'] using h
  · have hdue : e'.due? s'.clock = e.due? s.clock := by
      rw [h.clock]
      exact (congrArg (Editor.due? · s.clock) hsame :)
    simp only [Session.fire, he, he', hdue]
    split
    · exact h.ask hsame env _
    · exact h

theorem exchange (h : Alike heard s s') (env : Setting) :
    Alike heard (s.exchange env) (s'.exchange env) :=
  (h.expire.collect env).deliver

theorem settle (h : Alike heard s s') (env : Setting) :
    Alike heard (s.settle env) (s'.settle env) :=
  ((h.exchange env).fire env).exchange env

/-- Time goes by for both in the same pieces. -/
theorem advance (env : Setting) (ms : Nat) : ∀ {s s' : Session}, Alike heard s s' →
    Alike heard (Session.advance env ms s) (Session.advance env ms s') := by
  induction ms using Nat.strongRecOn with
  | _ ms ih =>
      intro s s' h
      rcases Nat.eq_zero_or_pos ms with rfl | hms
      · rwa [advance_zero, advance_zero]
      · have hpause : s'.pause ms = s.pause ms := by
          rw [pause, pause, h.dueTimes, h.clock]
        have hpassed : Alike heard { s with clock := s.clock + s.pause ms }
            { s' with clock := s'.clock + s.pause ms } := { h with clock := by rw [h.clock] }
        have hpos := s.pause_pos ms
        rw [advance_pos env hms, advance_pos env hms, hpause]
        exact ih (ms - s.pause ms) (by omega) (hpassed.settle env)

/-! ### Steps -/

/-- A change of the text does the same to both. -/
theorem changeText (h : Alike heard s s') (hsame : e'.nameless = e.nameless) (text : String)
    (cursor : Nat) :
    Alike heard (s.handle env e (.textChanged text cursor))
      (s'.handle env e' (.textChanged text cursor)) := by
  have hissued : e'.draft.issued = e.draft.issued := congrArg (·.draft.issued) hsame
  rw [handle_textChanged, handle_textChanged, hissued, h.clock]
  split
  · have hretyped : (e'.retype env.timing s.clock text cursor).nameless =
        (e.retype env.timing s.clock text cursor).nameless := by
      rw [Editor.nameless_retype, Editor.nameless_retype, hsame]
    have hnoted := h.note (.changed (e.draft.issued + 1) text cursor) fun _ => rfl
    have hstatus (d : Draft) (shown : Gating) : d.status.head? ≠ some (.gating shown) := nofun
    refine hnoted.become hretyped ?_ (hstatus _) (hstatus _)
    rw [← Editor.nameless_status, hretyped, Editor.nameless_status]
  · exact { h with clock := rfl, editor := rfl }

theorem release (h : Alike heard s s') (id : RequestId) :
    Alike heard (s.release id) (s'.release id) :=
  { h with calls := by simp only [Session.release, h.calls] }

/-- A step that changes the text, lets time go by, releases a call or ends the session does the same
to both. -/
theorem step (h : Alike heard s s') {st : Step} (hst : st.isIncidental = false) :
    Alike heard (s.step env st) (s'.step env st) := by
  suffices htake : Alike heard (s.take env st).1 (s'.take env st).1 from htake.settle env
  cases st with
  | event event =>
      cases event with
      | textChanged text cursor =>
          rcases h.editor_cases with ⟨he, he'⟩ | ⟨e, e', he, he', hsame⟩
          · simpa only [take, he, he'] using h
          · simpa only [take, he, he'] using h.changeText hsame text cursor
      | nameChanged | execute => cases hst
  | advance ms => exact h.advance env ms
  | release text =>
      have hheld : s'.heldCall? text = s.heldCall? text := by
        rw [heldCall?, heldCall?, h.calls]
      simp only [take, hheld]
      cases s.heldCall? text with
      | none => exact h
      | some c => exact h.release c.id
  | closeSignals => cases hst
  | kill => exact { h with editor := rfl }

end Alike

/-- What happens outside the clock, the calls, the replies and the waiting request leaves a session
settled. -/
theorem Still.congr (still : s.Still) (hclock : s'.clock = s.clock) (hcalls : s'.calls = s.calls)
    (hreplies : s'.replies = s.replies)
    (hpending : s'.editor.map (·.pending) = s.editor.map (·.pending)) : s'.Still where
  replies_nil := hreplies.trans still.replies_nil
  held := hcalls ▸ still.held
  not_overdue := hcalls ▸ hclock ▸ still.not_overdue
  not_due e' he' := by
    rw [he'] at hpending
    cases he : s.editor with
    | none => rw [he] at hpending; cases hpending
    | some e =>
        rw [he] at hpending
        have hsame : e'.pending = e.pending := Option.some.inj hpending
        have hdue := still.not_due e he
        rw [Editor.due?] at hdue ⊢
        rwa [hsame, hclock]

/-- A signal that says nothing of the query changes nothing that matters here. -/
theorem alike_mute (he : s.editor = some e) {signal : Signal} (hsignal : signal.essential? = none) :
    Alike heard s (s.become e [signal]) := by
  refine ⟨by simp, by simp [he], by simp, by simp, ?_, fun _ => by simp, fun _ => ?_⟩ <;>
    rw [become_journal] <;> split
  · rfl
  · rfl
  · cases signal with
    | executeQuery | executeRejected => rfl
    | gating | feedback | validated | suggestions => cases hsignal
  · rfl

/-- An incidental step makes a session like the one before, unless it matters what is heard and the
step is the loss of the reader. -/
theorem alike_incidental (still : s.Still) {st : Step} (hst : st.isIncidental)
    (hheard : heard → st ≠ .closeSignals) : Alike heard s (s.step env st) := by
  suffices h : Alike heard s (s.take env st).1 by
    have hstill : (s.take env st).1.Still := still.congr h.clock h.calls h.replies h.pending
    rwa [step, settle_of_still hstill]
  cases st with
  | event event =>
      cases he : s.editor with
      | none => simpa only [take, he] using .refl heard s
      | some e =>
          simp only [take, he]
          cases event with
          | textChanged => cases hst
          | nameChanged name =>
              have hhandle : s.handle env e (.nameChanged name) =
                  (s.note (.renamed name)).become { e with draft := e.draft.rename name }
                    [.gating (e.draft.rename name).gating] := rfl
              rw [hhandle]
              refine ⟨by simp, by rw [become_editor, he]; rfl, by simp, by simp, ?_,
                fun _ => by simp, fun _ => ?_⟩
              · rw [become_journal]
                split <;> rfl
              · rw [become_journal]
                split <;> rfl
          | execute =>
              cases hquery : e.draft.executable with
              | none =>
                  have hmute : (Signal.executeRejected e.draft.validity).essential? = none := rfl
                  simp only [handle, Editor.handle, hquery]
                  exact alike_mute he hmute
              | some query =>
                  have hmute : (Signal.executeQuery query).essential? = none := rfl
                  simp only [handle, Editor.handle, hquery]
                  exact alike_mute he hmute
  | closeSignals =>
      exact ⟨rfl, rfl, rfl, rfl, rfl, fun h => absurd rfl (hheard h), fun _ => rfl⟩
  | advance | release | kill => cases hst

/-! ### Runs -/

/-- Alike sessions stay alike over steps and over the same steps less some incidental ones. -/
theorem Alike.foldl {steps kept : List Step} (herases : Erases steps kept)
    (hheard : heard → Step.closeSignals ∉ steps) : ∀ {s s' : Session}, s.Still → s'.Still →
    Alike heard s s' →
    Alike heard (steps.foldl (Session.step env) s) (kept.foldl (Session.step env) s') := by
  induction herases with
  | nil => exact fun _ _ h => h
  | @keep steps kept st _ ih =>
      intro s s' still still' h
      have hst : heard → st ≠ .closeSignals := fun hyes =>
        (List.ne_of_not_mem_cons (hheard hyes)).symm
      have hnext : Alike heard (s.step env st) (s'.step env st) := by
        cases hincidental : st.isIncidental with
        | true =>
            have hs : Alike heard s (s.step env st) := alike_incidental still hincidental hst
            have hs' : Alike heard s' (s'.step env st) := alike_incidental still' hincidental hst
            exact hs.symm.trans (h.trans hs')
        | false => exact h.step hincidental
      exact ih (fun hyes => List.not_mem_of_not_mem_cons (hheard hyes)) (settle_still env _)
        (settle_still env _) hnext
  | @drop steps kept st _ hincidental ih =>
      intro s s' still still' h
      have hst : heard → st ≠ .closeSignals := fun hyes =>
        (List.ne_of_not_mem_cons (hheard hyes)).symm
      have hs : Alike heard s (s.step env st) := alike_incidental still hincidental hst
      exact ih (fun hyes => List.not_mem_of_not_mem_cons (hheard hyes)) (settle_still env _)
        still' (hs.symm.trans h)

/-- **Runs stay alike** when incidental steps are erased. -/
theorem alike_after {steps kept : List Step} (herases : Erases steps kept)
    (hheard : heard → Step.closeSignals ∉ steps) :
    Alike heard (after env saved maySave steps) (after env saved maySave kept) := by
  have hrun (steps : List Step) : after env saved maySave steps =
      steps.foldl (Session.step env) (after env saved maySave []) := after_append [] steps
  rw [hrun steps, hrun kept]
  exact Alike.foldl herases hheard (after_still []) (after_still []) (.refl heard _)

/-- **Validation is undisturbed.**  Let a run be cut in two, and erase any of its new names, of its
requests to run the query, and of its losses of the reader from both parts.

The run so erased changes the text and asks the oracle under the same ids, about the same texts and
at the same times.  It ends at the same time and with the same editor, but for the name of the
filter: the same text and cursor, the same ids issued and applied, the same validity and the same
error.

If the reader is not lost in the first part, then at the end of it both surfaces were told the same
diagnostics, indicators and suggestions at the same times, and among these, with every gating that
did not come with a new name, the same of searching. -/
theorem validation_undisturbed {front front' rest rest' : List Step} (hfront : Erases front front')
    (hrest : Erases rest rest') :
    work (after env saved maySave (front' ++ rest')).journal =
        work (after env saved maySave (front ++ rest)).journal ∧
      (after env saved maySave (front' ++ rest')).clock =
        (after env saved maySave (front ++ rest)).clock ∧
      (after env saved maySave (front' ++ rest')).editor.map Editor.nameless =
        (after env saved maySave (front ++ rest)).editor.map Editor.nameless ∧
      (Step.closeSignals ∉ front →
        (after env saved maySave front').journal.filter Entry.isOutcome =
            (after env saved maySave front).journal.filter Entry.isOutcome ∧
          essence (after env saved maySave front').journal =
            essence (after env saved maySave front).journal) := by
  have hended : Alike False (after env saved maySave (front ++ rest))
      (after env saved maySave (front' ++ rest')) :=
    alike_after (hfront.append hrest) False.elim
  refine ⟨hended.work, hended.clock, hended.editor, fun hopen => ?_⟩
  have hcut : Alike True (after env saved maySave front) (after env saved maySave front') :=
    alike_after hfront fun _ => hopen
  have hessence := hcut.essence trivial
  exact ⟨by rw [← filter_essence, hessence, filter_essence], hessence⟩

end

/-! ### A new name while a request waits -/

/-- A query whose filter gets a new name, and which is to be run, while its request waits. -/
def disturbedSteps : List Step :=
  [.event (.textChanged "b" 1), .event (.nameChanged "other"), .event .execute, .advance 150]

/-- The query alone. -/
def undisturbedSteps : List Step :=
  [.event (.textChanged "b" 1), .advance 150]

/-- The next query, which no one is told of. -/
def unheardSteps : List Step :=
  [.closeSignals, .event (.textChanged "c" 1), .advance 150]

/-- The next query, and a reader. -/
def heardSteps : List Step :=
  [.event (.textChanged "c" 1), .advance 150]

/-- The requests are the same, though the surfaces are told different things in the end; and the
first diagnostic is told to both. -/
theorem validation_undisturbed_renamed :
    work (after patient none true (undisturbedSteps ++ heardSteps)).journal =
        work (after patient none true (disturbedSteps ++ unheardSteps)).journal ∧
      (after patient none true (undisturbedSteps ++ heardSteps)).signals ≠
        (after patient none true (disturbedSteps ++ unheardSteps)).signals ∧
      ⟨150, .told (.validated .accepted)⟩ ∈
        essence (after patient none true disturbedSteps).journal ∧
      essence (after patient none true undisturbedSteps).journal =
        essence (after patient none true disturbedSteps).journal := by
  have hfront : Erases disturbedSteps undisturbedSteps :=
    .keep _ (.drop (.drop (.keep _ .nil) rfl) rfl)
  have hrest : Erases unheardSteps heardSteps := .drop (.keep _ (.keep _ .nil)) rfl
  obtain ⟨hwork, -, -, hessence⟩ := @validation_undisturbed patient none true
    disturbedSteps undisturbedSteps unheardSteps heardSteps hfront hrest
  exact ⟨hwork, by decide +kernel, by decide +kernel, (hessence (by decide)).2⟩

end Session
end FilterEditor
