import FilterEditor.Proofs.History

/-!
# Proofs — Bursts

Which request a session sends, and when, as its journal tells it.

A *burst* is a sequence of changes to texts that are not empty, with no request sent and no empty
text between them (`Journal.burst`).  Its request is that of its last change, and is sent the
debounce time after that change, or the longest debounce time after the first one if that is sooner
(`Timing.sendTime`).

* `Waits`: the request that waits is the one of the burst under way, with its time.
* `Journal.Orderly`: the changes bear the ids from one on, in order, and every request in the journal
  was sent for the last change of a burst, at its time.  Only the query that a session opens with is
  sent at once.
* `Arises.orderly` and `Arises.waits` prove both of every session that arises.
* `Journal.Orderly.requests_sublist`: the requests are a sublist of the changes.
-/

namespace FilterEditor

/-- A request to the oracle. -/
structure Journal.Request where
  id : RequestId
  text : String
  cursor : Nat
deriving DecidableEq, Repr

/-- The request that a change of the text asks for. -/
def Edit.request (edit : Edit) : Journal.Request :=
  ⟨edit.id, edit.text, edit.cursor⟩

/-- The entry that notes the change. -/
def Edit.entry (edit : Edit) : Entry :=
  ⟨edit.time, .changed edit.id edit.text edit.cursor⟩

/-- When the request of a burst is sent, by the times of its first and its last change. -/
def Timing.sendTime (t : Timing) (first last : Nat) : Nat :=
  min (last + t.debounceMs) (first + t.longestMs)

namespace Entry

/-- The request that the entry notes, if it notes one. -/
def request? (entry : Entry) : Option Journal.Request :=
  match entry.happening with
  | .asked id text cursor => some ⟨id, text, cursor⟩
  | _ => none

/-- The entry notes neither a change of the text nor a request. -/
structure Quiet (entry : Entry) : Prop where
  edit : entry.edit? = none
  request : entry.request? = none

theorem Quiet.told (time : Nat) (signal : Signal) : Quiet ⟨time, .told signal⟩ := ⟨rfl, rfl⟩

theorem Quiet.renamed (time : Nat) (name : String) : Quiet ⟨time, .renamed name⟩ := ⟨rfl, rfl⟩

end Entry

namespace Journal

/-- The requests to the oracle, latest first. -/
def requests (past : List Entry) : List Request :=
  past.filterMap Entry.request?

/-- The changes of the burst under way, latest first.  A request or an empty text ends a burst.  The
query that a session opens with, the oldest entry of its journal, belongs to none. -/
def burst : List Entry → List Edit
  | [] => []
  | entry :: past =>
      match entry.edit? with
      | some edit => if edit.text = "" ∨ past = [] then [] else edit :: burst past
      | none => if entry.request?.isSome then [] else burst past

/-- When a burst began, by its last change and the ones before. -/
def burstStart (last : Edit) (older : List Edit) : Nat :=
  (older.getLastD last).time

/-- The request that waits for the burst's time. -/
def waiting (timing : Timing) : List Edit → Option Pending
  | [] => none
  | last :: older =>
      some
        { id := last.id
          burstStart := burstStart last older
          due := timing.sendTime (burstStart last older) last.time }

variable {front past journal : List Entry} {timing : Timing} {last edit : Edit} {older : List Edit}

theorem burstStart_cons (next last : Edit) (older : List Edit) :
    burstStart next (last :: older) = burstStart last older := by
  rw [burstStart, List.getLastD_cons, burstStart]

/-- The journal has grown out of an earlier one by quiet entries. -/
def Grown (past journal : List Entry) : Prop :=
  ∃ front, journal = front ++ past ∧ ∀ entry ∈ front, entry.Quiet

theorem Grown.refl (past : List Entry) : Grown past past := ⟨[], rfl, nofun⟩

theorem Grown.trans {later : List Entry} (h : Grown past journal) (h' : Grown journal later) :
    Grown past later := by
  obtain ⟨front, rfl, hfront⟩ := h
  obtain ⟨front', rfl, hfront'⟩ := h'
  exact ⟨front' ++ front, (List.append_assoc ..).symm, List.forall_mem_append.mpr ⟨hfront', hfront⟩⟩

theorem Grown.renamed (time : Nat) (name : String) (past : List Entry) :
    Grown past (⟨time, .renamed name⟩ :: past) :=
  ⟨[_], rfl, List.forall_mem_singleton.mpr (.renamed time name)⟩

theorem Grown.suffix (h : Grown past journal) : past <:+ journal := by
  obtain ⟨front, rfl, -⟩ := h
  exact List.suffix_append front past

theorem Grown.edits_eq (h : Grown past journal) : edits journal = edits past := by
  obtain ⟨front, rfl, hfront⟩ := h
  have hnone : edits front = [] :=
    List.filterMap_eq_nil_iff.mpr fun entry hmem => (hfront entry hmem).edit
  rw [edits_append, hnone, List.nil_append]

theorem Grown.burst_eq (h : Grown past journal) : burst journal = burst past := by
  obtain ⟨front, rfl, hfront⟩ := h
  induction front with
  | nil => rfl
  | cons entry front ih =>
      obtain ⟨hentry, hfront⟩ := List.forall_mem_cons.mp hfront
      rw [List.cons_append, burst, hentry.edit, hentry.request]
      exact ih hfront

/-- A burst is made of the last changes, none of which is to an empty text. -/
theorem burst_prefix_edits (past : List Entry) : burst past <+: edits past := by
  induction past with
  | nil => exact List.nil_prefix
  | cons entry past ih =>
      rw [burst, edits, List.filterMap_cons]
      cases entry.edit? with
      | some edit =>
          simp only
          split
          · exact List.nil_prefix
          · exact List.cons_prefix_cons.mpr ⟨rfl, ih⟩
      | none =>
          simp only
          split
          · exact List.nil_prefix
          · exact ih

theorem text_ne_of_mem_burst (h : edit ∈ burst past) : edit.text ≠ "" := by
  induction past with
  | nil => cases h
  | cons entry past ih =>
      rw [burst] at h
      cases hedit : entry.edit? with
      | some change =>
          simp only [hedit] at h
          split at h
          · cases h
          · next hne =>
              rcases List.mem_cons.mp h with rfl | h
              · exact fun hempty => hne (.inl hempty)
              · exact ih h
      | none =>
          simp only [hedit] at h
          split at h
          · cases h
          · exact ih h

/-- The last change of a burst is the last change of the text. -/
theorem lastEdit?_of_burst (h : burst past = last :: older) : lastEdit? past = some last := by
  obtain ⟨rest, hedits⟩ := burst_prefix_edits past
  rw [← head?_edits, ← hedits, h]
  rfl

/-! ### Orderly journals -/

/-- What stands before a request calls for it, at this time: the request is that of the last change
of a burst whose time has come, or that of the query that the session opens with. -/
def Due (timing : Timing) (past : List Entry) (time : Nat) (request : Request) : Prop :=
  (∃ last older, burst past = last :: older ∧ last.request = request ∧
    time = timing.sendTime (burstStart last older) last.time) ∨
  (∃ edit : Edit, past = [edit.entry] ∧ edit.request = request ∧ edit.text ≠ "" ∧ time = edit.time)

/-- The changes of the text bear the ids from one on, and every request was sent when it was due. -/
structure Orderly (timing : Timing) (journal : List Entry) : Prop where
  numbered : (edits journal).map (·.id) = (List.range' 1 (edits journal).length).reverse
  sent : ∀ entry past request, (entry :: past) <:+ journal → entry.request? = some request →
    Due timing past entry.time request

namespace Orderly

theorem nil : Orderly timing [] :=
  ⟨rfl, fun _ _ _ hsuffix => nomatch List.suffix_nil.mp hsuffix⟩

theorem cons (h : Orderly timing past) {entry : Entry}
    (hedit : ∀ edit, entry.edit? = some edit → edit.id = (edits past).length + 1)
    (hrequest : ∀ request, entry.request? = some request → Due timing past entry.time request) :
    Orderly timing (entry :: past) where
  numbered := by
    cases hentry : entry.edit? with
    | none => rw [edits, List.filterMap_cons_none hentry]; exact h.numbered
    | some edit =>
        rw [edits, List.filterMap_cons_some hentry, ← edits, List.map_cons, hedit edit hentry,
          h.numbered, List.length_cons, List.range'_concat, List.reverse_append]
        simp [Nat.add_comm]
  sent entry' past' request hsuffix hentry := by
    rcases List.suffix_cons_iff.mp hsuffix with heq | hsuffix
    · cases heq
      exact hrequest request hentry
    · exact h.sent entry' past' request hsuffix hentry

theorem grown (h : Orderly timing past) (hgrown : Grown past journal) :
    Orderly timing journal := by
  obtain ⟨front, rfl, hfront⟩ := hgrown
  induction front with
  | nil => exact h
  | cons entry front ih =>
      obtain ⟨hentry, hfront⟩ := List.forall_mem_cons.mp hfront
      refine (ih hfront).cons (fun edit hedit => ?_) (fun request hrequest => ?_)
      · rw [hentry.edit] at hedit
        cases hedit
      · rw [hentry.request] at hrequest
        cases hrequest

/-- The ids of the changes grow. -/
theorem ids_decreasing (h : Orderly timing journal) :
    ((edits journal).map (·.id)).Pairwise (· > ·) := by
  rw [h.numbered, List.pairwise_reverse]
  exact List.pairwise_lt_range'

theorem of_cons {entry : Entry} (h : Orderly timing (entry :: past)) : Orderly timing past where
  numbered := by
    have hnumbered := h.numbered
    cases hentry : entry.edit? with
    | none => rwa [edits, List.filterMap_cons_none hentry] at hnumbered
    | some edit =>
        rw [edits, List.filterMap_cons_some hentry, ← edits, List.map_cons, List.length_cons,
          List.range'_concat, List.reverse_append] at hnumbered
        exact (List.cons.inj hnumbered).2
  sent entry' past' request hsuffix :=
    h.sent entry' past' request (hsuffix.trans (List.suffix_cons entry past))

/-- **The requests are a sublist of the changes**, and those of the burst under way are not among
them. -/
theorem requests_sublist (h : Orderly timing journal) :
    (requests journal).Sublist
      (((edits journal).drop (burst journal).length).map Edit.request) := by
  induction journal with
  | nil => exact .slnil
  | cons entry past ih =>
      have ih := ih h.of_cons
      have hall : (requests past).Sublist ((edits past).map Edit.request) :=
        ih.trans ((List.drop_sublist _ _).map _)
      have hdue := h.sent entry past
      rw [burst, edits, requests]
      cases hedit : entry.edit? with
      | some edit =>
          have hnone : entry.request? = none := by
            obtain ⟨time, happening⟩ := entry
            cases happening <;> first | rfl | cases hedit
          rw [List.filterMap_cons_some hedit, List.filterMap_cons_none hnone]
          simp only
          split
          · exact hall.trans (List.sublist_cons_self ..)
          · exact ih
      | none =>
          rw [List.filterMap_cons_none hedit]
          cases hrequest : entry.request? with
          | none =>
              rw [List.filterMap_cons_none hrequest]
              exact ih
          | some request =>
              rw [List.filterMap_cons_some hrequest]
              simp only [Option.isSome_some, if_true, List.length_nil, List.drop_zero]
              rcases hdue request (List.suffix_refl _) hrequest with
                ⟨last, older, hburst, rfl, -⟩ | ⟨edit, rfl, rfl, -⟩
              -- the request of the burst's last change, before the changes of earlier bursts
              · obtain ⟨rest, hrest⟩ := burst_prefix_edits past
                rw [hburst, ← hrest, hburst, List.drop_left] at ih
                rw [← edits, ← hrest, hburst, List.cons_append, List.map_cons, List.map_append]
                exact (ih.trans (List.sublist_append_right ..)).cons_cons _
              -- the request of the query that the session opened with
              · exact .refl [edit.request]

/-- The ids of the requests grow, so that no two requests bear the same. -/
theorem requests_decreasing (h : Orderly timing journal) :
    ((requests journal).map (·.id)).Pairwise (· > ·) := by
  have hdrop := (List.drop_sublist (burst journal).length (edits journal)).map Edit.request
  have hids := (h.requests_sublist.trans hdrop).map Request.id
  rw [List.map_map] at hids
  exact h.ids_decreasing.sublist hids

end Orderly

end Journal

namespace Session
open Relation Journal

section
variable {env : Setting} {saved : Option SavedFilter} {maySave : Bool} {s s' : Session} {e e' : Editor}

/-! ### What a move adds to the journal -/

/-- What the surface is told is quiet. -/
theorem become_grown (s : Session) (e : Editor) (signals : List Signal) :
    Grown s.journal (s.become e signals).journal := by
  obtain ⟨front, hjournal, htold⟩ := s.become_told e signals
  refine ⟨front, hjournal, fun entry hmem => ?_⟩
  obtain ⟨signal, rfl⟩ := htold entry hmem
  exact .told s.clock signal

theorem receive_grown (s : Session) (reply : Reply) : Grown s.journal (s.receive reply).journal := by
  cases he : s.editor with
  | none => rw [receive_none he]; exact .refl s.journal
  | some e => rw [receive_some he]; exact s.become_grown _ _

/-- A move adds quiet entries to the journal, or sends the waiting request, or changes the text. -/
theorem move_cases (move : Move env s s') :
    Grown s.journal s'.journal ∨
    (∃ e id, s.editor = some e ∧ e.due? s.clock = some id ∧ s' = s.ask env e id) ∨
    ∃ e text cursor, s.editor = some e ∧ Grown
      (⟨s.clock, .changed (e.draft.issued + 1) text cursor⟩ :: s.journal) s'.journal := by
  cases move with
  | inner move =>
      cases move with
      | pass | expire | collect => exact .inl (.refl _)
      | receive => exact .inl (receive_grown _ _)
      | send he hdue => exact .inr (.inl ⟨_, _, he, hdue, rfl⟩)
  | @event e he event =>
      rcases s.handle_cases env e event with hs | ⟨text, cursor, -, -, hs⟩ | ⟨cursor, -, hs⟩ |
          ⟨name, -, hs⟩ | ⟨signal, -, hs, -⟩ <;> rw [hs]
      · exact .inl (.refl _)
      · exact .inr (.inr ⟨e, text, cursor, he, become_grown ..⟩)
      · exact .inr (.inr ⟨e, "", cursor, he, become_grown ..⟩)
      · exact .inl ((Grown.renamed s.clock name s.journal).trans (become_grown ..))
      · exact .inl (s.become_grown _ _)
  | release | closeSignals | kill => exact .inl (.refl _)

/-- A journal keeps what it holds. -/
theorem journal_suffix (moves : ReflTransGen (Move env) s s') : s.journal <:+ s'.journal := by
  induction moves with
  | refl => exact List.suffix_refl _
  | tail _ move ih =>
      refine ih.trans ?_
      rcases move_cases move with hgrown | ⟨e, id, -, -, rfl⟩ | ⟨e, text, cursor, -, hgrown⟩
      · exact hgrown.suffix
      · exact List.suffix_cons ..
      · exact (List.suffix_cons ..).trans hgrown.suffix

/-! ### The request that waits -/

/-- The journal tells which request waits, and until when. -/
structure Waits (env : Setting) (s : Session) (e : Editor) : Prop where
  issued : e.draft.issued = (edits s.journal).length
  pending : e.pending = waiting env.timing (burst s.journal)
  started : ∀ p, e.pending = some p → p.burstStart ≤ s.clock

theorem Waits.congr (h : Waits env s e) (hgrown : Grown s.journal s'.journal)
    (hclock : s.clock ≤ s'.clock) (hissued : e'.draft.issued = e.draft.issued)
    (hpending : e'.pending = e.pending) : Waits env s' e' where
  issued := by rw [hissued, h.issued, hgrown.edits_eq]
  pending := by rw [hpending, h.pending, hgrown.burst_eq]
  started p hp := Nat.le_trans (h.started p (hpending ▸ hp)) hclock

/-- A change extends the burst under way, and the request waits for the time of the longer burst. -/
theorem Waits.schedule (h : Waits env s e) (htimely : Timely env s) (he : s.editor = some e)
    (id : RequestId) (text : String) (cursor : Nat) :
    some (e.schedule env.timing s.clock id) =
      waiting env.timing (⟨s.clock, id, text, cursor⟩ :: burst s.journal) := by
  have hpending := h.pending
  cases hburst : burst s.journal with
  | nil =>
      rw [hburst] at hpending
      simp [Editor.schedule, hpending, waiting, burstStart, Timing.sendTime, Timing.delayMs,
        Timing.delay]
  | cons last older =>
      rw [hburst] at hpending
      have hstarted := h.started _ hpending
      have hdue := htimely.le_due e _ he hpending
      simp only [Timing.sendTime] at hstarted hdue
      simp only [Editor.schedule, hpending, waiting, burstStart_cons, Timing.sendTime,
        Timing.delayMs, Timing.delay, Option.some.injEq, Pending.mk.injEq, true_and]
      omega

theorem Waits.event (h : Waits env s e) (htimely : Timely env s) (hjournal : s.journal ≠ [])
    (he : s.editor = some e) (event : Event) (he' : (s.handle env e event).editor = some e') :
    Waits env (s.handle env e event) e' := by
  rcases handle_inv he' with ⟨text, cursor, -, hne, rfl, hs⟩ | ⟨cursor, -, rfl, hs⟩ |
      ⟨name, -, rfl, hs⟩ | ⟨signal, -, rfl, hs⟩ <;> rw [hs]
  · have hgrown := become_grown (s.note (.changed (e.draft.issued + 1) text cursor))
      { e with
        draft := e.draft.retyped text cursor
        pending := some (e.schedule env.timing s.clock (e.draft.issued + 1)) }
      (e.draft.retyped text cursor).status
    refine ⟨?_, ?_, fun p hp => ?_⟩
    · rw [hgrown.edits_eq]
      exact congrArg (· + 1) h.issued
    · have hburst : burst (s.note (.changed (e.draft.issued + 1) text cursor)).journal =
          ⟨s.clock, e.draft.issued + 1, text, cursor⟩ :: burst s.journal :=
        if_neg (not_or.mpr ⟨hne, hjournal⟩)
      rw [hgrown.burst_eq, hburst]
      exact h.schedule htimely he (e.draft.issued + 1) text cursor
    · cases hp
      cases hpending : e.pending with
      | none => simp [Editor.schedule, hpending]
      | some p => simpa [Editor.schedule, hpending] using h.started p hpending
  · have hgrown := become_grown (s.note (.changed (e.draft.issued + 1) "" cursor))
      { e with draft := e.draft.cleared cursor, pending := none } (e.draft.cleared cursor).status
    refine ⟨?_, ?_, nofun⟩
    · rw [hgrown.edits_eq]
      exact congrArg (· + 1) h.issued
    · rw [hgrown.burst_eq]
      rfl
  · exact h.congr ((Grown.renamed s.clock name s.journal).trans (become_grown ..)) (by simp) rfl rfl
  · exact h.congr (s.become_grown _ _) (by simp) rfl rfl

theorem Waits.innerMove (h : ∀ e, s.editor = some e → Waits env s e) (move : InnerMove env s s')
    (he' : s'.editor = some e') : Waits env s' e' := by
  cases move with
  | pass ms => exact (h e' he').congr (.refl _) (Nat.le_add_right ..) rfl rfl
  | expire | collect => exact (h e' he').congr (.refl _) (Nat.le_refl _) rfl rfl
  | @receive front back reply =>
      obtain ⟨e, he, rfl⟩ := receive_inv he'
      have hclock := (receive_keeps { s with replies := front ++ back } reply).2.2.1
      exact (h e he).congr (receive_grown _ _) (Nat.le_of_eq hclock.symm) (e.receive_draft reply).1
        (e.receive_pending reply)
  | send he =>
      cases he'
      exact ⟨(h _ he).issued, rfl, nofun⟩

theorem Waits.start (he : (Session.start env (.opening saved maySave)).editor = some e) :
    Waits env (Session.start env (.opening saved maySave)) e := by
  rcases start_cases env saved maySave with ⟨-, hs⟩ | ⟨filter, -, hne, hs⟩ <;> rw [hs] at he ⊢ <;>
    cases he
  · exact ⟨by cases saved <;> rfl, rfl, nofun⟩
  · exact ⟨rfl, rfl, nofun⟩

/-! ### Every session that arises -/

theorem start_journal_ne (env : Setting) (saved : Option SavedFilter) (maySave : Bool) :
    (start env (.opening saved maySave)).journal ≠ [] := by
  rcases start_cases env saved maySave with ⟨-, hs⟩ | ⟨filter, -, -, hs⟩ <;> rw [hs] <;>
    exact List.cons_ne_nil _ _

theorem Arises.journal_ne (hs : Arises env saved maySave s) : s.journal ≠ [] := by
  intro hnil
  have hsuffix := journal_suffix hs
  rw [hnil, List.suffix_nil] at hsuffix
  exact start_journal_ne env saved maySave hsuffix

/-- **The request that waits** is that of the burst under way. -/
theorem Arises.waits (hs : Arises env saved maySave s) :
    ∀ e, s.editor = some e → Waits env s e := by
  induction hs with
  | refl => exact fun e he => .start he
  | tail hs move ih =>
      intro e he
      cases move with
      | inner move => exact .innerMove ih move he
      | event hsome event =>
          exact (ih _ hsome).event (Arises.timely hs) (Arises.journal_ne hs) hsome event he
      | release id => exact (ih e he).congr (.refl _) (Nat.le_refl _) rfl rfl
      | closeSignals => exact (ih e he).congr (.refl _) (Nat.le_refl _) rfl rfl
      | kill => cases he

theorem Grown.status (draft : Draft) (past : List Entry) :
    Grown past
      (⟨0, .told (.gating draft.gating)⟩ :: ⟨0, .told (.feedback draft.feedback)⟩ :: past) :=
  ⟨[_, _], rfl, List.forall_mem_cons.mpr ⟨.told .., List.forall_mem_singleton.mpr (.told ..)⟩⟩

theorem orderly_start : Orderly env.timing (start env (.opening saved maySave)).journal := by
  rcases start_cases env saved maySave with ⟨-, hs⟩ | ⟨filter, -, hne, hs⟩ <;> rw [hs]
  · exact Orderly.nil.grown (Grown.status _ [])
  · -- the query goes out as the session opens, and waits for nothing
    have hchanged : Orderly env.timing [⟨0, .changed 1 filter.query filter.query.length⟩] := by
      refine Orderly.nil.cons (fun edit hedit => ?_) fun request hnone => ?_
      · cases hedit
        rfl
      · cases hnone
    refine (hchanged.cons (fun edit hnone => ?_) fun request hrequest => ?_).grown (Grown.status ..)
    · cases hnone
    · cases hrequest
      exact .inr ⟨⟨0, 1, filter.query, filter.query.length⟩, rfl, rfl, hne, rfl⟩

/-- The request that is sent is due. -/
theorem Waits.due (h : Waits env s e) (hs : Arises env saved maySave s) (he : s.editor = some e)
    {id : RequestId} (hdue : e.due? s.clock = some id) :
    Due env.timing s.journal s.clock ⟨id, e.draft.text, e.draft.cursor⟩ := by
  obtain ⟨p, hp, hle, rfl⟩ := Editor.due?_eq_some.mp hdue
  have hpending := h.pending
  rw [hp] at hpending
  cases hburst : burst s.journal with
  | nil => rw [hburst] at hpending; cases hpending
  | cons last older =>
      rw [hburst] at hpending
      obtain ⟨-, htext, hcursor⟩ :=
        (Arises.chronicle hs e he).of_lastEdit (lastEdit?_of_burst hburst)
      have hclock := Nat.le_antisymm (Arises.timely hs |>.le_due e p he hp) hle
      obtain rfl := Option.some.inj hpending
      exact .inl ⟨last, older, hburst, by rw [Edit.request, htext, hcursor], hclock⟩

/-- **Orderly journals.**  In the journal of every session that arises, the changes are numbered one
by one, and every request was sent when it was due. -/
theorem Arises.orderly (hs : Arises env saved maySave s) : Orderly env.timing s.journal := by
  induction hs with
  | refl => exact orderly_start
  | tail hs move ih =>
      rcases move_cases move with hgrown | ⟨e, id, he, hdue, rfl⟩ | ⟨e, text, cursor, he, hgrown⟩
      · exact ih.grown hgrown
      · refine ih.cons nofun fun request hrequest => ?_
        cases hrequest
        exact (Arises.waits hs e he).due hs he hdue
      · refine (ih.cons (fun edit hedit => ?_) fun request hnone => ?_).grown hgrown
        · cases hedit
          exact congrArg (· + 1) (Arises.waits hs e he).issued
        · cases hnone

end
end Session
end FilterEditor
