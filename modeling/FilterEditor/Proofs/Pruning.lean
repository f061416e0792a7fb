import FilterEditor.Proofs.Confluence
import FilterEditor.Proofs.History

/-!
# Proofs — Pruning

A session less what comes too late (`prune`): the calls that were given up or whose text was changed
since, the replies under the ids of such calls, and the note of the request in flight.

Nothing that happens in a session looks at what `prune` takes away.  A step of the session, pruned,
is the same step of the pruned session, pruned again (`IgnoresLate`); it holds of every part of
settling (`settle_ignoresLate`) and of events (`prune_handle`).  What carries it is that a reply under
an id that is superseded is stale: the draft accepts the last id alone, and the journal holds the
change that it was issued for (`Tracked`).
-/

namespace FilterEditor

namespace Editor

/-- What an event does to the draft and the waiting request has nothing to do with the request in
flight. -/
theorem handle_with_inFlight (e : Editor) (inFlight : Option RequestId) (timing : Timing) (now : Nat)
    (event : Event) :
    { e with inFlight }.handle timing now event =
      (e.handle timing now event).map fun (e', signals) => ({ e' with inFlight }, signals) := by
  cases event with
  | textChanged text cursor =>
      simp only [handle, changeText]
      rcases hedit : e.draft.edit text cursor with fault | ⟨draft, id | -⟩ <;> rfl
  | nameChanged name => rfl
  | execute =>
      simp only [handle]
      cases e.draft.executable <;> rfl

end Editor

namespace Session
open Relation Journal

/-- The text was changed after the change that the id was issued for. -/
def supersedes (s : Session) (id : RequestId) : Bool :=
  (lastEdit? s.journal).any (·.id != id)

/-- The call was given up, or is about a text that was changed since. -/
def isLate (s : Session) (c : Call) : Bool :=
  c.expired || s.supersedes c.id

/-- The session less its late calls, the replies that are superseded, and the note of the request in
flight. -/
def prune (s : Session) : Session :=
  { s with
    editor := s.editor.map fun e => { e with inFlight := none }
    calls := s.calls.filter (!s.isLate ·)
    replies := s.replies.filter (!s.supersedes ·.id) }

/-- The last id that the draft issued is that of the last change of the text. -/
def Tracked (s : Session) : Prop :=
  ∀ e edit, s.editor = some e → lastEdit? s.journal = some edit → edit.id = e.draft.issued

section
variable {env : Setting} {saved : Option SavedFilter} {maySave : Bool} {s s' t : Session}
  {e : Editor} {id : RequestId} {reply : Reply}

theorem prune_prune (s : Session) : s.prune.prune = s.prune := by
  cases s with
  | mk clock editor => cases editor <;> simp [prune, isLate, supersedes]

theorem prune_editor (he : s.editor = some e) : s.prune.editor = some { e with inFlight := none } := by
  simp [prune, he]

theorem prune_editor_none (he : s.editor = none) : s.prune.editor = none := by
  simp [prune, he]

@[simp] theorem prune_clock (s : Session) : s.prune.clock = s.clock := rfl

/-! ### Draft and journal agree -/

/-- A draft accepts no id that is superseded. -/
theorem Tracked.not_accepts (h : s.Tracked) (he : s.editor = some e) (hid : s.supersedes id) :
    ¬ e.draft.accepts id := by
  intro haccepts
  obtain ⟨edit, hedit, hne⟩ := (Option.any_eq_true _ _).mp hid
  rw [bne_iff_ne] at hne
  exact hne ((h e edit he hedit).trans (Draft.accepts_iff.mp haccepts).1.symm)

theorem Tracked.prune (h : s.Tracked) : s.prune.Tracked := by
  intro e edit he hedit
  obtain ⟨e', he', rfl⟩ := Option.map_eq_some_iff.mp he
  exact h e' edit he' hedit

theorem Tracked.receive (h : s.Tracked) (reply : Reply) : (s.receive reply).Tracked := by
  intro e edit he hedit
  obtain ⟨e', he', rfl⟩ := receive_inv he
  rw [lastEdit?_receive] at hedit
  rw [(e'.receive_draft reply).1]
  exact h e' edit he' hedit

theorem Tracked.event (h : s.Tracked) (he : s.editor = some e) (event : Event) :
    (s.handle env e event).Tracked := by
  intro e' edit he' hedit
  rcases handle_inv he' with ⟨text, cursor, -, -, rfl, hs⟩ | ⟨cursor, -, rfl, hs⟩ |
      ⟨name, -, rfl, hs⟩ | ⟨signal, -, rfl, hs⟩ <;> rw [hs, lastEdit?_become] at hedit
  · cases hedit
    rfl
  · cases hedit
    rfl
  · exact h e edit he hedit
  · exact h _ edit he hedit

theorem Tracked.innerMove (h : s.Tracked) (move : InnerMove env s s') : s'.Tracked := by
  cases move with
  | pass | expire | collect => exact h
  | @receive front back reply =>
      have hrest : Tracked { s with replies := front ++ back } := h
      exact hrest.receive reply
  | @send e id he =>
      intro e' edit he' hedit
      cases he'
      exact h e edit he hedit

theorem Tracked.innerMoves (h : s.Tracked) (moves : ReflTransGen (InnerMove env) s s') :
    s'.Tracked := by
  induction moves with
  | refl => exact h
  | tail _ move ih => exact ih.innerMove move

theorem Tracked.start : (start env (.opening saved maySave)).Tracked := by
  intro e edit he hedit
  rcases start_cases env saved maySave with ⟨-, hs⟩ | ⟨filter, -, -, hs⟩ <;> rw [hs] at he hedit
  · cases hedit
  · cases he
    cases hedit
    rfl

theorem Tracked.move (h : s.Tracked) (move : Move env s s') : s'.Tracked := by
  cases move with
  | inner move => exact h.innerMove move
  | event he event => exact h.event he event
  | release | closeSignals => exact h
  | kill => exact fun _ _ he => nomatch he

/-! ### What does not look at what is late -/

/-- The function comes to the same, pruned, if it is given a pruned session. -/
structure IgnoresLate (f : Session → Session) : Prop where
  tracked : ∀ s, s.Tracked → (f s).Tracked
  prune_eq : ∀ s, s.Tracked → (f s).prune = (f s.prune).prune

theorem IgnoresLate.comp {f g : Session → Session} (hg : IgnoresLate g) (hf : IgnoresLate f) :
    IgnoresLate fun s => g (f s) where
  tracked s hs := hg.tracked _ (hf.tracked s hs)
  prune_eq s hs := by
    calc (g (f s)).prune = (g (f s).prune).prune := hg.prune_eq _ (hf.tracked s hs)
      _ = (g (f s.prune).prune).prune := by rw [hf.prune_eq s hs]
      _ = (g (f s.prune)).prune := (hg.prune_eq _ (hf.tracked _ hs.prune)).symm

/-- Whatever commutes with pruning ignores what is late. -/
theorem IgnoresLate.of_prune {f : Session → Session} (htracked : ∀ s, s.Tracked → (f s).Tracked)
    (hf : ∀ s, (f s).prune = f s.prune) : IgnoresLate f where
  tracked := htracked
  prune_eq s _ := by rw [hf, hf, prune_prune]

/-- It does not tell sessions apart that are the same but for what is late. -/
theorem IgnoresLate.congr {f : Session → Session} (hf : IgnoresLate f) (hs : s.Tracked)
    (ht : t.Tracked) (h : s.prune = t.prune) : (f s).prune = (f t).prune := by
  rw [hf.prune_eq s hs, hf.prune_eq t ht, h]

/-- Calls that go on, and reply if they were not given up, do so whether or not the late ones are
there: a late call stays late, and what it replies is superseded. -/
theorem prune_calls {later : List Call → List Call} {replying : Call → Bool} {reply : Call → Reply}
    (hlater : ∀ calls, (later calls).filter (!s.isLate ·) =
      (later (calls.filter (!s.isLate ·))).filter (!s.isLate ·))
    (hreplying : ∀ c, replying c → c.expired = false) (hid : ∀ c, (reply c).id = c.id) :
    prune { s with
      calls := later s.calls, replies := s.replies ++ (s.calls.filter replying).map reply } =
    prune { s.prune with
      calls := later s.prune.calls
      replies := s.prune.replies ++ (s.prune.calls.filter replying).map reply } := by
  let kept (reply : Reply) : Bool := !s.supersedes reply.id
  have hprune : s.prune.prune = s.prune := s.prune_prune
  have heditor : s.prune.prune.editor = s.prune.editor := congrArg Session.editor hprune
  have hwaiting : (s.replies.filter kept).filter kept = s.replies.filter kept :=
    congrArg Session.replies hprune
  have hcoming : ((s.calls.filter replying).map reply).filter kept =
      (((s.calls.filter (!s.isLate ·)).filter replying).map reply).filter kept := by
    rw [List.filter_map, List.filter_map, List.filter_filter, List.filter_filter, List.filter_filter]
    congr 1
    refine List.filter_congr fun c _ => ?_
    cases hc : replying c with
    | false => simp
    | true => simp [kept, isLate, hreplying c hc, hid]
  simp only [prune, Session.mk.injEq, true_and, and_true]
  refine ⟨heditor.symm, hlater s.calls, ?_⟩
  show (s.replies ++ _).filter kept = (s.replies.filter kept ++ _).filter kept
  rw [List.filter_append, List.filter_append, hwaiting, hcoming]

/-- A call that is late stays late when time goes by. -/
theorem isLate_expireAt {c : Call} {now : Nat} (h : s.isLate c) : s.isLate (c.expireAt now) := by
  unfold Call.expireAt
  split
  · rfl
  · exact h

theorem expire_ignoresLate : IgnoresLate expire where
  tracked s hs := hs
  prune_eq s _ := by
    have hlater : ∀ calls : List Call,
        (calls.map (Call.expireAt s.clock)).filter (!s.isLate ·) =
          ((calls.filter (!s.isLate ·)).map (Call.expireAt s.clock)).filter (!s.isLate ·) := by
      intro calls
      rw [List.filter_map, List.filter_map, List.filter_filter]
      congr 1
      refine List.filter_congr fun c _ => ?_
      cases hlate : s.isLate c with
      | false => simp
      | true => simp [isLate_expireAt hlate]
    exact prune_calls hlater (fun c hc => by simp_all [Call.isOverdue]) fun _ => rfl

/-- Calls may be left out for another reason before or after the late ones are. -/
theorem filter_pruned (kept : Call → Bool) (calls : List Call) :
    (calls.filter kept).filter (!s.isLate ·) =
      ((calls.filter (!s.isLate ·)).filter kept).filter (!s.isLate ·) := by
  simp only [List.filter_filter]
  refine List.filter_congr fun c _ => ?_
  cases s.isLate c <;> simp

theorem collect_ignoresLate : IgnoresLate (collect env) where
  tracked s hs := hs
  prune_eq _ _ := prune_calls (filter_pruned _) (fun c hc => by simp_all) fun _ => rfl

/-! ### Replies and requests -/

theorem supersedes_become (s : Session) (e : Editor) (signals : List Signal) :
    (s.become e signals).supersedes = s.supersedes := by
  funext id
  rw [supersedes, lastEdit?_become, supersedes]

theorem prune_become (s : Session) (e : Editor) (signals : List Signal) :
    (s.become e signals).prune = s.prune.become { e with inFlight := none } signals := by
  simp only [prune, isLate, supersedes_become]
  simp only [become, tell_eq]
  rfl

theorem prune_receive (s : Session) (reply : Reply) :
    (s.receive reply).prune = (s.prune.receive reply).prune := by
  cases he : s.editor with
  | none => rw [receive_none he, receive_none (prune_editor_none he), prune_prune]
  | some e =>
      rw [receive_some he, receive_some (prune_editor he), e.receive_with_inFlight none reply,
        prune_become, prune_become, prune_prune]

/-- A reply under an id that is superseded is not looked at. -/
theorem prune_receive_superseded (hs : s.Tracked) (hid : s.supersedes reply.id) :
    (s.receive reply).prune = s.prune := by
  cases he : s.editor with
  | none => rw [receive_none he]
  | some e =>
      rw [receive_stale he (hs.not_accepts he hid)]
      simp [prune, isLate, supersedes, he]

/-- Some of the replies that wait, received one after the other. -/
theorem repeat_receiveNext {front back : List Reply} (h : s.replies = front ++ back) :
    Nat.repeat receiveNext front.length s = { front.foldl receive s with replies := back } := by
  induction front using List.reverseRecOn generalizing back with
  | nil =>
      simp only [List.nil_append] at h
      rw [← h]
      rfl
  | append_singleton front reply ih =>
      rw [List.append_assoc] at h
      rw [List.length_append, List.foldl_append]
      show (Nat.repeat receiveNext front.length s).receiveNext = _
      rw [ih h]
      exact receive_with_replies (front.foldl receive s) back reply

theorem deliver_eq (s : Session) : s.deliver = { s.replies.foldl receive s with replies := [] } :=
  repeat_receiveNext (List.append_nil s.replies).symm

theorem supersedes_receive (s : Session) (reply : Reply) :
    (s.receive reply).supersedes = s.supersedes := by
  funext id
  rw [supersedes, lastEdit?_receive, supersedes]

/-- Of many replies, only those count that are not superseded. -/
theorem prune_receive_all (replies : List Reply) (hs : s.Tracked) (h : s.prune = t.prune) :
    (replies.foldl receive s).prune =
      ((replies.filter (!s.supersedes ·.id)).foldl receive t).prune := by
  induction replies generalizing s t with
  | nil => exact h
  | cons reply replies ih =>
      cases hid : s.supersedes reply.id with
      | true =>
          have hsame := (prune_receive_superseded hs hid).trans h
          have hrest := ih (hs.receive reply) hsame
          rw [supersedes_receive] at hrest
          simpa [hid] using hrest
      | false =>
          have hsame : (s.receive reply).prune = (t.receive reply).prune := by
            rw [s.prune_receive, t.prune_receive, h]
          have hrest := ih (hs.receive reply) hsame
          rw [supersedes_receive] at hrest
          simpa [hid] using hrest

theorem deliver_ignoresLate (env : Setting) : IgnoresLate deliver where
  tracked s hs := hs.innerMoves (deliver_moves env s)
  prune_eq s hs := by
    have hall := prune_receive_all s.replies hs s.prune_prune.symm
    rw [deliver_eq, deliver_eq]
    exact congrArg (fun t : Session => { t with replies := [] }) hall

theorem supersedes_ask (s : Session) (e : Editor) (id : RequestId) :
    (s.ask env e id).supersedes = s.supersedes := rfl

theorem prune_ask (s : Session) (e : Editor) (id : RequestId) :
    (s.ask env e id).prune = (s.prune.ask env { e with inFlight := none } id).prune := by
  simp only [prune, isLate, supersedes_ask]
  simp only [ask, note]
  simp [Call.make, Editor.sent, supersedes]

theorem fire_ignoresLate : IgnoresLate (fire env) where
  tracked s hs := hs.innerMoves (fire_moves env s)
  prune_eq s _ := by
    cases he : s.editor with
    | none => simp [fire, he, prune_editor_none he, prune_prune]
    | some e =>
        have hdue : Editor.due? { e with inFlight := none } s.prune.clock = e.due? s.clock := rfl
        simp only [fire, he, prune_editor he, hdue]
        cases e.due? s.clock with
        | none => exact s.prune_prune.symm
        | some id => exact s.prune_ask e id

theorem exchange_ignoresLate : IgnoresLate (exchange env) :=
  (deliver_ignoresLate env).comp (collect_ignoresLate.comp expire_ignoresLate)

/-- **Settling** does not look at what is late. -/
theorem settle_ignoresLate : IgnoresLate (settle env) :=
  exchange_ignoresLate.comp (fire_ignoresLate.comp exchange_ignoresLate)

/-! ### Events -/

/-- After a new change of the text, every call and every reply is late. -/
theorem prune_note_changed (text : String) (cursor : Nat) (hcalls : ∀ c ∈ s.calls, c.id ≠ id)
    (hreplies : ∀ reply ∈ s.replies, reply.id ≠ id) :
    (s.note (.changed id text cursor)).prune = (s.prune.note (.changed id text cursor)).prune := by
  have hnone : ∀ {calls : List Call}, (∀ c ∈ calls, c.id ≠ id) →
      calls.filter (fun c => !(c.expired || id != c.id)) = [] := fun h =>
    List.filter_eq_nil_iff.mpr fun c hc => by simp [(h c hc).symm]
  have hnone' : ∀ {replies : List Reply}, (∀ reply ∈ replies, reply.id ≠ id) →
      replies.filter (fun reply => !(id != reply.id)) = [] := fun h =>
    List.filter_eq_nil_iff.mpr fun reply hreply => by simp [(h reply hreply).symm]
  have heditor : s.prune.prune.editor = s.prune.editor := congrArg Session.editor s.prune_prune
  have hsupersedes : ∀ t : Session, (t.note (.changed id text cursor)).supersedes = (id != ·) :=
    fun _ => rfl
  simp only [prune, isLate, hsupersedes]
  simp only [note, Session.mk.injEq, true_and, and_true]
  refine ⟨heditor.symm, ?_, ?_⟩
  · rw [hnone hcalls, hnone fun c hc => hcalls c (List.mem_filter.mp hc).1]
  · rw [hnone' hreplies, hnone' fun reply hreply => hreplies reply (List.mem_filter.mp hreply).1]

theorem prune_noteEvent (hflight : SingleFlight s e) {event : Event} {e' : Editor}
    {signals : List Signal} (h : e.handle env.timing s.clock event = .ok (e', signals)) :
    (s.noteEvent event e').prune = (s.prune.noteEvent event e').prune := by
  cases event with
  | textChanged text cursor =>
      have hissued : e'.draft.issued = e.draft.issued + 1 := by
        obtain ⟨-, ⟨-, rfl⟩ | ⟨-, rfl⟩⟩ := Editor.changeText_cases h <;> rfl
      refine prune_note_changed text cursor (fun c hc => ?_) fun reply hreply => ?_
      · rw [hissued]
        exact Nat.ne_of_lt (Nat.lt_succ_of_le (hflight.calls_le c hc))
      · rw [hissued]
        exact Nat.ne_of_lt (Nat.lt_succ_of_le (hflight.replies_le reply hreply))
  | nameChanged name =>
      exact congrArg (fun t : Session => t.note (.renamed name)) s.prune_prune.symm
  | execute => exact s.prune_prune.symm

/-- **Events** do not look at what is late. -/
theorem prune_handle (hflight : SingleFlight s e) (event : Event) :
    (s.handle env e event).prune =
      (s.prune.handle env { e with inFlight := none } event).prune := by
  have hpruned := e.handle_with_inFlight none env.timing s.clock event
  cases h : e.handle env.timing s.clock event with
  | error fault =>
      rw [h] at hpruned
      have hsame : { s with editor := none }.prune = { s.prune with editor := none }.prune :=
        congrArg (fun t : Session => { t with editor := none }) s.prune_prune.symm
      simpa only [handle, h, prune_clock, hpruned, Except.map] using hsame
  | ok result =>
      obtain ⟨e', signals⟩ := result
      rw [h] at hpruned
      have hnoted : s.prune.noteEvent event { e' with inFlight := none } = s.prune.noteEvent event e' := by
        cases event <;> rfl
      have hsame : ((s.noteEvent event e').become e' signals).prune =
          ((s.prune.noteEvent event e').become { e' with inFlight := none } signals).prune := by
        rw [prune_become, prune_become, prune_noteEvent hflight h]
      simpa only [handle, h, prune_clock, hpruned, Except.map, hnoted] using hsame

end
end Session
end FilterEditor
