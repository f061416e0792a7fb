import FilterEditor.Proofs.Bursts
import FilterEditor.Proofs.Mirroring
import FilterEditor.Proofs.Progress

/-!
# Proofs — Resolutions

How the signals of a session follow each other (`stream_shape`).

What came of a request is told in four signals that nothing comes between: the diagnostic, the
indicator, the gating and the suggestions (`Diagnostic.resolution`).

* `Stream`: these four are the only place for a diagnostic, for suggestions, and for an indicator of
  success or of an error (`Signal.resolves`), and before them the surface was told that an answer is
  awaited.  `Stream.within` finds the four around any signal of these kinds.
* `Journal.ToldOnce`: once the surface was told anything but that an answer is awaited, it is told
  of no other indicator until the text is changed.
* `Arises.told` proves both of every session that arises.
* `innerMoves_told`: what happens by itself while time goes by tells nothing, or it ends the wait
  for one answer, after which the session is at rest.
-/

namespace FilterEditor

/-! ### What is told of an answer -/

/-- The indicator of a diagnostic, which has the message of an error for a tooltip. -/
def Diagnostic.feedback (d : Diagnostic) : Feedback :=
  if d.failed then ⟨.error, some d.message⟩ else ⟨.success, none⟩

/-- All that the surface is told of an answer. -/
def Diagnostic.resolution (d : Diagnostic) (save : Bool) (suggestions : Suggestions) :
    List Signal :=
  [.validated d, .feedback d.feedback, .gating ⟨d.status == .ok, save⟩, .suggestions suggestions]

theorem Draft.status_answered {d : Draft} (hne : d.text ≠ "") (diagnostic : Diagnostic) :
    (d.answered diagnostic).status =
      [.feedback diagnostic.feedback,
        .gating ⟨diagnostic.status == .ok, (d.answered diagnostic).gating.save⟩] := by
  have hempty : d.text.isEmpty = false := by simpa [String.isEmpty_iff] using hne
  cases hstatus : diagnostic.status <;>
    simp [Draft.status, Draft.feedback, Draft.gating, Draft.answered, Diagnostic.feedback,
      Diagnostic.errorMessage, Diagnostic.failed, Feedback.of, hstatus, hempty]

/-- What the surface is told when a request ends: what came of it, or that nobody answers it. -/
def Ending (told : List Signal) : Prop :=
  (∃ (d : Diagnostic) (save : Bool) (suggestions : Suggestions),
    told = d.resolution save suggestions) ∨
  told = [.feedback ⟨.none, none⟩, .gating ⟨false, false⟩]

/-- A reply says nothing and leaves the draft alone, or it ends the wait for an answer. -/
theorem Editor.receive_ends {e : Editor} (hsound : e.draft.Sound) (reply : Reply) :
    ((e.receive reply).2 = [] ∧ (e.receive reply).1.draft = e.draft) ∨
    (e.draft.validity = .validating ∧ (e.receive reply).1.draft.validity ≠ .validating ∧
      Ending (e.receive reply).2) := by
  have hvalidating (haccepts : e.draft.accepts reply.id) : e.draft.applied < e.draft.issued := by
    obtain ⟨hid, hopen⟩ := Draft.accepts_iff.mp haccepts
    exact hid ▸ hopen
  rcases e.receive_cases reply with ⟨-, heq⟩ | ⟨haccepts, evaluation, -, heq⟩ |
      ⟨haccepts, -, heq⟩ <;> rw [heq]
  · exact .inl ⟨rfl, rfl⟩
  · have hopen := hvalidating haccepts
    refine .inr ⟨hsound.validating_iff.mpr hopen, ?_, .inl ⟨evaluation.diagnostic,
      (e.draft.answered evaluation.diagnostic).gating.save, evaluation.suggestions, ?_⟩⟩
    · simp only [Draft.answered]
      split <;> simp
    · rw [Draft.status_answered (hsound.text_ne_of_lt hopen)]
      rfl
  · refine .inr ⟨hsound.validating_iff.mpr (hvalidating haccepts), ?_, .inr rfl⟩
    simp [Draft.unanswered]

/-! ### Streams -/

/-- The signal tells part of what came of a request. -/
def Signal.resolves : Signal → Bool
  | .validated _ | .suggestions _ => true
  | .feedback shown => shown.icon == .success || shown.icon == .error
  | _ => false

/-- The surface was told last that an answer is awaited. -/
def Awaited (past : List Signal) : Prop :=
  Signal.last? Signal.feedback? past = some ⟨.inProgress, none⟩

/-- What came of a request is told at once and as a whole, while its answer is awaited. -/
inductive Stream : List Signal → Prop where
  | nil : Stream []
  | aside {past : List Signal} {signal : Signal} (h : Stream past)
      (hsignal : signal.resolves = false) : Stream (past ++ [signal])
  | resolution {past : List Signal} (h : Stream past) (hawaited : Awaited past) (d : Diagnostic)
      (save : Bool) (suggestions : Suggestions) : Stream (past ++ d.resolution save suggestions)

/-- The signal stands within what came of a request, which was awaited. -/
structure Within (front : List Signal) (signal : Signal) (back : List Signal) (d : Diagnostic)
    (save : Bool) (suggestions : Suggestions) (before after : List Signal) : Prop where
  awaited : Awaited before
  split : ∃ inner rest, front = before ++ inner ∧ back = rest ++ after ∧
    inner ++ signal :: rest = d.resolution save suggestions

/-- It stands there whatever is told later. -/
theorem Within.later {front back before after : List Signal} {signal : Signal} {d : Diagnostic}
    {save : Bool} {suggestions : Suggestions}
    (h : Within front signal back d save suggestions before after) (more : List Signal) :
    Within front signal (back ++ more) d save suggestions before (after ++ more) := by
  obtain ⟨hawaited, inner, rest, hfront, rfl, hwhole⟩ := h
  exact ⟨hawaited, inner, rest, hfront, List.append_assoc .., hwhole⟩

namespace Stream
variable {past more front back : List Signal} {signal : Signal}

theorem append (h : Stream past) (hmore : ∀ signal ∈ more, signal.resolves = false) :
    Stream (past ++ more) := by
  induction more generalizing past with
  | nil => rwa [List.append_nil]
  | cons signal more ih =>
      obtain ⟨hsignal, hmore⟩ := List.forall_mem_cons.mp hmore
      rw [← List.singleton_append, ← List.append_assoc]
      exact ih (h.aside hsignal) hmore

/-- A place in a list that was appended to is one in what stood there, or one in what was added. -/
theorem place_append (hplace : past ++ more = front ++ signal :: back) :
    (∃ mid, past = front ++ signal :: mid ∧ back = mid ++ more) ∨
      ∃ mid, front = past ++ mid ∧ more = mid ++ signal :: back := by
  rcases List.append_eq_append_iff.mp hplace with h | ⟨mid, hpast, hmore⟩
  · exact .inr h
  · cases mid with
    | nil => exact .inr ⟨[], by rw [hpast, List.append_nil, List.append_nil], hmore.symm⟩
    | cons first mid =>
        obtain ⟨rfl, rfl⟩ := List.cons.inj hmore
        exact .inl ⟨mid, hpast, rfl⟩

/-- Whatever tells of an outcome stands within the four signals that tell it. -/
theorem within (h : Stream past) (hplace : past = front ++ signal :: back)
    (hresolves : signal.resolves) :
    ∃ d save suggestions before after,
      Within front signal back d save suggestions before after := by
  induction h generalizing front back with
  | nil => exact absurd hplace.symm (List.append_ne_nil_of_right_ne_nil _ (List.cons_ne_nil _ _))
  | aside _ hsignal ih =>
      rcases place_append hplace with ⟨mid, hpast, rfl⟩ | ⟨mid, -, hlast⟩
      · obtain ⟨d, save, suggestions, before, after, hwithin⟩ := ih hpast
        exact ⟨d, save, suggestions, before, _, hwithin.later _⟩
      · have hmem : signal ∈ mid ++ signal :: back := List.mem_append_cons_self
        rw [← hlast, List.mem_singleton] at hmem
        rw [hmem, hsignal] at hresolves
        cases hresolves
  | @resolution past _ hawaited d save suggestions ih =>
      rcases place_append hplace with ⟨mid, hpast, rfl⟩ | ⟨mid, hfront, hwhole⟩
      · obtain ⟨d', save', suggestions', before, after, hwithin⟩ := ih hpast
        exact ⟨d', save', suggestions', before, _, hwithin.later _⟩
      · exact ⟨d, save, suggestions, past, [], hawaited, mid, back, hfront,
          (List.append_nil back).symm, hwhole.symm⟩

end Stream

/-- The four places within what came of a request. -/
theorem resolution_places {d : Diagnostic} {save : Bool} {suggestions : Suggestions}
    {inner rest : List Signal} {signal : Signal}
    (h : inner ++ signal :: rest = d.resolution save suggestions) :
    (inner = [] ∧ signal = .validated d ∧
      rest = [.feedback d.feedback, .gating ⟨d.status == .ok, save⟩, .suggestions suggestions]) ∨
    (inner = [.validated d] ∧ signal = .feedback d.feedback ∧
      rest = [.gating ⟨d.status == .ok, save⟩, .suggestions suggestions]) ∨
    (inner = [.validated d, .feedback d.feedback] ∧ signal = .gating ⟨d.status == .ok, save⟩ ∧
      rest = [.suggestions suggestions]) ∨
    (inner = [.validated d, .feedback d.feedback, .gating ⟨d.status == .ok, save⟩] ∧
      signal = .suggestions suggestions ∧ rest = []) := by
  rw [Diagnostic.resolution] at h
  match inner, h with
  | [], h => cases h; exact .inl ⟨rfl, rfl, rfl⟩
  | [_], h => cases h; exact .inr (.inl ⟨rfl, rfl, rfl⟩)
  | [_, _], h => cases h; exact .inr (.inr (.inl ⟨rfl, rfl, rfl⟩))
  | [_, _, _], h => cases h; exact .inr (.inr (.inr ⟨rfl, rfl, rfl⟩))
  | _ :: _ :: _ :: _ :: inner, h =>
      simp only [List.cons_append, List.cons.injEq] at h
      exact absurd h.2.2.2.2 (List.append_ne_nil_of_right_ne_nil _ (List.cons_ne_nil _ _))

namespace Within
variable {front back before after : List Signal} {d : Diagnostic} {save : Bool}
  {suggestions : Suggestions}

theorem validated {told : Diagnostic}
    (h : Within front (.validated told) back d save suggestions before after) :
    front = before ∧ .validated told :: back = told.resolution save suggestions ++ after := by
  obtain ⟨-, inner, rest, rfl, rfl, heq⟩ := h
  rcases resolution_places heq with ⟨rfl, hsignal, rfl⟩ | ⟨-, hsignal, -⟩ | ⟨-, hsignal, -⟩ |
      ⟨-, hsignal, -⟩ <;> cases hsignal
  exact ⟨List.append_nil before, rfl⟩

theorem feedback {shown : Feedback}
    (h : Within front (.feedback shown) back d save suggestions before after) :
    front = before ++ [.validated d] ∧ shown = d.feedback ∧
      back = [.gating ⟨d.status == .ok, save⟩, .suggestions suggestions] ++ after := by
  obtain ⟨-, inner, rest, rfl, rfl, heq⟩ := h
  rcases resolution_places heq with ⟨-, hsignal, -⟩ | ⟨rfl, hsignal, rfl⟩ | ⟨-, hsignal, -⟩ |
      ⟨-, hsignal, -⟩ <;> cases hsignal
  exact ⟨rfl, rfl, rfl⟩

theorem suggested {told : Suggestions}
    (h : Within front (.suggestions told) back d save suggestions before after) :
    front ++ [.suggestions told] = before ++ d.resolution save told := by
  obtain ⟨-, inner, rest, rfl, rfl, heq⟩ := h
  rcases resolution_places heq with ⟨-, hsignal, -⟩ | ⟨-, hsignal, -⟩ | ⟨-, hsignal, -⟩ |
      ⟨rfl, hsignal, rfl⟩ <;> cases hsignal
  exact List.append_assoc ..

end Within

/-! ### Told once -/

/-- The indicator that the entry notes the surface was told of, if it notes one. -/
def Entry.feedback? (entry : Entry) : Option Feedback :=
  match entry.happening with
  | .told signal => signal.feedback?
  | _ => none

namespace Journal
variable {front past journal : List Entry}

/-- Since the last change of the text, the surface was told of no indicator but the one of an answer
that is awaited. -/
def Undecided (past : List Entry) : Prop :=
  ∀ entry ∈ sinceEdit past, ∀ shown, entry.feedback? = some shown → shown.icon = .inProgress

/-- The surface is told of an indicator only while the last change is undecided. -/
def ToldOnce (journal : List Entry) : Prop :=
  ∀ entry past, (entry :: past) <:+ journal → entry.feedback?.isSome → Undecided past

/-- With a change of the text, everything is undecided again. -/
theorem Undecided.edited {entry : Entry} (h : entry.edit?.isSome) (past : List Entry) :
    Undecided (entry :: past) := by
  intro other hmem
  rw [sinceEdit, List.takeWhile_cons_of_neg (by simp [Option.isSome_iff_ne_none.mp h])] at hmem
  cases hmem

theorem Undecided.cons (h : Undecided past) {entry : Entry}
    (hentry : ∀ shown, entry.feedback? = some shown → shown.icon = .inProgress) :
    Undecided (entry :: past) := by
  cases hedit : entry.edit? with
  | some edit => exact .edited (by simp [hedit]) past
  | none =>
      intro other hmem shown hshown
      rw [← List.singleton_append, sinceEdit_append (List.forall_mem_singleton.mpr hedit)] at hmem
      rcases List.mem_cons.mp hmem with rfl | hmem
      · exact hentry shown hshown
      · exact h other hmem shown hshown

theorem ToldOnce.nil : ToldOnce [] :=
  fun _ _ hsuffix => nomatch List.suffix_nil.mp hsuffix

theorem ToldOnce.cons (h : ToldOnce past) {entry : Entry}
    (hentry : entry.feedback?.isSome → Undecided past) : ToldOnce (entry :: past) := by
  intro entry' past' hsuffix hshows
  rcases List.suffix_cons_iff.mp hsuffix with heq | hsuffix
  · cases heq
    exact hentry hshows
  · exact h entry' past' hsuffix hshows

/-- Between an indicator of anything but an answer that is awaited and the next one told, the text
was changed. -/
theorem ToldOnce.edited_between {later mid earlier : List Entry} {entry entry' : Entry}
    (h : ToldOnce (later ++ entry' :: (mid ++ entry :: earlier)))
    (hentry' : entry'.feedback?.isSome)
    {shown : Feedback} (hentry : entry.feedback? = some shown) (hshown : shown.icon ≠ .inProgress) :
    edits mid ≠ [] := by
  intro hnone
  have hundecided := h entry' (mid ++ entry :: earlier) (List.suffix_append ..) hentry'
  have hedit : entry.edit? = none := by
    obtain ⟨time, happening⟩ := entry
    cases happening <;> first | rfl | cases hentry
  refine hshown (hundecided entry ?_ shown hentry)
  rw [sinceEdit_append (List.filterMap_eq_nil_iff.mp hnone), ← List.singleton_append,
    sinceEdit_append (List.forall_mem_singleton.mpr hedit)]
  exact List.mem_append_right _ (List.mem_cons_self ..)

end Journal

namespace Session
open Relation Journal

section
variable {env : Setting} {saved : Option SavedFilter} {maySave : Bool} {s s' : Session} {e : Editor}

/-! ### What a session told -/

/-- What a session told so far has its shape, and while an answer is awaited, nothing was decided
yet. -/
structure Told (s : Session) : Prop where
  stream : Stream s.signals
  once : ToldOnce s.journal
  undecided : ∀ e, s.editor = some e → e.draft.validity = .validating → Undecided s.journal

theorem toldOnce_tell (h : ToldOnce s.journal) (e : Editor) {signal : Signal}
    (hsignal : signal.feedback?.isSome → Undecided s.journal) :
    ToldOnce (s.become e [signal]).journal := by
  rw [become_journal]
  split
  · exact h.cons hsignal
  · exact h

theorem undecided_tell (h : Undecided s.journal) (e : Editor) {signal : Signal}
    (hsignal : ∀ shown, signal.feedback? = some shown → shown.icon = .inProgress) :
    Undecided (s.become e [signal]).journal := by
  rw [become_journal]
  split
  · exact h.cons hsignal
  · exact h

/-- An indicator and what is open to the user are told while the last change is undecided. -/
theorem toldOnce_tell_status (h : ToldOnce s.journal) (hundecided : Undecided s.journal)
    (e : Editor) (shown : Feedback) (gating : Gating) :
    ToldOnce (s.become e [.feedback shown, .gating gating]).journal := by
  rw [← List.singleton_append, become_append]
  exact toldOnce_tell (toldOnce_tell h e fun _ => hundecided) e nofun

theorem stream_become (h : Stream s.signals) (e : Editor) {signals : List Signal}
    (hsignals : s.listening → Stream (s.signals ++ signals)) :
    Stream (s.become e signals).signals := by
  cases hlistening : s.listening with
  | true =>
      rw [signals_become hlistening]
      exact hsignals hlistening
  | false =>
      have hsame : (s.become e signals).signals = s.signals ++ [] := by
        rw [become, signals_tell]
        simp only [hlistening, Bool.false_eq_true, if_false]
        rfl
      rwa [hsame, List.append_nil]

namespace Told

/-- A note of what the user did, or of a request, tells nothing. -/
theorem note (h : Told s) (happening : Happening) (hsilent : ∀ signal, happening ≠ .told signal) :
    Told (s.note happening) := by
  have hnone : Entry.feedback? ⟨s.clock, happening⟩ = none := by
    cases happening with
    | told signal => exact absurd rfl (hsilent signal)
    | changed | renamed | asked => rfl
  refine ⟨?_, h.once.cons (by simp [hnone]), fun e he hvalidating => ?_⟩
  · rw [signals_note s happening hsilent]
    exact h.stream
  · exact (h.undecided e he hvalidating).cons (by simp [hnone])

/-- Something else is told, which has no part in any of it. -/
theorem aside (h : Told s) (he : s.editor = some e) {e' : Editor}
    (hvalidity : e'.draft.validity = e.draft.validity) {signal : Signal}
    (hresolves : signal.resolves = false) (hnone : signal.feedback? = none) :
    Told (s.become e' [signal]) where
  stream := stream_become h.stream e' fun _ => h.stream.aside hresolves
  once := toldOnce_tell h.once e' (by simp [hnone])
  undecided e'' he'' hvalidating := by
    rw [become_editor] at he''
    obtain rfl := Option.some.inj he''
    exact undecided_tell (h.undecided e he (hvalidity ▸ hvalidating)) e' (by simp [hnone])

/-- The status of a draft is told on which the oracle has said nothing. -/
theorem status (h : Told s) (hundecided : Undecided s.journal) (e' : Editor) {shown : Feedback}
    (gating : Gating) (hshown : shown.icon = .none ∨ shown.icon = .inProgress)
    (hprogress : e'.draft.validity = .validating → shown.icon = .inProgress) :
    Told (s.become e' [.feedback shown, .gating gating]) where
  stream := stream_become h.stream e' fun _ => h.stream.append <|
    List.forall_mem_cons.mpr ⟨by rcases hshown with hicon | hicon <;> simp [Signal.resolves, hicon],
      List.forall_mem_singleton.mpr rfl⟩
  once := toldOnce_tell_status h.once hundecided e' shown gating
  undecided e'' he'' hvalidating := by
    rw [become_editor] at he''
    obtain rfl := Option.some.inj he''
    rw [← List.singleton_append, become_append]
    refine undecided_tell (undecided_tell hundecided e' fun told htold => ?_) e' nofun
    obtain rfl := Option.some.inj htold
    exact hprogress hvalidating

/-- What comes of a request is told while its answer is awaited. -/
theorem ending (h : Told s) (hundecided : Undecided s.journal)
    (hawaited : s.listening → Awaited s.signals) {e' : Editor} {told : List Signal}
    (hdone : e'.draft.validity ≠ .validating) (hending : Ending told) :
    Told (s.become e' told) := by
  rcases hending with ⟨d, save, suggestions, rfl⟩ | rfl
  · refine ⟨?_, ?_, fun e'' he'' hvalidating => ?_⟩
    · exact stream_become h.stream e' fun hlistening =>
        h.stream.resolution (hawaited hlistening) d save suggestions
    · have hsplit : d.resolution save suggestions = [.validated d] ++
          ([.feedback d.feedback, .gating ⟨d.status == .ok, save⟩] ++
            [.suggestions suggestions]) := rfl
      rw [hsplit, become_append, become_append]
      have hvalidated : ToldOnce (s.become e' [.validated d]).journal :=
        toldOnce_tell h.once e' nofun
      exact toldOnce_tell (toldOnce_tell_status hvalidated (undecided_tell hundecided e' nofun)
        e' _ _) e' nofun
    · rw [become_editor] at he''
      obtain rfl := Option.some.inj he''
      exact absurd hvalidating hdone
  · exact h.status hundecided e' _ (.inl rfl) fun hvalidating => absurd hvalidating hdone

theorem receive (h : Told s) (hmirrored : s.Mirrored)
    (hsound : ∀ e, s.editor = some e → e.draft.Sound) (reply : Reply) : Told (s.receive reply) := by
  cases he : s.editor with
  | none => rwa [receive_none he]
  | some e =>
      rw [receive_some he]
      rcases Editor.receive_ends (hsound e he) reply with ⟨hnil, hdraft⟩ |
          ⟨hvalidating, hdone, hending⟩
      · rw [hnil, become, tell_eq]
        refine ⟨by simpa [signals] using h.stream, by simpa using h.once,
          fun e' he' hvalidating => ?_⟩
        obtain rfl := Option.some.inj he'
        rw [hdraft] at hvalidating
        simpa using h.undecided e he hvalidating
      · refine h.ending (h.undecided e he hvalidating) (fun hlistening => ?_) hdone hending
        rw [Awaited, (hmirrored hlistening e he).feedback, Draft.feedback, hvalidating]
        rfl

theorem event (h : Told s) (he : s.editor = some e) (event : Event) :
    Told (s.handle env e event) := by
  rcases s.handle_cases env e event with hs | ⟨text, cursor, -, -, hs⟩ | ⟨cursor, -, hs⟩ |
      ⟨name, -, hs⟩ | ⟨signal, -, hs, hsignal⟩ <;> rw [hs]
  · exact ⟨h.stream, h.once, fun _ he' => nomatch he'⟩
  · exact (h.note (.changed (e.draft.issued + 1) text cursor) nofun).status (.edited rfl _) _ _
      (.inr rfl) fun _ => rfl
  · exact (h.note (.changed (e.draft.issued + 1) "" cursor) nofun).status (.edited rfl _) _ _
      (.inl rfl) nofun
  · refine (h.note (.renamed name) nofun).aside he ?_ ?_ ?_ <;> rfl
  · rcases hsignal with ⟨rfl, -⟩ | ⟨rfl, -⟩ <;> exact h.aside he rfl rfl rfl

theorem start : Told (Session.start env (.opening saved maySave)) := by
  have hempty : Told { editor := none } := ⟨.nil, .nil, fun _ he => nomatch he⟩
  have hundecided : Undecided [] := fun _ hmem => nomatch hmem
  rcases start_cases env saved maySave with ⟨-, hs⟩ | ⟨filter, -, -, hs⟩ <;> rw [hs]
  · have hunknown : (Draft.opening saved maySave).validity = .unknown := by cases saved <;> rfl
    have hicon : (Draft.opening saved maySave).feedback.icon = .none := by cases saved <;> rfl
    have h := hempty.status hundecided { draft := .opening saved maySave }
      (Draft.opening saved maySave).gating (.inl hicon) (by simp [hunknown])
    exact h
  · have hasked := (hempty.note (.changed 1 filter.query filter.query.length) nofun).note
      (.asked 1 filter.query filter.query.length) nofun
    have hnothing : Undecided [⟨0, .asked 1 filter.query filter.query.length⟩,
        ⟨0, .changed 1 filter.query filter.query.length⟩] := (Undecided.edited rfl []).cons nofun
    have hicon : (openedDraft filter maySave).feedback.icon = .inProgress := rfl
    have h := hasked.status hnothing { draft := openedDraft filter maySave, inFlight := some 1 }
      (openedDraft filter maySave).gating (.inr hicon) fun _ => hicon
    exact ⟨h.stream, h.once, h.undecided⟩

end Told

/-- In every session that arises, what was told has its shape. -/
theorem Arises.told (hs : Arises env saved maySave s) : Told s := by
  induction hs with
  | refl => exact .start
  | @tail t _ hs move ih =>
      cases move with
      | inner move =>
          cases move with
          | pass | expire | collect => exact ⟨ih.stream, ih.once, ih.undecided⟩
          | @receive front back reply =>
              have hrest : Told { t with replies := front ++ back } :=
                ⟨ih.stream, ih.once, ih.undecided⟩
              have hmirrored : t.Mirrored := Arises.mirrored hs
              exact hrest.receive hmirrored (fun e he => (Arises.singleFlight hs e he).sound) reply
          | @send e id he =>
              have hsent : Told { t with
                  editor := some (e.sent id)
                  calls := t.calls ++ [Call.make env t.clock e id] } := by
                refine ⟨ih.stream, ih.once, fun e' he' hvalidating => ?_⟩
                obtain rfl := Option.some.inj he'
                exact ih.undecided e he hvalidating
              exact hsent.note (.asked id e.draft.text e.draft.cursor) nofun
      | event he event => exact ih.event he event
      | release | closeSignals => exact ⟨ih.stream, ih.once, ih.undecided⟩
      | kill => exact ⟨ih.stream, ih.once, fun _ he => nomatch he⟩

/-! ### What time tells -/

/-- A reply tells nothing, or it ends the wait for an answer. -/
theorem receive_told (hsound : ∀ e, s.editor = some e → e.draft.Sound) (reply : Reply) :
    (s.receive reply).signals = s.signals ∨
      ∃ told e', Ending told ∧ (s.receive reply).signals = s.signals ++ told ∧
        (s.receive reply).editor = some e' ∧ e'.draft.validity ≠ .validating := by
  cases he : s.editor with
  | none =>
      rw [receive_none he]
      exact .inl rfl
  | some e =>
      rw [receive_some he]
      cases hlistening : s.listening with
      | false => exact .inl (by simp [signals, become_journal, hlistening])
      | true =>
          rw [signals_become hlistening, become_editor]
          rcases Editor.receive_ends (hsound e he) reply with ⟨hnil, -⟩ | ⟨-, hdone, hending⟩
          · rw [hnil, List.append_nil]
            exact .inl rfl
          · exact .inr ⟨_, _, hending, rfl, rfl, hdone⟩

/-- What happens by itself tells nothing, or it ends the wait for an answer and leaves the session
at rest. -/
theorem innerMove_told (hs : Arises env saved maySave s) (move : InnerMove env s s') :
    s'.signals = s.signals ∨ ∃ told, Ending told ∧ s'.signals = s.signals ++ told ∧ s'.AtRest := by
  have hnext : Arises env saved maySave s' := hs.tail (.inner move)
  cases move with
  | pass | expire | collect => exact .inl rfl
  | @send e id => exact .inl (signals_note _ (.asked id e.draft.text e.draft.cursor) nofun)
  | @receive front back reply =>
      have hsound : ∀ e, s.editor = some e → e.draft.Sound :=
        fun e he => (Arises.singleFlight hs e he).sound
      rcases receive_told (s := { s with replies := front ++ back }) hsound reply with hsame |
          ⟨told, e', hending, htold, he', hdone⟩
      · exact .inl hsame
      · exact .inr ⟨told, hending, htold, Arises.atRest hnext he' hdone⟩

theorem Unmoved.signals_eq (h : Unmoved s s') : s'.signals = s.signals := by
  rw [signals, signals, h.journal]

/-- **One ending at a time.**  Whatever happens by itself tells nothing, or it ends the wait for one
answer. -/
theorem innerMoves_told (hs : Arises env saved maySave s)
    (moves : ReflTransGen (InnerMove env) s s') :
    s'.signals = s.signals ∨ ∃ told, Ending told ∧ s'.signals = s.signals ++ told ∧ s'.AtRest := by
  induction moves with
  | refl => exact .inl rfl
  | tail moves move ih =>
      rcases ih with hsame | ⟨told, hending, htold, hrest⟩
      · have hlast := innerMove_told (hs.trans (moves_of_inner moves)) move
        rwa [hsame] at hlast
      -- the wait is over, and a session at rest says nothing
      · have hunmoved := innerMove_unmoved hrest move
        exact .inr ⟨told, hending, hunmoved.signals_eq.trans htold, hunmoved.atRest hrest⟩

/-! ### Reports -/

/-- What was told since an earlier moment comes after what was told before. -/
theorem signals_eq_append (hsuffix : s.journal <:+ s'.journal) :
    s'.signals = s.signals ++ s'.signalsSince s.journal.length := by
  obtain ⟨front, hjournal⟩ := hsuffix
  rw [signalsSince, ← hjournal, List.length_append, Nat.add_sub_cancel, List.take_left, signals,
    signals, signals, ← hjournal, List.reverse_append, List.filterMap_append]

/-- The report of a step stands at its place in the run. -/
theorem runFrom_report (s : Session) (front : List Step) (st : Step) (back : List Step) :
    (runFrom env s (front ++ st :: back)).reports[front.length]? =
      some ⟨((front.foldl (step env) s).take env st).2,
        ((front.foldl (step env) s).step env st).signalsSince
          (front.foldl (step env) s).journal.length⟩ := by
  induction front generalizing s with
  | nil => rfl
  | cons first front ih => exact ih (s.step env first)

theorem transcript_report (front : List Step) (st : Step) (back : List Step) :
    (transcript env (.opening saved maySave) (front ++ st :: back)).reports[front.length + 1]? =
      some ⟨((after env saved maySave front).take env st).2,
        (after env saved maySave (front ++ [st])).signalsSince
          (after env saved maySave front).journal.length⟩ := by
  have hfinal : after env saved maySave front =
      front.foldl (step env) (opened env (.opening saved maySave)) := runFrom_final _ front
  rw [after_concat, hfinal]
  exact runFrom_report (opened env (.opening saved maySave)) front st back

/-- A stretch of time tells nothing, or it ends the wait for one answer. -/
theorem report_advance (front : List Step) (ms : Nat) (back : List Step) :
    ∃ told, (transcript env (.opening saved maySave) (front ++ .advance ms :: back)).reports[
        front.length + 1]? = some ⟨none, told⟩ ∧ (told = [] ∨ Ending told) := by
  refine ⟨_, transcript_report front (.advance ms) back, ?_⟩
  have still : (after env saved maySave front).Still := after_still front
  have hsuffix := journal_suffix (@after_moves env saved maySave front [.advance ms])
  have hsplit := signals_eq_append hsuffix
  have htold := innerMoves_told (arises_after front)
    ((advance_moves ms still).1.trans (settle_moves env _))
  have hstep : after env saved maySave (front ++ [.advance ms]) =
      (advance env ms (after env saved maySave front)).settle env :=
    after_concat front (.advance ms)
  rw [← hstep] at htold
  rcases htold with hsame | ⟨told, hending, heq, -⟩
  · rw [hsame] at hsplit
    exact .inl (List.self_eq_append_right.mp hsplit)
  · rw [heq] at hsplit
    exact .inr (List.append_cancel_left hsplit ▸ hending)

/-! ### The theorem -/

/-- **The shape of what is told.**  Take the signals of any session that arises in any run.

A diagnostic is followed at once by its indicator, by the gating, which opens the search just if the
diagnostic is that of an accepted query, and by suggestions.  Suggestions come only so, and so does
an indicator of success or of an error; and the indicator told before these four is that of an
answer that is awaited.  Between an indicator of anything else and the next one told, the text was
changed.

And each step of a run that lets time go by, for however long, reports nothing, or exactly four such
signals, or that nothing is known of the query and nothing is open to the user. -/
theorem stream_shape :
    (∀ s, Arises env saved maySave s →
      (∀ front (d : Diagnostic) back, s.signals = front ++ .validated d :: back → Awaited front ∧
        ∃ save suggestions rest,
          Signal.validated d :: back = d.resolution save suggestions ++ rest) ∧
      (∀ front suggestions back, s.signals = front ++ .suggestions suggestions :: back →
        ∃ before, ∃ d : Diagnostic, ∃ save, Awaited before ∧
          front ++ [Signal.suggestions suggestions] = before ++ d.resolution save suggestions) ∧
      (∀ front shown back, s.signals = front ++ .feedback shown :: back →
        shown.icon = .success ∨ shown.icon = .error →
        ∃ before, ∃ d : Diagnostic, ∃ save suggestions rest, Awaited before ∧
          front = before ++ [.validated d] ∧ shown = d.feedback ∧
          Signal.validated d :: .feedback shown :: back =
            d.resolution save suggestions ++ rest) ∧
      ∀ later mid earlier time time' shown shown',
        s.journal = later ++ ⟨time', .told (.feedback shown')⟩ ::
          (mid ++ ⟨time, .told (.feedback shown)⟩ :: earlier) →
        shown.icon ≠ .inProgress → edits mid ≠ []) ∧
    ∀ front ms back, ∃ told,
      (transcript env (.opening saved maySave) (front ++ .advance ms :: back)).reports[
          front.length + 1]? = some ⟨none, told⟩ ∧
        (told = [] ∨ (∃ d save suggestions, told = Diagnostic.resolution d save suggestions) ∨
          told = [.feedback ⟨.none, none⟩, .gating ⟨false, false⟩]) := by
  refine ⟨fun s hs => ?_, report_advance⟩
  have htold := Arises.told hs
  refine ⟨fun front d back hplace => ?_, fun front suggestions back hplace => ?_,
    fun front shown back hplace hshown => ?_,
    fun later mid earlier time time' shown shown' hjournal hshown => ?_⟩
  · obtain ⟨_, save, suggestions, before, after, hwithin⟩ := htold.stream.within hplace rfl
    obtain ⟨rfl, hblock⟩ := hwithin.validated
    exact ⟨hwithin.awaited, save, suggestions, after, hblock⟩
  · obtain ⟨d, save, _, before, after, hwithin⟩ := htold.stream.within hplace rfl
    exact ⟨before, d, save, hwithin.awaited, hwithin.suggested⟩
  · have hresolves : (Signal.feedback shown).resolves := by
      rcases hshown with hicon | hicon <;> simp [Signal.resolves, hicon]
    obtain ⟨d, save, suggestions, before, after, hwithin⟩ := htold.stream.within hplace hresolves
    obtain ⟨hfront, rfl, rfl⟩ := hwithin.feedback
    exact ⟨before, d, save, suggestions, after, hwithin.awaited, hfront, rfl, rfl⟩
  · have honce := htold.once
    rw [hjournal] at honce
    exact honce.edited_between rfl rfl hshown

end

/-! ### Two queries that are accepted -/

/-- A new filter whose query is changed twice, and accepted each time. -/
def retyped : Session :=
  after (accepting fun _ => false) none true
    [.event (.textChanged "b" 1), .event (.textChanged "c" 1)]

/-- The first diagnostic, suggestions and indicator of success each stand in their place, and the
text was changed before the second indicator of success. -/
theorem stream_shape_retyped :
    (∃ front back, retyped.signals = front ++ .validated .accepted :: back ∧ Awaited front ∧
      ∃ save suggestions rest, Signal.validated .accepted :: back =
        Diagnostic.accepted.resolution save suggestions ++ rest) ∧
    (∃ front back, retyped.signals = front ++ .suggestions { cursor := 1 } :: back ∧
      ∃ before, ∃ d : Diagnostic, ∃ save, Awaited before ∧
        front ++ [.suggestions { cursor := 1 }] = before ++ d.resolution save { cursor := 1 }) ∧
    (∃ front back, retyped.signals = front ++ .feedback ⟨.success, none⟩ :: back ∧
      ∃ before, ∃ d : Diagnostic, ∃ save suggestions rest, Awaited before ∧
        front = before ++ [.validated d] ∧ ⟨.success, none⟩ = d.feedback ∧
        Signal.validated d :: .feedback ⟨.success, none⟩ :: back =
          d.resolution save suggestions ++ rest) ∧
    ∃ later mid earlier, retyped.journal = later ++ ⟨0, .told (.feedback ⟨.success, none⟩)⟩ ::
      (mid ++ ⟨0, .told (.feedback ⟨.success, none⟩)⟩ :: earlier) ∧ edits mid ≠ [] := by
  obtain ⟨hmoments, -⟩ := @stream_shape (accepting fun _ => false) none true
  obtain ⟨hvalidated, hsuggested, hshown, hbetween⟩ := hmoments retyped (arises_after _)
  have hfirst : retyped.signals =
      retyped.signals.take 4 ++ .validated .accepted :: retyped.signals.drop 5 := by
    decide +kernel
  have hsecond : retyped.signals =
      retyped.signals.take 5 ++ .feedback ⟨.success, none⟩ :: retyped.signals.drop 6 := by
    decide +kernel
  have hlast : retyped.signals =
      retyped.signals.take 7 ++ .suggestions { cursor := 1 } :: retyped.signals.drop 8 := by
    decide +kernel
  have hjournal : retyped.journal =
      retyped.journal.take 2 ++ ⟨0, .told (.feedback ⟨.success, none⟩)⟩ ::
        ((retyped.journal.drop 3).take 7 ++ ⟨0, .told (.feedback ⟨.success, none⟩)⟩ ::
          retyped.journal.drop 11) := by
    decide +kernel
  refine ⟨⟨_, _, hfirst, hvalidated _ _ _ hfirst⟩, ⟨_, _, hlast, hsuggested _ _ _ hlast⟩,
    ⟨_, _, hsecond, hshown _ _ _ hsecond (.inl rfl)⟩, _, _, _, hjournal,
    hbetween _ _ _ _ _ _ _ hjournal nofun⟩

end Session
end FilterEditor
