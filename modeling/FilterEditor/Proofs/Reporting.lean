import FilterEditor.Proofs.Extent
import FilterEditor.Proofs.OneLine
import FilterEditor.Proofs.Performances

/-!
# Proofs — Reporting

The report of a replay is faithful, whatever turns its parties take (`report_faithful`).

* `exists_performs_play`: a recording as it is played is one of its performances, in which nobody
  keeps the session waiting.
* `linesOf_text`: a report, split at its line feeds, gives back its lines, for none of them holds a
  line feed of its own.
* `Faithful`: what the report of a performance says of it.  It does so of every performance that is
  sound and done (`Sound.faithful`).
* `no_report_greedy`: a recording that asks for a larger buffer than there is has no report.
-/

namespace FilterEditor
namespace Replay
open Relation Journal Session

/-! ### Playing is one way to perform -/

/-- A performance in which the player has these steps before it, and no event waits. -/
def between (steps : List Replay.Step) (resumes : Nat) (s : Session) : Performance :=
  { session := s, steps, resumes }

/-- The session goes on by itself, between two steps of the player. -/
def GoesOn (env : Setting) (delay : String → Nat) (steps : List Replay.Step) (resumes : Nat)
    (s s' : Session) : Prop :=
  Proceeds env delay (between steps resumes s) (between steps resumes s')

section
variable (env : Setting) (delay : String → Nat) (steps : List Replay.Step) (resumes : Nat)

theorem proceeds_of_goesOn {s s' : Session}
    (h : ReflTransGen (GoesOn env delay steps resumes) s s') :
    ReflTransGen (Proceeds env delay) (between steps resumes s) (between steps resumes s') :=
  ReflTransGen.lift (between steps resumes) (fun _ _ h => h) _ _ h

/-- The oracle is done with one call after the other. -/
theorem ripen_goesOn (s : Session) :
    ReflTransGen (GoesOn env delay steps resumes) s (ripen env delay s) := by
  -- on the calls that are still to be looked at, behind those that were
  suffices h : ∀ back front : List Call,
      ReflTransGen (GoesOn env delay steps resumes) { s with calls := front ++ back }
        { s with calls := front ++ back.map (callAt env delay s.clock) } from h s.calls []
  intro back
  induction back with
  | nil => exact fun front => .refl
  | cons c back ih =>
      intro front
      have rest := ih (front ++ [callAt env delay s.clock c])
      simp only [List.append_assoc, List.singleton_append] at rest
      refine .trans ?_ rest
      unfold callAt
      split
      · next hdone =>
          cases hc : c.held with
          | true => exact .single (.act (.answer rfl hc hdone))
          | false => rw [show { c with held := false } = c by rw [← hc]]
      · exact .refl

theorem exchange_goesOn (s : Session) :
    ReflTransGen (GoesOn env delay steps resumes) s (s.exchange env) :=
  ((expire_each (fun hcalls hc => .act (.expire hcalls hc)) s).trans
    (collect_each (fun hcalls hc => .act (.collect hcalls hc)) _)).trans
      (deliver_each (fun hreplies => .act (.receive rfl rfl hreplies)) _)

theorem fire_goesOn {s : Session} (hreplies : s.replies = []) :
    ReflTransGen (GoesOn env delay steps resumes) s (s.fire env) :=
  fire_each fun he hdue => .act (.ask rfl rfl hreplies he hdue)

/-- Between two steps, the session settles by itself. -/
theorem settle_goesOn (s : Session) :
    ReflTransGen (GoesOn env delay steps resumes) s (settle env delay s) :=
  (((ripen_goesOn env delay steps resumes s).trans (exchange_goesOn ..)).trans
    (fire_goesOn env delay steps resumes (deliver_replies _))).trans (exchange_goesOn ..)

theorem settle_keeps_clock (s : Session) : (settle env delay s).clock = s.clock :=
  settle_clock env (ripen env delay s)

/-- So it does while time goes by. -/
theorem advance_goesOn (ms : Nat) : ∀ s : Session,
    ReflTransGen (GoesOn env delay steps resumes) s (advance env delay ms s) ∧
      (advance env delay ms s).clock = s.clock + ms := by
  -- on the time that is left, which each pause shortens
  induction ms using Nat.strongRecOn with
  | _ ms ih =>
      intro s
      rw [advance]
      split
      · next hms =>
          have hle : pause env delay s ms ≤ ms :=
            Nat.max_le.mpr ⟨hms, (foldl_min_le (· - s.clock) (dueTimes env delay s) ms).1⟩
          have hpos : 0 < pause env delay s ms := Nat.le_max_left ..
          have hpass : GoesOn env delay steps resumes s
              { s with clock := s.clock + pause env delay s ms } := .pass _ _
          have hsettle := settle_goesOn env delay steps resumes
            { s with clock := s.clock + pause env delay s ms }
          obtain ⟨hrest, hclock⟩ := ih (ms - pause env delay s ms) (by omega)
            (settle env delay { s with clock := s.clock + pause env delay s ms })
          refine ⟨.head hpass (hsettle.trans hrest), ?_⟩
          rw [hclock, settle_keeps_clock]
          simp only
          omega
      · next hms => exact ⟨.refl, by omega⟩

/-- A step as it is played. -/
theorem step_proceeds (st : Replay.Step) {resumes : Nat} {s : Session} (hresumes : resumes ≤ s.clock)
    {e : Editor} (he : s.editor = some e) :
    ∃ resumes' ≤ (play env delay s st).clock,
      ReflTransGen (Proceeds env delay) (between (st :: steps) resumes s)
        (between steps resumes' (play env delay s st)) := by
  cases st with
  | event event =>
      have hplay : play env delay s (.event event) = s.handle env e event := by
        simp only [play, he]
      have hsend : Act env delay (between (.event event :: steps) resumes s)
          { between steps resumes s with queue := [event] } :=
        .send rfl hresumes (Nat.le_max_left ..)
      have hhandle : Act env delay { between steps resumes s with queue := [event] }
          (between steps resumes (s.handle env e event)) := .handle rfl he
      rw [hplay]
      exact ⟨resumes, by rwa [(handle_keeps env s e event).2.2.1],
        .head (.act hsend) (.single (.act hhandle))⟩
  | wait ms =>
      have hwait : Proceeds env delay (between (.wait ms :: steps) resumes s)
          (between steps (s.clock + ms) s) := .act (.wait rfl hresumes)
      cases ms with
      | zero => exact ⟨s.clock, Nat.le_refl _, .single hwait⟩
      | succ ms =>
          have hsettle := settle_goesOn env delay steps (s.clock + (ms + 1)) s
          obtain ⟨hadvance, hclock⟩ :=
            advance_goesOn env delay steps (s.clock + (ms + 1)) ms (settle env delay s)
          have hmoves := proceeds_of_goesOn _ _ _ _ (hsettle.trans hadvance)
          refine ⟨s.clock + (ms + 1), ?_, .head hwait (hmoves.tail (.pass _ 1))⟩
          simp only [play, hclock, settle_keeps_clock]
          omega

/-- The steps as they are played. -/
theorem steps_proceed {r : Recording} (hids : openingIds r.saved + r.steps.length < offsetLimit) :
    ∀ {s : Session} {resumes : Nat}, resumes ≤ s.clock → Sound r (between steps resumes s) →
    ∃ resumes' ≤ (steps.foldl (play env delay) s).clock,
      ReflTransGen (Proceeds env delay) (between steps resumes s)
        (between [] resumes' (steps.foldl (play env delay) s)) := by
  induction steps with
  | nil => exact fun hresumes _ => ⟨_, hresumes, .refl⟩
  | cons st steps ih =>
      intro s resumes hresumes hsound
      obtain ⟨ids, ⟨e, he, -⟩, -⟩ := hsound.lives
      obtain ⟨resumes', hresumes', hstep⟩ := step_proceeds env delay steps st hresumes he
      obtain ⟨last, hlast, hrest⟩ := ih hresumes' (hsound.proceeds hids hstep)
      exact ⟨last, hlast, hstep.trans hrest⟩

/-- The reader writes whatever is left to write. -/
theorem writes_proceed {k : Nat} : ∀ {p : Performance},
    p.lines <+: p.session.signals.map Signal.line → p.session.signals.length = p.lines.length + k →
    ReflTransGen (Proceeds env delay) p { p with lines := p.session.signals.map Signal.line } := by
  induction k with
  | zero =>
      intro p hlines hlength
      rw [← hlines.eq_of_length (by rw [List.length_map, hlength, Nat.add_zero])]
  | succ k ih =>
      intro p hlines hlength
      have hunread : p.lines.length < p.session.signals.length := by omega
      have hwrite : Proceeds env delay p _ := .act (.write hunread)
      refine .head hwrite (ih ?_ ?_)
      · exact next_line_prefix hlines hunread
      · simp only [List.length_append, List.length_singleton]
        omega

/-- **Playing a recording** is a way to perform it to its end. -/
theorem exists_performs_play {r : Recording} (o : Options)
    (hids : openingIds r.saved + r.steps.length < offsetLimit) :
    ∃ p, Performs env r o p ∧ p.IsDone ∧ p.session = r.play o env ∧
      p.lines = (r.play o env).signals.map Signal.line := by
  obtain ⟨resumes, hresumes, hsteps⟩ :=
    steps_proceed env (r.delayMs o) r.steps hids (Nat.zero_le _) (Sound.opening r env)
  have hclose : Act env (r.delayMs o) (between [] resumes (r.play o env))
      { between [] resumes (r.play o env) with phase := .closing } := .close rfl rfl hresumes
  have hstop : Act env (r.delayMs o) { between [] resumes (r.play o env) with phase := .closing }
      { between [] resumes (r.play o env) with phase := .ended } := .stop rfl rfl
  have hwrites := writes_proceed env (r.delayMs o)
    (p := { between [] resumes (r.play o env) with phase := .ended })
    List.nil_prefix (Nat.zero_add _).symm
  exact ⟨_, ((hsteps.tail (.act hclose)).tail (.act hstop)).trans hwrites,
    ⟨rfl, List.length_map _⟩, rfl, rfl⟩

end

/-! ### The text of a report -/

theorem lineFeed_not_mem_line (signal : Signal) : '\n' ∉ signal.line.toList := by
  intro hmem
  rw [Signal.line, Json.compact, String.toList_ofList] at hmem
  exact absurd (Json.isPrintable_compactChars signal.toJson '\n' hmem) (by decide)

theorem lineFeed_not_mem_summary (validity : Validity) : '\n' ∉ (summary validity).toList := by
  cases validity <;> decide +kernel

/-- The lines of a text, between its line feeds. -/
def linesOf (text : String) : List String :=
  (text.split '\n').toList.map (·.copy)

/-- The summary is one more line. -/
theorem text_eq_intercalate {lines : List String} (hne : lines ≠ []) (validity : Validity) :
    text lines validity = "\n".intercalate (lines ++ [summary validity]) := by
  unfold text
  induction lines with
  | nil => exact absurd rfl hne
  | cons line lines ih =>
      cases lines with
      | nil => simp
      | cons next lines =>
          have hlast : next :: lines ++ [summary validity] ≠ [] := List.cons_ne_nil _ _
          rw [List.cons_append, String.intercalate_cons_of_ne_nil hlast,
            ← ih (List.cons_ne_nil _ _), String.intercalate_cons_of_ne_nil (List.cons_ne_nil _ _)]
          simp only [String.append_assoc]

/-- **The lines** of a report are got back from its text. -/
theorem linesOf_text {signals : List Signal} (hne : signals ≠ []) (validity : Validity) :
    linesOf (text (signals.map Signal.line) validity) =
      signals.map Signal.line ++ [summary validity] := by
  have hlines : ∀ line ∈ signals.map Signal.line ++ [summary validity], '\n' ∉ line.toList := by
    refine List.forall_mem_append.mpr
      ⟨?_, List.forall_mem_singleton.mpr (lineFeed_not_mem_summary validity)⟩
    exact List.forall_mem_map.mpr fun signal _ => lineFeed_not_mem_line signal
  have hsplit := String.toList_split_intercalate hlines
  rw [if_neg (List.append_ne_nil_of_right_ne_nil _ (List.cons_ne_nil _ _))] at hsplit
  rw [text_eq_intercalate (mt List.map_eq_nil_iff.mp hne)]
  exact hsplit

theorem word_in_summary (validity : Validity) :
    validity.word.toList <:+: (summary validity).toList := by
  cases validity <;> decide +kernel

theorem summary_injective {v w : Validity} (h : summary v = summary w) : v = w := by
  cases v <;> cases w <;> first | rfl |
    simp [summary, Validity.word, Output.check, Output.cross] at h

theorem stdout_report (lines : List String) (validity : Validity) :
    (report lines validity).stdout = some (text lines validity) := by
  unfold report
  split <;> rfl

theorem exitCode_report (lines : List String) (validity : Validity) :
    (report lines validity).exitCode ≠ 0 ↔ validity = .invalid := by
  unfold report
  split
  · next h => exact ⟨fun _ => h, fun _ => Nat.one_ne_zero⟩
  · next h => exact ⟨fun hcode => absurd rfl hcode, fun hinvalid => absurd hinvalid h⟩

theorem icon_feedback (d : Draft) : d.feedback.icon = .error ↔ d.validity = .invalid := by
  cases h : d.validity <;> simp [Draft.feedback, Feedback.of, h]

/-! ### The theorem -/

/-- What the report of a performance says of it, whose session ends with this editor. -/
structure Faithful (r : Recording) (p : Performance) (e : Editor) (printed : String) : Prop where
  editor : p.session.editor = some e
  stdout : p.output.stdout = some printed
  /-- There is one line for each signal of the session, in order, and a summary. -/
  lines : linesOf printed = p.session.signals.map Signal.line ++ [summary e.draft.validity]
  /-- Every event among the steps was handled. -/
  handled : handled p.session.journal = openingEvents r.saved ++ r.steps.filterMap Step.event?
  exitCode : p.output.exitCode ≠ 0 ↔ e.draft.validity = .invalid
  icon : e.draft.validity = .invalid ↔
    (Signal.last? Signal.feedback? p.session.signals).map (·.icon) = some .error
  /-- The summary has the word for what the query is at the end. -/
  named : e.draft.validity.word.toList <:+: (summary e.draft.validity).toList
  /-- The summary is that of nothing else. -/
  named_only : ∀ v, summary v = summary e.draft.validity → v = e.draft.validity

theorem Sound.faithful {r : Recording} {p : Performance} (h : Sound r p) (hdone : p.IsDone) :
    ∃ e printed, Faithful r p e printed := by
  obtain ⟨ids, ⟨e, he, -⟩, -⟩ := h.lives
  obtain ⟨hended, hread⟩ := hdone
  have hqueue : p.queue = [] := h.ended hended
  have hsteps : p.steps = [] := h.closed (by rw [hended]; decide)
  have hfinal : finalValidity p.session = e.draft.validity := by rw [finalValidity, he]
  have hshown := (h.mirrored h.listening e he).feedback
  have htold : p.session.signals ≠ [] := by
    intro hnone
    rw [hnone] at hshown
    cases hshown
  have hlines : p.lines = p.session.signals.map Signal.line :=
    h.lines.eq_of_length (by rw [hread, List.length_map])
  refine ⟨e, text p.lines (finalValidity p.session), he, stdout_report .., ?_, ?_, ?_, ?_,
    word_in_summary _, fun v => summary_injective⟩
  · rw [hlines, linesOf_text htold, hfinal]
  · simpa [hqueue, hsteps] using h.handled
  · rw [Performance.output, exitCode_report, hfinal]
  · rw [hshown, Option.map_some, Option.some_inj, icon_feedback]

/-- How a report ends, by what is known of the query at the end. -/
theorem Faithful.ends {r : Recording} {p : Performance} {e : Editor} {printed : String}
    (h : Faithful r p e printed) {validity : Validity} {count : Nat}
    (hfinal : finalValidity p.session = validity) (hcount : p.session.signals.length = count) :
    (linesOf printed).length = count + 1 ∧
      (linesOf printed).getLast? = some (summary validity) ∧
      (p.output.exitCode ≠ 0 ↔ validity = .invalid) := by
  have hvalidity : e.draft.validity = validity := by rwa [finalValidity, h.editor] at hfinal
  refine ⟨?_, ?_, ?_⟩
  · rw [h.lines, List.length_append, List.length_map, hcount, List.length_singleton]
  · rw [h.lines, List.getLast?_append, hvalidity]
    rfl
  · rw [h.exitCode, hvalidity]

/-- **The report of a replay is faithful.**  Take a recording that a text of fewer than 2^63
characters holds, that answers no text twice and whose buffer is no larger than there is, and any
options.  The output is that of one of its performances, and none of these goes on for ever or stops
before it is done.

However it is performed, whether the oracle answers in time, is given up or is still at work in the
end, the standard output, split at its line feeds, is one line for each signal of the session in
order, and a summary.  Every event among the steps was handled.  The exit code is that of a failure
just if the query is invalid at the end, and just if the last feedback shows an error; and the
summary has the word for what the query is at the end, and is that of nothing else. -/
theorem report_faithful {script : String} {r : Recording} (o : Options)
    (hscript : Recording.parse? script = some r) (hlength : script.length < offsetLimit / 2)
    (htexts : (r.responses.map (·.text)).Nodup)
    (hbuffer : (r.timingWith o).eventBuffer ≤ largestBuffer) :
    ∃ env, r.setting o = .ok env ∧
      (∃ p, Performs env r o p ∧ p.IsDone ∧ p.session = r.play o env ∧ output o r = .ok p.output) ∧
      (WellFounded fun q p : Performance => ∃ ms, Act env (r.delayMs o) (p.later ms) q) ∧
      ∀ p, Performs env r o p →
        (p.IsDone ∨ ∃ ms q, Act env (r.delayMs o) (p.later ms) q) ∧
        (p.IsDone → ∃ e printed, Faithful r p e printed) := by
  have hsetting : ∃ env, r.setting o = .ok env ∧ env.timing = r.timingWith o := by
    rw [Recording.setting, Script.ofResponses_of_nodup htexts]
    exact ⟨_, rfl, rfl⟩
  obtain ⟨env, henv, htiming⟩ := hsetting
  have hids : openingIds r.saved + r.steps.length < offsetLimit := by
    have hsteps := Recording.length_steps_le hscript
    have hone := openingIds_le_one r.saved
    omega
  have hcheck : env.timing.check = .ok () := by rw [Timing.check, htiming, if_pos hbuffer]
  obtain ⟨p, hperforms, hdone, hsession, hlines⟩ := exists_performs_play env o hids
  have hout : output o r = .ok p.output := by
    rw [output, henv, Performance.output, hlines, hsession]
    simp only [hcheck]
    rfl
  refine ⟨env, henv, ⟨p, hperforms, hdone, hsession, hout⟩, acts_end env _, fun p hperforms => ?_⟩
  have hsound := hperforms.sound hids
  exact ⟨or_iff_not_imp_left.mpr hsound.exists_act, hsound.faithful⟩

/-- A query that is a line feed, which the oracle takes 200 ms to refuse, with a line feed for a
message. -/
def slowScript : String :=
  "\x7b\"steps\":[\x7b\"type\":\"textChanged\",\"text\":\"\\n\"\x7d," ++
  "\x7b\"type\":\"wait\",\"ms\":500\x7d]," ++
  "\"responses\":[\x7b\"text\":\"\\n\",\"outcome\":" ++
  "\x7b\"kind\":\"malformedValue\",\"rawMessage\":\"\\n\"\x7d,\"delayMs\":200\x7d]\x7d"

/-- What the script holds. -/
def slowRecording : Recording where
  responses := [{ text := "\n", verdict := .malformedValue "\n", delayMs := 200 }]
  steps := [.event (.textChanged "\n" 1), .wait 500]

/-- At the pace of its oracle, the query is refused in time, and the line feed in it ends no line of
the report.  If the request is sent later, the oracle is still at work on it in the end. -/
theorem report_faithful_slow :
    let later : Options := { paced := true, debounceMs := some 400 }
    Recording.parse? slowScript = some slowRecording ∧ slowScript.length < offsetLimit / 2 ∧
      (slowRecording.responses.map (·.text)).Nodup ∧
      (slowRecording.timingWith { paced := true }).eventBuffer ≤ largestBuffer ∧
      (slowRecording.timingWith later).eventBuffer ≤ largestBuffer ∧
      (∃ out printed, output { paced := true } slowRecording = .ok out ∧
        out.stdout = some printed ∧ (linesOf printed).length = 9 ∧
        (linesOf printed).getLast? = some (summary .invalid) ∧ out.exitCode ≠ 0) ∧
      ∃ out printed, output later slowRecording = .ok out ∧ out.stdout = some printed ∧
        (linesOf printed).length = 5 ∧ (linesOf printed).getLast? = some (summary .validating) ∧
        out.exitCode = 0 := by
  intro later
  have hscript : Recording.parse? slowScript = some slowRecording := by decide +kernel
  have hlength : slowScript.length < offsetLimit / 2 := by decide +kernel
  have htexts : (slowRecording.responses.map (·.text)).Nodup := by decide
  refine ⟨hscript, hlength, htexts, by decide, by decide, ?_, ?_⟩
  · obtain ⟨env, henv, ⟨p, hperforms, hdone, hsession, hout⟩, -, hall⟩ :=
      report_faithful { paced := true } hscript hlength htexts (by decide)
    obtain ⟨e, printed, hfaithful⟩ := (hall p hperforms).2 hdone
    have hplayed : (slowRecording.setting { paced := true }).map (fun env =>
        let s := slowRecording.play { paced := true } env
        (finalValidity s, s.signals.length)) = .ok (.invalid, 8) := by
      decide +kernel
    rw [henv] at hplayed
    obtain ⟨hfinal, hcount⟩ := Prod.mk.inj (Except.ok.inj hplayed)
    obtain ⟨hnumber, hlast, hexit⟩ := hfaithful.ends (hsession ▸ hfinal) (hsession ▸ hcount)
    exact ⟨p.output, printed, hout, hfaithful.stdout, hnumber, hlast, hexit.mpr rfl⟩
  · obtain ⟨env, henv, ⟨p, hperforms, hdone, hsession, hout⟩, -, hall⟩ :=
      report_faithful later hscript hlength htexts (by decide)
    obtain ⟨e, printed, hfaithful⟩ := (hall p hperforms).2 hdone
    have hplayed : (slowRecording.setting later).map (fun env =>
        let s := slowRecording.play later env
        (finalValidity s, s.signals.length)) = .ok (.validating, 4) := by
      decide +kernel
    rw [henv] at hplayed
    obtain ⟨hfinal, hcount⟩ := Prod.mk.inj (Except.ok.inj hplayed)
    obtain ⟨hnumber, hlast, hexit⟩ := hfaithful.ends (hsession ▸ hfinal) (hsession ▸ hcount)
    exact ⟨p.output, printed, hout, hfaithful.stdout, hnumber, hlast,
      not_not.mp (mt hexit.mp (by decide))⟩

/-! ### A buffer that is larger than there is -/

/-- A recording without steps that asks for a larger buffer than there is. -/
def greedyScript : String :=
  "\x7b\"steps\": [], \"config\": \x7b\"eventBuffer\": 4611686018427387904\x7d\x7d"

/-- What the script holds. -/
def greedyRecording : Recording where
  timing := some { eventBuffer := 4611686018427387904 }
  steps := []

/-- A recording can answer no text twice and still have no report. -/
theorem no_report_greedy :
    Recording.parse? greedyScript = some greedyRecording ∧
      (greedyRecording.responses.map (·.text)).Nodup ∧
      ¬ ∃ out, output {} greedyRecording = .ok out := by
  refine ⟨by decide +kernel, by decide, ?_⟩
  rintro ⟨out, hout⟩
  have hfault : output {} greedyRecording = .error .bufferTooLarge := rfl
  cases hfault.symm.trans hout

end Replay
end FilterEditor
