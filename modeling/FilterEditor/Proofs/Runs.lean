import FilterEditor.Proofs.Moves
import Mathlib.Data.List.Induction

/-!
# Proofs — Runs

The runs of a session, as the moves they are made of.

* `advance_moves`: letting time go by is a sequence of inner moves that ends settled, so many
  milliseconds later.
* `advance_add`: time may be let go by in pieces, down to single milliseconds.  A run that stops
  after every millisecond passes through the same sessions, so what holds after every step of every
  run holds after every millisecond.
* `arises_after`: every run is made of moves; it is settled after every step (`after_still`).

`LastChange` reads the last change of the text off the steps of a run, with its time.
-/

namespace FilterEditor
namespace Session
open Relation

/-! ### Letting time go by -/

theorem foldl_min_le (gap : Nat → Nat) (dues : List Nat) (ms : Nat) :
    dues.foldl (fun ms due => min ms (gap due)) ms ≤ ms ∧
      ∀ due ∈ dues, dues.foldl (fun ms due => min ms (gap due)) ms ≤ gap due := by
  induction dues generalizing ms with
  | nil => simp
  | cons due dues ih =>
      obtain ⟨hle, hall⟩ := ih (min ms (gap due))
      simp only [List.foldl_cons, List.mem_cons, forall_eq_or_imp]
      exact ⟨Nat.le_trans hle (Nat.min_le_left ..), Nat.le_trans hle (Nat.min_le_right ..), hall⟩

/-- The pause is the longest stretch, up to `ms`, that keeps within all gaps. -/
theorem le_foldl_min {gap : Nat → Nat} {dues : List Nat} {ms k : Nat} (hms : k ≤ ms)
    (hall : ∀ due ∈ dues, k ≤ gap due) :
    k ≤ dues.foldl (fun ms due => min ms (gap due)) ms := by
  induction dues generalizing ms with
  | nil => exact hms
  | cons due dues ih =>
      rw [List.forall_mem_cons] at hall
      exact ih (Nat.le_min.mpr ⟨hms, hall.1⟩) hall.2

theorem mem_dueTimes {s : Session} {due : Nat} :
    due ∈ s.dueTimes ↔ (∃ e p, s.editor = some e ∧ e.pending = some p ∧ p.due = due) ∨
      ∃ c ∈ s.calls, c.expired = false ∧ c.deadline = due := by
  unfold dueTimes
  rw [List.mem_append]
  refine or_congr ?_ (by simp [and_assoc])
  cases he : s.editor with
  | none => simp
  | some e =>
      cases hp : e.pending with
      | none => simp [Editor.dueTime?, hp]
      | some p => simp [Editor.dueTime?, hp, eq_comm]

/-- In a settled session, everything falls due later. -/
theorem Still.clock_lt {s : Session} (still : s.Still) : ∀ due ∈ s.dueTimes, s.clock < due := by
  intro due h
  rcases mem_dueTimes.mp h with ⟨e, p, he, hp, rfl⟩ | ⟨c, hc, hx, rfl⟩
  · exact Editor.due?_eq_none.mp (still.not_due e he) p hp
  · have h := still.not_overdue c hc
    simpa [Call.isOverdue, hx] using h

theorem pause_le_due {s : Session} (still : s.Still) (ms : Nat) :
    ∀ due ∈ s.dueTimes, s.clock + s.pause ms ≤ due := by
  intro due h
  have hlt := still.clock_lt due h
  have hle := (foldl_min_le (· - s.clock) s.dueTimes ms).2 due h
  unfold pause
  omega

theorem pause_le {s : Session} {ms : Nat} (h : 0 < ms) : s.pause ms ≤ ms := by
  have hle := (foldl_min_le (· - s.clock) s.dueTimes ms).1
  unfold pause
  omega

/-- The pause is no shorter than any stretch before which nothing falls due. -/
theorem le_pause {s : Session} {ms k : Nat} (hms : k ≤ ms)
    (hall : ∀ due ∈ s.dueTimes, s.clock + k ≤ due) : k ≤ s.pause ms := by
  have hle : k ≤ s.dueTimes.foldl (fun ms due => min ms (due - s.clock)) ms :=
    le_foldl_min hms fun due h => by have := hall due h; omega
  exact Nat.le_trans hle (Nat.le_max_right ..)

theorem elapse_moves {env : Setting} {s : Session} (still : s.Still) (ms : Nat) :
    ReflTransGen (InnerMove env) s (s.elapse env (s.pause ms)) :=
  .head (.pass (s.pause ms) still (pause_le_due still ms)) (settle_moves env _)

theorem advance_zero (env : Setting) (s : Session) : advance env 0 s = s := by
  rw [advance, if_neg (Nat.lt_irrefl 0)]

theorem advance_pos (env : Setting) {ms : Nat} (h : 0 < ms) (s : Session) :
    advance env ms s = advance env (ms - s.pause ms) (s.elapse env (s.pause ms)) := by
  rw [advance, if_pos h]

/-- Letting time go by is a sequence of inner moves, which ends settled. -/
theorem advance_moves {env : Setting} (ms : Nat) : ∀ {s : Session}, s.Still →
    ReflTransGen (InnerMove env) s (advance env ms s) ∧ (advance env ms s).Still ∧
      (advance env ms s).clock = s.clock + ms := by
  -- on the time that is left, which each pause shortens
  induction ms using Nat.strongRecOn with
  | _ ms ih =>
      intro s still
      by_cases hms : 0 < ms
      · have hpos := s.pause_pos ms
        have hle := pause_le (s := s) hms
        obtain ⟨hmoves, hstill, hclock⟩ :=
          ih (ms - s.pause ms) (by omega) (settle_still env { s with clock := s.clock + s.pause ms })
        rw [advance_pos env hms]
        refine ⟨(elapse_moves still ms).trans hmoves, hstill, ?_⟩
        rw [elapse, hclock, settle_clock]
        simp only
        omega
      · obtain rfl : ms = 0 := by omega
        rw [advance_zero]
        exact ⟨.refl, still, rfl⟩

/-! ### Time in pieces -/

theorem expire_of_not_overdue {s : Session} (h : ∀ c ∈ s.calls, c.isOverdue s.clock = false) :
    s.expire = s := by
  have hmap : s.calls.map (Call.expireAt s.clock) = s.calls :=
    (List.map_congr_left fun c hc => expireAt_clock (h c hc)).trans (List.map_id' _)
  have hfilter : s.calls.filter (·.isOverdue s.clock) = [] :=
    List.filter_eq_nil_iff.mpr fun c hc => by simp [h c hc]
  simp [expire, hmap, hfilter]

theorem expire_of_still {s : Session} (still : s.Still) : s.expire = s :=
  expire_of_not_overdue still.not_overdue

theorem collect_of_still {env : Setting} {s : Session} (still : s.Still) : s.collect env = s := by
  have hheld : s.calls.filter (·.held) = s.calls := List.filter_eq_self.mpr still.held
  have hreturn : (s.calls.filter fun c => !c.held && !c.expired) = [] :=
    List.filter_eq_nil_iff.mpr fun c hc => by simp [still.held c hc]
  simp [collect, hheld, hreturn]

theorem deliver_of_still {s : Session} (still : s.Still) : s.deliver = s := by
  simp [deliver, still.replies_nil, Nat.repeat]

theorem fire_of_still {env : Setting} {s : Session} (still : s.Still) : s.fire env = s := by
  unfold fire
  split
  · next e he => simp [still.not_due e he]
  · rfl

theorem exchange_of_still {env : Setting} {s : Session} (still : s.Still) : s.exchange env = s := by
  rw [exchange, expire_of_still still, collect_of_still still, deliver_of_still still]

/-- A settled session does not move by itself. -/
theorem settle_of_still {env : Setting} {s : Session} (still : s.Still) : s.settle env = s := by
  rw [settle, exchange_of_still still, fire_of_still still, exchange_of_still still]

/-- A session stays settled while nothing falls due. -/
theorem Still.later {s : Session} (still : s.Still) {ms : Nat}
    (hdue : ∀ due ∈ s.dueTimes, s.clock + ms < due) : Still { s with clock := s.clock + ms } where
  replies_nil := still.replies_nil
  held := still.held
  not_overdue c hc := by
    cases hx : c.expired with
    | true => simp [Call.isOverdue, hx]
    | false =>
        have hlt := hdue c.deadline (mem_dueTimes.mpr (.inr ⟨c, hc, hx, rfl⟩))
        simpa [Call.isOverdue, hx] using hlt
  not_due e he := Editor.due?_eq_none.mpr fun p hp =>
    hdue p.due (mem_dueTimes.mpr (.inl ⟨e, p, he, hp, rfl⟩))

/-- Time that ends before anything falls due only moves the clock. -/
theorem elapse_of_lt {env : Setting} {s : Session} (still : s.Still) {ms : Nat}
    (hdue : ∀ due ∈ s.dueTimes, s.clock + ms < due) :
    s.elapse env ms = { s with clock := s.clock + ms } :=
  settle_of_still (still.later hdue)

/-- Time up to which nothing falls due may be let go by first. -/
theorem advance_later {env : Setting} {s : Session} (still : s.Still) {m n : Nat} (hm : 0 < m)
    (hn : 0 < n) (hdue : ∀ due ∈ s.dueTimes, s.clock + m < due) :
    advance env (m + n) s = advance env n { s with clock := s.clock + m } := by
  have hpause : s.pause (m + n) = m + Session.pause { s with clock := s.clock + m } n := by
    apply Nat.le_antisymm
    · refine Nat.sub_le_iff_le_add'.mp (le_pause ?_ fun due h => ?_)
      · have : s.pause (m + n) ≤ m + n := pause_le (by omega)
        omega
      · have := pause_le_due still (m + n) due h
        have := hdue due h
        simp only
        omega
    · refine le_pause (Nat.add_le_add_left (pause_le hn) m) fun due h => ?_
      have := pause_le_due (still.later hdue) n due h
      simpa [Nat.add_assoc] using this
  rw [advance_pos env (by omega), advance_pos env hn, hpause, Nat.add_sub_add_left]
  simp only [elapse, Nat.add_assoc]

/-- **Time in pieces.**  A settled session comes to the same whether time goes by at once or in two
stretches. -/
theorem advance_add {env : Setting} (m n : Nat) : ∀ {s : Session}, s.Still →
    advance env (m + n) s = advance env n (advance env m s) := by
  induction m using Nat.strongRecOn with
  | _ m ih =>
      intro s still
      rcases Nat.eq_zero_or_pos m with rfl | hm
      · rw [advance_zero, Nat.zero_add]
      rcases Nat.eq_zero_or_pos n with rfl | hn
      · rw [advance_zero, Nat.add_zero]
      by_cases hk : s.pause (m + n) ≤ m
      -- something falls due within the first stretch, and both sides pause there
      · have hpause : s.pause m = s.pause (m + n) := Nat.le_antisymm
          (le_pause (Nat.le_trans (pause_le hm) (Nat.le_add_right m n)) (pause_le_due still m))
          (le_pause hk (pause_le_due still (m + n)))
        have hpos := s.pause_pos (m + n)
        have h := ih (m - s.pause (m + n)) (by omega)
          (settle_still env { s with clock := s.clock + s.pause (m + n) })
        rw [advance_pos env (by omega), advance_pos env hm, hpause, elapse, ← h,
          Nat.sub_add_comm hk]
      -- nothing falls due up to the end of the first stretch
      · have hlt : ∀ due ∈ s.dueTimes, s.clock + m < due := fun due h => by
          have := pause_le_due still (m + n) due h
          omega
        have hpm : s.pause m = m := Nat.le_antisymm (pause_le hm)
          (le_pause (Nat.le_refl m) fun due h => Nat.le_of_lt (hlt due h))
        rw [advance_pos env hm, hpm, Nat.sub_self, advance_zero, elapse_of_lt still hlt,
          advance_later still hm hn hlt]

/-! ### Steps -/

/-- A release lets one call return, or does nothing. -/
theorem take_release (env : Setting) (s : Session) (text : String) :
    (s.take env (.release text)).1 = s ∨
      ∃ id, (s.take env (.release text)).1 = s.release id := by
  cases hc : s.heldCall? text with
  | none => exact .inl (by simp [take, hc])
  | some c => exact .inr ⟨c.id, by simp [take, hc]⟩

theorem take_moves {env : Setting} {s : Session} (still : s.Still) (st : Step) :
    ReflTransGen (Move env) s (s.take env st).1 := by
  cases st with
  | event event =>
      cases he : s.editor with
      | none => simpa [take, he] using .refl
      | some e => simpa [take, he] using .single (.event he event)
  | advance ms => exact moves_of_inner (advance_moves ms still).1
  | release text =>
      rcases take_release env s text with hs | ⟨id, hs⟩
      · rw [hs]
      · rw [hs]
        exact .single (.release s id)
  | closeSignals => exact .single (.closeSignals s)
  | kill => exact .single (.kill s)

/-- A step of a settled session is a sequence of moves. -/
theorem step_moves {env : Setting} {s : Session} (still : s.Still) (st : Step) :
    ReflTransGen (Move env) s (s.step env st) :=
  (take_moves still st).trans (moves_of_inner (settle_moves env _))

/-- The session at the end of a run. -/
def after (env : Setting) (saved : Option SavedFilter) (maySave : Bool) (steps : List Step) :
    Session :=
  (transcript env (.opening saved maySave) steps).final

section
variable {env : Setting} {saved : Option SavedFilter} {maySave : Bool}

theorem runFrom_final (s : Session) (steps : List Step) :
    (runFrom env s steps).final = steps.foldl (step env) s := by
  induction steps generalizing s with
  | nil => rfl
  | cons st steps ih => exact ih (s.step env st)

theorem after_nil :
    after env saved maySave [] = (start env (.opening saved maySave)).settle env := by
  rw [after, transcript, runFrom_final, List.foldl_nil, opened]

theorem after_append (steps more : List Step) :
    after env saved maySave (steps ++ more) = more.foldl (step env) (after env saved maySave steps) := by
  simp [after, transcript, runFrom_final]

theorem after_concat (steps : List Step) (st : Step) :
    after env saved maySave (steps ++ [st]) = (after env saved maySave steps).step env st :=
  after_append steps [st]

/-- A run has settled after every step. -/
theorem after_still (steps : List Step) : (after env saved maySave steps).Still := by
  rcases List.eq_nil_or_concat steps with rfl | ⟨steps, st, rfl⟩
  · rw [after_nil]
    exact settle_still env _
  · rw [List.concat_eq_append, after_concat]
    exact settle_still env _

/-- Every run is made of moves. -/
theorem arises_after (steps : List Step) : Arises env saved maySave (after env saved maySave steps) := by
  induction steps using List.reverseRecOn with
  | nil =>
      rw [after_nil]
      exact moves_of_inner (settle_moves env _)
  | append_singleton steps st ih =>
      rw [after_concat]
      exact ih.trans (step_moves (after_still steps) st)

/-- A run that goes on makes moves. -/
theorem after_moves (steps more : List Step) :
    ReflTransGen (Move env) (after env saved maySave steps)
      (after env saved maySave (steps ++ more)) := by
  induction more using List.reverseRecOn with
  | nil => rw [List.append_nil]
  | append_singleton more st ih =>
      rw [← List.append_assoc, after_concat]
      exact ih.trans (step_moves (after_still _) st)

/-- A run that lets time go by comes to the same if it stops on the way. -/
theorem after_advance_add (steps : List Step) (m n : Nat) :
    after env saved maySave (steps ++ [Step.advance (m + n)]) =
      after env saved maySave (steps ++ [Step.advance m, Step.advance n]) := by
  have still : (after env saved maySave steps).Still := after_still steps
  have hm : (advance env m (after env saved maySave steps)).Still := (advance_moves m still).2.1
  simp only [after_append, List.foldl_cons, List.foldl_nil, step, take]
  rw [settle_of_still hm, advance_add m n still]

end

/-! ### The last change of the text -/

end Session

/-- The step changes the text. -/
def Step.changesText : Step → Bool
  | .event (.textChanged _ _) => true
  | _ => false

namespace Session
open Relation

/-- The last change of the text in a run: its time, the text and the cursor.  The query of a saved
filter counts as a change made when the session opens. -/
inductive LastChange (env : Setting) (saved : Option SavedFilter) (maySave : Bool) :
    List Step → Nat → String → Nat → Prop where
  | opened {filter : SavedFilter} (hsaved : saved = some filter) (hne : filter.query ≠ "") :
      LastChange env saved maySave [] 0 filter.query filter.query.length
  | changed (steps : List Step) (text : String) (cursor : Nat) :
      LastChange env saved maySave (steps ++ [.event (.textChanged text cursor)])
        (after env saved maySave steps).clock text cursor
  | kept {steps : List Step} {time : Nat} {text : String} {cursor : Nat} {st : Step}
      (h : LastChange env saved maySave steps time text cursor) (hst : st.changesText = false) :
      LastChange env saved maySave (steps ++ [st]) time text cursor

/-- What a step does that does not change the text, before the session settles. -/
theorem take_kept {env : Setting} {s : Session} (still : s.Still) {st : Step}
    (hst : st.changesText = false) :
    ReflTransGen (InnerMove env) s (s.take env st).1 ∨
    (∃ id, (s.take env st).1 = s.release id) ∨
    (∃ e name, s.editor = some e ∧ (s.take env st).1 = (s.note (.renamed name)).become
      { e with draft := e.draft.rename name } [.gating (e.draft.rename name).gating]) ∨
    (∃ e signal, s.editor = some e ∧ (s.take env st).1 = s.become e [signal]) ∨
    (s.take env st).1 = { s with listening := false } ∨
    (s.take env st).1 = { s with editor := none } := by
  cases st with
  | event event =>
      cases he : s.editor with
      | none => exact .inl (by simpa [take, he] using .refl)
      | some e =>
          have htake : (s.take env (.event event)).1 = s.handle env e event := by simp [take, he]
          rw [htake]
          rcases s.handle_cases env e event with hs | ⟨text, cursor, rfl, -⟩ | ⟨cursor, rfl, -⟩ |
              ⟨name, -, hs⟩ | ⟨signal, -, hs, -⟩
          · exact .inr (.inr (.inr (.inr (.inr hs))))
          · cases hst
          · cases hst
          · exact .inr (.inr (.inl ⟨e, name, rfl, hs⟩))
          · exact .inr (.inr (.inr (.inl ⟨e, signal, rfl, hs⟩)))
  | advance ms => exact .inl (advance_moves ms still).1
  | release text =>
      rcases take_release env s text with hs | ⟨id, hs⟩
      · rw [hs]
        exact .inl .refl
      · exact .inr (.inl ⟨id, hs⟩)
  | closeSignals => exact .inr (.inr (.inr (.inr (.inl rfl))))
  | kill => exact .inr (.inr (.inr (.inr (.inr rfl))))

/-! ### Sessions that have ended -/

theorem editor_none_of_innerMove {env : Setting} {s s' : Session} (h : InnerMove env s s')
    (hs : s.editor = none) : s'.editor = none := by
  cases h with
  | pass | expire | collect => exact hs
  | receive _ => rw [receive_none (by exact hs)]; exact hs
  | send he => rw [hs] at he; cases he

/-- A session that has ended does not come back. -/
theorem editor_none_of_moves {env : Setting} {s s' : Session} (h : ReflTransGen (Move env) s s')
    (hs : s.editor = none) : s'.editor = none := by
  induction h with
  | refl => exact hs
  | tail _ move ih =>
      cases move with
      | inner h => exact editor_none_of_innerMove h ih
      | event he => rw [ih] at he; cases he
      | release | closeSignals => exact ih
      | kill => rfl

/-! ### A setting to run in -/

/-- Every query is accepted, at once or when it is released, and no request waits. -/
def accepting (holds : String → Bool) : Setting where
  oracle := { validate := fun _ => .ok .success, propose := fun _ cursor => .ok { cursor } }
  formatter := {}
  timing := { debounceMs := 0 }
  holds := holds

/-- Every query is accepted, at once, and requests wait. -/
def patient : Setting :=
  { accepting fun _ => false with timing := {} }

end Session
end FilterEditor
