import FilterEditor.Proofs.Editing
import Mathlib.Data.List.DropRight
import Mathlib.Data.List.Induction

/-!
# Proofs — Recounting

A draft is read off what was done to it (`recounted`).

A draft keeps two counters and applies an answer by comparing them.  Its operations in order
(`Draft.Operation`, `Draft.performAll`) tell the same without any counter: the last id is the number
of changes of the text, and what is known of the query is what the first reply under that id says
that came since the last change.

* `sinceChange`: the operations since the last change of the text.
* `Standing`: nothing is known, an answer is awaited, or the first reply under the last id was
  applied, and no other since.
* `Recounts`: the draft as its operations tell it; each operation keeps it (`Recounts.edit`,
  `Recounts.rename`, `Recounts.reply`).
-/

namespace FilterEditor
namespace Draft

/-- What is done to a draft. -/
inductive Operation where
  | edit (text : String) (cursor : Nat)
  | rename (name : String)
  /-- The oracle answers the request. -/
  | answer (id : RequestId) (diagnostic : Diagnostic)
  /-- The oracle does not answer the request. -/
  | giveUp (id : RequestId)
deriving DecidableEq, Repr

/-- What a reply to a request makes of the draft that accepts it. -/
structure Outcome where
  id : RequestId
  validity : Validity
  error : Option String
deriving DecidableEq, Repr

namespace Operation

/-- The text and the cursor of a change of the text. -/
def change? : Operation → Option (String × Nat)
  | .edit text cursor => some (text, cursor)
  | _ => none

/-- The name that is given. -/
def name? : Operation → Option String
  | .rename name => some name
  | _ => none

/-- What comes of the request, if the operation is a reply. -/
def outcome? : Operation → Option Outcome
  | .answer id diagnostic =>
      some ⟨id, if diagnostic.failed then .invalid else .valid, diagnostic.errorMessage⟩
  | .giveUp id => some ⟨id, .unknown, none⟩
  | _ => none

/-- The operation is a reply under the id. -/
def bears (id : RequestId) (op : Operation) : Bool :=
  op.outcome?.any (·.id == id)

end Operation

/-- The draft after an operation, and what became of it if it is a reply. -/
def perform (d : Draft) : Operation → Except Fault (Draft × Option Disposition)
  | .edit text cursor => do
      let (d, _) ← d.edit text cursor
      return (d, none)
  | .rename name => .ok (d.rename name, none)
  | .answer id diagnostic =>
      let (d, disposition) := d.answer id diagnostic
      .ok (d, some disposition)
  | .giveUp id =>
      let (d, disposition) := d.giveUp id
      .ok (d, some disposition)

/-- The draft after some operations, and what became of each. -/
def performAll (d : Draft) : List Operation → Except Fault (Draft × List (Option Disposition))
  | [] => .ok (d, [])
  | op :: ops => do
      let (d, disposition) ← d.perform op
      let (d, dispositions) ← d.performAll ops
      return (d, disposition :: dispositions)

/-! ### Reading the operations -/

/-- The changes of the text. -/
def changes (ops : List Operation) : List (String × Nat) :=
  ops.filterMap Operation.change?

/-- The operations since the last change of the text. -/
def sinceChange (ops : List Operation) : List Operation :=
  ops.rtakeWhile (·.change?.isNone)

/-- The last name that was given. -/
def lastName? (ops : List Operation) : Option String :=
  (ops.filterMap Operation.name?).getLast?

section
variable {d d' : Draft} {ops since : List Operation} {op : Operation} {outcome : Outcome}
  {dispositions marks : List (Option Disposition)} {mark : Option Disposition}

theorem perform_reply (h : op.outcome? = some outcome) (d : Draft) :
    d.perform op = .ok (if d.accepts outcome.id then
      ({ d with applied := outcome.id, validity := outcome.validity, error := outcome.error },
        some .applied)
      else (d, some .stale)) := by
  cases op with
  | edit | rename => cases h
  | answer id diagnostic =>
      cases h
      simp only [perform, answer]
      split <;> rfl
  | giveUp id =>
      cases h
      simp only [perform, giveUp]
      split <;> rfl

/-- A stale reply leaves the draft as it was. -/
theorem perform_stale (h : d.perform op = .ok (d', some .stale)) : d' = d := by
  cases houtcome : op.outcome? with
  | some outcome =>
      rw [perform_reply houtcome] at h
      split at h <;> cases h
      rfl
  | none =>
      cases op with
      | edit text cursor =>
          simp only [perform, bind, Except.bind] at h
          split at h <;> cases h
      | rename => cases h
      | answer | giveUp => cases houtcome

theorem performAll_concat {d'' : Draft} (h : d.performAll ops = .ok (d', dispositions))
    (hop : d'.perform op = .ok (d'', mark)) :
    d.performAll (ops ++ [op]) = .ok (d'', dispositions ++ [mark]) := by
  induction ops generalizing d dispositions with
  | nil =>
      cases h
      simp only [List.nil_append, performAll, hop, bind, Except.bind, pure, Except.pure]
  | cons first ops ih =>
      simp only [List.cons_append, performAll, bind, Except.bind, pure, Except.pure] at h ⊢
      cases hfirst : d.perform first with
      | error fault => simp [hfirst] at h
      | ok result =>
          simp only [hfirst] at h ⊢
          cases hrest : result.1.performAll ops with
          | error fault => simp [hrest] at h
          | ok rest =>
              simp only [hrest, Except.ok.injEq, Prod.mk.injEq] at h
              obtain ⟨hdraft, rfl⟩ := h
              have hlast := ih (hrest.trans (congrArg Except.ok (Prod.ext hdraft rfl)))
              simp only [hlast, List.cons_append]

theorem changes_concat (ops : List Operation) (op : Operation) :
    changes (ops ++ [op]) = changes ops ++ op.change?.toList := by
  rw [changes, List.filterMap_append, changes]
  cases hchange : op.change? <;> simp [hchange]

theorem lastName?_concat (ops : List Operation) (op : Operation) :
    lastName? (ops ++ [op]) = op.name?.or (lastName? ops) := by
  rw [lastName?, List.filterMap_append, List.getLast?_append, lastName?]
  cases hname : op.name? <;> simp [hname]

theorem sinceChange_concat (ops : List Operation) (h : op.change? = none) :
    sinceChange (ops ++ [op]) = sinceChange ops ++ [op] :=
  List.rtakeWhile_concat_pos _ _ _ (by simp [h])

theorem sinceChange_concat_edit (ops : List Operation) (text : String) (cursor : Nat) :
    sinceChange (ops ++ [.edit text cursor]) = [] :=
  List.rtakeWhile_concat_neg _ _ _ Bool.false_ne_true

/-! ### What is known of the query -/

/-- What is known of the query after some operations since the last change of the text, if it was
changed: nothing, or an answer is awaited, or the first reply under the last id was applied, and no
other. -/
inductive Standing (id : RequestId) (since : List Operation) (d : Draft)
    (dispositions : List (Option Disposition)) : Option (String × Nat) → Prop where
  | idle {change : Option (String × Nat)} (hchange : ∀ place ∈ change, place.1 = "")
      (applied : d.applied = id) (validity : d.validity = .unknown) (error : d.error = none)
      (unapplied : some .applied ∉ dispositions) : Standing id since d dispositions change
  | awaiting {text : String} {cursor : Nat} (hne : text ≠ "")
      (first : since.find? (·.bears id) = none) (applied : d.applied < id)
      (validity : d.validity = .validating) (error : d.error = none)
      (unapplied : some .applied ∉ dispositions) :
      Standing id since d dispositions (some (text, cursor))
  | answered {text : String} {cursor : Nat} (hne : text ≠ "") {op : Operation}
      (first : since.find? (·.bears id) = some op) (applied : d.applied = id)
      (outcome : op.outcome? = some ⟨id, d.validity, d.error⟩)
      (only : ∀ i, dispositions[i]? = some (some .applied) ↔
        since.findIdx? (·.bears id) = some i) :
      Standing id since d dispositions (some (text, cursor))

theorem applied_concat {i : Nat} :
    (dispositions ++ [mark])[i]? = some (some .applied) ↔
      dispositions[i]? = some (some .applied) ∨
        i = dispositions.length ∧ mark = some .applied := by
  rw [List.getElem?_append]
  split
  · next hlt => simp [Nat.ne_of_lt hlt]
  · next hle =>
      have hnone : dispositions[i]? = none := List.getElem?_eq_none (Nat.le_of_not_lt hle)
      rcases Nat.eq_or_lt_of_le (Nat.le_of_not_lt hle) with rfl | hlt
      · simp
      · have hpast : 1 ≤ i - dispositions.length := by omega
        simp [hnone, List.getElem?_eq_none, hpast, Nat.ne_of_gt hlt]

theorem findIdx?_of_find? {id : RequestId} (h : since.find? (·.bears id) = none) :
    since.findIdx? (·.bears id) = none :=
  List.findIdx?_eq_none_iff.mpr fun op hmem =>
    Bool.eq_false_iff.mpr (List.find?_eq_none.mp h op hmem)

namespace Standing
variable {id : RequestId} {change : Option (String × Nat)}

/-- An operation that is not applied leaves what is known. -/
theorem skip (h : Standing id since d dispositions change) (happlied : d'.applied = d.applied)
    (hvalidity : d'.validity = d.validity) (herror : d'.error = d.error)
    (hop : d.applied < id → op.bears id = false) (hmark : mark ≠ some .applied) :
    Standing id (since ++ [op]) d' (dispositions ++ [mark]) change := by
  have hunapplied (hnone : some .applied ∉ dispositions) : some .applied ∉ dispositions ++ [mark] :=
    fun hmem => (List.mem_append.mp hmem).elim hnone fun hlast =>
      hmark (List.mem_singleton.mp hlast).symm
  cases h with
  | idle hchange applied validity error unapplied =>
      exact .idle hchange (happlied.trans applied) (hvalidity.trans validity) (herror.trans error)
        (hunapplied unapplied)
  | awaiting hne first applied validity error unapplied =>
      refine .awaiting hne ?_ (happlied ▸ applied) (hvalidity.trans validity) (herror.trans error)
        (hunapplied unapplied)
      rw [List.find?_append, first, Option.none_or]
      exact List.find?_eq_none.mpr (List.forall_mem_singleton.mpr (by simp [hop applied]))
  | answered hne first applied outcome only =>
      refine .answered hne (by rw [List.find?_append, first, Option.some_or])
        (happlied.trans applied) (by rw [hvalidity, herror]; exact outcome) fun i => ?_
      have hfound : (since.findIdx? (·.bears id)).isSome := by
        rw [List.findIdx?_isSome, List.any_eq_true]
        exact ⟨_, List.mem_of_find?_eq_some first, List.find?_some first⟩
      obtain ⟨place, hplace⟩ := Option.isSome_iff_exists.mp hfound
      rw [applied_concat, only, List.findIdx?_append, hplace, Option.some_or]
      exact or_iff_left fun hlast => hmark hlast.2

/-- A reply under the last id is applied while an answer is awaited. -/
theorem settle (h : Standing id since d dispositions change) (hopen : d.applied < id)
    (hlength : dispositions.length = since.length) {validity : Validity} {error : Option String}
    (houtcome : op.outcome? = some ⟨id, validity, error⟩) :
    Standing id (since ++ [op]) { d with applied := id, validity, error }
      (dispositions ++ [some .applied]) change := by
  have hbears : op.bears id := by simp [Operation.bears, houtcome]
  cases h with
  | idle _ applied | answered _ _ applied => exact absurd applied (Nat.ne_of_lt hopen)
  | awaiting hne first _ _ _ unapplied =>
      refine .answered hne ?_ rfl houtcome fun i => ?_
      · rw [List.find?_append, first, Option.none_or]
        exact List.find?_cons_of_pos hbears
      · have hmem : ∀ i : Nat, dispositions[i]? ≠ some (some .applied) := fun i hi =>
          unapplied (List.mem_of_getElem? hi)
        rw [applied_concat, List.findIdx?_append, findIdx?_of_find? first, Option.none_or]
        simp [hmem, hbears, List.findIdx?_cons, hlength, eq_comm]

end Standing

/-! ### The draft -/

/-- The draft is what its operations tell of it, from the opening on; the dispositions are those
since the last change of the text. -/
structure Recounts (saved : Option SavedFilter) (maySave : Bool) (ops : List Operation) (d : Draft)
    (dispositions : List (Option Disposition)) : Prop where
  issued : d.issued = (changes ops).length
  applied_le : d.applied ≤ d.issued
  place : (d.text, d.cursor) =
    (changes ops).getLast?.getD ((opening saved maySave).text, (opening saved maySave).cursor)
  name : d.name = (lastName? ops).getD (opening saved maySave).name
  saved_eq : d.saved = saved
  maySave_eq : d.maySave = maySave
  length : dispositions.length = (sinceChange ops).length
  standing : Standing (changes ops).length (sinceChange ops) d dispositions (changes ops).getLast?

namespace Recounts
variable {saved : Option SavedFilter} {maySave : Bool}

theorem opening : Recounts saved maySave [] (.opening saved maySave) [] := by
  cases saved <;>
    exact ⟨rfl, Nat.le_refl _, rfl, rfl, rfl, rfl, rfl, .idle nofun rfl rfl rfl nofun⟩

/-- A draft that differs in what is known of the query, and in the name if one was given, is what
the operations tell with one more that is no change of the text. -/
theorem keep (h : Recounts saved maySave ops d dispositions) (hop : op.change? = none)
    {name : String} {applied : RequestId} {validity : Validity} {error : Option String}
    (hname : name = op.name?.getD d.name) (hle : applied ≤ d.issued)
    (hstanding : Standing (changes ops).length (sinceChange ops ++ [op])
      { d with name, applied, validity, error } (dispositions ++ [mark]) (changes ops).getLast?) :
    Recounts saved maySave (ops ++ [op]) { d with name, applied, validity, error }
      (dispositions ++ [mark]) := by
  have hchanges : changes (ops ++ [op]) = changes ops := by
    rw [changes_concat, hop]
    exact List.append_nil _
  have hsince := sinceChange_concat ops hop
  refine ⟨?_, hle, ?_, ?_, h.saved_eq, h.maySave_eq, ?_, ?_⟩
  · rw [hchanges]
    exact h.issued
  · rw [hchanges]
    exact h.place
  · rw [hname, lastName?_concat, h.name]
    cases op.name? <;> rfl
  · rw [hsince, List.length_append, List.length_append, h.length]
    rfl
  · rw [hchanges, hsince]
    exact hstanding

/-- A draft with another text and the next id is what the operations tell with a change to it. -/
theorem restart (h : Recounts saved maySave ops d dispositions) {text : String} {cursor : Nat}
    {applied : RequestId} {validity : Validity} {error : Option String}
    (hle : applied ≤ d.issued + 1)
    (hstanding : Standing (d.issued + 1) []
      { d with text, cursor, issued := d.issued + 1, applied, validity, error } []
      (some (text, cursor))) :
    Recounts saved maySave (ops ++ [.edit text cursor])
      { d with text, cursor, issued := d.issued + 1, applied, validity, error } [] := by
  have hchanges : changes (ops ++ [.edit text cursor]) = changes ops ++ [(text, cursor)] :=
    changes_concat ops _
  have hlength : (changes (ops ++ [.edit text cursor])).length = d.issued + 1 := by
    rw [hchanges, List.length_append, h.issued]
    rfl
  refine ⟨hlength.symm, hle, ?_, ?_, h.saved_eq, h.maySave_eq, ?_, ?_⟩
  · rw [hchanges, List.getLast?_concat]
    rfl
  · rw [lastName?_concat]
    exact h.name
  · rw [sinceChange_concat_edit]
    rfl
  · rw [hlength, hchanges, List.getLast?_concat, sinceChange_concat_edit]
    exact hstanding

/-- A change of the text starts over. -/
theorem edit (h : Recounts saved maySave ops d dispositions)
    (hroom : (changes ops).length + 1 < offsetLimit) (text : String) (cursor : Nat) :
    ∃ d', d.perform (.edit text cursor) = .ok (d', none) ∧
      Recounts saved maySave (ops ++ [.edit text cursor]) d' [] := by
  have hedit := edit_of_lt (h.issued ▸ hroom : d.issued + 1 < offsetLimit) text cursor
  by_cases hempty : text = ""
  · subst hempty
    rw [if_pos rfl] at hedit
    refine ⟨d.cleared cursor, by simp only [perform, hedit]; rfl, h.restart (Nat.le_refl _) ?_⟩
    exact .idle (fun place hplace => by cases hplace; rfl) rfl rfl rfl nofun
  · rw [if_neg hempty] at hedit
    refine ⟨d.retyped text cursor, by simp only [perform, hedit]; rfl,
      h.restart (Nat.le_succ_of_le h.applied_le) ?_⟩
    exact .awaiting hempty rfl (Nat.lt_succ_of_le h.applied_le) rfl rfl nofun

theorem rename (h : Recounts saved maySave ops d dispositions) (name : String) :
    Recounts saved maySave (ops ++ [.rename name]) (d.rename name) (dispositions ++ [none]) :=
  h.keep rfl rfl h.applied_le (h.standing.skip rfl rfl rfl (fun _ => rfl) nofun)

/-- A reply is applied if it is the first one under the last id that is awaited, and else it is
stale. -/
theorem reply (h : Recounts saved maySave ops d dispositions)
    (houtcome : op.outcome? = some outcome) :
    ∃ d' disposition, d.perform op = .ok (d', some disposition) ∧
      Recounts saved maySave (ops ++ [op]) d' (dispositions ++ [some disposition]) := by
  have hnone : op.change? = none ∧ d.name = op.name?.getD d.name := by
    cases op with
    | edit | rename => cases houtcome
    | answer | giveUp => exact ⟨rfl, rfl⟩
  rw [perform_reply houtcome]
  by_cases haccepts : d.accepts outcome.id
  · obtain ⟨hid, hopen⟩ := accepts_iff.mp haccepts
    obtain ⟨id, validity, error⟩ := outcome
    obtain rfl : id = (changes ops).length := hid.trans h.issued
    exact ⟨_, .applied, by rw [if_pos haccepts],
      h.keep hnone.1 hnone.2 (Nat.le_of_eq hid) (h.standing.settle hopen h.length houtcome)⟩
  · refine ⟨d, .stale, by rw [if_neg haccepts],
      h.keep hnone.1 hnone.2 h.applied_le (h.standing.skip rfl rfl rfl (fun hopen => ?_) nofun)⟩
    rw [Operation.bears, houtcome, Option.any_some, beq_eq_false_iff_ne]
    intro hid
    exact haccepts (accepts_iff.mpr ⟨hid.trans h.issued.symm, hid ▸ hopen⟩)

/-- Whatever is no change of the text adds to what happened since the last one. -/
theorem next (h : Recounts saved maySave ops d dispositions) (hop : op.change? = none) :
    ∃ d' disposition, d.perform op = .ok (d', disposition) ∧
      Recounts saved maySave (ops ++ [op]) d' (dispositions ++ [disposition]) := by
  cases houtcome : op.outcome? with
  | some outcome =>
      obtain ⟨d', disposition, hperform, h'⟩ := h.reply houtcome
      exact ⟨d', some disposition, hperform, h'⟩
  | none =>
      cases op with
      | edit => cases hop
      | rename name => exact ⟨d.rename name, none, rfl, h.rename name⟩
      | answer | giveUp => cases houtcome

end Recounts

/-- A draft is what its operations tell, as long as their changes of the text do not use up the ids.
The dispositions are split at the last change. -/
theorem recounts_all (saved : Option SavedFilter) (maySave : Bool) (ops : List Operation)
    (hids : (changes ops).length < offsetLimit) :
    ∃ d earlier since, (opening saved maySave).performAll ops = .ok (d, earlier ++ since) ∧
      earlier.length + since.length = ops.length ∧ Recounts saved maySave ops d since := by
  induction ops using List.reverseRecOn with
  | nil => exact ⟨_, [], [], rfl, rfl, .opening⟩
  | append_singleton ops op ih =>
      rw [changes_concat, List.length_append] at hids
      obtain ⟨d, earlier, since, hall, hlength, h⟩ :=
        ih (Nat.lt_of_le_of_lt (Nat.le_add_right ..) hids)
      cases hop : op.change? with
      -- a change of the text puts what came before it behind
      | some place =>
          cases op with
          | edit text cursor =>
              obtain ⟨d', hedit, h'⟩ := h.edit hids text cursor
              refine ⟨d', earlier ++ since ++ [none], [], ?_, ?_, h'⟩
              · rw [List.append_nil]
                exact performAll_concat hall hedit
              · rw [List.length_append, List.length_append, hlength, List.length_append]
                rfl
          | rename | answer | giveUp => cases hop
      | none =>
          obtain ⟨d', disposition, hperform, h'⟩ := h.next hop
          refine ⟨d', earlier, since ++ [disposition], ?_, ?_, h'⟩
          · rw [← List.append_assoc]
            exact performAll_concat hall hperform
          · rw [List.length_append, ← Nat.add_assoc, hlength, List.length_append]
            rfl

/-! ### The theorem -/

/-- **A draft in closed form.**  Take any operations on a draft, from its opening on, whose changes
of the text do not use up the ids.  None of them is a fault.  Then:

* the last id issued is the number of changes; text and cursor are those of the last change, and the
  name is the last one given, if there are any, and else those of the opening;
* without a change, no reply was applied and nothing is known of the query;
* after a change to the empty text, its id is applied, nothing is known of the query, and no reply
  was applied since;
* after any other change, the reply that was applied since is the first one under the last id, and
  no other.  What is known of the query is what comes of it; and until there is one, an answer is
  awaited.

A reply that is stale leaves any draft as it was. -/
theorem recounted (saved : Option SavedFilter) (maySave : Bool) (ops : List Operation)
    (hids : (changes ops).length < offsetLimit) :
    (∃ d earlier since, (opening saved maySave).performAll ops = .ok (d, earlier ++ since) ∧
      earlier.length + since.length = ops.length ∧ since.length = (sinceChange ops).length ∧
      d.issued = (changes ops).length ∧
      (d.text, d.cursor) =
        (changes ops).getLast?.getD ((opening saved maySave).text, (opening saved maySave).cursor) ∧
      d.name = (lastName? ops).getD (opening saved maySave).name ∧
      d.saved = saved ∧ d.maySave = maySave ∧
      (changes ops = [] → d.applied = 0 ∧ d.validity = .unknown ∧ d.error = none ∧
        some .applied ∉ earlier ++ since) ∧
      (∀ cursor, (changes ops).getLast? = some ("", cursor) →
        d.applied = (changes ops).length ∧ d.validity = .unknown ∧ d.error = none ∧
          some .applied ∉ since) ∧
      ∀ text cursor, (changes ops).getLast? = some (text, cursor) → text ≠ "" →
        (∀ i, since[i]? = some (some .applied) ↔
          (sinceChange ops).findIdx? (·.bears (changes ops).length) = some i) ∧
        ((sinceChange ops).find? (·.bears (changes ops).length) = none →
          d.applied < (changes ops).length ∧ d.validity = .validating ∧ d.error = none) ∧
        ∀ op, (sinceChange ops).find? (·.bears (changes ops).length) = some op →
          d.applied = (changes ops).length ∧
            op.outcome? = some ⟨(changes ops).length, d.validity, d.error⟩) ∧
    ∀ (d d' : Draft) (op : Operation), d.perform op = .ok (d', some .stale) → d' = d := by
  refine ⟨?_, fun d d' op => perform_stale⟩
  obtain ⟨d, earlier, since, hall, hlength, h⟩ := recounts_all saved maySave ops hids
  have hstanding := h.standing
  refine ⟨d, earlier, since, hall, hlength, h.length, h.issued, h.place, h.name, h.saved_eq,
    h.maySave_eq, fun hnone => ?_, fun cursor hlast => ?_, fun text cursor hlast hne => ?_⟩
  · have hsince : sinceChange ops = ops := List.rtakeWhile_eq_self_iff.mpr fun op hmem => by
      rw [List.filterMap_eq_nil_iff.mp hnone op hmem]
      rfl
    have hearlier : earlier = [] := by
      rw [h.length, hsince, Nat.add_eq_right] at hlength
      exact List.eq_nil_of_length_eq_zero hlength
    rw [hnone, List.getLast?_nil] at hstanding
    cases hstanding with
    | idle _ applied validity error unapplied =>
        rw [hearlier, List.nil_append]
        exact ⟨applied, validity, error, unapplied⟩
  · rw [hlast] at hstanding
    cases hstanding with
    | idle _ applied validity error unapplied => exact ⟨applied, validity, error, unapplied⟩
    | awaiting hne | answered hne => exact absurd rfl hne
  · rw [hlast] at hstanding
    cases hstanding with
    | idle hchange => exact absurd (hchange _ rfl) hne
    | awaiting _ first applied validity error unapplied =>
        refine ⟨fun i => ⟨fun hi => absurd (List.mem_of_getElem? hi) unapplied, fun hi => ?_⟩,
          fun _ => ⟨applied, validity, error⟩, fun op hop => ?_⟩
        · rw [findIdx?_of_find? first] at hi
          cases hi
        · rw [first] at hop
          cases hop
    | answered _ first applied outcome only =>
        refine ⟨only, fun hnone => ?_, fun op hop => ?_⟩
        · rw [first] at hnone
          cases hnone
        · rw [first] at hop
          cases hop
          exact ⟨applied, outcome⟩

end

/-! ### A reply that comes twice -/

/-- A query that the oracle answers and then gives up. -/
def repliedOps : List Operation :=
  [.giveUp 0, .edit "a" 1, .answer 2 .accepted, .answer 1 ⟨.syntaxError, "message", []⟩, .giveUp 1,
    .rename "name"]

/-- The answer under the last id counts, and neither the one that no request asked for nor the one
that comes after it. -/
theorem recounted_replied :
    ∃ d earlier since,
      (opening none true).performAll repliedOps = .ok (d, earlier ++ since) ∧ d.issued = 1 ∧
      d.name = "name" ∧ d.applied = 1 ∧ d.validity = .invalid ∧ d.error = some "message" ∧
      since[1]? = some (some .applied) ∧ since[3]? ≠ some (some .applied) := by
  obtain ⟨⟨d, earlier, since, hall, -, -, hissued, -, hname, -, -, -, -, hchanged⟩, -⟩ :=
    recounted none true repliedOps (by decide)
  obtain ⟨hmarks, -, hfirst⟩ := hchanged "a" 1 rfl (by decide)
  obtain ⟨happlied, houtcome⟩ := hfirst _ rfl
  obtain ⟨-, hvalidity, herror⟩ := Outcome.mk.inj (Option.some.inj houtcome)
  refine ⟨d, earlier, since, hall, hissued, hname, happlied, hvalidity.symm, herror.symm,
    (hmarks 1).mpr (by decide), fun hlater => ?_⟩
  exact absurd ((hmarks 3).mp hlater) (by decide)

end Draft
end FilterEditor
