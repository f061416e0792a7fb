import Mathlib.Data.List.Induction
import Mathlib.Data.List.Nodup
import Mathlib.Data.List.Perm.Basic

/-!
# Proofs — First occurrence

Lists without repeats, in order of first occurrence.  `FirstsOf g xs ys` says that `ys` holds what
`g` makes of the members of `xs`, each value where it first comes up.  There is one such list, and
erasing repeats gives it (`firstsOf_iff`).  Of `xs`, too, only the first occurrences matter
(`eraseDups_filterMap_eraseDups`).  Where no two members have the same key, a search for a key finds
the one member that has it (`find?_eq_some_iff_of_nodup`).
-/

namespace FilterEditor

theorem eraseDups_concat {α : Type} [DecidableEq α] (xs : List α) (x : α) :
    (xs ++ [x]).eraseDups = if x ∈ xs then xs.eraseDups else xs.eraseDups ++ [x] := by
  rw [List.eraseDups_append]
  split <;> simp [List.removeAll, List.eraseDups_cons, *]

/-- What `g` makes of the members of `xs`, each value once, in order of first occurrence. -/
structure FirstsOf {α β : Type} [DecidableEq β] (g : α → Option β) (xs : List α) (ys : List β) :
    Prop where
  mem_iff : ∀ b, b ∈ ys ↔ ∃ a ∈ xs, g a = some b
  inOrder : ys.Pairwise fun b c => xs.findIdx (g · == some b) < xs.findIdx (g · == some c)

section
variable {α β : Type} [DecidableEq β] {g : α → Option β} {xs : List α} {ys : List β}

/-- A value that has come up keeps its place. -/
theorem findIdx_concat_of_mem {b : β} (hb : b ∈ xs.filterMap g) (x : α) :
    (xs ++ [x]).findIdx (g · == some b) = xs.findIdx (g · == some b) := by
  have hlt : xs.findIdx (g · == some b) < xs.length := by simpa using hb
  rw [List.findIdx_append, if_pos hlt]

/-- A value that comes up for the first time has the last place. -/
theorem findIdx_concat_of_not_mem {c : β} {x : α} (hc : c ∉ xs.filterMap g) (hx : g x = some c) :
    (xs ++ [x]).findIdx (g · == some c) = xs.length := by
  have hle : ¬ xs.findIdx (g · == some c) < xs.length := by simpa using hc
  rw [List.findIdx_append, if_neg hle]
  simp [List.findIdx_cons, hx]

namespace FirstsOf

theorem nodup (h : FirstsOf g xs ys) : ys.Nodup :=
  h.inOrder.imp fun hlt heq => by simp [heq] at hlt

/-- The order of first occurrence leaves no choice. -/
theorem unique {ys' : List β} (h : FirstsOf g xs ys) (h' : FirstsOf g xs ys') : ys = ys' := by
  have hperm : ys.Perm ys' := (List.perm_ext_iff_of_nodup h.nodup h'.nodup).mpr fun b =>
    (h.mem_iff b).trans (h'.mem_iff b).symm
  exact hperm.eq_of_pairwise (fun b c _ _ hlt hgt => absurd hlt (Nat.lt_asymm hgt)) h.inOrder
    h'.inOrder

end FirstsOf

theorem pairwise_eraseDups_filterMap (g : α → Option β) (xs : List α) :
    (xs.filterMap g).eraseDups.Pairwise fun b c =>
      xs.findIdx (g · == some b) < xs.findIdx (g · == some c) := by
  induction xs using List.reverseRecOn with
  | nil => exact .nil
  | append_singleton xs x ih =>
      have hkept : (xs.filterMap g).eraseDups.Pairwise fun b c =>
          (xs ++ [x]).findIdx (g · == some b) < (xs ++ [x]).findIdx (g · == some c) :=
        ih.imp_of_mem fun hb hc hlt => by
          rwa [findIdx_concat_of_mem (List.mem_eraseDups.mp hb),
            findIdx_concat_of_mem (List.mem_eraseDups.mp hc)]
      cases hx : g x with
      | none => simpa [hx] using hkept
      | some c =>
          rw [List.filterMap_append, List.filterMap_cons_some hx, List.filterMap_nil,
            eraseDups_concat]
          split
          · exact hkept
          · next hc =>
              -- The new value goes to the end, and all the others have come up before it.
              refine List.pairwise_append.mpr ⟨hkept, List.pairwise_singleton .., fun b hb d hd => ?_⟩
              obtain rfl := List.mem_singleton.mp hd
              have hb := List.mem_eraseDups.mp hb
              rw [findIdx_concat_of_mem hb, findIdx_concat_of_not_mem hc hx]
              simpa using hb

/-- **Erasing repeats keeps first occurrences**, and is the only way to do so. -/
theorem firstsOf_iff : FirstsOf g xs ys ↔ ys = (xs.filterMap g).eraseDups := by
  have hfirsts : FirstsOf g xs (xs.filterMap g).eraseDups :=
    ⟨by simp, pairwise_eraseDups_filterMap g xs⟩
  exact ⟨fun h => h.unique hfirsts, fun h => h ▸ hfirsts⟩

theorem nodup_eraseDups (ys : List β) : ys.eraseDups.Nodup := by
  have hfirsts : FirstsOf some ys ys.eraseDups := firstsOf_iff.mpr (by rw [List.filterMap_some])
  exact hfirsts.nodup

/-- Only the first occurrences matter to what comes up first. -/
theorem eraseDups_filterMap_eraseDups [DecidableEq α] (g : α → Option β) (xs : List α) :
    (xs.eraseDups.filterMap g).eraseDups = (xs.filterMap g).eraseDups := by
  induction xs using List.reverseRecOn with
  | nil => rfl
  | append_singleton xs x ih =>
      rw [List.filterMap_append, eraseDups_concat]
      cases hx : g x with
      | none => split <;> simp [hx, ih]
      | some c =>
          rw [List.filterMap_cons_some hx, List.filterMap_nil, eraseDups_concat]
          split
          · next hmem =>
              have hc : c ∈ xs.filterMap g := List.mem_filterMap.mpr ⟨x, hmem, hx⟩
              rw [if_pos hc, ih]
          · rw [List.filterMap_append, List.filterMap_cons_some hx, List.filterMap_nil,
              eraseDups_concat, ih]
            simp

end

/-! ### Keys -/

section
variable {α κ : Type} [DecidableEq κ] {key : α → κ} {xs ys : List α}

theorem find?_eq_some_iff_of_nodup (h : (xs.map key).Nodup) {k : κ} {x : α} :
    xs.find? (key · == k) = some x ↔ x ∈ xs ∧ key x = k := by
  constructor
  · intro hfind
    exact ⟨List.mem_of_find?_eq_some hfind, by simpa using List.find?_some hfind⟩
  · rintro ⟨hx, rfl⟩
    have hfound : (xs.find? (key · == key x)).isSome := by
      rw [List.find?_isSome]
      exact ⟨x, hx, beq_self_eq_true _⟩
    obtain ⟨y, hy⟩ := Option.isSome_iff_exists.mp hfound
    have hsame : key y = key x := by simpa using List.find?_some hy
    rw [hy, List.inj_on_of_nodup_map h (List.mem_of_find?_eq_some hy) hx hsame]

/-- In any order the same member is found. -/
theorem find?_eq_of_perm (hperm : xs.Perm ys) (h : (xs.map key).Nodup) (k : κ) :
    xs.find? (key · == k) = ys.find? (key · == k) := by
  have h' : (ys.map key).Nodup := (hperm.map key).nodup_iff.mp h
  ext x
  rw [find?_eq_some_iff_of_nodup h, find?_eq_some_iff_of_nodup h', hperm.mem_iff]

end

end FilterEditor
