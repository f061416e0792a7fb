import FilterEditor.Token
import Mathlib.Data.Fintype.Card
import Mathlib.Data.List.Nodup

/-!
# Proofs — Enumeration

A token table is read in two ways: terminal by terminal (`literal?`), and all at once (`entries`).  A
list enumerates the table (`TokenTable.Enumerates`) if it gives each literal the terminal under which
it is looked up, and the terminals ascend.

There are 2^16 terminals, and no bound on the literals.  A table with a terminal for each of its
literals is enumerated by its entries and by nothing else; one with more is enumerated by no list
(`entries_enumerate_iff`).  Its entries start again from terminal 0 and so list a literal under the
terminal of another (`literal_misnumbered`).
-/

namespace FilterEditor
namespace TokenTable

/-- The list numbers the literals in ascending order, each as it is looked up, and leaves out none. -/
structure Enumerates (table : TokenTable) (es : List (Terminal × String)) : Prop where
  length_eq : es.length = table.size
  ascending : (es.map (·.1)).Pairwise (· < ·)
  found : ∀ e ∈ es, table.literal? e.1 = some e.2
  literals_eq : es.map (·.2) = table.literals
  listed : ∀ t text, table.literal? t = some text → (t, text) ∈ es

/-- Ascending terminals run out after 2^16. -/
theorem length_le_of_ascending {ts : List Terminal} (h : ts.Pairwise (· < ·)) :
    ts.length ≤ UInt16.size := by
  have hnodup : (ts.map UInt16.toFin).Nodup :=
    List.pairwise_map.mpr (h.imp fun hlt heq => UInt16.ne_of_lt hlt (UInt16.toFin_inj.mp heq))
  simpa using hnodup.length_le_card

section
variable {table : TokenTable} {es es' : List (Terminal × String)} {t : Terminal} {text : String}

namespace Enumerates

theorem size_le (h : table.Enumerates es) : table.size ≤ UInt16.size := by
  have hlength := length_le_of_ascending h.ascending
  rwa [List.length_map, h.length_eq] at hlength

theorem mem_iff (h : table.Enumerates es) : (t, text) ∈ es ↔ table.literal? t = some text :=
  ⟨h.found (t, text), h.listed t text⟩

theorem increasing (h : table.Enumerates es) : es.Pairwise fun e e' => e.1 < e'.1 :=
  List.pairwise_map.mp h.ascending

theorem nodup (h : table.Enumerates es) : es.Nodup :=
  h.increasing.imp fun hlt heq => UInt16.ne_of_lt hlt (congrArg Prod.fst heq)

/-- Look-ups and the order of the terminals leave no choice. -/
theorem unique (h : table.Enumerates es) (h' : table.Enumerates es') : es = es' := by
  have hperm : es.Perm es' := (List.perm_ext_iff_of_nodup h.nodup h'.nodup).mpr fun _ =>
    h.mem_iff.trans h'.mem_iff.symm
  exact hperm.eq_of_pairwise (fun _ _ _ _ hlt hgt => absurd hgt (UInt16.lt_asymm hlt))
    h.increasing h'.increasing

end Enumerates

/-! ### Entries -/

/-- What is looked up is listed, in a table of any size. -/
theorem mem_entries (h : table.literal? t = some text) : (t, text) ∈ table.entries :=
  mem_entries_iff.mpr ⟨t.toNat, h, UInt16.ofNat_toNat⟩

theorem map_fst_entries (table : TokenTable) :
    table.entries.map (·.1) = (List.range table.size).map UInt16.ofNat := by
  rw [entries, List.mapIdx_eq_zipIdx_map, List.map_map, size, List.range_eq_range',
    ← List.zipIdx_map_snd, List.map_map]
  rfl

theorem ascending_entries_iff :
    (table.entries.map (·.1)).Pairwise (· < ·) ↔ table.size ≤ UInt16.size := by
  constructor
  · intro h
    simpa [length_entries] using length_le_of_ascending h
  · intro hsize
    rw [map_fst_entries, List.pairwise_map]
    refine List.pairwise_lt_range.imp_of_mem fun {i j} _ hj hlt => ?_
    have hj : j < UInt16.size := (List.mem_range.mp hj).trans_le hsize
    rwa [UInt16.ofNat_lt_iff_lt (hlt.trans hj) hj]

/-- What is listed is looked up just if the literals come round again with the terminals. -/
theorem found_entries_iff :
    (∀ e ∈ table.entries, table.literal? e.1 = some e.2) ↔
      ∀ i text, table.literals[i]? = some text →
        table.literals[i % UInt16.size]? = some text := by
  constructor
  · intro h i text hi
    rw [← literal?_ofNat]
    exact h _ (mem_entries_iff.mpr ⟨i, hi, rfl⟩)
  · rintro h ⟨t, text⟩ he
    obtain ⟨i, hi, rfl⟩ := mem_entries_iff.mp he
    rw [literal?_ofNat]
    exact h i text hi

theorem enumerates_entries (hsize : table.size ≤ UInt16.size) :
    table.Enumerates table.entries where
  length_eq := length_entries table
  ascending := ascending_entries_iff.mpr hsize
  found := found_entries_iff.mpr fun i text hi => by
    have hlt : i < table.size := (List.getElem?_eq_some_iff.mp hi).1
    rwa [Nat.mod_eq_of_lt (hlt.trans_le hsize)]
  literals_eq := map_snd_entries table
  listed := fun _ _ => mem_entries

end

/-- **Entries and look-ups agree** just if there is a terminal for each literal, and then no other
list agrees with the look-ups.  Whatever their number, all the literals are listed, in order, and so
is all that is looked up.  In a larger table the terminals do not ascend, and what is listed is looked
up only if the literals come round again with the terminals. -/
theorem entries_enumerate_iff (table : TokenTable) :
    (table.Enumerates table.entries ↔ table.size ≤ UInt16.size) ∧
      (∀ es, table.Enumerates es → es = table.entries) ∧
      (table.entries.length = table.size ∧ table.entries.map (·.2) = table.literals ∧
        ∀ t text, table.literal? t = some text → (t, text) ∈ table.entries) ∧
      ((table.entries.map (·.1)).Pairwise (· < ·) ↔ table.size ≤ UInt16.size) ∧
      ((∀ e ∈ table.entries, table.literal? e.1 = some e.2) ↔
        ∀ i text, table.literals[i]? = some text →
          table.literals[i % UInt16.size]? = some text) := by
  have henumerates : table.Enumerates table.entries ↔ table.size ≤ UInt16.size :=
    ⟨Enumerates.size_le, enumerates_entries⟩
  have hunique : ∀ es, table.Enumerates es → es = table.entries := fun es h =>
    h.unique (henumerates.mpr h.size_le)
  exact ⟨henumerates, hunique,
    ⟨length_entries table, map_snd_entries table, fun _ _ => mem_entries⟩,
    ascending_entries_iff, found_entries_iff⟩

/-- Literals without text, and one with text after them. -/
def namedLast (n : Nat) : TokenTable where
  literals := List.replicate n "" ++ ["b"]
  endOfInput := 0
  selectorPair := (1, 2)

theorem size_namedLast (n : Nat) : (namedLast n).size = n + 1 := by
  simp [size, namedLast]

theorem first_namedLast {n : Nat} (hn : 0 < n) : (namedLast n).literals[0]? = some "" := by
  simp [namedLast, hn]

theorem last_namedLast (n : Nat) : (namedLast n).literals[n]? = some "b" := by
  simp [namedLast]

/-- The last table that is enumerated uses up the terminals. -/
theorem entries_enumerate_iff_full :
    let table := namedLast 65535
    table.Enumerates table.entries ∧ table.literal? 65535 = some "b" ∧
      (65535, "b") ∈ table.entries := by
  intro table
  obtain ⟨henumerates, -, ⟨-, -, hlisted⟩, -⟩ := entries_enumerate_iff table
  have hlast : table.literal? 65535 = some "b" := last_namedLast 65535
  exact ⟨henumerates.mpr (by rw [size_namedLast, UInt16.size]), hlast, hlisted _ _ hlast⟩

/-- The literal after the last terminal is listed under the first one, which is another's. -/
theorem literal_misnumbered :
    let table := namedLast UInt16.size
    (0, "b") ∈ table.entries ∧ table.literal? 0 = some "" ∧
      ¬ (table.entries.map (·.1)).Pairwise (· < ·) ∧ ¬ table.Enumerates table.entries := by
  intro table
  have hlast : (0, "b") ∈ table.entries :=
    mem_entries_iff.mpr ⟨UInt16.size, last_namedLast _, UInt16.ofNat_size⟩
  have hfirst : table.literal? 0 = some "" := first_namedLast (by decide)
  have hlarge : ¬ table.size ≤ UInt16.size := by
    rw [size_namedLast]
    exact Nat.not_succ_le_self _
  exact ⟨hlast, hfirst, ascending_entries_iff.not.mpr hlarge, fun h => hlarge h.size_le⟩

end TokenTable
end FilterEditor
