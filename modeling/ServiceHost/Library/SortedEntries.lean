import Mathlib.Order.Lattice
import Mathlib.Order.Defs.LinearOrder
import Mathlib.Order.Basic
import Mathlib.Data.List.Pairwise
import Mathlib.Data.List.Basic

/-!
Association lists with strictly increasing keys. They are the contents of a
sorted dictionary, whatever the dictionary is made of inside.
-/

namespace ServiceHost.Library

structure SortedEntries (K V : Type) [LinearOrder K] where
  entries : List (K × V)
  sorted : entries.Pairwise fun first second => first.1 < second.1

namespace SortedEntries

variable {K V : Type} [LinearOrder K]

@[ext] theorem ext {first second : SortedEntries K V} (same : first.entries = second.entries) :
    first = second := by
  cases first
  cases second
  simp_all

instance [DecidableEq V] : DecidableEq (SortedEntries K V) := fun first second =>
  decidable_of_iff (first.entries = second.entries) ⟨ext, fun same => same ▸ rfl⟩

def empty : SortedEntries K V := ⟨[], List.Pairwise.nil⟩

instance : Inhabited (SortedEntries K V) := ⟨empty⟩

def count (table : SortedEntries K V) : Nat := table.entries.length

def keys (table : SortedEntries K V) : List K := table.entries.map Prod.fst

def values (table : SortedEntries K V) : List V := table.entries.map Prod.snd

def find? (table : SortedEntries K V) (key : K) : Option V :=
  (table.entries.find? fun entry => entry.1 = key).map Prod.snd

def contains (table : SortedEntries K V) (key : K) : Bool :=
  table.entries.any fun entry => entry.1 = key

def put (key : K) (value : V) : List (K × V) → List (K × V)
  | [] => [(key, value)]
  | entry :: rest =>
      if key < entry.1 then (key, value) :: entry :: rest
      else if key = entry.1 then (key, value) :: rest
      else entry :: put key value rest

theorem mem_put {key : K} {value : V} {entry : K × V} {entries : List (K × V)}
    (member : entry ∈ put key value entries) : entry = (key, value) ∨ entry ∈ entries := by
  induction entries with
  | nil => simpa [put] using member
  | cons first rest ih =>
      simp only [put] at member
      split at member
      · simpa using member
      · split at member
        · rcases List.mem_cons.mp member with same | later
          · exact Or.inl same
          · exact Or.inr (List.mem_cons_of_mem _ later)
        · rcases List.mem_cons.mp member with same | later
          · exact Or.inr (by simp [same])
          · exact (ih later).imp_right (List.mem_cons_of_mem _)

theorem put_sorted (key : K) (value : V) {entries : List (K × V)}
    (sorted : entries.Pairwise fun first second => first.1 < second.1) :
    (put key value entries).Pairwise fun first second => first.1 < second.1 := by
  induction entries with
  | nil => simp [put]
  | cons first rest ih =>
      have parts := List.pairwise_cons.mp sorted
      simp only [put]
      split
      · rename_i smaller
        refine List.pairwise_cons.mpr ⟨?_, sorted⟩
        intro other member
        rcases List.mem_cons.mp member with same | later
        · exact same ▸ smaller
        · exact lt_trans smaller (parts.1 other later)
      · split
        · rename_i equal
          exact List.pairwise_cons.mpr ⟨fun other member => equal ▸ parts.1 other member, parts.2⟩
        · rename_i notSmaller different
          refine List.pairwise_cons.mpr ⟨?_, ih parts.2⟩
          intro other member
          rcases mem_put member with same | later
          · rw [same]
            exact lt_of_le_of_ne (not_lt.mp notSmaller) (Ne.symm different)
          · exact parts.1 other later

def set (table : SortedEntries K V) (key : K) (value : V) : SortedEntries K V :=
  ⟨put key value table.entries, put_sorted key value table.sorted⟩

def removeAt (table : SortedEntries K V) (index : Nat) : SortedEntries K V :=
  ⟨table.entries.eraseIdx index, table.sorted.sublist (List.eraseIdx_sublist _ _)⟩

def modifyAt (table : SortedEntries K V) (index : Nat) (change : V → V) : SortedEntries K V :=
  ⟨table.entries.modify index fun entry => (entry.1, change entry.2), by
    have keysKept : (table.entries.modify index fun entry => (entry.1, change entry.2)).map Prod.fst =
        table.entries.map Prod.fst := by
      apply List.ext_getElem
      · simp
      · intro position _ _
        simp only [List.getElem_map, List.getElem_modify]
        split <;> rfl
    have sorted := List.pairwise_map.mpr table.sorted
    rw [← keysKept] at sorted
    exact List.pairwise_map.mp sorted⟩

theorem entry_unique {table : SortedEntries K V} {first second : K × V} (found : first ∈ table.entries)
    (other : second ∈ table.entries) (same : first.1 = second.1) : first = second := by
  obtain ⟨entries, sorted⟩ := table
  induction entries with
  | nil => cases found
  | cons head rest ih =>
      obtain ⟨below, restSorted⟩ := List.pairwise_cons.mp sorted
      rcases List.mem_cons.mp found with foundHead | foundRest
      · rcases List.mem_cons.mp other with otherHead | otherRest
        · exact foundHead.trans otherHead.symm
        · exact absurd (foundHead ▸ same) (ne_of_lt (below second otherRest))
      · rcases List.mem_cons.mp other with otherHead | otherRest
        · exact absurd (otherHead ▸ same.symm) (ne_of_lt (below first foundRest))
        · exact ih restSorted foundRest otherRest

theorem put_append {key : K} (value : V) {before after : List (K × V)}
    (below : ∀ entry ∈ before, entry.1 < key) :
    put key value (before ++ after) = before ++ put key value after := by
  induction before with
  | nil => rfl
  | cons entry rest ih =>
      have smaller := below entry (by simp)
      simp only [List.cons_append, put, not_lt.mpr (le_of_lt smaller), if_false, ne_of_gt smaller]
      rw [ih fun other member => below other (by simp [member])]

theorem put_of_below {key : K} (value : V) {entries : List (K × V)}
    (above : ∀ entry ∈ entries, key < entry.1) : put key value entries = (key, value) :: entries := by
  cases entries with
  | nil => rfl
  | cons entry rest => simp [put, above entry (by simp)]

theorem put_perm {key : K} (value : V) {entries : List (K × V)}
    (fresh : ∀ entry ∈ entries, key ≠ entry.1) :
    (put key value entries).Perm ((key, value) :: entries) := by
  induction entries with
  | nil => exact List.Perm.refl _
  | cons entry rest ih =>
      simp only [put, fresh entry (by simp), if_false]
      split
      · exact List.Perm.refl _
      · exact ((ih fun other member => fresh other (by simp [member])).cons entry).trans
          (List.Perm.swap _ _ _)

theorem contains_eq_false_iff {table : SortedEntries K V} {key : K} :
    table.contains key = false ↔ ∀ entry ∈ table.entries, key ≠ entry.1 := by
  simp only [contains, List.any_eq_false, decide_eq_true_eq]
  exact forall₂_congr fun _ _ => ne_comm

end SortedEntries

end ServiceHost.Library
