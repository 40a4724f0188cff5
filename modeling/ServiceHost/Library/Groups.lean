import Mathlib.Data.List.Perm.Basic
import Mathlib.Data.List.Nodup

/-!
Sending items to groups by a key, one after the other: every item ends up in
exactly one group, and a group keeps the order of its items.
-/

namespace ServiceHost.Library

variable {K A : Type} [DecidableEq K]

/-- Puts an item behind the others of its group, which is opened last when it is new. -/
def place (key : K) (item : A) : List (K × List A) → List (K × List A)
  | [] => [(key, [item])]
  | group :: rest =>
      if group.1 = key then (key, group.2 ++ [item]) :: rest else group :: place key item rest

/-- The groups hold the items: no key twice, and behind each key the items that have it. -/
structure Grouped (key : A → K) (items : List A) (groups : List (K × List A)) : Prop where
  keys : (groups.map Prod.fst).Nodup
  filter : ∀ group ∈ groups, group.2 = items.filter fun item => key item = group.1
  inhabited : ∀ group ∈ groups, group.2 ≠ []
  perm : (groups.flatMap Prod.snd).Perm items

theorem place_keys (key : K) (item : A) (groups : List (K × List A)) :
    (place key item groups).map Prod.fst =
      if key ∈ groups.map Prod.fst then groups.map Prod.fst else groups.map Prod.fst ++ [key] := by
  induction groups with
  | nil => rfl
  | cons group rest ih =>
      by_cases same : group.1 = key
      · simp [place, same]
      · have different : key ≠ group.1 := Ne.symm same
        simp only [place, same, if_false, List.map_cons, ih, List.mem_cons, different, false_or]
        split <;> simp

theorem mem_place {key : K} {item : A} {groups : List (K × List A)} {group : K × List A}
    (nodup : (groups.map Prod.fst).Nodup) (member : group ∈ place key item groups) :
    group ∈ groups ∧ group.1 ≠ key ∨
      group.1 = key ∧ ∃ earlier, group.2 = earlier ++ [item] ∧
        ((key, earlier) ∈ groups ∨ earlier = [] ∧ key ∉ groups.map Prod.fst) := by
  induction groups with
  | nil =>
      simp only [place, List.mem_singleton] at member
      subst member
      exact Or.inr ⟨rfl, [], rfl, Or.inr ⟨rfl, by simp⟩⟩
  | cons first rest ih =>
      obtain ⟨fresh, restNodup⟩ := List.nodup_cons.mp nodup
      simp only [place] at member
      split at member
      · rename_i same
        rcases List.mem_cons.mp member with head | tail
        · subst head
          refine Or.inr ⟨rfl, first.2, rfl, Or.inl ?_⟩
          rw [← same]
          exact List.mem_cons_self
        · refine Or.inl ⟨List.mem_cons_of_mem _ tail, ?_⟩
          intro again
          exact fresh (List.mem_map.mpr ⟨group, tail, again.trans same.symm⟩)
      · rename_i different
        rcases List.mem_cons.mp member with head | tail
        · subst head
          exact Or.inl ⟨List.mem_cons_self, different⟩
        · rcases ih restNodup tail with ⟨old, other⟩ | ⟨own, earlier, split, cases⟩
          · exact Or.inl ⟨List.mem_cons_of_mem _ old, other⟩
          · refine Or.inr ⟨own, earlier, split, ?_⟩
            rcases cases with old | ⟨none, absent⟩
            · exact Or.inl (List.mem_cons_of_mem _ old)
            · refine Or.inr ⟨none, ?_⟩
              intro present
              rcases List.mem_cons.mp present with same | later
              · exact different same.symm
              · exact absent later

theorem place_perm (key : K) (item : A) (groups : List (K × List A)) :
    ((place key item groups).flatMap Prod.snd).Perm (groups.flatMap Prod.snd ++ [item]) := by
  induction groups with
  | nil => exact List.Perm.refl _
  | cons group rest ih =>
      simp only [place]
      split
      · simp only [List.flatMap_cons, List.append_assoc]
        exact (List.perm_append_comm).append_left group.2
      · simp only [List.flatMap_cons, List.append_assoc]
        exact ih.append_left group.2

theorem Grouped.nil (key : A → K) : Grouped key [] [] :=
  ⟨List.nodup_nil, by simp, by simp, List.Perm.refl _⟩

theorem Grouped.step {key : A → K} {items : List A} {groups : List (K × List A)}
    (grouped : Grouped key items groups) (item : A) :
    Grouped key (items ++ [item]) (place (key item) item groups) := by
  have complete : ∀ other ∈ items, key other ∈ groups.map Prod.fst := by
    intro other member
    obtain ⟨group, found, inside⟩ := List.mem_flatMap.mp (grouped.perm.mem_iff.mpr member)
    rw [grouped.filter group found] at inside
    have same := of_decide_eq_true (List.mem_filter.mp inside).2
    exact same ▸ List.mem_map_of_mem found
  refine ⟨?_, ?_, ?_, ?_⟩
  · rw [place_keys]
    split
    · exact grouped.keys
    · rename_i fresh
      refine List.nodup_append.mpr ⟨grouped.keys, List.nodup_singleton _, ?_⟩
      intro other member another single same
      rw [List.mem_singleton.mp single] at same
      exact fresh (same ▸ member)
  · intro group member
    rw [List.filter_append]
    rcases mem_place grouped.keys member with ⟨old, other⟩ | ⟨own, earlier, split, cases⟩
    · simp [grouped.filter group old, Ne.symm other]
    · rw [split, own]
      rcases cases with old | ⟨none, absent⟩
      · have kept := grouped.filter _ old
        simp only at kept
        simp [kept]
      · have empty : items.filter (fun other => key other = key item) = [] := by
          rw [List.filter_eq_nil_iff]
          intro other found
          simp only [decide_eq_true_eq]
          intro same
          exact absent (same ▸ complete other found)
        simp [none, empty]
  · intro group member
    rcases mem_place grouped.keys member with ⟨old, _⟩ | ⟨_, earlier, split, _⟩
    · exact grouped.inhabited group old
    · simp [split]
  · exact (place_perm _ _ _).trans (grouped.perm.append_right [item])

theorem Grouped.exists_group {key : A → K} {items : List A} {groups : List (K × List A)}
    (grouped : Grouped key items groups) {item : A} (member : item ∈ items) :
    ∃ group ∈ groups, group.1 = key item ∧ item ∈ group.2 := by
  obtain ⟨group, found, inside⟩ := List.mem_flatMap.mp (grouped.perm.mem_iff.mpr member)
  have kept := inside
  rw [grouped.filter group found] at kept
  exact ⟨group, found, (of_decide_eq_true (List.mem_filter.mp kept).2).symm, inside⟩

theorem Grouped.mem_iff {key : A → K} {items : List A} {groups : List (K × List A)}
    (grouped : Grouped key items groups) {group : K × List A} (found : group ∈ groups) {item : A} :
    item ∈ group.2 ↔ item ∈ items ∧ key item = group.1 := by
  rw [grouped.filter group found, List.mem_filter, decide_eq_true_eq]

theorem flatMap_filter_perm {key : A → K} {keys : List K} (distinct : keys.Nodup) {items : List A}
    (known : ∀ item ∈ items, key item ∈ keys) :
    (keys.flatMap fun k => items.filter fun item => key item = k).Perm items := by
  induction keys generalizing items with
  | nil =>
      have empty : items = [] := List.eq_nil_iff_forall_not_mem.mpr fun item member => by
        simpa using known item member
      rw [empty]
      exact List.Perm.refl _
  | cons first rest ih =>
      obtain ⟨fresh, restDistinct⟩ := List.nodup_cons.mp distinct
      have others : ∀ item ∈ items.filter (fun item => !decide (key item = first)), key item ∈ rest := by
        intro item member
        obtain ⟨inside, other⟩ := List.mem_filter.mp member
        rcases List.mem_cons.mp (known item inside) with same | later
        · simp [same] at other
        · exact later
      have skipped : (rest.flatMap fun k => items.filter fun item => key item = k) =
          rest.flatMap fun k => (items.filter fun item => !decide (key item = first)).filter fun item => key item = k := by
        refine List.flatMap_congr fun k member => ?_
        rw [List.filter_filter]
        refine List.filter_congr fun item _ => ?_
        have different : k ≠ first := fun same => fresh (same ▸ member)
        by_cases same : key item = k
        · simp [same, different]
        · simp [same]
      rw [List.flatMap_cons, skipped]
      exact ((ih restDistinct others).append_left _).trans
        (List.filter_append_perm (fun item => decide (key item = first)) items)

end ServiceHost.Library
