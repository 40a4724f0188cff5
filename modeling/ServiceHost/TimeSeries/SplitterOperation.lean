import ServiceHost.TimeSeries.TimeSeriesOperations

/-!
`SplitterOperation.Run` with an operator of any kind: the results are a partition of the points
by the names that the operator has assigned, one point after the other.
-/

namespace ServiceHost

open Library

namespace SplitterOperation

variable {D S : Type}

def assigned (findDestinationName : S → Tvq D → Option String × S) :
    List (Tvq D) → S → List (Tvq D × Option String)
  | [], _ => []
  | tvq :: rest, state =>
      (tvq, (findDestinationName state tvq).1) :: assigned findDestinationName rest (findDestinationName state tvq).2

def nameAt (pairs : List (Tvq D × Option String)) (time : LimitTime) : Option String :=
  match pairs with
  | [] => none
  | pair :: rest => if pair.1.limitTime = time then pair.2 else nameAt rest time

theorem nameAt_of_mem {pairs : List (Tvq D × Option String)}
    (distinct : (pairs.map fun pair => pair.1.limitTime).Nodup) {pair : Tvq D × Option String} (member : pair ∈ pairs) :
    nameAt pairs pair.1.limitTime = pair.2 := by
  induction pairs with
  | nil => cases member
  | cons first rest ih =>
      obtain ⟨fresh, distinctRest⟩ := List.nodup_cons.mp distinct
      rcases List.mem_cons.mp member with rfl | later
      · exact if_pos rfl
      · have other : first.1.limitTime ≠ pair.1.limitTime := by
          intro same
          exact fresh (List.mem_map.mpr ⟨pair, later, same.symm⟩)
        rw [nameAt, if_neg other]
        exact ih distinctRest later

theorem map_assigned (findDestinationName : S → Tvq D → Option String × S) (tvqs : List (Tvq D)) (state : S) :
    (assigned findDestinationName tvqs state).map Prod.fst = tvqs := by
  induction tvqs generalizing state with
  | nil => rfl
  | cons tvq rest ih => rw [assigned, List.map_cons, ih]

theorem times_nodup (source : TimeSeries D) : (source.tvqs.map Tvq.limitTime).Nodup := by
  have sorted : (source.points.entries.map Prod.fst).Pairwise fun first second => first < second :=
    List.pairwise_map.mpr source.points.sorted
  rw [TimeSeries.tvqs, List.map_map]
  exact sorted.imp fun earlier => ne_of_lt earlier

structure Partitions (source : TimeSeries D) (pairs : List (Tvq D × Option String)) (result : List (TimeSeries D)) :
    Prop where
  names : (result.map TimeSeries.name).Nodup
  own : ∀ ts ∈ result, ts.tvqs = (pairs.filter fun pair => pair.2 = ts.name).map Prod.fst
  inhabited : ∀ ts ∈ result, ts.tvqs ≠ []
  exactlyOne : ∀ pair ∈ pairs, ∃! ts, ts ∈ result ∧ pair.1 ∈ ts.tvqs
  assignedName : ∀ pair ∈ pairs, ∀ ts ∈ result, pair.1 ∈ ts.tvqs → ts.name = pair.2
  resolution : ∀ ts ∈ result, ts.resolution = source.resolution

theorem run_partitions (findDestinationName : S → Tvq D → Option String × S) (source : TimeSeries D) (state : S) :
    (assigned findDestinationName source.tvqs state).map Prod.fst = source.tvqs ∧
      ∃ result final, run (fun state tvq => .ok (findDestinationName state tvq)) source state = .ok (result, final) ∧
        Partitions source (assigned findDestinationName source.tvqs state) result := by
  refine ⟨map_assigned findDestinationName source.tvqs state, ?_⟩
  let pairs := assigned findDestinationName source.tvqs state
  have visited : pairs.map Prod.fst = source.tvqs := map_assigned findDestinationName source.tvqs state
  have distinct : (pairs.map fun pair => pair.1.limitTime).Nodup := by
    have times := times_nodup source
    rw [← visited, List.map_map] at times
    exact times
  -- the name of a point is found again by its time
  let destination : Tvq D → Option String := fun tvq => nameAt pairs tvq.limitTime
  have told : ∀ pair ∈ pairs, destination pair.1 = pair.2 := fun pair member => nameAt_of_mem distinct member
  let keeps : List (Entry D) → S → Prop := fun todo state =>
    ∀ pair ∈ assigned findDestinationName (todo.map fun entry => ⟨entry.1, entry.2⟩) state, destination pair.1 = pair.2
  have visit (state : S) (entry : Entry D) (rest : List (Entry D)) (kept : keeps (entry :: rest) state) : ∃ next,
      (Except.ok (findDestinationName state ⟨entry.1, entry.2⟩) : Except SystemException (Option String × S)) =
        .ok (destination ⟨entry.1, entry.2⟩, next) ∧ keeps rest next := by
    refine ⟨(findDestinationName state ⟨entry.1, entry.2⟩).2, ?_, fun pair member => ?_⟩
    · have name := kept _ List.mem_cons_self
      rw [name]
    · exact kept pair (List.mem_cons_of_mem _ member)
  have nothing : ∀ ts ∈ ([] : List (TimeSeries D)), ts.resolution = source.resolution := by simp
  obtain ⟨result, final, ran, -, grouped, resolution⟩ := @runFrom_ok D S
    (fun state tvq => .ok (findDestinationName state tvq)) destination keeps
    visit source [] source.points.entries (List.nil_append source.points.entries).symm state told [] (Grouped.nil _) nothing
  refine ⟨result, final, ran, ?_⟩
  have pairsEq : pairs = source.tvqs.map fun tvq => (tvq, destination tvq) := by
    rw [← visited, List.map_map]
    exact (List.map_id' pairs).symm.trans (List.map_congr_left fun pair member => by
      rw [Function.comp_apply, told pair member])
  have contents (ts : TimeSeries D) (member : ts ∈ result) :
      ts.points.entries = source.points.entries.filter fun entry => destination ⟨entry.1, entry.2⟩ = ts.name :=
    grouped.filter ts.content (List.mem_map_of_mem member)
  have own (ts : TimeSeries D) (member : ts ∈ result) :
      ts.tvqs = (pairs.filter fun pair => pair.2 = ts.name).map Prod.fst := by
    rw [TimeSeries.tvqs, contents ts member, pairsEq, TimeSeries.tvqs, List.map_map, List.filter_map, List.map_map]
    rfl
  have names : (result.map TimeSeries.name).Nodup := by
    have keys := grouped.keys
    rw [List.map_map] at keys
    exact keys
  have assignedName : ∀ pair ∈ pairs, ∀ ts ∈ result, pair.1 ∈ ts.tvqs → ts.name = pair.2 := by
    intro pair member ts inResult inside
    rw [own ts inResult] at inside
    obtain ⟨other, filtered, same⟩ := List.mem_map.mp inside
    obtain ⟨otherMember, name⟩ := List.mem_filter.mp filtered
    rw [← told pair member, ← same, told other otherMember]
    exact (of_decide_eq_true name).symm
  refine ⟨names, own, ?_, ?_, assignedName, resolution⟩
  · intro ts member none
    apply grouped.inhabited ts.content (List.mem_map_of_mem member)
    exact List.map_eq_nil_iff.mp none
  · intro pair member
    have inSource : pair.1 ∈ source.tvqs := visited ▸ List.mem_map_of_mem member
    obtain ⟨entry, inEntries, entryEq⟩ := List.mem_map.mp inSource
    obtain ⟨group, inGroups, inside⟩ := List.mem_flatMap.mp (grouped.perm.mem_iff.mpr inEntries)
    obtain ⟨ts, inResult, rfl⟩ := List.mem_map.mp inGroups
    have here : pair.1 ∈ ts.tvqs := List.mem_map.mpr ⟨entry, inside, entryEq⟩
    refine ⟨ts, ⟨inResult, here⟩, fun other ⟨otherResult, there⟩ => ?_⟩
    have sameName : other.name = ts.name :=
      (assignedName pair member other otherResult there).trans (assignedName pair member ts inResult here).symm
    exact List.inj_on_of_nodup_map names otherResult inResult sameName

end SplitterOperation

end ServiceHost
