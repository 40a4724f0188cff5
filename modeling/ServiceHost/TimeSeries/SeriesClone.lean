import ServiceHost.TimeSeries.Interpolation

/-!
A clone of a series has its points in a table of its own, and does not have its curve type.
-/

namespace ServiceHost

open Library

section Tables

variable {K V : Type} [LinearOrder K]

theorem foldl_set_entries {entries : List (K × V)} (table : SortedEntries K V)
    (sorted : (table.entries ++ entries).Pairwise fun first second => first.1 < second.1) :
    (entries.foldl (fun table entry => table.set entry.1 entry.2) table).entries = table.entries ++ entries := by
  induction entries generalizing table with
  | nil => exact (List.append_nil _).symm
  | cons entry rest ih =>
      have below : ∀ other ∈ table.entries, other.1 < entry.1 := fun other member =>
        (List.pairwise_append.mp sorted).2.2 other member entry List.mem_cons_self
      have set : (table.set entry.1 entry.2).entries = table.entries ++ [entry] := by
        have put : SortedEntries.put entry.1 entry.2 (table.entries ++ []) = table.entries ++ [entry] :=
          SortedEntries.put_append entry.2 below
        rwa [List.append_nil] at put
      have further : ((table.set entry.1 entry.2).entries ++ rest).Pairwise fun first second => first.1 < second.1 := by
        rw [set, List.append_assoc]
        exact sorted
      rw [List.foldl_cons, ih (table.set entry.1 entry.2) further, set, List.append_assoc]
      rfl

end Tables

namespace SeriesHeap

variable (heap : SeriesHeap) (object other : SeriesObject) (tvq : Tvq ℚ) (setModified : Bool)

theorem setAll_tvqs (ts : CurveSeries) : setAll ts.tvqs SortedEntries.empty = ts.points := by
  apply SortedEntries.ext
  rw [setAll, TimeSeries.tvqs, List.foldl_map]
  exact foldl_set_entries SortedEntries.empty ts.points.sorted

theorem read_congr {heap other : SeriesHeap} {object : SeriesObject}
    (same : other.tables[object.points]? = heap.tables[object.points]?) : other.read object = heap.read object := by
  rw [read, read, List.getD_eq_getElem?_getD, List.getD_eq_getElem?_getD, same]

theorem read_clone (member : other ∈ heap.objects) : (heap.clone object).read other = heap.read other :=
  read_congr (List.getElem?_append_left (heap.allocated other member))

theorem read_clonedObject : (heap.clone object).read (heap.clonedObject object) =
    { heap.read object with curveType := .linear } := by
  have table : (heap.clone object).tables.getD (heap.clonedObject object).points SortedEntries.empty =
      (heap.read object).points := by
    rw [List.getD_eq_getElem?_getD]
    show ((heap.tables ++ [setAll (heap.read object).tvqs SortedEntries.empty])[heap.tables.length]?).getD _ = _
    rw [List.getElem?_concat_length, Option.getD_some, setAll_tvqs]
  rw [read, table]
  rfl

theorem read_setValue (different : object.points ≠ other.points) :
    (heap.setValue object tvq setModified).read other = heap.read other :=
  read_congr (List.getElem?_modify_ne _ _ different)

end SeriesHeap

namespace CurveSeries

variable {ts : CurveSeries} {time : LimitTime} {first second : Tvq ℚ}

theorem getTvq_congr {other : CurveSeries} (points : other.points = ts.points)
    (curve : other.curveType = .step ↔ ts.curveType = .step) (time : LimitTime) : other.getTvq time = ts.getTvq time := by
  have tvqs : other.tvqs = ts.tvqs := by rw [TimeSeries.tvqs, points, TimeSeries.tvqs]
  have item (index : Int) : other.itemByIndex index = ts.itemByIndex index := by rw [itemByIndex, tvqs, itemByIndex]
  by_cases step : ts.curveType = .step
  · simp only [getTvq, indexByTime, points, tvqs, curve.mpr step, step, item]
  · simp only [getTvq, indexByTime, points, tvqs, mt curve.mp step, step, item]

def StepsFlat (ts : CurveSeries) : Prop :=
  ∀ time first second, ts.Between time first second → first.time ≠ second.time ∧
    first.vq.quality = Quality.ofInt 0 ∧ (first.value = second.value ∨ time.time = first.time)

theorem interpolate_first_iff (different : first.time ≠ second.time) :
    ∃ value, interpolate time.time first second = .ok value ∧
      (value = first.value ↔ first.value = second.value ∨ time.time = first.time) := by
  have divisor : long (second.time.ticks - first.time.ticks) ≠ 0 :=
    mt (UtcTime.long_sub_eq_zero _ _).mp different.symm
  refine ⟨_, if_neg divisor, ?_⟩
  rw [add_eq_left, div_eq_zero_iff, mul_eq_zero, sub_eq_zero, Int.cast_eq_zero, Int.cast_eq_zero,
    UtcTime.long_sub_eq_zero]
  simp only [divisor, or_false, eq_comm]

theorem linear_ne_step : CurveType.linear ≠ .step := by decide

theorem getTvq_linear_iff (step : ts.curveType = .step) :
    (∀ time, ({ ts with curveType := .linear } : CurveSeries).getTvq time = ts.getTvq time) ↔ ts.StepsFlat := by
  have notStep : ({ ts with curveType := .linear } : CurveSeries).curveType ≠ .step := linear_ne_step
  -- the points are the same ones, so the neighbours are
  have neighbours {time : LimitTime} {first second : Tvq ℚ} (between : ts.Between time first second) :
      ({ ts with curveType := .linear } : CurveSeries).Between time first second := between
  constructor
  · intro same time first second between
    have linear := getTvq_between _ (neighbours between)
    rw [if_neg notStep, same time, getTvq_between ts between, if_pos step] at linear
    have different : first.time ≠ second.time := by
      intro sameTime
      rw [interpolate_error sameTime] at linear
      cases linear
    obtain ⟨value, interpolated, isFirst⟩ := interpolate_first_iff different
    rw [interpolated] at linear
    have vq : first.vq = ⟨value, Quality.ofInt 0⟩ :=
      congrArg Tvq.vq (Option.some.inj (Except.ok.inj linear))
    refine ⟨different, congrArg VQ.quality vq, isFirst.mp ?_⟩
    exact (congrArg VQ.value vq).symm
  · intro flat time
    cases found : ts.points.find? time with
    | some vq => exact (getTvq_found { ts with curveType := .linear } found).trans (getTvq_found ts found).symm
    | none =>
        rcases ts.position found with early | ⟨before, last, items, late⟩ | ⟨first, second, between⟩
        · exact (getTvq_early { ts with curveType := .linear } found early).trans (getTvq_early ts found early).symm
        · exact (getTvq_late { ts with curveType := .linear } found items late).trans (getTvq_late ts found items late).symm
        · obtain ⟨different, quality, level⟩ := flat time first second between
          obtain ⟨value, interpolated, isFirst⟩ := interpolate_first_iff different
          have vq : (⟨value, Quality.ofInt 0⟩ : VQ ℚ) = first.vq := by
            rw [isFirst.mpr level, ← quality]
            rfl
          rw [getTvq_between _ (neighbours between), if_neg notStep, getTvq_between ts between, if_pos step, interpolated]
          show (Except.ok (some ⟨time, ⟨value, Quality.ofInt 0⟩⟩) : Except SystemException (Option (Tvq ℚ))) = _
          rw [vq]

end CurveSeries

namespace SeriesHeap

structure ClonesWell (heap : SeriesHeap) (object : SeriesObject) : Prop where
  reads : ∀ time, ((heap.clone object).read (heap.clonedObject object)).getTvq time =
    ((heap.clone object).read object).getTvq time
  cloneKept : ∀ tvq setModified time,
    (((heap.clone object).setValue object tvq setModified).read (heap.clonedObject object)).getTvq time =
      ((heap.clone object).read (heap.clonedObject object)).getTvq time
  originalKept : ∀ tvq setModified time,
    (((heap.clone object).setValue (heap.clonedObject object) tvq setModified).read object).getTvq time =
      ((heap.clone object).read object).getTvq time

/-- A clone is as good as its original unless that one steps where the clone does not. -/
theorem clonesWell_iff (heap : SeriesHeap) {object : SeriesObject} (member : object ∈ heap.objects) :
    heap.ClonesWell object ↔ (object.curveType = .step → (heap.read object).StepsFlat) := by
  have known : (heap.clone object).read object = heap.read object := heap.read_clone object object member
  have cloned := heap.read_clonedObject object
  have apart : object.points ≠ (heap.clonedObject object).points := Nat.ne_of_lt (heap.allocated object member)
  have reads : (∀ time, ((heap.clone object).read (heap.clonedObject object)).getTvq time =
        ((heap.clone object).read object).getTvq time) ↔
      (object.curveType = .step → (heap.read object).StepsFlat) := by
    rw [known, cloned]
    by_cases step : object.curveType = .step
    · have stepping : (heap.read object).curveType = .step := step
      rw [CurveSeries.getTvq_linear_iff stepping]
      exact ⟨fun flat _ => flat, fun flat => flat step⟩
    · have same := @CurveSeries.getTvq_congr (heap.read object) { heap.read object with curveType := .linear } rfl
        ⟨fun linear => absurd linear CurveSeries.linear_ne_step, fun stepping => absurd stepping step⟩
      exact ⟨fun _ stepping => absurd stepping step, fun _ time => same time⟩
  constructor
  · intro well
    exact reads.mp well.reads
  · intro flat
    refine ⟨reads.mpr flat, ?_, ?_⟩
    · intro tvq setModified time
      rw [read_setValue _ _ _ tvq setModified apart]
    · intro tvq setModified time
      rw [read_setValue _ _ _ tvq setModified apart.symm]

def stepHeap : SeriesHeap where
  objects := [⟨none, .unconstrained, none, .step, none, 0⟩]
  tables := [(SortedEntries.empty.set ⟨UtcTime.ofTicks 36000000000, .point⟩ ⟨1, Quality.ofInt 0⟩).set
    ⟨UtcTime.ofTicks 108000000000, .point⟩ ⟨3, Quality.ofInt 0⟩]
  allocated := by decide
  separate := by decide

theorem clonesWell_stepHeap : stepHeap.ClonesWell stepHeap.objects[0] ↔
    (stepHeap.objects[0].curveType = .step → (stepHeap.read stepHeap.objects[0]).StepsFlat) :=
  stepHeap.clonesWell_iff (List.getElem_mem _)

/-- The clone of the step reads 2 in the middle. -/
theorem clonesWell_step : ¬ ∀ (heap : SeriesHeap), ∀ object ∈ heap.objects, heap.ClonesWell object := by
  intro holds
  have well := holds stepHeap ⟨none, .unconstrained, none, .step, none, 0⟩ List.mem_cons_self
  have middle := well.reads ⟨UtcTime.ofTicks 72000000000, .point⟩
  revert middle
  decide +kernel

end SeriesHeap

end ServiceHost
