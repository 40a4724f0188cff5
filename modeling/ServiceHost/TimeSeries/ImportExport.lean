import ServiceHost.TimeSeries.ImportExportCore
import ServiceHost.TimeSeries.TimeSeriesOperations

/-!
The steps of receiving a series: the split by import definitions, the lookup of an
age, the split by age with the update that follows it, and the conversion of the values.
-/

namespace ServiceHost

open Library

namespace TimeSeriesAge

def Older (age : TimeSeriesAge) (sourceTime time : UtcTime) : Prop :=
  age.getAge time ≠ UtcTime.null ∧ sourceTime.trimToMillisecondAccuracy < age.getAge time

instance (age : TimeSeriesAge) (sourceTime time : UtcTime) : Decidable (age.Older sourceTime time) :=
  inferInstanceAs (Decidable (_ ∧ _))

theorem isOlder_ok {age : TimeSeriesAge} {time sourceTime : UtcTime} {older : Bool}
    (run : age.isOlder time sourceTime = .ok older) : older = decide (age.Older sourceTime time) := by
  have again : age.getAge time.trimToMillisecondAccuracy = age.getAge time := by
    have trimmed : time.trimToMillisecondAccuracy.trimToMillisecondAccuracy =
        time.trimToMillisecondAccuracy := time.trim_aligned
    simp only [getAge, trimmed]
  simp only [isOlder, again] at run
  split at run
  · rename_i none
    rw [← Except.ok.inj run]
    simp [Older, none]
  · rename_i some
    simp only [UtcTime.less, UtcTime.compareOp] at run
    split at run
    · cases run
    · rw [← Except.ok.inj run]
      simp [Older, some, UtcTime.lt_iff]

theorem updateSegment_name {age updated : TimeSeriesAge} {period : TimePeriod} {ageTime : UtcTime}
    (run : age.updateSegment period ageTime = .ok updated) :
    updated.timeSeriesName = age.timeSeriesName := by
  simp only [updateSegment] at run
  split at run
  · cases run
  · simp only [pure_eq_ok] at run
    obtain ⟨_, _, run⟩ := bind_eq_ok_iff.mp run
    obtain ⟨_, _, run⟩ := bind_eq_ok_iff.mp run
    obtain ⟨_, _, run⟩ := bind_eq_ok_iff.mp run
    obtain ⟨_, _, run⟩ := bind_eq_ok_iff.mp run
    obtain ⟨_, _, run⟩ := bind_eq_ok_iff.mp run
    rw [← Except.ok.inj run]

end TimeSeriesAge

namespace ExternalReference

variable {D : Type}

def destination (mappings : List (Mapping D)) (time : UtcTime) : Option String :=
  (mappingAt mappings time).bind Mapping.internalName

theorem findDestinationName_eq (reference : ExternalReference D) (tvq : Tvq D) :
    ∃ next, reference.findDestinationName tvq = .ok (destination reference.mappings tvq.time, next) ∧
      next.mappings = reference.mappings := by
  cases found : mappingAt reference.mappings tvq.time with
  | none =>
      refine ⟨reference, ?_, rfl⟩
      simp [findDestinationName, useMapping, destination, found]
  | some mapping =>
      refine ⟨{ reference with mapping := some mapping }, ?_, rfl⟩
      simp [findDestinationName, useMapping, destination, found, current]

theorem split_ok (reference : ExternalReference D) (sourceTs : TimeSeries D) :
    ∃ result next, SplitterOperation.run findDestinationName sourceTs reference = .ok (result, next) ∧
      next.mappings = reference.mappings ∧
      Grouped (fun entry : Entry D => destination reference.mappings entry.1.time) sourceTs.points.entries
        (result.map TimeSeries.content) ∧
      ∀ ts ∈ result, ts.resolution = sourceTs.resolution := by
  have step : ∀ state : ExternalReference D, state.mappings = reference.mappings → ∀ tvq ∈ sourceTs.tvqs,
      ∃ next, state.findDestinationName tvq = .ok (destination reference.mappings tvq.time, next) ∧
        next.mappings = reference.mappings := by
    intro state kept tvq _
    obtain ⟨next, found, same⟩ := state.findDestinationName_eq tvq
    rw [kept] at found same
    exact ⟨next, found, same⟩
  exact SplitterOperation.run_ok step rfl

theorem useMappingNamed_ok {reference next : ExternalReference D} {name : Option String}
    {mapping : Mapping D} (run : reference.useMappingNamed name = .ok next)
    (inUse : next.current = .ok mapping) :
    mappingNamed reference.mappings name = some mapping ∧ next.mappings = reference.mappings := by
  unfold useMappingNamed at run
  split at run
  · rename_i found named
    rw [← Except.ok.inj run] at inUse ⊢
    exact ⟨named.trans (congrArg some (Except.ok.inj inUse)), rfl⟩
  · cases run

end ExternalReference

namespace ImportExport

variable {D : Type}

section Ages

theorem findAge_some {name : String} {ages : List TimeSeriesAge} {age : TimeSeriesAge}
    (found : findAge name ages = .ok (some age)) : age.timeSeriesName = some name := by
  induction ages with
  | nil => cases found
  | cons first rest ih =>
      simp only [findAge] at found
      split at found
      · cases found
      · rename_i own named
        split at found
        · rename_i same
          have sameAge := Option.some.inj (Except.ok.inj found)
          rw [← sameAge, named, same]
        · exact ih found

theorem putAge_of_none {name : String} {ages : List TimeSeriesAge} (updated : TimeSeriesAge)
    (absent : findAge name ages = .ok none) : putAge name updated ages = ages := by
  induction ages with
  | nil => rfl
  | cons first rest ih =>
      simp only [findAge] at absent
      split at absent
      · cases absent
      · rename_i own named
        split at absent
        · cases Except.ok.inj absent
        · rename_i other
          simp [putAge, named, other, ih absent]

theorem findAge_putAge {name other : String} {ages : List TimeSeriesAge} {updated : TimeSeriesAge}
    (named : updated.timeSeriesName = some name) (different : name ≠ other) :
    findAge other (putAge name updated ages) = findAge other ages := by
  induction ages with
  | nil => rfl
  | cons first rest ih =>
      by_cases same : first.timeSeriesName = some name
      · simp [putAge, findAge, same, named, different]
      · simp only [putAge, same, if_false, findAge, ih]

theorem getTimeSeriesAge_putAge {table : AgeTable} {name other : String} {ages : List TimeSeriesAge}
    {age updated : TimeSeriesAge} (found : getTimeSeriesAge table name ages = .ok age)
    (kept : updated.timeSeriesName = age.timeSeriesName) (different : name ≠ other) :
    getTimeSeriesAge table other (putAge name updated ages) = getTimeSeriesAge table other ages := by
  obtain ⟨passed, search, rest⟩ := bind_eq_ok_iff.mp found
  cases passed with
  | none => rw [putAge_of_none updated search]
  | some own =>
      have same := Except.ok.inj rest
      have named : updated.timeSeriesName = some name := by
        rw [kept, ← same]
        exact findAge_some search
      simp only [getTimeSeriesAge, findAge_putAge named different]

end Ages

section Trimming

theorem trimOldData_ok {ts : TimeSeries D} {age : TimeSeriesAge} {sourceTime : UtcTime}
    {trimmed : List (TimeSeries D)} (run : trimOldData ts age sourceTime = .ok trimmed) :
    Grouped (fun entry : Entry D => if age.Older sourceTime entry.1.time then none else ts.name)
        ts.points.entries (trimmed.map TimeSeries.content) ∧
      ∀ part ∈ trimmed, part.resolution = ts.resolution := by
  obtain ⟨⟨result, state⟩, split, same⟩ := map_eq_ok_iff.mp run
  have judged : ∀ state : Unit, True → ∀ tvq ∈ ts.tvqs, ∃ next,
      findDestinationName ts age sourceTime state tvq =
        .ok (if age.Older sourceTime tvq.time then none else ts.name, next) ∧ True := by
    intro _ _ tvq member
    obtain ⟨_, found, here⟩ := SplitterOperation.found_of_runFrom split tvq member
    obtain ⟨older, looked, _⟩ := bind_eq_ok_iff.mp here
    refine ⟨(), ?_, trivial⟩
    rw [findDestinationName, looked, TimeSeriesAge.isOlder_ok looked]
    simp
  obtain ⟨again, final, rerun, _, grouped, resolution⟩ := SplitterOperation.run_ok judged
    (show (fun _ : Unit => True) () from trivial)
  have both := Except.ok.inj (split.symm.trans rerun)
  rw [← same, both]
  exact ⟨grouped, resolution⟩

def olderStatus (trimmed : List (TimeSeries D)) : List (TvqStorageStatus D) :=
  (trimmed.filter fun part => part.name = none).flatMap fun part =>
    statusOf part .moreRecentDataExists "More recent data already exists."

def newerData (trimmed : List (TimeSeries D)) : List (TimeSeries D) :=
  trimmed.filter fun part => part.name ≠ none

theorem statusOf_times (ts : TimeSeries D) (status : StorageStatus) (message : String) :
    (statusOf ts status message).map (fun entry => entry.tvq.limitTime) = ts.times := by
  simp [statusOf, TimeSeries.tvqs, TimeSeries.times]

theorem statusOf_status {ts : TimeSeries D} {status : StorageStatus} {message : String}
    {entry : TvqStorageStatus D} (member : entry ∈ statusOf ts status message) : entry.status = status := by
  obtain ⟨tvq, _, rfl⟩ := List.mem_map.mp member
  rfl

theorem mem_statusOf {ts : TimeSeries D} {status : StorageStatus} {message : String} {time : LimitTime} :
    (∃ entry ∈ statusOf ts status message, entry.tvq.limitTime = time) ↔ time ∈ ts.times := by
  rw [← statusOf_times ts status message, List.mem_map]

theorem olderStatus_status {trimmed : List (TimeSeries D)} {entry : TvqStorageStatus D}
    (member : entry ∈ olderStatus trimmed) : entry.status = .moreRecentDataExists := by
  obtain ⟨part, _, inside⟩ := List.mem_flatMap.mp member
  exact statusOf_status inside

theorem trimmed_times_perm {ts : TimeSeries D} {age : TimeSeriesAge} {sourceTime : UtcTime}
    {trimmed : List (TimeSeries D)} (run : trimOldData ts age sourceTime = .ok trimmed) :
    ((olderStatus trimmed).map (fun entry => entry.tvq.limitTime) ++
      (newerData trimmed).flatMap TimeSeries.times).Perm ts.times := by
  have older : (olderStatus trimmed).map (fun entry => entry.tvq.limitTime) =
      (trimmed.filter fun part => part.name = none).flatMap TimeSeries.times := by
    simp only [olderStatus, List.map_flatMap, statusOf_times]
  have parts := List.filter_append_perm (fun part : TimeSeries D => decide (part.name = none)) trimmed
  have newer : newerData trimmed = trimmed.filter fun part => !decide (part.name = none) := by
    simp [newerData]
  have whole := (trimOldData_ok run).1.perm.map Prod.fst
  rw [List.flatMap_map, List.map_flatMap] at whole
  rw [older, newer, ← List.flatMap_append]
  exact (parts.flatMap_right TimeSeries.times).trans whole

theorem mem_olderStatus {ts : TimeSeries D} {name : String} {age : TimeSeriesAge} {sourceTime : UtcTime}
    {trimmed : List (TimeSeries D)} {time : LimitTime} (run : trimOldData ts age sourceTime = .ok trimmed)
    (named : ts.name = some name) :
    (∃ entry ∈ olderStatus trimmed, entry.tvq.limitTime = time) ↔
      time ∈ ts.times ∧ age.Older sourceTime time.time := by
  have grouped := (trimOldData_ok run).1
  rw [named] at grouped
  constructor
  · rintro ⟨entry, member, rfl⟩
    obtain ⟨part, kept, inside⟩ := List.mem_flatMap.mp member
    obtain ⟨found, unnamed⟩ := List.mem_filter.mp kept
    obtain ⟨tvq, visited, rfl⟩ := List.mem_map.mp inside
    obtain ⟨point, stored, rfl⟩ := List.mem_map.mp visited
    obtain ⟨source, key⟩ := (grouped.mem_iff (List.mem_map_of_mem found)).mp stored
    refine ⟨List.mem_map_of_mem source, ?_⟩
    by_contra notOlder
    rw [if_neg notOlder] at key
    exact Option.some_ne_none name (key.trans (of_decide_eq_true unnamed))
  · rintro ⟨member, older⟩
    obtain ⟨point, source, rfl⟩ := List.mem_map.mp member
    obtain ⟨group, found, key, inside⟩ := grouped.exists_group source
    obtain ⟨part, partFound, rfl⟩ := List.mem_map.mp found
    rw [if_pos older] at key
    refine ⟨⟨⟨point.1, point.2⟩, _, _⟩, List.mem_flatMap.mpr ⟨part, List.mem_filter.mpr ⟨partFound, ?_⟩,
      List.mem_map_of_mem (List.mem_map_of_mem inside)⟩, rfl⟩
    exact decide_eq_true key

theorem mem_newerData {ts part : TimeSeries D} {name : String} {age : TimeSeriesAge} {sourceTime : UtcTime}
    {trimmed : List (TimeSeries D)} (run : trimOldData ts age sourceTime = .ok trimmed)
    (named : ts.name = some name) (member : part ∈ newerData trimmed) :
    part.name = some name ∧ part.resolution = ts.resolution ∧
      ∀ point, point ∈ part.points.entries ↔
        point ∈ ts.points.entries ∧ ¬age.Older sourceTime point.1.time := by
  obtain ⟨grouped, resolution⟩ := trimOldData_ok run
  rw [named] at grouped
  obtain ⟨found, kept⟩ := List.mem_filter.mp member
  have held := grouped.inhabited part.content (List.mem_map_of_mem found)
  obtain ⟨first, inside⟩ := List.exists_mem_of_ne_nil _ held
  have rule : ∀ point, point ∈ part.points.entries ↔ point ∈ ts.points.entries ∧
      (if age.Older sourceTime point.1.time then none else some name) = part.name :=
    fun _ => grouped.mem_iff (List.mem_map_of_mem found)
  have partName : part.name = some name := by
    have key := ((rule first).mp inside).2
    split at key
    · exact absurd key.symm (of_decide_eq_true kept)
    · exact key.symm
  refine ⟨partName, resolution part found, fun point => (rule point).trans (and_congr_right fun _ => ?_)⟩
  rw [partName]
  split <;> simp_all

theorem exists_newerData {ts : TimeSeries D} {name : String} {age : TimeSeriesAge} {sourceTime : UtcTime}
    {trimmed : List (TimeSeries D)} (run : trimOldData ts age sourceTime = .ok trimmed)
    (named : ts.name = some name) {point : Entry D} (source : point ∈ ts.points.entries)
    (newer : ¬age.Older sourceTime point.1.time) : ∃ part ∈ newerData trimmed, point ∈ part.points.entries := by
  have grouped := (trimOldData_ok run).1
  rw [named] at grouped
  obtain ⟨group, found, key, inside⟩ := grouped.exists_group source
  obtain ⟨part, partFound, rfl⟩ := List.mem_map.mp found
  rw [if_neg newer] at key
  have partName : part.name = some name := key
  exact ⟨part, List.mem_filter.mpr ⟨partFound, by simp [partName]⟩, inside⟩

theorem updateSlots_name {resolution : TimeResolution} {sourceTime : UtcTime} {tvqs : List (Tvq D)}
    {age updated : TimeSeriesAge} (run : updateSlots resolution sourceTime tvqs age = .ok updated) :
    updated.timeSeriesName = age.timeSeriesName := by
  induction tvqs generalizing age with
  | nil => exact Except.ok.inj run ▸ rfl
  | cons tvq rest ih =>
      obtain ⟨_, _, run⟩ := bind_eq_ok_iff.mp run
      obtain ⟨next, step, run⟩ := bind_eq_ok_iff.mp run
      exact (ih run).trans (TimeSeriesAge.updateSegment_name step)

theorem updateAge_name {sourceTime : UtcTime} {newData : TimeSeries D} {age updated : TimeSeriesAge}
    (run : updateAge age newData sourceTime = .ok updated) :
    updated.timeSeriesName = age.timeSeriesName := by
  unfold updateAge at run
  split at run
  · exact Except.ok.inj run ▸ rfl
  · exact updateSlots_name run

def updateAges (sourceTime : UtcTime) :
    List (TimeSeries D) → TimeSeriesAge → Except SystemException TimeSeriesAge
  | [], age => pure age
  | newData :: rest, age => do updateAges sourceTime rest (← updateAge age newData sourceTime)

def updatedAge (sourceTime : UtcTime) (replacePeriod internalPeriod : Option TimePeriod)
    (data : List (TimeSeries D)) (age : TimeSeriesAge) : Except SystemException TimeSeriesAge := do
  let age ← if replacePeriod = none then updateAges sourceTime data age else pure age
  updateAgeOfPeriod age sourceTime internalPeriod

theorem updateAges_name {sourceTime : UtcTime} {data : List (TimeSeries D)} {age updated : TimeSeriesAge}
    (run : updateAges sourceTime data age = .ok updated) : updated.timeSeriesName = age.timeSeriesName := by
  induction data generalizing age with
  | nil => exact Except.ok.inj run ▸ rfl
  | cons newData rest ih =>
      obtain ⟨next, step, run⟩ := bind_eq_ok_iff.mp run
      exact (ih run).trans (updateAge_name step)

theorem updatedAge_name {sourceTime : UtcTime} {replacePeriod internalPeriod : Option TimePeriod}
    {data : List (TimeSeries D)} {age updated : TimeSeriesAge}
    (run : updatedAge sourceTime replacePeriod internalPeriod data age = .ok updated) :
    updated.timeSeriesName = age.timeSeriesName := by
  have last : ∀ next : TimeSeriesAge, updateAgeOfPeriod next sourceTime internalPeriod = .ok updated →
      updated.timeSeriesName = next.timeSeriesName := by
    intro next update
    unfold updateAgeOfPeriod at update
    split at update
    · exact TimeSeriesAge.updateSegment_name update
    · exact Except.ok.inj update ▸ rfl
  by_cases points : replacePeriod = none
  · simp only [updatedAge, points, if_true] at run
    obtain ⟨next, step, run⟩ := bind_eq_ok_iff.mp run
    exact (last next run).trans (updateAges_name step)
  · simp only [updatedAge, points, if_false] at run
    exact last age run

theorem receiveTrimmed_eq (sourceTime : UtcTime) (replacePeriod : Option TimePeriod)
    (trimmed : List (TimeSeries D)) (state : ImportExport D) (age : TimeSeriesAge) :
    receiveTrimmed sourceTime replacePeriod trimmed state age =
      (fun updated => ({ state with
        status := state.status ++ olderStatus trimmed
        relevantData := state.relevantData ++ newerData trimmed }, updated)) <$>
      if replacePeriod = none then updateAges sourceTime (newerData trimmed) age else pure age := by
  induction trimmed generalizing state age with
  | nil => simp [receiveTrimmed, olderStatus, newerData, updateAges]
  | cons part rest ih =>
      cases named : part.name with
      | none => simp [receiveTrimmed, named, ih, olderStatus, newerData]
      | some name =>
          by_cases points : replacePeriod = none
          · subst points
            cases step : updateAge age part sourceTime with
            | error exception => simp [receiveTrimmed, newerData, named, updateAges, step]
            | ok next => simp [receiveTrimmed, ih, olderStatus, newerData, named, updateAges, step]
          · simp [receiveTrimmed, named, points, ih, olderStatus, newerData]

end Trimming

section Conversion

theorem converts_unary (f : D → D) (change : Tvq D → Tvq D)
    (changed : ∀ tvq, change tvq = tvq.withValue (f tvq.value)) (asked : Bool) :
    Converts (fun value => pure (if asked then f value else value)) fun ts : TimeSeries D =>
      if asked then UnaryOperation.run ts change else pure ts := by
  cases asked with
  | false => exact Converts.skip
  | true =>
      refine Converts.of_calculate ?_ ?_
      · intro tvq calculated modified run
        obtain ⟨rfl, _⟩ := Prod.mk.inj (Except.ok.inj run)
        rw [changed]
        rfl
      · intro tvq
        simp only [pure_eq_ok, map_ok, changed]
        rfl

variable [DoubleArithmetic D]

open DoubleArithmetic

def convert (mapping : Mapping D) (value : D) : Except SystemException D := do
  let value ← truncate mapping.digits mapping.decimals value
  let value := if ne mapping.scale one then mul value mapping.scale else value
  return if ne mapping.offset zero then add value mapping.offset else value

theorem converts_truncate (mapping : Mapping D) :
    Converts (truncate mapping.digits mapping.decimals) fun ts : TimeSeries D =>
      if mapping.digits ≥ 0 ∨ mapping.decimals ≥ 0 then truncateValues ts mapping else pure ts := by
  by_cases asked : mapping.digits ≥ 0 ∨ mapping.decimals ≥ 0
  · simp only [asked, if_true]
    refine Converts.of_calculate ?_ ?_
    · intro tvq calculated modified run
      obtain ⟨found, here, same⟩ := bind_eq_ok_iff.mp run
      obtain ⟨rfl, _⟩ := Prod.mk.inj (Except.ok.inj same)
      exact TruncateOperator.calculate_limitTime here
    · intro tvq
      rw [← TruncateOperator.calculate_value]
      cases TruncateOperator.calculate mapping.digits mapping.decimals tvq <;> rfl
  · simp only [asked, if_false]
    have nothing : truncate mapping.digits mapping.decimals = (pure : D → Except SystemException D) := by
      funext value
      exact truncate_none (by omega) (by omega) value
    rw [nothing]
    exact Converts.skip

theorem converts_convertValues (mapping : Mapping D) :
    Converts (convert mapping) fun ts => convertValues ts mapping := by
  have scale := converts_unary (fun value => mul value mapping.scale)
    (ScaleOperator.calculate mapping.scale) (fun _ => rfl) (ne mapping.scale one)
  have translate := converts_unary (fun value => add value mapping.offset)
    (TranslateOperator.calculate mapping.offset) (fun _ => rfl) (ne mapping.offset zero)
  have stages := (converts_truncate mapping).comp (scale.comp translate)
  have values : convert mapping = fun value => truncate mapping.digits mapping.decimals value >>= fun value =>
      pure (if ne mapping.scale one then mul value mapping.scale else value) >>= fun value =>
        pure (if ne mapping.offset zero then add value mapping.offset else value) := rfl
  have series : (fun ts : TimeSeries D => convertValues ts mapping) = fun ts =>
      (if mapping.digits ≥ 0 ∨ mapping.decimals ≥ 0 then truncateValues ts mapping else pure ts) >>= fun ts =>
        (if ne mapping.scale one then scaleValues ts mapping else pure ts) >>= fun ts =>
          if ne mapping.offset zero then translateValues ts mapping else pure ts := by
    funext ts
    by_cases cut : mapping.digits ≥ 0 ∨ mapping.decimals ≥ 0
    · by_cases scaled : ne mapping.scale one = true
      · simp only [convertValues, cut, scaled, if_true]
      · simp only [convertValues, cut, scaled, if_true]
        rfl
    · by_cases scaled : ne mapping.scale one = true
      · simp only [convertValues, cut, scaled, if_true, if_false]
      · simp only [convertValues, cut, scaled, if_false]
        rfl
  rw [values, series]
  exact stages

end Conversion

end ImportExport

end ServiceHost
