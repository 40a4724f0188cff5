import ServiceHost.TimeSeries.ImportExport

/-!
A call is the sum of its series: each of them contributes as if it were received
alone, against the ages from before the call.
-/

namespace ServiceHost

open Library

namespace ImportExport

variable {D : Type}

structure Received (D : Type) where
  relevantData : List (TimeSeries D)
  relevantReplacePeriods : List ReplacePeriod
  age : Option (String × TimeSeriesAge)
  status : List (TvqStorageStatus D)

namespace Received

def ages (part : Received D) : List TimeSeriesAge := part.age.toList.map Prod.snd

def putAge (part : Received D) (ages : List TimeSeriesAge) : List TimeSeriesAge :=
  match part.age with
  | some (name, updated) => ImportExport.putAge name updated ages
  | none => ages

end Received

structure Collected (parts : List (Received D)) (state final : ImportExport D) : Prop where
  relevantData : final.relevantData = state.relevantData ++ parts.flatMap Received.relevantData
  relevantReplacePeriods : final.relevantReplacePeriods =
    state.relevantReplacePeriods ++ parts.flatMap Received.relevantReplacePeriods
  ages : final.ages = state.ages ++ parts.flatMap Received.ages
  status : final.status = state.status ++ parts.flatMap Received.status
  currentAges : final.currentAges = parts.foldl (fun ages part => part.putAge ages) state.currentAges
  mappings : final.externalReference.mappings = state.externalReference.mappings

theorem Collected.nil (state : ImportExport D) : Collected [] state state := by
  constructor <;> simp

theorem Collected.cons {part : Received D} {parts : List (Received D)} {state next final : ImportExport D}
    (first : Collected [part] state next) (rest : Collected parts next final) :
    Collected (part :: parts) state final := by
  constructor
  · simp [rest.relevantData, first.relevantData]
  · simp [rest.relevantReplacePeriods, first.relevantReplacePeriods]
  · simp [rest.ages, first.ages]
  · simp [rest.status, first.status]
  · simp [rest.currentAges, first.currentAges]
  · rw [rest.mappings, first.mappings]

section Contributions

variable [DoubleArithmetic D]

inductive Contribution (table : AgeTable) (sourceTime : UtcTime) (replacePeriod : Option TimePeriod)
    (mappings : List (Mapping D)) (currentAges : List TimeSeriesAge) (ts : TimeSeries D) : Received D → Prop
  | missing (unnamed : ts.name = none) :
      Contribution table sourceTime replacePeriod mappings currentAges ts
        ⟨[], [], none, statusOf ts .missingImportDefinition "Missing import definition"⟩
  | ignored (named : ts.name = some ExternalReference.importDefinitionIgnore) :
      Contribution table sourceTime replacePeriod mappings currentAges ts
        ⟨[], [], none, statusOf ts .importDefinitionIgnore "Import definition set to be ignored"⟩
  | received {name : String} {mapping : Mapping D} {internalSeries : TimeSeries D} {age updated : TimeSeriesAge}
      {internalPeriod : Option TimePeriod} {fragments : List ReplacePeriod} {trimmed : List (TimeSeries D)}
      (named : ts.name = some name) (notIgnored : name ≠ ExternalReference.importDefinitionIgnore)
      (mapped : ExternalReference.mappingNamed mappings (some name) = some mapping)
      (converted : convertValues ts mapping = .ok internalSeries)
      (found : getTimeSeriesAge table name currentAges = .ok age)
      (replaced : internalReplacePeriods age sourceTime replacePeriod mapping internalSeries =
        .ok (internalPeriod, fragments))
      (judged : trimOldData internalSeries age sourceTime = .ok trimmed)
      (aged : updatedAge sourceTime replacePeriod internalPeriod (newerData trimmed) age = .ok updated) :
      Contribution table sourceTime replacePeriod mappings currentAges ts
        ⟨newerData trimmed, fragments, some (name, updated), olderStatus trimmed⟩

variable {table : AgeTable} {sourceTime : UtcTime} {replacePeriod : Option TimePeriod}

theorem receiveInternal_ok {name : String} {ts : TimeSeries D} {state final : ImportExport D}
    (named : ts.name = some name) (notIgnored : name ≠ ExternalReference.importDefinitionIgnore)
    (run : receiveInternal table sourceTime replacePeriod name ts state = .ok final) :
    ∃ part, Contribution table sourceTime replacePeriod state.externalReference.mappings state.currentAges
      ts part ∧ Collected [part] state final := by
  obtain ⟨reference, used, run⟩ := bind_eq_ok_iff.mp run
  obtain ⟨mapping, inUse, run⟩ := bind_eq_ok_iff.mp run
  obtain ⟨mapped, mappings⟩ := ExternalReference.useMappingNamed_ok used inUse
  obtain ⟨internalSeries, converted, run⟩ := bind_eq_ok_iff.mp run
  obtain ⟨age, found, run⟩ := bind_eq_ok_iff.mp run
  obtain ⟨⟨internalPeriod, fragments⟩, replaced, run⟩ := bind_eq_ok_iff.mp run
  obtain ⟨trimmed, judged, run⟩ := bind_eq_ok_iff.mp run
  obtain ⟨⟨received, next⟩, loop, run⟩ := bind_eq_ok_iff.mp run
  obtain ⟨updated, update, same⟩ := bind_eq_ok_iff.mp run
  rw [receiveTrimmed_eq] at loop
  obtain ⟨aged, step, both⟩ := map_eq_ok_iff.mp loop
  obtain ⟨rfl, rfl⟩ := Prod.mk.inj both
  have whole : updatedAge sourceTime replacePeriod internalPeriod (newerData trimmed) age = .ok updated := by
    by_cases points : replacePeriod = none
    · rw [if_pos points] at step
      simp only [updatedAge, points, if_true, step, ok_bind]
      exact update
    · rw [if_neg points] at step
      simp only [updatedAge, points, if_false]
      exact Except.ok.inj step ▸ update
  refine ⟨_, Contribution.received named notIgnored mapped converted found replaced judged whole, ?_⟩
  rw [← Except.ok.inj same]
  constructor <;> simp [Received.ages, Received.putAge, mappings]

theorem Contribution.congr_age {mappings : List (Mapping D)} {ages others : List TimeSeriesAge}
    {ts : TimeSeries D} {part : Received D}
    (contribution : Contribution table sourceTime replacePeriod mappings ages ts part)
    (same : ∀ name, ts.name = some name → getTimeSeriesAge table name ages = getTimeSeriesAge table name others) :
    Contribution table sourceTime replacePeriod mappings others ts part := by
  cases contribution with
  | missing unnamed => exact Contribution.missing unnamed
  | ignored named => exact Contribution.ignored named
  | received named notIgnored mapped converted found replaced judged aged =>
      exact Contribution.received named notIgnored mapped converted (same _ named ▸ found) replaced judged aged

theorem Contribution.getTimeSeriesAge_putAge {mappings : List (Mapping D)} {ages : List TimeSeriesAge}
    {ts : TimeSeries D} {part : Received D}
    (contribution : Contribution table sourceTime replacePeriod mappings ages ts part) {other : String}
    (different : ts.name ≠ some other) :
    getTimeSeriesAge table other (part.putAge ages) = getTimeSeriesAge table other ages := by
  cases contribution with
  | missing unnamed => rfl
  | ignored named => rfl
  | received named notIgnored mapped converted found replaced judged aged =>
      exact ImportExport.getTimeSeriesAge_putAge found (updatedAge_name aged) fun same =>
        different (same ▸ named)

theorem receiveEach_cons_ok {ts : TimeSeries D} {rest : List (TimeSeries D)} {state final : ImportExport D}
    (run : receiveEach table sourceTime replacePeriod (ts :: rest) state = .ok final) :
    ∃ part next, Contribution table sourceTime replacePeriod state.externalReference.mappings
        state.currentAges ts part ∧ Collected [part] state next ∧
      receiveEach table sourceTime replacePeriod rest next = .ok final := by
  simp only [receiveEach] at run
  split at run
  · rename_i unnamed
    refine ⟨_, _, Contribution.missing unnamed, ?_, run⟩
    constructor <;> simp [Received.ages, Received.putAge]
  · rename_i name named
    split at run
    · rename_i ignored
      refine ⟨_, _, Contribution.ignored (ignored ▸ named), ?_, run⟩
      constructor <;> simp [Received.ages, Received.putAge]
    · rename_i notIgnored
      obtain ⟨next, step, run⟩ := bind_eq_ok_iff.mp run
      obtain ⟨part, contribution, collected⟩ := receiveInternal_ok named notIgnored step
      exact ⟨part, next, contribution, collected, run⟩

variable {mappings : List (Mapping D)} {currentAges : List TimeSeriesAge}

theorem receiveEach_ok {todo : List (TimeSeries D)} {state final : ImportExport D}
    (run : receiveEach table sourceTime replacePeriod todo state = .ok final)
    (names : (todo.map TimeSeries.name).Nodup) (reference : state.externalReference.mappings = mappings)
    (ages : ∀ ts ∈ todo, ∀ name, ts.name = some name →
      getTimeSeriesAge table name state.currentAges = getTimeSeriesAge table name currentAges) :
    ∃ parts, List.Forall₂ (Contribution table sourceTime replacePeriod mappings currentAges) todo parts ∧
      Collected parts state final := by
  induction todo generalizing state with
  | nil =>
      rw [← Except.ok.inj run]
      exact ⟨[], List.Forall₂.nil, Collected.nil state⟩
  | cons ts rest ih =>
      obtain ⟨fresh, restNames⟩ := List.nodup_cons.mp names
      obtain ⟨part, next, contribution, first, run⟩ := receiveEach_cons_ok run
      have later : ∀ other ∈ rest, ∀ name, other.name = some name →
          getTimeSeriesAge table name next.currentAges = getTimeSeriesAge table name currentAges := by
        intro other member name named
        have kept : next.currentAges = part.putAge state.currentAges := by simpa using first.currentAges
        rw [kept, contribution.getTimeSeriesAge_putAge]
        · exact ages other (by simp [member]) name named
        · intro same
          exact fresh (List.mem_map.mpr ⟨other, member, named.trans same.symm⟩)
      obtain ⟨parts, all, collected⟩ := ih run restNames (first.mappings.trans reference) later
      rw [reference] at contribution
      exact ⟨part :: parts, List.Forall₂.cons (contribution.congr_age (ages ts (by simp))) all,
        first.cons collected⟩

structure Contributions (table : AgeTable) (sourceTime : UtcTime) (replacePeriod : Option TimePeriod)
    (mappings : List (Mapping D)) (currentAges : List TimeSeriesAge) (sourceTs : TimeSeries D)
    (array : List (TimeSeries D)) (parts : List (Received D)) : Prop where
  grouped : Grouped (fun entry : Entry D => ExternalReference.destination mappings entry.1.time)
    sourceTs.points.entries (array.map TimeSeries.content)
  resolution : ∀ ts ∈ array, ts.resolution = sourceTs.resolution
  all : List.Forall₂ (Contribution table sourceTime replacePeriod mappings currentAges) array parts

theorem receiveTimeSeries_ok {sourceTs : TimeSeries D} {reference : ExternalReference D}
    {result : ImportExport D}
    (run : receiveTimeSeries table sourceTs sourceTime replacePeriod reference currentAges = .ok result) :
    ∃ array parts, Contributions table sourceTime replacePeriod reference.mappings currentAges sourceTs
        array parts ∧ Collected parts ⟨[], [], [], [], reference, currentAges⟩ result := by
  obtain ⟨_, _, run⟩ := bind_eq_ok_iff.mp run
  obtain ⟨array, next, split, mappings, grouped, resolution⟩ := ExternalReference.split_ok reference sourceTs
  rw [split, ok_bind] at run
  have names : (array.map TimeSeries.name).Nodup := by
    have keys := grouped.keys
    rwa [List.map_map] at keys
  obtain ⟨parts, all, collected⟩ := receiveEach_ok run names mappings fun _ _ _ _ => rfl
  refine ⟨array, parts, ⟨grouped, resolution, all⟩, ?_⟩
  exact ⟨collected.relevantData, collected.relevantReplacePeriods, collected.ages, collected.status,
    collected.currentAges, collected.mappings.trans mappings⟩

end Contributions

end ImportExport

end ServiceHost
