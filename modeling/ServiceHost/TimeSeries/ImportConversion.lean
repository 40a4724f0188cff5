import ServiceHost.TimeSeries.ImportConservation

/-!
The values that are passed on. The mapping for a point is looked up by its time
when the series is split, and again by the internal name when the values are
converted: the two agree when the first mapping of a name converts as the others do.
-/

namespace ServiceHost

open Library

namespace ExternalReference

variable {D : Type}

def Disjoint (mappings : List (Mapping D)) : Prop :=
  mappings.Pairwise fun first second => ∀ time ≠ UtcTime.null,
    ¬(first.period.intersectsTime time = true ∧ second.period.intersectsTime time = true)

theorem mappingAt_eq {mappings : List (Mapping D)} (disjoint : Disjoint mappings) {mapping : Mapping D}
    (member : mapping ∈ mappings) {time : UtcTime} (timeNull : time ≠ UtcTime.null)
    (inside : mapping.period.intersectsTime time = true) : mappingAt mappings time = some mapping := by
  induction mappings with
  | nil => cases member
  | cons first rest ih =>
      obtain ⟨apart, restDisjoint⟩ := List.pairwise_cons.mp disjoint
      rcases List.mem_cons.mp member with same | later
      · subst same
        simp only [mappingAt, List.find?_cons, inside]
      · have outside : first.period.intersectsTime time = false :=
          Bool.eq_false_iff.mpr fun both => apart mapping later time timeNull ⟨both, inside⟩
        simp only [mappingAt, List.find?_cons, outside]
        exact ih restDisjoint later

theorem disjoint_pair {first second : Mapping D} (firstValid : first.period.Valid)
    (secondValid : second.period.Valid) (follows : first.period.untilTime ≤ second.period.fromTime) :
    Disjoint [first, second] := by
  refine List.pairwise_pair.mpr fun time timeNull => ?_
  rw [TimePeriod.intersectsTime_iff firstValid timeNull, TimePeriod.intersectsTime_iff secondValid timeNull]
  rintro ⟨⟨_, ended⟩, starts, _⟩
  exact absurd (lt_of_lt_of_le ended follows) (not_lt.mpr starts)

end ExternalReference

namespace ImportExport

variable {D : Type} [DoubleArithmetic D] {table : AgeTable} {sourceTime : UtcTime}
  {replacePeriod : Option TimePeriod} {sourceTs : TimeSeries D} {reference : ExternalReference D}
  {currentAges : List TimeSeriesAge} {result : ImportExport D}

section RelevantData

theorem mem_relevantData
    (returned : receiveTimeSeries table sourceTs sourceTime replacePeriod reference currentAges = .ok result)
    {data : TimeSeries D} (member : data ∈ result.relevantData) :
    ∃ name first age, data.name = some name ∧ name ≠ ExternalReference.importDefinitionIgnore ∧
      ExternalReference.mappingNamed reference.mappings (some name) = some first ∧
      getTimeSeriesAge table name currentAges = .ok age ∧ data.resolution = sourceTs.resolution ∧
      ∀ point ∈ data.points.entries, ¬age.Older sourceTime point.1.time ∧
        ExternalReference.destination reference.mappings point.1.time = some name ∧
        ∃ source ∈ sourceTs.points.entries, source.1 = point.1 ∧
          convert first source.2.value = .ok point.2.value := by
  obtain ⟨array, parts, contributions, collected⟩ := receiveTimeSeries_ok returned
  rw [collected.relevantData, List.nil_append] at member
  obtain ⟨part, partFound, inside⟩ := List.mem_flatMap.mp member
  obtain ⟨ts, tsFound, contribution, source⟩ := contribution_of_part contributions partFound
  cases contribution with
  | missing unnamed => cases inside
  | ignored named => cases inside
  | received named notIgnored mapped converted found replaced judged aged =>
      rename_i name first internalSeries age updated internalPeriod fragments trimmed
      obtain ⟨internalName, internalResolution, all⟩ :=
        (converts_convertValues first).result ts internalSeries converted
      obtain ⟨dataName, dataResolution, points⟩ := mem_newerData judged (internalName.trans named) inside
      refine ⟨name, first, age, dataName, notIgnored, mapped, found,
        dataResolution.trans (internalResolution.trans (contributions.resolution ts tsFound)), fun point pointFound => ?_⟩
      obtain ⟨internal, notOlder⟩ := (points point).mp pointFound
      obtain ⟨entry, entryFound, time, value⟩ := (mem_of_forall₂ all).2 point internal
      obtain ⟨sourceFound, destination⟩ := source entry entryFound
      exact ⟨notOlder, time ▸ destination.trans named, entry, sourceFound, time.symm, value⟩

theorem exists_relevantData
    (returned : receiveTimeSeries table sourceTs sourceTime replacePeriod reference currentAges = .ok result)
    {source : Entry D} (member : source ∈ sourceTs.points.entries) {name : String}
    (destination : ExternalReference.destination reference.mappings source.1.time = some name)
    (notIgnored : name ≠ ExternalReference.importDefinitionIgnore) :
    ∃ first age, ExternalReference.mappingNamed reference.mappings (some name) = some first ∧
      getTimeSeriesAge table name currentAges = .ok age ∧
      (¬age.Older sourceTime source.1.time → ∃ data ∈ result.relevantData, data.name = some name ∧
        ∃ point ∈ data.points.entries, point.1 = source.1 ∧
          convert first source.2.value = .ok point.2.value) := by
  obtain ⟨array, parts, contributions, collected⟩ := receiveTimeSeries_ok returned
  obtain ⟨ts, tsFound, part, partFound, contribution, named, inside⟩ :=
    exists_contribution contributions member
  rw [destination] at named
  cases contribution with
  | missing unnamed => cases named.symm.trans unnamed
  | ignored ignoredName => exact absurd (Option.some.inj (named.symm.trans ignoredName)) notIgnored
  | received own ownNotIgnored mapped converted found replaced judged aged =>
      rename_i ownName first internalSeries age updated internalPeriod fragments trimmed
      obtain rfl := Option.some.inj (named.symm.trans own)
      obtain ⟨internalName, _, all⟩ := (converts_convertValues first).result ts internalSeries converted
      obtain ⟨point, pointFound, time, value⟩ := (mem_of_forall₂ all).1 source inside
      refine ⟨first, age, mapped, found, fun notOlder => ?_⟩
      rw [← time] at notOlder
      obtain ⟨data, dataFound, holds⟩ :=
        exists_newerData judged (internalName.trans own) pointFound notOlder
      have dataName := (mem_newerData judged (internalName.trans own) dataFound).1
      refine ⟨data, ?_, dataName, point, holds, time, value⟩
      rw [collected.relevantData, List.nil_append]
      exact List.mem_flatMap.mpr ⟨_, partFound, dataFound⟩

end RelevantData

/-- Every value that is passed on is converted by the mapping of its own time if
and only if, at every received point that has an internal series and is not older
than the data there, the first mapping with that internal name makes of the value
what the mapping of its own time makes of it. -/
theorem relevantData_converted_iff
    (disjoint : ExternalReference.Disjoint reference.mappings)
    (returned : receiveTimeSeries table sourceTs sourceTime replacePeriod reference currentAges = .ok result) :
    (∀ data ∈ result.relevantData, ∀ point ∈ data.points.entries, ∀ source ∈ sourceTs.points.entries,
      source.1 = point.1 → point.1.time ≠ UtcTime.null → ∀ mapping ∈ reference.mappings,
        mapping.period.intersectsTime point.1.time = true →
          convert mapping source.2.value = .ok point.2.value) ↔
    ∀ source ∈ sourceTs.points.entries, source.1.time ≠ UtcTime.null → ∀ mapping ∈ reference.mappings,
      mapping.period.intersectsTime source.1.time = true → ∀ name, mapping.internalName = some name →
        name ≠ ExternalReference.importDefinitionIgnore →
        (∀ age, getTimeSeriesAge table name currentAges = .ok age → ¬age.Older sourceTime source.1.time) →
        ∀ first, ExternalReference.mappingNamed reference.mappings (some name) = some first →
          convert first source.2.value = convert mapping source.2.value := by
  have destination : ∀ mapping ∈ reference.mappings, ∀ time ≠ UtcTime.null,
      mapping.period.intersectsTime time = true →
        ExternalReference.destination reference.mappings time = mapping.internalName := by
    intro mapping found time timeNull inside
    rw [ExternalReference.destination, ExternalReference.mappingAt_eq disjoint found timeNull inside,
      Option.bind_some]
  constructor
  · intro own source member timeNull mapping found inside name named notIgnored notOlder first mapped
    obtain ⟨again, age, againMapped, ageFound, passed⟩ := exists_relevantData returned member
      ((destination mapping found _ timeNull inside).trans named) notIgnored
    obtain rfl := Option.some.inj (againMapped.symm.trans mapped)
    obtain ⟨data, dataFound, _, point, pointFound, time, value⟩ := passed (notOlder age ageFound)
    rw [value, own data dataFound point pointFound source member time.symm (time ▸ timeNull) mapping found (time ▸ inside)]
  · intro agree data dataFound point pointFound source member time timeNull mapping found inside
    obtain ⟨name, first, age, _, notIgnored, mapped, ageFound, _, points⟩ := mem_relevantData returned dataFound
    obtain ⟨notOlder, named, other, otherFound, otherTime, value⟩ := points point pointFound
    obtain rfl := SortedEntries.entry_unique otherFound member (otherTime.trans time.symm)
    rw [destination mapping found _ timeNull inside] at named
    rw [← time] at notOlder inside timeNull
    rw [← agree other member timeNull mapping found inside name named notIgnored ?_ first mapped]
    · exact value
    · intro again againFound
      obtain rfl := Except.ok.inj (ageFound.symm.trans againFound)
      exact notOlder

theorem relevantData_converted_same_scale :
    let double := fun period : TimePeriod => (⟨period, some "/A", 2, 0, -1, -1⟩ : Mapping Int)
    let first := double ⟨.ofTicks Utc.hour, .ofTicks (2 * Utc.hour)⟩
    let second := double ⟨.ofTicks (2 * Utc.hour), .ofTicks (3 * Utc.hour)⟩
    let sourceTs := seriesOf .hour [pointAt Utc.hour 1, pointAt (2 * Utc.hour) 2]
    ∃ result, receiveTimeSeries noRows sourceTs (.ofTicks (4 * Utc.hour)) none ⟨[first, second], none⟩ [] =
        .ok result ∧
      ∀ data ∈ result.relevantData, ∀ point ∈ data.points.entries, ∀ source ∈ sourceTs.points.entries,
        source.1 = point.1 → point.1.time ≠ UtcTime.null → ∀ mapping ∈ [first, second],
          mapping.period.intersectsTime point.1.time = true →
            convert mapping source.2.value = .ok point.2.value := by
  intro double first second sourceTs
  obtain ⟨result, returned⟩ := exists_ok (show (receiveTimeSeries noRows sourceTs (.ofTicks (4 * Utc.hour))
    none ⟨[first, second], none⟩ []).toOption.isSome = true by decide)
  have disjoint := ExternalReference.disjoint_pair (show first.period.Valid by decide)
    (show second.period.Valid by decide) (le_refl _)
  refine ⟨result, returned, (relevantData_converted_iff disjoint returned).mpr ?_⟩
  intro source _ _ mapping found _ name named _ _ other mapped
  have either : other ∈ [first, second] := List.mem_of_find?_eq_some mapped
  rcases List.mem_pair.mp found with rfl | rfl <;> rcases List.mem_pair.mp either with rfl | rfl <;> rfl

/-- The second mapping of a name is not used: a value of 2 in its period is passed
on as it is, where the mapping of its time asks for its double. -/
theorem relevantData_first_mapping :
    let first := plainMapping ⟨.ofTicks Utc.hour, .ofTicks (2 * Utc.hour)⟩ (some "/A")
    let second : Mapping Int := ⟨⟨.ofTicks (2 * Utc.hour), .ofTicks (3 * Utc.hour)⟩, some "/A", 2, 0, -1, -1⟩
    ExternalReference.Disjoint [first, second] ∧
    ((receiveTimeSeries noRows (seriesOf .hour [pointAt Utc.hour 1, pointAt (2 * Utc.hour) 2])
        (.ofTicks (4 * Utc.hour)) none ⟨[first, second], none⟩ []).toOption.map fun result =>
          result.relevantData.map fun data => data.points.entries.map fun point =>
            (point.1.time, point.2.value)) =
      some [[(.ofTicks Utc.hour, 1), (.ofTicks (2 * Utc.hour), 2)]] ∧
    second.period.intersectsTime (.ofTicks (2 * Utc.hour)) = true ∧
    (convert second 2).toOption = some 4 :=
  ⟨ExternalReference.disjoint_pair (by decide) (by decide) (by decide), by decide, by decide, by decide⟩

end ImportExport

end ServiceHost
