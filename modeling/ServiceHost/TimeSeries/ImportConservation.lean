import ServiceHost.TimeSeries.ImportContributions

/-!
Import conservation: every received point is either reported once or passed on
once, and the reports are those that the import definitions and the ages from
before the call ask for.
-/

namespace ServiceHost

open Library

namespace ImportExport

variable {D : Type} [DoubleArithmetic D] {table : AgeTable} {sourceTime : UtcTime}
  {replacePeriod : Option TimePeriod}

section Contributions

variable {mappings : List (Mapping D)} {currentAges : List TimeSeriesAge} {ts : TimeSeries D}
  {part : Received D}

theorem Contribution.times_perm (contribution : Contribution table sourceTime replacePeriod mappings currentAges ts part) :
    (part.status.map (fun entry => entry.tvq.limitTime) ++ part.relevantData.flatMap TimeSeries.times).Perm ts.times := by
  cases contribution with
  | missing unnamed =>
      rw [statusOf_times]
      simp
  | ignored named =>
      rw [statusOf_times]
      simp
  | received named notIgnored mapped converted found replaced judged aged =>
      rename_i name mapping internalSeries age updated internalPeriod fragments trimmed
      obtain ⟨_, _, all⟩ := (converts_convertValues mapping).result ts internalSeries converted
      rw [← mapped_times all]
      exact trimmed_times_perm judged

theorem Contribution.missing_iff
    (contribution : Contribution table sourceTime replacePeriod mappings currentAges ts part) {time : LimitTime}
    (member : time ∈ ts.times) :
    (∃ entry ∈ part.status, entry.tvq.limitTime = time ∧ entry.status = .missingImportDefinition) ↔
      ts.name = none := by
  cases contribution with
  | missing unnamed =>
      refine iff_of_true ?_ unnamed
      obtain ⟨entry, found, same⟩ := mem_statusOf.mpr member
      exact ⟨entry, found, same, statusOf_status found⟩
  | ignored named =>
      refine iff_of_false ?_ (by simp [named])
      rintro ⟨entry, found, _, wrong⟩
      cases (statusOf_status found).symm.trans wrong
  | received named notIgnored mapped converted found replaced judged aged =>
      refine iff_of_false ?_ (by simp [named])
      rintro ⟨entry, found, _, wrong⟩
      cases (olderStatus_status found).symm.trans wrong

theorem Contribution.older_iff
    (contribution : Contribution table sourceTime replacePeriod mappings currentAges ts part) {time : LimitTime}
    (member : time ∈ ts.times) :
    (∃ entry ∈ part.status, entry.tvq.limitTime = time ∧ entry.status = .moreRecentDataExists) ↔
      ∃ name age, ts.name = some name ∧ name ≠ ExternalReference.importDefinitionIgnore ∧
        getTimeSeriesAge table name currentAges = .ok age ∧ age.Older sourceTime time.time := by
  cases contribution with
  | missing unnamed =>
      refine iff_of_false ?_ (by simp [unnamed])
      rintro ⟨entry, found, _, wrong⟩
      cases (statusOf_status found).symm.trans wrong
  | ignored named =>
      refine iff_of_false ?_ ?_
      · rintro ⟨entry, found, _, wrong⟩
        cases (statusOf_status found).symm.trans wrong
      · rintro ⟨name, age, same, notIgnored, _⟩
        exact notIgnored (Option.some.inj (same.symm.trans named))
  | received named notIgnored mapped converted found replaced judged aged =>
      rename_i name mapping internalSeries age updated internalPeriod fragments trimmed
      obtain ⟨internalName, _, all⟩ := (converts_convertValues mapping).result ts internalSeries converted
      rw [← mapped_times all] at member
      constructor
      · rintro ⟨entry, inside, same, _⟩
        have older := (mem_olderStatus judged (internalName.trans named)).mp ⟨entry, inside, same⟩
        exact ⟨name, age, named, notIgnored, found, older.2⟩
      · rintro ⟨other, otherAge, otherNamed, _, otherFound, older⟩
        obtain rfl := Option.some.inj (named.symm.trans otherNamed)
        obtain rfl := Except.ok.inj (found.symm.trans otherFound)
        obtain ⟨entry, inside, same⟩ := (mem_olderStatus judged (internalName.trans named)).mpr ⟨member, older⟩
        exact ⟨entry, inside, same, olderStatus_status inside⟩

theorem Contribution.status_cases
    (contribution : Contribution table sourceTime replacePeriod mappings currentAges ts part) :
    ∀ entry ∈ part.status, entry.status = .missingImportDefinition ∨ entry.status = .importDefinitionIgnore ∨
      entry.status = .moreRecentDataExists := by
  intro entry member
  cases contribution with
  | missing unnamed => exact Or.inl (statusOf_status member)
  | ignored named => exact Or.inr (Or.inl (statusOf_status member))
  | received named notIgnored mapped converted found replaced judged aged =>
      exact Or.inr (Or.inr (olderStatus_status member))

end Contributions

section Conservation

variable {sourceTs : TimeSeries D} {reference : ExternalReference D} {currentAges : List TimeSeriesAge}
  {result : ImportExport D}

theorem exists_contribution {array : List (TimeSeries D)} {parts : List (Received D)}
    (contributions : Contributions table sourceTime replacePeriod reference.mappings currentAges sourceTs array parts)
    {point : Entry D} (member : point ∈ sourceTs.points.entries) :
    ∃ ts ∈ array, ∃ part ∈ parts,
      Contribution table sourceTime replacePeriod reference.mappings currentAges ts part ∧
      ts.name = ExternalReference.destination reference.mappings point.1.time ∧ point ∈ ts.points.entries := by
  obtain ⟨group, found, key, inside⟩ := contributions.grouped.exists_group member
  obtain ⟨ts, tsFound, rfl⟩ := List.mem_map.mp found
  obtain ⟨part, partFound, contribution⟩ := (mem_of_forall₂ contributions.all).1 ts tsFound
  exact ⟨ts, tsFound, part, partFound, contribution, key, inside⟩

theorem contribution_of_part {array : List (TimeSeries D)} {parts : List (Received D)}
    (contributions : Contributions table sourceTime replacePeriod reference.mappings currentAges sourceTs array parts)
    {part : Received D} (member : part ∈ parts) :
    ∃ ts ∈ array, Contribution table sourceTime replacePeriod reference.mappings currentAges ts part ∧
      ∀ point ∈ ts.points.entries, point ∈ sourceTs.points.entries ∧
        ExternalReference.destination reference.mappings point.1.time = ts.name := by
  obtain ⟨ts, found, contribution⟩ := (mem_of_forall₂ contributions.all).2 part member
  exact ⟨ts, found, contribution, fun _ => (contributions.grouped.mem_iff (List.mem_map_of_mem found)).mp⟩

theorem reported_iff
    (returned : receiveTimeSeries table sourceTs sourceTime replacePeriod reference currentAges = .ok result)
    {status : StorageStatus} (rule : Option String → LimitTime → Prop)
    (own : ∀ ts part, Contribution table sourceTime replacePeriod reference.mappings currentAges ts part →
      ∀ time ∈ ts.times, ((∃ entry ∈ part.status, entry.tvq.limitTime = time ∧ entry.status = status) ↔
        rule ts.name time))
    {time : LimitTime} (member : time ∈ sourceTs.times) :
    (∃ entry ∈ result.status, entry.tvq.limitTime = time ∧ entry.status = status) ↔
      rule (ExternalReference.destination reference.mappings time.time) time := by
  obtain ⟨array, parts, contributions, collected⟩ := receiveTimeSeries_ok returned
  constructor
  · rintro ⟨entry, found, rfl, reported⟩
    rw [collected.status, List.nil_append] at found
    obtain ⟨part, partFound, inside⟩ := List.mem_flatMap.mp found
    obtain ⟨ts, _, contribution, source⟩ := contribution_of_part contributions partFound
    have inTs : entry.tvq.limitTime ∈ ts.times := contribution.times_perm.mem_iff.mp
      (List.mem_append_left _ (List.mem_map_of_mem inside))
    obtain ⟨point, pointFound, same⟩ := List.mem_map.mp inTs
    rw [← same, (source point pointFound).2, same]
    exact (own ts part contribution _ inTs).mp ⟨entry, inside, rfl, reported⟩
  · intro holds
    obtain ⟨point, found, rfl⟩ := List.mem_map.mp member
    obtain ⟨ts, _, part, partFound, contribution, name, inside⟩ := exists_contribution contributions found
    rw [← name] at holds
    obtain ⟨entry, entryFound, same⟩ := (own ts part contribution _ (List.mem_map_of_mem inside)).mpr holds
    refine ⟨entry, ?_, same⟩
    rw [collected.status, List.nil_append]
    exact List.mem_flatMap.mpr ⟨part, partFound, entryFound⟩

theorem contributions_times_perm {array : List (TimeSeries D)} {parts : List (Received D)}
    {mappings : List (Mapping D)}
    (all : List.Forall₂ (Contribution table sourceTime replacePeriod mappings currentAges) array parts) :
    ((parts.flatMap Received.status).map (fun entry => entry.tvq.limitTime) ++
      (parts.flatMap Received.relevantData).flatMap TimeSeries.times).Perm
        (array.flatMap TimeSeries.times) := by
  induction all with
  | nil => exact List.Perm.refl _
  | cons head _ ih =>
      rename_i ts part _ rest
      simp only [List.flatMap_cons, List.map_append, List.flatMap_append]
      have swapped : ∀ first second third fourth : List LimitTime,
          ((first ++ second) ++ (third ++ fourth)).Perm ((first ++ third) ++ (second ++ fourth)) := by
        intro first second third fourth
        rw [List.append_assoc, List.append_assoc, ← List.append_assoc second, ← List.append_assoc third]
        exact (List.perm_append_comm.append_right fourth).append_left first
      exact (swapped _ _ _ _).trans (head.times_perm.append ih)

/-- Every received point is reported once or passed on once, and nothing else is.
It is reported as missing an import definition exactly when the first mapping at
its time, if there is one, has no internal series, and as old exactly when the age
of its series from before the call is newer than the message at millisecond accuracy. -/
theorem receiveTimeSeries_conserves
    (returned : receiveTimeSeries table sourceTs sourceTime replacePeriod reference currentAges = .ok result) :
    let handled := result.status.map (fun entry => entry.tvq.limitTime) ++
      result.relevantData.flatMap TimeSeries.times
    handled.Nodup ∧ handled.Perm sourceTs.times ∧
      (∀ entry ∈ result.status, entry.status = .missingImportDefinition ∨
        entry.status = .importDefinitionIgnore ∨ entry.status = .moreRecentDataExists) ∧
      ∀ time ∈ sourceTs.times,
        ((∃ entry ∈ result.status, entry.tvq.limitTime = time ∧ entry.status = .missingImportDefinition) ↔
          ∀ mapping, ExternalReference.mappingAt reference.mappings time.time = some mapping →
            mapping.internalName = none) ∧
        ((∃ entry ∈ result.status, entry.tvq.limitTime = time ∧ entry.status = .moreRecentDataExists) ↔
          ∃ mapping name age, ExternalReference.mappingAt reference.mappings time.time = some mapping ∧
            mapping.internalName = some name ∧ name ≠ ExternalReference.importDefinitionIgnore ∧
            getTimeSeriesAge table name currentAges = .ok age ∧
            age.getAge time.time ≠ UtcTime.null ∧
            sourceTime.trimToMillisecondAccuracy < age.getAge time.time) := by
  have perm : (result.status.map (fun entry => entry.tvq.limitTime) ++
      result.relevantData.flatMap TimeSeries.times).Perm sourceTs.times := by
    obtain ⟨array, parts, contributions, collected⟩ := receiveTimeSeries_ok returned
    have whole := contributions.grouped.perm.map Prod.fst
    rw [List.flatMap_map, List.map_flatMap] at whole
    rw [collected.status, collected.relevantData, List.nil_append, List.nil_append]
    exact (contributions_times_perm contributions.all).trans whole
  have sorted : sourceTs.times.Nodup :=
    (List.pairwise_map.mpr sourceTs.points.sorted).imp ne_of_lt
  refine ⟨perm.nodup_iff.mpr sorted, perm, ?_, fun time member => ⟨?_, ?_⟩⟩
  · intro entry found
    obtain ⟨array, parts, contributions, collected⟩ := receiveTimeSeries_ok returned
    rw [collected.status, List.nil_append] at found
    obtain ⟨part, partFound, inside⟩ := List.mem_flatMap.mp found
    obtain ⟨ts, _, contribution, _⟩ := contribution_of_part contributions partFound
    exact contribution.status_cases entry inside
  · refine (reported_iff returned (fun name _ => name = none)
      (fun _ _ contribution _ => contribution.missing_iff) member).trans ?_
    simp only [ExternalReference.destination, Option.bind_eq_none_iff]
  · refine (reported_iff returned (fun name time => ∃ own age, name = some own ∧
      own ≠ ExternalReference.importDefinitionIgnore ∧ getTimeSeriesAge table own currentAges = .ok age ∧
        age.Older sourceTime time.time)
      (fun _ _ contribution _ => contribution.older_iff) member).trans ?_
    constructor
    · rintro ⟨name, age, destination, notIgnored, found, older⟩
      obtain ⟨mapping, first, internalName⟩ := Option.bind_eq_some_iff.mp destination
      exact ⟨mapping, name, age, first, internalName, notIgnored, found, older⟩
    · rintro ⟨mapping, name, age, first, internalName, notIgnored, found, older⟩
      exact ⟨name, age, Option.bind_eq_some_iff.mpr ⟨mapping, first, internalName⟩, notIgnored, found, older⟩

end Conservation

theorem receiveTimeSeries_conserves_hours :
    let sourceTs := seriesOf .hour [pointAt Utc.hour 1, pointAt (2 * Utc.hour) 2, pointAt (3 * Utc.hour) 3]
    let reference : ExternalReference Int :=
      ⟨[plainMapping ⟨.ofTicks Utc.hour, .ofTicks (3 * Utc.hour)⟩ (some "/A")], none⟩
    let currentAges := [ageOf "/A" ⟨.ofTicks Utc.hour, .ofTicks (2 * Utc.hour)⟩ (.ofTicks (5 * Utc.hour))]
    ∃ result, receiveTimeSeries noRows sourceTs (.ofTicks (4 * Utc.hour)) none reference currentAges =
        .ok result ∧
      (result.status.map (fun entry => entry.tvq.limitTime) ++
        result.relevantData.flatMap TimeSeries.times).Perm sourceTs.times := by
  intro sourceTs reference currentAges
  obtain ⟨result, returned⟩ := exists_ok (show (receiveTimeSeries noRows sourceTs (.ofTicks (4 * Utc.hour))
    none reference currentAges).toOption.isSome = true by decide)
  exact ⟨result, returned, (receiveTimeSeries_conserves returned).2.1⟩

/-- Why the accuracy and the name matter: a message of -15000 ticks counts as one
of -10000, so an age of -10000 is not newer; and a mapping without an internal
name leaves its points without an import definition. -/
theorem receiveTimeSeries_rounds_sourceTime :
    let sourceTs := seriesOf .unconstrained [pointAt 10000 1]
    let period : TimePeriod := ⟨.ofTicks 10000, .ofTicks 20000⟩
    let age := ageOf "/A" period (.ofTicks (-10000))
    ((receiveTimeSeries noRows sourceTs (.ofTicks (-15000)) none
        ⟨[plainMapping period (some "/A")], none⟩ [age]).toOption.map fun result =>
          result.status.map TvqStorageStatus.status) = some [] ∧
      UtcTime.ofTicks (-15000) < age.getAge (.ofTicks 10000) ∧
    ((receiveTimeSeries noRows sourceTs (.ofTicks 20000) none
        ⟨[plainMapping period none], none⟩ [age]).toOption.map fun result =>
          result.status.map TvqStorageStatus.status) = some [.missingImportDefinition] ∧
      period.intersectsTime (.ofTicks 10000) = true := by
  decide

end ImportExport

end ServiceHost
