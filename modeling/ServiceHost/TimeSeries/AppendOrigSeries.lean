import ServiceHost.TimeSeries.ProtectCorrectedValues
import ServiceHost.TimeSeries.TsWriter

/-!
The copy for the original values: which points and which periods to delete reach
the database when the items are built to append it. The points are copied by their
flag, the periods are all copied.
-/

namespace ServiceHost

open Library TsWriter

open TsWriteItemsFromArrays (ofLists)

variable {D N : Type}

def Flagged (optional : OptionalArrays) (points : List (TsPoint D)) (timsKey : Int) : Prop :=
  optional.paraFlags = true ∧ ∃ point ∈ points, point.timsKey = timsKey ∧ point.paraFlag = 1

instance (optional : OptionalArrays) (points : List (TsPoint D)) (timsKey : Int) :
    Decidable (Flagged optional points timsKey) := inferInstanceAs (Decidable (_ ∧ _))

def mirroredPeriods (optional : OptionalArrays) (points : List (TsPoint D)) (periods : List DeletePeriod) :
    List DeletePeriod :=
  periods.filter (fun period => period.vlcode = originalValues) ++
    (periods.filter fun period => period.vlcode = 0 ∧ Flagged optional points period.timsKey).map
      fun period => { period with vlcode := originalValues }

def MirrorsOriginals [OracleDouble D N] (optional : OptionalArrays) (points : List (TsPoint D))
    (periods : List DeletePeriod) (tzDb : RegionalCalendar) (outcome : Except SystemException (BulkWrite N)) : Prop :=
  ∃ (sorted : List (TsPoint D)) (bulkPoints : List (BulkPoint N)) (bulkPeriods : List BulkPeriod),
    outcome = .ok (.ofRows bulkPoints bulkPeriods) ∧
    sorted.Perm (preparedPoints optional true points) ∧
    sorted.Pairwise (fun point other => point.sortKey ≤ other.sortKey) ∧
    sorted.mapM (TsPoint.row optional) = .ok bulkPoints ∧
    (mirroredPeriods optional points periods).mapM (DeletePeriod.row tzDb) =
      .ok (bulkPeriods.filter fun period => period.vlcode = originalValues)

def Deletable (optional : OptionalArrays) (points : List (TsPoint D)) (tzDb : RegionalCalendar)
    (protectCorrectedValues : Bool) (period : DeletePeriod) : Prop :=
  if protectCorrectedValues = true ∧ optional.lcDates = true ∧ period.vlcode = 0 then
    ∃ fromTime untilTime second, period.Reads tzDb points fromTime untilTime second ∧
      (firstWithin (seriesTimes points period.timsKey) fromTime untilTime second ≤ untilTime →
        ∃ begin_, period.BeginsAt tzDb points begin_)
  else ∃ row, period.row tzDb = .ok row

structure Mirrorable [OracleDouble D N] (optional : OptionalArrays) (points : List (TsPoint D))
    (periods : List DeletePeriod) (tzDb : RegionalCalendar) (protectCorrectedValues : Bool) : Prop where
  sortable : Sortable (preparedPoints optional true points)
  values : ∀ point ∈ points, ∃ handed : Option N × BitVec 32, handedValue point.value point.quality = .ok handed
  untouched : protectCorrectedValues = true → optional.lcDates = true → ∀ point ∈ points,
    ¬point.Covered ∧ (point.vlcode = 0 → point.lcDate ≠ UtcTime.null → point.time ≠ UtcTime.null)
  deletes : ∀ period ∈ preparedPeriods optional true periods,
    Deletable optional (preparedPoints optional true points) tzDb protectCorrectedValues period
  flagged : optional.paraFlags = true → ∀ period ∈ periods, period.vlcode = 0 →
    Flagged optional points period.timsKey

section Periods

variable {optional : OptionalArrays} {points : List (TsPoint D)} {periods : List DeletePeriod} {tzDb : RegionalCalendar}

theorem flatMap_origPeriod (periods : List DeletePeriod) :
    periods.flatMap DeletePeriod.origPeriod =
      (periods.filter fun period => period.vlcode = 0).map fun period => { period with vlcode := originalValues } := by
  induction periods with
  | nil => rfl
  | cons period periods ih =>
      by_cases value : period.vlcode = 0
      · simp [DeletePeriod.origPeriod, value, ih]
      · simp [DeletePeriod.origPeriod, value, ih]

theorem preparedPeriods_originals (optional : OptionalArrays) (periods : List DeletePeriod) :
    (preparedPeriods optional true periods).filter (fun period => period.vlcode = originalValues) =
      periods.filter (fun period => period.vlcode = originalValues) ++
        (if optional.paraFlags then periods.filter fun period => period.vlcode = 0 else []).map
          fun period => { period with vlcode := originalValues } := by
  cases flags : optional.paraFlags with
  | false => simp [preparedPeriods, flags]
  | true =>
      have copies : (periods.flatMap DeletePeriod.origPeriod).filter (fun period => period.vlcode = originalValues) =
          periods.flatMap DeletePeriod.origPeriod := by
        rw [List.filter_eq_self, flatMap_origPeriod]
        intro period member
        obtain ⟨given, _, rfl⟩ := List.mem_map.mp member
        simp
      simp only [preparedPeriods, flags, Bool.and_self, if_true, List.filter_append, copies]
      rw [flatMap_origPeriod]

theorem mapM_row_filter {bulkPeriods : List BulkPeriod} (run : periods.mapM (DeletePeriod.row tzDb) = .ok bulkPeriods) :
    (periods.filter fun period => period.vlcode = originalValues).mapM (DeletePeriod.row tzDb) =
      .ok (bulkPeriods.filter fun period => period.vlcode = originalValues) := by
  induction periods generalizing bulkPeriods with
  | nil =>
      cases run
      rfl
  | cons period periods ih =>
      simp only [List.mapM_cons, bind_eq_ok_iff] at run
      obtain ⟨row, handed, rows, others, same⟩ := run
      cases same
      have sameCode : row.vlcode = period.vlcode := by
        simp only [DeletePeriod.row, bind_eq_ok_iff] at handed
        obtain ⟨_, _, _, _, made⟩ := handed
        cases made
        rfl
      by_cases original : period.vlcode = originalValues
      · simp [original, sameCode, handed, ih others]
      · simp [original, sameCode, ih others]

theorem mirrors_iff (points : List (TsPoint D)) {bulkPeriods : List BulkPeriod}
    (run : ((preparedPeriods optional true periods).filter fun period => period.vlcode = originalValues).mapM
      (DeletePeriod.row tzDb) = .ok bulkPeriods) :
    (mirroredPeriods optional points periods).mapM (DeletePeriod.row tzDb) = .ok bulkPeriods ↔
      (optional.paraFlags = true → ∀ period ∈ periods, period.vlcode = 0 → Flagged optional points period.timsKey) := by
  rw [preparedPeriods_originals] at run
  have twice : (periods.filter fun period => period.vlcode = 0 ∧ Flagged optional points period.timsKey) =
      (periods.filter fun period => period.vlcode = 0).filter fun period => Flagged optional points period.timsKey := by
    rw [List.filter_filter]
    apply List.filter_congr
    intro period _
    simp [Bool.and_comm]
  constructor
  · intro mirrors flags
    have lengths := (mapM_length mirrors).symm.trans (mapM_length run)
    simp only [mirroredPeriods, flags, if_true, List.length_append, List.length_map, Nat.add_left_cancel_iff, twice,
      List.length_filter_eq_length_iff] at lengths
    intro period member value
    simpa using lengths period (List.mem_filter.mpr ⟨member, by simpa using value⟩)
  · intro flagged
    rw [← run, mirroredPeriods]
    cases flags : optional.paraFlags with
    | false => simp [Flagged, flags]
    | true =>
        have all : (periods.filter fun period => period.vlcode = 0 ∧ Flagged optional points period.timsKey) =
            periods.filter fun period => period.vlcode = 0 := by
          apply List.filter_congr
          intro period member
          by_cases value : period.vlcode = 0
          · simp [value, flagged flags period member value]
          · simp [value]
        rw [all, if_pos rfl]

end Periods

section Stores

variable [OracleDouble D N] {optional : OptionalArrays} {points : List (TsPoint D)} {periods : List DeletePeriod}
  {tzDb : RegionalCalendar}

theorem mem_preparedPoints {point : TsPoint D} (member : point ∈ preparedPoints optional true points) :
    ∃ given ∈ points, point = given ∨ point = { given with vlcode := originalValues } := by
  rw [preparedPoints] at member
  split at member
  · rcases List.mem_append.mp member with present | copy
    · exact ⟨point, present, Or.inl rfl⟩
    · obtain ⟨given, present, same⟩ := List.mem_flatMap.mp copy
      rw [TsPoint.origPoint] at same
      split at same
      · exact ⟨given, present, Or.inr (List.mem_singleton.mp same)⟩
      · cases same
  · exact ⟨point, member, Or.inl rfl⟩

theorem preparedPoints_of_mem {point : TsPoint D} (member : point ∈ points) :
    point ∈ preparedPoints optional true points := by
  rw [preparedPoints]
  split
  · exact List.mem_append_left _ member
  · exact member

theorem rows_iff :
    (∀ point ∈ preparedPoints optional true points, ∃ row : BulkPoint N, point.row optional = .ok row) ↔
      ∀ point ∈ points, ∃ handed : Option N × BitVec 32, handedValue point.value point.quality = .ok handed := by
  constructor
  · intro rows point member
    obtain ⟨row, handed⟩ := rows point (preparedPoints_of_mem member)
    simp only [TsPoint.row, bind_eq_ok_iff] at handed
    obtain ⟨value, converted, _⟩ := handed
    exact ⟨value, converted⟩
  · intro values point member
    obtain ⟨given, present, same⟩ := mem_preparedPoints member
    obtain ⟨handed, converted⟩ := values given present
    have sameValue : handedValue (N := N) point.value point.quality = .ok handed := by
      rcases same with rfl | rfl
      · exact converted
      · exact converted
    simp [TsPoint.row, sameValue]

theorem write_mirrors_iff {left : List DeletePeriod}
    (originals : left.filter (fun period => period.vlcode = originalValues) =
      (preparedPeriods optional true periods).filter fun period => period.vlcode = originalValues) :
    ((∃ outcome : Except SystemException (BulkWrite N),
        WriteValues (ofLists optional (preparedPoints optional true points) left tzDb) outcome) ∧
      ∀ outcome : Except SystemException (BulkWrite N),
        WriteValues (ofLists optional (preparedPoints optional true points) left tzDb) outcome →
          MirrorsOriginals optional points periods tzDb outcome) ↔
      Sortable (preparedPoints optional true points) ∧
      (∀ point ∈ points, ∃ handed : Option N × BitVec 32, handedValue point.value point.quality = .ok handed) ∧
      (∀ period ∈ left, ∃ row, DeletePeriod.row tzDb period = .ok row) ∧
      (optional.paraFlags = true → ∀ period ∈ periods, period.vlcode = 0 → Flagged optional points period.timsKey) := by
  have rewritten {bulkPeriods : List BulkPeriod} (run : left.mapM (DeletePeriod.row tzDb) = .ok bulkPeriods) :=
    mirrors_iff points (originals ▸ mapM_row_filter run)
  constructor
  · rintro ⟨possible, mirrors⟩
    obtain ⟨sortable, rows, changed⟩ := writeValues_needs _ _ _ possible fun outcome writes => by
      obtain ⟨_, bulkPoints, bulkPeriods, same, _⟩ := mirrors outcome writes
      exact ⟨_, same⟩
    obtain ⟨outcome, writes⟩ := possible
    obtain ⟨sorted, bulkPoints, bulkPeriods, same, _, _, _, written⟩ :=
      (writeValues_returns _ _ _ sortable rows changed).2 outcome writes
    obtain ⟨_, otherPoints, otherPeriods, otherSame, _, _, _, mirrored⟩ := mirrors outcome writes
    rw [← BulkWrite.ofRows_periods (Except.ok.inj (same.symm.trans otherSame))] at mirrored
    exact ⟨sortable, rows_iff.mp rows, changed, (rewritten written).mp mirrored⟩
  · rintro ⟨sortable, values, changed, flagged⟩
    obtain ⟨possible, returns⟩ := writeValues_returns optional left tzDb sortable (rows_iff.mpr values) changed
    refine ⟨possible, fun outcome writes => ?_⟩
    obtain ⟨sorted, bulkPoints, bulkPeriods, same, perm, ordered, handed, written⟩ := returns outcome writes
    exact ⟨sorted, bulkPoints, bulkPeriods, same, perm, ordered, handed, (rewritten written).mpr flagged⟩

end Stores

section Protected

variable {optional : OptionalArrays} {points : List (TsPoint D)} {periods : List DeletePeriod} {tzDb : RegionalCalendar}

theorem row_returns_iff {period : DeletePeriod} :
    (∃ row, period.row tzDb = .ok row) ↔ ∃ fromTime untilTime,
      tzDb.ofDatabaseString period.fromDate17 = .ok fromTime ∧ tzDb.ofDatabaseString period.untilDate17 = .ok untilTime := by
  simp only [DeletePeriod.row, bind_eq_ok_iff]
  constructor
  · rintro ⟨_, fromTime, fromDate, untilTime, untilDate, _⟩
    exact ⟨fromTime, untilTime, fromDate, untilDate⟩
  · rintro ⟨fromTime, untilTime, fromDate, untilDate⟩
    exact ⟨_, fromTime, fromDate, untilTime, untilDate, rfl⟩

theorem deletable_iff (dates : optional.lcDates = true) (period : DeletePeriod) :
    Deletable optional points tzDb true period ↔
      ∃ kept, period.shorten tzDb points = .ok kept ∧ ∀ left ∈ kept, ∃ row, left.row tzDb = .ok row := by
  by_cases value : period.vlcode = 0
  · simp only [Deletable, dates, value, and_self, if_true]
    constructor
    · rintro ⟨fromTime, untilTime, second, reads, readable⟩
      by_cases within : firstWithin (seriesTimes points period.timsKey) fromTime untilTime second ≤ untilTime
      · obtain ⟨begin_, begins⟩ := readable within
        obtain ⟨kept, run, text⟩ := (DeletePeriod.beginsAt_iff value).mp begins
        refine ⟨some kept, run, fun left same => ?_⟩
        obtain rfl := Option.some.inj same
        obtain ⟨fromDate17, rfl⟩ := DeletePeriod.shorten_some run
        exact row_returns_iff.mpr ⟨begin_, untilTime, text, reads.untilDate⟩
      · refine ⟨none, (DeletePeriod.shorten_eq_ok_iff value).mpr ⟨fromTime, untilTime, second, reads, ?_⟩, ?_⟩
        · simp only [within, if_false]
        · intro left same
          cases same
    · rintro ⟨kept, run, rows⟩
      obtain ⟨fromTime, untilTime, second, reads, outcome⟩ := (DeletePeriod.shorten_eq_ok_iff value).mp run
      refine ⟨fromTime, untilTime, second, reads, fun within => ?_⟩
      simp only [within, if_true] at outcome
      obtain ⟨text, written, rfl⟩ := outcome
      obtain ⟨begin_, _, back, _⟩ := row_returns_iff.mp (rows _ rfl)
      exact ⟨begin_, fromTime, untilTime, second, text, reads, within, written, back⟩
  · simp [Deletable, value, DeletePeriod.shorten_of_other value]

theorem leftPeriods_rows_iff (dates : optional.lcDates = true) :
    (∀ period ∈ periods, Deletable optional points tzDb true period) ↔
      (∀ period ∈ periods, ∃ kept, DeletePeriod.shorten tzDb points period = .ok kept) ∧
        ∀ left ∈ leftPeriods tzDb points periods, ∃ row, DeletePeriod.row tzDb left = .ok row := by
  simp only [deletable_iff dates]
  constructor
  · intro deletable
    have returns (period : DeletePeriod) (member : period ∈ periods) :
        ∃ kept, DeletePeriod.shorten tzDb points period = .ok kept := by
      obtain ⟨kept, run, _⟩ := deletable period member
      exact ⟨kept, run⟩
    refine ⟨returns, fun left member => ?_⟩
    obtain ⟨period, given, run⟩ := (mem_leftPeriods returns).mp member
    obtain ⟨kept, otherRun, rows⟩ := deletable period given
    obtain rfl := Except.ok.inj (run.symm.trans otherRun)
    exact rows left rfl
  · rintro ⟨returns, rows⟩ period member
    obtain ⟨kept, run⟩ := returns period member
    refine ⟨kept, run, fun left same => ?_⟩
    obtain rfl : kept = some left := same
    exact rows left ((mem_leftPeriods returns).mpr ⟨period, member, run⟩)

theorem leftPeriods_originals :
    (leftPeriods tzDb points periods).filter (fun period => period.vlcode = originalValues) =
      periods.filter fun period => period.vlcode = originalValues := by
  have picked (period kept : DeletePeriod)
      (same : replacement (DeletePeriod.shorten tzDb points) period = some kept) :
      decide (kept.vlcode = originalValues) = decide (period.vlcode = originalValues) := by
    obtain ⟨fromDate17, rfl⟩ := DeletePeriod.shorten_some (replacement_some same)
    rfl
  have shown := (filterMap_shows_iff id picked periods).mpr fun period _ original => by
    have other : period.vlcode ≠ 0 := by
      intro value
      simp [value, originalValues] at original
    exact ⟨period, replacement_eq (DeletePeriod.shorten_of_other other), rfl⟩
  simpa [leftPeriods] using shown

theorem untouched_iff :
    (∀ point ∈ points, ¬point.Covered ∧ (point.vlcode = 0 → point.lcDate ≠ UtcTime.null → point.time ≠ UtcTime.null)) ↔
      ∀ point ∈ preparedPoints optional true points,
        ¬point.Covered ∧ (point.vlcode = 0 → point.lcDate ≠ UtcTime.null → point.time ≠ UtcTime.null) := by
  constructor
  · intro untouched point member
    obtain ⟨given, present, rfl | rfl⟩ := mem_preparedPoints member
    · exact untouched point present
    · simp [TsPoint.Covered, originalValues]
  · intro untouched point member
    exact untouched point (preparedPoints_of_mem member)

end Protected

section Main

variable [OracleDouble D N]

variable {optional : OptionalArrays} {points : List (TsPoint D)} {periods : List DeletePeriod} {tzDb : RegionalCalendar}

theorem storeValues_unprotected {protectCorrectedValues : Bool}
    (off : protectCorrectedValues = true → optional.lcDates = false) {outcome : Except SystemException (BulkWrite N)} :
    StoreValues (.ofPoints optional points) (.ofPeriods periods) tzDb true protectCorrectedValues outcome ↔
      WriteValues (ofLists optional (preparedPoints optional true points) (preparedPeriods optional true periods) tzDb)
        outcome := by
  have built : TsWriteItemsFromArrays.create (.ofPoints optional points) (.ofPeriods periods) tzDb true
      protectCorrectedValues = .ok (ofLists optional (preparedPoints optional true points)
        (preparedPeriods optional true periods) tzDb) := by
    rw [create_ofLists]
    cases protectCorrectedValues with
    | false => rfl
    | true => exact TsWriteItemsFromArrays.protect_missing (off rfl)
  rw [StoreValues, built]

theorem untouched_of_mirrors (dates : optional.lcDates = true)
    (possible : ∃ outcome : Except SystemException (BulkWrite N),
      StoreValues (.ofPoints optional points) (.ofPeriods periods) tzDb true true outcome)
    (mirrors : ∀ outcome : Except SystemException (BulkWrite N),
      StoreValues (.ofPoints optional points) (.ofPeriods periods) tzDb true true outcome →
        MirrorsOriginals optional points periods tzDb outcome) :
    ∀ point ∈ preparedPoints optional true points,
      ¬point.Covered ∧ (point.vlcode = 0 → point.lcDate ≠ UtcTime.null → point.time ≠ UtcTime.null) := by
  simp only [StoreValues, create_ofLists, if_true, TsWriteItemsFromArrays.protect_ofLists dates] at possible mirrors
  cases pointsRun : rebuild (TsPoint.protect optional) (preparedPoints optional true points) with
  | error exception =>
      simp only [pointsRun, error_bind] at mirrors
      obtain ⟨_, _, _, raised, _⟩ := mirrors _ rfl
      cases raised
  | ok reduced =>
      obtain ⟨times, _, taken⟩ := protectPoints_eq_ok_iff.mp pointsRun
      simp only [pointsRun, ok_bind] at possible mirrors
      cases periodsRun : rebuild (DeletePeriod.shorten tzDb reduced) (preparedPeriods optional true periods) with
      | error exception =>
          simp only [periodsRun, error_bind] at mirrors
          obtain ⟨_, _, _, raised, _⟩ := mirrors _ rfl
          cases raised
      | ok shortened =>
          simp only [periodsRun, ok_bind, pure_eq_ok] at possible mirrors
          obtain ⟨sortable, rows, changed⟩ := writeValues_needs _ _ _ possible fun outcome writes => by
            obtain ⟨_, bulkPoints, bulkPeriods, same, _⟩ := mirrors outcome writes
            exact ⟨_, same⟩
          obtain ⟨outcome, writes⟩ := possible
          obtain ⟨sorted, bulkPoints, bulkPeriods, same, perm, _, handed, _⟩ :=
            (writeValues_returns _ _ _ sortable rows changed).2 outcome writes
          obtain ⟨otherSorted, otherPoints, otherPeriods, otherSame, otherPerm, _, otherHanded, _⟩ :=
            mirrors outcome writes
          have sameLength : bulkPoints.length = otherPoints.length := by
            have keys := congrArg (fun bulk => bulk.timsKeys.length) (Except.ok.inj (same.symm.trans otherSame))
            simpa [BulkWrite.ofRows] using keys
          rw [mapM_length handed, mapM_length otherHanded, perm.length_eq, otherPerm.length_eq, ← taken,
            List.length_filter_eq_length_iff] at sameLength
          intro point member
          exact ⟨by simpa using sameLength point member, times point member⟩

theorem create_protected (dates : optional.lcDates = true)
    (untouched : ∀ point ∈ preparedPoints optional true points,
      ¬point.Covered ∧ (point.vlcode = 0 → point.lcDate ≠ UtcTime.null → point.time ≠ UtcTime.null)) :
    TsWriteItemsFromArrays.create (.ofPoints optional points) (.ofPeriods periods) tzDb true true = do
      let shortened ← rebuild (DeletePeriod.shorten tzDb (preparedPoints optional true points))
        (preparedPeriods optional true periods)
      return ofLists optional (preparedPoints optional true points) shortened tzDb := by
  have all : (preparedPoints optional true points).filter (fun point => ¬point.Covered) =
      preparedPoints optional true points := by
    rw [List.filter_eq_self]
    intro point member
    simpa using (untouched point member).1
  have pointsRun : rebuild (TsPoint.protect optional) (preparedPoints optional true points) =
      .ok (preparedPoints optional true points) := by
    refine protectPoints_eq_ok_iff.mpr ⟨fun point member => (untouched point member).2, ?_, all⟩
    rintro ⟨point, member, covered⟩
    exact absurd covered (untouched point member).1
  rw [create_ofLists]
  simp only [if_true]
  rw [TsWriteItemsFromArrays.protect_ofLists dates, pointsRun]
  rfl

theorem mirrorable_iff {protectCorrectedValues : Bool} :
    Mirrorable (N := N) optional points periods tzDb protectCorrectedValues ↔
      (protectCorrectedValues = true → optional.lcDates = true → ∀ point ∈ preparedPoints optional true points,
        ¬point.Covered ∧ (point.vlcode = 0 → point.lcDate ≠ UtcTime.null → point.time ≠ UtcTime.null)) ∧
      Sortable (preparedPoints optional true points) ∧
      (∀ point ∈ points, ∃ handed : Option N × BitVec 32, handedValue point.value point.quality = .ok handed) ∧
      (∀ period ∈ preparedPeriods optional true periods,
        Deletable optional (preparedPoints optional true points) tzDb protectCorrectedValues period) ∧
      (optional.paraFlags = true → ∀ period ∈ periods, period.vlcode = 0 → Flagged optional points period.timsKey) := by
  constructor
  · intro mirrorable
    exact ⟨fun on dates => untouched_iff.mp (mirrorable.untouched on dates), mirrorable.sortable, mirrorable.values,
      mirrorable.deletes, mirrorable.flagged⟩
  · rintro ⟨untouched, sortable, values, deletes, flagged⟩
    exact ⟨sortable, values, fun on dates => untouched_iff.mpr (untouched on dates), deletes, flagged⟩

/-- The original values are mirrored exactly when, whatever else the writer needs,
every period of values is one of a flagged series. -/
theorem appendOrigSeries_iff (optional : OptionalArrays) (points : List (TsPoint D)) (periods : List DeletePeriod)
    (tzDb : RegionalCalendar) (protectCorrectedValues : Bool) :
    ((∃ outcome : Except SystemException (BulkWrite N),
        StoreValues (.ofPoints optional points) (.ofPeriods periods) tzDb true protectCorrectedValues outcome) ∧
      ∀ outcome : Except SystemException (BulkWrite N),
        StoreValues (.ofPoints optional points) (.ofPeriods periods) tzDb true protectCorrectedValues outcome →
          MirrorsOriginals optional points periods tzDb outcome) ↔
      Mirrorable (N := N) optional points periods tzDb protectCorrectedValues := by
  rw [mirrorable_iff]
  by_cases protected_ : protectCorrectedValues = true ∧ optional.lcDates = true
  · obtain ⟨rfl, dates⟩ := protected_
    simp only [dates, forall_true_left]
    constructor
    · rintro ⟨possible, mirrors⟩
      have untouched := untouched_of_mirrors dates possible mirrors
      simp only [StoreValues, create_protected dates untouched] at possible mirrors
      cases periodsRun : rebuild (DeletePeriod.shorten tzDb (preparedPoints optional true points))
          (preparedPeriods optional true periods) with
      | error exception =>
          simp only [periodsRun, error_bind] at mirrors
          obtain ⟨_, _, _, raised, _⟩ := mirrors _ rfl
          cases raised
      | ok shortened =>
          simp only [periodsRun, ok_bind, pure_eq_ok] at possible mirrors
          obtain ⟨returns, rfl⟩ := rebuild_eq_ok_iff.mp periodsRun
          obtain ⟨sortable, values, changed, flagged⟩ := (write_mirrors_iff leftPeriods_originals).mp ⟨possible, mirrors⟩
          exact ⟨untouched, sortable, values, (leftPeriods_rows_iff dates).mpr ⟨returns, changed⟩, flagged⟩
    · rintro ⟨untouched, sortable, values, deletes, flagged⟩
      obtain ⟨returns, changed⟩ := (leftPeriods_rows_iff dates).mp deletes
      have periodsRun := rebuild_eq_ok_iff.mpr ⟨returns, rfl⟩
      simp only [StoreValues, create_protected dates untouched, periodsRun, ok_bind, pure_eq_ok]
      exact (write_mirrors_iff leftPeriods_originals).mpr ⟨sortable, values, changed, flagged⟩
  · have off : protectCorrectedValues = true → optional.lcDates = false := by
      intro on
      simpa [on] using protected_
    have deletable (period : DeletePeriod) :
        Deletable optional (preparedPoints optional true points) tzDb protectCorrectedValues period ↔
          ∃ row, period.row tzDb = .ok row := by
      rw [Deletable, if_neg fun all => protected_ ⟨all.1, all.2.1⟩]
    simp only [storeValues_unprotected off, deletable]
    rw [write_mirrors_iff rfl]
    constructor
    · intro written
      exact ⟨fun on dates => absurd ⟨on, dates⟩ protected_, written⟩
    · exact fun facts => facts.2

end Main

/-- Whole numbers, which the driver takes as they are. -/
instance : OracleDouble Int Int where
  isNaN _ := false
  toDecimal := pure

/-- Of a flagged series and one that is not, both lose their original values. -/
theorem appendOrigSeries_unflagged :
    ¬((∃ outcome : Except SystemException (BulkWrite Int),
        StoreValues (.ofPoints ⟨false, true, true⟩
            [{ valueAt 1 1577836800 UtcTime.null with paraFlag := 1 }, valueAt 2 1577836800 UtcTime.null])
          (.ofPeriods [valuesBetween 1 "20200101000000000" "20200101000000000",
            valuesBetween 2 "20200101000000000" "20200101000000000"]) .utcCalendar true false outcome) ∧
      ∀ outcome : Except SystemException (BulkWrite Int),
        StoreValues (.ofPoints ⟨false, true, true⟩
            [{ valueAt 1 1577836800 UtcTime.null with paraFlag := 1 }, valueAt 2 1577836800 UtcTime.null])
          (.ofPeriods [valuesBetween 1 "20200101000000000" "20200101000000000",
            valuesBetween 2 "20200101000000000" "20200101000000000"]) .utcCalendar true false outcome →
        MirrorsOriginals ⟨false, true, true⟩
          [{ valueAt 1 1577836800 UtcTime.null with paraFlag := 1 }, valueAt 2 1577836800 UtcTime.null]
          [valuesBetween 1 "20200101000000000" "20200101000000000", valuesBetween 2 "20200101000000000" "20200101000000000"]
          .utcCalendar outcome) := by
  have off : false = true → (⟨false, true, true⟩ : OptionalArrays).lcDates = false := fun on => by cases on
  simp only [storeValues_unprotected off]
  rw [write_mirrors_iff rfl]
  rintro ⟨_, _, _, flagged⟩
  exact absurd (flagged rfl (valuesBetween 2 "20200101000000000" "20200101000000000") (by decide) rfl) (by decide)

end ServiceHost
