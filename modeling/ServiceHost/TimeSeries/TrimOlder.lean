import ServiceHost.TimeSeries.TimeSeriesAge

/-!
What `TrimOverlappingAndOlder` leaves of a period is the part at whose times the age is
not older, in every age that is built up by valid calls. The time that is asked for is
trimmed towards zero and the null time is read as the whole axis, so this is about the
times that trimming takes back to their own millisecond.
-/

namespace ServiceHost

open Library

namespace UtcTime

def TrimsDown (time : UtcTime) : Prop := time.Aligned ∨ 0 ≤ time.ticks

instance (time : UtcTime) : Decidable time.TrimsDown := inferInstanceAs (Decidable (_ ∨ _))

theorem trim_ticks_nonneg {time : UtcTime} (sign : 0 ≤ time.ticks) :
    time.trimToMillisecondAccuracy.ticks = time.ticks - time.ticks % 10000 ∨ time.Aligned := by
  by_cases sentinel : time.ticks = Utc.maxValue ∨ time.ticks = Utc.minValue ∨ time.ticks = Utc.null
  · exact Or.inr (if_pos sentinel)
  · refine Or.inl ?_
    rw [trim_ticks sentinel, Int.tmod_eq_emod_of_nonneg sign]

theorem aligned_ticks {time : UtcTime} (aligned : time.Aligned) :
    time.ticks % 10000 = 0 ∨ time.ticks = Utc.maxValue ∨ time.ticks = Utc.minValue := by
  by_cases sentinel : time.ticks = Utc.maxValue ∨ time.ticks = Utc.minValue ∨ time.ticks = Utc.null
  · rcases sentinel with atMax | atMin | atNull
    · exact Or.inr (Or.inl atMax)
    · exact Or.inr (Or.inr atMin)
    · exact Or.inl (by rw [atNull]; rfl)
  · have ticks := trim_ticks sentinel
    have remainder := tmod_cases time.ticks 10000
    rw [show time.trimToMillisecondAccuracy = time from aligned] at ticks
    exact Or.inl (by omega)

theorem le_trim_iff {bound time : UtcTime} (aligned : bound.Aligned) (down : time.TrimsDown) :
    bound ≤ time.trimToMillisecondAccuracy ↔ bound ≤ time := by
  rcases down with whole | sign
  · rw [show time.trimToMillisecondAccuracy = time from whole]
  · rcases trim_ticks_nonneg sign with ticks | whole
    · have greatest : Utc.maxValue = 9223372036854775807 := rfl
      have least : Utc.minValue = -9223372036854775807 := rfl
      have upper := time.upper
      have multiple := aligned_ticks aligned
      by_cases atMax : time.ticks = Utc.maxValue
      · have kept : time.trimToMillisecondAccuracy = time := if_pos (Or.inl atMax)
        rw [kept]
      · rw [le_iff, le_iff, ticks]
        omega
    · rw [show time.trimToMillisecondAccuracy = time from whole]

end UtcTime

theorem AgeSegment.covers_trim (segment : AgeSegment) {time : UtcTime} (down : time.TrimsDown) :
    segment.toSegment.Covers time.trimToMillisecondAccuracy ↔ segment.toSegment.Covers time := by
  apply and_congr
  · exact UtcTime.le_trim_iff segment.fromAligned down
  · rw [← not_le, ← not_le]
    exact not_congr (UtcTime.le_trim_iff segment.untilAligned down)

namespace TimeSeriesAge

structure ValidSegment (age : TimeSeriesAge) (period : TimePeriod) (ageTime : UtcTime) : Prop where
  update : ValidUpdate period ageTime
  fromAligned : period.fromTime.Aligned
  untilAligned : period.untilTime.Aligned
  apart : ∀ segment ∈ age.segments.values,
    segment.period.untilTime ≤ period.fromTime ∨ period.untilTime ≤ segment.period.fromTime

inductive Reachable : TimeSeriesAge → Prop
  | start {age : TimeSeriesAge} (none : age.segments = SortedEntries.empty) : Reachable age
  | add {age added : TimeSeriesAge} {period : TimePeriod} {ageTime : UtcTime} (reachable : Reachable age)
      (segment : ValidSegment age period ageTime) (call : age.addSegment period ageTime = .ok added) : Reachable added
  | update {age updated : TimeSeriesAge} {period : TimePeriod} {ageTime : UtcTime} (reachable : Reachable age)
      (valid : ValidUpdate period ageTime) (call : age.updateSegment period ageTime = .ok updated) : Reachable updated

theorem addSegment_wellFormed {age added : TimeSeriesAge} (wellFormed : age.WellFormed) {period : TimePeriod}
    {ageTime : UtcTime} (segment : ValidSegment age period ageTime)
    (call : age.addSegment period ageTime = .ok added) : added.WellFormed := by
  have trimmed : period.trim = period := by
    rw [TimePeriod.trim, segment.fromAligned, segment.untilAligned]
  have sound := create_sound segment.update
  have positive := (Sound.cons_iff.mp sound).2.1
  have start : (AgeSegment.create period ageTime).period = period := trimmed
  have apart : ∀ other ∈ age.segments.values, other.period.untilTime ≤ (AgeSegment.create period ageTime).period.fromTime ∨
      (AgeSegment.create period ageTime).period.untilTime ≤ other.period.fromTime := by
    rw [start]
    exact segment.apart
  obtain ⟨list, addition, keyed, perm⟩ := SortedList.add_fresh wellFormed.keyed
    (show ∀ other ∈ age.segments.values, (AgeSegment.create period ageTime).period.fromTime ≠ other.period.fromTime by
      intro other member same
      have otherPositive := wellFormed.sound.positive member
      rcases apart other member with before | after
      · exact absurd (same ▸ before) (not_le.mpr otherPositive)
      · exact absurd (same ▸ after) (not_le.mpr positive))
  have soundList := sound_of_perm keyed sound wellFormed.sound
    (by
      intro a aMember b bMember
      rw [List.mem_singleton.mp aMember]
      exact (apart b bMember).symm) perm
  rw [start] at addition
  rw [addSegment, addition] at call
  cases call
  exact ⟨keyed, soundList⟩

theorem Reachable.wellFormed {age : TimeSeriesAge} (reachable : Reachable age) : age.WellFormed := by
  induction reachable with
  | start none => exact wellFormed_of_no_segments none
  | add _ segment call ih => exact addSegment_wellFormed ih segment call
  | update _ valid call ih =>
      obtain ⟨updated, run, wellFormed, _⟩ := updateSegment_ok ih valid
      rw [call] at run
      cases run
      exact wellFormed

theorem trimOverlappingAndOlder_ok {age : TimeSeriesAge} (wellFormed : age.WellFormed) {period : TimePeriod}
    {sourceTime : UtcTime} (update : ValidUpdate period sourceTime) :
    ∃ pieces : List AgeSegment, age.trimOverlappingAndOlder period sourceTime = .ok (pieces.map AgeSegment.period) ∧
      pieces.map AgeSegment.toSegment = overlayNew (age.segments.values.map AgeSegment.toSegment)
        (AgeSegment.create period sourceTime).toSegment := by
  obtain ⟨list, addition, listKeyed, listValues⟩ := singleton_added period.trim
    period.fromTime.trim_aligned sourceTime.trimToMillisecondAccuracy
  rw [create_trim] at addition listValues
  obtain ⟨copy, copyRun, copyKeyed, copyValues⟩ := @addAll_append age.segments.values SortedEntries.empty
    SortedList.keyed_empty wellFormed.sound
  have copyValues : copy.values = age.segments.values := copyValues
  have copied : ({ age with segments := copy } : TimeSeriesAge).WellFormed :=
    ⟨copyKeyed, copyValues.symm ▸ wellFormed.sound⟩
  obtain ⟨pieces, run, _, _, same⟩ := trimNew_ok copied listKeyed listValues (create_sound update)
  refine ⟨pieces.values, ?_, ?_⟩
  · simp only [trimOverlappingAndOlder, create_trim, addition, copyRun, run, ok_bind, pure_eq_ok]
  · rw [same, copyValues]

/-- In every age that valid calls build up: the periods that are left go forward, follow
each other, and consist of the times of the given period at which the age is not older. -/
theorem trimOverlappingAndOlder_filters {age : TimeSeriesAge} (reachable : Reachable age) {period : TimePeriod}
    (valid : period.Valid) (fromAligned : period.fromTime.Aligned) (untilAligned : period.untilTime.Aligned)
    {sourceTime : UtcTime} (sourceNull : sourceTime.trimToMillisecondAccuracy ≠ UtcTime.null) :
    ∃ parts, age.trimOverlappingAndOlder period sourceTime = .ok parts ∧
      (∀ part ∈ parts, part.fromTime < part.untilTime) ∧
      parts.Pairwise (fun earlier later => earlier.untilTime ≤ later.fromTime) ∧
      ∀ time : UtcTime, time.TrimsDown → time.trimToMillisecondAccuracy ≠ UtcTime.null →
        ((∃ part ∈ parts, part.Covers time) ↔ period.Covers time ∧ age.isOlder time sourceTime = .ok false) := by
  have wellFormed := reachable.wellFormed
  have ordered := wellFormed.sound.ordered
  have trimmed : period.trim = period := by
    rw [TimePeriod.trim, fromAligned, untilAligned]
  have update : ValidUpdate period sourceTime := ⟨trimmed.symm ▸ valid, sourceNull⟩
  have positive := update.valid.positive
  obtain ⟨pieces, run, same⟩ := trimOverlappingAndOlder_ok wellFormed update
  have piecesOrdered : Ordered (pieces.map AgeSegment.toSegment) := same ▸ ordered_carve _ ordered positive
  refine ⟨pieces.map AgeSegment.period, run, ?_, ?_, ?_⟩
  · intro part member
    obtain ⟨piece, pieceMember, rfl⟩ := List.mem_map.mp member
    exact piecesOrdered.positive piece.toSegment (List.mem_map_of_mem pieceMember)
  · exact List.pairwise_map.mpr (List.pairwise_map.mp piecesOrdered.apart)
  · intro time down timeNull
    have left := covers_overlayNew ordered
      (show (AgeSegment.create period sourceTime).toSegment.lo < _ from positive) time
    have inPeriod : (AgeSegment.create period sourceTime).toSegment.Covers time ↔ period.Covers time := by
      change period.trim.Covers time ↔ period.Covers time
      rw [trimmed]
    have newer : (∃ old ∈ age.segments.values.map AgeSegment.toSegment,
          sourceTime.trimToMillisecondAccuracy < old.val ∧ old.Covers time) ↔
        ∃ found, age.ageAt time.trimToMillisecondAccuracy = some found ∧
          sourceTime.trimToMillisecondAccuracy < found := by
      constructor
      · rintro ⟨old, member, greater, covers⟩
        obtain ⟨segment, segmentMember, rfl⟩ := List.mem_map.mp member
        refine ⟨segment.age, (lookup_eq_some_iff ordered).mpr ?_, greater⟩
        exact ⟨segment.toSegment, member, (segment.covers_trim down).mpr covers, rfl⟩
      · rintro ⟨found, recorded, greater⟩
        obtain ⟨old, member, covers, rfl⟩ := (lookup_eq_some_iff ordered).mp recorded
        obtain ⟨segment, segmentMember, rfl⟩ := List.mem_map.mp member
        exact ⟨segment.toSegment, member, greater, (segment.covers_trim down).mp covers⟩
    have parts : (∃ part ∈ pieces.map AgeSegment.period, part.Covers time) ↔
        ∃ piece ∈ pieces.map AgeSegment.toSegment, piece.Covers time := by
      simp only [List.mem_map, exists_exists_and_eq_and]
      exact Iff.rfl
    rw [parts, same, left, inPeriod, isOlder_eq wellFormed timeNull sourceNull, Except.ok.injEq, decide_eq_false_iff_not,
      ← newer]
    exact Iff.rfl

theorem trimOverlappingAndOlder_filters_middle : ∃ age,
    updateAll [(⟨.ofTicks 20000, .ofTicks 30000⟩, .ofTicks 50000)] empty = .ok age ∧
    ∃ parts, age.trimOverlappingAndOlder ⟨.ofTicks 10000, .ofTicks 40000⟩ (.ofTicks 40000) = .ok parts ∧
      (∀ part ∈ parts, part.fromTime < part.untilTime) ∧
      parts.Pairwise (fun earlier later => earlier.untilTime ≤ later.fromTime) ∧
      ∀ time : UtcTime, time.TrimsDown → time.trimToMillisecondAccuracy ≠ UtcTime.null →
        ((∃ part ∈ parts, part.Covers time) ↔
          TimePeriod.Covers ⟨.ofTicks 10000, .ofTicks 40000⟩ time ∧ age.isOlder time (.ofTicks 40000) = .ok false) := by
  obtain ⟨age, step⟩ := @exists_ok _ _ (empty.updateSegment ⟨.ofTicks 20000, .ofTicks 30000⟩ (.ofTicks 50000)) rfl
  have reachable : Reachable age := Reachable.update (Reachable.start rfl) (by decide) step
  refine ⟨age, ?_, trimOverlappingAndOlder_filters reachable (by decide) (by decide) (by decide) (by decide)⟩
  simp only [updateAll, step, ok_bind]
  rfl

/-- Half a millisecond after the null time is trimmed to it, which every segment covers;
and the null time as the age to compare with throws at the first segment. -/
theorem trimOverlappingAndOlder_null : ∃ age, Reachable age ∧
    (∃ parts, age.trimOverlappingAndOlder ⟨.ofTicks (-10000), .ofTicks 10000⟩ (.ofTicks 30000) = .ok parts ∧
      (∃ part ∈ parts, part.Covers (.ofTicks 5000)) ∧ age.isOlder (.ofTicks 5000) (.ofTicks 30000) = .ok true) ∧
    age.trimOverlappingAndOlder ⟨.ofTicks 10000, .ofTicks 30000⟩ .null =
      .error (.argumentNull UtcTime.oneOfOperandsIsNull) := by
  have step : empty.updateSegment ⟨.ofTicks 20000, .ofTicks 30000⟩ (.ofTicks 50000) =
      .ok ((empty.updateSegment ⟨.ofTicks 20000, .ofTicks 30000⟩ (.ofTicks 50000)).toOption.getD empty) := by
    rfl
  refine ⟨_, Reachable.update (Reachable.start rfl) (by decide) step, ⟨_, rfl, by decide, rfl⟩, rfl⟩

end TimeSeriesAge

end ServiceHost
