import ServiceHost.Library.Merging
import ServiceHost.TimeSeries.TimeSeriesAge

/-!
Which runs of updates leave a canonical age, in which no two segments that touch carry
one age. The merging pass does not compare a merged segment with its next neighbour, so
it falls short where an update joins up with segments of its own age on both sides.
-/

namespace ServiceHost

open Library

namespace TimeSeriesAge

structure CanonicalAge (age : TimeSeriesAge) : Prop where
  wellFormed : age.WellFormed
  distinct : ∀ first ∈ age.segments.values, ∀ second ∈ age.segments.values,
    first.period.untilTime = second.period.fromTime → first.age ≠ second.age

structure Bridges (age : TimeSeriesAge) (period : TimePeriod) (ageTime : UtcTime) : Prop where
  left : ∃ left ∈ age.segments.values, left.age = ageTime.trimToMillisecondAccuracy ∧
    left.period.fromTime < period.trim.fromTime ∧ period.trim.fromTime ≤ left.period.untilTime
  right : ∃ right ∈ age.segments.values, right.age = ageTime.trimToMillisecondAccuracy ∧
    right.period.fromTime ≤ period.trim.untilTime ∧ period.trim.untilTime < right.period.untilTime
  whole : ∀ other ∈ age.segments.values, ageTime.trimToMillisecondAccuracy < other.age →
    other.period.untilTime ≤ period.trim.fromTime ∨ period.trim.untilTime ≤ other.period.fromTime

instance (age : TimeSeriesAge) (period : TimePeriod) (ageTime : UtcTime) : Decidable (age.Bridges period ageTime) :=
  decidable_of_iff (_ ∧ _ ∧ _) ⟨fun ⟨left, right, whole⟩ => ⟨left, right, whole⟩,
    fun ⟨left, right, whole⟩ => ⟨left, right, whole⟩⟩

theorem canonical_iff {age : TimeSeriesAge} :
    Canonical (age.segments.values.map AgeSegment.toSegment) ↔
      ∀ first ∈ age.segments.values, ∀ second ∈ age.segments.values,
        first.period.untilTime = second.period.fromTime → first.age ≠ second.age := by
  simp only [Canonical, List.forall_mem_map]
  constructor
  · intro canonical first firstMember second secondMember touch same
    exact canonical first firstMember second secondMember ⟨same, touch⟩
  · intro distinct first firstMember second secondMember joined
    exact distinct first firstMember second secondMember joined.2 joined.1

theorem bridges_of_bridged {age : TimeSeriesAge} {period : TimePeriod} {ageTime : UtcTime}
    (bridged : Bridged (age.segments.values.map AgeSegment.toSegment)
      (AgeSegment.create period ageTime).toSegment) : age.Bridges period ageTime := by
  obtain ⟨⟨left, leftMember, leftFacts⟩, ⟨right, rightMember, rightFacts⟩, whole⟩ := bridged
  obtain ⟨leftSource, leftFound, rfl⟩ := List.mem_map.mp leftMember
  obtain ⟨rightSource, rightFound, rfl⟩ := List.mem_map.mp rightMember
  refine ⟨⟨leftSource, leftFound, leftFacts⟩, ⟨rightSource, rightFound, rightFacts⟩, ?_⟩
  intro other member newer
  exact whole other.toSegment (List.mem_map_of_mem member) newer

theorem updateSegment_canonical {age : TimeSeriesAge} (canonical : age.CanonicalAge) {period : TimePeriod}
    {ageTime : UtcTime} (update : ValidUpdate period ageTime) (bridges : ¬age.Bridges period ageTime) :
    ∃ updated, age.updateSegment period ageTime = .ok updated ∧ updated.CanonicalAge := by
  obtain ⟨updated, all, run, wellFormed, _, ordered, members, merged⟩ :=
    updateSegment_overlays canonical.wellFormed update
  have pairs := overlay_pairs canonical.wellFormed.sound.ordered update.valid.positive
    (canonical_iff.mpr canonical.distinct) (mt bridges_of_bridged bridges) members
  have result := canonical_mergeNeighbours ordered pairs
  rw [← merged] at result
  exact ⟨updated, run, wellFormed, canonical_iff.mp result⟩

theorem canonical_empty : empty.CanonicalAge := by
  constructor
  · exact wellFormed_of_no_segments rfl
  · intro first member
    cases member

theorem updateAll_append (before after : List (TimePeriod × UtcTime)) (age : TimeSeriesAge) :
    updateAll (before ++ after) age = updateAll before age >>= updateAll after := by
  induction before generalizing age with
  | nil => rfl
  | cons update rest ih =>
      simp only [List.cons_append, updateAll]
      cases age.updateSegment update.1 update.2 with
      | error exception => rfl
      | ok next => exact ih next

/-- A run of valid updates of which none bridges passes through canonical ages only. -/
theorem updateAll_canonical {updates : List (TimePeriod × UtcTime)}
    (valid : ∀ update ∈ updates, ValidUpdate update.1 update.2)
    (apart : ∀ before update after age, updates = before ++ update :: after →
      updateAll before empty = .ok age → ¬age.Bridges update.1 update.2) :
    ∀ before after, updates = before ++ after → ∃ age, updateAll before empty = .ok age ∧ age.CanonicalAge := by
  intro before
  induction before using List.reverseRecOn with
  | nil => exact fun _ _ => ⟨empty, rfl, canonical_empty⟩
  | append_singleton front update ih =>
      intro after same
      have split : updates = front ++ update :: after := by simpa using same
      obtain ⟨age, run, canonical⟩ := ih (update :: after) split
      obtain ⟨updated, step, updatedCanonical⟩ := updateSegment_canonical canonical
        (valid update (by simp [split])) (apart front update after age split run)
      refine ⟨updated, ?_, updatedCanonical⟩
      rw [updateAll_append, run, ok_bind]
      simp only [updateAll, step, ok_bind]
      rfl

theorem updateAll_canonical_touching :
    ∃ age, updateAll [(⟨.ofTicks 10000, .ofTicks 20000⟩, .ofTicks 30000),
        (⟨.ofTicks 20000, .ofTicks 40000⟩, .ofTicks 30000)] empty = .ok age ∧ age.CanonicalAge := by
  apply @updateAll_canonical [(⟨.ofTicks 10000, .ofTicks 20000⟩, .ofTicks 30000),
    (⟨.ofTicks 20000, .ofTicks 40000⟩, .ofTicks 30000)] (by decide) _ _ [] (by simp)
  intro before update after age same run
  cases before with
  | nil =>
      cases run
      rintro ⟨⟨left, member, _⟩, _, _⟩
      cases member
  | cons first rest =>
      cases rest with
      | nil =>
          cases same
          cases run
          decide
      | cons second others => simp at same

/-- An update inside a segment of its own age leaves two segments that touch. -/
theorem updateAll_inside : ∃ updates, (∀ update ∈ updates, ValidUpdate update.1 update.2) ∧
    ∃ age, updateAll updates empty = .ok age ∧ age.segments.values.map AgeSegment.toSegment =
        [⟨.ofTicks 10000, .ofTicks 30000, .ofTicks 50000⟩, ⟨.ofTicks 30000, .ofTicks 40000, .ofTicks 50000⟩] ∧
      ¬age.CanonicalAge := by
  refine ⟨[(⟨.ofTicks 10000, .ofTicks 40000⟩, .ofTicks 50000),
    (⟨.ofTicks 20000, .ofTicks 30000⟩, .ofTicks 50000)], by decide, _, rfl, by decide, ?_⟩
  rintro ⟨_, distinct⟩
  revert distinct
  decide

end TimeSeriesAge

end ServiceHost
