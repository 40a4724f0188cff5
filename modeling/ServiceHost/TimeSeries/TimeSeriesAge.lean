import Mathlib.Order.Bounds.Basic
import ServiceHost.Library.Overlay
import ServiceHost.TimeSeries.TimeSeriesAgeTrim

/-!
The newest data wins: an update of a well formed age overlays the new segment on
the old ones, so after any run of updates the age at a time is the greatest of
the ages that were given for it.
-/

namespace ServiceHost

open Library

namespace SortedList

theorem values_removeAt (list : SortedList) (index : Nat) :
    (SortedEntries.removeAt list index).values = list.values.eraseIdx index :=
  (List.eraseIdx_map Prod.snd list.entries index).symm

theorem values_modifyAt (list : SortedList) (index : Nat) (change : AgeSegment → AgeSegment) :
    (list.modifyAt index change).values = list.values.modify index change := by
  apply List.ext_getElem?
  intro position
  simp only [SortedEntries.values, SortedEntries.modifyAt, List.getElem?_map, List.getElem?_modify]
  cases list.entries[position]? with
  | none => rfl
  | some entry => by_cases same : index = position <;> simp [same]

theorem add_fresh {list : SortedList} (keyed : Keyed list) {segment : AgeSegment}
    (fresh : ∀ other ∈ list.values, segment.period.fromTime ≠ other.period.fromTime) :
    ∃ added, add list segment.period.fromTime segment = .ok added ∧ Keyed added ∧
      added.values.Perm (segment :: list.values) := by
  have unused : ∀ entry ∈ list.entries, segment.period.fromTime ≠ entry.1 := by
    intro entry member
    rw [keyed entry member]
    exact fresh entry.2 (List.mem_map_of_mem member)
  refine ⟨list.set segment.period.fromTime segment, ?_, ?_, ?_⟩
  · simp [add, SortedEntries.contains_eq_false_iff.mpr unused]
  · intro entry member
    rcases SortedEntries.mem_put member with same | old
    · exact same ▸ rfl
    · exact keyed entry old
  · exact (SortedEntries.put_perm segment unused).map Prod.snd

theorem values_sorted {list : SortedList} (keyed : Keyed list) :
    list.values.Pairwise fun first second => first.period.fromTime < second.period.fromTime := by
  have sorted := list.sorted
  rw [entries_eq keyed, List.pairwise_map] at sorted
  exact sorted

end SortedList

namespace TimeSeriesAge

structure WellFormed (age : TimeSeriesAge) : Prop where
  keyed : Keyed age.segments
  sound : Sound age.segments.values

def ageAt (age : TimeSeriesAge) (time : UtcTime) : Option UtcTime :=
  lookup (age.segments.values.map AgeSegment.toSegment) time

theorem wellFormed_of_no_segments {age : TimeSeriesAge} (none : age.segments = SortedEntries.empty) :
    age.WellFormed := by
  constructor
  · rw [none]
    exact SortedList.keyed_empty
  · rw [none]
    exact Sound.nil

theorem getAge_eq {age : TimeSeriesAge} (wellFormed : age.WellFormed) {time : UtcTime}
    (timeNull : time.trimToMillisecondAccuracy ≠ UtcTime.null) :
    age.getAge time = (age.ageAt time.trimToMillisecondAccuracy).getD UtcTime.null := by
  have same : ∀ segment ∈ age.segments.values,
      segment.period.intersectsTime time.trimToMillisecondAccuracy =
        decide (segment.toSegment.Covers time.trimToMillisecondAccuracy) := by
    intro segment member
    have valid := (wellFormed.sound.proper segment member).valid (wellFormed.sound.positive member)
    rw [Bool.eq_iff_iff, TimePeriod.intersectsTime_iff valid timeNull, decide_eq_true_eq]
    rfl
  rw [getAge, ageAt, lookup_map same]
  cases age.segments.values.find? fun segment =>
      segment.period.intersectsTime time.trimToMillisecondAccuracy with
  | none => rfl
  | some segment => rfl

theorem ageAt_ne_null {age : TimeSeriesAge} (wellFormed : age.WellFormed) {time found : UtcTime}
    (recorded : age.ageAt time = some found) : found ≠ UtcTime.null := by
  obtain ⟨segment, member, _, same⟩ := (lookup_eq_some_iff wellFormed.sound.ordered).mp recorded
  obtain ⟨source, sourceMember, rfl⟩ := List.mem_map.mp member
  exact same ▸ (wellFormed.sound.proper source sourceMember).ageNull

theorem isOlder_eq {age : TimeSeriesAge} (wellFormed : age.WellFormed) {time sourceTime : UtcTime}
    (timeNull : time.trimToMillisecondAccuracy ≠ UtcTime.null)
    (sourceNull : sourceTime.trimToMillisecondAccuracy ≠ UtcTime.null) :
    age.isOlder time sourceTime = .ok (decide (∃ found,
      age.ageAt time.trimToMillisecondAccuracy = some found ∧
        sourceTime.trimToMillisecondAccuracy < found)) := by
  have again : time.trimToMillisecondAccuracy.trimToMillisecondAccuracy =
      time.trimToMillisecondAccuracy := time.trim_aligned
  have looked : age.getAge time.trimToMillisecondAccuracy =
      (age.ageAt time.trimToMillisecondAccuracy).getD UtcTime.null := by
    rw [getAge_eq wellFormed (again.symm ▸ timeNull), again]
  simp only [isOlder, looked]
  cases recorded : age.ageAt time.trimToMillisecondAccuracy with
  | none => simp
  | some found =>
      have foundNull := ageAt_ne_null wellFormed recorded
      simp [foundNull, UtcTime.less_of_ne_null sourceNull foundNull]

section Update

theorem separated_chain {old new : List AgeSegment} (sound : Sound old)
    (gaps : new.Pairwise fun first second => ∃ segment ∈ old,
      first.period.untilTime ≤ segment.period.fromTime ∧
        segment.period.untilTime ≤ second.period.fromTime) :
    List.IsChain (Separated new) old := by
  rw [List.isChain_iff_forall_rel_of_append_cons_cons]
  rintro segment next before after rfl
  obtain ⟨_, suffix, beforeEnded⟩ := Sound.append_iff.mp sound
  obtain ⟨_, positive, _, suffix'⟩ := Sound.cons_iff.mp suffix
  obtain ⟨_, _, nextFirst, _⟩ := Sound.cons_iff.mp suffix'
  refine gaps.imp ?_
  rintro cut nextCut ⟨gap, member, cutEnded, gapEnded⟩ ended
  have gapPositive := sound.positive member
  have late : segment.period.untilTime ≤ gap.period.fromTime := le_trans ended cutEnded
  rcases List.mem_append.mp member with old | here
  · have early := beforeEnded gap old segment (by simp)
    exact absurd (lt_of_lt_of_le gapPositive early) (not_lt.mpr (le_trans (le_of_lt positive) late))
  · rcases List.mem_cons.mp here with same | later
    · subst same
      exact absurd gapPositive (not_lt.mpr late)
    · rcases List.mem_cons.mp later with same | beyond
      · exact same ▸ gapEnded
      · exact le_trans (nextFirst gap beyond) (le_trans (le_of_lt gapPositive) gapEnded)

theorem trimSegments_ok {segmentsToTrim segmentsToCompareWith : SortedList} (trimWhenSameAge : Bool)
    (keyed : Keyed segmentsToTrim) (sound : Sound segmentsToTrim.values)
    (cuts : Sound segmentsToCompareWith.values)
    (chain : List.IsChain (Separated segmentsToCompareWith.values) segmentsToTrim.values) :
    ∃ result, trimSegments segmentsToTrim segmentsToCompareWith trimWhenSameAge = .ok result ∧
      Keyed result ∧ Sound result.values ∧ result.values.map AgeSegment.toSegment =
        segmentsToTrim.values.flatMap (carved trimWhenSameAge segmentsToCompareWith.values) := by
  obtain ⟨result, pieces, run, resultKeyed, values, resultSound, carving⟩ :=
    trimFrom_ok ⟨segmentsToTrim, 0, 0⟩
      cuts keyed (show _ = [] ++ _ from rfl) rfl sound (Nat.zero_le _) (by simp) chain
      (le_of_eq (SortedList.count_eq _).symm)
  rw [List.nil_append] at values resultSound
  exact ⟨result, run, resultKeyed, values ▸ resultSound, values ▸ carving⟩

theorem addAll_ok {new : List AgeSegment} {list : SortedList} (keyed : Keyed list)
    (fresh : ∀ segment ∈ new, ∀ other ∈ list.values,
      segment.period.fromTime ≠ other.period.fromTime)
    (distinct : new.Pairwise fun first second => first.period.fromTime ≠ second.period.fromTime) :
    ∃ result, addAll new list = .ok result ∧ Keyed result ∧ result.values.Perm (new ++ list.values) := by
  induction new generalizing list with
  | nil => exact ⟨list, rfl, keyed, List.Perm.refl _⟩
  | cons segment rest ih =>
      obtain ⟨different, distinct⟩ := List.pairwise_cons.mp distinct
      obtain ⟨added, addition, addedKeyed, addedPerm⟩ :=
        SortedList.add_fresh keyed (fresh segment (by simp))
      obtain ⟨result, run, resultKeyed, perm⟩ := ih addedKeyed (by
        intro other member existing existingMember
        rcases List.mem_cons.mp (addedPerm.mem_iff.mp existingMember) with same | older
        · exact same ▸ (different other member).symm
        · exact fresh other (by simp [member]) existing older) distinct
      refine ⟨result, ?_, resultKeyed, perm.trans ?_⟩
      · simp only [addAll, addition, ok_bind, run]
      · exact (addedPerm.append_left rest).trans List.perm_middle

theorem addAll_append {new : List AgeSegment} {list : SortedList} (keyed : Keyed list)
    (sound : Sound (list.values ++ new)) :
    ∃ result, addAll new list = .ok result ∧ Keyed result ∧ result.values = list.values ++ new := by
  induction new generalizing list with
  | nil => exact ⟨list, rfl, keyed, (List.append_nil _).symm⟩
  | cons segment rest ih =>
      obtain ⟨prefixSound, _, ended⟩ := Sound.append_iff.mp sound
      obtain ⟨added, addition, addedKeyed, values⟩ := SortedList.add_append keyed
        (List.append_nil _).symm
        (fun other member => lt_of_lt_of_le (prefixSound.positive member)
          (ended other member segment (by simp))) (by simp)
      obtain ⟨result, run, resultKeyed, resultValues⟩ := ih addedKeyed (by simpa [values] using sound)
      exact ⟨result, by simp only [addAll, addition, ok_bind, run], resultKeyed,
        by simp [resultValues, values]⟩

theorem removeAt_modifyAt {before rest : List AgeSegment} {first second : AgeSegment}
    {segments : SortedList} (keyed : Keyed segments)
    (values : segments.values = before ++ first :: second :: rest) (joined : AgeSegment)
    (sameStart : joined.period.fromTime = first.period.fromTime) :
    Keyed (SortedEntries.removeAt (segments.modifyAt before.length fun _ => joined) (before.length + 1)) ∧
      (SortedEntries.removeAt (segments.modifyAt before.length fun _ => joined)
        (before.length + 1)).values = before ++ joined :: rest := by
  constructor
  · intro entry member
    obtain ⟨position, found⟩ := List.mem_iff_getElem?.mp (List.mem_of_mem_eraseIdx member)
    simp only [SortedEntries.modifyAt, List.getElem?_modify] at found
    obtain ⟨old, oldFound, same⟩ := Option.map_eq_some_iff.mp found
    have oldKeyed := keyed old (List.mem_of_getElem? oldFound)
    by_cases here : before.length = position
    · have first' : segments.values[position]? = some first := by
        rw [values, ← here]
        simp
      rw [SortedEntries.values, List.getElem?_map, oldFound] at first'
      rw [if_pos here] at same
      subst same
      rw [oldKeyed, sameStart, ← Option.some.inj first']
    · rw [if_neg here] at same
      exact same ▸ oldKeyed
  · rw [SortedList.values_removeAt, SortedList.values_modifyAt, values, List.modify_eq_set_getElem?]
    simp [List.eraseIdx_append_of_length_le]

theorem sound_join {before rest : List AgeSegment} {first second : AgeSegment}
    (sound : Sound (before ++ first :: second :: rest)) :
    Sound (before ++ first.extendTo second :: rest) := by
  obtain ⟨beforeSound, suffix, cross⟩ := Sound.append_iff.mp sound
  obtain ⟨firstProper, firstPositive, firstEnded, tail⟩ := Sound.cons_iff.mp suffix
  obtain ⟨secondProper, secondPositive, secondEnded, restSound⟩ := Sound.cons_iff.mp tail
  have positive : first.period.fromTime < second.period.untilTime :=
    lt_trans firstPositive (lt_of_le_of_lt (firstEnded second (by simp)) secondPositive)
  refine Sound.append_iff.mpr ⟨beforeSound, Sound.cons_iff.mpr ⟨?_, positive, secondEnded, restSound⟩, ?_⟩
  · exact ⟨firstProper.fromNull, secondProper.untilNull, firstProper.ageNull⟩
  · intro segment member other otherMember
    rcases List.mem_cons.mp otherMember with same | later
    · exact same ▸ cross segment member first (by simp)
    · exact cross segment member other (by simp [later])

theorem mergeAdjacentFrom_ok {before todo : List AgeSegment} {segments : SortedList}
    (keyed : Keyed segments) (values : segments.values = before ++ todo) (sound : Sound (before ++ todo))
    {fuel : Nat} (enough : todo.length ≤ fuel) :
    ∃ result merged, mergeAdjacentFrom fuel before.length segments = .ok result ∧ Keyed result ∧
      result.values = before ++ merged ∧ Sound (before ++ merged) ∧
      merged.map AgeSegment.toSegment = mergeNeighbours (todo.map AgeSegment.toSegment) := by
  induction fuel generalizing before todo segments with
  | zero =>
      obtain rfl : todo = [] := List.length_eq_zero_iff.mp (Nat.le_zero.mp enough)
      exact ⟨segments, [], rfl, keyed, values, sound, rfl⟩
  | succ fuel ih =>
      match todo with
      | [] =>
          have done : ¬ before.length + 1 < segments.count := by
            rw [SortedList.count_eq, values, List.append_nil]
            omega
          exact ⟨segments, [], by simp [mergeAdjacentFrom, done], keyed, values, sound, rfl⟩
      | [segment] =>
          have done : ¬ before.length + 1 < segments.count := by
            rw [SortedList.count_eq, values, List.length_append, List.length_singleton]
            omega
          exact ⟨segments, [segment], by simp [mergeAdjacentFrom, done], keyed, values, sound, rfl⟩
      | first :: second :: rest =>
          have inside : before.length + 1 < segments.count := by
            rw [SortedList.count_eq, values, List.length_append, List.length_cons, List.length_cons]
            omega
          have here := SortedList.getByIndex_append values rfl
          have next := SortedList.getByIndex_append
            (show segments.values = (before ++ [first]) ++ second :: rest from values.trans (by simp))
            (show (before.length + 1 : Int) = (before ++ [first]).length by simp)
          simp only [mergeAdjacentFrom, inside, if_true, here, next, ok_bind]
          by_cases joined : first.age = second.age ∧ first.period.untilTime = second.period.fromTime
          · rw [if_pos joined]
            obtain ⟨joinedKeyed, joinedValues⟩ := removeAt_modifyAt keyed values (first.extendTo second) rfl
            obtain ⟨result, merged, run, resultKeyed, resultValues, resultSound, same⟩ :=
              ih joinedKeyed
                (joinedValues.trans (show _ = (before ++ [first.extendTo second]) ++ rest by simp)) (by simpa using sound_join sound)
                (by simp at enough; omega)
            refine ⟨result, first.extendTo second :: merged, by simpa using run, resultKeyed,
              by simpa using resultValues, by simpa using resultSound, ?_⟩
            rw [List.map_cons, same]
            exact (mergeNeighbours_joined _ (show first.toSegment.val = second.toSegment.val ∧ _ from joined)).symm
          · rw [if_neg joined]
            obtain ⟨result, merged, run, resultKeyed, resultValues, resultSound, same⟩ :=
              ih keyed
                (values.trans (show _ = (before ++ [first]) ++ second :: rest by simp)) (by simpa using sound) (by simpa using enough)
            refine ⟨result, first :: merged, by simpa using run, resultKeyed,
              by simpa using resultValues, by simpa using resultSound, ?_⟩
            rw [List.map_cons, same]
            exact (mergeNeighbours_kept _ joined).symm

theorem sound_of_perm {list : SortedList} {first second : List AgeSegment} (keyed : Keyed list)
    (firstSound : Sound first) (secondSound : Sound second)
    (apart : ∀ a ∈ first, ∀ b ∈ second,
      a.period.untilTime ≤ b.period.fromTime ∨ b.period.untilTime ≤ a.period.fromTime)
    (perm : list.values.Perm (first ++ second)) : Sound list.values := by
  have member : ∀ segment ∈ list.values, segment ∈ first ∨ segment ∈ second :=
    fun segment found => List.mem_append.mp (perm.mem_iff.mp found)
  refine ⟨?_, Ordered.of_sorted ?_ ?_ (Ordered.apart_of_perm (perm.map AgeSegment.toSegment) ?_)⟩
  · intro segment found
    exact (member segment found).elim (firstSound.proper segment) (secondSound.proper segment)
  · intro segment found
    obtain ⟨source, sourceMember, rfl⟩ := List.mem_map.mp found
    exact (member source sourceMember).elim firstSound.positive secondSound.positive
  · exact List.pairwise_map.mpr (SortedList.values_sorted keyed)
  · rw [List.map_append]
    refine List.pairwise_append.mpr ⟨firstSound.ordered.apart.imp Or.inl,
      secondSound.ordered.apart.imp Or.inl, ?_⟩
    intro a aMember b bMember
    obtain ⟨aSource, aFound, rfl⟩ := List.mem_map.mp aMember
    obtain ⟨bSource, bFound, rfl⟩ := List.mem_map.mp bMember
    exact apart aSource aFound bSource bFound

structure ValidUpdate (period : TimePeriod) (ageTime : UtcTime) : Prop where
  valid : period.trim.Valid
  ageNull : ageTime.trimToMillisecondAccuracy ≠ UtcTime.null

instance (period : TimePeriod) (ageTime : UtcTime) : Decidable (ValidUpdate period ageTime) :=
  decidable_of_iff (period.trim.Valid ∧ ageTime.trimToMillisecondAccuracy ≠ UtcTime.null)
    ⟨fun ⟨valid, ageNull⟩ => ⟨valid, ageNull⟩, fun ⟨valid, ageNull⟩ => ⟨valid, ageNull⟩⟩

theorem create_sound {period : TimePeriod} {ageTime : UtcTime} (update : ValidUpdate period ageTime) :
    Sound [AgeSegment.create period ageTime] :=
  Sound.singleton ⟨update.valid.fromNull, update.valid.untilNull, update.ageNull⟩ update.valid.positive

theorem create_trim (period : TimePeriod) (ageTime : UtcTime) :
    AgeSegment.create period.trim ageTime.trimToMillisecondAccuracy = AgeSegment.create period ageTime := by
  apply AgeSegment.ext
  · simp only [AgeSegment.create, TimePeriod.trim]
    rw [period.fromTime.trim_aligned, period.untilTime.trim_aligned]
  · exact ageTime.trim_aligned

theorem singleton_added (period : TimePeriod) (fromAligned : period.fromTime.Aligned) (ageTime : UtcTime) :
    ∃ list, SortedList.add SortedEntries.empty period.fromTime (.create period ageTime) = .ok list ∧
      Keyed list ∧ list.values = [.create period ageTime] :=
  SortedList.add_create SortedList.keyed_empty (show _ = [] from rfl) period fromAligned ageTime (by simp)

theorem carved_false : carved false = fun cuts segment =>
    overlayNew (cuts.map AgeSegment.toSegment) segment.toSegment := rfl

theorem overlayOld_eq (old : List AgeSegment) (new : AgeSegment) {pieces : List AgeSegment}
    (piecesSame : pieces.map AgeSegment.toSegment =
      overlayNew (old.map AgeSegment.toSegment) new.toSegment) :
    old.flatMap (carved true pieces) = overlayOld (old.map AgeSegment.toSegment) new.toSegment := by
  rw [overlayOld, ← piecesSame, List.flatMap_map]
  rfl

theorem trimNew_ok {age : TimeSeriesAge} (wellFormed : age.WellFormed) {list : SortedList}
    {new : AgeSegment} (keyed : Keyed list) (values : list.values = [new]) (sound : Sound [new]) :
    ∃ pieces, trimSegments list age.segments false = .ok pieces ∧ Keyed pieces ∧ Sound pieces.values ∧
      pieces.values.map AgeSegment.toSegment =
        overlayNew (age.segments.values.map AgeSegment.toSegment) new.toSegment := by
  obtain ⟨pieces, run, piecesKeyed, piecesSound, same⟩ := trimSegments_ok false keyed (values ▸ sound)
    wellFormed.sound (by rw [values]; exact List.isChain_singleton new)
  refine ⟨pieces, run, piecesKeyed, piecesSound, ?_⟩
  rw [same, values, List.flatMap_singleton, carved_false]

theorem updateSegment_overlays {age : TimeSeriesAge} (wellFormed : age.WellFormed) {period : TimePeriod}
    {ageTime : UtcTime} (update : ValidUpdate period ageTime) :
    ∃ updated all, age.updateSegment period ageTime = .ok updated ∧ updated.WellFormed ∧
      updated.timeSeriesName = age.timeSeriesName ∧ Ordered all ∧
      (∀ piece, piece ∈ all ↔
        piece ∈ overlayOld (age.segments.values.map AgeSegment.toSegment)
            (AgeSegment.create period ageTime).toSegment ∨
          piece ∈ overlayNew (age.segments.values.map AgeSegment.toSegment)
            (AgeSegment.create period ageTime).toSegment) ∧
      updated.segments.values.map AgeSegment.toSegment = mergeNeighbours all := by
  have newSound := create_sound update
  have newPositive := (Sound.cons_iff.mp newSound).2.1
  obtain ⟨list, addition, listKeyed, listValues⟩ := singleton_added period.trim
    period.fromTime.trim_aligned ageTime.trimToMillisecondAccuracy
  rw [create_trim] at addition listValues
  obtain ⟨new, newRun, newKeyed, newValuesSound, newSame⟩ :=
    trimNew_ok wellFormed listKeyed listValues newSound
  have gaps := carve_gaps (fun cut value => decide (value < cut)) wellFormed.sound.ordered
    (show (AgeSegment.create period ageTime).toSegment.lo < _ from newPositive)
  change (overlayNew _ _).Pairwise _ at gaps
  rw [← newSame, List.pairwise_map] at gaps
  obtain ⟨old, oldRun, oldKeyed, oldSound, oldSame⟩ := trimSegments_ok true wellFormed.keyed
    wellFormed.sound newValuesSound (separated_chain wellFormed.sound (gaps.imp (by
      rintro first second ⟨cut, member, ended, starts⟩
      obtain ⟨segment, segmentMember, rfl⟩ := List.mem_map.mp member
      exact ⟨segment, segmentMember, ended, starts⟩)))
  rw [overlayOld_eq _ _ newSame] at oldSame
  have apart : ∀ segment ∈ new.values, ∀ other ∈ old.values,
      segment.period.untilTime ≤ other.period.fromTime ∨
        other.period.untilTime ≤ segment.period.fromTime := by
    intro segment member other otherMember
    exact (overlay_apart wellFormed.sound.ordered newPositive other.toSegment
      (oldSame ▸ List.mem_map_of_mem otherMember) segment.toSegment
      (newSame ▸ List.mem_map_of_mem member)).symm
  obtain ⟨all, allRun, allKeyed, allPerm⟩ := addAll_ok oldKeyed (by
    intro segment member other otherMember same
    have positive := newValuesSound.positive member
    have otherPositive := oldSound.positive otherMember
    rcases apart segment member other otherMember with ended | ended
    · exact absurd (same ▸ ended) (not_le.mpr positive)
    · exact absurd (same ▸ ended) (not_le.mpr otherPositive))
    ((SortedList.values_sorted newKeyed).imp ne_of_lt)
  have allSound := sound_of_perm allKeyed newValuesSound oldSound apart allPerm
  obtain ⟨merged, mergedValues, mergeRun, mergedKeyed, values, mergedSound, mergedSame⟩ :=
    mergeAdjacentFrom_ok allKeyed (show _ = [] ++ all.values from rfl) allSound
      (le_of_eq (SortedList.count_eq _).symm)
  rw [List.nil_append] at values mergedSound
  refine ⟨{ age with segments := merged }, all.values.map AgeSegment.toSegment, ?_,
    ⟨mergedKeyed, values ▸ mergedSound⟩, rfl, allSound.ordered, ?_, ?_⟩
  · have duration := TimePeriod.duration_ne_zero update.valid.positive
    have mergeAll : mergeAdjacentSegments all = .ok merged := mergeRun
    simp only [updateSegment, duration, if_false, create_trim, addition, newRun, oldRun, allRun, mergeAll,
      pure_eq_ok, ok_bind]
  · intro piece
    rw [← oldSame, ← newSame, (allPerm.map AgeSegment.toSegment).mem_iff, List.map_append,
      List.mem_append, or_comm]
  · rw [values, mergedSame]

theorem updateSegment_ok {age : TimeSeriesAge} (wellFormed : age.WellFormed) {period : TimePeriod}
    {ageTime : UtcTime} (update : ValidUpdate period ageTime) :
    ∃ updated, age.updateSegment period ageTime = .ok updated ∧ updated.WellFormed ∧
      updated.timeSeriesName = age.timeSeriesName ∧
      ∀ time, updated.ageAt time =
        if period.trim.Covers time then
          some (latest (age.ageAt time) ageTime.trimToMillisecondAccuracy)
        else age.ageAt time := by
  obtain ⟨updated, all, run, updatedWellFormed, name, ordered, members, merged⟩ :=
    updateSegment_overlays wellFormed update
  refine ⟨updated, run, updatedWellFormed, name, ?_⟩
  intro time
  rw [ageAt, merged, lookup_mergeNeighbours ordered]
  exact lookup_overlay wellFormed.sound.ordered update.valid.positive ordered members time

end Update

def newestFrom (updates : List (TimePeriod × UtcTime)) (before : Option UtcTime) (time : UtcTime) :
    Option UtcTime :=
  updates.foldl (fun found update =>
    if update.1.trim.Covers time then some (latest found update.2.trimToMillisecondAccuracy)
    else found) before

theorem updateAll_ok {updates : List (TimePeriod × UtcTime)} {age : TimeSeriesAge}
    (wellFormed : age.WellFormed) (valid : ∀ update ∈ updates, ValidUpdate update.1 update.2) :
    ∃ updated, updateAll updates age = .ok updated ∧ updated.WellFormed ∧
      updated.timeSeriesName = age.timeSeriesName ∧
      ∀ time, updated.ageAt time = newestFrom updates (age.ageAt time) time := by
  induction updates generalizing age with
  | nil => exact ⟨age, rfl, wellFormed, rfl, fun _ => rfl⟩
  | cons update rest ih =>
      obtain ⟨next, step, nextWellFormed, nextName, stepAge⟩ :=
        updateSegment_ok wellFormed (valid update (by simp))
      obtain ⟨updated, run, updatedWellFormed, name, runAge⟩ :=
        ih nextWellFormed fun other member => valid other (by simp [member])
      refine ⟨updated, by simp only [updateAll, step, ok_bind, run], updatedWellFormed,
        name.trans nextName, fun time => ?_⟩
      rw [runAge, stepAge]
      rfl

def coveringAges (updates : List (TimePeriod × UtcTime)) (time : UtcTime) : Set UtcTime :=
  {age | ∃ update ∈ updates, update.1.trim.Covers time ∧ update.2.trimToMillisecondAccuracy = age}

theorem newestFrom_cons (update : TimePeriod × UtcTime) (rest : List (TimePeriod × UtcTime))
    (before : Option UtcTime) (time : UtcTime) :
    newestFrom (update :: rest) before time =
      newestFrom rest (if update.1.trim.Covers time then
        some (latest before update.2.trimToMillisecondAccuracy) else before) time := rfl

theorem newestFrom_eq_none {updates : List (TimePeriod × UtcTime)} {before : Option UtcTime}
    {time : UtcTime} (none : newestFrom updates before time = none) :
    before = Option.none ∧ coveringAges updates time = ∅ := by
  induction updates generalizing before with
  | nil => exact ⟨none, by simp [coveringAges]⟩
  | cons update rest ih =>
      rw [newestFrom_cons] at none
      obtain ⟨started, restEmpty⟩ := ih none
      split at started
      · simp at started
      · rename_i outside
        refine ⟨started, Set.eq_empty_iff_forall_notMem.mpr ?_⟩
        rintro age ⟨other, member, covers, same⟩
        rcases List.mem_cons.mp member with rfl | later
        · exact outside covers
        · exact Set.eq_empty_iff_forall_notMem.mp restEmpty age ⟨other, later, covers, same⟩

theorem newestFrom_isGreatest {updates : List (TimePeriod × UtcTime)} {before : Option UtcTime}
    {time age : UtcTime} (found : newestFrom updates before time = some age) :
    (before = some age ∨ age ∈ coveringAges updates time) ∧
      (∀ earlier, before = some earlier → earlier ≤ age) ∧
      ∀ given ∈ coveringAges updates time, given ≤ age := by
  induction updates generalizing before with
  | nil =>
      obtain rfl : before = some age := found
      exact ⟨Or.inl rfl, fun earlier same => le_of_eq (Option.some.inj same).symm,
        fun given ⟨_, member, _⟩ => by simp at member⟩
  | cons update rest ih =>
      rw [newestFrom_cons] at found
      obtain ⟨origin, upper, restUpper⟩ := ih found
      have wider : ∀ given ∈ coveringAges rest time, given ∈ coveringAges (update :: rest) time :=
        fun given ⟨other, member, covers, same⟩ => ⟨other, by simp [member], covers, same⟩
      by_cases covers : update.1.trim.Covers time
      · rw [if_pos covers] at origin upper
        have own : update.2.trimToMillisecondAccuracy ∈ coveringAges (update :: rest) time :=
          ⟨update, by simp, covers, rfl⟩
        have bound := upper _ rfl
        have ownBound : update.2.trimToMillisecondAccuracy ≤ age := by
          cases before with
          | none => exact bound
          | some earlier => exact le_trans (le_max_right _ _) bound
        refine ⟨?_, ?_, ?_⟩
        · rcases origin with same | later
          · cases before with
            | none => exact Or.inr (Option.some.inj same ▸ own)
            | some earlier =>
                rcases max_choice earlier update.2.trimToMillisecondAccuracy with left | right
                · exact Or.inl (same ▸ congrArg some left.symm)
                · exact Or.inr ((Option.some.inj same).symm.trans right ▸ own)
          · exact Or.inr (wider age later)
        · rintro earlier rfl
          exact le_trans (le_max_left _ _) bound
        · rintro given ⟨other, member, otherCovers, rfl⟩
          rcases List.mem_cons.mp member with same | later
          · exact same ▸ ownBound
          · exact restUpper _ ⟨other, later, otherCovers, rfl⟩
      · rw [if_neg covers] at origin upper
        refine ⟨origin.imp_right (wider age), upper, ?_⟩
        rintro given ⟨other, member, otherCovers, rfl⟩
        rcases List.mem_cons.mp member with same | later
        · exact absurd (same ▸ otherCovers) covers
        · exact restUpper _ ⟨other, later, otherCovers, rfl⟩

/-- The newest data wins: from an empty age, any run of updates with whole
milliseconds as bounds and with ages that are not null leaves at each time the
greatest age given for it, and no age where none was given. -/
theorem updateAll_newest_wins {updates : List (TimePeriod × UtcTime)}
    (valid : ∀ update ∈ updates, update.1.Valid ∧ update.1.fromTime.Aligned ∧
      update.1.untilTime.Aligned ∧ update.2.trimToMillisecondAccuracy ≠ UtcTime.null) :
    ∃ age, updateAll updates empty = .ok age ∧
      ∀ time : UtcTime, time.Aligned → time ≠ UtcTime.null →
        let given := {given | ∃ update ∈ updates, update.1.Covers time ∧
          update.2.trimToMillisecondAccuracy = given}
        (given.Nonempty → IsGreatest given (age.getAge time)) ∧
        (given = ∅ → age.getAge time = UtcTime.null) ∧
        ∀ sourceTime : UtcTime, sourceTime.trimToMillisecondAccuracy ≠ UtcTime.null →
          age.isOlder time sourceTime = .ok (decide (∃ update ∈ updates, update.1.Covers time ∧
            sourceTime.trimToMillisecondAccuracy < update.2.trimToMillisecondAccuracy)) := by
  have trimmed : ∀ update ∈ updates, update.1.trim = update.1 := by
    intro update member
    obtain ⟨_, fromAligned, untilAligned, _⟩ := valid update member
    unfold TimePeriod.trim
    rw [fromAligned, untilAligned]
  obtain ⟨age, run, wellFormed, _, ages⟩ := updateAll_ok
    (show empty.WellFormed from wellFormed_of_no_segments rfl) fun update member =>
      ⟨(trimmed update member).symm ▸ (valid update member).1, (valid update member).2.2.2⟩
  refine ⟨age, run, fun time aligned timeNull => ?_⟩
  have timeTrimmed : time.trimToMillisecondAccuracy = time := aligned
  have same : {given | ∃ update ∈ updates, update.1.Covers time ∧
      update.2.trimToMillisecondAccuracy = given} = coveringAges updates time := by
    apply Set.ext
    intro given
    refine exists_congr fun update => and_congr_right fun member => ?_
    rw [trimmed update member]
  have recorded : age.ageAt time = newestFrom updates none time := ages time
  have looked := getAge_eq wellFormed (timeTrimmed.symm ▸ timeNull)
  rw [timeTrimmed, recorded] at looked
  refine ⟨fun some => ?_, fun none => ?_, fun sourceTime sourceNull => ?_⟩
  · rw [same] at some ⊢
    cases found : newestFrom updates none time with
    | none => exact absurd (newestFrom_eq_none found).2 some.ne_empty
    | some newest =>
        obtain ⟨origin, _, upper⟩ := newestFrom_isGreatest found
        rw [looked, found]
        exact ⟨origin.resolve_left (by simp), upper⟩
  · rw [same] at none
    cases found : newestFrom updates Option.none time with
    | none => rw [looked, found]; rfl
    | some newest =>
        have origin := (newestFrom_isGreatest found).1.resolve_left (by simp)
        exact absurd origin (none ▸ Set.notMem_empty newest)
  · rw [isOlder_eq wellFormed (timeTrimmed.symm ▸ timeNull) sourceNull, timeTrimmed, recorded]
    congr 1
    rw [decide_eq_decide]
    constructor
    · rintro ⟨newest, found, older⟩
      obtain ⟨update, member, covers, age⟩ :=
        (newestFrom_isGreatest found).1.resolve_left (by simp)
      exact ⟨update, member, trimmed update member ▸ covers, age ▸ older⟩
    · rintro ⟨update, member, covers, older⟩
      have given : update.2.trimToMillisecondAccuracy ∈ coveringAges updates time :=
        ⟨update, member, (trimmed update member).symm ▸ covers, rfl⟩
      cases found : newestFrom updates none time with
      | none => exact absurd given ((newestFrom_eq_none found).2 ▸ Set.notMem_empty _)
      | some newest =>
          exact ⟨newest, rfl, lt_of_lt_of_le older ((newestFrom_isGreatest found).2.2 _ given)⟩

theorem updateAll_newest_wins_twice :
    let updates := [((⟨.ofTicks 10000, .ofTicks 50000⟩ : TimePeriod), UtcTime.ofTicks 30000),
      (⟨.ofTicks 20000, .ofTicks 60000⟩, .ofTicks 20000)]
    ∃ age, updateAll updates empty = .ok age ∧
      ∀ time : UtcTime, time.Aligned → time ≠ UtcTime.null →
        let given := {given | ∃ update ∈ updates, update.1.Covers time ∧
          update.2.trimToMillisecondAccuracy = given}
        (given.Nonempty → IsGreatest given (age.getAge time)) ∧
        (given = ∅ → age.getAge time = UtcTime.null) ∧
        ∀ sourceTime : UtcTime, sourceTime.trimToMillisecondAccuracy ≠ UtcTime.null →
          age.isOlder time sourceTime = .ok (decide (∃ update ∈ updates, update.1.Covers time ∧
            sourceTime.trimToMillisecondAccuracy < update.2.trimToMillisecondAccuracy)) :=
  updateAll_newest_wins (by decide)

/-- Why whole milliseconds: a given age of 15000 ticks is kept as 10000, an age
below one millisecond is kept as the null time and breaks the next update, and
asking for the null time finds the first segment. -/
theorem updateAll_rounds_ages :
    ((updateAll [(⟨.ofTicks 10000, .ofTicks 20000⟩, .ofTicks 15000)] empty).toOption.map fun age =>
        (age.getAge (.ofTicks 10000), (age.isOlder (.ofTicks 10000) (.ofTicks 12000)).toOption)) =
      some (.ofTicks 10000, some false) ∧
    updateAll [(⟨.ofTicks 10000, .ofTicks 20000⟩, .ofTicks 5000),
        (⟨.ofTicks 10000, .ofTicks 20000⟩, .ofTicks 20000)] empty =
      .error (.argumentNull UtcTime.oneOfOperandsIsNull) ∧
    ((updateAll [(⟨.ofTicks 10000, .ofTicks 20000⟩, .ofTicks 30000)] empty).toOption.map fun age =>
        age.getAge UtcTime.null) = some (.ofTicks 30000) := by
  refine ⟨by decide, rfl, by decide⟩

end TimeSeriesAge

end ServiceHost
