import Mathlib.Data.List.Chain
import ServiceHost.Library.Outcome
import ServiceHost.Library.Segments
import ServiceHost.TimeSeries.TimeSeriesAgeCore

/-!
The trimming loop on two sorted lists computes the carving of the first by the
second. The loop indices are read as splits of the two lists: what is done, the
current segment, and what is still to come.
-/

namespace ServiceHost

open Library

def AgeSegment.toSegment (segment : AgeSegment) : Segment UtcTime UtcTime :=
  ⟨segment.period.fromTime, segment.period.untilTime, segment.age⟩

@[simp] theorem AgeSegment.toSegment_lo (segment : AgeSegment) :
    segment.toSegment.lo = segment.period.fromTime := rfl

@[simp] theorem AgeSegment.toSegment_hi (segment : AgeSegment) :
    segment.toSegment.hi = segment.period.untilTime := rfl

@[simp] theorem AgeSegment.toSegment_val (segment : AgeSegment) :
    segment.toSegment.val = segment.age := rfl

structure AgeSegment.Proper (segment : AgeSegment) : Prop where
  fromNull : segment.period.fromTime ≠ UtcTime.null
  untilNull : segment.period.untilTime ≠ UtcTime.null
  ageNull : segment.age ≠ UtcTime.null

structure Sound (segments : List AgeSegment) : Prop where
  proper : ∀ segment ∈ segments, segment.Proper
  ordered : Ordered (segments.map AgeSegment.toSegment)

namespace Sound

theorem nil : Sound [] := ⟨by simp, Ordered.nil⟩

theorem append_iff {first second : List AgeSegment} :
    Sound (first ++ second) ↔
      Sound first ∧ Sound second ∧
        ∀ a ∈ first, ∀ b ∈ second, a.period.untilTime ≤ b.period.fromTime := by
  constructor
  · rintro ⟨proper, ordered⟩
    rw [List.map_append, Ordered.append_iff] at ordered
    refine ⟨⟨fun a member => proper a (by simp [member]), ordered.1⟩,
      ⟨fun b member => proper b (by simp [member]), ordered.2.1⟩, ?_⟩
    intro a aMember b bMember
    exact ordered.2.2 _ (List.mem_map_of_mem aMember) _ (List.mem_map_of_mem bMember)
  · rintro ⟨first, second, cross⟩
    refine ⟨?_, ?_⟩
    · intro segment member
      rcases List.mem_append.mp member with left | right
      · exact first.proper segment left
      · exact second.proper segment right
    · rw [List.map_append, Ordered.append_iff]
      refine ⟨first.ordered, second.ordered, ?_⟩
      simpa using cross

theorem cons_iff {segment : AgeSegment} {rest : List AgeSegment} :
    Sound (segment :: rest) ↔
      segment.Proper ∧ segment.period.fromTime < segment.period.untilTime ∧
        (∀ other ∈ rest, segment.period.untilTime ≤ other.period.fromTime) ∧ Sound rest := by
  constructor
  · rintro ⟨proper, ordered⟩
    rw [List.map_cons, Ordered.cons_iff] at ordered
    exact ⟨proper _ (by simp), ordered.1, by simpa using ordered.2.1,
      ⟨fun other member => proper other (by simp [member]), ordered.2.2⟩⟩
  · rintro ⟨proper, positive, first, rest⟩
    refine ⟨?_, ?_⟩
    · intro other member
      rcases List.mem_cons.mp member with same | later
      · exact same ▸ proper
      · exact rest.proper other later
    · rw [List.map_cons, Ordered.cons_iff]
      exact ⟨positive, by simpa using first, rest.ordered⟩

theorem singleton {segment : AgeSegment} (proper : segment.Proper)
    (positive : segment.period.fromTime < segment.period.untilTime) : Sound [segment] :=
  cons_iff.mpr ⟨proper, positive, by simp, nil⟩

theorem positive {segments : List AgeSegment} (sound : Sound segments) {segment : AgeSegment}
    (member : segment ∈ segments) : segment.period.fromTime < segment.period.untilTime :=
  sound.ordered.positive _ (List.mem_map_of_mem member)

end Sound

def Keyed (list : SortedList) : Prop :=
  ∀ entry ∈ list.entries, entry.1 = entry.2.period.fromTime

namespace SortedList

theorem keyed_empty : Keyed SortedEntries.empty := by
  simp [Keyed, SortedEntries.empty]

theorem count_eq (list : SortedList) : list.count = list.values.length := by
  simp [SortedEntries.count, SortedEntries.values]

theorem entries_eq {list : SortedList} (keyed : Keyed list) :
    list.entries = list.values.map fun segment => (segment.period.fromTime, segment) := by
  unfold SortedEntries.values
  rw [List.map_map]
  symm
  calc list.entries.map ((fun segment => (segment.period.fromTime, segment)) ∘ Prod.snd)
      = list.entries.map id :=
        List.map_congr_left fun entry member => Prod.ext (keyed entry member).symm rfl
    _ = list.entries := List.map_id _

theorem getByIndex_append {list : SortedList} {before after : List AgeSegment} {segment : AgeSegment}
    (values : list.values = before ++ segment :: after) {index : Int} (at_ : index = before.length) :
    getByIndex list index = .ok segment := by
  subst at_
  simp [getByIndex, values]

theorem removeAt_append {list : SortedList} (keyed : Keyed list)
    {before after : List AgeSegment} {segment : AgeSegment}
    (values : list.values = before ++ segment :: after) {index : Int} (at_ : index = before.length) :
    ∃ removed, removeAt list index = .ok removed ∧ Keyed removed ∧ removed.values = before ++ after := by
  subst at_
  have bound : ((before.length : Nat) : Int) < list.count := by
    rw [count_eq, values, List.length_append, List.length_cons]
    omega
  refine ⟨SortedEntries.removeAt list before.length, ?_, ?_, ?_⟩
  · simp [removeAt, bound]
  · intro entry member
    exact keyed entry (List.mem_of_mem_eraseIdx member)
  · have erased := List.eraseIdx_map Prod.snd list.entries before.length
    change (list.entries.eraseIdx before.length).map Prod.snd = before ++ after
    rw [← erased]
    change list.values.eraseIdx before.length = _
    rw [values, List.eraseIdx_append_of_length_le (Nat.le_refl _)]
    simp

theorem add_append {list : SortedList} (keyed : Keyed list)
    {before after : List AgeSegment} {segment : AgeSegment} (values : list.values = before ++ after)
    (below : ∀ other ∈ before, other.period.fromTime < segment.period.fromTime)
    (above : ∀ other ∈ after, segment.period.fromTime < other.period.fromTime) :
    ∃ added, add list segment.period.fromTime segment = .ok added ∧ Keyed added ∧
      added.values = before ++ segment :: after := by
  have entries := entries_eq keyed
  rw [values, List.map_append] at entries
  have put : SortedEntries.put segment.period.fromTime segment list.entries =
      (before ++ segment :: after).map fun other => (other.period.fromTime, other) := by
    rw [entries, SortedEntries.put_append, SortedEntries.put_of_below]
    · simp
    · simpa using above
    · simpa using below
  have fresh : list.contains segment.period.fromTime = false := by
    rw [SortedEntries.contains_eq_false_iff, entries]
    intro entry member
    rcases List.mem_append.mp member with left | right
    · obtain ⟨other, otherMember, same⟩ := List.mem_map.mp left
      exact same ▸ ne_of_gt (below other otherMember)
    · obtain ⟨other, otherMember, same⟩ := List.mem_map.mp right
      exact same ▸ ne_of_lt (above other otherMember)
  refine ⟨list.set segment.period.fromTime segment, by simp [add, fresh], ?_, ?_⟩
  · intro entry member
    change entry ∈ SortedEntries.put _ _ _ at member
    rw [put] at member
    obtain ⟨other, _, same⟩ := List.mem_map.mp member
    exact same ▸ rfl
  · change (SortedEntries.put _ _ _).map Prod.snd = _
    rw [put, List.map_map]
    exact List.map_id _

theorem add_create {list : SortedList} (keyed : Keyed list) {before : List AgeSegment}
    (values : list.values = before) (period : TimePeriod) (fromAligned : period.fromTime.Aligned)
    (age : UtcTime) (below : ∀ other ∈ before, other.period.fromTime < period.fromTime) :
    ∃ added, add list period.fromTime (.create period age) = .ok added ∧ Keyed added ∧
      added.values = before ++ [.create period age] := by
  have key : (AgeSegment.create period age).period.fromTime = period.fromTime := fromAligned
  have result := add_append keyed (values.trans (List.append_nil _).symm)
    (show ∀ other ∈ before, _ < (AgeSegment.create period age).period.fromTime by
      simpa only [key] using below) (by simp)
  rwa [key] at result

end SortedList

theorem AgeSegment.create_toSegment (period : TimePeriod) {age : UtcTime}
    (fromAligned : period.fromTime.Aligned) (untilAligned : period.untilTime.Aligned)
    (ageAligned : age.Aligned) :
    (AgeSegment.create period age).toSegment = ⟨period.fromTime, period.untilTime, age⟩ := by
  simp only [toSegment, create, TimePeriod.trim]
  rw [fromAligned, untilAligned, ageAligned]

theorem AgeSegment.trim_period (segment : AgeSegment) : segment.period.trim = segment.period := by
  unfold TimePeriod.trim
  rw [segment.fromAligned, segment.untilAligned]

theorem AgeSegment.Proper.valid {segment : AgeSegment} (proper : segment.Proper)
    (positive : segment.period.fromTime < segment.period.untilTime) : segment.period.Valid :=
  ⟨proper.fromNull, proper.untilNull, positive⟩

def leftPart (segment : AgeSegment) (period : TimePeriod) : List AgeSegment :=
  if segment.period.fromTime < period.fromTime then
    [AgeSegment.create ⟨segment.period.fromTime, period.fromTime⟩ segment.age]
  else []

def rightPart (segment : AgeSegment) (period : TimePeriod) : List AgeSegment :=
  if period.untilTime < segment.period.untilTime then
    [AgeSegment.create ⟨period.untilTime, segment.period.untilTime⟩ segment.age]
  else []

section Parts

variable {segment cut : AgeSegment}

theorem leftPart_toSegment :
    (leftPart segment cut.period).map AgeSegment.toSegment =
      segment.toSegment.before cut.period.fromTime := by
  unfold leftPart Segment.before
  rw [AgeSegment.toSegment_lo]
  split
  · have same := AgeSegment.create_toSegment ⟨segment.period.fromTime, cut.period.fromTime⟩
      segment.fromAligned cut.fromAligned segment.ageAligned
    rw [List.map_singleton, same]
    rfl
  · rfl

theorem rightPart_of_lt (longer : cut.period.untilTime < segment.period.untilTime) :
    ∃ right, rightPart segment cut.period = [right] ∧
      right.toSegment = { segment.toSegment with lo := cut.period.untilTime } := by
  refine ⟨_, if_pos longer, ?_⟩
  exact AgeSegment.create_toSegment _ cut.untilAligned segment.untilAligned segment.ageAligned

theorem Proper.of_toSegment {piece : AgeSegment} (proper : segment.Proper) {lo hi : UtcTime}
    (same : piece.toSegment = ⟨lo, hi, segment.age⟩) (loNull : lo ≠ UtcTime.null)
    (hiNull : hi ≠ UtcTime.null) : piece.Proper := by
  have fields := Segment.mk.inj same
  exact ⟨fields.1 ▸ loNull, fields.2.1 ▸ hiNull, fields.2.2 ▸ proper.ageNull⟩

theorem leftPart_sound (proper : segment.Proper) (cutProper : cut.Proper) :
    Sound (leftPart segment cut.period) := by
  unfold leftPart
  split
  · rename_i room
    have same := AgeSegment.create_toSegment ⟨segment.period.fromTime, cut.period.fromTime⟩
      segment.fromAligned cut.fromAligned segment.ageAligned
    have fields := Segment.mk.inj same
    refine Sound.singleton (Proper.of_toSegment proper same proper.fromNull cutProper.fromNull) ?_
    rw [fields.1, fields.2.1]
    exact room
  · exact Sound.nil

theorem rightPart_sound (proper : segment.Proper) (cutProper : cut.Proper) :
    Sound (rightPart segment cut.period) := by
  unfold rightPart
  split
  · rename_i room
    have same := AgeSegment.create_toSegment ⟨cut.period.untilTime, segment.period.untilTime⟩
      cut.untilAligned segment.untilAligned segment.ageAligned
    have fields := Segment.mk.inj same
    refine Sound.singleton (Proper.of_toSegment proper same cutProper.untilNull proper.untilNull) ?_
    rw [fields.1, fields.2.1]
    exact room
  · exact Sound.nil

theorem mem_leftPart {piece : AgeSegment} (member : piece ∈ leftPart segment cut.period) :
    piece.period.fromTime = segment.period.fromTime ∧ piece.period.untilTime = cut.period.fromTime := by
  unfold leftPart at member
  split at member
  · rw [List.mem_singleton.mp member]
    exact ⟨segment.fromAligned, cut.fromAligned⟩
  · simp at member

theorem mem_rightPart {piece : AgeSegment} (member : piece ∈ rightPart segment cut.period) :
    piece.period.fromTime = cut.period.untilTime ∧
      piece.period.untilTime = segment.period.untilTime := by
  unfold rightPart at member
  split at member
  · rw [List.mem_singleton.mp member]
    exact ⟨cut.untilAligned, segment.untilAligned⟩
  · simp at member

theorem AgeSegment.trimOverlapWith_eq (proper : segment.Proper)
    (positive : segment.period.fromTime < segment.period.untilTime)
    (cutProper : cut.Proper) (cutPositive : cut.period.fromTime < cut.period.untilTime)
    (starts : cut.period.fromTime < segment.period.untilTime)
    (ends : segment.period.fromTime < cut.period.untilTime) :
    segment.trimOverlapWith cut.period =
      .ok (leftPart segment cut.period ++ rightPart segment cut.period) := by
  have meets := (TimePeriod.intersects_iff (proper.valid positive) (cutProper.valid cutPositive)).mpr
    ⟨ends, starts⟩
  unfold trimOverlapWith
  rw [cut.trim_period]
  simp only [meets, Bool.not_true, Bool.false_eq_true, if_false,
    UtcTime.less_of_ne_null proper.fromNull cutProper.fromNull,
    UtcTime.greater_of_ne_null proper.untilNull cutProper.untilNull, ok_bind, decide_eq_true_eq]
  by_cases room : segment.period.fromTime < cut.period.fromTime
  · obtain ⟨lefts, leftsAdded, leftsKeyed, leftsValues⟩ := SortedList.add_create SortedList.keyed_empty
      (show _ = [] from rfl) ⟨segment.period.fromTime, cut.period.fromTime⟩ segment.fromAligned
      segment.age (by simp)
    simp only [room, if_true, leftsAdded, ok_bind, leftPart, rightPart]
    by_cases longer : cut.period.untilTime < segment.period.untilTime
    · obtain ⟨both, added, _, values⟩ := SortedList.add_create leftsKeyed leftsValues
        ⟨cut.period.untilTime, segment.period.untilTime⟩ cut.untilAligned segment.age (by
          intro other member
          rw [List.mem_singleton.mp member]
          exact lt_of_eq_of_lt segment.fromAligned ends)
      simp [longer, added, values]
    · simp [longer, leftsValues]
  · simp only [room, if_false, pure_eq_ok, ok_bind, leftPart, rightPart]
    by_cases longer : cut.period.untilTime < segment.period.untilTime
    · obtain ⟨rights, added, _, values⟩ := SortedList.add_create SortedList.keyed_empty
        (show _ = [] from rfl) ⟨cut.period.untilTime, segment.period.untilTime⟩ cut.untilAligned
        segment.age (by simp)
      simp [longer, added, values]
    · simp [longer, SortedEntries.values, SortedEntries.empty]

end Parts

def newer (trimWhenSameAge : Bool) (compareAge trimAge : UtcTime) : Bool :=
  if trimWhenSameAge then trimAge ≤ compareAge else trimAge < compareAge

def carved (trimWhenSameAge : Bool) (cuts : List AgeSegment) (segment : AgeSegment) :
    List (Segment UtcTime UtcTime) :=
  carve (newer trimWhenSameAge) (cuts.map AgeSegment.toSegment) segment.toSegment

namespace TimeSeriesAge

theorem shouldTrim_eq (trimWhenSameAge : Bool) {compareSegment segmentToTrim : AgeSegment}
    (compareProper : compareSegment.Proper) (proper : segmentToTrim.Proper) :
    shouldTrim trimWhenSameAge compareSegment segmentToTrim =
      .ok (newer trimWhenSameAge compareSegment.age segmentToTrim.age) := by
  unfold shouldTrim newer
  split
  · exact UtcTime.greaterOrEqual_of_ne_null compareProper.ageNull proper.ageNull
  · exact UtcTime.greater_of_ne_null compareProper.ageNull proper.ageNull

theorem addTrimmed_ok {pieces before after : List AgeSegment} (state : TrimState)
    (keyed : Keyed state.segmentsToTrim) (values : state.segmentsToTrim.values = before ++ after)
    (sound : Sound (before ++ pieces ++ after)) :
    ∃ list, addTrimmed pieces state = .ok { state with
        segmentsToTrim := list, i := state.i + pieces.length } ∧
      Keyed list ∧ list.values = before ++ pieces ++ after := by
  induction pieces generalizing before state with
  | nil => exact ⟨_, by simp [addTrimmed], keyed, by simpa using values⟩
  | cons piece rest ih =>
      rw [List.append_assoc, List.cons_append] at sound
      obtain ⟨_, suffix, cross⟩ := Sound.append_iff.mp sound
      obtain ⟨_, positive, first, _⟩ := Sound.cons_iff.mp suffix
      obtain ⟨added, same, addedKeyed, addedValues⟩ := SortedList.add_append keyed values
        (fun other member => lt_of_lt_of_le (sound.positive (by simp [member]))
          (cross other member piece (by simp)))
        (fun other member => lt_of_lt_of_le positive (first other (by simp [member])))
      obtain ⟨list, run, listKeyed, listValues⟩ := ih
        { state with segmentsToTrim := added, i := state.i + 1 } addedKeyed
        (show _ = (before ++ [piece]) ++ after by simpa using addedValues) (by simpa using sound)
      refine ⟨list, ?_, listKeyed, by simpa using listValues⟩
      simp only [addTrimmed, same, ok_bind, run, List.length_cons]
      congr 2
      push_cast
      omega

theorem parts_sound {before after : List AgeSegment} {segment cut : AgeSegment}
    (sound : Sound (before ++ segment :: after)) (cutProper : cut.Proper)
    (cutPositive : cut.period.fromTime < cut.period.untilTime)
    (starts : cut.period.fromTime < segment.period.untilTime)
    (ends : segment.period.fromTime < cut.period.untilTime) :
    Sound (before ++ (leftPart segment cut.period ++ rightPart segment cut.period) ++ after) := by
  obtain ⟨prefixSound, suffix, cross⟩ := Sound.append_iff.mp sound
  obtain ⟨proper, _, first, afterSound⟩ := Sound.cons_iff.mp suffix
  have inside : ∀ piece ∈ leftPart segment cut.period ++ rightPart segment cut.period,
      segment.period.fromTime ≤ piece.period.fromTime ∧
        piece.period.untilTime ≤ segment.period.untilTime := by
    intro piece member
    rcases List.mem_append.mp member with left | right
    · rw [(mem_leftPart left).1, (mem_leftPart left).2]
      exact ⟨le_refl _, le_of_lt starts⟩
    · rw [(mem_rightPart right).1, (mem_rightPart right).2]
      exact ⟨le_of_lt ends, le_refl _⟩
  refine Sound.append_iff.mpr ⟨Sound.append_iff.mpr ⟨prefixSound, Sound.append_iff.mpr
    ⟨leftPart_sound proper cutProper, rightPart_sound proper cutProper, ?_⟩, ?_⟩, afterSound, ?_⟩
  · intro left leftMember right rightMember
    rw [(mem_leftPart leftMember).2, (mem_rightPart rightMember).1]
    exact le_of_lt cutPositive
  · intro other member piece pieceMember
    exact le_trans (cross other member segment (by simp)) (inside piece pieceMember).1
  · intro piece member other otherMember
    rcases List.mem_append.mp member with left | middle
    · exact cross piece left other (by simp [otherMember])
    · exact le_trans (inside piece middle).2 (first other otherMember)

theorem trimSegment_ok {before after : List AgeSegment} {segment cut : AgeSegment} {state : TrimState}
    (keyed : Keyed state.segmentsToTrim)
    (values : state.segmentsToTrim.values = before ++ segment :: after)
    (at_ : state.i = before.length) (sound : Sound (before ++ segment :: after))
    (cutProper : cut.Proper) (cutPositive : cut.period.fromTime < cut.period.untilTime)
    (starts : cut.period.fromTime < segment.period.untilTime)
    (ends : segment.period.fromTime < cut.period.untilTime) :
    ∃ list, trimSegment state cut segment = .ok { state with
        segmentsToTrim := list
        i := before.length +
          (leftPart segment cut.period ++ rightPart segment cut.period).length - 1 } ∧
      Keyed list ∧ list.values =
        before ++ (leftPart segment cut.period ++ rightPart segment cut.period) ++ after := by
  have suffix := (Sound.append_iff.mp sound).2.1
  obtain ⟨proper, positive, _, _⟩ := Sound.cons_iff.mp suffix
  obtain ⟨removed, removal, removedKeyed, removedValues⟩ := SortedList.removeAt_append keyed values at_
  obtain ⟨list, run, listKeyed, listValues⟩ := addTrimmed_ok
    { state with segmentsToTrim := removed, i := state.i - 1 } removedKeyed removedValues
    (parts_sound sound cutProper cutPositive starts ends)
  refine ⟨list, ?_, listKeyed, listValues⟩
  simp only [trimSegment, removal, ok_bind,
    AgeSegment.trimOverlapWith_eq proper positive cutProper cutPositive starts ends, run]
  congr 2
  omega

theorem trimOverlapping_stop {segmentsToCompareWith : SortedList} (trimWhenSameAge : Bool)
    {skipped todo : List AgeSegment} (values : segmentsToCompareWith.values = skipped ++ todo)
    {segment : AgeSegment} (proper : segment.Proper) (cutProper : ∀ cut ∈ todo, cut.Proper)
    (late : ∀ cut ∈ todo, segment.period.untilTime ≤ cut.period.fromTime) (fuel : Nat)
    {state : TrimState} (at_ : state.segmentsToCompareWithIndex = skipped.length) :
    trimOverlapping segmentsToCompareWith trimWhenSameAge fuel state segment = .ok (some state) := by
  cases fuel with
  | zero => rfl
  | succ fuel =>
      unfold trimOverlapping
      cases todo with
      | nil =>
          have done : ¬ state.segmentsToCompareWithIndex < segmentsToCompareWith.count := by
            rw [SortedList.count_eq, values, at_]
            simp
          simp only [done, if_false]
          rfl
      | cons cut rest =>
          have here := SortedList.getByIndex_append values
            (show (state.segmentsToCompareWithIndex : Int) = skipped.length by rw [at_])
          have bound : state.segmentsToCompareWithIndex < segmentsToCompareWith.count := by
            rw [SortedList.count_eq, values, at_]
            simp
          have apart : ¬ cut.period.fromTime < segment.period.untilTime := not_lt.mpr (late cut (by simp))
          simp only [bound, if_true, here, ok_bind, apart, decide_false, Bool.false_eq_true, if_false,
            UtcTime.less_of_ne_null (cutProper cut (by simp)).fromNull proper.untilNull]
          rfl

def Separated (cuts : List AgeSegment) (segment next : AgeSegment) : Prop :=
  cuts.Pairwise fun cut nextCut =>
    segment.period.untilTime ≤ cut.period.untilTime → next.period.untilTime ≤ nextCut.period.fromTime

theorem carved_cons_won {trimWhenSameAge : Bool} {cut segment : AgeSegment} {rest : List AgeSegment}
    (starts : cut.period.fromTime < segment.period.untilTime)
    (ends : segment.period.fromTime < cut.period.untilTime)
    (won : newer trimWhenSameAge cut.age segment.age = true) :
    carved trimWhenSameAge (cut :: rest) segment =
      (leftPart segment cut.period).map AgeSegment.toSegment ++
        ((rightPart segment cut.period).flatMap (carved trimWhenSameAge rest)) := by
  rw [leftPart_toSegment]
  by_cases longer : cut.period.untilTime < segment.period.untilTime
  · obtain ⟨piece, same, toSegment⟩ := rightPart_of_lt longer
    simp [carved, carve, starts, ends, won, longer, same, toSegment]
  · simp [carved, carve, starts, ends, won, longer, rightPart]

theorem carved_cons_lost {trimWhenSameAge : Bool} {cut segment : AgeSegment} {rest : List AgeSegment}
    (starts : cut.period.fromTime < segment.period.untilTime)
    (lost : newer trimWhenSameAge cut.age segment.age = false) :
    carved trimWhenSameAge (cut :: rest) segment = carved trimWhenSameAge rest segment := by
  unfold carved
  simp only [List.map_cons, carve, AgeSegment.toSegment_lo, AgeSegment.toSegment_hi,
    AgeSegment.toSegment_val, starts, lost, if_true, Bool.false_and, Bool.false_eq_true, if_false]

theorem carved_of_late {trimWhenSameAge : Bool} {cuts : List AgeSegment} {segment : AgeSegment}
    (late : ∀ cut ∈ cuts, segment.period.untilTime ≤ cut.period.fromTime) :
    carved trimWhenSameAge cuts segment = [segment.toSegment] := by
  cases cuts with
  | nil => rfl
  | cons cut rest =>
      have apart := not_lt.mpr (late cut (by simp))
      simp [carved, carve, apart]

section Loop

variable {segmentsToCompareWith : SortedList} {trimWhenSameAge : Bool}

def TrimsTo (trimWhenSameAge : Bool) (cuts todo before after : List AgeSegment) (segment : AgeSegment)
    (ending : UtcTime) (run : Except SystemException (Option TrimState)) : Prop :=
  ∃ pieces index, pieces.map AgeSegment.toSegment = carved trimWhenSameAge todo segment ∧
    Sound (before ++ pieces ++ after) ∧ index ≤ cuts.length ∧
    (∀ cut ∈ cuts.take (index - 1), cut.period.untilTime ≤ ending) ∧
    (before ++ pieces ++ after = [] ∧ run = .ok none ∨
      ∃ list, run = .ok (some ⟨list, before.length + pieces.length - 1, index⟩) ∧ Keyed list ∧
        list.values = before ++ pieces ++ after)

theorem TrimsTo.of_late {skipped todo before after : List AgeSegment} {segment : AgeSegment}
    {state : TrimState} {ending : UtcTime} (values : segmentsToCompareWith.values = skipped ++ todo)
    (cutProper : ∀ cut ∈ todo, cut.Proper) (keyed : Keyed state.segmentsToTrim)
    (listValues : state.segmentsToTrim.values = before ++ segment :: after)
    (at_ : state.i = before.length) (cutAt : state.segmentsToCompareWithIndex = skipped.length)
    (sound : Sound (before ++ segment :: after))
    (late : ∀ cut ∈ todo, segment.period.untilTime ≤ cut.period.fromTime)
    (behind : ∀ cut ∈ skipped.dropLast, cut.period.untilTime ≤ ending) (fuel : Nat) :
    TrimsTo trimWhenSameAge (skipped ++ todo) todo before after segment ending
      (trimOverlapping segmentsToCompareWith trimWhenSameAge fuel state segment) := by
  have proper := (Sound.cons_iff.mp (Sound.append_iff.mp sound).2.1).1
  refine ⟨[segment], skipped.length, by rw [carved_of_late late]; rfl, by simpa using sound,
    by simp, ?_, Or.inr ⟨state.segmentsToTrim, ?_, keyed, by simpa using listValues⟩⟩
  · rw [List.take_append_of_le_length (Nat.sub_le _ _), ← List.dropLast_eq_take]
    exact behind
  · rw [trimOverlapping_stop trimWhenSameAge values proper cutProper late fuel cutAt]
    simp [← at_, ← cutAt]

theorem TrimsTo.extend {cuts todo rest before left after : List AgeSegment}
    {segment piece : AgeSegment} {ending : UtcTime} {run : Except SystemException (Option TrimState)}
    (trims : TrimsTo trimWhenSameAge cuts rest (before ++ left) after piece ending run)
    (split : carved trimWhenSameAge todo segment =
      left.map AgeSegment.toSegment ++ carved trimWhenSameAge rest piece) :
    TrimsTo trimWhenSameAge cuts todo before after segment ending run := by
  obtain ⟨pieces, index, same, sound, bound, behind, outcome⟩ := trims
  refine ⟨left ++ pieces, index, by rw [List.map_append, same, split], by simpa using sound, bound,
    behind, ?_⟩
  rcases outcome with ⟨empty, result⟩ | ⟨list, result, keyed, values⟩
  · exact Or.inl ⟨by simpa using empty, result⟩
  · refine Or.inr ⟨list, ?_, keyed, by simpa using values⟩
    rw [result]
    congr 3
    simp only [List.length_append]
    push_cast
    omega

theorem getByIndex_neighbour {list : SortedList} {done after : List AgeSegment} {P : AgeSegment → Prop}
    (values : list.values = done ++ after) (nonempty : done ++ after ≠ [])
    (earlier : ∀ segment ∈ done, P segment) (later : ∀ segment ∈ after.head?, P segment) :
    ∃ neighbour ∈ done ++ after,
      SortedList.getByIndex list (max ((done.length : Int) - 1) 0) = .ok neighbour ∧ P neighbour := by
  rcases List.eq_nil_or_concat done with none | ⟨init, last, some⟩
  · subst none
    cases after with
    | nil => exact absurd rfl nonempty
    | cons next rest =>
        exact ⟨next, by simp, SortedList.getByIndex_append values rfl,
          later next (by simp)⟩
  · rw [List.concat_eq_append] at some
    subst some
    refine ⟨last, by simp, SortedList.getByIndex_append (show _ = init ++ last :: after from ?_) ?_,
      earlier last (by simp)⟩
    · simpa using values
    · simp only [List.length_append, List.length_singleton]
      push_cast
      omega

theorem TrimsTo.consumed {skipped rest before left after : List AgeSegment} {cut segment : AgeSegment}
    {list : SortedList} {ending : UtcTime}
    (values : segmentsToCompareWith.values = (skipped ++ [cut]) ++ rest)
    (restSound : Sound rest) (keyed : Keyed list) (listValues : list.values = before ++ left ++ after)
    (sound : Sound (before ++ left ++ after))
    (earlier : ∀ other ∈ before ++ left, ∀ next ∈ rest, other.period.untilTime ≤ next.period.fromTime)
    (later : ∀ other ∈ after.head?, ∀ next ∈ rest, other.period.untilTime ≤ next.period.fromTime)
    (behind : ∀ other ∈ skipped, other.period.untilTime ≤ ending)
    (split : carved trimWhenSameAge (cut :: rest) segment = left.map AgeSegment.toSegment) (fuel : Nat) :
    TrimsTo trimWhenSameAge ((skipped ++ [cut]) ++ rest) (cut :: rest) before after segment ending
      (if list.count = 0 then pure none
        else do
          let segmentToTrim ← SortedList.getByIndex list (max ((before ++ left).length - 1) 0)
          trimOverlapping segmentsToCompareWith trimWhenSameAge fuel
            ⟨list, (before ++ left).length - 1, (skipped ++ [cut]).length⟩ segmentToTrim) := by
  refine ⟨left, (skipped ++ [cut]).length, split.symm, sound, by simp, ?_, ?_⟩
  · have taken : ((skipped ++ [cut]) ++ rest).take ((skipped ++ [cut]).length - 1) = skipped := by
      simp
    rw [taken]
    exact behind
  · by_cases empty : before ++ left ++ after = []
    · refine Or.inl ⟨empty, if_pos ?_⟩
      rw [SortedList.count_eq, listValues, empty]
      rfl
    · obtain ⟨neighbour, member, same, ended⟩ := getByIndex_neighbour listValues empty earlier later
      have nonempty : list.count ≠ 0 := by
        rw [SortedList.count_eq, listValues]
        exact fun zero => empty (List.length_eq_zero_iff.mp zero)
      refine Or.inr ⟨list, ?_, keyed, listValues⟩
      rw [if_neg nonempty, same, ok_bind, trimOverlapping_stop trimWhenSameAge values
        (sound.proper neighbour member) restSound.proper ended fuel rfl]
      simp

theorem trimOverlapping_ok {skipped todo before after : List AgeSegment} {segment : AgeSegment}
    (state : TrimState) {ending : UtcTime} (values : segmentsToCompareWith.values = skipped ++ todo)
    (cuts : Sound (skipped ++ todo)) (keyed : Keyed state.segmentsToTrim)
    (listValues : state.segmentsToTrim.values = before ++ segment :: after)
    (at_ : state.i = before.length) (cutAt : state.segmentsToCompareWithIndex = skipped.length)
    (sound : Sound (before ++ segment :: after))
    (reach : ∀ cut ∈ todo, segment.period.fromTime < cut.period.untilTime)
    (chain : List.IsChain (Separated (skipped ++ todo)) (segment :: after))
    (behind : ∀ cut ∈ skipped.dropLast, cut.period.untilTime ≤ ending)
    (ended : segment.period.untilTime ≤ ending) {fuel : Nat} (enough : todo.length ≤ fuel) :
    TrimsTo trimWhenSameAge (skipped ++ todo) todo before after segment ending
      (trimOverlapping segmentsToCompareWith trimWhenSameAge fuel state segment) := by
  induction todo generalizing skipped before segment state fuel with
  | nil => exact TrimsTo.of_late values (by simp) keyed listValues at_ cutAt sound (by simp) behind fuel
  | cons cut rest ih =>
      obtain ⟨skippedSound, todoSound, skippedBefore⟩ := Sound.append_iff.mp cuts
      obtain ⟨cutProper, cutPositive, cutFirst, restSound⟩ := Sound.cons_iff.mp todoSound
      obtain ⟨beforeSound, suffix, beforeEnded⟩ := Sound.append_iff.mp sound
      obtain ⟨proper, positive, first, afterSound⟩ := Sound.cons_iff.mp suffix
      have ends := reach cut (by simp)
      by_cases starts : cut.period.fromTime < segment.period.untilTime
      · have shifted : skipped ++ cut :: rest = (skipped ++ [cut]) ++ rest := by simp
        have restReach : ∀ other ∈ rest, cut.period.untilTime < other.period.untilTime :=
          fun other member => lt_of_le_of_lt (cutFirst other member) (restSound.positive member)
        have skippedEnded : ∀ other ∈ (skipped ++ [cut]).dropLast, other.period.untilTime ≤ ending := by
          rw [List.dropLast_concat]
          exact fun other member => le_trans (skippedBefore other member cut (by simp))
            (le_trans (le_of_lt starts) ended)
        obtain ⟨fuel, rfl⟩ : ∃ more, fuel = more + 1 := ⟨fuel - 1, by simp at enough; omega⟩
        have restEnough : rest.length ≤ fuel := by simpa using enough
        have here := SortedList.getByIndex_append values
          (show (state.segmentsToCompareWithIndex : Int) = skipped.length by rw [cutAt])
        have bound : state.segmentsToCompareWithIndex < segmentsToCompareWith.count := by
          rw [SortedList.count_eq, values, cutAt]
          simp
        unfold trimOverlapping
        simp only [bound, if_true, here, ok_bind, starts, decide_true,
          UtcTime.less_of_ne_null cutProper.fromNull proper.untilNull,
          shouldTrim_eq trimWhenSameAge cutProper proper]
        cases won : newer trimWhenSameAge cut.age segment.age with
        | false =>
            have nonempty : state.segmentsToTrim.count ≠ 0 := by
              rw [SortedList.count_eq, listValues]
              simp
            have again := SortedList.getByIndex_append listValues
              (show max state.i 0 = before.length by rw [at_]; omega)
            simp only [Bool.false_eq_true, if_false, pure_eq_ok, ok_bind, nonempty, again]
            rw [shifted] at values cuts chain ⊢
            refine TrimsTo.extend (ih
              { state with segmentsToCompareWithIndex := state.segmentsToCompareWithIndex + 1 }
              values cuts keyed (show _ = (before ++ []) ++ segment :: after by simpa using listValues)
              (by simpa using at_) (by simp [cutAt])
              (by simpa using sound) ?_ chain skippedEnded ended restEnough) ?_
            · exact fun other member => lt_trans ends (restReach other member)
            · exact carved_cons_lost starts won
        | true =>
            obtain ⟨list, trimmed, listKeyed, trimmedValues⟩ := trimSegment_ok keyed listValues at_ sound
              cutProper cutPositive starts ends
            simp only [if_true, trimmed, ok_bind]
            by_cases longer : cut.period.untilTime < segment.period.untilTime
            · obtain ⟨right, rightSame, rightSegment⟩ := rightPart_of_lt longer
              have fields := Segment.mk.inj rightSegment
              simp only [AgeSegment.toSegment_hi] at fields
              have partsSound := parts_sound sound cutProper cutPositive starts ends
              rw [rightSame] at trimmedValues partsSound
              have split : before ++ (leftPart segment cut.period ++ [right]) ++ after =
                  (before ++ leftPart segment cut.period) ++ right :: after := by simp
              rw [split] at trimmedValues partsSound
              have nonempty : list.count ≠ 0 := by
                rw [SortedList.count_eq, trimmedValues]
                simp
              have position : before.length +
                  (leftPart segment cut.period ++ rightPart segment cut.period).length - (1 : Int) =
                    (before ++ leftPart segment cut.period).length := by
                simp only [rightSame, List.length_append, List.length_singleton]
                push_cast
                omega
              have again := SortedList.getByIndex_append trimmedValues
                (show max ((before ++ leftPart segment cut.period).length : Int) 0 =
                  (before ++ leftPart segment cut.period).length by omega)
              simp only [position, nonempty, if_false, again, ok_bind]
              rw [shifted] at values cuts chain ⊢
              refine TrimsTo.extend (ih _
                values cuts listKeyed trimmedValues rfl (by simp [cutAt]) partsSound ?_ ?_ skippedEnded
                (fields.2.1 ▸ ended) restEnough) ?_
              · rw [fields.1]
                exact restReach
              · refine List.IsChain.imp_head (fun separated => ?_) chain
                unfold Separated at separated ⊢
                rwa [fields.2.1]
              · rw [carved_cons_won starts ends won, rightSame, List.flatMap_singleton]
            · have noRight : rightPart segment cut.period = [] := if_neg longer
              rw [noRight, List.append_nil] at trimmedValues
              simp only [noRight, List.append_nil]
              have partsSound := parts_sound sound cutProper cutPositive starts ends
              rw [noRight, List.append_nil] at partsSound
              have position : (before.length : Int) + (leftPart segment cut.period).length - 1 =
                  (before ++ leftPart segment cut.period).length - 1 := by simp
              have cutPosition : state.segmentsToCompareWithIndex + 1 = (skipped ++ [cut]).length := by
                simp [cutAt]
              rw [position, cutPosition, shifted]
              refine TrimsTo.consumed (values.trans shifted) restSound listKeyed trimmedValues partsSound
                ?_ ?_ (by simpa using skippedEnded) ?_ fuel
              · intro other member next nextMember
                refine le_trans ?_ (cutFirst next nextMember)
                rcases List.mem_append.mp member with old | part
                · exact le_trans (beforeEnded other old segment (by simp)) (le_of_lt ends)
                · rw [(mem_leftPart part).2]
                  exact le_of_lt cutPositive
              · intro next nextMember other otherMember
                have separated := (List.isChain_cons.mp chain).1 next nextMember
                have pairs := (List.pairwise_append.mp separated).2.1
                exact (List.pairwise_cons.mp pairs).1 other otherMember (not_lt.mp longer)
              · simp [carved_cons_won starts ends won, noRight]
      · refine TrimsTo.of_late values todoSound.proper keyed listValues at_ cutAt sound ?_ behind fuel
        intro other member
        rcases List.mem_cons.mp member with same | later
        · exact same ▸ not_lt.mp starts
        · exact le_trans (not_lt.mp starts) (le_trans (le_of_lt cutPositive) (cutFirst other later))

theorem carved_append {skipped todo : List AgeSegment} {segment : AgeSegment}
    (cuts : Sound (skipped ++ todo)) (positive : segment.period.fromTime < segment.period.untilTime)
    (ended : ∀ cut ∈ skipped, cut.period.untilTime ≤ segment.period.fromTime) :
    carved trimWhenSameAge (skipped ++ todo) segment = carved trimWhenSameAge todo segment := by
  unfold carved
  rw [List.map_append]
  exact carve_append_of_before _ (Sound.append_iff.mp cuts).1.ordered positive (by simpa using ended)

theorem skipNonOverlapping_ok {skipped todo : List AgeSegment} {segment : AgeSegment}
    (values : segmentsToCompareWith.values = skipped ++ todo) (cuts : Sound (skipped ++ todo))
    (proper : segment.Proper) (ended : ∀ cut ∈ skipped, cut.period.untilTime ≤ segment.period.fromTime)
    {fuel : Nat} (enough : todo.length ≤ fuel) :
    ∃ passed left, segmentsToCompareWith.values = passed ++ left ∧
      skipNonOverlapping segmentsToCompareWith segment fuel skipped.length = .ok passed.length ∧
      (∀ cut ∈ passed, cut.period.untilTime ≤ segment.period.fromTime) ∧
      ∀ cut ∈ left, segment.period.fromTime < cut.period.untilTime := by
  induction todo generalizing skipped fuel with
  | nil =>
      refine ⟨skipped, [], values, ?_, ended, by simp⟩
      have done : ¬ skipped.length < segmentsToCompareWith.count := by
        rw [SortedList.count_eq, values]
        simp
      cases fuel <;> simp [skipNonOverlapping, done]
  | cons cut rest ih =>
      obtain ⟨cutProper, _, cutFirst, restSound⟩ := Sound.cons_iff.mp (Sound.append_iff.mp cuts).2.1
      obtain ⟨fuel, rfl⟩ : ∃ more, fuel = more + 1 := ⟨fuel - 1, by simp at enough; omega⟩
      have here := SortedList.getByIndex_append values rfl
      have bound : skipped.length < segmentsToCompareWith.count := by
        rw [SortedList.count_eq, values]
        simp
      simp only [skipNonOverlapping, bound, if_true, here, ok_bind,
        UtcTime.lessOrEqual_of_ne_null cutProper.untilNull proper.fromNull, decide_eq_true_eq]
      by_cases ends : cut.period.untilTime ≤ segment.period.fromTime
      · have shifted : skipped ++ cut :: rest = (skipped ++ [cut]) ++ rest := by simp
        rw [if_pos ends]
        obtain ⟨passed, left, split, run, before, after⟩ := ih
          (values.trans shifted) (shifted ▸ cuts) (by simpa [or_imp, forall_and] using ⟨ended, ends⟩)
          (by simpa using enough)
        exact ⟨passed, left, split, by simpa using run, before, after⟩
      · rw [if_neg ends]
        refine ⟨skipped, cut :: rest, values, rfl, ended, ?_⟩
        intro other member
        rcases List.mem_cons.mp member with same | later
        · exact same ▸ not_le.mp ends
        · exact lt_trans (not_le.mp ends) (lt_of_le_of_lt (cutFirst other later) (restSound.positive later))

theorem trimFrom_ok {before todo : List AgeSegment} (state : TrimState)
    (cuts : Sound segmentsToCompareWith.values) (keyed : Keyed state.segmentsToTrim)
    (values : state.segmentsToTrim.values = before ++ todo) (at_ : state.i = before.length)
    (sound : Sound (before ++ todo))
    (bound : state.segmentsToCompareWithIndex ≤ segmentsToCompareWith.values.length)
    (behind : ∀ cut ∈ segmentsToCompareWith.values.take state.segmentsToCompareWithIndex,
      ∀ segment ∈ todo, cut.period.untilTime ≤ segment.period.fromTime)
    (chain : List.IsChain (Separated segmentsToCompareWith.values) todo)
    {fuel : Nat} (enough : todo.length ≤ fuel) :
    ∃ result pieces, trimFrom segmentsToCompareWith trimWhenSameAge fuel state = .ok result ∧
      Keyed result ∧ result.values = before ++ pieces ∧ Sound (before ++ pieces) ∧
      pieces.map AgeSegment.toSegment =
        todo.flatMap (carved trimWhenSameAge segmentsToCompareWith.values) := by
  induction todo generalizing before state fuel with
  | nil =>
      refine ⟨state.segmentsToTrim, [], ?_, keyed, values, sound, rfl⟩
      have done : ¬ state.i < state.segmentsToTrim.count := by
        rw [SortedList.count_eq, values, at_]
        simp
      cases fuel <;> simp [trimFrom, done]
  | cons segment after ih =>
      obtain ⟨beforeSound, suffix, beforeEnded⟩ := Sound.append_iff.mp sound
      obtain ⟨proper, positive, first, afterSound⟩ := Sound.cons_iff.mp suffix
      obtain ⟨fuel, rfl⟩ : ∃ more, fuel = more + 1 := ⟨fuel - 1, by simp at enough; omega⟩
      have inside : state.i < state.segmentsToTrim.count := by
        rw [SortedList.count_eq, values, at_, List.length_append, List.length_cons]
        omega
      have here := SortedList.getByIndex_append values at_
      have taken : (segmentsToCompareWith.values.take state.segmentsToCompareWithIndex).length =
          state.segmentsToCompareWithIndex := by
        rw [List.length_take, Nat.min_eq_left bound]
      obtain ⟨passed, left, split, skip, passedEnded, leftReach⟩ := skipNonOverlapping_ok
        (List.take_append_drop _ _).symm (by simpa using cuts) proper
        (fun cut member => behind cut member segment (by simp))
        (show _ ≤ segmentsToCompareWith.count by simp [SortedList.count_eq])
      rw [taken] at skip
      simp only [trimFrom, inside, if_true, here, ok_bind, skip]
      by_cases finished : passed.length = segmentsToCompareWith.count
      · have none : left = [] := by
          rw [SortedList.count_eq, split, List.length_append] at finished
          exact List.length_eq_zero_iff.mp (by omega)
        subst none
        rw [if_pos finished]
        refine ⟨_, segment :: after, rfl, keyed, values, sound, ?_⟩
        rw [List.map_eq_flatMap]
        refine List.flatMap_congr fun other member => ?_
        have startsLater : segment.period.fromTime ≤ other.period.fromTime := by
          rcases List.mem_cons.mp member with same | later
          · rw [same]
          · exact le_trans (le_of_lt positive) (first other later)
        rw [split] at cuts ⊢
        rw [carved_append cuts (suffix.positive member)
          fun cut cutMember => le_trans (passedEnded cut cutMember) startsLater]
        rfl
      · rw [if_neg finished]
        rw [split] at cuts chain
        obtain ⟨pieces, index, carving, piecesSound, indexBound, indexBehind, outcome⟩ :=
          trimOverlapping_ok
            { state with segmentsToCompareWithIndex := passed.length } split cuts keyed values at_ rfl sound leftReach chain
            (fun cut member => le_trans (passedEnded cut (List.dropLast_subset _ member))
              (le_of_lt positive)) (le_refl _)
            (show _ ≤ segmentsToCompareWith.count by simp [SortedList.count_eq, split])
        rw [← carved_append cuts positive passedEnded, ← split] at carving
        rcases outcome with ⟨empty, run⟩ | ⟨list, run, listKeyed, listValues⟩
        · rw [List.append_eq_nil_iff] at empty
          refine ⟨SortedEntries.empty, [], by rw [run]; rfl, SortedList.keyed_empty, ?_, ?_, ?_⟩
          · rw [(List.append_eq_nil_iff.mp empty.1).1]
            rfl
          · simpa using beforeSound
          · rw [empty.2, List.flatMap_singleton, ← carving, (List.append_eq_nil_iff.mp empty.1).2]
        · obtain ⟨result, rest, rerun, resultKeyed, resultValues, resultSound, restCarving⟩ := ih
            ⟨list, _, index - 1⟩
            listKeyed listValues rfl piecesSound (le_trans (Nat.sub_le _ _) (split ▸ indexBound))
            (fun cut member other otherMember =>
              le_trans (indexBehind cut (split ▸ member)) (first other otherMember))
            (split ▸ chain.tail) (by simpa using enough)
          refine ⟨result, pieces ++ rest, ?_, resultKeyed, by simpa using resultValues,
            by simpa using resultSound, ?_⟩
          · simp only [run, ok_bind, ← rerun]
            congr 2
            simp only [List.length_append]
            push_cast
            omega
          · rw [List.map_append, carving, restCarving, List.flatMap_cons]

end Loop

end TimeSeriesAge

end ServiceHost
