import Mathlib.Order.MinMax
import ServiceHost.Library.Outcome
import ServiceHost.Time.UtcTime

/-!
`Intersects` and `Intersection`. The first reads a null bound as an open one, the second
compares the bounds as they are, so they agree where no null bound reaches the second.
-/

namespace ServiceHost

open Library

namespace TimePeriod

variable {period other : TimePeriod}

structure Bounded (period : TimePeriod) : Prop where
  fromNull : period.fromTime ≠ UtcTime.null
  untilNull : period.untilTime ≠ UtcTime.null

def Positive (period : TimePeriod) : Prop := period.withoutNull.fromTime < period.withoutNull.untilTime

def Consistent (period other : TimePeriod) : Prop :=
  ∃ common, period.intersection other = .ok common ∧ (common.isSome = true ↔ period.intersects other = true) ∧
    (period.Positive → other.Positive → ∀ time, time ≠ UtcTime.null →
      ((∃ part ∈ common, part.intersectsTime time = true) ↔
        period.intersectsTime time = true ∧ other.intersectsTime time = true))

theorem withoutNull_bounded (period : TimePeriod) : period.withoutNull.Bounded := by
  have minNull : UtcTime.minValue ≠ UtcTime.null := by decide
  have maxNull : UtcTime.maxValue ≠ UtcTime.null := by decide
  constructor
  · rw [withoutNull]
    dsimp only
    split
    · exact minNull
    · assumption
  · rw [withoutNull]
    dsimp only
    split
    · exact maxNull
    · assumption

@[simp] theorem withoutNull_of_bounded (bounded : period.Bounded) : period.withoutNull = period := by
  simp [withoutNull, bounded.fromNull, bounded.untilNull]

theorem Positive.valid (positive : period.Positive) : period.withoutNull.Valid :=
  ⟨(withoutNull_bounded period).fromNull, (withoutNull_bounded period).untilNull, positive⟩

theorem intersects_withoutNull (period other : TimePeriod) :
    period.withoutNull.intersects other.withoutNull = period.intersects other := by
  simp only [intersects, withoutNull_of_bounded (withoutNull_bounded _)]

theorem intersects_comm (period other : TimePeriod) : period.intersects other = other.intersects period := by
  apply Bool.eq_iff_iff.mpr
  simp only [intersects, Bool.or_eq_true, Bool.and_eq_true, decide_eq_true_eq, beq_iff_eq, gt_iff_lt]
  constructor
  · rintro (⟨before, after⟩ | same)
    · exact Or.inl ⟨after, before⟩
    · exact Or.inr same.symm
  · rintro (⟨before, after⟩ | same)
    · exact Or.inl ⟨after, before⟩
    · exact Or.inr same.symm

theorem Positive.intersects_iff (positive : period.Positive) (otherPositive : other.Positive) :
    period.intersects other = true ↔ period.withoutNull.fromTime < other.withoutNull.untilTime ∧
      other.withoutNull.fromTime < period.withoutNull.untilTime := by
  rw [← intersects_withoutNull]
  exact TimePeriod.intersects_iff positive.valid otherPositive.valid

theorem Positive.intersectsTime_iff (positive : period.Positive) {time : UtcTime} (timeNull : time ≠ UtcTime.null) :
    period.intersectsTime time = true ↔ period.withoutNull.Covers time := by
  have instant : (TimePeriod.mk time time).withoutNull = ⟨time, time⟩ := withoutNull_of_bounded ⟨timeNull, timeNull⟩
  have closed : period.intersectsTime time = period.withoutNull.intersectsTime time := by
    rw [intersectsTime, intersectsTime, ← intersects_withoutNull, instant]
  rw [closed]
  exact TimePeriod.intersectsTime_iff positive.valid timeNull

theorem Positive.apart (positive : period.Positive) (otherPositive : other.Positive)
    (apart : period.intersects other = false) {time : UtcTime} (timeNull : time ≠ UtcTime.null) :
    ¬(period.intersectsTime time = true ∧ other.intersectsTime time = true) := by
  rw [positive.intersectsTime_iff timeNull, otherPositive.intersectsTime_iff timeNull]
  rintro ⟨⟨lower, upper⟩, ⟨otherLower, otherUpper⟩⟩
  have meets : period.intersects other = true :=
    (positive.intersects_iff otherPositive).mpr
      ⟨lt_of_le_of_lt lower otherUpper, lt_of_le_of_lt otherLower upper⟩
  rw [apart] at meets
  cases meets

theorem intersection_of_bounded (bounded : period.Bounded) (otherBounded : other.Bounded)
    (meets : period.intersects other = true) : period.intersection other =
      .ok (some ⟨max period.fromTime other.fromTime, min period.untilTime other.untilTime⟩) := by
  have later : (if period.fromTime < other.fromTime then other.fromTime else period.fromTime) =
      max period.fromTime other.fromTime := by
    rcases lt_or_ge period.fromTime other.fromTime with before | after
    · rw [if_pos before, max_eq_right (le_of_lt before)]
    · rw [if_neg (not_lt.mpr after), max_eq_left after]
  have earlier : (if other.untilTime < period.untilTime then other.untilTime else period.untilTime) =
      min period.untilTime other.untilTime := by
    rcases lt_or_ge other.untilTime period.untilTime with before | after
    · rw [if_pos before, min_eq_right (le_of_lt before)]
    · rw [if_neg (not_lt.mpr after), min_eq_left after]
  rw [← later, ← earlier]
  simp only [intersection, meets, if_true, UtcTime.greater_of_ne_null otherBounded.fromNull bounded.fromNull,
    UtcTime.less_of_ne_null otherBounded.untilNull bounded.untilNull, ok_bind, decide_eq_true_eq, pure_eq_ok]
  split <;> split <;> rfl

theorem Bounded.intersection (bounded : period.Bounded) (otherBounded : other.Bounded) :
    (TimePeriod.mk (max period.fromTime other.fromTime) (min period.untilTime other.untilTime)).Bounded := by
  constructor
  · rcases max_choice period.fromTime other.fromTime with first | second
    · rw [first]
      exact bounded.fromNull
    · rw [second]
      exact otherBounded.fromNull
  · rcases min_choice period.untilTime other.untilTime with first | second
    · rw [first]
      exact bounded.untilNull
    · rw [second]
      exact otherBounded.untilNull

theorem consistent_of_bounded (bounded : period.Bounded) (otherBounded : other.Bounded)
    (meets : period.intersects other = true) : period.Consistent other := by
  refine ⟨_, intersection_of_bounded bounded otherBounded meets, by simp [meets], ?_⟩
  intro positive otherPositive time timeNull
  have order := (positive.intersects_iff otherPositive).mp meets
  have forward : period.fromTime < period.untilTime := by simpa [Positive, bounded] using positive
  have otherForward : other.fromTime < other.untilTime := by simpa [Positive, otherBounded] using otherPositive
  rw [withoutNull_of_bounded bounded, withoutNull_of_bounded otherBounded] at order
  have common : (TimePeriod.mk (max period.fromTime other.fromTime) (min period.untilTime other.untilTime)).Positive := by
    rw [Positive, withoutNull_of_bounded (bounded.intersection otherBounded)]
    apply max_lt
    · exact lt_min forward order.1
    · exact lt_min order.2 otherForward
  simp only [Option.mem_some_iff, exists_eq_left', common.intersectsTime_iff timeNull,
    positive.intersectsTime_iff timeNull, otherPositive.intersectsTime_iff timeNull,
    withoutNull_of_bounded bounded, withoutNull_of_bounded otherBounded,
    withoutNull_of_bounded (bounded.intersection otherBounded), Covers, max_le_iff, lt_min_iff]
  constructor
  · rintro ⟨⟨lower, otherLower⟩, ⟨upper, otherUpper⟩⟩
    exact ⟨⟨lower, upper⟩, ⟨otherLower, otherUpper⟩⟩
  · rintro ⟨⟨lower, upper⟩, ⟨otherLower, otherUpper⟩⟩
    exact ⟨⟨lower, otherLower⟩, ⟨upper, otherUpper⟩⟩

theorem consistent_of_apart (apart : period.intersects other = false) : period.Consistent other := by
  refine ⟨none, by simp [intersection, apart], by simp [apart], ?_⟩
  intro positive otherPositive time timeNull
  constructor
  · rintro ⟨part, member, _⟩
    cases member
  · intro both
    exact absurd both (positive.apart otherPositive apart timeNull)

theorem bounded_of_intersection {common : TimePeriod} (found : period.intersection other = .ok (some common)) :
    period.Bounded ∧ other.Bounded := by
  cases meets : period.intersects other with
  | false => simp [intersection, meets] at found
  | true =>
      cases fromCompared : UtcTime.greater other.fromTime period.fromTime with
      | error exception => simp [intersection, meets, fromCompared] at found
      | ok later =>
          cases untilCompared : UtcTime.less other.untilTime period.untilTime with
          | error exception =>
              cases later <;> simp [intersection, meets, fromCompared, untilCompared] at found
          | ok earlier =>
              have fromNull := UtcTime.compareOp_ok fromCompared
              have untilNull := UtcTime.compareOp_ok untilCompared
              exact ⟨⟨fromNull.2.1, untilNull.2.1⟩, ⟨fromNull.1, untilNull.1⟩⟩

/-- Meeting is symmetric, and the intersection agrees with it unless periods that meet
have an open bound. -/
theorem intersection_consistent_iff (period other : TimePeriod) :
    period.intersects other = other.intersects period ∧ period.Consistent other ↔
      (period.intersects other = true → period.Bounded ∧ other.Bounded) := by
  constructor
  · rintro ⟨_, common, found, present, _⟩ meets
    obtain ⟨part, rfl⟩ := Option.isSome_iff_exists.mp (present.mpr meets)
    exact bounded_of_intersection found
  · intro closed
    refine ⟨intersects_comm period other, ?_⟩
    cases meets : period.intersects other with
    | true => exact consistent_of_bounded (closed meets).1 (closed meets).2 meets
    | false => exact consistent_of_apart meets

/-- A period with an open beginning meets another one, and the intersection throws. -/
theorem intersection_open :
    intersection ⟨.null, .ofTicks Utc.hour⟩ ⟨.ofTicks Utc.minute, .ofTicks Utc.day⟩ =
        .error (.argumentNull UtcTime.oneOfOperandsIsNull) ∧
      ¬Consistent ⟨.null, .ofTicks Utc.hour⟩ ⟨.ofTicks Utc.minute, .ofTicks Utc.day⟩ := by
  have throws : intersection ⟨.null, .ofTicks Utc.hour⟩ ⟨.ofTicks Utc.minute, .ofTicks Utc.day⟩ =
      .error (.argumentNull UtcTime.oneOfOperandsIsNull) := by
    rfl
  refine ⟨throws, ?_⟩
  rintro ⟨common, found, _⟩
  rw [throws] at found
  cases found

end TimePeriod

end ServiceHost
