import Mathlib.Algebra.Group.Int.Defs
import Mathlib.Order.Lattice
import Mathlib.Order.Basic
import Mathlib.Data.Int.Order.Basic

/-!
The time axis: `UtcTime` with its sentinels, the comparison and arithmetic
operators, and the half-open `TimePeriod`. A tick count is a C# `long`, so sums
wrap around; a `TimeSpan` is represented by its ticks.
-/

namespace ServiceHost

inductive SystemException
  | argumentNull (paramName : String)
  | argument (message : String)
  | argumentOutOfRange
  | indexOutOfRange
  | nullReference
  | invalidOperation (message : String)
  | application (message : String)
  | divideByZero
  | overflow
  | format
  | keyNotFound (key : List UInt16)
deriving DecidableEq, Repr

def long (value : Int) : Int := value.bmod 0x10000000000000000

theorem le_long (value : Int) : -2 ^ 63 ≤ long value := Int.le_bmod (by decide)

theorem long_lt (value : Int) : long value < 2 ^ 63 := Int.bmod_lt (by decide)

theorem long_eq {value : Int} (lower : -2 ^ 63 ≤ value) (upper : value < 2 ^ 63) :
    long value = value := by
  simp only [long, Int.bmod_def]
  split <;> omega

theorem long_eq_zero {value : Int} (zero : long value = 0) (lower : -2 ^ 64 < value)
    (upper : value < 2 ^ 64) : value = 0 := by
  have divides := Int.dvd_of_bmod_eq_zero zero
  omega

theorem tmod_cases (value divisor : Int) :
    0 ≤ value ∧ value.tmod divisor = value % divisor ∨
      value < 0 ∧ value.tmod divisor = -(-value % divisor) := by
  by_cases sign : 0 ≤ value
  · exact Or.inl ⟨sign, Int.tmod_eq_emod_of_nonneg sign⟩
  · have negated := Int.neg_tmod (-value) divisor
    rw [Int.neg_neg, Int.tmod_eq_emod_of_nonneg (show 0 ≤ -value by omega)] at negated
    exact Or.inr ⟨by omega, negated⟩

namespace Utc

def maxValue : Int := 0x7FFFFFFFFFFFFFFF
def minValue : Int := -maxValue
def null : Int := 0
def second : Int := 10000000
def milliSecond : Int := second / 1000
def minute : Int := second * 60
def hour : Int := minute * 60
def day : Int := hour * 24
def week : Int := day * 7
def month : Int := day * 30
def year : Int := day * 365
def pdTime1970 : Int := 621355968000000000
def pdtimeBigBang : Int := -0x8000000000000000
def pdtimeGnabGib : Int := 0x7FFFFFFFFFFFFFFF

end Utc

structure UtcTime where
  ticks : Int
  lower : -2 ^ 63 ≤ ticks
  upper : ticks < 2 ^ 63
deriving DecidableEq

namespace UtcTime

@[ext] theorem ext {a b : UtcTime} (same : a.ticks = b.ticks) : a = b := by
  cases a
  cases b
  simp_all

/-- `CompareTo` orders by ticks, also the sentinels. -/
instance : LinearOrder UtcTime := LinearOrder.lift' ticks fun _ _ => ext

theorem le_iff {a b : UtcTime} : a ≤ b ↔ a.ticks ≤ b.ticks := Iff.rfl

theorem lt_iff {a b : UtcTime} : a < b ↔ a.ticks < b.ticks := Iff.rfl

theorem long_sub_eq_zero (a b : UtcTime) : long (a.ticks - b.ticks) = 0 ↔ a = b := by
  have fromA := a.lower
  have toA := a.upper
  have fromB := b.lower
  have toB := b.upper
  constructor
  · intro zero
    have none := long_eq_zero zero (by omega) (by omega)
    exact ext (by omega)
  · intro same
    rw [same, Int.sub_self]
    rfl

def ofTicks (value : Int) : UtcTime := ⟨long value, le_long value, long_lt value⟩

theorem ofTicks_ticks {value : Int} (lower : -2 ^ 63 ≤ value) (upper : value < 2 ^ 63) :
    (ofTicks value).ticks = value := long_eq lower upper

theorem ofTicks_eq (time : UtcTime) : ofTicks time.ticks = time :=
  ext (ofTicks_ticks time.lower time.upper)

def maxValue : UtcTime := ⟨Utc.maxValue, by decide, by decide⟩
def minValue : UtcTime := ⟨Utc.minValue, by decide, by decide⟩
def null : UtcTime := ⟨Utc.null, by decide, by decide⟩

def isNull (time : UtcTime) : Bool := time.ticks = Utc.null

theorem ne_null_iff {time : UtcTime} : time ≠ null ↔ time.ticks ≠ 0 :=
  not_congr ⟨fun same => same ▸ rfl, fun same => ext same⟩

def trimToMillisecondAccuracy (time : UtcTime) : UtcTime :=
  if time.ticks = Utc.maxValue ∨ time.ticks = Utc.minValue ∨ time.ticks = Utc.null then time
  else ofTicks (time.ticks - time.ticks.tmod 10000)

def createFromPdtime (pdtime : Int) : UtcTime :=
  let noPdtime := -0x7FFFFFFFFFFFFFFF - 1
  let minPdtime := -62135769600
  let maxPdtime := 253402214400
  if pdtime = noPdtime then null
  else if pdtime = Utc.pdtimeBigBang ∨ pdtime < minPdtime then minValue
  else if pdtime = Utc.pdtimeGnabGib ∨ pdtime > maxPdtime then maxValue
  else ofTicks (pdtime * Utc.second + Utc.pdTime1970)

def toPdtime (time : UtcTime) : Int :=
  if time.ticks = Utc.null then 0
  else if time.ticks = Utc.minValue then Utc.pdtimeBigBang
  else if time.ticks = Utc.maxValue then Utc.pdtimeGnabGib
  else (long (time.ticks - Utc.pdTime1970)).tdiv Utc.second

def oneOfOperandsIsNull : String := "One of UtcTime operands is Null"

def compareOp (relation : Int → Int → Bool) (a b : UtcTime) : Except SystemException Bool :=
  if a.ticks = Utc.null ∨ b.ticks = Utc.null then throw (.argumentNull oneOfOperandsIsNull)
  else pure (relation a.ticks b.ticks)

def greaterOrEqual : UtcTime → UtcTime → Except SystemException Bool := compareOp fun a b => a ≥ b
def lessOrEqual : UtcTime → UtcTime → Except SystemException Bool := compareOp fun a b => a ≤ b
def less : UtcTime → UtcTime → Except SystemException Bool := compareOp fun a b => a < b
def greater : UtcTime → UtcTime → Except SystemException Bool := compareOp fun a b => a > b

def add (lhs : UtcTime) (rhs : Int) : Except SystemException UtcTime :=
  if lhs.ticks = Utc.null then throw (.argumentNull oneOfOperandsIsNull)
  else if lhs = minValue then pure minValue
  else if lhs = maxValue then pure maxValue
  else pure (ofTicks (lhs.ticks + rhs))

def sub (lhs : UtcTime) (rhs : Int) : Except SystemException UtcTime :=
  if lhs.ticks = Utc.null then throw (.argumentNull oneOfOperandsIsNull)
  else if lhs = minValue then pure minValue
  else if lhs = maxValue then pure maxValue
  else pure (ofTicks (lhs.ticks - rhs))

structure Ordinary (time : UtcTime) : Prop where
  notNull : time ≠ null
  notMin : time ≠ minValue
  notMax : time ≠ maxValue

instance (time : UtcTime) : Decidable time.Ordinary :=
  decidable_of_iff (time ≠ null ∧ time ≠ minValue ∧ time ≠ maxValue)
    ⟨fun ⟨a, b, c⟩ => ⟨a, b, c⟩, fun ⟨a, b, c⟩ => ⟨a, b, c⟩⟩

theorem ordinary_iff {time : UtcTime} :
    time.Ordinary ↔ time.ticks ≠ 0 ∧ time.ticks ≠ Utc.minValue ∧ time.ticks ≠ Utc.maxValue := by
  have notMin : time ≠ minValue ↔ time.ticks ≠ Utc.minValue :=
    not_congr ⟨fun same => same ▸ rfl, fun same => ext same⟩
  have notMax : time ≠ maxValue ↔ time.ticks ≠ Utc.maxValue :=
    not_congr ⟨fun same => same ▸ rfl, fun same => ext same⟩
  constructor
  · rintro ⟨a, b, c⟩
    exact ⟨ne_null_iff.mp a, notMin.mp b, notMax.mp c⟩
  · rintro ⟨a, b, c⟩
    exact ⟨ne_null_iff.mpr a, notMin.mpr b, notMax.mpr c⟩

theorem Ordinary.add_eq {time : UtcTime} (ordinary : time.Ordinary) (span : Int) :
    time.add span = .ok (ofTicks (time.ticks + span)) := by
  simp only [add, Utc.null, ne_null_iff.mp ordinary.notNull, ordinary.notMin, ordinary.notMax, if_false]
  rfl

theorem Ordinary.sub_eq {time : UtcTime} (ordinary : time.Ordinary) (span : Int) :
    time.sub span = .ok (ofTicks (time.ticks - span)) := by
  simp only [sub, Utc.null, ne_null_iff.mp ordinary.notNull, ordinary.notMin, ordinary.notMax, if_false]
  rfl

theorem add_ne_overflow (t : UtcTime) (span : Int) : t.add span ≠ .error .overflow := by
  rw [add]
  split
  · rintro ⟨⟩
  · split
    · rintro ⟨⟩
    · split <;> rintro ⟨⟩

theorem sub_ne_overflow (t : UtcTime) (span : Int) : t.sub span ≠ .error .overflow := by
  rw [sub]
  split
  · rintro ⟨⟩
  · split
    · rintro ⟨⟩
    · split <;> rintro ⟨⟩

theorem add_eq_sub_iff {t : UtcTime} {span : Int} (lower : 0 ≤ span) (upper : span < 2 ^ 62) :
    t.add span = t.sub span ↔ span = 0 ∨ ¬t.Ordinary := by
  by_cases ordinary : t.Ordinary
  · rw [ordinary.add_eq, ordinary.sub_eq, Except.ok.injEq, UtcTime.ext_iff]
    simp only [ordinary, not_true_eq_false, or_false]
    constructor
    · intro same
      simp only [ofTicks, long, Int.bmod_def] at same
      split at same <;> split at same <;> omega
    · rintro rfl
      rw [Int.add_zero, Int.sub_zero]
  · simp only [ordinary, not_false_eq_true, or_true, iff_true]
    by_cases isNull : t.ticks = Utc.null
    · rw [add, sub, if_pos isNull, if_pos isNull]
    · by_cases least : t = minValue
      · rw [add, sub, if_neg isNull, if_neg isNull, if_pos least, if_pos least]
      · by_cases greatest : t = maxValue
        · rw [add, sub, if_neg isNull, if_neg isNull, if_neg least, if_neg least, if_pos greatest,
            if_pos greatest]
        · exact absurd ⟨ne_null_iff.mpr isNull, least, greatest⟩ ordinary

theorem compareOp_ok {relation : Int → Int → Bool} {a b : UtcTime} {answer : Bool}
    (compared : compareOp relation a b = .ok answer) :
    a ≠ null ∧ b ≠ null ∧ answer = relation a.ticks b.ticks := by
  rw [compareOp] at compared
  split at compared
  · cases compared
  · rename_i notNull
    have both := not_or.mp notNull
    exact ⟨ne_null_iff.mpr both.1, ne_null_iff.mpr both.2, (Except.ok.inj compared).symm⟩

theorem greaterOrEqual_of_ne_null {a b : UtcTime} (aNull : a ≠ null) (bNull : b ≠ null) :
    greaterOrEqual a b = .ok (decide (b ≤ a)) := by
  simp only [greaterOrEqual, compareOp, Utc.null, ne_null_iff.mp aNull, ne_null_iff.mp bNull,
    or_self, if_false, ge_iff_le, le_iff]
  rfl

theorem lessOrEqual_of_ne_null {a b : UtcTime} (aNull : a ≠ null) (bNull : b ≠ null) :
    lessOrEqual a b = .ok (decide (a ≤ b)) := by
  simp only [lessOrEqual, compareOp, Utc.null, ne_null_iff.mp aNull, ne_null_iff.mp bNull,
    or_self, if_false, le_iff]
  rfl

theorem less_of_ne_null {a b : UtcTime} (aNull : a ≠ null) (bNull : b ≠ null) :
    less a b = .ok (decide (a < b)) := by
  simp only [less, compareOp, Utc.null, ne_null_iff.mp aNull, ne_null_iff.mp bNull,
    or_self, if_false, lt_iff]
  rfl

theorem greater_of_ne_null {a b : UtcTime} (aNull : a ≠ null) (bNull : b ≠ null) :
    greater a b = .ok (decide (b < a)) := by
  simp only [greater, compareOp, Utc.null, ne_null_iff.mp aNull, ne_null_iff.mp bNull,
    or_self, if_false, gt_iff_lt, lt_iff]
  rfl

def Aligned (time : UtcTime) : Prop := time.trimToMillisecondAccuracy = time

instance (time : UtcTime) : Decidable time.Aligned := inferInstanceAs (Decidable (_ = _))

theorem trim_ticks {time : UtcTime}
    (ordinary : ¬(time.ticks = Utc.maxValue ∨ time.ticks = Utc.minValue ∨ time.ticks = Utc.null)) :
    time.trimToMillisecondAccuracy.ticks = time.ticks - time.ticks.tmod 10000 := by
  have lower := time.lower
  have upper := time.upper
  have remainder := tmod_cases time.ticks 10000
  unfold trimToMillisecondAccuracy
  rw [if_neg ordinary]
  apply ofTicks_ticks <;> omega

theorem trim_aligned (time : UtcTime) : time.trimToMillisecondAccuracy.Aligned := by
  by_cases sentinel : time.ticks = Utc.maxValue ∨ time.ticks = Utc.minValue ∨ time.ticks = Utc.null
  · have kept : time.trimToMillisecondAccuracy = time := if_pos sentinel
    rw [Aligned, kept, kept]
  · have ticks := trim_ticks sentinel
    by_cases again : time.trimToMillisecondAccuracy.ticks = Utc.maxValue ∨
        time.trimToMillisecondAccuracy.ticks = Utc.minValue ∨
        time.trimToMillisecondAccuracy.ticks = Utc.null
    · exact if_pos again
    · apply ext
      have remainder := tmod_cases time.ticks 10000
      have remainderAgain := tmod_cases time.trimToMillisecondAccuracy.ticks 10000
      rw [trim_ticks again]
      omega

end UtcTime

structure TimePeriod where
  fromTime : UtcTime
  untilTime : UtcTime
deriving DecidableEq

namespace TimePeriod

def duration (period : TimePeriod) : Int := long (period.untilTime.ticks - period.fromTime.ticks)

def withoutNull (period : TimePeriod) : TimePeriod where
  fromTime := if period.fromTime = UtcTime.null then UtcTime.minValue else period.fromTime
  untilTime := if period.untilTime = UtcTime.null then UtcTime.maxValue else period.untilTime

def intersects (period other : TimePeriod) : Bool :=
  let p1 := period.withoutNull
  let p2 := other.withoutNull
  p1.fromTime < p2.untilTime && p1.untilTime > p2.fromTime || p1.fromTime == p2.fromTime

def intersectsTime (period : TimePeriod) (time : UtcTime) : Bool :=
  period.intersects ⟨time, time⟩

def intersection (period other : TimePeriod) : Except SystemException (Option TimePeriod) :=
  if period.intersects other then do
    let fromTime ← if ← UtcTime.greater other.fromTime period.fromTime then pure other.fromTime
      else pure period.fromTime
    let untilTime ← if ← UtcTime.less other.untilTime period.untilTime then pure other.untilTime
      else pure period.untilTime
    return some ⟨fromTime, untilTime⟩
  else return none

def trim (period : TimePeriod) : TimePeriod :=
  ⟨period.fromTime.trimToMillisecondAccuracy, period.untilTime.trimToMillisecondAccuracy⟩

def Covers (period : TimePeriod) (time : UtcTime) : Prop :=
  period.fromTime ≤ time ∧ time < period.untilTime

instance (period : TimePeriod) (time : UtcTime) : Decidable (period.Covers time) :=
  inferInstanceAs (Decidable (_ ∧ _))

structure Valid (period : TimePeriod) : Prop where
  fromNull : period.fromTime ≠ UtcTime.null
  untilNull : period.untilTime ≠ UtcTime.null
  positive : period.fromTime < period.untilTime

instance (period : TimePeriod) : Decidable period.Valid :=
  decidable_of_iff (period.fromTime ≠ UtcTime.null ∧ period.untilTime ≠ UtcTime.null ∧
      period.fromTime < period.untilTime)
    ⟨fun ⟨fromNull, untilNull, positive⟩ => ⟨fromNull, untilNull, positive⟩,
      fun ⟨fromNull, untilNull, positive⟩ => ⟨fromNull, untilNull, positive⟩⟩

@[simp] theorem withoutNull_of_valid {period : TimePeriod} (valid : period.Valid) :
    period.withoutNull = period := by
  simp [withoutNull, valid.fromNull, valid.untilNull]

theorem intersectsTime_iff {period : TimePeriod} (valid : period.Valid) {time : UtcTime}
    (timeNull : time ≠ UtcTime.null) : period.intersectsTime time = true ↔ period.Covers time := by
  simp only [intersectsTime, intersects, withoutNull_of_valid valid]
  simp only [withoutNull, timeNull, if_false, Bool.or_eq_true, Bool.and_eq_true, decide_eq_true_eq,
    beq_iff_eq, Covers, gt_iff_lt]
  constructor
  · rintro (⟨lower, upper⟩ | same)
    · exact ⟨le_of_lt lower, upper⟩
    · exact ⟨le_of_eq same, same ▸ valid.positive⟩
  · rintro ⟨lower, upper⟩
    rcases lt_or_eq_of_le lower with before | same
    · exact Or.inl ⟨before, upper⟩
    · exact Or.inr same

theorem intersects_iff {period other : TimePeriod} (valid : period.Valid) (otherValid : other.Valid) :
    period.intersects other = true ↔
      period.fromTime < other.untilTime ∧ other.fromTime < period.untilTime := by
  simp only [intersects, withoutNull_of_valid valid, withoutNull_of_valid otherValid,
    Bool.or_eq_true, Bool.and_eq_true, decide_eq_true_eq, beq_iff_eq, gt_iff_lt]
  constructor
  · rintro (meets | same)
    · exact meets
    · exact ⟨same ▸ otherValid.positive, same ▸ valid.positive⟩
  · exact Or.inl

theorem duration_ne_zero {period : TimePeriod} (positive : period.fromTime < period.untilTime) :
    period.duration ≠ 0 :=
  mt (UtcTime.long_sub_eq_zero period.untilTime period.fromTime).mp (ne_of_gt positive)

end TimePeriod

end ServiceHost
