import ServiceHost.Library.OffsetClock
import ServiceHost.Time.RegionalCalendarCore

/-!
Local time: the calendar fields of a time are its clock reading, the clock
reading is the time plus the offset there, and `ToUtcTime` reads the clock back.
-/

namespace ServiceHost

open Library

namespace RegionalCalendar

def observedAt (fromTicks untilTicks t : Int) : Bool :=
  if fromTicks < untilTicks then fromTicks ≤ t && t < untilTicks else t < untilTicks || fromTicks ≤ t

def offsetAt (calendar : RegionalCalendar) (t : Int) : Int :=
  if !calendar.dst || t = Utc.null then calendar.utcOffset
  else
    let y := Julian.j2Y (Julian.ticks2j t) - daylightSavingFirstYear
    if outside : y < 0 ∨ y ≥ daylightSavingYears then calendar.utcOffset
    else
      let y : Fin daylightSavingYears := ⟨y.toNat, by omega⟩
      if (calendar.daylightStart y).ticks = Utc.null ∨ (calendar.daylightEnd y).ticks = Utc.null then
        calendar.utcOffset
      else
        calendar.utcOffset +
          if observedAt (calendar.daylightStart y).ticks (calendar.daylightEnd y).ticks t then
            calendar.dstOffset y
          else 0

theorem daylightOffset_eq {calendar : RegionalCalendar} {y : Fin daylightSavingYears} {t : UtcTime}
    (dst : calendar.dst = true) (timeNull : t ≠ UtcTime.null)
    (startNull : calendar.daylightStart y ≠ UtcTime.null) (endNull : calendar.daylightEnd y ≠ UtcTime.null) :
    calendar.daylightOffset y t = .ok (
      if observedAt (calendar.daylightStart y).ticks (calendar.daylightEnd y).ticks t.ticks then
        calendar.dstOffset y else 0) := by
  have known := And.intro (UtcTime.ne_null_iff.mp startNull) (UtcTime.ne_null_iff.mp endNull)
  simp only [daylightOffset, UtcTime.greaterOrEqual_of_ne_null timeNull startNull,
    UtcTime.less_of_ne_null timeNull endNull, ok_bind, isSummerTimeReversed, dst, observedAt, Utc.null,
    known, UtcTime.le_iff, UtcTime.lt_iff]
  by_cases northern : (calendar.daylightStart y).ticks < (calendar.daylightEnd y).ticks
  · simp [northern]
  · simp [northern]

theorem diffUtc_eq (calendar : RegionalCalendar) (t : UtcTime) :
    calendar.diffUtc t = .ok (calendar.offsetAt t.ticks) := by
  unfold diffUtc offsetAt
  split
  · rfl
  · rename_i observed
    simp only [Bool.or_eq_true, Bool.not_eq_true', decide_eq_true_eq, not_or, Bool.not_eq_false] at observed
    dsimp only
    split
    · rfl
    · split
      · rfl
      · rename_i inside known
        rw [not_or] at known
        rw [daylightOffset_eq observed.1 (UtcTime.ne_null_iff.mpr observed.2)
          (UtcTime.ne_null_iff.mpr known.1) (UtcTime.ne_null_iff.mpr known.2)]
        rfl

def clockUnits (clock : Int) : CalendarUnits :=
  let tj := clock + Julian.referenceTicks
  let rem := tj.tmod Utc.day
  let remHour := rem.tmod Utc.hour
  let remMinute := remHour.tmod Utc.minute
  { date := Julian.j2YMD (tj.tdiv Utc.day)
    hour := rem.tdiv Utc.hour
    minute := remHour.tdiv Utc.minute
    second := remMinute.tdiv Utc.second
    fraction := (remMinute.tmod Utc.second).tdiv Utc.milliSecond }

def unitsClock (units : CalendarUnits) : Int :=
  (Julian.YMD2j units.date - Julian.referenceDay) * Utc.day + units.hour * Utc.hour +
    units.minute * Utc.minute + units.second * Utc.second + units.fraction * Utc.milliSecond

structure InRange (clock : Int) : Prop where
  lower : (Julian.firstDay - 1) * Utc.day < clock + Julian.referenceTicks
  upper : clock + Julian.referenceTicks < 2 ^ 63

theorem asYMDhms_ms_eq {calendar : RegionalCalendar} {t : UtcTime} (ordinary : t.Ordinary)
    (range : InRange (t.ticks + calendar.offsetAt t.ticks)) :
    calendar.asYMDhms_ms t = .ok (clockUnits (t.ticks + calendar.offsetAt t.ticks)) := by
  obtain ⟨lower, upper⟩ := range
  have before : (Julian.firstDay - 1) * Utc.day = -27686880000000000 := rfl
  have reference : Julian.referenceTicks = 1487312064000000000 := rfl
  have clock : (UtcTime.ofTicks (t.ticks + calendar.offsetAt t.ticks)).ticks =
      t.ticks + calendar.offsetAt t.ticks := UtcTime.ofTicks_ticks (by omega) (by omega)
  have sum : long (t.ticks + calendar.offsetAt t.ticks + Julian.referenceTicks) =
      t.ticks + calendar.offsetAt t.ticks + Julian.referenceTicks := long_eq (by omega) (by omega)
  simp only [asYMDhms_ms, asYMDhms_tick, diffUtc_eq, ok_bind, ordinary.add_eq, pure_eq_ok, clock, sum,
    clockUnits]

theorem tdiv_tmod_within {divisor : Int} (value count : Int) (positive : 0 < divisor)
    (lower : -(count * divisor) < value) (upper : value < count * divisor) :
    divisor * value.tdiv divisor + value.tmod divisor = value ∧
      (-count < value.tdiv divisor ∧ value.tdiv divisor < count) ∧
      (-divisor < value.tmod divisor ∧ value.tmod divisor < divisor) := by
  refine ⟨Int.mul_tdiv_add_tmod value divisor, ?_⟩
  by_cases sign : 0 ≤ value
  · rw [Int.tdiv_eq_ediv_of_nonneg sign, Int.tmod_eq_emod_of_nonneg sign]
    have quotient := Int.ediv_nonneg sign (le_of_lt positive)
    have small := Int.ediv_lt_of_lt_mul positive upper
    have remainder := Int.emod_nonneg value (Int.ne_of_gt positive)
    have remainderLt := Int.emod_lt_of_pos value positive
    omega
  · have negated : value = -(-value) := by omega
    rw [negated, Int.neg_tdiv, Int.neg_tmod, Int.tdiv_eq_ediv_of_nonneg (show 0 ≤ -value by omega),
      Int.tmod_eq_emod_of_nonneg (show 0 ≤ -value by omega)]
    have quotient := Int.ediv_nonneg (show 0 ≤ -value by omega) (le_of_lt positive)
    have small := Int.ediv_lt_of_lt_mul positive (show -value < count * divisor by omega)
    have remainder := Int.emod_nonneg (-value) (Int.ne_of_gt positive)
    have remainderLt := Int.emod_lt_of_pos (-value) positive
    omega

theorem clockUnits_spec {clock : Int} (range : InRange clock) (whole : clock % 10000 = 0) :
    ∃ julDate, Julian.firstDay ≤ julDate ∧ (clockUnits clock).date = Julian.j2YMD julDate ∧
      (-23 ≤ (clockUnits clock).hour ∧ (clockUnits clock).hour ≤ 23) ∧
      (-59 ≤ (clockUnits clock).minute ∧ (clockUnits clock).minute ≤ 59) ∧
      (-59 ≤ (clockUnits clock).second ∧ (clockUnits clock).second ≤ 59) ∧
      (-999 ≤ (clockUnits clock).fraction ∧ (clockUnits clock).fraction ≤ 999) ∧
      clock + Julian.referenceTicks =
        julDate * Utc.day + (clockUnits clock).hour * Utc.hour + (clockUnits clock).minute * Utc.minute +
          (clockUnits clock).second * Utc.second + (clockUnits clock).fraction * Utc.milliSecond := by
  obtain ⟨lower, upper⟩ := range
  have firstDay : Julian.firstDay = -32044 := rfl
  have reference : Julian.referenceTicks = 1487312064000000000 := rfl
  have day : Utc.day = 864000000000 := rfl
  have hour : Utc.hour = 36000000000 := rfl
  have minute : Utc.minute = 600000000 := rfl
  have second : Utc.second = 10000000 := rfl
  have milliSecond : Utc.milliSecond = 10000 := rfl
  obtain ⟨tj, tjEq⟩ : ∃ tj, tj = clock + Julian.referenceTicks := ⟨_, rfl⟩
  rw [← tjEq] at lower upper
  have days := tdiv_tmod_within tj 12000000 (show 0 < Utc.day by decide)
    (by rw [firstDay, day] at lower; rw [day]; omega) (by rw [day]; omega)
  have hours := tdiv_tmod_within _ 24 (show 0 < Utc.hour by decide) days.2.2.1 days.2.2.2
  have minutes := tdiv_tmod_within _ 60 (show 0 < Utc.minute by decide) hours.2.2.1 hours.2.2.2
  have seconds := tdiv_tmod_within _ 60 (show 0 < Utc.second by decide) minutes.2.2.1 minutes.2.2.2
  have fractions := tdiv_tmod_within _ 1000 (show 0 < Utc.milliSecond by decide)
    seconds.2.2.1 seconds.2.2.2
  refine ⟨tj.tdiv Utc.day, ?_, by rw [tjEq]; rfl, ?_⟩
  · rw [firstDay, day] at lower
    rw [firstDay]
    by_cases sign : 0 ≤ tj
    · have quotient := Int.tdiv_nonneg sign (show 0 ≤ Utc.day by decide)
      omega
    · have rounded := tdiv_tmod_within tj 32045 (show 0 < Utc.day by decide)
        (by rw [day]; omega) (by rw [day]; omega)
      omega
  · simp only [clockUnits, ← tjEq]
    simp only [day, hour, minute, second, milliSecond] at days hours minutes seconds fractions ⊢
    refine ⟨by omega, by omega, by omega, by omega, ?_⟩
    omega

theorem unitsClock_clockUnits {clock : Int} (range : InRange clock) (whole : clock % 10000 = 0) :
    unitsClock (clockUnits clock) = clock := by
  obtain ⟨julDate, julLower, date, _, _, _, _, sum⟩ := clockUnits_spec range whole
  have reference : Julian.referenceTicks = Julian.referenceDay * Utc.day := rfl
  unfold unitsClock
  rw [date, Julian.YMD2j_j2YMD julLower, Int.sub_mul, ← reference]
  omega

theorem toUtcTime_clockUnits {calendar : RegionalCalendar} {clock : Int} (range : InRange clock)
    (whole : clock % 10000 = 0) :
    calendar.toUtcTime (clockUnits clock) = calendar.adjustToTz (.ofTicks clock) := by
  obtain ⟨julDate, julLower, date, hours, minutes, seconds, fraction, sum⟩ := clockUnits_spec range whole
  have written := unitsClock_clockUnits range whole
  obtain ⟨lower, upper⟩ := range
  have firstDay : Julian.firstDay = -32044 := rfl
  have reference : Julian.referenceTicks = 1487312064000000000 := rfl
  have referenceDay : Julian.referenceDay = 1721426 := rfl
  have day : Utc.day = 864000000000 := rfl
  have hour : Utc.hour = 36000000000 := rfl
  have minute : Utc.minute = 600000000 := rfl
  have second : Utc.second = 10000000 := rfl
  have milliSecond : Utc.milliSecond = 10000 := rfl
  have fractionTicks : ((clockUnits clock).fraction * Utc.second).tdiv 1000 =
      (clockUnits clock).fraction * Utc.milliSecond := by
    have thousands : (clockUnits clock).fraction * Utc.second =
        (clockUnits clock).fraction * Utc.milliSecond * 1000 := by
      rw [second, milliSecond]
      omega
    rw [thousands, Int.mul_tdiv_cancel _ (by decide)]
  rw [day, hour, minute, second, milliSecond] at sum
  rw [firstDay] at julLower
  have midnight : Julian.j2ticks (Julian.YMD2j (clockUnits clock).date) =
      (Julian.YMD2j (clockUnits clock).date - Julian.referenceDay) * Utc.day := by
    rw [date, Julian.YMD2j_j2YMD julLower]
    apply long_eq <;> rw [referenceDay, day] <;> omega
  unfold unitsClock at written
  rw [toUtcTime, midnight, fractionTicks, written]

section Zone

variable {calendar : RegionalCalendar}

theorem adjustToTz_eq {res : UtcTime} (ordinary : res.Ordinary)
    (lower : -2 ^ 63 ≤ res.ticks - calendar.offsetAt res.ticks)
    (upper : res.ticks - calendar.offsetAt res.ticks < 2 ^ 63)
    (guess : (UtcTime.ofTicks (res.ticks - calendar.offsetAt res.ticks)).Ordinary) :
    calendar.adjustToTz res = .ok (.ofTicks (readBack calendar.offsetAt res.ticks)) := by
  have ticks := UtcTime.ofTicks_ticks lower upper
  simp only [adjustToTz, ordinary.notNull, ne_eq, not_false_eq_true, if_true, diffUtc_eq, ok_bind,
    ordinary.sub_eq, ticks, guess.add_eq, readBack]
  cases observed : calendar.dst with
  | false =>
      have standard : ∀ t, calendar.offsetAt t = calendar.utcOffset := by
        intro t
        simp [offsetAt, observed]
      simp [standard]
  | true =>
      simp only [Bool.not_true, Bool.false_eq_true, if_false]
      split
      · congr 2
        omega
      · rename_i same
        rw [pure_eq_ok, ← Decidable.not_not.mp same]

structure Civil (calendar : RegionalCalendar) : Prop where
  utcLower : -14 * Utc.hour ≤ calendar.utcOffset
  utcUpper : calendar.utcOffset ≤ 14 * Utc.hour
  dstLower : ∀ y, 0 ≤ calendar.dstOffset y
  dstUpper : ∀ y, calendar.dstOffset y ≤ 2 * Utc.hour
  utcWhole : calendar.utcOffset % Utc.milliSecond = 0
  dstWhole : ∀ y, calendar.dstOffset y % Utc.milliSecond = 0
  spaced : Spaced calendar.offsetAt (48 * Utc.hour) (Julian.j2ticks (Julian.YMD2j ⟨1900, 1, 1⟩))
    (Julian.j2ticks (Julian.YMD2j ⟨2100, 1, 1⟩))

theorem offsetAt_cases (calendar : RegionalCalendar) (t : Int) :
    calendar.offsetAt t = calendar.utcOffset ∨
      ∃ y, calendar.offsetAt t = calendar.utcOffset + calendar.dstOffset y := by
  unfold offsetAt
  split
  · exact Or.inl rfl
  · dsimp only
    split
    · exact Or.inl rfl
    · split
      · exact Or.inl rfl
      · split
        · exact Or.inr ⟨_, rfl⟩
        · exact Or.inl (Int.add_zero _)

theorem Civil.offset_bounds (civil : calendar.Civil) (t : Int) :
    calendar.utcOffset ≤ calendar.offsetAt t ∧ calendar.offsetAt t ≤ calendar.utcOffset + 2 * Utc.hour ∧
      calendar.offsetAt t % Utc.milliSecond = 0 := by
  have hour : Utc.hour = 36000000000 := rfl
  have milliSecond : Utc.milliSecond = 10000 := rfl
  have whole := civil.utcWhole
  rcases calendar.offsetAt_cases t with same | ⟨y, same⟩
  · rw [same, hour]
    exact ⟨le_refl _, by omega, whole⟩
  · have lower := civil.dstLower y
    have upper := civil.dstUpper y
    have dstWhole := civil.dstWhole y
    rw [milliSecond] at whole dstWhole ⊢
    rw [same]
    omega

end Zone

theorem aligned_iff {t : UtcTime} (lower : 0 < t.ticks) (upper : t.ticks < Utc.maxValue) :
    t.Aligned ↔ t.ticks % 10000 = 0 := by
  have maxValue : Utc.maxValue = 9223372036854775807 := rfl
  have minValue : Utc.minValue = -9223372036854775807 := rfl
  have ordinary : ¬(t.ticks = Utc.maxValue ∨ t.ticks = Utc.minValue ∨ t.ticks = Utc.null) := by
    simp only [Utc.null]
    omega
  have trimmed := UtcTime.trim_ticks ordinary
  rw [Int.tmod_eq_emod_of_nonneg (le_of_lt lower)] at trimmed
  constructor
  · intro aligned
    rw [aligned] at trimmed
    omega
  · intro whole
    exact UtcTime.ext (by omega)

/-- Local-time conversion inverts the rendering as calendar units: it finds a
time with the same units, and the time itself where no other time has them. -/
theorem toUtcTime_asYMDhms {calendar : RegionalCalendar} (civil : calendar.Civil) {t : UtcTime}
    (aligned : t.Aligned) (lower : Julian.j2ticks (Julian.YMD2j ⟨1901, 1, 1⟩) ≤ t.ticks)
    (upper : t.ticks < Julian.j2ticks (Julian.YMD2j ⟨2099, 1, 1⟩)) :
    ∃ units found, calendar.asYMDhms_ms t = .ok units ∧ calendar.toUtcTime units = .ok found ∧
      found.Aligned ∧ calendar.asYMDhms_ms found = .ok units ∧
      ((∀ other : UtcTime, other.Aligned → calendar.asYMDhms_ms other = .ok units → other = t) →
        found = t) := by
  have start1900 : Julian.j2ticks (Julian.YMD2j ⟨1900, 1, 1⟩) = 599266080000000000 := by decide
  have start1901 : Julian.j2ticks (Julian.YMD2j ⟨1901, 1, 1⟩) = 599581440000000000 := by decide
  have start2099 : Julian.j2ticks (Julian.YMD2j ⟨2099, 1, 1⟩) = 662065056000000000 := by decide
  have start2100 : Julian.j2ticks (Julian.YMD2j ⟨2100, 1, 1⟩) = 662380416000000000 := by decide
  have hour : Utc.hour = 36000000000 := rfl
  have milliSecond : Utc.milliSecond = 10000 := rfl
  have reference : Julian.referenceTicks = 1487312064000000000 := rfl
  have maxValue : Utc.maxValue = 9223372036854775807 := rfl
  have minValue : Utc.minValue = -9223372036854775807 := rfl
  rw [start1901] at lower
  rw [start2099] at upper
  have utcLower := civil.utcLower
  have utcUpper := civil.utcUpper
  have bounds := civil.offset_bounds
  rw [hour] at utcLower utcUpper
  simp only [hour, milliSecond] at bounds
  obtain ⟨clock, clockEq⟩ : ∃ clock, clock = t.ticks + calendar.offsetAt t.ticks := ⟨_, rfl⟩
  have own := bounds t.ticks
  have whole : t.ticks % 10000 = 0 := (aligned_iff (by omega) (by omega)).mp aligned
  have clockWhole : clock % 10000 = 0 := by omega
  have range : InRange clock := by
    refine ⟨?_, by omega⟩
    have firstDay : (Julian.firstDay - 1) * Utc.day < 0 := by decide
    omega
  have shown : ∀ time : UtcTime, 0 < time.ticks → time.ticks < Utc.maxValue →
      time.ticks + calendar.offsetAt time.ticks = clock →
      calendar.asYMDhms_ms time = .ok (clockUnits clock) := by
    intro time positive small same
    have ordinary : time.Ordinary := UtcTime.ordinary_iff.mpr ⟨by omega, by omega, by omega⟩
    rw [asYMDhms_ms_eq ordinary (same ▸ range), same]
  have read := readBack_clock (16 * 36000000000) t.ticks civil.spaced
    (fun time => by have := bounds time; omega)
    (fun time other => by have := bounds time; have := bounds other; omega)
    (by rw [hour]; omega) (by rw [start1900]; omega) (by rw [start2100]; omega)
  rw [← clockEq] at read
  obtain ⟨found, foundEq⟩ : ∃ found, found = readBack calendar.offsetAt clock := ⟨_, rfl⟩
  rw [← foundEq] at read
  have foundBounds := bounds found
  have ticks : (UtcTime.ofTicks found).ticks = found := UtcTime.ofTicks_ticks (by omega) (by omega)
  have foundAligned : (UtcTime.ofTicks found).Aligned :=
    (aligned_iff (by omega) (by omega)).mpr (by omega)
  have foundShown := shown (.ofTicks found) (by omega) (by omega) (by rw [ticks]; exact read)
  refine ⟨clockUnits clock, .ofTicks found, shown t (by omega) (by omega) clockEq.symm, ?_, foundAligned,
    foundShown, fun alone => alone _ foundAligned foundShown⟩
  have clockTicks : (UtcTime.ofTicks clock).ticks = clock := UtcTime.ofTicks_ticks (by omega) (by omega)
  have guessBounds := bounds clock
  have guess : (UtcTime.ofTicks (clock - calendar.offsetAt clock)).ticks = clock - calendar.offsetAt clock :=
    UtcTime.ofTicks_ticks (by omega) (by omega)
  rw [toUtcTime_clockUnits range clockWhole, adjustToTz_eq, clockTicks, foundEq]
  · exact UtcTime.ordinary_iff.mpr ⟨by omega, by omega, by omega⟩
  · rw [clockTicks]
    omega
  · rw [clockTicks]
    omega
  · rw [clockTicks]
    exact UtcTime.ordinary_iff.mpr ⟨by omega, by omega, by omega⟩

section Summer

def summerOf2000 (utcOffset : Int) : RegionalCalendar where
  utcOffset := utcOffset
  dst := true
  daylightStart y := if y.val = 100 then .ofTicks 630896292000000000 else UtcTime.null
  daylightEnd y := if y.val = 100 then .ofTicks 631083780000000000 else UtcTime.null
  dstOffset _ := Utc.hour

theorem offsetAt_summerOf2000 (utcOffset : Int) {t : Int} (lower : 0 < t) (upper : t < 2 ^ 62) :
    (summerOf2000 utcOffset).offsetAt t =
      if 630896292000000000 ≤ t ∧ t < 631083780000000000 then utcOffset + Utc.hour else utcOffset := by
  have reference : Julian.referenceTicks = 1487312064000000000 := rfl
  have day : Utc.day = 864000000000 := rfl
  have julDate : Julian.ticks2j t = (Julian.referenceTicks + t) / 864000000000 := by
    rw [Julian.ticks2j, long_eq (by omega) (by omega), day, Int.tdiv_eq_ediv_of_nonneg (by omega)]
  have timeNull : ¬ t = Utc.null := by
    simp only [Utc.null]
    omega
  have start : (UtcTime.ofTicks 630896292000000000).ticks = 630896292000000000 := by decide
  have ending : (UtcTime.ofTicks 631083780000000000).ticks = 631083780000000000 := by decide
  by_cases summer : 630896292000000000 ≤ t ∧ t < 631083780000000000
  · have year : Julian.j2Y (Julian.ticks2j t) = 2000 := by
      have first : Julian.Y2j 2000 = 2451545 := by decide
      have next : Julian.Y2j (2000 + 1) = 2451911 := by decide
      rw [Julian.j2Y_eq_iff (by omega) (by omega), first, next]
      omega
    rw [if_pos summer]
    simp only [offsetAt, year, summerOf2000, timeNull]
    rw [dif_neg (by decide)]
    have index : (2000 - daylightSavingFirstYear).toNat = 100 := rfl
    simp [index, start, ending, Utc.null, observedAt, summer]
  · have outside : observedAt 630896292000000000 631083780000000000 t = false := by
      simp only [observedAt]
      simpa using summer
    rw [if_neg summer]
    by_cases index : (Julian.j2Y (Julian.ticks2j t) - daylightSavingFirstYear).toNat = 100
    · simp [offsetAt, summerOf2000, index, start, ending, outside]
    · simp [offsetAt, summerOf2000, index, UtcTime.null]

theorem summerOf2000_spaced (utcOffset : Int) {lowest highest : Int} (positive : 0 < lowest)
    (below : highest < 2 ^ 62) : Spaced (summerOf2000 utcOffset).offsetAt (48 * Utc.hour) lowest highest := by
  have hour : Utc.hour = 36000000000 := rfl
  have turns : ∀ t, lowest < t → t ≤ highest →
      (summerOf2000 utcOffset).offsetAt (t - 1) ≠ (summerOf2000 utcOffset).offsetAt t →
      t = 630896292000000000 ∨ t = 631083780000000000 := by
    intro t above within changes
    rw [offsetAt_summerOf2000 utcOffset (by omega) (by omega),
      offsetAt_summerOf2000 utcOffset (by omega) (by omega)] at changes
    split at changes <;> split at changes <;> omega
  intro first second above within firstChanges secondChanges order
  have firstTurn := turns first above (by omega) firstChanges
  have secondTurn := turns second (by omega) within secondChanges
  rw [hour]
  omega

theorem summerOf2000_civil {utcOffset : Int} (lower : -14 * Utc.hour ≤ utcOffset)
    (upper : utcOffset ≤ 14 * Utc.hour) (whole : utcOffset % Utc.milliSecond = 0) :
    (summerOf2000 utcOffset).Civil where
  utcLower := lower
  utcUpper := upper
  dstLower _ := (by decide : 0 ≤ Utc.hour)
  dstUpper _ := (by decide : Utc.hour ≤ 2 * Utc.hour)
  utcWhole := whole
  dstWhole _ := (by decide : Utc.hour % Utc.milliSecond = 0)
  spaced := summerOf2000_spaced utcOffset (by decide) (by decide)

theorem toUtcTime_asYMDhms_ambiguous :
    ∃ units found, (summerOf2000 Utc.hour).asYMDhms_ms (.ofTicks 631083762000000000) = .ok units ∧
      (summerOf2000 Utc.hour).toUtcTime units = .ok found ∧
      found.Aligned ∧ (summerOf2000 Utc.hour).asYMDhms_ms found = .ok units ∧
      ((∀ other : UtcTime, other.Aligned → (summerOf2000 Utc.hour).asYMDhms_ms other = .ok units →
        other = .ofTicks 631083762000000000) → found = .ofTicks 631083762000000000) :=
  toUtcTime_asYMDhms (summerOf2000_civil (by decide) (by decide) (by decide)) (by decide) (by decide)
    (by decide)

/-- Why whole milliseconds: with an offset of five ticks, reading the first moment
of the summer back ends before the summer, where the clock shows another hour. -/
theorem toUtcTime_asYMDhms_five_ticks :
    (-14 * Utc.hour ≤ (summerOf2000 5).utcOffset ∧ (summerOf2000 5).utcOffset ≤ 14 * Utc.hour) ∧
    (∀ y, 0 ≤ (summerOf2000 5).dstOffset y ∧ (summerOf2000 5).dstOffset y ≤ 2 * Utc.hour) ∧
    Spaced (summerOf2000 5).offsetAt (48 * Utc.hour) (Julian.j2ticks (Julian.YMD2j ⟨1900, 1, 1⟩))
      (Julian.j2ticks (Julian.YMD2j ⟨2100, 1, 1⟩)) ∧
    (UtcTime.ofTicks 630896292000000000).Aligned ∧
    (summerOf2000 5).asYMDhms_ms (.ofTicks 630896292000000000) = .ok ⟨⟨2000, 3, 26⟩, 2, 0, 0, 0⟩ ∧
    (summerOf2000 5).toUtcTime ⟨⟨2000, 3, 26⟩, 2, 0, 0, 0⟩ = .ok (.ofTicks 630896327999999995) ∧
    (summerOf2000 5).asYMDhms_ms (.ofTicks 630896327999999995) = .ok ⟨⟨2000, 3, 26⟩, 3, 0, 0, 0⟩ :=
  ⟨⟨by decide, by decide⟩, fun _ => ⟨(by decide : 0 ≤ Utc.hour), (by decide : Utc.hour ≤ 2 * Utc.hour)⟩,
    summerOf2000_spaced 5 (by decide) (by decide), by decide, rfl, rfl, rfl⟩

end Summer

end RegionalCalendar

end ServiceHost
