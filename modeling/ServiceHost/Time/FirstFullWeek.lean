import ServiceHost.Time.MonthArithmetic

/-!
The numbers of full weeks. The Monday that starts a year is read without the offset, so
that east of Greenwich the week it starts is not counted; next to the null time the
routine has no clock to read.
-/

namespace ServiceHost

open Library

namespace Julian

theorem j2YMD_january {year day : Int} (lower : -4700 ≤ year) (oneLe : 1 ≤ day) (le : day ≤ 31) :
    j2YMD (Y2j year + day - 1) = ⟨year, 1, day⟩ := by
  have number : YMD2j ⟨year, 1, day⟩ = _ := YMD2j_early (Int.le_refl 1) (show (1 : Int) ≤ 2 by decide)
  have same : Y2j year + day - 1 = YMD2j ⟨year, 1, day⟩ := by
    rw [number]
    dsimp only
    omega
  have january : daysInMonth year 1 = 31 := rfl
  rw [same]
  exact j2YMD_YMD2j ⟨Int.le_refl 1, show (1 : Int) ≤ 12 by decide, oneLe, show day ≤ daysInMonth year 1 by omega⟩
    (show -4799 ≤ year by omega)

theorem j2YMD_december {year day : Int} (lower : -4700 ≤ year) (oneLe : 1 ≤ day) (le : day ≤ 31) :
    j2YMD (Y2j (year + 1) + day - 32) = ⟨year, 12, day⟩ := by
  have number : YMD2j ⟨year, 12, day⟩ = _ := YMD2j_late (show (3 : Int) ≤ 12 by decide) (Int.le_refl 12)
  have same : Y2j (year + 1) + day - 32 = YMD2j ⟨year, 12, day⟩ := by
    rw [number]
    dsimp only
    omega
  have december : daysInMonth year 12 = 31 := rfl
  rw [same]
  exact j2YMD_YMD2j ⟨show (1 : Int) ≤ 12 by decide, Int.le_refl 12, oneLe,
    show day ≤ daysInMonth year 12 by omega⟩ (show -4799 ≤ year by omega)

end Julian

namespace RegionalCalendar

def mondayOf (julDate : Int) : Int := julDate - julDate % 7

def firstMonday (year : Int) : Int := Julian.Y2j year + (-Julian.Y2j year) % 7

structure IsFullWeek (monday year number : Int) : Prop where
  oneLe : 1 ≤ number
  counted : monday = firstMonday year + 7 * (number - 1)
  inYear : monday < Julian.Y2j (year + 1)

structure WorldZone (calendar : RegionalCalendar) : Prop where
  dst : calendar.dst = false
  lower : -12 * Utc.hour ≤ calendar.utcOffset
  upper : calendar.utcOffset ≤ 14 * Utc.hour

variable {calendar : RegionalCalendar}

theorem WorldZone.standard (zone : calendar.WorldZone) : calendar.StandardTime :=
  ⟨zone.dst, le_trans (by decide) zone.lower, le_trans zone.upper (by decide)⟩

def timeAt (calendar : RegionalCalendar) (clock : Int) : UtcTime :=
  if clock = 0 then UtcTime.null else calendar.ofClock clock

section Readings

theorem ofClock_ticks_zone (zone : calendar.WorldZone) {clock : Int} (lower : -2 ^ 60 < clock) (upper : clock < 2 ^ 62) :
    (calendar.ofClock clock).ticks = clock - calendar.utcOffset := by
  have offsetLower := zone.lower
  have offsetUpper := zone.upper
  have hour : Utc.hour = 36000000000 := rfl
  exact UtcTime.ofTicks_ticks (by omega) (by omega)

theorem adjustToTz_zone (zone : calendar.WorldZone) {clock : Int} (lower : -2 ^ 60 < clock) (upper : clock < 2 ^ 62) :
    calendar.adjustToTz (.ofTicks clock) = .ok (calendar.timeAt clock) := by
  have ticks : (UtcTime.ofTicks clock).ticks = clock := UtcTime.ofTicks_ticks (by omega) (by omega)
  have least : Utc.minValue = -9223372036854775807 := rfl
  have greatest : Utc.maxValue = 9223372036854775807 := rfl
  unfold timeAt
  by_cases null : clock = 0
  · subst null
    rfl
  · have ordinary : (UtcTime.ofTicks clock).Ordinary := UtcTime.ordinary_iff.mpr ⟨by omega, by omega, by omega⟩
    rw [if_neg null]
    simp only [adjustToTz, ordinary.notNull, ne_eq, not_false_eq_true, if_true, diffUtc_standard zone.standard, ok_bind,
      ordinary.sub_eq, ticks, zone.dst, Bool.not_false]
    rfl

theorem trimWeek_zone (zone : calendar.WorldZone) {t : UtcTime}
    (lower : -2 ^ 60 + Utc.year < t.ticks) (upper : t.ticks + calendar.utcOffset < 2 ^ 62) :
    calendar.trimWeek t = .ok (calendar.timeAt (dayClock (mondayOf (dayOf (calendar.clockOf t))))) := by
  have offsetLower := zone.lower
  have offsetUpper := zone.upper
  have hour : Utc.hour = 36000000000 := rfl
  have day : Utc.day = 864000000000 := rfl
  have week : Utc.week = 6048000000000 := rfl
  have year : Utc.year = 315360000000000 := rfl
  have reference : Julian.referenceTicks = 1487312064000000000 := rfl
  have referenceDay : Julian.referenceDay = 1721426 := rfl
  have notTrimmed : ¬(Utc.week ≤ 0 ∨ Utc.week = Utc.null) := by decide
  have notYear : Utc.week ≠ Utc.year := by decide
  have notMonth : Utc.week ≠ Utc.month := by decide
  have noWrap : long (Julian.referenceTicks + calendar.utcOffset + t.ticks) =
      Julian.referenceTicks + calendar.utcOffset + t.ticks := long_eq (by omega) (by omega)
  have rounded : (Julian.referenceTicks + calendar.utcOffset + t.ticks).tdiv Utc.week * Utc.week -
      Julian.referenceTicks = dayClock (mondayOf (dayOf (calendar.clockOf t))) := by
    rw [Int.tdiv_eq_ediv_of_nonneg (by omega)]
    unfold dayClock mondayOf dayOf clockOf
    rw [reference, referenceDay, day, week]
    omega
  simp only [trimWeek, trim, notTrimmed, notYear, notMonth, if_false, diffUtc_standard zone.standard, ok_bind, noWrap,
    rounded]
  apply adjustToTz_zone zone
  · unfold dayClock mondayOf dayOf clockOf
    rw [referenceDay, day]
    omega
  · unfold dayClock mondayOf dayOf clockOf
    rw [referenceDay, day]
    omega

theorem trimYear_null : calendar.trimYear UtcTime.null = .error (.argumentNull UtcTime.oneOfOperandsIsNull) := by
  simp [trimYear, diffUtc_eq, UtcTime.add, UtcTime.null, Utc.null]

theorem trimYear_zone (zone : calendar.WorldZone) {clock : Int} (lower : -2 ^ 60 + 2 * Utc.year < clock) (upper : clock < 2 ^ 62)
    (ordinary : (calendar.ofClock clock).Ordinary) :
    calendar.trimYear (calendar.ofClock clock) =
      .ok (calendar.timeAt (dayClock (Julian.Y2j (dateOf clock).year))) := by
  have year : Utc.year = 315360000000000 := rfl
  have ticks := ofClock_ticks_zone zone (show -2 ^ 60 < clock by omega) upper
  have back : (calendar.ofClock clock).ticks + calendar.utcOffset = clock := by omega
  have localTicks : (UtcTime.ofTicks clock).ticks = clock := UtcTime.ofTicks_ticks (by omega) (by omega)
  have day : Utc.day = 864000000000 := rfl
  have referenceDay : Julian.referenceDay = 1721426 := rfl
  have counted : 0 ≤ dayOf clock := by
    rw [dayOf, referenceDay, day]
    omega
  obtain ⟨known, started, ends⟩ := Julian.j2Y_bounds counted
  rw [Julian.j2Y_eq_year, ← dateOf] at known started ends
  have within := Julian.Y2j_succ_le (show -4799 ≤ (dateOf clock).year by omega)
  have exact_ : Julian.j2ticks (Julian.Y2j (dateOf clock).year) = dayClock (Julian.Y2j (dateOf clock).year) := by
    rw [Julian.j2ticks, ← dayClock, long_eq]
    all_goals
      unfold dayOf at started ends
      unfold dayClock
      rw [referenceDay, day] at *
      omega
  simp only [trimYear, diffUtc_standard zone.standard, ok_bind, ordinary.add_eq, back, localTicks,
    ticks2j_eq (show -2 ^ 60 < clock by omega) (by omega)]
  rw [Julian.j2Y_eq_year, ← dateOf, exact_]
  apply adjustToTz_zone zone
  all_goals
    unfold dayOf at started ends
    unfold dayClock
    rw [referenceDay, day] at *
    omega

end Readings

section Weeks

theorem yearOf_notFirst {julDate : Int} (counted : 0 ≤ julDate) (notFirst : yearOf julDate ≠ 1) :
    julDate < Julian.referenceDay ∧ Julian.Y2j (yearOf julDate) < Julian.referenceDay ∨
      Julian.referenceDay + 365 ≤ Julian.Y2j (yearOf julDate) := by
  have referenceDay : Julian.referenceDay = 1721426 := rfl
  have first : Julian.Y2j 1 = 1721426 := by decide
  have second : Julian.Y2j 2 = 1721791 := by decide
  obtain ⟨known, started, ends⟩ := yearOf_bounds counted
  rcases Int.lt_or_gt_of_ne notFirst with early | late
  · have before := Julian.Y2j_mono (show -4799 ≤ yearOf julDate + 1 by omega) (show yearOf julDate + 1 ≤ 1 by omega)
    omega
  · have after := Julian.Y2j_mono (show (-4799 : Int) ≤ 2 by decide) (show 2 ≤ yearOf julDate by omega)
    omega

theorem firstSeven_iff {julDate : Int} (historic : 1000000 ≤ julDate) :
    (Julian.j2YMD julDate).month = 1 ∧ (Julian.j2YMD julDate).day ≤ 7 ↔
      julDate < Julian.Y2j (yearOf julDate) + 7 := by
  have firstDay : Julian.firstDay = -32044 := rfl
  have year := yearOf_lower historic
  obtain ⟨_, started, _⟩ := yearOf_bounds (show 0 ≤ julDate by omega)
  constructor
  · rintro ⟨january, early⟩
    have number : Julian.YMD2j (Julian.j2YMD julDate) = julDate := Julian.YMD2j_j2YMD (by omega)
    rw [Julian.YMD2j_early (by omega) (by omega), january, ← yearOf] at number
    omega
  · intro early
    have date := Julian.j2YMD_january (show -4700 ≤ yearOf julDate by omega)
      (show 1 ≤ julDate - Julian.Y2j (yearOf julDate) + 1 by omega) (by omega)
    have same : Julian.Y2j (yearOf julDate) + (julDate - Julian.Y2j (yearOf julDate) + 1) - 1 = julDate := by omega
    rw [same] at date
    rw [date]
    exact ⟨rfl, by dsimp only; omega⟩

theorem asYW_zone (zone : calendar.WorldZone) {t : UtcTime} (ordinary : t.Ordinary) (weekRule : WeekOneRule)
    (lower : -2 ^ 59 < calendar.clockOf t) (upper : calendar.clockOf t < 2 ^ 62) :
    calendar.asYW weekRule t =
      calendar.weekOfYear weekRule (calendar.timeAt (dayClock (mondayOf (dayOf (calendar.clockOf t)))))
        (dateOf ((calendar.timeAt (dayClock (mondayOf (dayOf (calendar.clockOf t))))).ticks + calendar.utcOffset)) := by
  have offsetLower := zone.lower
  have offsetUpper := zone.upper
  have hour : Utc.hour = 36000000000 := rfl
  have day : Utc.day = 864000000000 := rfl
  have week : Utc.week = 6048000000000 := rfl
  have year : Utc.year = 315360000000000 := rfl
  have referenceDay : Julian.referenceDay = 1721426 := rfl
  obtain ⟨clock, clockEq⟩ : ∃ clock, clock = calendar.clockOf t := ⟨_, rfl⟩
  have own : t.ticks + calendar.utcOffset = clock := clockEq.symm
  have trimmed := trimWeek_zone zone (show -2 ^ 60 + Utc.year < t.ticks by omega) (by omega)
  rw [← clockEq] at lower upper trimmed ⊢
  obtain ⟨monday, mondayEq⟩ : ∃ monday, monday = dayClock (mondayOf (dayOf clock)) := ⟨_, rfl⟩
  have bounds : clock - Utc.week < monday ∧ monday ≤ clock := by
    rw [mondayEq, dayClock, mondayOf, dayOf, referenceDay, day, week]
    omega
  rw [week] at bounds
  rw [← mondayEq] at trimmed ⊢
  have shown : (calendar.timeAt monday).ticks + calendar.utcOffset = if monday = 0 then calendar.utcOffset else monday := by
    unfold timeAt
    split
    · have null : UtcTime.null.ticks = 0 := rfl
      omega
    · rw [ofClock_ticks_zone zone (by omega) (by omega)]
      omega
  have inRange : -2 ^ 60 < (calendar.timeAt monday).ticks + calendar.utcOffset ∧
      (calendar.timeAt monday).ticks + calendar.utcOffset < 2 ^ 62 := by
    rw [shown]
    split <;> omega
  simp only [asYW, asYWDhms_ticks, diffUtc_standard zone.standard, ok_bind, ordinary.add_eq, trimmed]
  rw [long_eq (by omega) (by omega), ticks2j_eq inRange.1 (by omega), ← dateOf]
  cases calendar.weekOfYear weekRule (calendar.timeAt monday)
      (dateOf ((calendar.timeAt monday).ticks + calendar.utcOffset)) with
  | ok week => rfl
  | error exception => rfl

end Weeks

section FullWeeks

theorem weekNumber_eq {tweek tyearw : UtcTime} {count : Int} (nonneg : 0 ≤ count) (weeks : count < 2 ^ 20)
    (started : count * Utc.week ≤ Utc.day + (tweek.ticks - tyearw.ticks))
    (ends : Utc.day + (tweek.ticks - tyearw.ticks) < (count + 1) * Utc.week) :
    weekNumber tweek tyearw = 1 + count := by
  have day : Utc.day = 864000000000 := rfl
  have week : Utc.week = 6048000000000 := rfl
  rw [day, week] at started ends
  rw [weekNumber, day, week, long_eq (by omega) (by omega), Int.tdiv_eq_ediv_of_nonneg (by omega)]
  omega

theorem ofDay_ordinary (zone : calendar.WorldZone) {julDate : Int} (historic : 900000 ≤ julDate)
    (upper : dayClock julDate < 2 ^ 62) (notNull : julDate ≠ Julian.referenceDay) :
    (calendar.ofClock (dayClock julDate)).Ordinary := by
  have offsetLower := zone.lower
  have offsetUpper := zone.upper
  have hour : Utc.hour = 36000000000 := rfl
  have referenceDay : Julian.referenceDay = 1721426 := rfl
  have least : Utc.minValue = -9223372036854775807 := rfl
  have greatest : Utc.maxValue = 9223372036854775807 := rfl
  have lower : -2 ^ 60 < dayClock julDate := by
    rw [dayClock_eq]
    omega
  rw [UtcTime.ordinary_iff, ofClock_ticks_zone zone lower upper]
  rw [dayClock_eq] at upper ⊢
  omega

theorem timeAt_ofDay {julDate : Int} (notNull : julDate ≠ Julian.referenceDay) :
    calendar.timeAt (dayClock julDate) = calendar.ofClock (dayClock julDate) := by
  have referenceDay : Julian.referenceDay = 1721426 := rfl
  rw [timeAt, if_neg]
  rw [dayClock_eq]
  omega

theorem Y2j_historic {year : Int} (lower : -2000 ≤ year) : 990575 ≤ Julian.Y2j year := by
  have first : Julian.Y2j (-2000) = 990575 := by decide
  rw [← first]
  exact Julian.Y2j_mono (by decide) lower

theorem newYearWeek_december (zone : calendar.WorldZone) {year : Int} (lower : -2000 ≤ year)
    (upper : dayClock (Julian.Y2j year) < 2 ^ 62) :
    (Julian.j2YMD (Julian.ticks2j (dayClock (mondayOf (Julian.Y2j year)) - calendar.utcOffset))).month = 12 ↔
      0 < calendar.utcOffset ∨ Julian.Y2j year % 7 ≠ 0 := by
  have offsetLower := zone.lower
  have offsetUpper := zone.upper
  have hour : Utc.hour = 36000000000 := rfl
  have historic := Y2j_historic lower
  obtain ⟨newYear, newYearEq⟩ : ∃ newYear, newYear = Julian.Y2j year := ⟨_, rfl⟩
  rw [← newYearEq] at upper historic ⊢
  rw [dayClock_eq] at upper
  rw [mondayOf, dayClock_eq, ticks2j_eq (by omega) (by omega), dayOf_eq]
  obtain ⟨shown, shownEq⟩ : ∃ shown, shown =
      ((newYear - newYear % 7 - 1721426) * 864000000000 - calendar.utcOffset) / 864000000000 + 1721426 := ⟨_, rfl⟩
  rw [← shownEq]
  by_cases december : shown < newYear
  · have date := @Julian.j2YMD_december (year - 1) (shown - newYear + 32) (by omega) (by omega) (by omega)
    rw [Int.sub_add_cancel, ← newYearEq, show newYear + (shown - newYear + 32) - 32 = shown by omega] at date
    rw [date]
    exact iff_of_true rfl (by omega)
  · have date := @Julian.j2YMD_january year 1 (by omega) (by omega) (by omega)
    rw [← newYearEq, show newYear + 1 - 1 = shown by omega] at date
    rw [date]
    exact iff_of_false (show ¬(1 : Int) = 12 by decide) (by omega)

theorem weekOfYear_december {tweek newYear start : UtcTime} {date : Date} (late : ¬(date.month = 1 ∧ date.day ≤ 7))
    (trimmedYear : calendar.trimYear tweek = .ok newYear) (trimmedWeek : calendar.trimWeek newYear = .ok start)
    (ordinary : start.Ordinary) (december : (Julian.j2YMD (Julian.ticks2j start.ticks)).month = 12) :
    calendar.weekOfYear .firstFullWeek tweek date =
      .ok (date.year, weekNumber tweek (.ofTicks (start.ticks + Utc.week))) := by
  simp only [weekOfYear, late, if_false, trimmedYear, trimmedWeek, ok_bind, december, if_true, ordinary.add_eq]
  rfl

theorem weekOfYear_january {tweek newYear start : UtcTime} {date : Date} (late : ¬(date.month = 1 ∧ date.day ≤ 7))
    (trimmedYear : calendar.trimYear tweek = .ok newYear) (trimmedWeek : calendar.trimWeek newYear = .ok start)
    (january : (Julian.j2YMD (Julian.ticks2j start.ticks)).month ≠ 12) :
    calendar.weekOfYear .firstFullWeek tweek date = .ok (date.year, weekNumber tweek start) := by
  simp only [weekOfYear, late, if_false, trimmedYear, trimmedWeek, ok_bind, january]
  rfl

theorem weekOfYear_yearOne (zone : calendar.WorldZone) {monday : Int} (isMonday : monday % 7 = 0)
    (year : yearOf monday = 1) (later : Julian.referenceDay + 7 ≤ monday) (upper : dayClock monday < 2 ^ 62) :
    calendar.weekOfYear .firstFullWeek (calendar.ofClock (dayClock monday)) (Julian.j2YMD monday) =
      .ok (1, 1 + (monday - Julian.referenceDay) / 7) := by
  have offsetLower := zone.lower
  have offsetUpper := zone.upper
  have hour : Utc.hour = 36000000000 := rfl
  have day : Utc.day = 864000000000 := rfl
  have week : Utc.week = 6048000000000 := rfl
  have years : Utc.year = 315360000000000 := rfl
  have referenceDay : Julian.referenceDay = 1721426 := rfl
  have first : Julian.Y2j 1 = 1721426 := by decide
  have ordinary := ofDay_ordinary zone (show 900000 ≤ monday by omega) upper (by omega)
  have late := mt (firstSeven_iff (show 1000000 ≤ monday by omega)).mp (by rw [year, first]; omega)
  have ticks := ofClock_ticks_zone zone (show -2 ^ 60 < dayClock monday by rw [dayClock_eq]; omega) upper
  have clock : dayClock monday = (monday - 1721426) * 864000000000 := rfl
  have trimmedYear := trimYear_zone zone (by omega) upper ordinary
  rw [dateOf_dayClock, ← yearOf, year] at trimmedYear
  have nullClock : calendar.clockOf UtcTime.null = calendar.utcOffset := Int.zero_add _
  have trimmedWeek := trimWeek_zone zone (show -2 ^ 60 + Utc.year < UtcTime.null.ticks by decide)
    (show UtcTime.null.ticks + calendar.utcOffset < 2 ^ 62 by rw [clockOf] at nullClock; omega)
  rw [nullClock] at trimmedWeek
  rw [yearOf] at year
  by_cases west : calendar.utcOffset < 0
  · have start : mondayOf (dayOf calendar.utcOffset) = 1721419 := by
      rw [mondayOf, dayOf_eq]
      omega
    have startClock : dayClock 1721419 = -6048000000000 := by decide
    have startTicks := ofClock_ticks_zone zone (show -2 ^ 60 < dayClock 1721419 by decide) (by decide)
    have startOrdinary := ofDay_ordinary zone (show 900000 ≤ 1721419 by decide) (by decide) (by decide)
    have christmas : Julian.ticks2j (calendar.ofClock (dayClock 1721419)).ticks = 1721419 := by
      rw [startTicks, startClock, ticks2j_eq (by omega) (by omega), dayOf_eq]
      omega
    rw [start, timeAt_ofDay (by decide)] at trimmedWeek
    rw [weekOfYear_december late trimmedYear trimmedWeek startOrdinary (by rw [christmas]; decide), year,
      @weekNumber_eq _ _ ((monday - Julian.referenceDay) / 7) (by omega) (by omega)]
    all_goals
      rw [UtcTime.ofTicks_ticks (by omega) (by omega), week]
      omega
  · have start : mondayOf (dayOf calendar.utcOffset) = 1721426 := by
      rw [mondayOf, dayOf_eq]
      omega
    have startTime : calendar.timeAt (dayClock 1721426) = UtcTime.null := rfl
    have nullTicks : UtcTime.null.ticks = 0 := rfl
    rw [start, startTime] at trimmedWeek
    rw [weekOfYear_january late trimmedYear trimmedWeek (by decide), year,
      @weekNumber_eq _ _ ((monday - Julian.referenceDay) / 7) (by omega) (by omega)]
    all_goals
      rw [week]
      omega

theorem weekOfYear_laterYear (zone : calendar.WorldZone) {monday : Int} (isMonday : monday % 7 = 0)
    (historic : 1000000 ≤ monday) (upper : dayClock monday < 2 ^ 62) (notFirst : yearOf monday ≠ 1)
    (later : Julian.Y2j (yearOf monday) + 7 ≤ monday) :
    calendar.weekOfYear .firstFullWeek (calendar.ofClock (dayClock monday)) (Julian.j2YMD monday) =
      .ok (yearOf monday, 1 + (monday - firstMonday (yearOf monday)) / 7 -
        if 0 < calendar.utcOffset ∧ Julian.Y2j (yearOf monday) % 7 = 0 then 1 else 0) := by
  have offsetLower := zone.lower
  have offsetUpper := zone.upper
  have hour : Utc.hour = 36000000000 := rfl
  have day : Utc.day = 864000000000 := rfl
  have week : Utc.week = 6048000000000 := rfl
  have years : Utc.year = 315360000000000 := rfl
  have referenceDay : Julian.referenceDay = 1721426 := rfl
  have yearLower := yearOf_lower historic
  have newYearLower := Y2j_historic yearLower
  have ordinary := ofDay_ordinary zone (show 900000 ≤ monday by omega)
  have late := mt (firstSeven_iff historic).mp (by omega)
  have clock : dayClock monday = (monday - 1721426) * 864000000000 := rfl
  have ticks := ofClock_ticks_zone zone (show -2 ^ 60 < dayClock monday by omega) upper
  obtain ⟨newYear, newYearEq⟩ : ∃ newYear, newYear = Julian.Y2j (yearOf monday) := ⟨_, rfl⟩
  have notNull := yearOf_notFirst (show 0 ≤ monday by omega) notFirst
  rw [← newYearEq] at notNull
  have newYearClock : dayClock newYear = (newYear - 1721426) * 864000000000 := rfl
  have startClock : dayClock (mondayOf newYear) = (newYear - newYear % 7 - 1721426) * 864000000000 := rfl
  have monday' : mondayOf newYear = newYear - newYear % 7 := rfl
  have startTicks := ofClock_ticks_zone zone (show -2 ^ 60 < dayClock (mondayOf newYear) by omega) (by omega)
  have newYearTicks := ofClock_ticks_zone zone (show -2 ^ 60 < dayClock newYear by omega) (by omega)
  have newYearDay : dayOf (dayClock newYear) = newYear := by
    rw [dayOf_eq, newYearClock]
    omega
  have trimmedYear := trimYear_zone zone (by omega) upper (ordinary upper (by omega))
  rw [dateOf_dayClock, ← yearOf, ← newYearEq, timeAt_ofDay (by omega)] at trimmedYear
  have trimmedWeek := @trimWeek_zone calendar zone (calendar.ofClock (dayClock newYear)) (by omega) (by omega)
  have clockBack : calendar.clockOf (calendar.ofClock (dayClock newYear)) = dayClock newYear := by
    rw [clockOf, newYearTicks]
    omega
  rw [clockBack, newYearDay, timeAt_ofDay (by omega)] at trimmedWeek
  have december := newYearWeek_december zone yearLower (by rw [← newYearEq]; omega)
  rw [← newYearEq, ← startTicks] at december
  have firstWeek : firstMonday (yearOf monday) = newYear + (-newYear) % 7 := by rw [firstMonday, newYearEq]
  have startOrdinary := ofDay_ordinary zone (show 900000 ≤ mondayOf newYear by omega) (by omega) (by omega)
  by_cases decemberWeek : 0 < calendar.utcOffset ∨ newYear % 7 ≠ 0
  · rw [weekOfYear_december late trimmedYear trimmedWeek startOrdinary (december.mpr decemberWeek), ← yearOf,
      @weekNumber_eq _ _ ((monday - mondayOf newYear) / 7 - 1) (by omega) (by omega), ← newYearEq]
    · have same : 1 + ((monday - mondayOf newYear) / 7 - 1) = 1 + (monday - firstMonday (yearOf monday)) / 7 -
          if 0 < calendar.utcOffset ∧ newYear % 7 = 0 then 1 else 0 := by
        split <;> omega
      rw [same]
    all_goals
      rw [UtcTime.ofTicks_ticks (by omega) (by omega), week]
      omega
  · rw [weekOfYear_january late trimmedYear trimmedWeek (mt december.mp decemberWeek), ← yearOf,
      @weekNumber_eq _ _ ((monday - mondayOf newYear) / 7) (by omega) (by omega), ← newYearEq]
    · have same : 1 + (monday - mondayOf newYear) / 7 = 1 + (monday - firstMonday (yearOf monday)) / 7 -
          if 0 < calendar.utcOffset ∧ newYear % 7 = 0 then 1 else 0 := by
        split <;> omega
      rw [same]
    all_goals
      rw [week]
      omega

def NumbersFullWeek (calendar : RegionalCalendar) (t : UtcTime) : Prop :=
  ∃ year number, calendar.asYW .firstFullWeek t = .ok (year, number) ∧
    IsFullWeek (mondayOf (dayOf (calendar.clockOf t))) year number

def MissesFullWeek (calendar : RegionalCalendar) (monday : Int) : Prop :=
  0 < calendar.utcOffset ∧ yearOf monday ≠ 1 ∧ Julian.Y2j (yearOf monday) % 7 = 0 ∧
      Julian.Y2j (yearOf monday) < monday ∨
    calendar.utcOffset < 0 ∧ monday = Julian.referenceDay

instance (calendar : RegionalCalendar) (monday : Int) : Decidable (calendar.MissesFullWeek monday) :=
  inferInstanceAs (Decidable (_ ∨ _))

theorem isFullWeek_iff {monday number : Int} (isMonday : monday % 7 = 0) (counted : 0 ≤ monday) :
    IsFullWeek monday (yearOf monday) number ↔ number = 1 + (monday - firstMonday (yearOf monday)) / 7 := by
  obtain ⟨_, started, ends⟩ := yearOf_bounds counted
  have first : firstMonday (yearOf monday) = Julian.Y2j (yearOf monday) + (-Julian.Y2j (yearOf monday)) % 7 := rfl
  constructor
  · rintro ⟨_, same, _⟩
    omega
  · intro same
    exact ⟨by omega, by omega, ends⟩

theorem asYW_nullWeek (zone : calendar.WorldZone) :
    calendar.weekOfYear .firstFullWeek UtcTime.null (dateOf calendar.utcOffset) =
      if calendar.utcOffset < 0 then .error (.argumentNull UtcTime.oneOfOperandsIsNull) else .ok (1, 1) := by
  have offsetLower := zone.lower
  have offsetUpper := zone.upper
  have hour : Utc.hour = 36000000000 := rfl
  split
  · have day : dayOf calendar.utcOffset = 1721425 := by
      rw [dayOf_eq]
      omega
    have date : dateOf calendar.utcOffset = ⟨0, 12, 31⟩ := by
      rw [dateOf, day]
      decide
    rw [date]
    simp only [weekOfYear, trimYear_null]
    rfl
  · have day : dayOf calendar.utcOffset = 1721426 := by
      rw [dayOf_eq]
      omega
    have date : dateOf calendar.utcOffset = ⟨1, 1, 1⟩ := by
      rw [dateOf, day]
      decide
    rw [date]
    rfl

theorem weekOfYear_monday (zone : calendar.WorldZone) {monday : Int} (isMonday : monday % 7 = 0)
    (historic : 1000000 ≤ monday) (upper : dayClock monday < 2 ^ 62) (notNull : monday ≠ Julian.referenceDay) :
    ∃ number, calendar.weekOfYear .firstFullWeek (calendar.ofClock (dayClock monday)) (Julian.j2YMD monday) =
        .ok (yearOf monday, number) ∧
      (IsFullWeek monday (yearOf monday) number ↔ ¬ calendar.MissesFullWeek monday) := by
  have referenceDay : Julian.referenceDay = 1721426 := rfl
  have counted : ∀ number, IsFullWeek monday (yearOf monday) number ↔ _ :=
    fun number => isFullWeek_iff isMonday (by omega)
  obtain ⟨_, started, ends⟩ := yearOf_bounds (show 0 ≤ monday by omega)
  have first : firstMonday (yearOf monday) = Julian.Y2j (yearOf monday) + (-Julian.Y2j (yearOf monday)) % 7 := rfl
  by_cases firstSeven : monday < Julian.Y2j (yearOf monday) + 7
  · refine ⟨1, ?_, ?_⟩
    · simp only [weekOfYear, (firstSeven_iff historic).mpr firstSeven, and_self, if_true]
      rfl
    · rw [counted, MissesFullWeek]
      omega
  · by_cases yearOne : yearOf monday = 1
    · have newYear : Julian.Y2j 1 = 1721426 := by decide
      refine ⟨1 + (monday - Julian.referenceDay) / 7, ?_, ?_⟩
      · rw [yearOne] at firstSeven ⊢
        exact weekOfYear_yearOne zone isMonday yearOne (by omega) upper
      · rw [counted, MissesFullWeek, first, yearOne]
        omega
    · refine ⟨_, weekOfYear_laterYear zone isMonday historic upper yearOne (by omega), ?_⟩
      rw [counted, MissesFullWeek]
      split <;> omega

/-- East of Greenwich the Monday of New Year is read as a Sunday and not counted; west of it
the week of the null time has no number. In every other week the Monday is the one of its
number. -/
theorem asYW_fullWeek_iff (zone : calendar.WorldZone) {t : UtcTime} (ordinary : t.Ordinary)
    (lower : -2 ^ 59 < calendar.clockOf t) (upper : calendar.clockOf t < 2 ^ 62) :
    calendar.NumbersFullWeek t ↔ ¬ calendar.MissesFullWeek (mondayOf (dayOf (calendar.clockOf t))) := by
  have referenceDay : Julian.referenceDay = 1721426 := rfl
  have numbered := asYW_zone zone ordinary .firstFullWeek lower upper
  obtain ⟨monday, mondayEq⟩ : ∃ monday, monday = mondayOf (dayOf (calendar.clockOf t)) := ⟨_, rfl⟩
  have isMonday : monday % 7 = 0 := by
    rw [mondayEq, mondayOf]
    omega
  have historic : 1000000 ≤ monday := by
    rw [mondayEq, mondayOf, dayOf_eq]
    omega
  have before : dayClock monday < 2 ^ 62 := by
    rw [mondayEq, mondayOf, dayOf_eq, dayClock_eq]
    omega
  rw [NumbersFullWeek, numbered, ← mondayEq]
  by_cases null : monday = Julian.referenceDay
  · have nullTime : calendar.timeAt (dayClock monday) = UtcTime.null := by
      rw [null]
      rfl
    have year : yearOf Julian.referenceDay = 1 := by decide
    have newYear : Julian.Y2j 1 = 1721426 := by decide
    have offset : UtcTime.null.ticks + calendar.utcOffset = calendar.utcOffset := Int.zero_add _
    rw [nullTime, offset, asYW_nullWeek zone]
    split
    · rename_i west
      refine iff_of_false (by simp) (not_not_intro (Or.inr ⟨west, null⟩))
    · rename_i notWest
      have counted := @isFullWeek_iff monday 1 isMonday (by omega)
      have misses : ¬ calendar.MissesFullWeek monday := by
        rw [MissesFullWeek, null, year, newYear]
        omega
      refine iff_of_true ⟨1, 1, rfl, ?_⟩ misses
      rw [null, year] at counted
      rw [null]
      exact counted.mpr (by decide)
  · have back : (calendar.ofClock (dayClock monday)).ticks + calendar.utcOffset = dayClock monday := by
      rw [ofClock_ticks_zone zone (by rw [dayClock_eq]; omega) before]
      omega
    obtain ⟨number, found, right⟩ := weekOfYear_monday zone isMonday historic before null
    rw [timeAt_ofDay null, back, dateOf_dayClock, found, ← right]
    constructor
    · rintro ⟨_, _, same, full⟩
      cases same
      exact full
    · intro full
      exact ⟨_, _, rfl, full⟩

def eastCalendar : RegionalCalendar := { utcCalendar with utcOffset := Utc.hour }

theorem eastCalendar_zone : eastCalendar.WorldZone := ⟨rfl, by decide, by decide⟩

theorem asYW_fullWeek_iff_january : eastCalendar.NumbersFullWeek (.ofTicks 630830592000000000) :=
  (asYW_fullWeek_iff eastCalendar_zone (by decide) (by decide) (by decide)).mpr (by decide)

/-- 2001 started on a Monday, and its second week is numbered as the first. -/
theorem asYW_secondWeek :
    eastCalendar.asYW .firstFullWeek (.ofTicks 631145952000000000) = .ok (2001, 1) ∧
    ¬ eastCalendar.NumbersFullWeek (.ofTicks 631145952000000000) := by
  have numbered : eastCalendar.asYW .firstFullWeek (.ofTicks 631145952000000000) = .ok (2001, 1) := by decide
  refine ⟨numbered, ?_⟩
  rintro ⟨year, number, found, full⟩
  have same := Except.ok.inj (numbered.symm.trans found)
  cases same
  exact absurd full.counted (by decide)

end FullWeeks

end RegionalCalendar

end ServiceHost
