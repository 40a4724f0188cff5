import ServiceHost.Time.FirstFullWeek
import ServiceHost.Time.Trim
import ServiceHost.Time.WeekNumberCore

/-!
Weeks with at least four days in the new year. `GetWeekNumber` finds the weeks of ISO 8601,
and so does `asYW` unless the offset has fallen since a New Year on a Thursday. Back from
its week, a time is found on days whose offset does not change before it.
-/

namespace ServiceHost

open Library

namespace RegionalCalendar

def weekOne (year : Int) : Int := mondayOf (Julian.Y2j year + 3)

def isoWeekOf (julDate : Int) : Int × Int :=
  let thursday := mondayOf julDate + 3
  (yearOf thursday, 1 + (thursday - Julian.Y2j (yearOf thursday)) / 7)

def localClock (calendar : RegionalCalendar) (t : UtcTime) : Int := t.ticks + calendar.offsetAt t.ticks

structure FromSecondYear (calendar : RegionalCalendar) (t : UtcTime) : Prop where
  lower : dayClock (Julian.Y2j 2) ≤ calendar.localClock t
  upper : calendar.localClock t < dayClock (Julian.Y2j 10000)

variable {calendar : RegionalCalendar}

section IsoWeeks

theorem weekOne_bounds (year : Int) :
    Julian.Y2j year - 3 ≤ weekOne year ∧ weekOne year ≤ Julian.Y2j year + 3 ∧ weekOne year % 7 = 0 := by
  unfold weekOne mondayOf
  omega

theorem yearOf_eq {year julDate : Int} (lower : -2000 ≤ year) (started : Julian.Y2j year ≤ julDate)
    (ends : julDate < Julian.Y2j (year + 1)) : yearOf julDate = year := by
  have historic := Y2j_historic lower
  obtain ⟨known, ownStarted, ownEnds⟩ := yearOf_bounds (show 0 ≤ julDate by omega)
  have notEarly : year < yearOf julDate + 1 := Julian.lt_of_Y2j_lt (by omega) (by omega)
  have notLate : yearOf julDate < year + 1 := Julian.lt_of_Y2j_lt (by omega) (by omega)
  omega

theorem isoWeekOf_eq {year julDate : Int} (lower : -2000 ≤ year) (started : weekOne year ≤ julDate)
    (ends : julDate < weekOne (year + 1)) :
    isoWeekOf julDate = (year, 1 + (julDate - weekOne year) / 7) := by
  have first := weekOne_bounds year
  have next := weekOne_bounds (year + 1)
  have monday : mondayOf julDate = julDate - julDate % 7 := rfl
  have own : yearOf (mondayOf julDate + 3) = year := yearOf_eq lower (by omega) (by omega)
  have number : (mondayOf julDate + 3 - Julian.Y2j year) / 7 = (julDate - weekOne year) / 7 := by omega
  simp only [isoWeekOf, own, number]

theorem ofDate_eq {date : Date} (lower : 1 ≤ date.year) (upper : date.year ≤ 9999) :
    DateTime.ofDate date = .ok ⟨dayClock (Julian.YMD2j date)⟩ := by
  rw [DateTime.ofDate, if_pos ⟨lower, upper⟩]
  rfl

theorem getIsoWeekOne_eq {year : Int} (lower : 1 ≤ year) (upper : year ≤ 9999) :
    getIsoWeekOne year = .ok ⟨dayClock (weekOne year)⟩ := by
  have number : Julian.YMD2j ⟨year, 1, 4⟩ = _ := Julian.YMD2j_early (Int.le_refl 1) (show (1 : Int) ≤ 2 by decide)
  have fourth : Julian.YMD2j ⟨year, 1, 4⟩ = Julian.Y2j year + 3 := by
    rw [number]
    dsimp only
    omega
  have day : Utc.day = 864000000000 := rfl
  have first : Julian.Y2j 1 = 1721426 := by decide
  have last : Julian.Y2j 9999 = 5373120 := by decide
  have after := Julian.Y2j_mono (show (-4799 : Int) ≤ 1 by decide) lower
  have before := Julian.Y2j_mono (show -4799 ≤ year by omega) upper
  have bounds := weekOne_bounds year
  obtain ⟨newYear, newYearEq⟩ : ∃ newYear, newYear = Julian.Y2j year := ⟨_, rfl⟩
  have weekDay : (dayClock (newYear + 3) / Utc.day + 1) % 7 = (newYear + 4) % 7 := by
    rw [dayClock_eq, day]
    omega
  have monday : weekOne year = newYear + 3 - (newYear + 3) % 7 := by rw [newYearEq]; rfl
  have moved : dayClock (newYear + 3) + (1 - if (newYear + 4) % 7 = 0 then 7 else (newYear + 4) % 7) * Utc.day =
      dayClock (weekOne year) := by
    rw [dayClock_eq, dayClock_eq, day, monday]
    split <;> omega
  have known : 0 ≤ dayClock (weekOne year) ∧ dayClock (weekOne year) ≤ DateTime.maxValue.ticks := by
    have greatest : DateTime.maxValue.ticks = 3155378975999999999 := rfl
    rw [dayClock_eq, monday]
    omega
  rw [← newYearEq] at fourth
  rw [getIsoWeekOne, ofDate_eq lower upper, fourth]
  simp only [ok_bind, DateTime.dayOfWeek, weekDay, DateTime.addDays, moved, DateTime.ofTicks, known, and_self, if_true]
  rfl

theorem dayClock_le_iff (julDate clock : Int) : dayClock julDate ≤ clock ↔ julDate ≤ dayOf clock := by
  rw [dayClock_eq, dayOf_eq]
  omega

theorem weeksSince_eq {clock first : Int} (started : first ≤ dayOf clock) :
    ((clock - dayClock first).tdiv Utc.day).tdiv 7 + 1 = 1 + (dayOf clock - first) / 7 := by
  have day : Utc.day = 864000000000 := rfl
  rw [dayOf_eq] at started ⊢
  have days := Int.tdiv_eq_ediv_of_nonneg (show 0 ≤ clock - (first - 1721426) * 864000000000 by omega) (b := 864000000000)
  rw [dayClock_eq, day, days, Int.tdiv_eq_ediv_of_nonneg (by omega)]
  omega

theorem YMD2j_december29 (year : Int) : Julian.YMD2j ⟨year, 12, 29⟩ = Julian.Y2j (year + 1) - 3 := by
  have number : Julian.YMD2j ⟨year, 12, 29⟩ = _ := Julian.YMD2j_late (show (3 : Int) ≤ 12 by decide) (Int.le_refl 12)
  rw [number]
  dsimp only
  omega

theorem getIsoWeek_eq {clock : Int} (lower : dayClock (Julian.Y2j 2) ≤ clock) (upper : clock < dayClock (Julian.Y2j 9999)) :
    getIsoWeek ⟨clock⟩ = .ok ((isoWeekOf (dayOf clock)).1 * 100 + (isoWeekOf (dayOf clock)).2) := by
  have second : Julian.Y2j 2 = 1721791 := by decide
  have last : Julian.Y2j 9999 = 5373120 := by decide
  rw [dayClock_le_iff, second] at lower
  rw [← not_le, dayClock_le_iff, last] at upper
  obtain ⟨_, started, ends⟩ := yearOf_bounds (show 0 ≤ dayOf clock by omega)
  have date : (DateTime.date ⟨clock⟩).year = yearOf (dayOf clock) := rfl
  obtain ⟨year, yearEq⟩ : ∃ year, year = yearOf (dayOf clock) := ⟨_, rfl⟩
  rw [← yearEq] at started ends date
  have notEarly : 2 ≤ year := Int.le_of_lt_add_one (Julian.lt_of_Y2j_lt (by omega) (by omega))
  have notLate : year < 9999 := Julian.lt_of_Y2j_lt (by decide) (by omega)
  have late : DateTime.ofDate ⟨year, 12, 29⟩ = .ok ⟨dayClock (Julian.Y2j (year + 1) - 3)⟩ := by
    rw [← YMD2j_december29]
    exact ofDate_eq (show 1 ≤ year by omega) (show year ≤ 9999 by omega)
  have own := weekOne_bounds year
  have next := weekOne_bounds (year + 1)
  have previous := weekOne_bounds (year - 1)
  have whole := Julian.Y2j_succ (show -4799 ≤ year by omega)
  have wholeBefore := Julian.Y2j_succ (show -4799 ≤ year - 1 by omega)
  have wholeAfter := Julian.Y2j_succ (show -4799 ≤ year + 1 by omega)
  have nextOwn := weekOne_bounds (year + 1 + 1)
  rw [Int.sub_add_cancel] at wholeBefore
  simp only [getIsoWeek, date, late, ok_bind, ge_iff_le, ← not_le, dayClock_le_iff]
  split
  · rw [getIsoWeekOne_eq (by omega) (by omega), ok_bind]
    simp only [dayClock_le_iff]
    split
    · rename_i before
      rw [getIsoWeekOne_eq (by omega) (by omega), isoWeekOf_eq (show -2000 ≤ year by omega) (by omega) (by omega)]
      simp only [Functor.map, Except.map, ok_bind]
      rw [weeksSince_eq (by omega)]
      rfl
    · rename_i after
      rw [isoWeekOf_eq (show -2000 ≤ year + 1 by omega) (by omega) (by omega)]
      simp only [pure_eq_ok, ok_bind]
      rw [weeksSince_eq (by omega)]
  · rename_i early
    rw [getIsoWeekOne_eq (by omega) (by omega), ok_bind]
    simp only [dayClock_le_iff]
    split
    · rename_i before
      rw [getIsoWeekOne_eq (by omega) (by omega), isoWeekOf_eq (show -2000 ≤ year - 1 by omega) (by omega)
        (by rw [Int.sub_add_cancel]; omega)]
      simp only [Functor.map, Except.map, ok_bind]
      rw [weeksSince_eq (by omega)]
      rfl
    · rename_i after
      rw [isoWeekOf_eq (show -2000 ≤ year by omega) (by omega) (by omega)]
      simp only [pure_eq_ok, ok_bind]
      rw [weeksSince_eq (by omega)]

theorem isoWeekOf_bounds {julDate : Int} (lower : Julian.Y2j 2 ≤ julDate) :
    1 ≤ (isoWeekOf julDate).1 ∧ 1 ≤ (isoWeekOf julDate).2 ∧ (isoWeekOf julDate).2 ≤ 53 := by
  have second : Julian.Y2j 2 = 1721791 := by decide
  have monday : mondayOf julDate = julDate - julDate % 7 := rfl
  obtain ⟨known, started, ends⟩ := yearOf_bounds (show 0 ≤ mondayOf julDate + 3 by omega)
  have within := Julian.Y2j_succ_le known
  have notEarly : 1 ≤ yearOf (mondayOf julDate + 3) := by
    have order : 1 < yearOf (mondayOf julDate + 3) + 1 := by
      have first : Julian.Y2j 1 = 1721426 := by decide
      exact Julian.lt_of_Y2j_lt (by omega) (by omega)
    omega
  unfold isoWeekOf
  dsimp only
  omega

theorem BoundedOffsets.within (offsets : calendar.BoundedOffsets) (t : Int) :
    -16 * Utc.hour ≤ calendar.offsetAt t ∧ calendar.offsetAt t ≤ 16 * Utc.hour := by
  have lower := offsets.bounded.lower t
  have upper := offsets.bounded.upper t
  omega

theorem FromSecondYear.ordinary (offsets : calendar.BoundedOffsets) {t : UtcTime} (years : calendar.FromSecondYear t) :
    t.Ordinary ∧ 364 * Utc.day ≤ t.ticks ∧ t.ticks < 2 ^ 62 - Utc.year := by
  have hour : Utc.hour = 36000000000 := rfl
  have day : Utc.day = 864000000000 := rfl
  have year : Utc.year = 315360000000000 := rfl
  have least : Utc.minValue = -9223372036854775807 := rfl
  have greatest : Utc.maxValue = 9223372036854775807 := rfl
  have second : dayClock (Julian.Y2j 2) = 315360000000000 := by decide
  have last : dayClock (Julian.Y2j 10000) = 3155378976000000000 := by decide
  have bounds := offsets.within t.ticks
  obtain ⟨lower, upper⟩ := years
  unfold localClock at lower upper
  exact ⟨UtcTime.ordinary_iff.mpr ⟨by omega, by omega, by omega⟩, by omega, by omega⟩

theorem getWeekNumber_eq (offsets : calendar.BoundedOffsets) {t : UtcTime} (years : calendar.FromSecondYear t)
    (upper : calendar.localClock t < dayClock (Julian.Y2j 9999)) (getWeekOfYear : DateTime → Int) :
    calendar.getWeekNumber .first4DayWeek true getWeekOfYear t = .ok (isoWeekOf (dayOf (calendar.localClock t))) := by
  have ordinary := (years.ordinary offsets).1
  have lower := years.lower
  have second : dayClock (Julian.Y2j 2) = 315360000000000 := by decide
  have last : dayClock (Julian.Y2j 9999) = 3155063616000000000 := by decide
  have greatest : DateTime.maxValue.ticks = 3155378975999999999 := rfl
  have known : 0 ≤ calendar.localClock t ∧ calendar.localClock t ≤ DateTime.maxValue.ticks := by omega
  have shown : calendar.toDateTime t = .ok ⟨calendar.localClock t⟩ := by
    rw [toDateTime, if_neg ordinary.notMin, if_neg ordinary.notMax, diffUtc_eq, ok_bind, ← localClock, DateTime.ofTicks,
      if_pos known]
    rfl
  have bounds := isoWeekOf_bounds ((dayClock_le_iff _ _).mp lower)
  simp only [getWeekNumber, and_self, if_true, shown, ok_bind, getIsoWeek_eq lower upper, pure_eq_ok]
  rw [Int.tdiv_eq_ediv_of_nonneg (by omega), Int.tmod_eq_emod_of_nonneg (by omega)]
  have year : ((isoWeekOf (dayOf (calendar.localClock t))).1 * 100 + (isoWeekOf (dayOf (calendar.localClock t))).2) / 100 =
      (isoWeekOf (dayOf (calendar.localClock t))).1 := by omega
  have number : ((isoWeekOf (dayOf (calendar.localClock t))).1 * 100 + (isoWeekOf (dayOf (calendar.localClock t))).2) % 100 =
      (isoWeekOf (dayOf (calendar.localClock t))).2 := by omega
  rw [year, number]

end IsoWeeks

section WeekFields

def QuietNewYear (calendar : RegionalCalendar) (year : Int) : Prop :=
  ∀ change, dayClock (Julian.Y2j year) - 2 * Utc.week ≤ change → change ≤ dayClock (Julian.Y2j year) + 2 * Utc.week →
    calendar.offsetAt (change - 1) = calendar.offsetAt change

def newYearOffset (calendar : RegionalCalendar) (year : Int) : Int := calendar.offsetAt (dayClock (Julian.Y2j year))

def dayStart (calendar : RegionalCalendar) (julDate : Int) : Int := readBack calendar.offsetAt (dayClock julDate)

theorem QuietNewYear.eq {year : Int} (quiet : calendar.QuietNewYear year) {time : Int}
    (after : dayClock (Julian.Y2j year) - 2 * Utc.week ≤ time)
    (before : time ≤ dayClock (Julian.Y2j year) + 2 * Utc.week) :
    calendar.offsetAt time = calendar.newYearOffset year := by
  have week : Utc.week = 6048000000000 := rfl
  rcases le_or_gt time (dayClock (Julian.Y2j year)) with early | late
  · exact eq_of_no_change early fun change above within => quiet change (by omega) (by omega)
  · exact (eq_of_no_change (le_of_lt late) fun change above within => quiet change (by omega) (by omega)).symm

theorem periodStart_week (clock : Int) : periodStart Utc.week clock = dayClock (mondayOf (dayOf clock)) := by
  have week : Utc.week = 6048000000000 := rfl
  rw [periodStart, if_neg (by decide), mondayOf, dayClock_eq, dayOf_eq, week]
  omega

theorem trimWeek_eq (offsets : calendar.BoundedOffsets) {t : UtcTime} (lower : 10 * Utc.day ≤ t.ticks)
    (upper : t.ticks < 2 ^ 62 - Utc.day) :
    calendar.trimWeek t = .ok (.ofTicks (calendar.dayStart (mondayOf (dayOf (calendar.localClock t))))) := by
  have hour : Utc.hour = 36000000000 := rfl
  have day : Utc.day = 864000000000 := rfl
  have bounds := offsets.within t.ticks
  have started : Utc.day ≤ periodStart Utc.week (t.ticks + calendar.offsetAt t.ticks) := by
    rw [periodStart_week, mondayOf, dayClock_eq, dayOf_eq]
    omega
  have found := trim_ticks offsets (show TrimStep Utc.week from Or.inr (Or.inr (Or.inr (Or.inr (Or.inl rfl)))))
    (show Utc.day ≤ t.ticks by omega) upper started
  rw [trimWeek, found, trimBack, periodStart_week]
  rfl

def weekDayOf (julDate : Int) : Int := (julDate + 1) % 7

def weekUnits (clock : Int) (week : Int × Int) : WeekUnits where
  Yw := week.1
  Wn := week.2
  Dw := weekDayOf (dayOf clock)
  hour := (tickUnits clock).hour
  minute := (tickUnits clock).minute
  second := (tickUnits clock).second
  tick := (tickUnits clock).fraction

theorem asYWDhms_ticks_eq (offsets : calendar.BoundedOffsets) (weekRule : WeekOneRule) {t : UtcTime}
    (years : calendar.FromSecondYear t) :
    calendar.asYWDhms_ticks weekRule t = weekUnits (calendar.localClock t) <$>
      calendar.weekOfYear weekRule (.ofTicks (calendar.dayStart (mondayOf (dayOf (calendar.localClock t)))))
        (dateOf (calendar.dayStart (mondayOf (dayOf (calendar.localClock t))) + calendar.offsetAt t.ticks)) := by
  have hour : Utc.hour = 36000000000 := rfl
  have day : Utc.day = 864000000000 := rfl
  have minute : Utc.minute = 600000000 := rfl
  have second : Utc.second = 10000000 := rfl
  have week : Utc.week = 6048000000000 := rfl
  have year : Utc.year = 315360000000000 := rfl
  have reference : Julian.referenceTicks = 1487312064000000000 := rfl
  obtain ⟨ordinary, lower, upper⟩ := years.ordinary offsets
  have bounds := offsets.within t.ticks
  have trimmed := trimWeek_eq offsets (show 10 * Utc.day ≤ t.ticks by omega) (by omega)
  obtain ⟨clock, clockEq⟩ : ∃ clock, clock = calendar.localClock t := ⟨_, rfl⟩
  have own : t.ticks + calendar.offsetAt t.ticks = clock := clockEq.symm
  rw [← clockEq] at trimmed ⊢
  obtain ⟨monday, mondayEq⟩ : ∃ monday, monday = calendar.dayStart (mondayOf (dayOf clock)) := ⟨_, rfl⟩
  rw [← mondayEq] at trimmed ⊢
  have ticks : (UtcTime.ofTicks clock).ticks = clock := UtcTime.ofTicks_ticks (by omega) (by omega)
  have noWrap : long (clock + Julian.referenceTicks) = clock + Julian.referenceTicks := long_eq (by omega) (by omega)
  have started : clock - 8 * Utc.day ≤ monday ∧ monday ≤ clock + Utc.day := by
    have guess := offsets.within (dayClock (mondayOf (dayOf clock)) - calendar.offsetAt (dayClock (mondayOf (dayOf clock))))
    have near : dayClock (mondayOf (dayOf clock)) ≤ clock ∧ clock < dayClock (mondayOf (dayOf clock)) + Utc.week := by
      rw [mondayOf, dayClock_eq, dayOf_eq]
      omega
    rw [dayStart, readBack] at mondayEq
    omega
  have mondayTicks : (UtcTime.ofTicks monday).ticks = monday := UtcTime.ofTicks_ticks (by omega) (by omega)
  have shown : long (monday + calendar.offsetAt t.ticks) = monday + calendar.offsetAt t.ticks :=
    long_eq (by omega) (by omega)
  have weekDay : (7 + Utc.weekDayStartNumber + (clock.tmod Utc.week).tdiv Utc.day).tmod 7 = weekDayOf (dayOf clock) := by
    have number : Utc.weekDayStartNumber = 1 := rfl
    have rest := Int.emod_nonneg clock (show Utc.week ≠ 0 by decide)
    have whole : (clock.tmod Utc.week).tdiv Utc.day = clock % Utc.week / Utc.day := by
      rw [Int.tmod_eq_emod_of_nonneg (by omega), Int.tdiv_eq_ediv_of_nonneg rest]
    rw [whole, weekDayOf, dayOf_eq, number, week, day, Int.tmod_eq_emod_of_nonneg (by omega)]
    omega
  have days : (clock + Julian.referenceTicks).tmod Utc.day = clock % Utc.day := by
    rw [Int.tmod_eq_emod_of_nonneg (by omega), reference, day]
    omega
  have hours : (clock % Utc.day).tdiv Utc.hour = clock % Utc.day / Utc.hour ∧
      (clock % Utc.day).tmod Utc.hour = clock % Utc.hour := by
    have rest := Int.emod_nonneg clock (show Utc.day ≠ 0 by decide)
    rw [Int.tdiv_eq_ediv_of_nonneg rest, Int.tmod_eq_emod_of_nonneg rest, day, hour]
    omega
  have minutes : (clock % Utc.hour).tdiv Utc.minute = clock % Utc.hour / Utc.minute ∧
      (clock % Utc.hour).tmod Utc.minute = clock % Utc.minute := by
    have rest := Int.emod_nonneg clock (show Utc.hour ≠ 0 by decide)
    rw [Int.tdiv_eq_ediv_of_nonneg rest, Int.tmod_eq_emod_of_nonneg rest, hour, minute]
    omega
  have seconds : (clock % Utc.minute).tdiv Utc.second = clock % Utc.minute / Utc.second ∧
      (clock % Utc.minute).tmod Utc.second = clock % Utc.second := by
    have rest := Int.emod_nonneg clock (show Utc.minute ≠ 0 by decide)
    rw [Int.tdiv_eq_ediv_of_nonneg rest, Int.tmod_eq_emod_of_nonneg rest, minute, second]
    omega
  simp only [asYWDhms_ticks, diffUtc_eq, ok_bind, ordinary.add_eq, own, ticks, trimmed, noWrap, mondayTicks, shown,
    weekDay, days, hours, minutes, seconds]
  rw [ticks2j_eq (by omega) (by omega), ← dateOf]
  cases calendar.weekOfYear weekRule (.ofTicks monday) (dateOf (monday + calendar.offsetAt t.ticks)) with
  | ok week => rfl
  | error exception => rfl

end WeekFields

section WeekOne

theorem lateDecember_iff {julDate : Int} (historic : 1000000 ≤ julDate) :
    (Julian.j2YMD julDate).month = 12 ∧ (Julian.j2YMD julDate).day ≥ 29 ↔
      Julian.Y2j (yearOf julDate + 1) ≤ julDate + 3 := by
  have firstDay : Julian.firstDay = -32044 := rfl
  have year := yearOf_lower historic
  obtain ⟨_, _, ends⟩ := yearOf_bounds (show 0 ≤ julDate by omega)
  constructor
  · rintro ⟨december, late⟩
    have number : Julian.YMD2j (Julian.j2YMD julDate) = julDate := Julian.YMD2j_j2YMD (by omega)
    rw [Julian.YMD2j_late (by omega) (by omega), december, ← yearOf] at number
    omega
  · intro late
    have date := Julian.j2YMD_december (show -4700 ≤ yearOf julDate by omega)
      (show 1 ≤ julDate + 32 - Julian.Y2j (yearOf julDate + 1) by omega) (by omega)
    have same : Julian.Y2j (yearOf julDate + 1) + (julDate + 32 - Julian.Y2j (yearOf julDate + 1)) - 32 = julDate := by
      omega
    rw [same] at date
    rw [date]
    exact ⟨rfl, show 29 ≤ julDate + 32 - Julian.Y2j (yearOf julDate + 1) by omega⟩

theorem newYearsDay_iff {julDate : Int} (historic : 1000000 ≤ julDate) :
    (Julian.j2YMD julDate).month = 1 ∧ (Julian.j2YMD julDate).day = 1 ↔ julDate = Julian.Y2j (yearOf julDate) := by
  have firstDay : Julian.firstDay = -32044 := rfl
  have year := yearOf_lower historic
  constructor
  · rintro ⟨january, first⟩
    have number : Julian.YMD2j (Julian.j2YMD julDate) = julDate := Julian.YMD2j_j2YMD (by omega)
    rw [Julian.YMD2j_early (by omega) (by omega), january, first, ← yearOf] at number
    omega
  · intro newYear
    have date := Julian.j2YMD_january (show -4700 ≤ yearOf julDate by omega) (Int.le_refl 1) (by decide)
    rw [Int.add_sub_cancel, ← newYear] at date
    rw [date]
    exact ⟨rfl, rfl⟩

theorem midnight_day (offsets : calendar.BoundedOffsets) {year : Int} (quiet : calendar.QuietNewYear year)
    {monday time : Int}
    (after : dayClock monday - Utc.day ≤ time) (before : time ≤ dayClock monday + Utc.week + Utc.day) :
    dayOf (calendar.dayStart monday + calendar.offsetAt time) = monday ∨
      dayOf (calendar.dayStart monday + calendar.offsetAt time) = monday - 1 ∧
        (monday < Julian.Y2j year - 4 ∨ Julian.Y2j year + 4 < monday) := by
  have hour : Utc.hour = 36000000000 := rfl
  have day : Utc.day = 864000000000 := rfl
  have week : Utc.week = 6048000000000 := rfl
  have bounds := offsets.within (dayClock monday)
  have spread := offsets.bounded.spread time (dayClock monday - calendar.offsetAt (dayClock monday))
  have spreadBack := offsets.bounded.spread (dayClock monday - calendar.offsetAt (dayClock monday)) time
  have found : calendar.dayStart monday =
      dayClock monday - calendar.offsetAt (dayClock monday - calendar.offsetAt (dayClock monday)) := rfl
  by_cases near : Julian.Y2j year - 4 ≤ monday ∧ monday ≤ Julian.Y2j year + 4
  · have newYear := dayClock_eq (Julian.Y2j year)
    have start := dayClock_eq monday
    have own := quiet.eq (show dayClock (Julian.Y2j year) - 2 * Utc.week ≤ time by omega) (by omega)
    have guess := quiet.eq (show dayClock (Julian.Y2j year) - 2 * Utc.week ≤
      dayClock monday - calendar.offsetAt (dayClock monday) by omega) (by omega)
    left
    rw [found, own, guess, Int.sub_add_cancel, dayOf_dayClock]
  · have shown : dayOf (calendar.dayStart monday + calendar.offsetAt time) = monday ∨
        dayOf (calendar.dayStart monday + calendar.offsetAt time) = monday - 1 := by
      rw [found, dayOf_eq, dayClock_eq] at *
      omega
    exact shown.imp_right fun earlier => ⟨earlier, by omega⟩

theorem newYearMonday_date (offsets : calendar.BoundedOffsets) {year : Int} (quiet : calendar.QuietNewYear year)
    (lower : 2 ≤ year) (upper : year ≤ 9999) {monday : Int} (after : Julian.Y2j year < monday)
    (before : monday < Julian.Y2j (year + 1) - 3) :
    ∃ newYear start, calendar.trimYear (.ofTicks (calendar.dayStart monday)) = .ok newYear ∧
      calendar.trimWeek newYear = .ok start ∧ start.Ordinary ∧
      start.ticks = dayClock (mondayOf (Julian.Y2j year)) - calendar.newYearOffset year := by
  have hour : Utc.hour = 36000000000 := rfl
  have day : Utc.day = 864000000000 := rfl
  have week : Utc.week = 6048000000000 := rfl
  have least : Utc.minValue = -9223372036854775807 := rfl
  have greatest : Utc.maxValue = 9223372036854775807 := rfl
  have second : Julian.Y2j 2 = 1721791 := by decide
  have last : Julian.Y2j 10000 = 5373485 := by decide
  have yearLower := Julian.Y2j_mono (show (-4799 : Int) ≤ 2 by decide) lower
  have yearUpper := Julian.Y2j_mono (show -4799 ≤ year + 1 by omega) (show year + 1 ≤ 10000 by omega)
  have start := dayClock_eq monday
  have newYear := dayClock_eq (Julian.Y2j year)
  have newYearMonday := dayClock_eq (mondayOf (Julian.Y2j year))
  have mondayEq : mondayOf (Julian.Y2j year) = Julian.Y2j year - Julian.Y2j year % 7 := rfl
  obtain ⟨tweek, tweekEq⟩ : ∃ tweek, tweek = calendar.dayStart monday := ⟨_, rfl⟩
  have tweekBounds := offsets.bounded.readBack_bounds (dayClock monday)
  rw [← dayStart, ← tweekEq] at tweekBounds
  have tweekTicks : (UtcTime.ofTicks tweek).ticks = tweek := UtcTime.ofTicks_ticks (by omega) (by omega)
  have year_ : yearOf (dayOf (tweek + calendar.offsetAt tweek)) = year := by
    have shown := midnight_day offsets quiet (show dayClock monday - Utc.day ≤ tweek by omega) (by omega)
    rw [← tweekEq] at shown
    rcases shown with same | ⟨earlier, far⟩
    · rw [same]
      exact yearOf_eq (by omega) (by omega) (by omega)
    · have away := far
      rw [earlier]
      exact yearOf_eq (by omega) (by omega) (by omega)
  have newYearBounds := offsets.within (dayClock (Julian.Y2j year))
  have mondayBounds := offsets.within (dayClock (mondayOf (Julian.Y2j year)))
  have offsetBounds : -16 * Utc.hour ≤ calendar.newYearOffset year ∧ calendar.newYearOffset year ≤ 16 * Utc.hour :=
    newYearBounds
  have read (clock : Int) (low : dayClock (Julian.Y2j year) - Utc.week ≤ clock) (high : clock ≤ dayClock (Julian.Y2j year)) :
      readBack calendar.offsetAt clock = clock - calendar.newYearOffset year := by
    have guess := offsets.within clock
    rw [readBack, quiet.eq (by omega) (by omega)]
  have trimmedYear : calendar.trimYear (.ofTicks tweek) =
      .ok (.ofTicks (dayClock (Julian.Y2j year) - calendar.newYearOffset year)) := by
    have start : periodStart Utc.year (tweek + calendar.offsetAt tweek) = dayClock (Julian.Y2j year) := by
      have key : periodStart Utc.year (tweek + calendar.offsetAt tweek) =
          dayClock (Julian.YMD2j ⟨yearOf (dayOf (tweek + calendar.offsetAt tweek)), 1, 1⟩) := rfl
      rw [key, year_, Julian.YMD2j_firstOfYear]
    have found := trim_ticks offsets (show TrimStep Utc.year from Or.inr (Or.inr (Or.inr (Or.inr (Or.inr (Or.inr rfl))))))
      (show Utc.day ≤ (UtcTime.ofTicks tweek).ticks by omega) (by omega) (by rw [tweekTicks, start]; omega)
    rw [tweekTicks, trimBack, start, read _ (by omega) (by omega)] at found
    exact found
  have newYearTicks : (UtcTime.ofTicks (dayClock (Julian.Y2j year) - calendar.newYearOffset year)).ticks =
      dayClock (Julian.Y2j year) - calendar.newYearOffset year := UtcTime.ofTicks_ticks (by omega) (by omega)
  have shown : calendar.localClock (.ofTicks (dayClock (Julian.Y2j year) - calendar.newYearOffset year)) =
      dayClock (Julian.Y2j year) := by
    rw [localClock, newYearTicks, quiet.eq (by omega) (by omega), Int.sub_add_cancel]
  have trimmedWeek := trimWeek_eq offsets
    (show 10 * Utc.day ≤ (UtcTime.ofTicks (dayClock (Julian.Y2j year) - calendar.newYearOffset year)).ticks by omega)
    (by omega)
  rw [shown, dayOf_dayClock, dayStart, read _ (by omega) (by omega)] at trimmedWeek
  have ticks : (UtcTime.ofTicks (dayClock (mondayOf (Julian.Y2j year)) - calendar.newYearOffset year)).ticks =
      dayClock (mondayOf (Julian.Y2j year)) - calendar.newYearOffset year := UtcTime.ofTicks_ticks (by omega) (by omega)
  rw [← tweekEq]
  exact ⟨_, _, trimmedYear, trimmedWeek, UtcTime.ordinary_iff.mpr ⟨by omega, by omega, by omega⟩, ticks⟩

def LosesWeek (calendar : RegionalCalendar) (monday : Int) : Prop :=
  weekOne (yearOf (monday + 3)) < monday ∧ Julian.Y2j (yearOf (monday + 3)) % 7 = 3 ∧
    calendar.offsetAt (calendar.dayStart monday) < calendar.newYearOffset (yearOf (monday + 3))

instance (calendar : RegionalCalendar) (monday : Int) : Decidable (calendar.LosesWeek monday) :=
  inferInstanceAs (Decidable (_ ∧ _))

theorem weekOfYear_weekOne (offsets : calendar.BoundedOffsets) {year : Int} (quiet : calendar.QuietNewYear year)
    {monday time : Int}
    (lower : 2 ≤ year) (upper : year ≤ 10000) (after : Julian.Y2j year - 3 ≤ monday) (before : monday ≤ Julian.Y2j year)
    (started : dayClock monday - Utc.day ≤ time) (ends : time ≤ dayClock monday + Utc.week + Utc.day) :
    calendar.weekOfYear .first4DayWeek (.ofTicks (calendar.dayStart monday))
      (dateOf (calendar.dayStart monday + calendar.offsetAt time)) = .ok (year, 1) := by
  have historic := Y2j_historic (show -2000 ≤ year by omega)
  have whole := Julian.Y2j_succ (show -4799 ≤ year by omega)
  have wholeBefore := Julian.Y2j_succ (show -4799 ≤ year - 1 by omega)
  have second : Julian.Y2j 2 = 1721791 := by decide
  have yearLower := Julian.Y2j_mono (show (-4799 : Int) ≤ 2 by decide) lower
  rw [Int.sub_add_cancel] at wholeBefore
  have shown : dayOf (calendar.dayStart monday + calendar.offsetAt time) = monday := by
    rcases midnight_day offsets quiet started ends with same | ⟨_, far⟩
    · exact same
    · have away := far
      omega
  have date : dateOf (calendar.dayStart monday + calendar.offsetAt time) = Julian.j2YMD monday := by rw [dateOf, shown]
  rw [date]
  rcases Int.lt_or_eq_of_le before with december | newYear
  · have own : yearOf monday = year - 1 := yearOf_eq (by omega) (by omega) (by rw [Int.sub_add_cancel]; omega)
    have late := (lateDecember_iff (show 1000000 ≤ monday by omega)).mpr (by rw [own, Int.sub_add_cancel]; omega)
    rw [weekOfYear, if_pos late, ← yearOf, own, Int.sub_add_cancel]
    rfl
  · have own : yearOf monday = year := yearOf_eq (by omega) (by omega) (by omega)
    have early := mt (lateDecember_iff (show 1000000 ≤ monday by omega)).mp (by rw [own]; omega)
    have first := (newYearsDay_iff (show 1000000 ≤ monday by omega)).mpr (by rw [own, newYear])
    rw [weekOfYear, if_neg early, if_pos first, ← yearOf, own]
    rfl

theorem readWeekOne_iff {year julDate : Int} (lower : 2 ≤ year) (after : Julian.Y2j year - 8 ≤ julDate)
    (before : julDate ≤ Julian.Y2j year) :
    ((Julian.j2YMD julDate).month = 12 ∧ (Julian.j2YMD julDate).day ≥ 29 ∨
      (Julian.j2YMD julDate).month = 1 ∧ (Julian.j2YMD julDate).day = 1) ↔ Julian.Y2j year ≤ julDate + 3 := by
  have second : Julian.Y2j 2 = 1721791 := by decide
  have yearLower := Julian.Y2j_mono (show (-4799 : Int) ≤ 2 by decide) lower
  have whole := Julian.Y2j_succ (show -4799 ≤ year by omega)
  have wholeBefore := Julian.Y2j_succ (show -4799 ≤ year - 1 by omega)
  rw [Int.sub_add_cancel] at wholeBefore
  rw [lateDecember_iff (by omega), newYearsDay_iff (by omega)]
  rcases Int.lt_or_eq_of_le before with december | newYear
  · have own : yearOf julDate = year - 1 := yearOf_eq (by omega) (by omega) (by rw [Int.sub_add_cancel]; omega)
    rw [own, Int.sub_add_cancel]
    omega
  · have own : yearOf julDate = year := yearOf_eq (by omega) (by omega) (by omega)
    rw [own]
    omega

theorem weekOfYear_later (offsets : calendar.BoundedOffsets) {year : Int} (quiet : calendar.QuietNewYear year)
    {monday time : Int}
    (lower : 2 ≤ year) (upper : year ≤ 9999) (isMonday : monday % 7 = 0) (after : Julian.Y2j year < monday)
    (before : monday < Julian.Y2j (year + 1) - 3) (started : dayClock monday - Utc.day ≤ time)
    (ends : time ≤ dayClock monday + Utc.week + Utc.day) :
    calendar.weekOfYear .first4DayWeek (.ofTicks (calendar.dayStart monday))
      (dateOf (calendar.dayStart monday + calendar.offsetAt time)) =
        .ok (year, 1 + (monday - weekOne year) / 7 - if Julian.Y2j year % 7 = 3 ∧
          calendar.offsetAt (calendar.dayStart monday) < calendar.newYearOffset year then 1 else 0) := by
  have hour : Utc.hour = 36000000000 := rfl
  have day : Utc.day = 864000000000 := rfl
  have week : Utc.week = 6048000000000 := rfl
  have historic := Y2j_historic (show -2000 ≤ year by omega)
  have whole := Julian.Y2j_succ (show -4799 ≤ year by omega)
  have wholeBefore := Julian.Y2j_succ (show -4799 ≤ year - 1 by omega)
  rw [Int.sub_add_cancel] at wholeBefore
  have second : Julian.Y2j 2 = 1721791 := by decide
  have last : Julian.Y2j 10000 = 5373485 := by decide
  have yearLower := Julian.Y2j_mono (show (-4799 : Int) ≤ 2 by decide) lower
  have yearUpper := Julian.Y2j_mono (show -4799 ≤ year + 1 by omega) (show year + 1 ≤ 10000 by omega)
  obtain ⟨julDate, julDateEq⟩ :
      ∃ julDate, julDate = dayOf (calendar.dayStart monday + calendar.offsetAt time) := ⟨_, rfl⟩
  have inYear : Julian.Y2j year < julDate ∧ julDate < Julian.Y2j (year + 1) - 3 := by
    have shown := midnight_day offsets quiet started ends
    rw [← julDateEq] at shown
    rcases shown with same | ⟨earlier, far⟩
    · omega
    · have away := far
      omega
  have own : yearOf julDate = year := yearOf_eq (by omega) (by omega) (by omega)
  have early := mt (lateDecember_iff (show 1000000 ≤ julDate by omega)).mp (by rw [own]; omega)
  have notFirst := mt (newYearsDay_iff (show 1000000 ≤ julDate by omega)).mp (by rw [own]; omega)
  obtain ⟨newYear, start, trimmedYear, trimmedWeek, ordinary, ticks⟩ :=
    newYearMonday_date offsets quiet lower upper after before
  have newYearClock := dayClock_eq (mondayOf (Julian.Y2j year))
  have mondayClock := dayClock_eq monday
  have mondayEq : mondayOf (Julian.Y2j year) = Julian.Y2j year - Julian.Y2j year % 7 := rfl
  have weekOneEq : weekOne year = Julian.Y2j year + 3 - (Julian.Y2j year + 3) % 7 := rfl
  obtain ⟨tweek, tweekEq⟩ : ∃ tweek, tweek = calendar.dayStart monday := ⟨_, rfl⟩
  have tweekBounds := offsets.bounded.readBack_bounds (dayClock monday)
  have guess : tweek = dayClock monday - calendar.offsetAt (dayClock monday - calendar.offsetAt (dayClock monday)) :=
    tweekEq
  have guessSpread := offsets.bounded.spread (dayClock monday - calendar.offsetAt (dayClock monday))
    (dayClock (Julian.Y2j year))
  have guessSpread' := offsets.bounded.spread (dayClock (Julian.Y2j year))
    (dayClock monday - calendar.offsetAt (dayClock monday))
  rw [← newYearOffset] at guessSpread guessSpread'
  rw [← dayStart, ← tweekEq] at tweekBounds
  have newYearBounds : -16 * Utc.hour ≤ calendar.newYearOffset year ∧ calendar.newYearOffset year ≤ 16 * Utc.hour :=
    offsets.within _
  have ownBounds := offsets.within tweek
  have spread : calendar.offsetAt tweek - calendar.newYearOffset year ≤ 16 * Utc.hour :=
    offsets.bounded.spread tweek (dayClock (Julian.Y2j year))
  have spreadBack : calendar.newYearOffset year - calendar.offsetAt tweek ≤ 16 * Utc.hour :=
    offsets.bounded.spread (dayClock (Julian.Y2j year)) tweek
  have tweekTicks : (UtcTime.ofTicks tweek).ticks = tweek := UtcTime.ofTicks_ticks (by omega) (by omega)
  have localTicks : (UtcTime.ofTicks (start.ticks + calendar.offsetAt tweek)).ticks =
      start.ticks + calendar.offsetAt tweek := UtcTime.ofTicks_ticks (by omega) (by omega)
  have readDay : Julian.ticks2j (start.ticks + calendar.offsetAt tweek) = mondayOf (Julian.Y2j year) -
      if calendar.offsetAt tweek < calendar.newYearOffset year then 1 else 0 := by
    rw [ticks2j_eq (by omega) (by omega), ticks, dayOf_eq]
    split <;> omega
  rw [dateOf, ← julDateEq, ← tweekEq]
  rw [← tweekEq] at trimmedYear
  simp only [weekOfYear, early, notFirst, if_false, trimmedYear, trimmedWeek, ok_bind, diffUtc_eq, tweekTicks,
    ordinary.add_eq, localTicks, readDay]
  have readsWeekOne := readWeekOne_iff lower (show Julian.Y2j year - 8 ≤ mondayOf (Julian.Y2j year) -
    (if calendar.offsetAt tweek < calendar.newYearOffset year then 1 else 0) by split <;> omega) (by split <;> omega)
  rw [← yearOf, own]
  by_cases counted : Julian.Y2j year ≤ mondayOf (Julian.Y2j year) -
      (if calendar.offsetAt tweek < calendar.newYearOffset year then 1 else 0) + 3
  · have number : weekNumber (.ofTicks tweek) start = 1 + (monday - mondayOf (Julian.Y2j year)) / 7 :=
      weekNumber_eq (by omega) (by omega) (by rw [tweekTicks, ticks, week]; omega)
        (by rw [tweekTicks, ticks, week]; omega)
    have same : 1 + (monday - mondayOf (Julian.Y2j year)) / 7 = 1 + (monday - weekOne year) / 7 -
        if Julian.Y2j year % 7 = 3 ∧ calendar.offsetAt tweek < calendar.newYearOffset year then 1 else 0 := by
      split <;> split at counted <;> omega
    rw [if_pos (readsWeekOne.mpr counted), pure_eq_ok, ok_bind, number, same]
    rfl
  · have number : weekNumber (.ofTicks tweek) (.ofTicks (start.ticks + Utc.week)) =
        1 + ((monday - mondayOf (Julian.Y2j year)) / 7 - 1) := by
      have nextTicks : (UtcTime.ofTicks (start.ticks + Utc.week)).ticks = start.ticks + Utc.week :=
        UtcTime.ofTicks_ticks (by omega) (by omega)
      exact weekNumber_eq (by omega) (by omega) (by rw [tweekTicks, nextTicks, ticks, week]; omega)
        (by rw [tweekTicks, nextTicks, ticks, week]; omega)
    have same : 1 + ((monday - mondayOf (Julian.Y2j year)) / 7 - 1) = 1 + (monday - weekOne year) / 7 -
        if Julian.Y2j year % 7 = 3 ∧ calendar.offsetAt tweek < calendar.newYearOffset year then 1 else 0 := by
      split <;> split at counted <;> omega
    rw [if_neg (mt readsWeekOne.mp counted), number, same]
    rfl

def foundWeek (calendar : RegionalCalendar) (monday : Int) : Int × Int :=
  ((isoWeekOf monday).1, (isoWeekOf monday).2 - if calendar.LosesWeek monday then 1 else 0)

theorem isoWeekOf_mondayOf (julDate : Int) : isoWeekOf (mondayOf julDate) = isoWeekOf julDate := by
  have same : mondayOf (mondayOf julDate) = mondayOf julDate := by
    unfold mondayOf
    omega
  rw [isoWeekOf, same]
  rfl

theorem weekOfYear_first4Day (offsets : calendar.BoundedOffsets) {monday time : Int}
    (quiet : calendar.QuietNewYear (yearOf (monday + 3)))
    (isMonday : monday % 7 = 0) (lower : Julian.Y2j 2 ≤ monday + 3) (upper : monday < Julian.Y2j 10000)
    (started : dayClock monday - Utc.day ≤ time) (ends : time ≤ dayClock monday + Utc.week + Utc.day) :
    calendar.weekOfYear .first4DayWeek (.ofTicks (calendar.dayStart monday))
      (dateOf (calendar.dayStart monday + calendar.offsetAt time)) = .ok (calendar.foundWeek monday) := by
  have second : Julian.Y2j 2 = 1721791 := by decide
  have last : Julian.Y2j 10000 = 5373485 := by decide
  obtain ⟨known, yearStarted, yearEnds⟩ := yearOf_bounds (show 0 ≤ monday + 3 by omega)
  obtain ⟨year, yearEq⟩ : ∃ year, year = yearOf (monday + 3) := ⟨_, rfl⟩
  rw [← yearEq] at quiet known yearStarted yearEnds
  have notEarly : 2 ≤ year := Int.le_of_lt_add_one (Julian.lt_of_Y2j_lt (by omega) (by omega))
  have notLate : year ≤ 10000 := by
    have order := Julian.Y2j_succ (show (-4799 : Int) ≤ 10000 by decide)
    exact Int.le_of_lt_add_one (Julian.lt_of_Y2j_lt (by decide) (by omega))
  have own := weekOne_bounds year
  have next := weekOne_bounds (year + 1)
  have iso := isoWeekOf_eq (show -2000 ≤ year by omega) (show weekOne year ≤ monday by omega) (by omega)
  have loses : calendar.LosesWeek monday ↔ weekOne year < monday ∧ Julian.Y2j year % 7 = 3 ∧
      calendar.offsetAt (calendar.dayStart monday) < calendar.newYearOffset year := by rw [LosesWeek, ← yearEq]
  rw [foundWeek, iso]
  rcases le_or_gt monday (Julian.Y2j year) with first | later
  · rw [weekOfYear_weekOne offsets quiet notEarly notLate (by omega) first started ends, if_neg (by rw [loses]; omega),
      show 1 + (monday - weekOne year) / 7 - 0 = 1 by omega]
  · have beforeLast : year < 10000 := Julian.lt_of_Y2j_lt (by decide) (by omega)
    have middle : year ≤ 9999 := by omega
    have counts : calendar.LosesWeek monday ↔ Julian.Y2j year % 7 = 3 ∧
        calendar.offsetAt (calendar.dayStart monday) < calendar.newYearOffset year := by
      rw [loses]
      omega
    rw [weekOfYear_later offsets quiet notEarly middle isMonday later (by omega) started ends]
    simp only [counts]

theorem FromSecondYear.monday {t : UtcTime} (years : calendar.FromSecondYear t) :
    Julian.Y2j 2 ≤ mondayOf (dayOf (calendar.localClock t)) + 3 ∧
      mondayOf (dayOf (calendar.localClock t)) < Julian.Y2j 10000 ∧
      mondayOf (dayOf (calendar.localClock t)) % 7 = 0 := by
  obtain ⟨lower, upper⟩ := years
  have second : Julian.Y2j 2 = 1721791 := by decide
  rw [dayClock_le_iff] at lower
  rw [← not_le, dayClock_le_iff] at upper
  unfold mondayOf
  omega

theorem asYWDhms_ticks_first4Day (offsets : calendar.BoundedOffsets) {t : UtcTime}
    (quiet : calendar.QuietNewYear (isoWeekOf (dayOf (calendar.localClock t))).1) (years : calendar.FromSecondYear t) :
    calendar.asYWDhms_ticks .first4DayWeek t = .ok (weekUnits (calendar.localClock t)
      (calendar.foundWeek (mondayOf (dayOf (calendar.localClock t))))) := by
  have hour : Utc.hour = 36000000000 := rfl
  have day : Utc.day = 864000000000 := rfl
  have week : Utc.week = 6048000000000 := rfl
  obtain ⟨lower, upper, isMonday⟩ := years.monday
  have bounds := offsets.within t.ticks
  have near : dayClock (mondayOf (dayOf (calendar.localClock t))) ≤ calendar.localClock t ∧
      calendar.localClock t < dayClock (mondayOf (dayOf (calendar.localClock t))) + Utc.week := by
    rw [mondayOf, dayClock_eq, dayOf_eq]
    omega
  have own : calendar.localClock t = t.ticks + calendar.offsetAt t.ticks := rfl
  rw [asYWDhms_ticks_eq offsets .first4DayWeek years,
    weekOfYear_first4Day offsets quiet isMonday lower upper (by omega) (by omega)]
  rfl

theorem asYW_first4Day (offsets : calendar.BoundedOffsets) {t : UtcTime}
    (quiet : calendar.QuietNewYear (isoWeekOf (dayOf (calendar.localClock t))).1) (years : calendar.FromSecondYear t) :
    calendar.asYW .first4DayWeek t = .ok (calendar.foundWeek (mondayOf (dayOf (calendar.localClock t)))) := by
  rw [asYW, asYWDhms_ticks_first4Day offsets quiet years]
  rfl

end WeekOne

section Back

def ShowsMidnight (calendar : RegionalCalendar) (julDate : Int) : Prop :=
  calendar.dayStart julDate + calendar.offsetAt (calendar.dayStart julDate) = dayClock julDate

def februaryMonday (calendar : RegionalCalendar) (year : Int) : Int :=
  mondayOf (dayOf (calendar.dayStart (Julian.Y2j year + 31) +
    calendar.offsetAt (calendar.dayStart (Julian.Y2j year + 31))))

structure FindsMidnight (calendar : RegionalCalendar) (julDate : Int) : Prop where
  startShown : calendar.ShowsMidnight (calendar.februaryMonday (isoWeekOf julDate).1)
  startFound : ¬ calendar.LosesWeek (calendar.februaryMonday (isoWeekOf julDate).1)
  mondayShown : calendar.ShowsMidnight (mondayOf julDate)
  mondayProbes : calendar.ProbesAgree (calendar.dayStart (calendar.februaryMonday (isoWeekOf julDate).1))
    (mondayOf julDate - calendar.februaryMonday (isoWeekOf julDate).1) (calendar.dayStart (mondayOf julDate))
  shown : calendar.ShowsMidnight julDate
  probes : calendar.ProbesAgree (calendar.dayStart (mondayOf julDate)) (julDate - mondayOf julDate)
    (calendar.dayStart julDate)

def RestoresFields (calendar : RegionalCalendar) (t : UtcTime) : Prop :=
  ∃ units fields back, calendar.asYWDhms_ticks .first4DayWeek t = .ok units ∧
    calendar.asYMDhms_tick t = .ok fields ∧
    calendar.toUtcTimeW .first4DayWeek units.Yw units.Wn units.Dw units.hour units.minute units.second = .ok back ∧
    calendar.asYMDhms_tick back = .ok { fields with fraction := 0 }

theorem midnight_bounds (offsets : calendar.BoundedOffsets) (julDate : Int) :
    dayClock julDate - 16 * Utc.hour ≤ calendar.dayStart julDate ∧
      calendar.dayStart julDate ≤ dayClock julDate + 16 * Utc.hour :=
  offsets.bounded.readBack_bounds (dayClock julDate)

theorem add_midnight (offsets : calendar.BoundedOffsets) {julDate later step count : Int}
    (shown : calendar.ShowsMidnight julDate) (laterShown : calendar.ShowsMidnight later)
    (probes : calendar.ProbesAgree (calendar.dayStart julDate) (later - julDate) (calendar.dayStart later))
    (unit : step = Utc.week ∨ step = Utc.day) (span : count * step = (later - julDate) * Utc.day)
    (lower : Julian.referenceDay + 10 ≤ julDate) (upper : julDate ≤ 5400000)
    (laterLower : Julian.referenceDay + 10 ≤ later) (laterUpper : later ≤ 5400000) :
    calendar.add (.ofTicks (calendar.dayStart julDate)) step count = .ok (.ofTicks (calendar.dayStart later)) := by
  have hour : Utc.hour = 36000000000 := rfl
  have day : Utc.day = 864000000000 := rfl
  have referenceDay : Julian.referenceDay = 1721426 := rfl
  have start := dayClock_eq julDate
  have laterStart := dayClock_eq later
  have bounds := midnight_bounds offsets julDate
  have laterBounds := midnight_bounds offsets later
  have ticks : (UtcTime.ofTicks (calendar.dayStart julDate)).ticks = calendar.dayStart julDate :=
    UtcTime.ofTicks_ticks (by omega) (by omega)
  have days : (later - julDate) * Utc.day = (later - julDate) * 864000000000 := rfl
  have added := @add_span calendar (.ofTicks (calendar.dayStart julDate)) (by omega) (by omega) step count unit
    (by rw [span]; omega) (by rw [span]; omega)
  have forward : 0 < (later - julDate) * Utc.day ↔ 0 < later - julDate := by
    rw [day]
    omega
  simp only [span, ticks, forward] at added
  rw [added]
  congr 2
  unfold ShowsMidnight at shown laterShown
  unfold ProbesAgree at probes
  split
  · rename_i positive
    rw [if_pos positive] at probes
    omega
  · rename_i notPositive
    rw [if_neg notPositive] at probes
    omega

theorem add_elapsed {t : UtcTime} (lower : 0 < t.ticks) (upper : t.ticks < 2 ^ 62) {step count : Int}
    (short : step ≠ Utc.year ∧ step ≠ Utc.month ∧ step ≠ Utc.week ∧ step ≠ Utc.day)
    (spanLower : 0 ≤ count * step) (spanUpper : count * step ≤ Utc.day) :
    calendar.add t step count = .ok (.ofTicks (t.ticks + count * step)) := by
  have day : Utc.day = 864000000000 := rfl
  have least : Utc.minValue = -9223372036854775807 := rfl
  have greatest : Utc.maxValue = 9223372036854775807 := rfl
  have ordinary : t.Ordinary := UtcTime.ordinary_iff.mpr ⟨by omega, by omega, by omega⟩
  have noWrap : long (count * step) = count * step := long_eq (by omega) (by omega)
  obtain ⟨notYear, notMonth, notWeek, notDay⟩ := short
  simp only [add, notYear, notMonth, notWeek, notDay, or_self, if_false, noWrap, ordinary.add_eq]

theorem februaryMonday_bounds (offsets : calendar.BoundedOffsets) (year : Int) :
    Julian.Y2j year + 23 ≤ calendar.februaryMonday year ∧ calendar.februaryMonday year ≤ Julian.Y2j year + 32 ∧
      calendar.februaryMonday year % 7 = 0 := by
  have hour : Utc.hour = 36000000000 := rfl
  have february := dayClock_eq (Julian.Y2j year + 31)
  have bounds := offsets.within (calendar.dayStart (Julian.Y2j year + 31))
  have found := midnight_bounds offsets (Julian.Y2j year + 31)
  rw [februaryMonday, mondayOf, dayOf_eq]
  omega

theorem trimFebruary (offsets : calendar.BoundedOffsets) {year : Int} (lower : 2 ≤ year) (upper : year ≤ 9999) :
    ∃ february, calendar.toUtcTime ⟨⟨year, 2, 1⟩, 0, 0, 0, 0⟩ = .ok february ∧
      calendar.trimWeek february = .ok (.ofTicks (calendar.dayStart (calendar.februaryMonday year))) := by
  have hour : Utc.hour = 36000000000 := rfl
  have day : Utc.day = 864000000000 := rfl
  have second : Julian.Y2j 2 = 1721791 := by decide
  have last : Julian.Y2j 9999 = 5373120 := by decide
  have yearLower := Julian.Y2j_mono (show (-4799 : Int) ≤ 2 by decide) lower
  have yearUpper := Julian.Y2j_mono (show -4799 ≤ year by omega) upper
  have number : Julian.YMD2j ⟨year, 2, 1⟩ = _ := Julian.YMD2j_early (show (1 : Int) ≤ 2 by decide) (Int.le_refl 2)
  have february : Julian.YMD2j ⟨year, 2, 1⟩ = Julian.Y2j year + 31 := by
    rw [number]
    dsimp only
    omega
  have clock := dayClock_eq (Julian.Y2j year + 31)
  have bounds := midnight_bounds offsets (Julian.Y2j year + 31)
  have noWrap : Julian.j2ticks (Julian.Y2j year + 31) = dayClock (Julian.Y2j year + 31) := by
    rw [Julian.j2ticks, ← dayClock, long_eq (by omega) (by omega)]
  have found : calendar.toUtcTime ⟨⟨year, 2, 1⟩, 0, 0, 0, 0⟩ = .ok (.ofTicks (calendar.dayStart (Julian.Y2j year + 31))) := by
    rw [toUtcTime, february, noWrap]
    simp only [Int.zero_mul, Int.add_zero, Int.zero_tdiv]
    exact adjustToTz_readBack offsets (by omega) (by omega)
  have ticks : (UtcTime.ofTicks (calendar.dayStart (Julian.Y2j year + 31))).ticks =
      calendar.dayStart (Julian.Y2j year + 31) := UtcTime.ofTicks_ticks (by omega) (by omega)
  have trimmed := trimWeek_eq offsets
    (show 10 * Utc.day ≤ (UtcTime.ofTicks (calendar.dayStart (Julian.Y2j year + 31))).ticks by omega) (by omega)
  rw [localClock, ticks, ← februaryMonday] at trimmed
  exact ⟨_, found, trimmed⟩

theorem isoYear_bounds {julDate : Int} (lower : Julian.Y2j 2 ≤ julDate) (upper : julDate < Julian.Y2j 9999) :
    2 ≤ (isoWeekOf julDate).1 ∧ (isoWeekOf julDate).1 ≤ 9999 ∧ weekOne (isoWeekOf julDate).1 ≤ mondayOf julDate ∧
      mondayOf julDate < weekOne ((isoWeekOf julDate).1 + 1) ∧
      (isoWeekOf julDate).2 = 1 + (mondayOf julDate - weekOne (isoWeekOf julDate).1) / 7 := by
  have second : Julian.Y2j 2 = 1721791 := by decide
  have last : Julian.Y2j 9999 = 5373120 := by decide
  have monday : mondayOf julDate = julDate - julDate % 7 := rfl
  obtain ⟨known, started, ends⟩ := yearOf_bounds (show 0 ≤ mondayOf julDate + 3 by omega)
  obtain ⟨year, yearEq⟩ : ∃ year, year = yearOf (mondayOf julDate + 3) := ⟨_, rfl⟩
  rw [← yearEq] at known started ends
  have first := weekOne_bounds year
  have next := weekOne_bounds (year + 1)
  have notEarly : 2 ≤ year := Int.le_of_lt_add_one (Julian.lt_of_Y2j_lt (by omega) (by omega))
  have notLate : year ≤ 9999 := by
    have order := Julian.Y2j_succ (show (-4799 : Int) ≤ 9999 by decide)
    exact Int.le_of_lt_add_one (Julian.lt_of_Y2j_lt (by decide) (by omega))
  rw [← isoWeekOf_mondayOf, isoWeekOf_eq (show -2000 ≤ year by omega) (show weekOne year ≤ mondayOf julDate by omega)
    (by omega)]
  exact ⟨notEarly, notLate, by dsimp only; omega, by dsimp only; omega, rfl⟩

theorem toUtcTimeW_eq (offsets : calendar.BoundedOffsets) {julDate h m s : Int}
    (quiet : calendar.QuietNewYear (isoWeekOf julDate).1)
    (lower : Julian.Y2j 2 ≤ julDate) (upper : julDate < Julian.Y2j 9999) (finds : calendar.FindsMidnight julDate)
    (hours : 0 ≤ h ∧ h ≤ 23) (minutes : 0 ≤ m ∧ m ≤ 59) (seconds : 0 ≤ s ∧ s ≤ 59) :
    calendar.toUtcTimeW .first4DayWeek (isoWeekOf julDate).1 (isoWeekOf julDate).2 (weekDayOf julDate) h m s =
      .ok (.ofTicks (calendar.dayStart julDate + h * Utc.hour + m * Utc.minute + s * Utc.second)) := by
  obtain ⟨startShown, startFound, mondayShown, mondayProbes, shown, probes⟩ := finds
  obtain ⟨yearLower, yearUpper, started, ends, number⟩ := isoYear_bounds lower upper
  obtain ⟨year, yearEq⟩ : ∃ year, year = (isoWeekOf julDate).1 := ⟨_, rfl⟩
  rw [← yearEq] at quiet startShown startFound mondayProbes yearLower yearUpper started ends number ⊢
  have hour : Utc.hour = 36000000000 := rfl
  have day : Utc.day = 864000000000 := rfl
  have week : Utc.week = 6048000000000 := rfl
  have minute : Utc.minute = 600000000 := rfl
  have second : Utc.second = 10000000 := rfl
  have firstYear : Julian.Y2j 2 = 1721791 := by decide
  have lastYear : Julian.Y2j 10000 = 5373485 := by decide
  have referenceDay : Julian.referenceDay = 1721426 := rfl
  have yearAfter := Julian.Y2j_mono (show (-4799 : Int) ≤ 2 by decide) yearLower
  have yearBefore := Julian.Y2j_mono (show -4799 ≤ year + 1 by omega) (show year + 1 ≤ 10000 by omega)
  have whole := Julian.Y2j_succ (show -4799 ≤ year by omega)
  have own := weekOne_bounds year
  have next := weekOne_bounds (year + 1)
  have mondayEq : mondayOf julDate = julDate - julDate % 7 := rfl
  obtain ⟨startLower, startUpper, startMonday⟩ := februaryMonday_bounds offsets year
  obtain ⟨start, startEq⟩ : ∃ start, start = calendar.februaryMonday year := ⟨_, rfl⟩
  rw [← startEq] at startShown startFound mondayProbes startLower startUpper startMonday
  have startClock := dayClock_eq start
  have startBounds := midnight_bounds offsets start
  have ticks : (UtcTime.ofTicks (calendar.dayStart start)).ticks = calendar.dayStart start :=
    UtcTime.ofTicks_ticks (by omega) (by omega)
  have startLocal : calendar.localClock (.ofTicks (calendar.dayStart start)) = dayClock start := by
    rw [localClock, ticks]
    exact startShown
  have years : calendar.FromSecondYear (.ofTicks (calendar.dayStart start)) := by
    have lastClock : dayClock (Julian.Y2j 10000) = 3155378976000000000 := by decide
    have firstClock : dayClock (Julian.Y2j 2) = 315360000000000 := by decide
    constructor
    · rw [startLocal]
      omega
    · rw [startLocal]
      omega
  have startMondayOf : mondayOf start = start := by
    unfold mondayOf
    omega
  have iso := isoWeekOf_eq (show -2000 ≤ year by omega) (show weekOne year ≤ start by omega) (by omega)
  have startQuiet : calendar.QuietNewYear
      (isoWeekOf (dayOf (calendar.localClock (.ofTicks (calendar.dayStart start))))).1 := by
    rw [startLocal, dayOf_dayClock, iso]
    exact quiet
  have startWeek := asYW_first4Day offsets startQuiet years
  rw [startLocal, dayOf_dayClock, startMondayOf, foundWeek, if_neg startFound, iso] at startWeek
  obtain ⟨february, found, trimmed⟩ := trimFebruary offsets yearLower yearUpper
  rw [← startEq] at trimmed
  have weeks := add_midnight offsets startShown mondayShown mondayProbes (Or.inl rfl)
    (show ((isoWeekOf julDate).2 - (1 + (start - weekOne year) / 7)) * Utc.week = (mondayOf julDate - start) * Utc.day by
      rw [number, week, day]; omega) (by omega) (by omega) (by omega) (by omega)
  have days := add_midnight offsets mondayShown shown probes (Or.inr rfl)
    (show (if weekDayOf julDate = 0 then 6 else weekDayOf julDate - 1) * Utc.day = (julDate - mondayOf julDate) * Utc.day by
      rw [weekDayOf, day]; split <;> omega) (by omega) (by omega) (by omega) (by omega)
  have dayStarts := dayClock_eq julDate
  have dayBounds := midnight_bounds offsets julDate
  have hourSpan : h * Utc.hour = h * 36000000000 := rfl
  have minuteSpan : m * Utc.minute = m * 600000000 := rfl
  have secondSpan : s * Utc.second = s * 10000000 := rfl
  have midnightTicks : (UtcTime.ofTicks (calendar.dayStart julDate)).ticks = calendar.dayStart julDate :=
    UtcTime.ofTicks_ticks (by omega) (by omega)
  have hourTicks : (UtcTime.ofTicks (calendar.dayStart julDate + h * Utc.hour)).ticks =
      calendar.dayStart julDate + h * Utc.hour := UtcTime.ofTicks_ticks (by omega) (by omega)
  have minuteTicks : (UtcTime.ofTicks (calendar.dayStart julDate + h * Utc.hour + m * Utc.minute)).ticks =
      calendar.dayStart julDate + h * Utc.hour + m * Utc.minute := UtcTime.ofTicks_ticks (by omega) (by omega)
  have hoursAdded := @add_elapsed calendar (.ofTicks (calendar.dayStart julDate)) (by omega) (by omega) Utc.hour h
    (by decide) (by omega) (by omega)
  have minutesAdded := @add_elapsed calendar (.ofTicks (calendar.dayStart julDate + h * Utc.hour)) (by omega) (by omega)
    Utc.minute m (by decide) (by omega) (by omega)
  have secondsAdded := @add_elapsed calendar (.ofTicks (calendar.dayStart julDate + h * Utc.hour + m * Utc.minute))
    (by omega) (by omega) Utc.second s (by decide) (by omega) (by omega)
  rw [midnightTicks] at hoursAdded
  rw [hourTicks] at minutesAdded
  rw [minuteTicks] at secondsAdded
  simp only [toUtcTimeW, found, trimmed, startWeek, ok_bind, Int.sub_zero, weeks, addDays, days, addHours, hoursAdded,
    addMinutes, minutesAdded, addSeconds, secondsAdded]

def secondOfDay (clock : Int) : Int := clock % Utc.day - clock % Utc.second

theorem tickUnits_whole (clock : Int) :
    { tickUnits clock with fraction := 0 } = tickUnits (clock - clock % Utc.second) := by
  have day : Utc.day = 864000000000 := rfl
  have hour : Utc.hour = 36000000000 := rfl
  have minute : Utc.minute = 600000000 := rfl
  have second : Utc.second = 10000000 := rfl
  have sameDay : dayOf (clock - clock % Utc.second) = dayOf clock := by
    rw [dayOf_eq, dayOf_eq, second]
    omega
  unfold tickUnits
  rw [dateOf, dateOf, sameDay, day, hour, minute, second]
  apply CalendarUnits.ext
  · rfl
  all_goals
    dsimp only
    omega

theorem tickUnits_injective {clock other : Int} (lower : 0 ≤ clock) (otherLower : 0 ≤ other) :
    tickUnits clock = tickUnits other ↔ clock = other := by
  constructor
  · intro same
    have counted := @tickUnits_daysLater_iff other clock (le_trans (by decide) otherLower) (le_trans (by decide) lower) 0
    rw [same] at counted
    have equal := counted.mp ⟨(Int.add_zero _).symm, rfl, rfl, rfl, rfl⟩
    omega
  · rintro rfl
    rfl

theorem restoresFields_iff (offsets : calendar.BoundedOffsets) {t : UtcTime}
    (quiet : calendar.QuietNewYear (isoWeekOf (dayOf (calendar.localClock t))).1)
    (years : calendar.FromSecondYear t) (upper : calendar.localClock t < dayClock (Julian.Y2j 9999))
    (kept : ¬ calendar.LosesWeek (mondayOf (dayOf (calendar.localClock t))))
    (finds : calendar.FindsMidnight (dayOf (calendar.localClock t))) :
    calendar.RestoresFields t ↔
      calendar.offsetAt (calendar.dayStart (dayOf (calendar.localClock t)) + secondOfDay (calendar.localClock t)) =
        calendar.offsetAt (calendar.dayStart (dayOf (calendar.localClock t))) := by
  have units := asYWDhms_ticks_first4Day offsets quiet years
  obtain ⟨ordinary, ticksLower, ticksUpper⟩ := years.ordinary offsets
  have firstClock : dayClock (Julian.Y2j 2) = 315360000000000 := by decide
  have lastClock : dayClock (Julian.Y2j 9999) = 3155063616000000000 := by decide
  have lower := years.lower
  have dayLower := (dayClock_le_iff _ _).mp lower
  have dayUpper := mt (dayClock_le_iff _ _).mpr (not_le.mpr upper)
  have shown := finds.shown
  have year : Utc.year = 315360000000000 := rfl
  have least : Utc.minValue = -9223372036854775807 := rfl
  have greatest : Utc.maxValue = 9223372036854775807 := rfl
  have day : Utc.day = 864000000000 := rfl
  have hour : Utc.hour = 36000000000 := rfl
  have minute : Utc.minute = 600000000 := rfl
  have second : Utc.second = 10000000 := rfl
  have fields := asYMDhms_tick_eq ordinary
    (show -Utc.year ≤ t.ticks + calendar.offsetAt t.ticks by unfold localClock at lower; omega)
    (by unfold localClock at upper; omega)
  rw [← localClock] at fields
  rw [foundWeek, if_neg kept, isoWeekOf_mondayOf, Int.sub_zero] at units
  obtain ⟨clock, clockEq⟩ : ∃ clock, clock = calendar.localClock t := ⟨_, rfl⟩
  rw [← clockEq] at quiet units fields lower upper dayLower dayUpper shown finds ⊢
  have back := @toUtcTimeW_eq calendar offsets (dayOf clock) (tickUnits clock).hour (tickUnits clock).minute
    (tickUnits clock).second quiet dayLower (not_le.mp dayUpper) finds
    (by unfold tickUnits; dsimp only; rw [day, hour]; omega) (by unfold tickUnits; dsimp only; rw [hour, minute]; omega)
    (by unfold tickUnits; dsimp only; rw [minute, second]; omega)
  have elapsed : (tickUnits clock).hour * Utc.hour + (tickUnits clock).minute * Utc.minute +
      (tickUnits clock).second * Utc.second = secondOfDay clock := by
    unfold tickUnits secondOfDay
    dsimp only
    rw [day, hour, minute, second]
    omega
  obtain ⟨start, startEq⟩ : ∃ start, start = calendar.dayStart (dayOf clock) := ⟨_, rfl⟩
  have sum : start + (tickUnits clock).hour * Utc.hour + (tickUnits clock).minute * Utc.minute +
      (tickUnits clock).second * Utc.second = start + secondOfDay clock := by omega
  unfold ShowsMidnight at shown
  rw [← startEq, sum] at back
  rw [← startEq] at shown ⊢
  have dayStarts := dayClock_eq (dayOf clock)
  have dayOfEq := dayOf_eq clock
  have startBounds := midnight_bounds offsets (dayOf clock)
  rw [← startEq] at startBounds
  have secondEq : secondOfDay clock = clock % 864000000000 - clock % 10000000 := rfl
  have ticks : (UtcTime.ofTicks (start + secondOfDay clock)).ticks = start + secondOfDay clock :=
    UtcTime.ofTicks_ticks (by omega) (by omega)
  have backBounds := offsets.within (start + secondOfDay clock)
  have backOrdinary : (UtcTime.ofTicks (start + secondOfDay clock)).Ordinary :=
    UtcTime.ordinary_iff.mpr ⟨by omega, by omega, by omega⟩
  have backFields := asYMDhms_tick_eq backOrdinary
    (show -Utc.year ≤ (UtcTime.ofTicks (start + secondOfDay clock)).ticks +
      calendar.offsetAt (UtcTime.ofTicks (start + secondOfDay clock)).ticks by rw [ticks]; omega) (by rw [ticks]; omega)
  rw [ticks] at backFields
  have meets : tickUnits (start + secondOfDay clock + calendar.offsetAt (start + secondOfDay clock)) =
      { tickUnits clock with fraction := 0 } ↔ calendar.offsetAt (start + secondOfDay clock) = calendar.offsetAt start := by
    rw [tickUnits_whole, tickUnits_injective (by omega) (by rw [second]; omega), second]
    omega
  rw [← meets]
  constructor
  · rintro ⟨_, _, _, unitsFound, fieldsFound, backFound, backShown⟩
    rw [units] at unitsFound
    rw [fields] at fieldsFound
    cases unitsFound
    cases fieldsFound
    have same := back.symm.trans backFound
    cases same
    exact Except.ok.inj (backFields.symm.trans backShown)
  · intro same
    exact ⟨_, _, _, units, fields, back, backFields.trans (congrArg Except.ok same)⟩

end Back

section Agreement

structure AgreesOnWeek (calendar : RegionalCalendar) (getWeekOfYear : DateTime → Int) (t : UtcTime) : Prop where
  numbers : calendar.asYW .first4DayWeek t = calendar.getWeekNumber .first4DayWeek true getWeekOfYear t
  iso : calendar.getWeekNumber .first4DayWeek true getWeekOfYear t = .ok (isoWeekOf (dayOf (calendar.localClock t)))
  restores : calendar.RestoresFields t

/-- `GetWeekNumber` gives the week of ISO 8601, and `asYW` does so if and only if no week is
lost. Where the additions find the midnight of the day, the fields of the week lead back if
and only if the offset does not change before the time of day. -/
theorem agreesOnWeek_iff (offsets : calendar.BoundedOffsets) {t : UtcTime}
    (quiet : calendar.QuietNewYear (isoWeekOf (dayOf (calendar.localClock t))).1) (years : calendar.FromSecondYear t)
    (upper : calendar.localClock t < dayClock (Julian.Y2j 9999)) (getWeekOfYear : DateTime → Int) :
    calendar.getWeekNumber .first4DayWeek true getWeekOfYear t = .ok (isoWeekOf (dayOf (calendar.localClock t))) ∧
    (calendar.asYW .first4DayWeek t = calendar.getWeekNumber .first4DayWeek true getWeekOfYear t ↔
      ¬ calendar.LosesWeek (mondayOf (dayOf (calendar.localClock t)))) ∧
    (calendar.FindsMidnight (dayOf (calendar.localClock t)) →
      (calendar.AgreesOnWeek getWeekOfYear t ↔ ¬ calendar.LosesWeek (mondayOf (dayOf (calendar.localClock t))) ∧
        calendar.offsetAt (calendar.dayStart (dayOf (calendar.localClock t)) + secondOfDay (calendar.localClock t)) =
          calendar.offsetAt (calendar.dayStart (dayOf (calendar.localClock t))))) := by
  have iso := getWeekNumber_eq offsets years upper getWeekOfYear
  have numbers : calendar.asYW .first4DayWeek t = calendar.getWeekNumber .first4DayWeek true getWeekOfYear t ↔
      ¬ calendar.LosesWeek (mondayOf (dayOf (calendar.localClock t))) := by
    rw [iso, asYW_first4Day offsets quiet years, foundWeek, isoWeekOf_mondayOf, Except.ok.injEq, Prod.ext_iff]
    split
    · rename_i loses
      exact iff_of_false (by dsimp only; omega) (not_not_intro loses)
    · rename_i kept
      exact iff_of_true ⟨rfl, Int.sub_zero _⟩ kept
  refine ⟨iso, numbers, fun finds => ⟨?_, ?_⟩⟩
  · intro agrees
    have kept := numbers.mp agrees.numbers
    exact ⟨kept, (restoresFields_iff offsets quiet years upper kept finds).mp agrees.restores⟩
  · rintro ⟨kept, same⟩
    exact ⟨numbers.mpr kept, iso, (restoresFields_iff offsets quiet years upper kept finds).mpr same⟩

theorem summerOf2000_quiet : (summerOf2000 Utc.hour).QuietNewYear 2000 := by
  have week : Utc.week = 6048000000000 := rfl
  have newYear : dayClock (Julian.Y2j 2000) = 630822816000000000 := by decide
  intro change after before
  rw [offsetAt_summerOf2000 Utc.hour (by omega) (by omega), offsetAt_summerOf2000 Utc.hour (by omega) (by omega),
    if_neg (by omega), if_neg (by omega)]

theorem agreesOnWeek_iff_july :
    (summerOf2000 Utc.hour).AgreesOnWeek (fun _ => 0) (.ofTicks 630989868300000000) := by
  have clock : (summerOf2000 Utc.hour).localClock (.ofTicks 630989868300000000) = 630989940300000000 := by decide
  have day : dayOf 630989940300000000 = 2451738 := by decide
  have monday : mondayOf 2451738 = 2451736 := by decide
  have week : isoWeekOf 2451738 = (2000, 28) := by decide
  have start : (summerOf2000 Utc.hour).februaryMonday 2000 = 2451575 := by decide
  have startMidnight : (summerOf2000 Utc.hour).dayStart 2451575 = 630848700000000000 := by decide
  have mondayMidnight : (summerOf2000 Utc.hour).dayStart 2451736 = 630987768000000000 := by decide
  have midnight : (summerOf2000 Utc.hour).dayStart 2451738 = 630989496000000000 := by decide
  have shows : ∀ julDate, julDate = 2451575 ∨ julDate = 2451736 ∨ julDate = 2451738 →
      (summerOf2000 Utc.hour).ShowsMidnight julDate := by
    unfold ShowsMidnight
    rintro _ (rfl | rfl | rfl)
    · decide
    · decide
    · decide
  have years : (summerOf2000 Utc.hour).FromSecondYear (.ofTicks 630989868300000000) := by
    constructor
    · rw [clock]
      decide
    · rw [clock]
      decide
  have finds : (summerOf2000 Utc.hour).FindsMidnight 2451738 := by
    constructor
    · rw [week, start]
      exact shows _ (Or.inl rfl)
    · rw [week, start]
      decide
    · rw [monday]
      exact shows _ (Or.inr (Or.inl rfl))
    · rw [week, start, monday, startMidnight, mondayMidnight]
      unfold ProbesAgree
      decide
    · exact shows _ (Or.inr (Or.inr rfl))
    · rw [monday, mondayMidnight, midnight]
      unfold ProbesAgree
      decide
  have agrees := @agreesOnWeek_iff (summerOf2000 Utc.hour) summerOf2000_offsets.toBoundedOffsets (.ofTicks 630989868300000000)
  rw [clock, day, week, monday, midnight] at agrees
  exact ((agrees summerOf2000_quiet years (by decide) (fun _ => 0)).2.2 finds).mpr ⟨by decide, by decide⟩

def southernSummers (utcOffset : Int) : RegionalCalendar where
  utcOffset := utcOffset
  dst := true
  daylightStart y :=
    if y.val = 103 then .ofTicks 632026944000000000
    else if y.val = 104 then .ofTicks 632347488000000000
    else if y.val = 105 then .ofTicks 632401344000000000
    else UtcTime.null
  daylightEnd y :=
    if y.val = 103 ∨ y.val = 104 then .ofTicks 632160000000000000
    else if y.val = 105 then .ofTicks 632474496000000000
    else UtcTime.null
  dstOffset _ := Utc.hour

theorem offsetAt_southernSummers (utcOffset : Int) {t : Int} (lower : 0 < t) (upper : t < 2 ^ 62) :
    (southernSummers utcOffset).offsetAt t =
      if 632026944000000000 ≤ t ∧ t < 632160000000000000 ∨ 632347488000000000 ≤ t ∧ t < 632474496000000000 then
        utcOffset + Utc.hour
      else utcOffset := by
  have reference : Julian.referenceTicks = 1487312064000000000 := rfl
  have julDate : Julian.ticks2j t = dayOf t := ticks2j_eq (by omega) (by omega)
  have counted := dayOf_eq t
  have timeNull : ¬ t = Utc.null := by
    simp only [Utc.null]
    omega
  have start : (UtcTime.ofTicks 632026944000000000).ticks = 632026944000000000 := by decide
  have ending : (UtcTime.ofTicks 632160000000000000).ticks = 632160000000000000 := by decide
  have second : (UtcTime.ofTicks 632347488000000000).ticks = 632347488000000000 := by decide
  have newYear : (UtcTime.ofTicks 632401344000000000).ticks = 632401344000000000 := by decide
  have last : (UtcTime.ofTicks 632474496000000000).ticks = 632474496000000000 := by decide
  have in2003 := @Julian.j2Y_eq_iff (dayOf t) (by omega) 2003 (by decide)
  have in2004 := @Julian.j2Y_eq_iff (dayOf t) (by omega) 2004 (by decide)
  have in2005 := @Julian.j2Y_eq_iff (dayOf t) (by omega) 2005 (by decide)
  rw [show Julian.Y2j 2003 = 2452641 by decide, show Julian.Y2j (2003 + 1) = 2453006 by decide] at in2003
  rw [show Julian.Y2j 2004 = 2453006 by decide, show Julian.Y2j (2004 + 1) = 2453372 by decide] at in2004
  rw [show Julian.Y2j 2005 = 2453372 by decide, show Julian.Y2j (2005 + 1) = 2453737 by decide] at in2005
  obtain ⟨year, yearEq⟩ : ∃ year, year = Julian.j2Y (dayOf t) := ⟨_, rfl⟩
  rw [← yearEq] at in2003 in2004 in2005
  have years : daylightSavingFirstYear = 1900 := rfl
  simp only [offsetAt, julDate, ← yearEq, southernSummers, timeNull, years, Bool.not_true, decide_false, Bool.or_false,
    Bool.false_eq_true, if_false]
  by_cases first : year = 2003
  · have within := in2003.mp first
    subst first
    rw [dif_neg (by decide)]
    by_cases begun : 632026944000000000 ≤ t
    · refine Eq.trans ?_ (if_pos (by omega)).symm
      simp [start, ending, observedAt, Utc.null, begun, show t < 632160000000000000 by omega]
    · refine Eq.trans ?_ (if_neg (by omega)).symm
      simp [start, ending, observedAt, Utc.null, begun]
  · by_cases middle : year = 2004
    · have within := in2004.mp middle
      subst middle
      rw [dif_neg (by decide)]
      by_cases observed : t < 632160000000000000 ∨ 632347488000000000 ≤ t
      · refine Eq.trans ?_ (if_pos (by omega)).symm
        simp [second, ending, observedAt, Utc.null, observed]
      · refine Eq.trans ?_ (if_neg (by omega)).symm
        simp [second, ending, observedAt, Utc.null, observed]
    · by_cases final : year = 2005
      · have within := in2005.mp final
        subst final
        rw [dif_neg (by decide)]
        by_cases observed : t < 632474496000000000
        · refine Eq.trans ?_ (if_pos (by omega)).symm
          simp [newYear, last, observedAt, Utc.null, observed, show 632401344000000000 ≤ t by omega]
        · refine Eq.trans ?_ (if_neg (by omega)).symm
          simp [newYear, last, observedAt, Utc.null, observed]
      · refine Eq.trans ?_ (if_neg (by omega)).symm
        split
        · rfl
        · rename_i inside
          have others : (year - 1900).toNat ≠ 103 ∧ (year - 1900).toNat ≠ 104 ∧ (year - 1900).toNat ≠ 105 := by
            omega
          simp [others, UtcTime.null]

theorem southernSummers_offsets : (southernSummers (10 * Utc.hour)).BoundedOffsets where
  utcLower := by decide
  utcUpper := by decide
  dstLower _ := (by decide : -2 * Utc.hour ≤ Utc.hour)
  dstUpper _ := (by decide : Utc.hour ≤ 2 * Utc.hour)

theorem southernSummers_quiet : (southernSummers (10 * Utc.hour)).QuietNewYear 2004 := by
  have week : Utc.week = 6048000000000 := rfl
  have newYear : dayClock (Julian.Y2j 2004) = 632085120000000000 := by decide
  intro change after before
  rw [offsetAt_southernSummers _ (by omega) (by omega), offsetAt_southernSummers _ (by omega) (by omega),
    if_pos (by omega), if_pos (by omega)]

/-- In the southern winter after a New Year on a Thursday, `asYW` is a week behind `GetWeekNumber`. -/
theorem asYW_southernWinter :
    (southernSummers (10 * Utc.hour)).BoundedOffsets ∧ (southernSummers (10 * Utc.hour)).QuietNewYear 2004 ∧
    (southernSummers (10 * Utc.hour)).asYW .first4DayWeek (.ofTicks 632247624000000000) = .ok (2004, 27) ∧
    (southernSummers (10 * Utc.hour)).getWeekNumber .first4DayWeek true (fun _ => 0) (.ofTicks 632247624000000000) =
      .ok (2004, 28) ∧
    ¬ (southernSummers (10 * Utc.hour)).AgreesOnWeek (fun _ => 0) (.ofTicks 632247624000000000) := by
  have lost : (southernSummers (10 * Utc.hour)).asYW .first4DayWeek (.ofTicks 632247624000000000) = .ok (2004, 27) := by
    decide
  have counted : (southernSummers (10 * Utc.hour)).getWeekNumber .first4DayWeek true (fun _ => 0)
      (.ofTicks 632247624000000000) = .ok (2004, 28) := by
    decide
  refine ⟨southernSummers_offsets, southernSummers_quiet, lost, counted, fun agrees => ?_⟩
  have same := agrees.numbers
  rw [lost, counted] at same
  exact absurd same (by decide)

end Agreement

end RegionalCalendar

end ServiceHost
