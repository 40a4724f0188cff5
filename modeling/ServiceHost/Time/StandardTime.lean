import ServiceHost.Time.DateOrder
import ServiceHost.Time.LocalTime
import ServiceHost.Time.RegionalCalendarTrimCore

/-!
A calendar without daylight saving, told by its clock: a time is a clock reading
less the offset, trimming rounds the reading down to the start of a date or a week,
and adding moves the reading.
-/

namespace ServiceHost

open Library

namespace RegionalCalendar

structure StandardTime (calendar : RegionalCalendar) : Prop where
  dst : calendar.dst = false
  lower : -Utc.year ≤ calendar.utcOffset
  upper : calendar.utcOffset ≤ Utc.year

structure Plain (clock : Int) : Prop where
  lower : Utc.year < clock
  upper : clock < 2 ^ 62

def ofClock (calendar : RegionalCalendar) (clock : Int) : UtcTime := .ofTicks (clock - calendar.utcOffset)

def dayOf (clock : Int) : Int := clock / Utc.day + Julian.referenceDay

def dateOf (clock : Int) : Date := Julian.j2YMD (dayOf clock)

def dayClock (julDate : Int) : Int := (julDate - Julian.referenceDay) * Utc.day

section Clock

theorem Plain.long_span {clock span : Int} (plain : Plain clock) (moved : Plain (clock + span)) :
    long span = span := by
  obtain ⟨lower, upper⟩ := plain
  obtain ⟨movedLower, movedUpper⟩ := moved
  have year : Utc.year = 315360000000000 := rfl
  rw [year] at lower movedLower
  exact long_eq (by omega) (by omega)

theorem dayClock_eq (julDate : Int) : dayClock julDate = (julDate - 1721426) * 864000000000 := rfl

theorem dayOf_eq (clock : Int) : dayOf clock = clock / 864000000000 + 1721426 := rfl

theorem dayOf_dayClock (julDate : Int) : dayOf (dayClock julDate) = julDate := by
  unfold dayOf dayClock
  rw [Int.mul_ediv_cancel _ (by decide)]
  omega

theorem dateOf_dayClock (julDate : Int) : dateOf (dayClock julDate) = Julian.j2YMD julDate := by
  rw [dateOf, dayOf_dayClock]

theorem dayOf_mono {clock later : Int} (order : clock ≤ later) : dayOf clock ≤ dayOf later := by
  have quotients : clock / Utc.day ≤ later / Utc.day := Int.ediv_le_ediv (by decide) order
  unfold dayOf
  omega

theorem dayClock_mono {julDate later : Int} (order : julDate ≤ later) : dayClock julDate ≤ dayClock later := by
  have day : Utc.day = 864000000000 := rfl
  unfold dayClock
  rw [day]
  omega

def yearOf (julDate : Int) : Int := (Julian.j2YMD julDate).year

theorem yearOf_bounds {julDate : Int} (counted : 0 ≤ julDate) :
    -4799 ≤ yearOf julDate ∧ Julian.Y2j (yearOf julDate) ≤ julDate ∧ julDate < Julian.Y2j (yearOf julDate + 1) := by
  have bounds := Julian.j2Y_bounds counted
  rwa [Julian.j2Y_eq_year, ← yearOf] at bounds

theorem yearOf_lower {julDate : Int} (historic : 1000000 ≤ julDate) : -2000 ≤ yearOf julDate := by
  obtain ⟨known, _, ends⟩ := yearOf_bounds (show 0 ≤ julDate by omega)
  have first : Julian.Y2j (-2000) = 990575 := by decide
  have after : -2000 < yearOf julDate + 1 := Julian.lt_of_Y2j_lt (by omega) (by omega)
  omega

theorem Plain.dayOf_bounds {clock : Int} (plain : Plain clock) :
    Julian.referenceDay + 365 ≤ dayOf clock ∧ dayOf clock < 8000000 := by
  obtain ⟨lower, upper⟩ := plain
  have year : Utc.year = 315360000000000 := rfl
  have day : Utc.day = 864000000000 := rfl
  have referenceDay : Julian.referenceDay = 1721426 := rfl
  rw [year] at lower
  unfold dayOf
  rw [day, referenceDay]
  omega

theorem Plain.dateOf_valid {clock : Int} (plain : Plain clock) :
    (dateOf clock).Valid ∧ Julian.YMD2j (dateOf clock) = dayOf clock := by
  obtain ⟨lower, _⟩ := plain.dayOf_bounds
  have counted : Julian.firstDay ≤ dayOf clock := le_trans (by decide) lower
  exact ⟨Julian.j2YMD_valid counted, Julian.YMD2j_j2YMD counted⟩

theorem Plain.year_bounds {clock : Int} (plain : Plain clock) :
    -4700 ≤ (dateOf clock).year ∧ Julian.Y2j (dateOf clock).year ≤ dayOf clock ∧
      dayOf clock < Julian.Y2j ((dateOf clock).year + 1) := by
  obtain ⟨lower, _⟩ := plain.dayOf_bounds
  have counted : 0 ≤ dayOf clock := le_trans (by decide) lower
  obtain ⟨known, started, ends⟩ := Julian.j2Y_bounds counted
  rw [Julian.j2Y_eq_year, ← dateOf] at known started ends
  refine ⟨?_, started, ends⟩
  by_contra early
  have order : Julian.Y2j ((dateOf clock).year + 1) ≤ Julian.Y2j 0 := Julian.Y2j_mono (by omega) (by omega)
  have zero : Julian.Y2j 0 < Julian.referenceDay + 365 := by decide
  omega

end Clock

section Zone

variable {calendar : RegionalCalendar}

theorem ofClock_ticks (standard : calendar.StandardTime) {clock : Int} (plain : Plain clock) :
    (calendar.ofClock clock).ticks = clock - calendar.utcOffset := by
  obtain ⟨_, lower, upper⟩ := standard
  have year : Utc.year = 315360000000000 := rfl
  obtain ⟨clockLower, clockUpper⟩ := plain
  rw [year] at lower upper clockLower
  exact UtcTime.ofTicks_ticks (by omega) (by omega)

theorem ofClock_ordinary (standard : calendar.StandardTime) {clock : Int} (plain : Plain clock) :
    (calendar.ofClock clock).Ordinary := by
  have ticks := ofClock_ticks standard plain
  obtain ⟨_, lower, upper⟩ := standard
  have year : Utc.year = 315360000000000 := rfl
  have least : Utc.minValue = -9223372036854775807 := rfl
  have greatest : Utc.maxValue = 9223372036854775807 := rfl
  obtain ⟨clockLower, clockUpper⟩ := plain
  rw [year] at lower upper clockLower
  rw [UtcTime.ordinary_iff, ticks, least, greatest]
  omega

theorem ofClock_le_iff (standard : calendar.StandardTime) {clock later : Int} (plain : Plain clock)
    (laterPlain : Plain later) : calendar.ofClock clock ≤ calendar.ofClock later ↔ clock ≤ later := by
  rw [UtcTime.le_iff, ofClock_ticks standard plain, ofClock_ticks standard laterPlain]
  omega

theorem diffUtc_standard (standard : calendar.StandardTime) (t : UtcTime) :
    calendar.diffUtc t = .ok calendar.utcOffset := by
  rw [diffUtc_eq]
  simp [offsetAt, standard.dst]

theorem ofClock_add (standard : calendar.StandardTime) {clock : Int} (plain : Plain clock) (span : Int) :
    (calendar.ofClock clock).add span = .ok (calendar.ofClock (clock + span)) := by
  rw [(ofClock_ordinary standard plain).add_eq, ofClock_ticks standard plain, ofClock]
  congr 2
  omega

theorem ofClock_sub (standard : calendar.StandardTime) {clock : Int} (plain : Plain clock) (span : Int) :
    (calendar.ofClock clock).sub span = .ok (calendar.ofClock (clock - span)) := by
  rw [(ofClock_ordinary standard plain).sub_eq, ofClock_ticks standard plain, ofClock]
  congr 2
  omega

theorem ofClock_add_offset (standard : calendar.StandardTime) {clock : Int} (plain : Plain clock) :
    (calendar.ofClock clock).add calendar.utcOffset = .ok (.ofTicks clock) := by
  rw [ofClock_add standard plain, ofClock, Int.add_sub_cancel]

theorem plain_ticks {clock : Int} (plain : Plain clock) :
    (UtcTime.ofTicks clock).ticks = clock ∧ (UtcTime.ofTicks clock).Ordinary := by
  have year : Utc.year = 315360000000000 := rfl
  have least : Utc.minValue = -9223372036854775807 := rfl
  have greatest : Utc.maxValue = 9223372036854775807 := rfl
  obtain ⟨lower, upper⟩ := plain
  rw [year] at lower
  have ticks := UtcTime.ofTicks_ticks (show -2 ^ 63 ≤ clock by omega) (by omega)
  rw [UtcTime.ordinary_iff, ticks, least, greatest]
  omega

theorem adjustToTz_clock (standard : calendar.StandardTime) {clock : Int} (plain : Plain clock) :
    calendar.adjustToTz (.ofTicks clock) = .ok (calendar.ofClock clock) := by
  obtain ⟨ticks, ordinary⟩ := plain_ticks plain
  simp only [adjustToTz, ordinary.notNull, ne_eq, not_false_eq_true, if_true, diffUtc_standard standard, ok_bind,
    ordinary.sub_eq, ticks, standard.dst, Bool.not_false]
  rfl

theorem ticks2j_eq {clock : Int} (lower : -2 ^ 60 < clock) (upper : clock < 2 ^ 62 + 2 ^ 60) :
    Julian.ticks2j clock = dayOf clock := by
  have reference : Julian.referenceTicks = 1487312064000000000 := rfl
  have referenceDay : Julian.referenceDay = 1721426 := rfl
  have day : Utc.day = 864000000000 := rfl
  rw [Julian.ticks2j, long_eq (by omega) (by omega), reference, dayOf, day, referenceDay,
    Int.tdiv_eq_ediv_of_nonneg (by omega)]
  omega

theorem ticks2j_clock {clock : Int} (plain : Plain clock) : Julian.ticks2j clock = dayOf clock := by
  have year : Utc.year = 315360000000000 := rfl
  obtain ⟨lower, upper⟩ := plain
  exact ticks2j_eq (by omega) (by omega)

theorem j2ticks_plain {julDate : Int} (plain : Plain (dayClock julDate)) :
    Julian.j2ticks julDate = dayClock julDate := by
  obtain ⟨lower, upper⟩ := plain
  have year : Utc.year = 315360000000000 := rfl
  rw [year] at lower
  exact long_eq (by unfold dayClock at lower; omega) (by unfold dayClock at upper; omega)

end Zone

section Trim

variable {calendar : RegionalCalendar}

def keyDate (trimDt : Int) (date : Date) : Date :=
  if trimDt = Utc.year then ⟨date.year, 1, 1⟩
  else if trimDt = Utc.month then { date with day := 1 }
  else date

end Trim

section Add

variable {calendar : RegionalCalendar}

theorem add_clock (standard : calendar.StandardTime) {clock step count : Int} (plain : Plain clock)
    (notYear : step ≠ Utc.year) (notMonth : step ≠ Utc.month) (moved : Plain (clock + count * step)) :
    calendar.add (calendar.ofClock clock) step count = .ok (calendar.ofClock (clock + count * step)) := by
  have span : long (count * step) = count * step := plain.long_span moved
  simp only [add, notYear, notMonth, if_false, span]
  split
  · simp only [ofClock_sub standard plain, ok_bind, diffUtc_standard standard, ofClock_add standard plain,
      ofClock_sub standard moved, ofClock_add standard moved, Int.sub_self, Int.add_zero]
  · exact ofClock_add standard plain _

theorem addByDate_clock (standard : calendar.StandardTime) {clock : Int} (plain : Plain clock) (forward : Bool)
    {change : Date → Date}
    (moved : Plain (clock + (Julian.YMD2j (change (dateOf clock)) - dayOf clock) * Utc.day)) :
    calendar.addByDate (calendar.ofClock clock) forward change =
      .ok (calendar.ofClock (clock + (Julian.YMD2j (change (dateOf clock)) - dayOf clock) * Utc.day)) := by
  have ticks := (plain_ticks plain).1
  have span : long ((Julian.YMD2j (change (dateOf clock)) - dayOf clock) * Utc.day) =
      (Julian.YMD2j (change (dateOf clock)) - dayOf clock) * Utc.day := plain.long_span moved
  simp only [addByDate, ofClock_sub standard plain, ok_bind, diffUtc_standard standard,
    ofClock_add_offset standard plain, ticks, ticks2j_clock plain]
  rw [← dateOf, span, ofClock_add standard plain]
  simp only [ok_bind, ofClock_sub standard moved, ofClock_add standard moved, Int.sub_self, Int.add_zero]

theorem addYear_clock (standard : calendar.StandardTime) {clock count : Int} (plain : Plain clock)
    (moved : Plain (clock + (Julian.YMD2j { dateOf clock with year := (dateOf clock).year + count } -
      dayOf clock) * Utc.day)) :
    calendar.add (calendar.ofClock clock) Utc.year count =
      .ok (calendar.ofClock (clock + (Julian.YMD2j { dateOf clock with year := (dateOf clock).year + count } -
        dayOf clock) * Utc.day)) := by
  rw [add, if_pos rfl]
  exact addByDate_clock standard plain _ moved

theorem addMonth_clock (standard : calendar.StandardTime) {clock count : Int} (plain : Plain clock)
    (moved : Plain (clock + (Julian.YMD2j (addToMonth (dateOf clock) count) - dayOf clock) * Utc.day)) :
    calendar.add (calendar.ofClock clock) Utc.month count =
      .ok (calendar.ofClock (clock + (Julian.YMD2j (addToMonth (dateOf clock) count) - dayOf clock) * Utc.day)) := by
  have notYear : Utc.month ≠ Utc.year := by decide
  rw [add, if_neg notYear, if_pos rfl]
  exact addByDate_clock standard plain _ moved

theorem addToMonth_one_eq {date : Date} (valid : date.Valid) :
    addToMonth date 1 = if date.month < 12 then
        ⟨date.year, date.month + 1, min date.day (daysInMonth date.year (date.month + 1))⟩
      else ⟨date.year + 1, 1, date.day⟩ := by
  obtain ⟨oneLeMonth, monthLe, oneLeDay, dayLe⟩ := valid
  have days := daysInMonth_le date.year date.month
  by_cases early : date.month < 12
  · have inYear : ¬date.month + 1 < 1 ∧ ¬date.month + 1 > 12 := by omega
    have fours := tmod_cases date.year 4
    have hundreds := tmod_cases date.year 100
    have leaps := tmod_cases date.year 400
    have leap := Julian.isLeapYear_iff date.year
    rw [if_pos early]
    simp only [addToMonth, inYear.1, inYear.2, if_false]
    congr 1
    unfold daysInMonth
    rcases Int.lt_trichotomy (date.month + 1) 2 with before | february | after
    · omega
    · have notThirty : ¬((2 : Int) = 4 ∨ (2 : Int) = 6 ∨ (2 : Int) = 9 ∨ (2 : Int) = 11) := by decide
      simp only [february, notThirty, if_false, if_true]
      by_cases isLeap : isLeapYear date.year = true
      · have divisible := leap.mp isLeap
        have quarter : date.year.tmod 4 = 0 := by omega
        have notCommon : ¬(date.year.tmod 100 = 0 ∧ date.year.tmod 400 ≠ 0) := by omega
        rw [if_pos quarter, if_neg notCommon, if_pos isLeap]
      · have indivisible := mt leap.mpr isLeap
        rw [if_neg isLeap]
        split
        · have common : date.year.tmod 100 = 0 ∧ date.year.tmod 400 ≠ 0 := by omega
          rw [if_pos common]
        · rfl
    · have notFebruary : date.month + 1 ≠ 2 := by omega
      simp only [notFebruary, if_false]
      split
      · rfl
      · omega
  · obtain december : date.month = 12 := by omega
    rw [if_neg early]
    simp [addToMonth, december]

end Add

end RegionalCalendar

end ServiceHost
