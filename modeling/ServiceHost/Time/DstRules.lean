import ServiceHost.Time.DstRulesCore
import ServiceHost.Time.MonthArithmetic

/-!
A range of daylight rules writes the years of the range in order, each with the days
that the rule means, up to the first year that is not in the table. Nothing is taken
back then, so the answer is false although years have been written.
-/

namespace ServiceHost

open Library

structure RuleTime.InRange (rule : RuleTime) : Prop where
  oneLeMonth : 1 ≤ rule.month
  monthLe : rule.month ≤ 12
  lower : -5 ≤ rule.day
  upper : rule.day ≤ 31

instance (rule : RuleTime) : Decidable rule.InRange :=
  decidable_of_iff (1 ≤ rule.month ∧ rule.month ≤ 12 ∧ -5 ≤ rule.day ∧ rule.day ≤ 31)
    ⟨fun ⟨oneLeMonth, monthLe, lower, upper⟩ => ⟨oneLeMonth, monthLe, lower, upper⟩,
      fun ⟨oneLeMonth, monthLe, lower, upper⟩ => ⟨oneLeMonth, monthLe, lower, upper⟩⟩

namespace RegionalCalendar

def dayNumber (year month day : Int) : Int := Julian.YMD2j ⟨year, month, day⟩

def IsSunday (julDate : Int) : Prop := julDate % 7 = 6

instance (julDate : Int) : Decidable (IsSunday julDate) := inferInstanceAs (Decidable (_ = _))

def MeansDay (year month day meant : Int) : Prop :=
  1 ≤ day ∧ meant = day ∨
  -4 ≤ day ∧ day ≤ -1 ∧ IsSunday (dayNumber year month meant) ∧ 7 * (-day - 1) < meant ∧ meant ≤ 7 * -day ∨
  day = -5 ∧ IsSunday (dayNumber year month meant) ∧ 1 ≤ meant ∧
    daysInMonth year month - 7 < meant ∧ meant ≤ daysInMonth year month

theorem dayNumber_eq (year month day : Int) : dayNumber year month day = dayNumber year month 1 + (day - 1) := by
  unfold dayNumber Julian.YMD2j
  dsimp only
  omega

theorem dayNumber_bounds {year month day : Int} (known : -4700 ≤ year) (oneLeMonth : 1 ≤ month)
    (monthLe : month ≤ 12) (oneLeDay : 1 ≤ day) (dayLe : day ≤ 31) :
    Julian.Y2j year ≤ dayNumber year month day ∧ dayNumber year month day < Julian.Y2j (year + 1) := by
  have atLeast := Julian.Y2j_succ (show -4799 ≤ year by omega)
  unfold dayNumber
  rcases le_or_gt month 2 with early | late
  · rw [Julian.YMD2j_early oneLeMonth early]
    dsimp only
    omega
  · rw [@Julian.YMD2j_late ⟨year, month, day⟩ late monthLe]
    dsimp only
    omega

theorem addToMonth_first {year month : Int} (known : -4700 ≤ year) (oneLe : 1 ≤ month) (le : month ≤ 12) :
    Julian.YMD2j (addToMonth ⟨year, month, 1⟩ 1) = dayNumber year month 1 + daysInMonth year month := by
  have days := daysInMonth_ge year month
  have first : (⟨year, month, 1⟩ : Date).Valid := ⟨oneLe, le, Int.le_refl 1, by dsimp only; omega⟩
  have last : (⟨year, month, daysInMonth year month⟩ : Date).Valid := ⟨oneLe, le, by dsimp only; omega, Int.le_refl _⟩
  have next : addToMonth ⟨year, month, 1⟩ 1 = Date.next ⟨year, month, daysInMonth year month⟩ := by
    have nextDays := daysInMonth_ge year (month + 1)
    rw [addToMonth_one_eq first, Date.next]
    simp only [lt_irrefl, if_false]
    split
    · rw [min_eq_left (by omega)]
    · rfl
  rw [next, Julian.YMD2j_next last known]
  have count := dayNumber_eq year month (daysInMonth year month)
  unfold dayNumber at count ⊢
  omega

section Search

theorem plain_dayClock {julDate : Int} (lower : 2000000 ≤ julDate) (upper : julDate ≤ 3000000) :
    Plain (dayClock julDate) := by
  have year : Utc.year = 315360000000000 := rfl
  rw [dayClock_eq]
  constructor <;> omega

theorem toUtcTime_midnight {date : Date} (plain : Plain (dayClock (Julian.YMD2j date))) :
    utcCalendar.toUtcTime ⟨date, 0, 0, 0, 0⟩ = .ok (utcCalendar.ofClock (dayClock (Julian.YMD2j date))) := by
  have midnight : Julian.j2ticks (Julian.YMD2j date) + 0 * Utc.hour + 0 * Utc.minute + 0 * Utc.second +
      (0 * Utc.second).tdiv 1000 = dayClock (Julian.YMD2j date) := by
    rw [j2ticks_plain plain]
    simp
  rw [toUtcTime, midnight]
  exact adjustToTz_clock utcCalendar_standard plain

theorem weekDay_midnight {julDate : Int} (plain : Plain (dayClock julDate)) :
    utcCalendar.weekDay (utcCalendar.ofClock (dayClock julDate)) = .ok ((julDate + 1) % 7) := by
  have day : Utc.day = 864000000000 := rfl
  have week : Utc.week = 6048000000000 := rfl
  have year : Utc.year = 315360000000000 := rfl
  have start : Utc.weekDayStartNumber = 1 := rfl
  have lower := plain.lower
  have ticks := (plain_ticks plain).1
  rw [dayClock_eq] at lower
  have weekday : ((dayClock julDate).tmod Utc.week).tdiv Utc.day = (julDate - 1721426) % 7 := by
    rw [dayClock_eq, week, day, Int.tmod_eq_emod_of_nonneg (by omega), Int.tdiv_eq_ediv_of_nonneg (by omega)]
    omega
  rw [weekDay, diffUtc_standard utcCalendar_standard, ok_bind, ofClock_add_offset utcCalendar_standard plain, ok_bind,
    ticks, start, weekday, Int.tmod_eq_emod_of_nonneg (by omega), pure_eq_ok]
  congr 1
  omega

def sundayAt (first n : Int) : Int := 7 - first % 7 + 7 * (n - 1)

def sundaysBefore (first mday : Int) : Int := (mday - sundayAt first 1 + 6) / 7

def sundayBefore (first mday : Int) : Int :=
  if sundaysBefore first mday < 1 then 0 else sundayAt first (sundaysBefore first mday)

def searchAt (first mday : Int) : SundaySearch :=
  ⟨mday, sundaysBefore first mday, sundayBefore first mday, false⟩

theorem searchAt_sunday {first mday : Int} (oneLe : 1 ≤ mday) (sunday : IsSunday (first + (mday - 1))) :
    sundaysBefore first (mday + 1) = sundaysBefore first mday + 1 ∧ sundayBefore first (mday + 1) = mday ∧
      0 ≤ sundaysBefore first mday := by
  unfold IsSunday at sunday
  have counted : sundaysBefore first (mday + 1) = sundaysBefore first mday + 1 ∧
      sundayAt first (sundaysBefore first mday + 1) = mday ∧ 0 ≤ sundaysBefore first mday := by
    unfold sundaysBefore sundayAt
    omega
  refine ⟨counted.1, ?_, counted.2.2⟩
  rw [sundayBefore, counted.1, if_neg (by omega)]
  exact counted.2.1

theorem searchAt_weekday {first mday : Int} (weekday : ¬IsSunday (first + (mday - 1))) :
    sundaysBefore first (mday + 1) = sundaysBefore first mday ∧
      sundayBefore first (mday + 1) = sundayBefore first mday := by
  unfold IsSunday at weekday
  have counted : sundaysBefore first (mday + 1) = sundaysBefore first mday := by
    unfold sundaysBefore sundayAt
    omega
  rw [sundayBefore, counted]
  exact ⟨rfl, rfl⟩

theorem searchSunday_eq {first length n : Int} (lower : 2000000 ≤ first) (upper : first + length ≤ 3000000)
    {fuel : Nat} {mday : Int} (oneLe : 1 ≤ mday) (le : mday ≤ length + 1) (enough : length + 1 - mday ≤ fuel)
    (ahead : n < 1 ∨ mday ≤ sundayAt first n) :
    searchSunday utcCalendar (utcCalendar.ofClock (dayClock (first + length))) (-n) fuel
        (utcCalendar.ofClock (dayClock (first + (mday - 1)))) (searchAt first mday) =
      .ok (if 1 ≤ n ∧ sundayAt first n ≤ length then ⟨sundayAt first n, n, sundayAt first n, true⟩
        else searchAt first (length + 1)) := by
  induction fuel generalizing mday with
  | zero =>
      obtain rfl : mday = length + 1 := by omega
      rw [if_neg (by omega)]
      rfl
  | succ fuel ih =>
      have plain := plain_dayClock (show 2000000 ≤ first + (mday - 1) by omega) (by omega)
      have endPlain := plain_dayClock (show 2000000 ≤ first + length by omega) upper
      have ordinary := ofClock_ordinary utcCalendar_standard plain
      have endOrdinary := ofClock_ordinary utcCalendar_standard endPlain
      have order := ofClock_le_iff utcCalendar_standard endPlain plain
      have day : Utc.day = 864000000000 := rfl
      rw [dayClock_eq, dayClock_eq] at order
      have before : (utcCalendar.ofClock (dayClock (first + (mday - 1))) <
          utcCalendar.ofClock (dayClock (first + length))) ↔ mday ≤ length := by
        rw [← not_le, dayClock_eq, dayClock_eq, order]
        omega
      rw [searchSunday, UtcTime.less_of_ne_null ordinary.notNull endOrdinary.notNull, ok_bind]
      by_cases inside : mday ≤ length
      · have next : UtcTime.add (utcCalendar.ofClock (dayClock (first + (mday - 1)))) Utc.day =
            .ok (utcCalendar.ofClock (dayClock (first + (mday + 1 - 1)))) := by
          rw [ofClock_add utcCalendar_standard plain, dayClock_eq, dayClock_eq, day]
          congr 3
          omega
        rw [if_pos (by simpa using before.mpr inside), weekDay_midnight plain, ok_bind]
        by_cases sunday : IsSunday (first + (mday - 1))
        · have isZero : (first + (mday - 1) + 1) % 7 = 0 := by
            unfold IsSunday at sunday
            omega
          obtain ⟨count, last, counted⟩ := searchAt_sunday oneLe sunday
          have here : sundayAt first (sundaysBefore first mday + 1) = mday := by
            rw [sundayBefore, count, if_neg (by omega)] at last
            exact last
          by_cases found : n = sundaysBefore first mday + 1
          · have stopped : 1 ≤ n ∧ sundayAt first n ≤ length := by
              rw [found, here]
              omega
            rw [if_pos stopped, found, here]
            simp [isZero, searchAt]
          · have later := ih (show 1 ≤ mday + 1 by omega) (by omega) (by omega) (by
              unfold sundayAt at ahead here ⊢
              omega)
            rw [next, ← later, searchAt, searchAt, count, last]
            simp [isZero, Ne.symm found]
        · have notZero : (first + (mday - 1) + 1) % 7 ≠ 0 := by
            unfold IsSunday at sunday
            omega
          obtain ⟨count, last⟩ := searchAt_weekday sunday
          have later := ih (show 1 ≤ mday + 1 by omega) (by omega) (by omega) (by
            unfold IsSunday at sunday
            unfold sundayAt at ahead ⊢
            omega)
          rw [next, ← later, searchAt, searchAt, count, last]
          simp [notZero]
      · obtain rfl : mday = length + 1 := by omega
        rw [if_neg (by simp), if_neg (by omega)]
        rfl

theorem sundayAt_isSunday (first n : Int) : IsSunday (first + (sundayAt first n - 1)) := by
  unfold IsSunday sundayAt
  omega

theorem sundayBefore_last (first : Int) {length : Int} (fourWeeks : 28 ≤ length) :
    IsSunday (first + (sundayBefore first (length + 1) - 1)) ∧ length - 7 < sundayBefore first (length + 1) ∧
      sundayBefore first (length + 1) ≤ length := by
  have some : ¬sundaysBefore first (length + 1) < 1 := by
    unfold sundaysBefore sundayAt
    omega
  rw [sundayBefore, if_neg some]
  refine ⟨sundayAt_isSunday first _, ?_, ?_⟩
  · unfold sundaysBefore sundayAt
    omega
  · unfold sundaysBefore sundayAt
    omega

end Search

section Rule

variable {year : Int} {rule : RuleTime}

theorem tableYear_days (first : 1900 ≤ year) (last : year ≤ 2099) :
    2400000 ≤ Julian.Y2j year ∧ Julian.Y2j (year + 1) ≤ 2500000 := by
  have least := Julian.Y2j_mono (show -4799 ≤ (1900 : Int) by decide) first
  have greatest := Julian.Y2j_mono (show -4799 ≤ year + 1 by omega) (show year + 1 ≤ 2100 by omega)
  have leastDay : Julian.Y2j 1900 = 2415021 := by decide
  have greatestDay : Julian.Y2j 2100 = 2488070 := by decide
  omega

theorem dayOfRule_sunday {month n : Int} (first : 1900 ≤ year) (last : year ≤ 2099) (oneLe : 1 ≤ month)
    (le : month ≤ 12) (negative : 0 ≤ n) : dayOfRule year month (-n) =
      .ok (if 1 ≤ n ∧ sundayAt (dayNumber year month 1) n ≤ daysInMonth year month then
          some (sundayAt (dayNumber year month 1) n)
        else if n = 5 then some (sundayBefore (dayNumber year month 1) (daysInMonth year month + 1)) else none) := by
  have days := daysInMonth_le year month
  have someDays := daysInMonth_ge year month
  have table := tableYear_days first last
  have inYear := dayNumber_bounds (show -4700 ≤ year by omega) oneLe le (Int.le_refl 1) (by decide)
  have plain := plain_dayClock (show 2000000 ≤ dayNumber year month 1 by omega) (by omega)
  have valid : (⟨year, month, 1⟩ : Date).Valid := ⟨oneLe, le, Int.le_refl 1, by dsimp only; omega⟩
  have back := Julian.j2YMD_YMD2j valid (show -4799 ≤ year by omega)
  have nextDay := addToMonth_first (show -4700 ≤ year by omega) oneLe le
  have shown : dateOf (dayClock (dayNumber year month 1)) = ⟨year, month, 1⟩ := by
    rw [dateOf_dayClock]
    exact back
  have moved : dayClock (dayNumber year month 1) +
      (Julian.YMD2j (addToMonth (dateOf (dayClock (dayNumber year month 1))) 1) -
        dayOf (dayClock (dayNumber year month 1))) * Utc.day =
      dayClock (dayNumber year month 1 + daysInMonth year month) := by
    have day : Utc.day = 864000000000 := rfl
    rw [shown, nextDay, dayOf_dayClock, dayClock_eq, dayClock_eq, day]
    omega
  have nextMonth := @addMonth_clock utcCalendar utcCalendar_standard _ 1 plain
    (by rw [moved]; exact plain_dayClock (by omega) (by omega))
  rw [moved] at nextMonth
  have searched := @searchSunday_eq (dayNumber year month 1) (daysInMonth year month) n (by omega) (by omega) 32 1
    (by decide) (by omega) (by omega) (by unfold sundayAt; omega)
  have start : dayNumber year month 1 + (1 - 1) = dayNumber year month 1 := by omega
  have initial : searchAt (dayNumber year month 1) 1 = ⟨1, 0, 0, false⟩ := by
    have none : sundaysBefore (dayNumber year month 1) 1 = 0 := by
      unfold sundaysBefore sundayAt
      omega
    rw [searchAt, sundayBefore, none]
    rfl
  rw [start, initial] at searched
  have midnight := @toUtcTime_midnight ⟨year, month, 1⟩ plain
  rw [dayOfRule, if_pos (by omega), midnight, ok_bind]
  change (utcCalendar.add (utcCalendar.ofClock (dayClock (dayNumber year month 1))) Utc.month 1 >>= _) = _
  rw [nextMonth, ok_bind]
  change (searchSunday utcCalendar _ _ 32 (utcCalendar.ofClock (dayClock (dayNumber year month 1))) _ >>= _) = _
  rw [searched, ok_bind]
  have five : (-n = -5) ↔ n = 5 := by omega
  by_cases found : 1 ≤ n ∧ sundayAt (dayNumber year month 1) n ≤ daysInMonth year month
  · rw [if_pos found, if_pos found]
    split <;> rfl
  · rw [if_neg found, if_neg found]
    simp only [five, searchAt]
    split <;> rfl

theorem dayOfRule_some (first : 1900 ≤ year) (last : year ≤ 2099) (inRange : rule.InRange) (notZero : rule.day ≠ 0) :
    ∃ meant, dayOfRule year rule.month rule.day = .ok (some meant) ∧ MeansDay year rule.month rule.day meant ∧
      1 ≤ meant ∧ meant ≤ 31 := by
  obtain ⟨oneLe, le, lower, upper⟩ := inRange
  have days := daysInMonth_le year rule.month
  have someDays := daysInMonth_ge year rule.month
  rcases lt_or_ge rule.day 1 with counted | itself
  · obtain ⟨n, number⟩ : ∃ n, rule.day = -n := ⟨-rule.day, by omega⟩
    have search := @dayOfRule_sunday year rule.month n first last oneLe le (by omega)
    have sunday := sundayAt_isSunday (dayNumber year rule.month 1) n
    have place : dayNumber year rule.month (sundayAt (dayNumber year rule.month 1) n) = _ := dayNumber_eq _ _ _
    have range : 7 * (n - 1) < sundayAt (dayNumber year rule.month 1) n ∧
        sundayAt (dayNumber year rule.month 1) n ≤ 7 * n := by
      unfold sundayAt
      omega
    rw [number, search]
    rw [← place] at sunday
    by_cases found : 1 ≤ n ∧ sundayAt (dayNumber year rule.month 1) n ≤ daysInMonth year rule.month
    · rw [if_pos found]
      refine ⟨_, rfl, ?_, by omega, by omega⟩
      rcases lt_or_ge n 5 with early | late
      · exact Or.inr (Or.inl ⟨by omega, by omega, sunday, by omega, by omega⟩)
      · exact Or.inr (Or.inr ⟨by omega, sunday, by omega, by omega, found.2⟩)
    · obtain rfl : n = 5 := by omega
      obtain ⟨lastSunday, lower, upper⟩ := sundayBefore_last (dayNumber year rule.month 1) someDays
      have lastPlace : dayNumber year rule.month
          (sundayBefore (dayNumber year rule.month 1) (daysInMonth year rule.month + 1)) = _ := dayNumber_eq _ _ _
      rw [← lastPlace] at lastSunday
      rw [if_neg found, if_pos rfl]
      exact ⟨_, rfl, Or.inr (Or.inr ⟨rfl, lastSunday, by omega, lower, upper⟩), by omega, by omega⟩
  · refine ⟨rule.day, ?_, Or.inl ⟨itself, rfl⟩, itself, upper⟩
    rw [dayOfRule, if_neg (not_lt.mpr itself)]
    rfl

def IsTimeOf (year : Int) (rule : RuleTime) (time : UtcTime) : Prop :=
  ∃ meant, MeansDay year rule.month rule.day meant ∧
    time.ticks = dayClock (dayNumber year rule.month meant) + rule.sec

theorem timeOfRule_some (first : 1900 ≤ year) (last : year ≤ 2099) (inRange : rule.InRange) (notZero : rule.day ≠ 0)
    (secLower : -Utc.year ≤ rule.sec) (secUpper : rule.sec ≤ Utc.year) :
    ∃ time, timeOfRule year rule = .ok (some time) ∧ IsTimeOf year rule time ∧ time ≠ UtcTime.null := by
  obtain ⟨meant, found, means, oneLe, le⟩ := dayOfRule_some first last inRange notZero
  have yearTicks : Utc.year = 315360000000000 := rfl
  have table := tableYear_days first last
  have bounds := dayNumber_bounds (show -4700 ≤ year by omega) inRange.oneLeMonth inRange.monthLe oneLe le
  have plain := plain_dayClock (show 2000000 ≤ dayNumber year rule.month meant by omega) (by omega)
  have laterPlain : Plain (dayClock (dayNumber year rule.month meant) + rule.sec) := by
    rw [dayClock_eq]
    constructor <;> omega
  have ticks : (utcCalendar.ofClock (dayClock (dayNumber year rule.month meant) + rule.sec)).ticks =
      dayClock (dayNumber year rule.month meant) + rule.sec := by
    rw [ofClock_ticks utcCalendar_standard laterPlain]
    exact Int.sub_zero _
  refine ⟨utcCalendar.ofClock (dayClock (dayNumber year rule.month meant) + rule.sec), ?_, ⟨meant, means, ticks⟩, ?_⟩
  · have midnight := @toUtcTime_midnight ⟨year, rule.month, meant⟩ plain
    have later := ofClock_add utcCalendar_standard plain rule.sec
    unfold dayNumber at later
    simp only [timeOfRule, found, ok_bind, midnight, later, pure_eq_ok]
    rfl
  · exact (ofClock_ordinary utcCalendar_standard laterPlain).notNull

theorem MeansDay.bounds {month day meant : Int} (means : MeansDay year month day meant) (upper : day ≤ 31) :
    1 ≤ meant ∧ meant ≤ 31 := by
  have days := daysInMonth_le year month
  rcases means with ⟨oneLe, rfl⟩ | ⟨_, _, _, _, _⟩ | ⟨_, _, _, _, _⟩ <;> omega

theorem IsTimeOf.tableYear {time : UtcTime} (isTime : IsTimeOf year rule time) (first : 1900 ≤ year) (last : year ≤ 2099)
    (inRange : rule.InRange) (secLower : 0 ≤ rule.sec) (secUpper : rule.sec < Utc.day) :
    Julian.j2Y (Julian.ticks2j time.ticks) = year := by
  obtain ⟨meant, means, ticks⟩ := isTime
  obtain ⟨oneLe, le⟩ := means.bounds inRange.upper
  have day : Utc.day = 864000000000 := rfl
  have yearTicks : Utc.year = 315360000000000 := rfl
  have table := tableYear_days first last
  have bounds := dayNumber_bounds (show -4700 ≤ year by omega) inRange.oneLeMonth inRange.monthLe oneLe le
  have plain : Plain (dayClock (dayNumber year rule.month meant) + rule.sec) := by
    rw [dayClock_eq]
    constructor <;> omega
  have shown : dayOf (dayClock (dayNumber year rule.month meant) + rule.sec) = dayNumber year rule.month meant := by
    rw [dayOf_eq, dayClock_eq]
    omega
  rw [ticks, ticks2j_clock plain, shown]
  exact (@Julian.j2Y_eq_iff _ (by omega) year (by omega)).mpr bounds

theorem timeOfRule_none (first : 1900 ≤ year) (last : year ≤ 2099) (inRange : rule.InRange) (zero : rule.day = 0) :
    timeOfRule year rule = .ok none := by
  have none := @dayOfRule_sunday year rule.month 0 first last inRange.oneLeMonth inRange.monthLe (Int.le_refl 0)
  rw [timeOfRule, zero]
  change (dayOfRule year rule.month (-0) >>= _) = _
  rw [none]
  rfl

end Rule

section Years

variable {begins ends : RuleTime} {dstOffsetA : Int}

def tableYear (y : Fin daylightSavingYears) : Int := daylightSavingFirstYear + (y.val : Int)

structure Wrote (calendar after : RegionalCalendar) (begins ends : RuleTime) (dstOffsetA : Int)
    (written : Fin daylightSavingYears → Prop) : Prop where
  utcOffset : after.utcOffset = calendar.utcOffset
  dst : after.dst = true ↔ calendar.dst = true ∨ ∃ y, written y
  rule : ∀ y, written y → IsTimeOf (tableYear y) begins (after.daylightStart y) ∧
    IsTimeOf (tableYear y) ends (after.daylightEnd y) ∧ after.dstOffset y = dstOffsetA
  kept : ∀ y, ¬written y → after.daylightStart y = calendar.daylightStart y ∧
    after.daylightEnd y = calendar.daylightEnd y ∧ after.dstOffset y = calendar.dstOffset y

theorem wrote_nothing (calendar : RegionalCalendar) {written : Fin daylightSavingYears → Prop}
    (none : ∀ y, ¬written y) : Wrote calendar calendar begins ends dstOffsetA written := by
  refine ⟨rfl, ?_, ?_, fun y _ => ⟨rfl, rfl, rfl⟩⟩
  · constructor
    · exact Or.inl
    · rintro (observed | ⟨y, member⟩)
      · exact observed
      · exact absurd member (none y)
  · intro y member
    exact absurd member (none y)

theorem addDSTRule_inYear (calendar : RegionalCalendar) (y : Fin daylightSavingYears) {ts te : UtcTime}
    (inYear : Julian.j2Y (Julian.ticks2j ts.ticks) = tableYear y) : calendar.addDSTRule ts te dstOffsetA =
      (true, { calendar with dst := true }.setDaylight y ts te dstOffsetA) := by
  have index : ({ calendar with dst := true } : RegionalCalendar).dstYearIndex ts = some y := by
    have years : daylightSavingYears = 200 := rfl
    have small := y.isLt
    have entry : Julian.j2Y (Julian.ticks2j ts.ticks) - daylightSavingFirstYear = (y.val : Int) := by
      rw [inYear, tableYear]
      omega
    have inside : ¬((y.val : Int) < 0 ∨ (y.val : Int) ≥ daylightSavingYears) := by omega
    unfold dstYearIndex
    simp only [entry]
    rw [if_neg (by decide), dif_neg inside]
    simp only [Int.toNat_natCast]
  unfold addDSTRule
  dsimp only
  rw [index]

theorem Wrote.after_year {calendar after : RegionalCalendar} {years : Nat} {yFrom : Int} {y : Fin daylightSavingYears}
    {ts te : UtcTime} (entry : tableYear y = yFrom) (tsTime : IsTimeOf yFrom begins ts) (teTime : IsTimeOf yFrom ends te)
    (wrote : Wrote ({ calendar with dst := true }.setDaylight y ts te dstOffsetA) after begins ends dstOffsetA
      fun y => yFrom + 1 ≤ tableYear y ∧ tableYear y < yFrom + 1 + years) :
    Wrote calendar after begins ends dstOffsetA
      fun y => yFrom ≤ tableYear y ∧ tableYear y < yFrom + (years + 1 : Nat) := by
  have same {other : Fin daylightSavingYears} (equal : tableYear other = yFrom) : other = y := by
    apply Fin.ext
    unfold tableYear at equal entry
    omega
  refine ⟨wrote.utcOffset, ?_, ?_, ?_⟩
  · constructor
    · intro _
      exact Or.inr ⟨y, by omega, by omega⟩
    · intro _
      exact wrote.dst.mpr (Or.inl rfl)
  · rintro other ⟨from_, before⟩
    rcases Int.lt_or_eq_of_le from_ with later | here
    · exact wrote.rule other ⟨by omega, by omega⟩
    · obtain rfl := same here.symm
      obtain ⟨start, stop, offset⟩ := wrote.kept other (by omega)
      rw [start, stop, offset, entry]
      simp only [setDaylight, Function.update_self]
      exact ⟨tsTime, teTime, trivial⟩
  · intro other outside
    obtain ⟨start, stop, offset⟩ := wrote.kept other (by omega)
    have different : other ≠ y := by
      rintro rfl
      omega
    rw [start, stop, offset]
    simp only [setDaylight, Function.update_of_ne different, and_self]

theorem addDSTYears_wrote (beginsRange : begins.InRange) (endsRange : ends.InRange) (beginsDay : begins.day ≠ 0)
    (endsDay : ends.day ≠ 0) (beginsLower : 0 ≤ begins.sec) (beginsUpper : begins.sec < Utc.day)
    (endsLower : -Utc.year ≤ ends.sec) (endsUpper : ends.sec ≤ Utc.year) {years : Nat} {yFrom : Int} (first : 1900 ≤ yFrom)
    (calendar : RegionalCalendar) : ∃ answer after,
      addDSTYears begins ends dstOffsetA years yFrom calendar = .ok (answer, after) ∧
      (answer = true ↔ years = 0 ∨ yFrom + years ≤ 2100) ∧
      Wrote calendar after begins ends dstOffsetA fun y => yFrom ≤ tableYear y ∧ tableYear y < yFrom + years := by
  have firstYear : daylightSavingFirstYear = 1900 := rfl
  have count : (daylightSavingYears : Int) = 200 := rfl
  induction years generalizing yFrom calendar with
  | zero =>
      refine ⟨true, calendar, rfl, by simp, wrote_nothing calendar ?_⟩
      intro y
      omega
  | succ years ih =>
      by_cases inTable : yFrom ≤ 2099
      · have year : Utc.year = 315360000000000 := rfl
        have day : Utc.day = 864000000000 := rfl
        obtain ⟨ts, tsOk, tsTime, tsNull⟩ := timeOfRule_some first inTable beginsRange beginsDay (by omega) (by omega)
        obtain ⟨te, teOk, teTime, teNull⟩ := timeOfRule_some first inTable endsRange endsDay endsLower endsUpper
        have tsYear := IsTimeOf.tableYear tsTime first inTable beginsRange beginsLower beginsUpper
        obtain ⟨y, entry⟩ : ∃ y : Fin daylightSavingYears, tableYear y = yFrom := by
          refine ⟨⟨(yFrom - 1900).toNat, by omega⟩, ?_⟩
          rw [tableYear]
          dsimp only
          omega
        have written := @addDSTRule_inYear dstOffsetA calendar y ts te (tsYear.trans entry.symm)
        obtain ⟨answer, after, run, answered, wrote⟩ := ih (show 1900 ≤ yFrom + 1 by omega)
          ({ calendar with dst := true }.setDaylight y ts te dstOffsetA)
        refine ⟨answer, after, ?_, by rw [answered]; omega, ?_⟩
        · rw [addDSTYears]
          simp only [firstYear, count, tsOk, teOk, ok_bind, written, run]
          rw [if_pos (by omega), if_pos ⟨teNull, tsNull⟩]
        · exact wrote.after_year entry tsTime teTime
      · refine ⟨false, calendar, ?_, ?_, wrote_nothing calendar ?_⟩
        · rw [addDSTYears]
          simp only [firstYear, count]
          rw [if_neg (by omega)]
          rfl
        · simp
          omega
        · intro y
          have small := y.isLt
          rw [tableYear]
          omega

def WritesYear (yFrom yTo : Int) (begins ends : RuleTime) (y : Fin daylightSavingYears) : Prop :=
  begins.InRange ∧ ends.InRange ∧ begins.day ≠ 0 ∧ ends.day ≠ 0 ∧ 1900 ≤ yFrom ∧ yFrom ≤ tableYear y ∧ tableYear y < yTo

theorem addDSTRules_inRange (calendar : RegionalCalendar) (yFrom yTo : Int) (beginsRange : begins.InRange)
    (endsRange : ends.InRange) : calendar.addDSTRules yFrom yTo true begins ends dstOffsetA =
      addDSTYears begins ends dstOffsetA (yTo - yFrom).toNat yFrom calendar := by
  obtain ⟨beginsOneLe, beginsLe, beginsLower, beginsUpper⟩ := beginsRange
  obtain ⟨endsOneLe, endsLe, endsLower, endsUpper⟩ := endsRange
  rw [addDSTRules, if_neg (by decide), if_neg (by omega), if_neg (by omega), if_neg (by omega), if_neg (by omega)]

theorem addDSTRules_outside (calendar : RegionalCalendar) (yFrom yTo : Int)
    (outside : ¬(begins.InRange ∧ ends.InRange)) :
    calendar.addDSTRules yFrom yTo true begins ends dstOffsetA = .ok (false, calendar) := by
  rw [addDSTRules, if_neg (by decide)]
  by_cases beginsMonth : begins.month < 1 ∨ begins.month > 12
  · rw [if_pos beginsMonth]
    rfl
  · by_cases endsMonth : ends.month < 1 ∨ ends.month > 12
    · rw [if_neg beginsMonth, if_pos endsMonth]
      rfl
    · by_cases beginsDay : begins.day < -5 ∨ begins.day > 31
      · rw [if_neg beginsMonth, if_neg endsMonth, if_pos beginsDay]
        rfl
      · by_cases endsDay : ends.day < -5 ∨ ends.day > 31
        · rw [if_neg beginsMonth, if_neg endsMonth, if_neg beginsDay, if_pos endsDay]
          rfl
        · exact absurd ⟨⟨by omega, by omega, by omega, by omega⟩, ⟨by omega, by omega, by omega, by omega⟩⟩ outside

theorem addDSTYears_zero (beginsRange : begins.InRange) (endsRange : ends.InRange)
    (beginsLower : 0 ≤ begins.sec) (beginsUpper : begins.sec < Utc.day)
    (zero : begins.day = 0 ∨ ends.day = 0) (years : Nat) (yFrom : Int) (calendar : RegionalCalendar) :
    addDSTYears begins ends dstOffsetA (years + 1) yFrom calendar = .ok (false, calendar) := by
  have firstYear : daylightSavingFirstYear = 1900 := rfl
  have count : (daylightSavingYears : Int) = 200 := rfl
  rw [addDSTYears]
  simp only [firstYear, count]
  by_cases inTable : yFrom - 1900 ≥ 0 ∧ yFrom - 1900 < 200
  · rw [if_pos inTable]
    by_cases beginsZero : begins.day = 0
    · rw [timeOfRule_none (by omega) (by omega) beginsRange beginsZero]
      rfl
    · have year : Utc.year = 315360000000000 := rfl
      have day : Utc.day = 864000000000 := rfl
      obtain ⟨ts, tsOk, _⟩ := @timeOfRule_some yFrom _ (by omega) (by omega) beginsRange beginsZero (by omega) (by omega)
      rw [tsOk, ok_bind]
      dsimp only
      rw [timeOfRule_none (by omega) (by omega) endsRange (zero.resolve_left beginsZero)]
      rfl
  · rw [if_neg inTable]
    rfl

theorem addDSTYears_refused {calendar : RegionalCalendar} {yFrom yTo : Int} (beginsRange : begins.InRange)
    (endsRange : ends.InRange) (outside : ¬(1900 ≤ yFrom ∧ begins.day ≠ 0 ∧ ends.day ≠ 0))
    (refuses : ∀ years, addDSTYears begins ends dstOffsetA (years + 1) yFrom calendar = .ok (false, calendar)) :
    ∃ answer after, addDSTYears begins ends dstOffsetA (yTo - yFrom).toNat yFrom calendar = .ok (answer, after) ∧
      (answer = true ↔ begins.InRange ∧ ends.InRange ∧
        (yFrom < yTo → 1900 ≤ yFrom ∧ yTo ≤ 2100 ∧ begins.day ≠ 0 ∧ ends.day ≠ 0)) ∧
      Wrote calendar after begins ends dstOffsetA (WritesYear yFrom yTo begins ends) := by
  have none : ∀ y, ¬WritesYear yFrom yTo begins ends y := by
    rintro y ⟨_, _, beginsDay, endsDay, first, _⟩
    exact outside ⟨first, beginsDay, endsDay⟩
  cases count : (yTo - yFrom).toNat with
  | zero =>
      refine ⟨true, calendar, rfl, ?_, wrote_nothing calendar none⟩
      constructor
      · intro _
        exact ⟨beginsRange, endsRange, fun some => absurd some (by omega)⟩
      · intro _
        rfl
  | succ years =>
      refine ⟨false, calendar, refuses years, ?_, wrote_nothing calendar none⟩
      constructor
      · intro accepted
        cases accepted
      · rintro ⟨_, _, inTable⟩
        obtain ⟨first, _, beginsDay, endsDay⟩ := inTable (by omega)
        exact absurd ⟨first, beginsDay, endsDay⟩ outside

/-- A range of daylight rules: it is accepted exactly when the arguments are in range and
the years are in the table, and it writes the years up to the end of the table in any case. -/
theorem addDSTRules_wrote (calendar : RegionalCalendar) (yFrom yTo : Int) (begins ends : RuleTime) (dstOffsetA : Int)
    (beginsSec : 0 ≤ begins.sec ∧ begins.sec < Utc.day) (endsSec : -Utc.year ≤ ends.sec ∧ ends.sec ≤ Utc.year) :
    ∃ answer after, calendar.addDSTRules yFrom yTo true begins ends dstOffsetA = .ok (answer, after) ∧
      (answer = true ↔ begins.InRange ∧ ends.InRange ∧
        (yFrom < yTo → 1900 ≤ yFrom ∧ yTo ≤ 2100 ∧ begins.day ≠ 0 ∧ ends.day ≠ 0)) ∧
      Wrote calendar after begins ends dstOffsetA (WritesYear yFrom yTo begins ends) := by
  by_cases inRange : begins.InRange ∧ ends.InRange
  · obtain ⟨beginsRange, endsRange⟩ := inRange
    rw [addDSTRules_inRange calendar yFrom yTo beginsRange endsRange]
    by_cases days : begins.day ≠ 0 ∧ ends.day ≠ 0
    · by_cases first : 1900 ≤ yFrom
      · obtain ⟨answer, after, run, answered, wrote⟩ := @addDSTYears_wrote _ _ dstOffsetA beginsRange endsRange days.1
          days.2 beginsSec.1 beginsSec.2 endsSec.1 endsSec.2 (yTo - yFrom).toNat yFrom first calendar
        have same : (fun y => yFrom ≤ tableYear y ∧ tableYear y < yFrom + (yTo - yFrom).toNat) =
            WritesYear yFrom yTo begins ends := by
          funext y
          apply propext
          constructor
          · intro between
            exact ⟨beginsRange, endsRange, days.1, days.2, first, between.1, by omega⟩
          · rintro ⟨_, _, _, _, _, from_, before⟩
            omega
        refine ⟨answer, after, run, ?_, same ▸ wrote⟩
        rw [answered]
        constructor
        · intro inTable
          exact ⟨beginsRange, endsRange, fun some => ⟨first, by omega, days.1, days.2⟩⟩
        · rintro ⟨_, _, inTable⟩
          omega
      · apply addDSTYears_refused beginsRange endsRange (fun inTable => first inTable.1)
        intro years
        have firstYear : daylightSavingFirstYear = 1900 := rfl
        rw [addDSTYears]
        simp only [firstYear]
        rw [if_neg (by omega)]
        rfl
    · have zero : begins.day = 0 ∨ ends.day = 0 := by omega
      apply addDSTYears_refused beginsRange endsRange (fun inTable => days inTable.2)
      intro years
      exact addDSTYears_zero beginsRange endsRange beginsSec.1 beginsSec.2 zero years yFrom calendar
  · refine ⟨false, calendar, addDSTRules_outside calendar yFrom yTo inRange, ?_, wrote_nothing calendar ?_⟩
    · constructor
      · intro accepted
        cases accepted
      · rintro ⟨beginsRange, endsRange, _⟩
        exact absurd ⟨beginsRange, endsRange⟩ inRange
    · rintro y ⟨beginsRange, endsRange, _⟩
      exact inRange ⟨beginsRange, endsRange⟩

theorem addDSTRules_wrote_1996 : ∃ answer after,
    utcCalendar.addDSTRules 1996 2099 true ⟨3, -5, Utc.hour⟩ ⟨10, -5, Utc.hour⟩ Utc.hour = .ok (answer, after) ∧
      answer = true ∧
      Wrote utcCalendar after ⟨3, -5, Utc.hour⟩ ⟨10, -5, Utc.hour⟩ Utc.hour
        (WritesYear 1996 2099 ⟨3, -5, Utc.hour⟩ ⟨10, -5, Utc.hour⟩) := by
  obtain ⟨answer, after, run, answered, wrote⟩ := addDSTRules_wrote utcCalendar 1996 2099 ⟨3, -5, Utc.hour⟩
    ⟨10, -5, Utc.hour⟩ Utc.hour (by decide) (by decide)
  exact ⟨answer, after, run, answered.mpr (by decide), wrote⟩

/-- A range that runs past the table is refused after the years up to its end are written;
and the thirty-first of April is accepted as the first of May. -/
theorem addDSTRules_partial :
    (∃ after, utcCalendar.addDSTRules 2099 2101 true ⟨3, 25, 0⟩ ⟨10, 25, 0⟩ Utc.hour = .ok (false, after) ∧
      utcCalendar.dst = false ∧ after.dst = true ∧
      utcCalendar.daylightStart ⟨199, by decide⟩ = UtcTime.null ∧ after.daylightStart ⟨199, by decide⟩ ≠ UtcTime.null) ∧
    ∃ after, utcCalendar.addDSTRules 2000 2001 true ⟨4, 31, 0⟩ ⟨10, 31, 0⟩ Utc.hour = .ok (true, after) ∧
      (after.daylightStart ⟨100, by decide⟩).ticks = dayClock (dayNumber 2000 5 1) := by
  constructor
  · refine ⟨_, rfl, rfl, rfl, rfl, by decide⟩
  · exact ⟨_, rfl, by decide⟩

end Years

end RegionalCalendar

end ServiceHost
