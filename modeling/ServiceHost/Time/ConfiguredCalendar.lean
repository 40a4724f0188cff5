import ServiceHost.Time.ConfiguredDefinition
import ServiceHost.Time.DstRules
import ServiceHost.Time.LocalDays

/-!
The table of a configured calendar. The start and the end of daylight saving are the
midnights of the two days, so a negative day number is a day before the month and no
Sunday; and a year has an entry only if its first midnight is in that year in UTC.
-/

namespace ServiceHost

open Library

structure MonthDay.InRange (rule : MonthDay) : Prop where
  oneLeMonth : 1 ≤ rule.month
  monthLe : rule.month ≤ 12
  lower : -5 ≤ rule.day
  notZero : rule.day ≠ 0
  upper : rule.day ≤ 31

namespace RegionalCalendar

section TableYear

def utcYear (t : Int) : Int := Julian.j2Y (Julian.ticks2j t)

theorem tdiv_neg_bounds {value : Int} (negative : value < 0) {divisor : Int} (positive : 0 < divisor) :
    value ≤ divisor * value.tdiv divisor ∧ divisor * value.tdiv divisor < value + divisor := by
  have negated := Int.neg_tdiv (-value) divisor
  rw [Int.neg_neg, Int.tdiv_eq_ediv_of_nonneg (show 0 ≤ -value by omega)] at negated
  have floor := Int.mul_ediv_add_emod (-value) divisor
  have least := Int.emod_nonneg (-value) (show divisor ≠ 0 by omega)
  have most := Int.emod_lt_of_pos (-value) positive
  rw [negated, Int.mul_neg]
  omega

theorem j2Y_negative {julDate : Int} (negative : julDate < 0) : Julian.j2Y julDate < 1900 := by
  have bounds (value : Int) {divisor : Int} (positive : 0 < divisor) :
      0 ≤ value ∧ divisor * value.tdiv divisor ≤ value ∧ value < divisor * value.tdiv divisor + divisor ∨
        value < 0 ∧ value ≤ divisor * value.tdiv divisor ∧ divisor * value.tdiv divisor < value + divisor := by
    rcases lt_or_ge value 0 with below | above
    · exact Or.inr ⟨below, tdiv_neg_bounds below positive⟩
    · rw [Int.tdiv_eq_ediv_of_nonneg above]
      have floor := Int.mul_ediv_add_emod value divisor
      have least := Int.emod_nonneg value (show divisor ≠ 0 by omega)
      have most := Int.emod_lt_of_pos value positive
      exact Or.inl ⟨above, by omega, by omega⟩
  unfold Julian.j2Y
  dsimp only
  have first := bounds (4 * (julDate + 68569)) (show 0 < (146097 : Int) by decide)
  obtain ⟨t2, t2Eq⟩ : ∃ t2, t2 = (4 * (julDate + 68569)).tdiv 146097 := ⟨_, rfl⟩
  rw [← t2Eq] at first ⊢
  have second := bounds (146097 * t2 + 3) (show 0 < (4 : Int) by decide)
  obtain ⟨centuryDays, centuryEq⟩ : ∃ centuryDays, centuryDays = (146097 * t2 + 3).tdiv 4 := ⟨_, rfl⟩
  rw [← centuryEq] at second ⊢
  have third := bounds (4000 * (julDate + 68569 - centuryDays + 1)) (show 0 < (1461001 : Int) by decide)
  obtain ⟨yr, yrEq⟩ : ∃ yr, yr = (4000 * (julDate + 68569 - centuryDays + 1)).tdiv 1461001 := ⟨_, rfl⟩
  rw [← yrEq] at third ⊢
  have fourth := bounds (1461 * yr) (show 0 < (4 : Int) by decide)
  obtain ⟨yearDays, yearEq⟩ : ∃ yearDays, yearDays = (1461 * yr).tdiv 4 := ⟨_, rfl⟩
  rw [← yearEq] at fourth ⊢
  have fifth := bounds (80 * (julDate + 68569 - centuryDays - yearDays + 31)) (show 0 < (2447 : Int) by decide)
  obtain ⟨mo, moEq⟩ : ∃ mo, mo = (80 * (julDate + 68569 - centuryDays - yearDays + 31)).tdiv 2447 := ⟨_, rfl⟩
  rw [← moEq] at fifth ⊢
  have sixth := bounds mo (show 0 < (11 : Int) by decide)
  obtain ⟨t1, t1Eq⟩ : ∃ t1, t1 = mo.tdiv 11 := ⟨_, rfl⟩
  rw [← t1Eq] at sixth ⊢
  have known : t2 ≤ 1 := by omega
  omega

theorem plain_of_tableYear {t : Int} (lower : -2 ^ 63 ≤ t) (upper : t < 2 ^ 63) {y : Fin daylightSavingYears}
    (inYear : utcYear t = tableYear y) :
    Plain t ∧ Julian.Y2j (tableYear y) ≤ dayOf t ∧ dayOf t < Julian.Y2j (tableYear y + 1) := by
  have years : daylightSavingYears = 200 := rfl
  have firstYear : daylightSavingFirstYear = 1900 := rfl
  have small := y.isLt
  have entry : tableYear y = daylightSavingFirstYear + (y.val : Int) := rfl
  have table := tableYear_days (show 1900 ≤ tableYear y by omega) (by omega)
  have reference : Julian.referenceTicks = 1487312064000000000 := rfl
  have day : Utc.day = 864000000000 := rfl
  have yearTicks : Utc.year = 315360000000000 := rfl
  have days : Julian.ticks2j t = (long (1487312064000000000 + t)).tdiv 864000000000 := by
    rw [Julian.ticks2j, reference, day]
  unfold utcYear at inYear
  rcases lt_or_ge (Julian.ticks2j t) 0 with negative | counted
  · have early := j2Y_negative negative
    omega
  · obtain ⟨after, before⟩ := (@Julian.j2Y_eq_iff _ counted (tableYear y) (by omega)).mp inYear
    rw [days] at after before counted
    have nonneg : 0 ≤ long (1487312064000000000 + t) := by
      rcases lt_or_ge (long (1487312064000000000 + t)) 0 with negative | nonneg
      · have bounds := tdiv_neg_bounds negative (show 0 < (864000000000 : Int) by decide)
        omega
      · exact nonneg
    rw [Int.tdiv_eq_ediv_of_nonneg nonneg] at after before
    have noWrap : long (1487312064000000000 + t) = 1487312064000000000 + t := by
      simp only [long, Int.bmod_def] at nonneg after before ⊢
      split at nonneg <;> split at after <;> split at before <;> split <;> omega
    rw [noWrap] at after before
    rw [dayOf_eq]
    refine ⟨⟨?_, ?_⟩, ?_, ?_⟩
    · rw [yearTicks]
      omega
    · omega
    · omega
    · omega

theorem tableYear_bounds (y : Fin daylightSavingYears) : 1900 ≤ tableYear y ∧ tableYear y ≤ 2099 := by
  have years : daylightSavingYears = 200 := rfl
  have firstYear : daylightSavingFirstYear = 1900 := rfl
  have small := y.isLt
  unfold tableYear
  omega

theorem tableYear_inj {y other : Fin daylightSavingYears} (same : tableYear y = tableYear other) : y = other := by
  unfold tableYear at same
  exact Fin.ext (by omega)

theorem exists_tableYear {year : Int} (first : 1900 ≤ year) (last : year ≤ 2099) :
    ∃ y : Fin daylightSavingYears, tableYear y = year := by
  have years : daylightSavingYears = 200 := rfl
  have firstYear : daylightSavingFirstYear = 1900 := rfl
  refine ⟨⟨(year - 1900).toNat, by omega⟩, ?_⟩
  rw [tableYear]
  dsimp only
  omega

theorem index_tableYear {year : Int} (inside : ¬(year - daylightSavingFirstYear < 0 ∨
    year - daylightSavingFirstYear ≥ daylightSavingYears)) (y : Fin daylightSavingYears) :
    (⟨(year - daylightSavingFirstYear).toNat, by omega⟩ : Fin daylightSavingYears) = y ↔ year = tableYear y := by
  have years : daylightSavingYears = 200 := rfl
  have firstYear : daylightSavingFirstYear = 1900 := rfl
  have small := y.isLt
  rw [Fin.ext_iff, tableYear]
  dsimp only
  omega

end TableYear

section Entries

variable (calendar : RegionalCalendar)

theorem offsetAt_table (t : Int) : calendar.offsetAt t = calendar.utcOffset ∨
    ∃ y, utcYear t = tableYear y ∧ calendar.daylightStart y ≠ UtcTime.null ∧ calendar.daylightEnd y ≠ UtcTime.null ∧
      observedAt (calendar.daylightStart y).ticks (calendar.daylightEnd y).ticks t = true ∧
      calendar.offsetAt t = calendar.utcOffset + calendar.dstOffset y := by
  unfold offsetAt
  split
  · exact Or.inl rfl
  · dsimp only
    split
    · exact Or.inl rfl
    · rename_i inside
      split
      · exact Or.inl rfl
      · rename_i known
        rw [not_or] at known
        split
        · rename_i observed
          exact Or.inr ⟨_, (index_tableYear inside _).mp rfl, UtcTime.ne_null_iff.mpr known.1,
            UtcTime.ne_null_iff.mpr known.2, observed, rfl⟩
        · exact Or.inl (Int.add_zero _)

variable {calendar}

theorem offsetAt_observed (dst : calendar.dst = true) {t : Int} (notNull : t ≠ 0) {y : Fin daylightSavingYears}
    (inYear : utcYear t = tableYear y) (startNull : calendar.daylightStart y ≠ UtcTime.null)
    (endNull : calendar.daylightEnd y ≠ UtcTime.null)
    (observed : observedAt (calendar.daylightStart y).ticks (calendar.daylightEnd y).ticks t = true) :
    calendar.offsetAt t = calendar.utcOffset + calendar.dstOffset y := by
  have bounds := tableYear_bounds y
  have years : daylightSavingYears = 200 := rfl
  have firstYear : daylightSavingFirstYear = 1900 := rfl
  unfold utcYear at inYear
  have inside : ¬(Julian.j2Y (Julian.ticks2j t) - daylightSavingFirstYear < 0 ∨
      Julian.j2Y (Julian.ticks2j t) - daylightSavingFirstYear ≥ daylightSavingYears) := by omega
  have index := (index_tableYear inside y).mpr inYear
  unfold offsetAt
  rw [if_neg (by simp [dst, notNull, Utc.null])]
  dsimp only
  rw [dif_neg inside, index, if_neg, if_pos observed]
  rw [not_or]
  exact ⟨UtcTime.ne_null_iff.mp startNull, UtcTime.ne_null_iff.mp endNull⟩

theorem offsetAt_empty {t : Int} {y : Fin daylightSavingYears} (inYear : utcYear t = tableYear y)
    (empty : calendar.daylightStart y = UtcTime.null) : calendar.offsetAt t = calendar.utcOffset := by
  rcases offsetAt_table calendar t with standard | ⟨other, otherYear, startNull, _⟩
  · exact standard
  · obtain rfl := tableYear_inj (inYear.symm.trans otherYear)
    exact absurd empty startNull

theorem addDSTRule_entry (ts te : UtcTime) (dstOffsetA : Int) :
    (calendar.addDSTRule ts te dstOffsetA).2.utcOffset = calendar.utcOffset ∧
      (calendar.addDSTRule ts te dstOffsetA).2.dst = true ∧
      ∀ y, ((calendar.addDSTRule ts te dstOffsetA).2.daylightStart y, (calendar.addDSTRule ts te dstOffsetA).2.daylightEnd y,
          (calendar.addDSTRule ts te dstOffsetA).2.dstOffset y) =
        if utcYear ts.ticks = tableYear y then (ts, te, dstOffsetA)
        else (calendar.daylightStart y, calendar.daylightEnd y, calendar.dstOffset y) := by
  by_cases inTable : ∃ y : Fin daylightSavingYears, utcYear ts.ticks = tableYear y
  · obtain ⟨entry, inYear⟩ := inTable
    rw [addDSTRule_inYear calendar entry inYear]
    refine ⟨rfl, rfl, ?_⟩
    intro y
    by_cases same : y = entry
    · subst same
      rw [if_pos inYear]
      simp [setDaylight]
    · have different : utcYear ts.ticks ≠ tableYear y := fun other => same (tableYear_inj (other.symm.trans inYear))
      rw [if_neg different]
      simp [setDaylight, same]
  · have outside : ({ calendar with dst := true } : RegionalCalendar).dstYearIndex ts = none := by
      have years : daylightSavingYears = 200 := rfl
      have firstYear : daylightSavingFirstYear = 1900 := rfl
      unfold dstYearIndex
      rw [if_neg (by simp)]
      dsimp only
      rw [dif_pos]
      by_contra inside
      have member := @exists_tableYear (Julian.j2Y (Julian.ticks2j ts.ticks)) (by omega) (by omega)
      exact inTable (member.imp fun y same => same.symm)
    unfold addDSTRule
    dsimp only
    rw [outside]
    refine ⟨rfl, rfl, ?_⟩
    intro y
    rw [if_neg fun inYear => inTable ⟨y, inYear⟩]

end Entries

section Midnight

variable {calendar : RegionalCalendar} {utcOffset : Int}

def standardMidnight (utcOffset julDate : Int) : UtcTime := .ofTicks (dayClock julDate - utcOffset)

def summerMidnight (utcOffset julDate : Int) : UtcTime := .ofTicks (dayClock julDate - utcOffset - Utc.hour)

def HourDaylight (calendar : RegionalCalendar) (utcOffset : Int) : Prop :=
  calendar.utcOffset = utcOffset ∧ ∀ y, calendar.daylightStart y ≠ UtcTime.null → calendar.dstOffset y = Utc.hour

theorem HourDaylight.offsetAt (hourDaylight : HourDaylight calendar utcOffset) (t : Int) :
    calendar.offsetAt t = utcOffset ∨ calendar.offsetAt t = utcOffset + Utc.hour := by
  obtain ⟨same, hour⟩ := hourDaylight
  rcases offsetAt_table calendar t with standard | ⟨y, _, startNull, _, _, daylight⟩
  · exact Or.inl (standard.trans same)
  · right
    rw [daylight, same, hour y startNull]

theorem toUtcTime_date {year month day : Int} (plain : Plain (dayClock (dayNumber year month day))) :
    calendar.toUtcTime ⟨⟨year, month, day⟩, 0, 0, 0, 0⟩ =
      calendar.adjustToTz (.ofTicks (dayClock (dayNumber year month day))) := by
  have clock : Julian.j2ticks (dayNumber year month day) + 0 * Utc.hour + 0 * Utc.minute + 0 * Utc.second +
      (0 * Utc.second).tdiv 1000 = dayClock (dayNumber year month day) := by
    rw [j2ticks_plain plain]
    simp
  unfold dayNumber at clock
  rw [toUtcTime, clock, dayNumber]

theorem adjustToTz_cases {julDate : Int} (plain : Plain (dayClock julDate)) {t : UtcTime}
    (adjusted : calendar.adjustToTz (.ofTicks (dayClock julDate)) = .ok t) :
    ∃ u, (u = dayClock julDate ∨ u = (UtcTime.ofTicks (dayClock julDate - calendar.offsetAt (dayClock julDate))).ticks) ∧
      t = .ofTicks (dayClock julDate - calendar.offsetAt u) := by
  obtain ⟨ticks, ordinary⟩ := plain_ticks plain
  rw [adjustToTz, if_pos ordinary.notNull, diffUtc_eq, ok_bind, ordinary.sub_eq, ok_bind, ticks] at adjusted
  obtain ⟨guess, guessEq⟩ : ∃ guess, guess = UtcTime.ofTicks (dayClock julDate - calendar.offsetAt (dayClock julDate)) :=
    ⟨_, rfl⟩
  rw [← guessEq] at adjusted ⊢
  have first {t : UtcTime} (same : guess = t) : ∃ u, (u = dayClock julDate ∨ u = guess.ticks) ∧
      t = .ofTicks (dayClock julDate - calendar.offsetAt u) := ⟨_, Or.inl rfl, same ▸ guessEq⟩
  split at adjusted
  · exact first (Except.ok.inj adjusted)
  · rw [diffUtc_eq, ok_bind] at adjusted
    split at adjusted
    · rw [UtcTime.add] at adjusted
      split at adjusted
      · cases adjusted
      · split at adjusted
        · rename_i sentinel
          exact first (sentinel.trans (Except.ok.inj adjusted))
        · split at adjusted
          · rename_i sentinel
            exact first (sentinel.trans (Except.ok.inj adjusted))
          · obtain rfl := Except.ok.inj adjusted
            refine ⟨guess.ticks, Or.inr rfl, UtcTime.ext ?_⟩
            obtain ⟨u, uEq⟩ : ∃ u, u = calendar.offsetAt guess.ticks := ⟨_, rfl⟩
            rw [← uEq, guessEq]
            simp only [UtcTime.ofTicks, long, Int.bmod_add_bmod]
            congr 1
            omega
    · exact first (Except.ok.inj adjusted)

def IsMidnight (utcOffset julDate : Int) (t : UtcTime) : Prop :=
  t = standardMidnight utcOffset julDate ∨ t = summerMidnight utcOffset julDate

theorem HourDaylight.isMidnight (hourDaylight : HourDaylight calendar utcOffset) (julDate u : Int) :
    IsMidnight utcOffset julDate (.ofTicks (dayClock julDate - calendar.offsetAt u)) := by
  rcases hourDaylight.offsetAt u with standard | daylight
  · rw [standard]
    exact Or.inl rfl
  · rw [daylight, ← Int.sub_sub]
    exact Or.inr rfl

structure Reachable (utcOffset julDate : Int) : Prop where
  offsetLower : -300000 * Utc.day ≤ utcOffset
  offsetUpper : utcOffset ≤ 300000 * Utc.day
  dayLower : 2300000 ≤ julDate
  dayUpper : julDate ≤ 2600000

theorem Reachable.midnight_ticks {julDate : Int} (reachable : Reachable utcOffset julDate) :
    (standardMidnight utcOffset julDate).ticks = dayClock julDate - utcOffset ∧ Plain (standardMidnight utcOffset julDate).ticks := by
  obtain ⟨offsetLower, offsetUpper, dayLower, dayUpper⟩ := reachable
  have day : Utc.day = 864000000000 := rfl
  have year : Utc.year = 315360000000000 := rfl
  rw [day] at offsetLower offsetUpper
  have ticks : (standardMidnight utcOffset julDate).ticks = dayClock julDate - utcOffset :=
    UtcTime.ofTicks_ticks (by rw [dayClock_eq]; omega) (by rw [dayClock_eq]; omega)
  refine ⟨ticks, ?_⟩
  rw [ticks, dayClock_eq]
  constructor <;> omega

theorem Reachable.summerMidnight_ticks {julDate : Int} (reachable : Reachable utcOffset julDate) :
    (summerMidnight utcOffset julDate).ticks = dayClock julDate - utcOffset - Utc.hour ∧
      Plain (summerMidnight utcOffset julDate).ticks := by
  obtain ⟨offsetLower, offsetUpper, dayLower, dayUpper⟩ := reachable
  have day : Utc.day = 864000000000 := rfl
  have hour : Utc.hour = 36000000000 := rfl
  have year : Utc.year = 315360000000000 := rfl
  rw [day] at offsetLower offsetUpper
  have ticks : (summerMidnight utcOffset julDate).ticks = dayClock julDate - utcOffset - Utc.hour :=
    UtcTime.ofTicks_ticks (by rw [dayClock_eq]; omega) (by rw [dayClock_eq]; omega)
  refine ⟨ticks, ?_⟩
  rw [ticks, dayClock_eq]
  constructor <;> omega

theorem Reachable.midnight_order {julDate later : Int} (reachable : Reachable utcOffset julDate)
    (laterReachable : Reachable utcOffset later) (before : julDate < later) :
    (standardMidnight utcOffset julDate).ticks ≤ (summerMidnight utcOffset later).ticks ∧
      (summerMidnight utcOffset later).ticks < (standardMidnight utcOffset later).ticks := by
  have hour : Utc.hour = 36000000000 := rfl
  rw [reachable.midnight_ticks.1, laterReachable.midnight_ticks.1, laterReachable.summerMidnight_ticks.1, dayClock_eq,
    dayClock_eq, hour]
  omega

theorem ordinary_of_plain {t : UtcTime} (plain : Plain t.ticks) : t.Ordinary := by
  obtain ⟨lower, upper⟩ := plain
  have year : Utc.year = 315360000000000 := rfl
  have maxValue : Utc.maxValue = 9223372036854775807 := rfl
  have minValue : Utc.minValue = -9223372036854775807 := rfl
  rw [UtcTime.ordinary_iff]
  omega

def ShowsNumber (calendar : RegionalCalendar) (t : UtcTime) (julDate : Int) : Prop :=
  ∃ units, calendar.asYMDhms_tick t = .ok units ∧ Julian.YMD2j units.date = julDate

theorem showsNumber_midnight (hourDaylight : HourDaylight calendar utcOffset) {julDate shown : Int}
    (reachable : Reachable utcOffset julDate) {t : UtcTime}
    (isMidnight : IsMidnight utcOffset julDate t) :
    ShowsNumber calendar t shown ↔
      shown = if t = summerMidnight utcOffset julDate ∧ calendar.offsetAt t.ticks = utcOffset then julDate - 1
        else julDate := by
  have day : Utc.day = 864000000000 := rfl
  have hour : Utc.hour = 36000000000 := rfl
  have year : Utc.year = 315360000000000 := rfl
  obtain ⟨ticks, plain⟩ := reachable.midnight_ticks
  obtain ⟨summerTicks, summerPlain⟩ := reachable.summerMidnight_ticks
  have different : standardMidnight utcOffset julDate ≠ summerMidnight utcOffset julDate := by
    intro same
    have sameTicks := congrArg UtcTime.ticks same
    rw [ticks, summerTicks] at sameTicks
    omega
  have dayLower := reachable.dayLower
  have dayUpper := reachable.dayUpper
  have clock : ∃ clock, t.ticks + calendar.offsetAt t.ticks = clock ∧ dayOf clock =
      (if t = summerMidnight utcOffset julDate ∧ calendar.offsetAt t.ticks = utcOffset then julDate - 1 else julDate) ∧
      -Utc.year ≤ clock ∧ clock < 2 ^ 62 := by
    refine ⟨_, rfl, ?_⟩
    rw [dayOf_eq]
    rcases hourDaylight.offsetAt t.ticks with standard | daylight
    · rw [standard]
      rcases isMidnight with same | same
      · rw [if_neg (fun both => different (same.symm.trans both.1)), same, ticks, dayClock_eq]
        omega
      · rw [if_pos ⟨same, rfl⟩, same, summerTicks, dayClock_eq]
        omega
    · rw [daylight, if_neg (by omega)]
      rcases isMidnight with same | same
      · rw [same, ticks, dayClock_eq]
        omega
      · rw [same, summerTicks, dayClock_eq]
        omega
  obtain ⟨clock, clockEq, shownDay, lower, upper⟩ := clock
  have ordinary : t.Ordinary := by
    apply ordinary_of_plain
    rcases isMidnight with rfl | rfl
    · exact plain
    · exact summerPlain
  have shows := asYMDhms_tick_eq ordinary (by rw [clockEq]; exact lower) (by rw [clockEq]; exact upper)
  rw [clockEq] at shows
  have number := YMD2j_tickUnits lower
  rw [← shownDay, ← number]
  constructor
  · rintro ⟨units, found, rfl⟩
    rw [shows] at found
    rw [Except.ok.inj found]
  · rintro rfl
    exact ⟨_, shows, rfl⟩

end Midnight

section Days

variable {begins : MonthDay}

theorem dayNumber_later {year later month : Int} (known : -4700 ≤ year) (oneLeMonth : 1 ≤ month)
    (monthLe : month ≤ 12) (order : year < later) (day : Int) :
    dayNumber year month day + 365 ≤ dayNumber later month day := by
  unfold dayNumber
  rcases le_or_gt month 2 with early | late
  · have first := @Julian.YMD2j_early ⟨year, month, day⟩ oneLeMonth early
    have second := @Julian.YMD2j_early ⟨later, month, day⟩ oneLeMonth early
    have atLeast := Julian.Y2j_succ (show -4799 ≤ year by omega)
    have order := Julian.Y2j_mono (show -4799 ≤ year + 1 by omega) (show year + 1 ≤ later by omega)
    dsimp only at first second
    omega
  · have first := @Julian.YMD2j_late ⟨year, month, day⟩ late monthLe
    have second := @Julian.YMD2j_late ⟨later, month, day⟩ late monthLe
    have atLeast := Julian.Y2j_succ (show -4799 ≤ year + 1 by omega)
    have order := Julian.Y2j_mono (show -4799 ≤ year + 1 + 1 by omega) (show year + 1 + 1 ≤ later + 1 by omega)
    dsimp only at first second
    omega

theorem meansDay_number {year other meant early : Int} (known : -4700 ≤ year) (otherKnown : -4700 ≤ other)
    (inRange : begins.InRange) (means : MeansDay year begins.month begins.day meant) (zeroLe : 0 ≤ early) (le : early ≤ 1)
    (same : dayNumber other begins.month begins.day - early = dayNumber year begins.month meant) :
    other = year ∧ 1 ≤ begins.day ∧ early = 0 := by
  obtain ⟨oneLe, monthLe, lower, notZero, upper⟩ := inRange
  obtain ⟨meantOneLe, meantLe⟩ := means.bounds upper
  have here := dayNumber_eq year begins.month meant
  have there := dayNumber_eq other begins.month begins.day
  have sameYear : other = year := by
    rcases Int.lt_trichotomy other year with before | same | after
    · have far := dayNumber_later otherKnown oneLe monthLe before 1
      omega
    · exact same
    · have far := dayNumber_later known oneLe monthLe after 1
      omega
  subst sameYear
  refine ⟨rfl, by omega, ?_⟩
  rcases means with ⟨_, rfl⟩ | ⟨_, _, _, _, _⟩ | ⟨_, _, _, _, _⟩ <;> omega

theorem dayNumber_table (inRange : begins.InRange) {year : Int} (first : 1900 ≤ year)
    (last : year ≤ 2099) : 2300000 ≤ dayNumber year begins.month begins.day ∧
      dayNumber year begins.month begins.day ≤ 2600000 := by
  obtain ⟨oneLe, monthLe, lower, notZero, upper⟩ := inRange
  have table := tableYear_days first last
  have start := dayNumber_bounds (show -4700 ≤ year by omega) oneLe monthLe (Int.le_refl 1) (by decide)
  have place := dayNumber_eq year begins.month begins.day
  omega

def ShowsDay (calendar : RegionalCalendar) (t : UtcTime) (year : Int) (rule : MonthDay) : Prop :=
  ∃ meant, MeansDay year rule.month rule.day meant ∧ ShowsNumber calendar t (dayNumber year rule.month meant)

def FollowsRule (calendar : RegionalCalendar) (begins ends : MonthDay) : Prop :=
  calendar.dst = true ∧ ∀ y, calendar.dstOffset y = Utc.hour ∧
    ShowsDay calendar (calendar.daylightStart y) (tableYear y) begins ∧
    ShowsDay calendar (calendar.daylightEnd y) (tableYear y) ends

def StartsInYear (utcOffset : Int) (begins : MonthDay) : Prop :=
  ∀ y, utcYear (standardMidnight utcOffset (dayNumber (tableYear y) begins.month begins.day)).ticks = tableYear y

theorem ShowsDay.notNull {calendar : RegionalCalendar} {t : UtcTime} {year : Int} {rule : MonthDay}
    (shows : ShowsDay calendar t year rule) : t ≠ UtcTime.null := by
  rintro rfl
  obtain ⟨_, _, units, found, _⟩ := shows
  rw [asYMDhms_tick, diffUtc_eq, ok_bind] at found
  cases found

theorem ShowsDay.sameYear {calendar : RegionalCalendar} {utcOffset : Int} (hourDaylight : HourDaylight calendar utcOffset)
    (inRange : begins.InRange) {year other : Int} (known : -4700 ≤ year) (otherKnown : -4700 ≤ other) {t : UtcTime}
    (reachable : Reachable utcOffset (dayNumber other begins.month begins.day))
    (isMidnight : IsMidnight utcOffset (dayNumber other begins.month begins.day) t)
    (shows : ShowsDay calendar t year begins) : other = year ∧ 1 ≤ begins.day := by
  obtain ⟨meant, means, number⟩ := shows
  have shown := (showsNumber_midnight hourDaylight reachable isMidnight).mp number
  split at shown
  · obtain ⟨sameYear, itself, _⟩ := @meansDay_number _ _ _ _ 1 known otherKnown inRange means (by decide) (by decide)
      shown.symm
    exact ⟨sameYear, itself⟩
  · obtain ⟨sameYear, itself, _⟩ := @meansDay_number _ _ _ _ 0 known otherKnown inRange means (by decide) (by decide)
      (by omega)
    exact ⟨sameYear, itself⟩

end Days

section Run

variable {calendar after : RegionalCalendar} {utcOffset : Int} {begins ends : MonthDay}

structure MadeIn (calendar : RegionalCalendar) (utcOffset : Int) (begins ends : MonthDay) (y : Fin daylightSavingYears)
    (year : Int) : Prop where
  first : 1900 ≤ year
  last : year ≤ 2099
  inYear : utcYear (calendar.daylightStart y).ticks = tableYear y
  start : IsMidnight utcOffset (dayNumber year begins.month begins.day) (calendar.daylightStart y)
  stop : IsMidnight utcOffset (dayNumber year ends.month ends.day) (calendar.daylightEnd y)
  hour : calendar.dstOffset y = Utc.hour

structure Table (calendar : RegionalCalendar) (utcOffset : Int) (begins ends : MonthDay)
    (years : Fin daylightSavingYears → Int → Prop) : Prop where
  offset : calendar.utcOffset = utcOffset
  entry : ∀ y, calendar.daylightStart y = UtcTime.null ∨ ∃ year, years y year ∧ MadeIn calendar utcOffset begins ends y year

theorem Table.hourDaylight {years : Fin daylightSavingYears → Int → Prop}
    (table : Table calendar utcOffset begins ends years) : HourDaylight calendar utcOffset := by
  refine ⟨table.offset, ?_⟩
  intro y startNull
  rcases table.entry y with empty | ⟨year, _, made⟩
  · exact absurd empty startNull
  · exact made.hour

theorem reachable_of_tableYear (lower : -2 ^ 63 ≤ utcOffset) (upper : utcOffset < 2 ^ 63) {t : UtcTime} {number : Int}
    (numberLower : 2300000 ≤ number) (numberUpper : number ≤ 2600000) (isMidnight : IsMidnight utcOffset number t)
    {y : Fin daylightSavingYears} (inYear : utcYear t.ticks = tableYear y) {julDate : Int}
    (dayLower : 2300000 ≤ julDate) (dayUpper : julDate ≤ 2600000) : Reachable utcOffset julDate := by
  have bounds := tableYear_bounds y
  have table := tableYear_days bounds.1 bounds.2
  have day : Utc.day = 864000000000 := rfl
  have hour : Utc.hour = 36000000000 := rfl
  have yearTicks : Utc.year = 315360000000000 := rfl
  obtain ⟨plain, after, before⟩ := plain_of_tableYear t.lower t.upper inYear
  obtain ⟨plainLower, plainUpper⟩ := plain
  have noWrap {value : Int} (low : -2 ^ 63 ≤ value) (high : value < 2 ^ 63 + 2 ^ 62)
      (positive : 0 < (UtcTime.ofTicks value).ticks) : (UtcTime.ofTicks value).ticks = value := by
    simp only [UtcTime.ofTicks, long, Int.bmod_def] at positive ⊢
    split at positive <;> split <;> omega
  have ticks : t.ticks = dayClock number - utcOffset ∨ t.ticks = dayClock number - utcOffset - Utc.hour := by
    rcases isMidnight with rfl | rfl
    · left
      rw [standardMidnight] at plainLower ⊢
      exact noWrap (by rw [dayClock_eq]; omega) (by rw [dayClock_eq]; omega) (by omega)
    · right
      rw [summerMidnight] at plainLower ⊢
      exact noWrap (by rw [dayClock_eq]; omega) (by rw [dayClock_eq]; omega) (by omega)
  rw [dayOf_eq] at after before
  rw [dayClock_eq] at ticks
  refine ⟨?_, ?_, dayLower, dayUpper⟩
  · rw [day]
    omega
  · rw [day]
    omega

theorem MadeIn.reachable {y : Fin daylightSavingYears} {year : Int} (made : MadeIn calendar utcOffset begins ends y year)
    (lower : -2 ^ 63 ≤ utcOffset) (upper : utcOffset < 2 ^ 63) (beginsRange : begins.InRange) {julDate : Int}
    (dayLower : 2300000 ≤ julDate) (dayUpper : julDate ≤ 2600000) : Reachable utcOffset julDate := by
  have number := dayNumber_table beginsRange made.first made.last
  exact reachable_of_tableYear lower upper number.1 number.2 made.start made.inYear dayLower dayUpper

theorem Table.addDSTRule {years later : Fin daylightSavingYears → Int → Prop} {year : Int} {ts te : UtcTime}
    (table : Table calendar utcOffset begins ends years) (first : 1900 ≤ year) (last : year ≤ 2099)
    (start : IsMidnight utcOffset (dayNumber year begins.month begins.day) ts)
    (stop : IsMidnight utcOffset (dayNumber year ends.month ends.day) te) (kept : ∀ y year, years y year → later y year)
    (added : ∀ y, utcYear ts.ticks = tableYear y → later y year) :
    Table (calendar.addDSTRule ts te Utc.hour).2 utcOffset begins ends later := by
  obtain ⟨offset, _, entries⟩ := @addDSTRule_entry calendar ts te Utc.hour
  refine ⟨offset.trans table.offset, ?_⟩
  intro y
  have entry := entries y
  simp only [Prod.ext_iff] at entry
  split at entry
  · rename_i inYear
    obtain ⟨startEq, stopEq, hourEq⟩ := entry
    refine Or.inr ⟨year, added y inYear, first, last, ?_, ?_, ?_, hourEq⟩
    · rw [startEq]
      exact inYear
    · rw [startEq]
      exact start
    · rw [stopEq]
      exact stop
  · obtain ⟨startEq, stopEq, hourEq⟩ := entry
    rcases table.entry y with empty | ⟨before, allowed, made⟩
    · left
      rw [startEq]
      exact empty
    · obtain ⟨first, last, inYear, start, stop, hour⟩ := made
      refine Or.inr ⟨before, kept y before allowed, first, last, ?_, ?_, ?_, hourEq.trans hour⟩
      · rw [startEq]
        exact inYear
      · rw [startEq]
        exact start
      · rw [stopEq]
        exact stop

theorem addConfiguredRules_succ {years : Nat} {year : Int}
    (run : addConfiguredRules begins ends (years + 1) year calendar = .ok after) : ∃ ts te,
      calendar.toUtcTime ⟨⟨year, begins.month, begins.day⟩, 0, 0, 0, 0⟩ = .ok ts ∧
      calendar.toUtcTime ⟨⟨year, ends.month, ends.day⟩, 0, 0, 0, 0⟩ = .ok te ∧
      addConfiguredRules begins ends years (year + 1) (calendar.addDSTRule ts te Utc.hour).2 = .ok after := by
  rw [addConfiguredRules] at run
  obtain ⟨ts, start, run⟩ := bind_eq_ok_iff.mp run
  obtain ⟨te, stop, run⟩ := bind_eq_ok_iff.mp run
  exact ⟨ts, te, start, stop, run⟩

theorem toUtcTime_rule {rule : MonthDay} (inRange : rule.InRange) {year : Int} (first : 1900 ≤ year)
    (last : year ≤ 2099) {t : UtcTime} (converted : calendar.toUtcTime ⟨⟨year, rule.month, rule.day⟩, 0, 0, 0, 0⟩ = .ok t) :
    ∃ u, (u = dayClock (dayNumber year rule.month rule.day) ∨
        u = (UtcTime.ofTicks (dayClock (dayNumber year rule.month rule.day) -
          calendar.offsetAt (dayClock (dayNumber year rule.month rule.day)))).ticks) ∧
      t = .ofTicks (dayClock (dayNumber year rule.month rule.day) - calendar.offsetAt u) := by
  have number := dayNumber_table inRange first last
  have plain := plain_dayClock (show 2000000 ≤ dayNumber year rule.month rule.day by omega) (by omega)
  rw [toUtcTime_date plain] at converted
  exact adjustToTz_cases plain converted

theorem Table.run (beginsRange : begins.InRange) (endsRange : ends.InRange) {years : Nat} {year : Int}
    (first : 1900 ≤ year) (last : year + years ≤ 2100) {made : Fin daylightSavingYears → Int → Prop}
    (table : Table calendar utcOffset begins ends made)
    (run : addConfiguredRules begins ends years year calendar = .ok after) :
    Table after utcOffset begins ends fun y other => made y other ∨ year ≤ other := by
  induction years generalizing year calendar made with
  | zero =>
      obtain rfl := Except.ok.inj run
      exact ⟨table.offset, fun y => (table.entry y).imp_right fun ⟨other, allowed, entry⟩ => ⟨other, Or.inl allowed, entry⟩⟩
  | succ years ih =>
      obtain ⟨ts, te, start, stop, rest⟩ := addConfiguredRules_succ run
      obtain ⟨u, _, rfl⟩ := toUtcTime_rule beginsRange first (by omega) start
      obtain ⟨v, _, rfl⟩ := toUtcTime_rule endsRange first (by omega) stop
      have next : Table _ utcOffset begins ends fun y other => made y other ∨ other = year :=
        table.addDSTRule first (by omega) (table.hourDaylight.isMidnight _ u) (table.hourDaylight.isMidnight _ v)
          (fun y other allowed => Or.inl allowed) (fun y _ => Or.inr rfl)
      have final := ih (by omega) (by omega) next rest
      refine ⟨final.offset, fun y => (final.entry y).imp_right ?_⟩
      rintro ⟨other, (allowed | rfl) | later, entry⟩
      · exact ⟨other, Or.inl allowed, entry⟩
      · exact ⟨other, Or.inr (Int.le_refl _), entry⟩
      · exact ⟨other, Or.inr (by omega), entry⟩

end Run

section Written

variable {calendar after : RegionalCalendar} {utcOffset : Int} {begins ends : MonthDay}

def ruleMidnight (utcOffset : Int) (rule : MonthDay) (y : Fin daylightSavingYears) : UtcTime :=
  standardMidnight utcOffset (dayNumber (tableYear y) rule.month rule.day)

def EndsOn (calendar : RegionalCalendar) (utcOffset : Int) (ends : MonthDay) (y : Fin daylightSavingYears) : Prop :=
  calendar.daylightEnd y = ruleMidnight utcOffset ends y ∨
  calendar.daylightEnd y = summerMidnight utcOffset (dayNumber (tableYear y) ends.month ends.day) ∧
    ∃ z, tableYear z < tableYear y ∧ utcYear (ruleMidnight utcOffset ends y).ticks = tableYear z ∧
      calendar.daylightEnd z ≠ UtcTime.null ∧
      observedAt (calendar.daylightStart z).ticks (calendar.daylightEnd z).ticks (ruleMidnight utcOffset ends y).ticks = true

structure WrittenUpTo (calendar : RegionalCalendar) (utcOffset : Int) (begins ends : MonthDay) (year : Int) : Prop where
  offset : calendar.utcOffset = utcOffset
  dst : 1900 < year → calendar.dst = true
  inYear : ∀ y, tableYear y < year → utcYear (ruleMidnight utcOffset begins y).ticks = tableYear y
  start : ∀ y, tableYear y < year → calendar.daylightStart y = ruleMidnight utcOffset begins y
  stop : ∀ y, tableYear y < year → EndsOn calendar utcOffset ends y
  hour : ∀ y, tableYear y < year → calendar.dstOffset y = Utc.hour
  empty : ∀ y, year ≤ tableYear y → calendar.daylightStart y = UtcTime.null

theorem WrittenUpTo.table {year : Int} (written : WrittenUpTo calendar utcOffset begins ends year) :
    Table calendar utcOffset begins ends fun y other => other = tableYear y ∧ tableYear y < year := by
  refine ⟨written.offset, ?_⟩
  intro y
  rcases lt_or_ge (tableYear y) year with before | later
  · have bounds := tableYear_bounds y
    refine Or.inr ⟨tableYear y, ⟨rfl, before⟩, bounds.1, bounds.2, ?_, Or.inl (written.start y before), ?_,
      written.hour y before⟩
    · rw [written.start y before]
      exact written.inYear y before
    · rcases written.stop y before with same | ⟨same, _⟩
      · exact Or.inl same
      · exact Or.inr same
  · exact Or.inl (written.empty y later)

theorem utcYear_dayClock {rule : MonthDay} (inRange : rule.InRange) (itself : 1 ≤ rule.day)
    (y : Fin daylightSavingYears) : utcYear (dayClock (dayNumber (tableYear y) rule.month rule.day)) = tableYear y := by
  have bounds := tableYear_bounds y
  have number := dayNumber_table inRange bounds.1 bounds.2
  have plain := plain_dayClock (show 2000000 ≤ dayNumber (tableYear y) rule.month rule.day by omega) (by omega)
  have within := dayNumber_bounds (show -4700 ≤ tableYear y by omega) inRange.oneLeMonth inRange.monthLe itself inRange.upper
  rw [utcYear, ticks2j_clock plain, dayOf_dayClock]
  exact (@Julian.j2Y_eq_iff _ (by omega) (tableYear y) (by omega)).mpr within

theorem utcYear_eq_iff {t : Int} (plain : Plain t) (y : Fin daylightSavingYears) :
    utcYear t = tableYear y ↔ Julian.Y2j (tableYear y) ≤ dayOf t ∧ dayOf t < Julian.Y2j (tableYear y + 1) := by
  have bounds := tableYear_bounds y
  have day : Utc.day = 864000000000 := rfl
  have year : Utc.year = 315360000000000 := rfl
  have lower := plain.lower
  rw [utcYear, ticks2j_clock plain]
  exact @Julian.j2Y_eq_iff _ (by rw [dayOf_eq]; omega) (tableYear y) (by omega)

theorem WrittenUpTo.toUtcTime {y : Fin daylightSavingYears} (written : WrittenUpTo calendar utcOffset begins ends (tableYear y))
    {rule : MonthDay} (inRange : rule.InRange) (itself : 1 ≤ rule.day)
    (reachable : Reachable utcOffset (dayNumber (tableYear y) rule.month rule.day)) :
    calendar.toUtcTime ⟨⟨tableYear y, rule.month, rule.day⟩, 0, 0, 0, 0⟩ =
      .ok (.ofTicks (dayClock (dayNumber (tableYear y) rule.month rule.day) -
        calendar.offsetAt (ruleMidnight utcOffset rule y).ticks)) := by
  have plain := plain_dayClock (show 2000000 ≤ dayNumber (tableYear y) rule.month rule.day by
    have lower := reachable.dayLower
    omega) (by
    have upper := reachable.dayUpper
    omega)
  obtain ⟨clockTicks, ordinary⟩ := plain_ticks plain
  obtain ⟨ticks, midnightPlain⟩ := reachable.midnight_ticks
  have first : calendar.offsetAt (dayClock (dayNumber (tableYear y) rule.month rule.day)) = utcOffset :=
    (offsetAt_empty (utcYear_dayClock inRange itself y) (written.empty y (Int.le_refl _))).trans written.offset
  obtain ⟨clock, clockEq⟩ : ∃ clock, clock = dayClock (dayNumber (tableYear y) rule.month rule.day) := ⟨_, rfl⟩
  have guess : UtcTime.ofTicks ((UtcTime.ofTicks clock).ticks - calendar.offsetAt (UtcTime.ofTicks clock).ticks) =
      ruleMidnight utcOffset rule y := by
    rw [clockEq, clockTicks, first]
    rfl
  have wide : -2 ^ 63 ≤ clock - utcOffset ∧ clock - utcOffset < 2 ^ 63 := by
    rw [clockEq, ← ticks]
    exact ⟨(standardMidnight utcOffset _).lower, (standardMidnight utcOffset _).upper⟩
  rw [toUtcTime_date plain, ← clockEq, adjustToTz_eq (clockEq ▸ ordinary) (by rw [clockEq, clockTicks, first, ← clockEq]; exact wide.1)
    (by rw [clockEq, clockTicks, first, ← clockEq]; exact wide.2)
    (guess ▸ ordinary_of_plain midnightPlain), readBack, clockEq, clockTicks, first, ← ticks]
  rfl

theorem WrittenUpTo.step {y : Fin daylightSavingYears} (written : WrittenUpTo calendar utcOffset begins ends (tableYear y))
    (lower : -2 ^ 63 ≤ utcOffset) (upper : utcOffset < 2 ^ 63) (beginsRange : begins.InRange) (endsRange : ends.InRange)
    (beginsItself : 1 ≤ begins.day) (endsItself : 1 ≤ ends.day)
    (inYear : utcYear (ruleMidnight utcOffset begins y).ticks = tableYear y) (years : Nat) :
    ∃ next, addConfiguredRules begins ends (years + 1) (tableYear y) calendar =
        addConfiguredRules begins ends years (tableYear y + 1) next ∧
      WrittenUpTo next utcOffset begins ends (tableYear y + 1) := by
  have bounds := tableYear_bounds y
  have beginsNumber := dayNumber_table beginsRange bounds.1 bounds.2
  have endsNumber := dayNumber_table endsRange bounds.1 bounds.2
  have start := written.toUtcTime beginsRange beginsItself
    (reachable_of_tableYear lower upper beginsNumber.1 beginsNumber.2 (Or.inl rfl) inYear beginsNumber.1 beginsNumber.2)
  have stop := written.toUtcTime endsRange endsItself
    (reachable_of_tableYear lower upper beginsNumber.1 beginsNumber.2 (Or.inl rfl) inYear endsNumber.1 endsNumber.2)
  rw [offsetAt_empty inYear (written.empty y (Int.le_refl _)), written.offset] at start
  obtain ⟨te, teEq⟩ : ∃ te, te = UtcTime.ofTicks (dayClock (dayNumber (tableYear y) ends.month ends.day) -
    calendar.offsetAt (ruleMidnight utcOffset ends y).ticks) := ⟨_, rfl⟩
  rw [← teEq] at stop
  obtain ⟨offset, dst, entries⟩ := @addDSTRule_entry calendar (ruleMidnight utcOffset begins y) te Utc.hour
  refine ⟨(calendar.addDSTRule (ruleMidnight utcOffset begins y) te Utc.hour).2, ?_, ?_⟩
  · rw [addConfiguredRules, start, ok_bind, stop, ok_bind]
    rfl
  · obtain ⟨next, nextEq⟩ : ∃ next, next = (calendar.addDSTRule (ruleMidnight utcOffset begins y) te Utc.hour).2 :=
      ⟨_, rfl⟩
    rw [← nextEq] at offset dst entries ⊢
    have here := entries y
    rw [if_pos inYear] at here
    simp only [Prod.ext_iff] at here
    have kept {other : Fin daylightSavingYears} (different : tableYear other ≠ tableYear y) :
        next.daylightStart other = calendar.daylightStart other ∧ next.daylightEnd other = calendar.daylightEnd other ∧
          next.dstOffset other = calendar.dstOffset other := by
      have entry := entries other
      rw [if_neg (by rw [inYear]; exact different.symm)] at entry
      simpa only [Prod.ext_iff] using entry
    have cases {other : Fin daylightSavingYears} (before : tableYear other < tableYear y + 1) :
        tableYear other < tableYear y ∨ other = y := by
      rcases Int.lt_or_eq_of_le (show tableYear other ≤ tableYear y by omega) with earlier | same
      · exact Or.inl earlier
      · exact Or.inr (tableYear_inj same)
    refine ⟨offset.trans written.offset, fun _ => dst, ?_, ?_, ?_, ?_, ?_⟩
    · intro other before
      rcases cases before with earlier | rfl
      · exact written.inYear other earlier
      · exact inYear
    · intro other before
      rcases cases before with earlier | rfl
      · rw [(kept (by omega)).1]
        exact written.start other earlier
      · exact here.1
    · intro other before
      have earlierEntry {z : Fin daylightSavingYears} (zBefore : tableYear z < tableYear y) (t : UtcTime)
          (stopNull : calendar.daylightEnd z ≠ UtcTime.null)
          (observed : observedAt (calendar.daylightStart z).ticks (calendar.daylightEnd z).ticks t.ticks = true) :
          next.daylightEnd z ≠ UtcTime.null ∧
            observedAt (next.daylightStart z).ticks (next.daylightEnd z).ticks t.ticks = true := by
        obtain ⟨startEq, stopEq, _⟩ := kept (show tableYear z ≠ tableYear y by omega)
        rw [startEq, stopEq]
        exact ⟨stopNull, observed⟩
      rcases cases before with earlier | rfl
      · rw [EndsOn, (kept (by omega)).2.1]
        refine (written.stop other earlier).imp_right ?_
        rintro ⟨same, z, zBefore, zYear, stopNull, observed⟩
        exact ⟨same, z, zBefore, zYear, earlierEntry (by omega) _ stopNull observed⟩
      · rw [EndsOn, here.2.1, teEq]
        rcases offsetAt_table calendar (ruleMidnight utcOffset ends other).ticks with
          standard | ⟨z, zYear, startNull, stopNull, observed, daylight⟩
        · left
          rw [standard, written.offset]
          rfl
        · right
          have zBefore : tableYear z < tableYear other := by
            rcases lt_or_ge (tableYear z) (tableYear other) with zBefore | later
            · exact zBefore
            · exact absurd (written.empty z later) startNull
          rw [daylight, written.offset, written.hour z zBefore, ← Int.sub_sub]
          exact ⟨rfl, z, zBefore, zYear, earlierEntry zBefore _ stopNull observed⟩
    · intro other before
      rcases cases before with earlier | rfl
      · rw [(kept (by omega)).2.2]
        exact written.hour other earlier
      · exact here.2.2
    · intro other later
      rw [(kept (by omega)).1]
      exact written.empty other (by omega)

theorem WrittenUpTo.run {year : Int} (written : WrittenUpTo calendar utcOffset begins ends year)
    (lower : -2 ^ 63 ≤ utcOffset) (upper : utcOffset < 2 ^ 63) (beginsRange : begins.InRange) (endsRange : ends.InRange)
    (beginsItself : 1 ≤ begins.day) (endsItself : 1 ≤ ends.day) (first : 1900 ≤ year) {passes : Nat}
    (last : year + passes ≤ 2100) (inYear : ∀ y, year ≤ tableYear y → tableYear y < year + passes →
      utcYear (ruleMidnight utcOffset begins y).ticks = tableYear y) (more : Nat) :
    ∃ next, addConfiguredRules begins ends (passes + more) year calendar =
        addConfiguredRules begins ends more (year + passes) next ∧
      WrittenUpTo next utcOffset begins ends (year + passes) := by
  induction passes generalizing year calendar with
  | zero =>
      refine ⟨calendar, ?_, ?_⟩
      · rw [Nat.zero_add, Int.natCast_zero, Int.add_zero]
      · rw [Int.natCast_zero, Int.add_zero]
        exact written
  | succ passes ih =>
      obtain ⟨y, rfl⟩ := exists_tableYear first (by omega)
      obtain ⟨middle, same, middleWritten⟩ := written.step lower upper beginsRange endsRange beginsItself endsItself
        (inYear y (Int.le_refl _) (by omega)) (passes + more)
      obtain ⟨next, later, nextWritten⟩ := ih middleWritten (by omega) (by omega)
        (fun other after before => inYear other (by omega) (by omega))
      have sum : tableYear y + 1 + (passes : Int) = tableYear y + ((passes + 1 : Nat) : Int) := by omega
      rw [sum] at later nextWritten
      refine ⟨next, ?_, nextWritten⟩
      rw [Nat.add_right_comm, same, later]

theorem WrittenUpTo.offsetAt_summer {year : Int} (written : WrittenUpTo calendar utcOffset begins ends year)
    (some : 1900 < year) (beginsRange : begins.InRange) (endsRange : ends.InRange) (beginsItself : 1 ≤ begins.day)
    (endsItself : 1 ≤ ends.day) (reachable : ∀ julDate, 2300000 ≤ julDate → julDate ≤ 2600000 → Reachable utcOffset julDate)
    {y z : Fin daylightSavingYears} (before : tableYear y < year) (earlier : tableYear z < tableYear y)
    (inYear : utcYear (ruleMidnight utcOffset ends y).ticks = tableYear z) (stopNull : calendar.daylightEnd z ≠ UtcTime.null)
    (observed : observedAt (calendar.daylightStart z).ticks (calendar.daylightEnd z).ticks
      (ruleMidnight utcOffset ends y).ticks = true) :
    calendar.offsetAt (summerMidnight utcOffset (dayNumber (tableYear y) ends.month ends.day)).ticks ≠ utcOffset := by
  have bounds := tableYear_bounds y
  have zBounds := tableYear_bounds z
  have hour : Utc.hour = 36000000000 := rfl
  have yearTicks : Utc.year = 315360000000000 := rfl
  have order := Julian.Y2j_mono (show -4799 ≤ tableYear z + 1 by omega) (show tableYear z + 1 ≤ tableYear y by omega)
  have start := written.start z (by omega)
  have zInYear := written.inYear z (by omega)
  -- The numbers of the two days are kept away from the arithmetic below.
  have reach : Reachable utcOffset (dayNumber (tableYear y) ends.month ends.day) :=
    (dayNumber_table endsRange bounds.1 bounds.2).elim (reachable _)
  have zReach : Reachable utcOffset (dayNumber (tableYear z) begins.month begins.day) :=
    (dayNumber_table beginsRange zBounds.1 zBounds.2).elim (reachable _)
  have zBefore : dayNumber (tableYear z) begins.month begins.day < dayNumber (tableYear y) ends.month ends.day :=
    lt_of_lt_of_le (dayNumber_bounds (show -4700 ≤ tableYear z by omega) beginsRange.oneLeMonth beginsRange.monthLe
      beginsItself beginsRange.upper).2 (le_trans order (dayNumber_bounds (show -4700 ≤ tableYear y by omega)
        endsRange.oneLeMonth endsRange.monthLe endsItself endsRange.upper).1)
  obtain ⟨startBefore, summerBefore⟩ := zReach.midnight_order reach zBefore
  clear zBefore
  have plain := reach.midnight_ticks.2
  have summerPlain := reach.summerMidnight_ticks.2
  have zPlain := zReach.midnight_ticks.2
  rw [ruleMidnight] at inYear observed start zInYear
  rw [← start] at startBefore zPlain zInYear
  obtain ⟨t, tEq⟩ : ∃ t, t = (summerMidnight utcOffset (dayNumber (tableYear y) ends.month ends.day)).ticks := ⟨_, rfl⟩
  obtain ⟨base, baseEq⟩ : ∃ base, base = (standardMidnight utcOffset (dayNumber (tableYear y) ends.month ends.day)).ticks :=
    ⟨_, rfl⟩
  rw [← tEq] at startBefore summerBefore summerPlain ⊢
  rw [← baseEq] at summerBefore plain inYear observed
  have lowDay := (utcYear_eq_iff zPlain z).mp zInYear
  have highDay := (utcYear_eq_iff plain z).mp inYear
  have tYear : utcYear t = tableYear z := by
    have lowOrder := dayOf_mono startBefore
    have highOrder := dayOf_mono (Int.le_of_lt summerBefore)
    exact (utcYear_eq_iff summerPlain z).mpr ⟨le_trans lowDay.1 lowOrder, lt_of_le_of_lt highOrder highDay.2⟩
  have stays : observedAt (calendar.daylightStart z).ticks (calendar.daylightEnd z).ticks t = true := by
    unfold observedAt at observed ⊢
    split
    · rename_i northern
      simp only [northern, if_true, Bool.and_eq_true, decide_eq_true_eq] at observed ⊢
      omega
    · simp only [Bool.or_eq_true, decide_eq_true_eq]
      exact Or.inr startBefore
  have lower := summerPlain.lower
  have zOrdinary := ordinary_of_plain zPlain
  rw [offsetAt_observed (written.dst some) (by omega) tYear zOrdinary.notNull stopNull stays, written.offset,
    written.hour z (by omega)]
  omega

theorem WrittenUpTo.followsRule (written : WrittenUpTo calendar utcOffset begins ends 2100) (beginsRange : begins.InRange)
    (endsRange : ends.InRange) (beginsItself : 1 ≤ begins.day) (endsItself : 1 ≤ ends.day)
    (reachable : ∀ julDate, 2300000 ≤ julDate → julDate ≤ 2600000 → Reachable utcOffset julDate) :
    FollowsRule calendar begins ends := by
  have hourDaylight := written.table.hourDaylight
  refine ⟨written.dst (by decide), ?_⟩
  intro y
  have bounds := tableYear_bounds y
  have before : tableYear y < 2100 := by omega
  have beginsNumber := dayNumber_table beginsRange bounds.1 bounds.2
  have endsNumber := dayNumber_table endsRange bounds.1 bounds.2
  have hour : Utc.hour = 36000000000 := rfl
  have different {julDate : Int} (reach : Reachable utcOffset julDate) :
      standardMidnight utcOffset julDate ≠ summerMidnight utcOffset julDate := by
    intro same
    have sameTicks := congrArg UtcTime.ticks same
    rw [reach.midnight_ticks.1, reach.summerMidnight_ticks.1] at sameTicks
    omega
  refine ⟨written.hour y before, ⟨begins.day, Or.inl ⟨beginsItself, rfl⟩, ?_⟩, ⟨ends.day, Or.inl ⟨endsItself, rfl⟩, ?_⟩⟩
  · have reach := reachable _ beginsNumber.1 beginsNumber.2
    rw [written.start y before, ruleMidnight, showsNumber_midnight hourDaylight reach (Or.inl rfl),
      if_neg fun both => different reach both.1]
  · have reach := reachable _ endsNumber.1 endsNumber.2
    rcases written.stop y before with same | ⟨same, z, earlier, inYear, stopNull, observed⟩
    · rw [same, ruleMidnight, showsNumber_midnight hourDaylight reach (Or.inl rfl),
        if_neg fun both => different reach both.1]
    · have summer := written.offsetAt_summer (by decide) beginsRange endsRange beginsItself endsItself reachable before
        earlier inYear stopNull observed
      rw [same, showsNumber_midnight hourDaylight reach (Or.inr rfl), if_neg fun both => summer both.2]

theorem WrittenUpTo.step_outside {y : Fin daylightSavingYears}
    (written : WrittenUpTo calendar utcOffset begins ends (tableYear y)) (beginsRange : begins.InRange)
    (endsRange : ends.InRange) (beginsItself : 1 ≤ begins.day)
    (outside : utcYear (ruleMidnight utcOffset begins y).ticks ≠ tableYear y) {years : Nat}
    (run : addConfiguredRules begins ends (years + 1) (tableYear y) calendar = .ok after) :
    ∃ next, addConfiguredRules begins ends years (tableYear y + 1) next = .ok after ∧
      Table next utcOffset begins ends fun other year => other = y → tableYear y < year := by
  have bounds := tableYear_bounds y
  have hour : Utc.hour = 36000000000 := rfl
  have hourDaylight := written.table.hourDaylight
  obtain ⟨ts, te, start, stop, rest⟩ := addConfiguredRules_succ run
  obtain ⟨u, uEq, tsEq⟩ := toUtcTime_rule beginsRange bounds.1 bounds.2 start
  obtain ⟨v, _, rfl⟩ := toUtcTime_rule endsRange bounds.1 bounds.2 stop
  have first : calendar.offsetAt (dayClock (dayNumber (tableYear y) begins.month begins.day)) = utcOffset :=
    (offsetAt_empty (utcYear_dayClock beginsRange beginsItself y) (written.empty y (Int.le_refl _))).trans written.offset
  have missed : utcYear ts.ticks ≠ tableYear y := by
    have standard (same : calendar.offsetAt u = utcOffset) : utcYear ts.ticks ≠ tableYear y := by
      rw [tsEq, same]
      exact outside
    rcases uEq with rfl | rfl
    · exact standard first
    · rw [first] at standard tsEq
      rcases offsetAt_table calendar (ruleMidnight utcOffset begins y).ticks with
        same | ⟨z, zYear, startNull, _, _, daylight⟩
      · exact standard (same.trans written.offset)
      · have earlier : tableYear z < tableYear y := by
          rcases lt_or_ge (tableYear z) (tableYear y) with earlier | later
          · exact earlier
          · exact absurd (written.empty z later) startNull
        intro inYear
        have zBounds := tableYear_bounds z
        have yearTicks : Utc.year = 315360000000000 := rfl
        have order := Julian.Y2j_mono (show -4799 ≤ tableYear z + 1 by omega) (show tableYear z + 1 ≤ tableYear y by omega)
        obtain ⟨basePlain, _, baseBefore⟩ := plain_of_tableYear (ruleMidnight utcOffset begins y).lower
          (ruleMidnight utcOffset begins y).upper zYear
        obtain ⟨_, after, _⟩ := plain_of_tableYear ts.lower ts.upper inYear
        have hourBefore : ts.ticks = (ruleMidnight utcOffset begins y).ticks - Utc.hour := by
          have lower := basePlain.lower
          have upper := basePlain.upper
          have noWrap : long ((ruleMidnight utcOffset begins y).ticks - Utc.hour) =
              (ruleMidnight utcOffset begins y).ticks - Utc.hour := long_eq (by omega) (by omega)
          rw [← noWrap, tsEq]
          change long (_ - calendar.offsetAt (ruleMidnight utcOffset begins y).ticks) = _
          rw [daylight, written.offset, written.hour z earlier, ruleMidnight, standardMidnight, ← Int.sub_sub]
          simp only [UtcTime.ofTicks, long, Int.bmod_sub_bmod]
        have ticksOrder : ts.ticks ≤ (ruleMidnight utcOffset begins y).ticks := by
          rw [hourBefore]
          exact Int.sub_le_self _ (by decide)
        exact absurd (lt_of_lt_of_le (lt_of_le_of_lt (le_trans after (dayOf_mono ticksOrder)) baseBefore) order)
          (lt_irrefl _)
  refine ⟨_, rest, ?_⟩
  apply written.table.addDSTRule bounds.1 bounds.2 _ (hourDaylight.isMidnight _ v)
  · rintro other year ⟨rfl, before⟩ rfl
    omega
  · rintro other inYear rfl
    exact absurd inYear missed
  · rw [tsEq]
    exact hourDaylight.isMidnight _ u

end Written

section Configured

variable {utcOffset : Int} {begins ends : MonthDay}

theorem table_empty (utcOffset : Int) (begins ends : MonthDay) (years : Fin daylightSavingYears → Int → Prop) :
    Table { utcCalendar with utcOffset } utcOffset begins ends years :=
  ⟨rfl, fun _ => Or.inl rfl⟩

theorem writtenUpTo_first (utcOffset : Int) (begins ends : MonthDay) :
    WrittenUpTo { utcCalendar with utcOffset } utcOffset begins ends 1900 := by
  have none (y : Fin daylightSavingYears) : ¬tableYear y < 1900 := by
    have bounds := tableYear_bounds y
    omega
  exact ⟨rfl, fun later => absurd later (lt_irrefl _), fun y before => absurd before (none y),
    fun y before => absurd before (none y), fun y before => absurd before (none y), fun y before => absurd before (none y),
    fun _ _ => rfl⟩

theorem addConfiguredRules_followsRule_iff (lower : -2 ^ 63 ≤ utcOffset) (upper : utcOffset < 2 ^ 63)
    (beginsRange : begins.InRange) (endsRange : ends.InRange) :
    (∃ calendar, addConfiguredRules begins ends daylightSavingYears daylightSavingFirstYear
        { utcCalendar with utcOffset } = .ok calendar ∧ FollowsRule calendar begins ends) ↔
      1 ≤ begins.day ∧ 1 ≤ ends.day ∧ StartsInYear utcOffset begins := by
  have years : daylightSavingYears = 200 := rfl
  have firstYear : daylightSavingFirstYear = 1900 := rfl
  rw [firstYear, years]
  constructor
  · rintro ⟨calendar, run, _, follows⟩
    have table := (table_empty utcOffset begins ends fun _ _ => False).run beginsRange endsRange (by decide) (by decide) run
    have sameYear {y : Fin daylightSavingYears} {year : Int} (made : MadeIn calendar utcOffset begins ends y year) :
        year = tableYear y ∧ 1 ≤ begins.day ∧ 1 ≤ ends.day := by
      have bounds := tableYear_bounds y
      have beginsNumber := dayNumber_table beginsRange made.first made.last
      have endsNumber := dayNumber_table endsRange made.first made.last
      have first := made.first
      obtain ⟨same, beginsItself⟩ := (follows y).2.1.sameYear table.hourDaylight beginsRange (by omega) (by omega)
        (made.reachable lower upper beginsRange beginsNumber.1 beginsNumber.2) made.start
      obtain ⟨_, endsItself⟩ := (follows y).2.2.sameYear table.hourDaylight endsRange (by omega) (by omega)
        (made.reachable lower upper beginsRange endsNumber.1 endsNumber.2) made.stop
      exact ⟨same, beginsItself, endsItself⟩
    have itself : 1 ≤ begins.day ∧ 1 ≤ ends.day := by
      rcases table.entry ⟨0, by decide⟩ with empty | ⟨year, _, made⟩
      · exact absurd empty (follows ⟨0, by decide⟩).2.1.notNull
      · exact (sameYear made).2
    refine ⟨itself.1, itself.2, ?_⟩
    -- Up to the first year that does not start within itself, the table is as it should be.
    have upTo (passes : Nat) (le : passes ≤ 200) : ∀ y, tableYear y < 1900 + passes →
        utcYear (ruleMidnight utcOffset begins y).ticks = tableYear y := by
      induction passes with
      | zero =>
          intro y before
          have bounds := tableYear_bounds y
          omega
      | succ passes ih =>
          intro y before
          have earlier := ih (by omega)
          rcases lt_or_ge (tableYear y) (1900 + passes) with already | here
          · exact earlier y already
          · have sameYearHere : (1900 : Int) + passes = tableYear y := by omega
            by_contra outside
            obtain ⟨more, moreEq⟩ : ∃ more, 200 = passes + (more + 1) := ⟨200 - passes - 1, by omega⟩
            obtain ⟨middle, middleRun, written⟩ := (writtenUpTo_first utcOffset begins ends).run lower upper beginsRange
              endsRange itself.1 itself.2 (Int.le_refl _) (by omega) (fun y _ before => earlier y before) (more + 1)
            rw [moreEq, middleRun, sameYearHere] at run
            rw [sameYearHere] at written
            obtain ⟨next, nextRun, nextTable⟩ := written.step_outside beginsRange endsRange itself.1 outside run
            have final := nextTable.run beginsRange endsRange (by omega) (by omega) nextRun
            rcases final.entry y with empty | ⟨year, allowed, made⟩
            · exact (follows y).2.1.notNull empty
            · have same := (sameYear made).1
              rcases allowed with later | later
              · have after := later rfl
                omega
              · omega
    intro y
    exact upTo 200 (Nat.le_refl _) y (by
      have bounds := tableYear_bounds y
      omega)
  · rintro ⟨beginsItself, endsItself, inYear⟩
    obtain ⟨calendar, run, written⟩ := (writtenUpTo_first utcOffset begins ends).run lower upper beginsRange endsRange
      beginsItself endsItself (Int.le_refl _) (show 1900 + ((200 : Nat) : Int) ≤ 2100 by decide) (fun y _ _ => inYear y) 0
    have bounds := tableYear_bounds ⟨0, by decide⟩
    have number := dayNumber_table beginsRange bounds.1 bounds.2
    refine ⟨calendar, run, written.followsRule beginsRange endsRange beginsItself endsItself ?_⟩
    intro julDate dayLower dayUpper
    exact reachable_of_tableYear lower upper number.1 number.2 (Or.inl rfl) (inYear ⟨0, by decide⟩) dayLower dayUpper

theorem inRange_toMonthDay (written : WrittenDay) : written.toMonthDay.InRange := by
  have dayLe := written.dayLe
  have oneLeDay := written.oneLeDay
  have monthLe := written.monthLe
  have oneLeMonth := written.oneLeMonth
  unfold WrittenDay.toMonthDay
  split at dayLe
  · rename_i negative
    rw [if_pos negative]
    constructor <;> dsimp only <;> omega
  · rename_i positive
    rw [if_neg positive]
    constructor <;> dsimp only <;> omega

theorem inRange_days (definition : Definition) : definition.days.1.InRange ∧ definition.days.2.InRange := by
  unfold Definition.days
  split
  · exact ⟨⟨by decide, by decide, by decide, by decide, by decide⟩, ⟨by decide, by decide, by decide, by decide, by decide⟩⟩
  · exact ⟨inRange_toMonthDay _, inRange_toMonthDay _⟩

theorem readUtcOffset_bounds {D : Type} {numbers : FloatingPoint D} {text : CodeUnits}
    (read : readUtcOffset numbers text = .ok utcOffset) : -2 ^ 63 ≤ utcOffset ∧ utcOffset < 2 ^ 63 := by
  obtain ⟨hours, _, span⟩ := bind_eq_ok_iff.mp read
  exact ⟨numbers.lower hours utcOffset span, numbers.upper hours utcOffset span⟩

/-- The calendar of a definition follows its rule exactly when the rule names days of the
month, and each daylight period starts in its year in UTC: counted Sundays, and so the form
without brackets, give other days. -/
theorem createFromConfig_followsRule_iff {D : Type} (classes : CharacterClasses) (numbers : FloatingPoint D)
    (definition : Definition) :
    (∃ calendar, createFromConfig classes numbers (some definition.text) = .ok (some calendar) ∧
        FollowsRule calendar.toRegionalCalendar definition.days.1 definition.days.2) ↔
      1 ≤ definition.days.1.day ∧ 1 ≤ definition.days.2.day ∧
        ∃ utcOffset, readUtcOffset numbers definition.offset = .ok utcOffset ∧ StartsInYear utcOffset definition.days.1 := by
  obtain ⟨beginsRange, endsRange⟩ := inRange_days definition
  rw [createFromConfig_text]
  constructor
  · rintro ⟨calendar, created, follows⟩
    obtain ⟨utcOffset, read, built⟩ := bind_eq_ok_iff.mp created
    obtain ⟨table, run, named⟩ := bind_eq_ok_iff.mp built
    obtain rfl := Option.some.inj (Except.ok.inj named)
    have bounds := readUtcOffset_bounds read
    obtain ⟨beginsItself, endsItself, inYear⟩ :=
      (addConfiguredRules_followsRule_iff bounds.1 bounds.2 beginsRange endsRange).mp ⟨table, run, follows⟩
    exact ⟨beginsItself, endsItself, utcOffset, read, inYear⟩
  · rintro ⟨beginsItself, endsItself, utcOffset, read, inYear⟩
    have bounds := readUtcOffset_bounds read
    obtain ⟨table, run, follows⟩ := (addConfiguredRules_followsRule_iff bounds.1 bounds.2 beginsRange endsRange).mpr
      ⟨beginsItself, endsItself, inYear⟩
    refine ⟨{ table with name := definition.name, alternateName := definition.alternateName }, ?_, follows⟩
    rw [read, ok_bind, run, ok_bind]
    rfl

def asciiClasses : CharacterClasses where
  isDigit := Text.isAsciiDigit
  isWhiteSpace := Text.isBlank
  digit := by
    intro c _
    simp [Text.isAsciiDigit]
  whiteSpace := by
    intro c _
    simp [Text.isBlank]

def wholeHours : FloatingPoint Nat where
  tryParse text := if text ≠ [] ∧ text.length ≤ 3 ∧ text.all Text.isAsciiDigit then some (Text.numeral text) else none
  toDouble _ := .error .format
  zero := 0
  fromHours hours := if hours < 1000 then .ok (hours * Utc.hour) else .error .overflow
  lower := by
    intro hours ticks span
    have hour : Utc.hour = 36000000000 := rfl
    split at span
    · have same := Except.ok.inj span
      rw [hour] at same
      omega
    · cases span
  upper := by
    intro hours ticks span
    have hour : Utc.hour = 36000000000 := rfl
    split at span
    · have same := Except.ok.inj span
      rw [hour] at same
      omega
    · cases span

def centralEurope : Definition where
  name := codeUnits "CET"
  sign := []
  whole := codeUnits "1"
  mark := []
  fraction := []
  alternateName := codeUnits "CEST"
  rule := none
  nameSome := by decide
  nameLine := by decide
  signText := Or.inl rfl
  wholeDigits := by decide
  markText := Or.inl rfl
  fractionDigits := by decide
  alternateSome := by decide
  alternateLine := by decide
  oneAt := by decide

/-- The form without brackets does not give the last Sundays: in 1996 daylight saving starts
on the twenty-fourth of February. -/
theorem createFromConfig_centralEurope : centralEurope.text = codeUnits "'CET'@1'CEST'" ∧
    (∃ calendar, addConfiguredRules ⟨3, -5⟩ ⟨10, -5⟩ 1 1996 { utcCalendar with utcOffset := Utc.hour } = .ok calendar ∧
      (CalendarUnits.date <$> calendar.asYMDhms_tick (calendar.daylightStart ⟨96, by decide⟩)) = .ok ⟨1996, 2, 24⟩) ∧
    ¬∃ calendar, createFromConfig asciiClasses wholeHours (some centralEurope.text) = .ok (some calendar) ∧
      FollowsRule calendar.toRegionalCalendar ⟨3, -5⟩ ⟨10, -5⟩ := by
  refine ⟨by decide, ⟨_, rfl, rfl⟩, ?_⟩
  rw [createFromConfig_text]
  rintro ⟨calendar, created, follows⟩
  obtain ⟨utcOffset, read, built⟩ := bind_eq_ok_iff.mp created
  obtain ⟨table, run, named⟩ := bind_eq_ok_iff.mp built
  obtain rfl := Option.some.inj (Except.ok.inj named)
  have bounds := readUtcOffset_bounds read
  obtain ⟨beginsRange, endsRange⟩ := inRange_days centralEurope
  have itself := ((addConfiguredRules_followsRule_iff bounds.1 bounds.2 beginsRange endsRange).mp ⟨table, run, follows⟩).1
  exact absurd itself (by decide)

end Configured

end RegionalCalendar

end ServiceHost
