import ServiceHost.Time.LocalDays

/-!
Adding months and years on a calendar without daylight saving. The sum of months is
the date that counting months gives, with the day cut to the length of the month. The
sum of years is another routine, which does not cut the day.
-/

namespace ServiceHost

open Library

def Date.addMonths (date : Date) (count : Int) : Date :=
  let months := 12 * date.year + (date.month - 1) + count
  ⟨months / 12, months % 12 + 1, min date.day (daysInMonth (months / 12) (months % 12 + 1))⟩

theorem Date.addMonths_counts (date : Date) (count : Int) :
    12 * (date.addMonths count).year + (date.addMonths count).month = 12 * date.year + date.month + count ∧
      1 ≤ (date.addMonths count).month ∧ (date.addMonths count).month ≤ 12 := by
  simp only [addMonths]
  omega

theorem daysInMonth_ge (year month : Int) : 28 ≤ daysInMonth year month := by
  unfold daysInMonth
  split
  · split <;> omega
  · split <;> omega

theorem Date.addMonths_valid {date : Date} (valid : date.Valid) (count : Int) : (date.addMonths count).Valid := by
  have counts := date.addMonths_counts count
  have oneLe := valid.oneLeDay
  have days := daysInMonth_ge (date.addMonths count).year (date.addMonths count).month
  refine ⟨counts.2.1, counts.2.2, ?_, ?_⟩
  · simp only [addMonths] at days ⊢
    omega
  · simp only [addMonths]
    omega

theorem Date.addMonths_years {date : Date} (valid : date.Valid) (count : Int) :
    date.addMonths (12 * count) =
      ⟨date.year + count, date.month, min date.day (daysInMonth (date.year + count) date.month)⟩ := by
  have oneLe := valid.oneLeMonth
  have le := valid.monthLe
  have year : (12 * date.year + (date.month - 1) + 12 * count) / 12 = date.year + count := by omega
  have month : (12 * date.year + (date.month - 1) + 12 * count) % 12 + 1 = date.month := by omega
  simp only [addMonths, year, month]

namespace RegionalCalendar

theorem clamp_eq (year month day : Int) (small : day ≤ 31) :
    (if month = 4 ∨ month = 6 ∨ month = 9 ∨ month = 11 then min day 30
      else if month = 2 then
        if year.tmod 4 = 0 then min day (if year.tmod 100 = 0 ∧ year.tmod 400 ≠ 0 then 28 else 29)
        else min day 28
      else day) = min day (daysInMonth year month) := by
  have fours := tmod_cases year 4
  have hundreds := tmod_cases year 100
  have leaps := tmod_cases year 400
  have leap := Julian.isLeapYear_iff year
  unfold daysInMonth
  by_cases february : month = 2
  · subst february
    have notThirty : ¬((2 : Int) = 4 ∨ (2 : Int) = 6 ∨ (2 : Int) = 9 ∨ (2 : Int) = 11) := by decide
    simp only [notThirty, if_false, if_true]
    by_cases isLeap : isLeapYear year = true
    · have divisible := leap.mp isLeap
      have quarter : year.tmod 4 = 0 := by omega
      have notCommon : ¬(year.tmod 100 = 0 ∧ year.tmod 400 ≠ 0) := by omega
      rw [if_pos quarter, if_neg notCommon, if_pos isLeap]
    · have indivisible := mt leap.mpr isLeap
      rw [if_neg isLeap]
      split
      · have common : year.tmod 100 = 0 ∧ year.tmod 400 ≠ 0 := by omega
        rw [if_pos common]
      · rfl
  · simp only [february, if_false]
    split
    · rfl
    · omega

theorem addToMonth_eq {date : Date} (valid : date.Valid) (count : Int) :
    addToMonth date count = date.addMonths count := by
  obtain ⟨oneLeMonth, monthLe, oneLeDay, dayLe⟩ := valid
  have days := daysInMonth_le date.year date.month
  obtain ⟨mr, mrEq⟩ : ∃ mr, mr = date.month + count := ⟨_, rfl⟩
  have borrowed := tmod_cases mr 12
  have carried := tmod_cases (mr - 1) 12
  have split1 := Int.mul_tdiv_add_tmod mr 12
  have split2 := Int.mul_tdiv_add_tmod (mr - 1) 12
  have year : (12 * date.year + (date.month - 1) + count) / 12 = if mr < 1 then date.year - (1 - mr.tdiv 12)
      else if mr > 12 then date.year + (mr - 1).tdiv 12 else date.year := by
    split
    · omega
    · split <;> omega
  have month : (12 * date.year + (date.month - 1) + count) % 12 + 1 = if mr < 1 then mr + 12 * (1 - mr.tdiv 12)
      else if mr > 12 then 1 + (mr - 1).tmod 12 else mr := by
    split
    · omega
    · split <;> omega
  simp only [addToMonth, Date.addMonths, ← mrEq, year, month]
  split
  · simp only [clamp_eq _ _ date.day (by omega)]
  · split
    · simp only [clamp_eq _ _ date.day (by omega)]
    · simp only [clamp_eq _ _ date.day (by omega)]

variable {calendar : RegionalCalendar}

def clockOf (calendar : RegionalCalendar) (t : UtcTime) : Int := t.ticks + calendar.utcOffset

structure CommonYears (clock : Int) : Prop where
  lower : 0 ≤ clock
  upper : clock < dayClock (Julian.Y2j 9999)

instance (clock : Int) : Decidable (CommonYears clock) :=
  decidable_of_iff (0 ≤ clock ∧ clock < dayClock (Julian.Y2j 9999)) ⟨fun ⟨a, b⟩ => ⟨a, b⟩, fun ⟨a, b⟩ => ⟨a, b⟩⟩

theorem CommonYears.dateOf_valid {clock : Int} (common : CommonYears clock) :
    (dateOf clock).Valid ∧ Julian.YMD2j (dateOf clock) = dayOf clock := by
  obtain ⟨lower, upper⟩ := common
  have firstDay : Julian.firstDay = -32044 := rfl
  have day : Utc.day = 864000000000 := rfl
  have referenceDay : Julian.referenceDay = 1721426 := rfl
  have known : Julian.firstDay ≤ dayOf clock := by
    rw [dayOf, firstDay, day, referenceDay]
    omega
  exact ⟨Julian.j2YMD_valid known, Julian.YMD2j_j2YMD known⟩

def moveDate (clock : Int) (date : Date) : Int := clock + (Julian.YMD2j date - dayOf clock) * Utc.day

theorem moveDate_eq (clock : Int) (date : Date) :
    moveDate clock date = dayClock (Julian.YMD2j date) + clock % Utc.day := by
  have day : Utc.day = 864000000000 := rfl
  unfold moveDate dayClock dayOf
  rw [day]
  omega

theorem moveDate_common (clock : Int) {date : Date} (first : Julian.Y2j 1 ≤ Julian.YMD2j date)
    (last : Julian.YMD2j date < Julian.Y2j 9999) : CommonYears (moveDate clock date) := by
  have day : Utc.day = 864000000000 := rfl
  have start : Julian.Y2j 1 = Julian.referenceDay := by decide
  rw [start] at first
  constructor
  · rw [moveDate_eq, dayClock, day]
    omega
  · rw [moveDate_eq, dayClock, dayClock, day]
    omega

theorem YMD2j_common {date : Date} (valid : date.Valid) (first : 1 ≤ date.year) (last : date.year ≤ 9998) :
    Julian.Y2j 1 ≤ Julian.YMD2j date ∧ Julian.YMD2j date < Julian.Y2j 9999 := by
  have bounds := Julian.YMD2j_bounds valid (by omega)
  have lower := Julian.Y2j_mono (show (-4799 : Int) ≤ 1 by decide) first
  have upper := Julian.Y2j_mono (show -4799 ≤ date.year + 1 by omega) (show date.year + 1 ≤ 9999 by omega)
  omega

theorem ofClock_ticks_common (standard : calendar.StandardTime) {clock : Int} (common : CommonYears clock) :
    (calendar.ofClock clock).ticks = clock - calendar.utcOffset ∧
      (clock ≠ calendar.utcOffset ↔ (calendar.ofClock clock).Ordinary) := by
  have last : dayClock (Julian.Y2j 9999) = 3155063616000000000 := by decide
  have offsetLower := standard.lower
  have offsetUpper := standard.upper
  have year : Utc.year = 315360000000000 := rfl
  have least : Utc.minValue = -9223372036854775807 := rfl
  have greatest : Utc.maxValue = 9223372036854775807 := rfl
  obtain ⟨lower, upper⟩ := common
  have ticks : (calendar.ofClock clock).ticks = clock - calendar.utcOffset :=
    UtcTime.ofTicks_ticks (by omega) (by omega)
  refine ⟨ticks, ?_⟩
  rw [UtcTime.ordinary_iff, ticks]
  omega

theorem ofClock_clockOf (t : UtcTime) : calendar.ofClock (calendar.clockOf t) = t := by
  rw [ofClock, clockOf, Int.add_sub_cancel, UtcTime.ofTicks_eq]

theorem addByDate_standard (standard : calendar.StandardTime) {t : UtcTime} (ordinary : t.Ordinary)
    (common : CommonYears (calendar.clockOf t)) (forward : Bool) {change : Date → Date}
    (moved : CommonYears (moveDate (calendar.clockOf t) (change (dateOf (calendar.clockOf t))))) :
    calendar.addByDate t forward change =
      if moveDate (calendar.clockOf t) (change (dateOf (calendar.clockOf t))) = calendar.utcOffset then
        .error (.argumentNull UtcTime.oneOfOperandsIsNull)
      else .ok (calendar.ofClock (moveDate (calendar.clockOf t) (change (dateOf (calendar.clockOf t))))) := by
  have last : dayClock (Julian.Y2j 9999) = 3155063616000000000 := by decide
  have offsetLower := standard.lower
  have offsetUpper := standard.upper
  have year : Utc.year = 315360000000000 := rfl
  have reference : Julian.referenceTicks = 1487312064000000000 := rfl
  have referenceDay : Julian.referenceDay = 1721426 := rfl
  have day : Utc.day = 864000000000 := rfl
  have movedTicks := ofClock_ticks_common standard moved
  obtain ⟨lower, upper⟩ := common
  obtain ⟨movedLower, movedUpper⟩ := moved
  obtain ⟨clock, clockEq⟩ : ∃ clock, clock = calendar.clockOf t := ⟨_, rfl⟩
  have own : t.ticks + calendar.utcOffset = clock := clockEq.symm
  rw [← clockEq] at lower upper movedLower movedUpper movedTicks ⊢
  have localTicks : (UtcTime.ofTicks clock).ticks = clock := UtcTime.ofTicks_ticks (by omega) (by omega)
  have julDate : Julian.ticks2j clock = dayOf clock := by
    rw [Julian.ticks2j, long_eq (by omega) (by omega), reference, dayOf, day, referenceDay,
      Int.tdiv_eq_ediv_of_nonneg (by omega)]
    omega
  simp only [addByDate, ordinary.sub_eq, ordinary.add_eq, ok_bind, diffUtc_standard standard, own, localTicks, julDate]
  rw [← dateOf]
  obtain ⟨later, laterEq⟩ : ∃ later, later = moveDate clock (change (dateOf clock)) := ⟨_, rfl⟩
  have span : (Julian.YMD2j (change (dateOf clock)) - dayOf clock) * Utc.day = later - clock := by
    rw [laterEq, moveDate]
    omega
  rw [← laterEq] at movedLower movedUpper movedTicks ⊢
  have sum : UtcTime.ofTicks (t.ticks + long (later - clock)) = calendar.ofClock later := by
    rw [long_eq (by omega) (by omega), ofClock]
    congr 1
    omega
  rw [span, sum]
  by_cases null : later = calendar.utcOffset
  · have isNull : (calendar.ofClock later).ticks = 0 := by omega
    rw [if_pos null]
    simp only [UtcTime.sub, isNull, Utc.null, if_true]
    rfl
  · have movedOrdinary := movedTicks.2.mp null
    rw [if_neg null]
    simp only [movedOrdinary.sub_eq, ok_bind, movedOrdinary.add_eq, Int.sub_self, Int.add_zero, UtcTime.ofTicks_eq]

theorem addMonths_standard (standard : calendar.StandardTime) {t : UtcTime} (ordinary : t.Ordinary)
    (common : CommonYears (calendar.clockOf t)) {count : Int}
    (first : 1 ≤ ((dateOf (calendar.clockOf t)).addMonths count).year)
    (last : ((dateOf (calendar.clockOf t)).addMonths count).year ≤ 9998) :
    calendar.addMonths t count =
      if moveDate (calendar.clockOf t) ((dateOf (calendar.clockOf t)).addMonths count) = calendar.utcOffset then
        .error (.argumentNull UtcTime.oneOfOperandsIsNull)
      else .ok (calendar.ofClock (moveDate (calendar.clockOf t) ((dateOf (calendar.clockOf t)).addMonths count))) := by
  have notYear : Utc.month ≠ Utc.year := by decide
  have valid := common.dateOf_valid.1
  have inside := YMD2j_common (Date.addMonths_valid valid count) first last
  have moved := moveDate_common (calendar.clockOf t) inside.1 inside.2
  have same := addToMonth_eq valid count
  rw [addMonths, add, if_neg notYear, if_pos rfl]
  have added := @addByDate_standard calendar standard t ordinary common (decide (0 < long (count * Utc.month)))
    (fun date => addToMonth date count)
  simp only [same] at added
  exact added moved

theorem addYears_standard (standard : calendar.StandardTime) {t : UtcTime} (ordinary : t.Ordinary)
    (common : CommonYears (calendar.clockOf t)) {count : Int} {moved : Int}
    (movedEq : moved = moveDate (calendar.clockOf t)
      ⟨(dateOf (calendar.clockOf t)).year + count, (dateOf (calendar.clockOf t)).month,
        (dateOf (calendar.clockOf t)).day⟩)
    (movedCommon : CommonYears moved) :
    calendar.addYears t count =
      if moved = calendar.utcOffset then .error (.argumentNull UtcTime.oneOfOperandsIsNull)
      else .ok (calendar.ofClock moved) := by
  subst movedEq
  rw [addYears, add, if_pos rfl]
  exact addByDate_standard standard ordinary common _ movedCommon

def CountsMonths (calendar : RegionalCalendar) (t : UtcTime) (count : Int) : Prop :=
  ∃ units later, calendar.asYMDhms_tick t = .ok units ∧ calendar.addMonths t count = .ok later ∧
    calendar.asYMDhms_tick later = .ok { units with date := units.date.addMonths count }

theorem asYMDhms_tick_standard (standard : calendar.StandardTime) {t : UtcTime} (ordinary : t.Ordinary)
    (common : CommonYears (calendar.clockOf t)) :
    calendar.asYMDhms_tick t = .ok (tickUnits (calendar.clockOf t)) := by
  have last : dayClock (Julian.Y2j 9999) = 3155063616000000000 := by decide
  have year : Utc.year = 315360000000000 := rfl
  have offset : calendar.offsetAt t.ticks = calendar.utcOffset := by simp [offsetAt, standard.dst]
  obtain ⟨lower, upper⟩ := common
  unfold clockOf at lower upper ⊢
  rw [← offset] at lower upper ⊢
  exact asYMDhms_tick_eq ordinary (by omega) (by omega)

theorem tickUnits_moveDate {clock : Int} {date : Date} (valid : date.Valid) (first : 1 ≤ date.year) :
    tickUnits (moveDate clock date) = { tickUnits clock with date := date } := by
  have day : Utc.day = 864000000000 := rfl
  have hour : Utc.hour = 36000000000 := rfl
  have minute : Utc.minute = 600000000 := rfl
  have second : Utc.second = 10000000 := rfl
  have moved := moveDate_eq clock date
  have number : dayOf (moveDate clock date) = Julian.YMD2j date := by
    rw [moved, dayOf, dayClock, day]
    omega
  rw [dayClock, day] at moved
  simp only [tickUnits, dateOf, number, Julian.j2YMD_YMD2j valid (by omega), CalendarUnits.mk.injEq, true_and]
  rw [moved, day, hour, minute, second]
  omega

theorem countsMonths_iff (standard : calendar.StandardTime) {t : UtcTime} (ordinary : t.Ordinary)
    (common : CommonYears (calendar.clockOf t)) {count : Int}
    (first : 1 ≤ ((dateOf (calendar.clockOf t)).addMonths count).year)
    (last : ((dateOf (calendar.clockOf t)).addMonths count).year ≤ 9998) :
    calendar.CountsMonths t count ↔
      moveDate (calendar.clockOf t) ((dateOf (calendar.clockOf t)).addMonths count) ≠ calendar.utcOffset := by
  have valid := Date.addMonths_valid common.dateOf_valid.1 count
  have inside := YMD2j_common valid first last
  have moved := moveDate_common (calendar.clockOf t) inside.1 inside.2
  have added := addMonths_standard standard ordinary common first last
  have fields := asYMDhms_tick_standard standard ordinary common
  constructor
  · rintro ⟨_, later, _, ran, _⟩ null
    rw [added, if_pos null] at ran
    cases ran
  · intro notNull
    rw [if_neg notNull] at added
    refine ⟨_, _, fields, added, ?_⟩
    obtain ⟨ticks, ordinaryIff⟩ := ofClock_ticks_common standard moved
    have clock : calendar.clockOf (calendar.ofClock (moveDate (calendar.clockOf t)
        ((dateOf (calendar.clockOf t)).addMonths count))) =
        moveDate (calendar.clockOf t) ((dateOf (calendar.clockOf t)).addMonths count) := by
      rw [clockOf, ticks, Int.sub_add_cancel]
    rw [asYMDhms_tick_standard standard (ordinaryIff.mp notNull) (by rw [clock]; exact moved), clock,
      tickUnits_moveDate valid first]
    rfl

def LosesLeapDay (date : Date) (count : Int) : Prop :=
  date.month = 2 ∧ date.day = 29 ∧ isLeapYear (date.year + count) = false

instance (date : Date) (count : Int) : Decidable (LosesLeapDay date count) :=
  inferInstanceAs (Decidable (_ ∧ _))

theorem day_kept {date : Date} (valid : date.Valid) {count : Int} (kept : ¬ LosesLeapDay date count) :
    date.day ≤ daysInMonth (date.year + count) date.month := by
  have dayLe := valid.dayLe
  unfold LosesLeapDay at kept
  unfold daysInMonth at dayLe ⊢
  by_cases february : date.month = 2
  · simp only [february, if_true] at dayLe kept ⊢
    cases leap : isLeapYear (date.year + count) with
    | true => split at dayLe <;> simp only [if_true] <;> omega
    | false =>
        simp only [leap, and_true, true_and] at kept
        simp only [Bool.false_eq_true, if_false]
        split at dayLe <;> omega
  · simpa only [february, if_false] using dayLe

theorem YMD2j_february29 {year : Int} (common : isLeapYear year = false) (lower : -4700 ≤ year) :
    Julian.YMD2j ⟨year, 2, 29⟩ = Julian.YMD2j ⟨year, 2, 28⟩ + 1 ∧
      Julian.YMD2j ⟨year, 2, 29⟩ = Julian.YMD2j ⟨year, 3, 1⟩ := by
  have days : daysInMonth year 2 = 28 := by simp [daysInMonth, common]
  have valid : (⟨year, 2, 28⟩ : Date).Valid :=
    ⟨show (1 : Int) ≤ 2 by decide, show (2 : Int) ≤ 12 by decide, show (1 : Int) ≤ 28 by decide,
      show (28 : Int) ≤ daysInMonth year 2 by omega⟩
  have next := Julian.YMD2j_next valid lower
  have named : (⟨year, 2, 28⟩ : Date).next = ⟨year, 3, 1⟩ := by simp [Date.next, days]
  rw [named] at next
  have counted : Julian.YMD2j ⟨year, 2, 29⟩ = Julian.YMD2j ⟨year, 2, 28⟩ + 1 := by
    unfold Julian.YMD2j
    dsimp only
    omega
  exact ⟨counted, by rw [next, counted]⟩

theorem addYears_eq_addMonths_iff (standard : calendar.StandardTime) {t : UtcTime} (ordinary : t.Ordinary)
    (common : CommonYears (calendar.clockOf t)) {count : Int}
    (first : 1 ≤ (dateOf (calendar.clockOf t)).year + count)
    (last : (dateOf (calendar.clockOf t)).year + count ≤ 9998) :
    calendar.addYears t count = calendar.addMonths t (12 * count) ↔
      ¬ LosesLeapDay (dateOf (calendar.clockOf t)) count := by
  obtain ⟨clock, clockEq⟩ : ∃ clock, clock = calendar.clockOf t := ⟨_, rfl⟩
  have years := @addYears_standard calendar standard t ordinary common count
  have months := @addMonths_standard calendar standard t ordinary common (12 * count)
  have valid := common.dateOf_valid.1
  rw [← clockEq] at years months valid first last ⊢
  have laterDate := Date.addMonths_years valid count
  have laterValid := Date.addMonths_valid valid (12 * count)
  rw [laterDate] at months laterValid
  replace months := months first last
  by_cases loses : LosesLeapDay (dateOf clock) count
  · obtain ⟨february, leapDay, notLeap⟩ := id loses
    have days : daysInMonth ((dateOf clock).year + count) 2 = 28 := by simp [daysInMonth, notLeap]
    have cut : min (29 : Int) 28 = 28 := rfl
    rw [february, leapDay, days, cut] at months laterValid
    obtain ⟨dayLater, march⟩ := YMD2j_february29 notLeap (by omega)
    have inside := YMD2j_common laterValid first last
    have marchValid : (⟨(dateOf clock).year + count, 3, 1⟩ : Date).Valid :=
      ⟨show (1 : Int) ≤ 3 by decide, show (3 : Int) ≤ 12 by decide, Int.le_refl 1, show (1 : Int) ≤ 31 by decide⟩
    have marchInside := YMD2j_common marchValid first last
    rw [← march] at marchInside
    have moved := moveDate_common clock marchInside.1 marchInside.2
    have cutMoved := moveDate_common clock inside.1 inside.2
    have apart : moveDate clock ⟨(dateOf clock).year + count, 2, 29⟩ =
        moveDate clock ⟨(dateOf clock).year + count, 2, 28⟩ + Utc.day := by
      have day : Utc.day = 864000000000 := rfl
      unfold moveDate
      rw [dayLater, day]
      omega
    rw [years (by rw [february, leapDay]) moved, months]
    refine iff_of_false ?_ (not_not.mpr loses)
    have ticks := (ofClock_ticks_common standard moved).1
    have cutTicks := (ofClock_ticks_common standard cutMoved).1
    have day : Utc.day = 864000000000 := rfl
    split
    · split
      · omega
      · simp
    · split
      · simp
      · intro same
        have meets := congrArg UtcTime.ticks (Except.ok.inj same)
        omega
  · have same : min (dateOf clock).day (daysInMonth ((dateOf clock).year + count) (dateOf clock).month) =
        (dateOf clock).day := by
      have kept := day_kept valid loses
      omega
    rw [same] at months laterValid
    have inside := YMD2j_common laterValid first last
    rw [years rfl (moveDate_common clock inside.1 inside.2), months]
    exact iff_of_true rfl loses

/-- Months are counted and years agree with them, except where the sum is the null time or
a leap day is lost. -/
theorem addMonths_addYears_iff (standard : calendar.StandardTime) {t : UtcTime} (ordinary : t.Ordinary)
    (common : CommonYears (calendar.clockOf t)) (count : Int) :
    (1 ≤ ((dateOf (calendar.clockOf t)).addMonths count).year →
      ((dateOf (calendar.clockOf t)).addMonths count).year ≤ 9998 →
      (calendar.CountsMonths t count ↔
        moveDate (calendar.clockOf t) ((dateOf (calendar.clockOf t)).addMonths count) ≠ calendar.utcOffset)) ∧
    (1 ≤ (dateOf (calendar.clockOf t)).year + count → (dateOf (calendar.clockOf t)).year + count ≤ 9998 →
      (calendar.addYears t count = calendar.addMonths t (12 * count) ↔
        ¬ LosesLeapDay (dateOf (calendar.clockOf t)) count)) :=
  ⟨countsMonths_iff standard ordinary common, addYears_eq_addMonths_iff standard ordinary common⟩

theorem utcCalendar_standard : utcCalendar.StandardTime := ⟨rfl, by decide, by decide⟩

theorem addMonths_addYears_iff_january : utcCalendar.CountsMonths (.ofTicks 630848736000000000) 1 := by
  have common : CommonYears (utcCalendar.clockOf (.ofTicks 630848736000000000)) := by decide
  have counts := (addMonths_addYears_iff utcCalendar_standard (by decide) common 1).1
  exact (counts (by decide) (by decide)).mpr (by decide)

/-- One year after the 29th of February 2000 is the 1st of March, twelve months after it is
the 28th of February. -/
theorem addYears_leapDay :
    utcCalendar.asYMDhms_tick (.ofTicks 630873792000000000) = .ok ⟨⟨2000, 2, 29⟩, 0, 0, 0, 0⟩ ∧
    utcCalendar.addYears (.ofTicks 630873792000000000) 1 = .ok (.ofTicks 631190016000000000) ∧
    utcCalendar.asYMDhms_tick (.ofTicks 631190016000000000) = .ok ⟨⟨2001, 3, 1⟩, 0, 0, 0, 0⟩ ∧
    utcCalendar.addMonths (.ofTicks 630873792000000000) 12 = .ok (.ofTicks 631189152000000000) ∧
    utcCalendar.asYMDhms_tick (.ofTicks 631189152000000000) = .ok ⟨⟨2001, 2, 28⟩, 0, 0, 0, 0⟩ := by
  decide

end RegionalCalendar

end ServiceHost
