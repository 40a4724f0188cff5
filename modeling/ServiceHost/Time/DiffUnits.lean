import ServiceHost.Time.DiffUnitsCore
import ServiceHost.Time.MonthArithmetic

/-!
When counting the steps between two times undoes adding them, on a calendar without
daylight saving: the nominal count may miss the one of the calendar by one step, no more.
-/

namespace ServiceHost

open Library

namespace RegionalCalendar

def CalendarStep (step : Int) : Prop := step = Utc.day ∨ step = Utc.week ∨ step = Utc.month ∨ step = Utc.year

def stepClock (step count clock : Int) : Int :=
  if step = Utc.year then
    moveDate clock ⟨(dateOf clock).year + count, (dateOf clock).month, (dateOf clock).day⟩
  else if step = Utc.month then moveDate clock ((dateOf clock).addMonths count)
  else clock + count * step

section Steps

variable {clock : Int}

theorem YMD2j_years {date : Date} (year : -4700 ≤ date.year) (oneLe : 1 ≤ date.month) (le : date.month ≤ 12)
    (count : Nat) :
    Julian.YMD2j date + 365 * count ≤ Julian.YMD2j ⟨date.year + count, date.month, date.day⟩ ∧
      Julian.YMD2j ⟨date.year + count, date.month, date.day⟩ ≤ Julian.YMD2j date + 366 * count := by
  induction count with
  | zero => simp
  | succ count ih =>
      have next := @Julian.YMD2j_nextYear ⟨date.year + count, date.month, date.day⟩ (by dsimp only; omega) oneLe le
      dsimp only at next
      push_cast
      rw [← Int.add_assoc]
      omega

theorem Y2j_years {year : Int} (lower : -4799 ≤ year) (count : Nat) :
    Julian.Y2j (year + count) ≤ Julian.Y2j year + 366 * count := by
  induction count with
  | zero => simp
  | succ count ih =>
      have next := Julian.Y2j_succ_le (show -4799 ≤ year + count by omega)
      push_cast
      rw [← Int.add_assoc]
      omega

theorem YMD2j_addMonths_lt {date : Date} (valid : date.Valid) (year : -4700 ≤ date.year) {count : Int}
    (nonneg : 0 ≤ count) : Julian.YMD2j (date.addMonths count) < Julian.YMD2j (date.addMonths (count + 1)) := by
  have earlier := Date.addMonths_valid valid count
  have later := Date.addMonths_valid valid (count + 1)
  have counts := date.addMonths_counts count
  have laterCounts := date.addMonths_counts (count + 1)
  have oneLe := valid.oneLeMonth
  refine Julian.YMD2j_lt earlier later (by omega) ?_
  have dayLe := earlier.dayLe
  have days := daysInMonth_le (date.addMonths count).year (date.addMonths count).month
  have laterDay := later.oneLeDay
  unfold Date.number
  omega

theorem addMonths_zero {date : Date} (valid : date.Valid) : date.addMonths 0 = date := by
  obtain ⟨oneLeMonth, monthLe, _, dayLe⟩ := valid
  have year : (12 * date.year + (date.month - 1) + 0) / 12 = date.year := by omega
  have month : (12 * date.year + (date.month - 1) + 0) % 12 + 1 = date.month := by omega
  have day : min date.day (daysInMonth date.year date.month) = date.day := by omega
  simp only [Date.addMonths, year, month, day]

theorem YMD2j_addMonths_bounds {date : Date} (valid : date.Valid) (year : -4700 ≤ date.year) (count : Nat) :
    Julian.YMD2j date ≤ Julian.YMD2j (date.addMonths count) ∧
      2 * Julian.YMD2j (date.addMonths count) ≤ 2 * Julian.YMD2j date + 61 * count + 1464 := by
  constructor
  · induction count with
    | zero => exact le_of_eq (congrArg Julian.YMD2j (addMonths_zero valid).symm)
    | succ count ih => exact le_of_lt (lt_of_le_of_lt ih (YMD2j_addMonths_lt valid year (Int.natCast_nonneg count)))
  · have start := (Julian.YMD2j_bounds valid year).1
    have counts := date.addMonths_counts count
    have oneLe := valid.oneLeMonth
    have le := valid.monthLe
    have ends := (Julian.YMD2j_bounds (Date.addMonths_valid valid count) (by omega)).2
    obtain ⟨years, yearsEq⟩ := Int.eq_ofNat_of_zero_le
      (show 0 ≤ (date.addMonths count).year + 1 - date.year by omega)
    have spanned := Y2j_years (show -4799 ≤ date.year by omega) years
    have endYear : date.year + years = (date.addMonths count).year + 1 := by omega
    rw [endYear] at spanned
    omega

theorem nominalUnits_bounds {step span : Int} (unit : CalendarStep step) (nonneg : 0 ≤ span) :
    0 ≤ nominalUnits step span ∧ nominalUnits step span * step ≤ span := by
  have month : Utc.month = 25920000000000 := rfl
  have positive : 0 < step := by rcases unit with rfl | rfl | rfl | rfl <;> decide
  have whole := Int.ediv_mul_le span (Int.ne_of_gt positive)
  have quotient := Int.ediv_nonneg nonneg (le_of_lt positive)
  unfold nominalUnits
  rw [Int.tdiv_eq_ediv_of_nonneg nonneg]
  dsimp only
  split
  · rename_i isMonth
    rw [Int.tdiv_eq_ediv_of_nonneg quotient]
    rw [isMonth, month] at whole quotient ⊢
    omega
  · exact ⟨quotient, whole⟩

theorem stepClock_plain {step later count : Int} (unit : CalendarStep step) (plain : Plain clock)
    (order : clock ≤ later) (upper : later < dayClock (Julian.Y2j 9999)) (nonneg : 0 ≤ count)
    (near : count ≤ nominalUnits step (later - clock) + 2) : Plain (stepClock step count clock) := by
  have last : dayClock (Julian.Y2j 9999) = 3155063616000000000 := by decide
  have day : Utc.day = 864000000000 := rfl
  have bounds := nominalUnits_bounds unit (show 0 ≤ later - clock by omega)
  obtain ⟨valid, number⟩ := plain.dateOf_valid
  have year := plain.year_bounds.1
  obtain ⟨lower, _⟩ := plain
  obtain ⟨counted, rfl⟩ := Int.eq_ofNat_of_zero_le nonneg
  have length : Utc.year = 315360000000000 := rfl
  rw [last] at upper
  rw [length] at lower
  obtain ⟨nominal, estimate⟩ : ∃ nominal, nominal = nominalUnits step (later - clock) := ⟨_, rfl⟩
  rw [← estimate] at bounds near
  unfold stepClock
  rcases unit with rfl | rfl | rfl | rfl
  · rw [if_neg (by decide), if_neg (by decide)]
    rw [day] at bounds ⊢
    constructor <;> omega
  · have week : Utc.week = 6048000000000 := rfl
    rw [if_neg (by decide), if_neg (by decide)]
    rw [week] at bounds ⊢
    constructor <;> omega
  · have month : Utc.month = 25920000000000 := rfl
    have moved := YMD2j_addMonths_bounds valid year counted
    rw [if_neg (by decide), if_pos rfl, moveDate, ← number, day]
    rw [month] at bounds
    constructor <;> omega
  · have moved := YMD2j_years year valid.oneLeMonth valid.monthLe counted
    rw [if_pos rfl, moveDate, ← number, day]
    rw [length] at bounds
    constructor <;> omega

theorem stepClock_zero {step : Int} (plain : Plain clock) : stepClock step 0 clock = clock := by
  obtain ⟨valid, number⟩ := plain.dateOf_valid
  unfold stepClock moveDate
  split
  · rw [Int.add_zero, number]
    omega
  · split
    · rw [addMonths_zero valid, number]
      omega
    · omega

theorem stepClock_lt {step count : Int} (unit : CalendarStep step) (plain : Plain clock) (nonneg : 0 ≤ count) :
    stepClock step count clock < stepClock step (count + 1) clock := by
  have day : Utc.day = 864000000000 := rfl
  obtain ⟨valid, number⟩ := plain.dateOf_valid
  have year := plain.year_bounds.1
  unfold stepClock
  rcases unit with rfl | rfl | rfl | rfl
  · rw [if_neg (by decide), if_neg (by decide), if_neg (by decide), if_neg (by decide), day]
    omega
  · have week : Utc.week = 6048000000000 := rfl
    rw [if_neg (by decide), if_neg (by decide), if_neg (by decide), if_neg (by decide), week]
    omega
  · have moved := YMD2j_addMonths_lt valid year nonneg
    rw [if_neg (by decide), if_pos rfl, if_neg (by decide), if_pos rfl, moveDate, moveDate, day]
    omega
  · have moved := @Julian.YMD2j_nextYear ⟨(dateOf clock).year + count, (dateOf clock).month, (dateOf clock).day⟩
      (by dsimp only; omega) valid.oneLeMonth valid.monthLe
    dsimp only at moved
    rw [if_pos rfl, if_pos rfl, moveDate, moveDate, day, ← Int.add_assoc]
    omega

end Steps

section Zone

variable {calendar : RegionalCalendar} {clock : Int}

theorem add_stepClock (standard : calendar.StandardTime) {step count : Int} (unit : CalendarStep step)
    (plain : Plain clock) (moved : Plain (stepClock step count clock)) :
    calendar.add (calendar.ofClock clock) step count = .ok (calendar.ofClock (stepClock step count clock)) := by
  unfold stepClock at moved ⊢
  rcases unit with rfl | rfl | rfl | rfl
  · rw [if_neg (by decide), if_neg (by decide)] at moved ⊢
    exact add_clock standard plain (by decide) (by decide) moved
  · rw [if_neg (by decide), if_neg (by decide)] at moved ⊢
    exact add_clock standard plain (by decide) (by decide) moved
  · have same := addToMonth_eq plain.dateOf_valid.1 count
    rw [if_neg (by decide), if_pos rfl, moveDate, ← same] at moved ⊢
    exact addMonth_clock standard plain moved
  · rw [if_pos rfl, moveDate] at moved ⊢
    exact addYear_clock standard plain moved

theorem greater_ofClock (standard : calendar.StandardTime) {later : Int} (plain : Plain clock)
    (laterPlain : Plain later) :
    UtcTime.greater (calendar.ofClock clock) (calendar.ofClock later) = .ok (decide (later < clock)) := by
  have ticks := ofClock_ticks standard plain
  have laterTicks := ofClock_ticks standard laterPlain
  rw [UtcTime.greater_of_ne_null (ofClock_ordinary standard plain).notNull
    (ofClock_ordinary standard laterPlain).notNull]
  congr 1
  apply decide_eq_decide.mpr
  rw [UtcTime.lt_iff]
  omega

theorem less_ofClock (standard : calendar.StandardTime) {later : Int} (plain : Plain clock)
    (laterPlain : Plain later) :
    UtcTime.less (calendar.ofClock clock) (calendar.ofClock later) = .ok (decide (clock < later)) := by
  have ticks := ofClock_ticks standard plain
  have laterTicks := ofClock_ticks standard laterPlain
  rw [UtcTime.less_of_ne_null (ofClock_ordinary standard plain).notNull
    (ofClock_ordinary standard laterPlain).notNull]
  congr 1
  apply decide_eq_decide.mpr
  rw [UtcTime.lt_iff]
  omega

theorem difference_ofClock (standard : calendar.StandardTime) {later : Int} (plain : Plain clock)
    (laterPlain : Plain later) :
    UtcTime.difference (calendar.ofClock later) (calendar.ofClock clock) = .ok (later - clock) := by
  have year : Utc.year = 315360000000000 := rfl
  have ordinary := UtcTime.ordinary_iff.mp (ofClock_ordinary standard plain)
  have laterOrdinary := UtcTime.ordinary_iff.mp (ofClock_ordinary standard laterPlain)
  have ticks := ofClock_ticks standard plain
  have laterTicks := ofClock_ticks standard laterPlain
  obtain ⟨lower, upper⟩ := plain
  obtain ⟨laterLower, laterUpper⟩ := laterPlain
  have span : (calendar.ofClock later).ticks - (calendar.ofClock clock).ticks = later - clock := by omega
  simp only [UtcTime.difference, Utc.null, ordinary.1, laterOrdinary.1, or_self, if_false, span, pure_eq_ok]
  rw [long_eq (by omega) (by omega)]

theorem diffUnits_clock (standard : calendar.StandardTime) {step later nominal : Int} (unit : CalendarStep step)
    (plain : Plain clock) (order : clock ≤ later) (upper : later < dayClock (Julian.Y2j 9999))
    (estimate : nominal = nominalUnits step (later - clock)) :
    calendar.diffUnits (calendar.ofClock clock) (calendar.ofClock later) step =
      if later < stepClock step nominal clock then
        .ok (nominal - 1, later - stepClock step (nominal - 1) clock)
      else if stepClock step nominal clock < later then
        if later < stepClock step (nominal + 1) clock then .ok (nominal, later - stepClock step nominal clock)
        else .ok (nominal + 1, later - stepClock step (nominal + 1) clock)
      else .ok (nominal, 0) := by
  have last : dayClock (Julian.Y2j 9999) = 3155063616000000000 := by decide
  have bounds := nominalUnits_bounds unit (show 0 ≤ later - clock by omega)
  have reached {count : Int} (nonneg : 0 ≤ count) (near : count ≤ nominal + 2) :
      Plain (stepClock step count clock) :=
    stepClock_plain unit plain order upper nonneg (by omega)
  have laterPlain : Plain later := ⟨lt_of_lt_of_le plain.lower order, by omega⟩
  have notZero : step ≠ 0 := by rcases unit with rfl | rfl | rfl | rfl <;> decide
  have named : step = Utc.month ∨ step = Utc.week ∨ step = Utc.year ∨ step = Utc.day := by
    rcases unit with same | same | same | same <;> simp [same]
  have span : long ((calendar.ofClock later).ticks - (calendar.ofClock clock).ticks) = later - clock := by
    have year : Utc.year = 315360000000000 := rfl
    have lower := plain.lower
    rw [ofClock_ticks standard plain, ofClock_ticks standard laterPlain, long_eq (by omega) (by omega)]
    omega
  rw [← estimate] at bounds
  have here := reached bounds.1 (by omega)
  have next := reached (show 0 ≤ nominal + 1 by omega) (by omega)
  simp only [diffUnits, notZero, if_false, named, if_true, span, ← estimate, add_stepClock standard unit plain here,
    ok_bind, greater_ofClock standard here laterPlain, less_ofClock standard here laterPlain,
    add_stepClock standard unit plain next, greater_ofClock standard next laterPlain, pure_eq_ok, decide_eq_true_eq]
  split
  · rename_i above
    have positive : 0 < nominal := by
      by_contra zero
      obtain rfl : nominal = 0 := by omega
      rw [stepClock_zero plain] at above
      omega
    have before := reached (show 0 ≤ nominal - 1 by omega) (by omega)
    rw [add_stepClock standard unit plain before, ok_bind, difference_ofClock standard before laterPlain]
    rfl
  · split
    · split
      · rw [difference_ofClock standard here laterPlain, Int.add_sub_cancel]
        rfl
      · rw [difference_ofClock standard next laterPlain]
        rfl
    · rfl

def InvertsAdd (calendar : RegionalCalendar) (tfrom tto : UtcTime) (step : Int) : Prop :=
  ∃ count rest here next, calendar.diffUnits tfrom tto step = .ok (count, rest) ∧
    calendar.add tfrom step count = .ok here ∧ calendar.add tfrom step (count + 1) = .ok next ∧
    here ≤ tto ∧ tto < next ∧ rest = tto.ticks - here.ticks ∧ 0 ≤ rest

structure StepsBetween (step clock later count : Int) : Prop where
  nonneg : 0 ≤ count
  reached : stepClock step count clock ≤ later
  notNext : later < stepClock step (count + 1) clock

theorem ofClock_lt_iff (standard : calendar.StandardTime) {later : Int} (plain : Plain clock)
    (laterPlain : Plain later) : calendar.ofClock clock < calendar.ofClock later ↔ clock < later := by
  rw [UtcTime.lt_iff, ofClock_ticks standard plain, ofClock_ticks standard laterPlain]
  omega

theorem invertsAdd_iff_clock (standard : calendar.StandardTime) {step later count rest : Int}
    (unit : CalendarStep step) (plain : Plain clock) (laterPlain : Plain later)
    (found : calendar.diffUnits (calendar.ofClock clock) (calendar.ofClock later) step = .ok (count, rest))
    (here : Plain (stepClock step count clock)) (next : Plain (stepClock step (count + 1) clock)) :
    calendar.InvertsAdd (calendar.ofClock clock) (calendar.ofClock later) step ↔
      stepClock step count clock ≤ later ∧ later < stepClock step (count + 1) clock ∧
        rest = later - stepClock step count clock := by
  have ticks := ofClock_ticks standard here
  have laterTicks := ofClock_ticks standard laterPlain
  unfold InvertsAdd
  constructor
  · rintro ⟨_, _, _, _, ran, added, addedNext, reached, notNext, left, _⟩
    rw [found] at ran
    cases ran
    rw [add_stepClock standard unit plain here] at added
    cases added
    rw [add_stepClock standard unit plain next] at addedNext
    cases addedNext
    rw [ofClock_le_iff standard here laterPlain] at reached
    rw [ofClock_lt_iff standard laterPlain next] at notNext
    exact ⟨reached, notNext, by omega⟩
  · rintro ⟨reached, notNext, left⟩
    exact ⟨count, rest, _, _, found, add_stepClock standard unit plain here, add_stepClock standard unit plain next,
      (ofClock_le_iff standard here laterPlain).mpr reached, (ofClock_lt_iff standard laterPlain next).mpr notNext,
      by omega, by omega⟩

/-- The one correction suffices if and only if the nominal count misses the count of the
calendar by one step at most. -/
theorem diffUnits_invertsAdd_iff (standard : calendar.StandardTime) {tfrom tto : UtcTime} {step : Int}
    (unit : CalendarStep step) (plain : Plain (calendar.clockOf tfrom)) (order : tfrom ≤ tto)
    (upper : calendar.clockOf tto < dayClock (Julian.Y2j 9999)) :
    calendar.InvertsAdd tfrom tto step ↔
      ∃ count, StepsBetween step (calendar.clockOf tfrom) (calendar.clockOf tto) count ∧
        nominalUnits step (tto.ticks - tfrom.ticks) ≤ count + 1 ∧
        count ≤ nominalUnits step (tto.ticks - tfrom.ticks) + 1 := by
  obtain ⟨clock, clockEq⟩ : ∃ clock, clock = calendar.clockOf tfrom := ⟨_, rfl⟩
  obtain ⟨later, laterEq⟩ : ∃ later, later = calendar.clockOf tto := ⟨_, rfl⟩
  have from_ : tfrom = calendar.ofClock clock := by rw [clockEq, ofClock_clockOf]
  have to_ : tto = calendar.ofClock later := by rw [laterEq, ofClock_clockOf]
  have last : dayClock (Julian.Y2j 9999) = 3155063616000000000 := by decide
  have ordered : clock ≤ later := by
    rw [UtcTime.le_iff] at order
    simp only [clockOf] at clockEq laterEq
    omega
  have span : tto.ticks - tfrom.ticks = later - clock := by
    simp only [clockOf] at clockEq laterEq
    omega
  rw [← clockEq] at plain ⊢
  rw [← laterEq] at upper ⊢
  rw [span, from_, to_]
  have laterPlain : Plain later := ⟨lt_of_lt_of_le plain.lower ordered, by omega⟩
  obtain ⟨nominal, estimate⟩ : ∃ nominal, nominal = nominalUnits step (later - clock) := ⟨_, rfl⟩
  have bounds := nominalUnits_bounds unit (show 0 ≤ later - clock by omega)
  have found := diffUnits_clock standard unit plain ordered upper estimate
  rw [← estimate] at bounds ⊢
  have reached {count : Int} (nonneg : 0 ≤ count) (near : count ≤ nominal + 2) :
      Plain (stepClock step count clock) :=
    stepClock_plain unit plain ordered upper nonneg (by omega)
  have rises {count : Int} (nonneg : 0 ≤ count) : stepClock step count clock < stepClock step (count + 1) clock :=
    stepClock_lt unit plain nonneg
  constructor
  · intro inverts
    split at found
    · rename_i above
      have positive : 0 < nominal := by
        by_contra zero
        obtain rfl : nominal = 0 := by omega
        rw [stepClock_zero plain] at above
        omega
      have holds := (invertsAdd_iff_clock standard unit plain laterPlain found (reached (by omega) (by omega))
        (reached (by omega) (by omega))).mp inverts
      exact ⟨nominal - 1, ⟨by omega, holds.1, holds.2.1⟩, by omega, by omega⟩
    · split at found
      · split at found
        · rename_i _ _ notNext
          exact ⟨nominal, ⟨bounds.1, by omega, notNext⟩, by omega, by omega⟩
        · have holds := (invertsAdd_iff_clock standard unit plain laterPlain found (reached (by omega) (by omega))
            (reached (by omega) (by omega))).mp inverts
          exact ⟨nominal + 1, ⟨by omega, holds.1, holds.2.1⟩, by omega, by omega⟩
      · have next := rises bounds.1
        exact ⟨nominal, ⟨bounds.1, by omega, by omega⟩, by omega, by omega⟩
  · rintro ⟨count, ⟨nonneg, atMost, notNext⟩, above, under⟩
    have cases_ : nominal = count + 1 ∨ nominal = count ∨ nominal = count - 1 := by omega
    rcases cases_ with same | same | same
    · rw [if_pos (by rw [same]; exact notNext), same, Int.add_sub_cancel] at found
      exact (invertsAdd_iff_clock standard unit plain laterPlain found (reached nonneg (by omega))
        (reached (by omega) (by omega))).mpr ⟨atMost, notNext, rfl⟩
    · rw [if_neg (by rw [same]; omega), same, if_pos notNext] at found
      have exact_ : (if stepClock step count clock < later then
          (Except.ok (count, later - stepClock step count clock) : Except SystemException (Int × Int))
          else .ok (count, 0)) = .ok (count, later - stepClock step count clock) := by
        split
        · rfl
        · congr 2
          omega
      rw [exact_] at found
      exact (invertsAdd_iff_clock standard unit plain laterPlain found (reached nonneg (by omega))
        (reached (by omega) (by omega))).mpr ⟨atMost, notNext, rfl⟩
    · have before := rises bounds.1
      have here : nominal + 1 = count := by omega
      rw [here] at before
      rw [if_neg (by omega), if_pos (by omega), here, if_neg (by omega)] at found
      exact (invertsAdd_iff_clock standard unit plain laterPlain found (reached nonneg (by omega))
        (reached (by omega) (by omega))).mpr ⟨atMost, notNext, rfl⟩

theorem diffUnits_invertsAdd_iff_march :
    utcCalendar.InvertsAdd (.ofTicks 630848736000000000) (.ofTicks 631190016000000000) Utc.month := by
  have plain : Plain (utcCalendar.clockOf (.ofTicks 630848736000000000)) := ⟨by decide, by decide⟩
  refine (diffUnits_invertsAdd_iff utcCalendar_standard (Or.inr (Or.inr (Or.inl rfl))) plain (by decide) (by decide)).mpr ?_
  exact ⟨13, ⟨by decide, by decide, by decide⟩, by decide, by decide⟩

theorem diffUnits_november_rest :
    utcCalendar.diffUnits (.ofTicks 630822816000000000) (.ofTicks 632689056000000000) Utc.month =
      .ok (71, -Utc.day) := by
  decide

theorem diffUnits_november :
    ¬ utcCalendar.InvertsAdd (.ofTicks 630822816000000000) (.ofTicks 632689056000000000) Utc.month := by
  rintro ⟨count, rest, _, _, ran, _, _, _, _, _, nonneg⟩
  have same := Except.ok.inj (ran.symm.trans diffUnits_november_rest)
  have negative : rest = -Utc.day := congrArg Prod.snd same
  rw [negative] at nonneg
  exact absurd nonneg (by decide)

end Zone

end RegionalCalendar

end ServiceHost
