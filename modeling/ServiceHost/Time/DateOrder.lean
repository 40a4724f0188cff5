import ServiceHost.Time.Julian

/-!
The order of dates: the day number grows with the year, the month and the day, so
that dates compare as the numbers that their digits say.
-/

namespace ServiceHost

def Date.number (date : Date) : Int := 10000 * date.year + 100 * date.month + date.day

def Date.next (date : Date) : Date :=
  if date.day < daysInMonth date.year date.month then { date with day := date.day + 1 }
  else if date.month < 12 then ⟨date.year, date.month + 1, 1⟩
  else ⟨date.year + 1, 1, 1⟩

namespace Julian

theorem YMD2j_early {date : Date} (oneLe : 1 ≤ date.month) (le : date.month ≤ 2) :
    YMD2j date = Y2j date.year + 31 * (date.month - 1) + date.day - 1 := by
  have shift : (date.month - 14).tdiv 12 = -1 := by
    have cases : date.month = 1 ∨ date.month = 2 := by omega
    rcases cases with same | same <;> rw [same] <;> rfl
  have months : (367 * (date.month - 2 - -1 * 12)).tdiv 12 = 336 + 31 * (date.month - 1) := by
    have cases : date.month = 1 ∨ date.month = 2 := by omega
    rcases cases with same | same <;> rw [same] <;> rfl
  have years : date.year + 4800 + -1 = date.year + 4799 := by omega
  have centuries : date.year + 4900 + -1 = date.year + 4899 := by omega
  unfold YMD2j Y2j
  simp only [shift, months, years, centuries]
  omega

theorem YMD2j_late {date : Date} (threeLe : 3 ≤ date.month) (le : date.month ≤ 12) :
    YMD2j date = Y2j (date.year + 1) + 367 * (date.month - 2) / 12 + date.day - 337 := by
  have shift : (date.month - 14).tdiv 12 = 0 := by
    have negated : date.month - 14 = -(14 - date.month) := by omega
    rw [negated, Int.neg_tdiv, Int.tdiv_eq_zero_of_lt (by omega) (by omega)]
    rfl
  have months : (367 * (date.month - 2 - 0 * 12)).tdiv 12 = 367 * (date.month - 2) / 12 := by
    rw [Int.zero_mul, Int.sub_zero]
    exact Int.tdiv_eq_ediv_of_nonneg (by omega)
  have years : date.year + 4800 + 0 = date.year + 1 + 4799 := by omega
  have centuries : date.year + 4900 + 0 = date.year + 1 + 4899 := by omega
  unfold YMD2j Y2j
  simp only [shift, months, years, centuries]
  omega

theorem YMD2j_firstOfYear (year : Int) : YMD2j ⟨year, 1, 1⟩ = Y2j year := by
  rw [YMD2j_early (show 1 ≤ (1 : Int) by decide) (show (1 : Int) ≤ 2 by decide)]
  dsimp only
  omega

theorem Y2j_succ_le {year : Int} (lower : -4799 ≤ year) : Y2j (year + 1) ≤ Y2j year + 366 := by
  rw [Y2j_eq lower, Y2j_eq (by omega)]
  omega

theorem YMD2j_nextYear {date : Date} (year : -4700 ≤ date.year) (oneLe : 1 ≤ date.month) (le : date.month ≤ 12) :
    YMD2j date + 365 ≤ YMD2j ⟨date.year + 1, date.month, date.day⟩ ∧
      YMD2j ⟨date.year + 1, date.month, date.day⟩ ≤ YMD2j date + 366 := by
  rcases le_or_gt date.month 2 with early | late
  · have atLeast := Y2j_succ (show -4799 ≤ date.year by omega)
    have atMost := Y2j_succ_le (show -4799 ≤ date.year by omega)
    have next : YMD2j ⟨date.year + 1, date.month, date.day⟩ = _ := YMD2j_early oneLe early
    rw [YMD2j_early oneLe early, next]
    dsimp only
    omega
  · have atLeast := Y2j_succ (show -4799 ≤ date.year + 1 by omega)
    have atMost := Y2j_succ_le (show -4799 ≤ date.year + 1 by omega)
    have next : YMD2j ⟨date.year + 1, date.month, date.day⟩ = _ := YMD2j_late late le
    rw [YMD2j_late late le, next]
    dsimp only
    omega

theorem Y2j_leap {year : Int} (lower : -4700 ≤ year) :
    Y2j (year + 1) = Y2j year + if isLeapYear year then 366 else 365 := by
  rw [Y2j_eq (by omega), Y2j_eq (by omega)]
  have leap := isLeapYear_iff year
  have nextCentury : (year + 1 + 4899) / 100 = year / 100 + 49 := by omega
  have remainder : year % 4 = 0 ∨ year % 4 = 1 ∨ year % 4 = 2 ∨ year % 4 = 3 := by omega
  rw [nextCentury]
  by_cases hundred : year % 100 = 0
  · have century : (year + 4899) / 100 = year / 100 + 48 := by omega
    rw [century]
    split
    · rename_i isLeap
      have divisible := leap.mp isLeap
      omega
    · rename_i common
      have indivisible := mt leap.mpr common
      have which : year / 100 % 4 = 1 ∨ year / 100 % 4 = 2 ∨ year / 100 % 4 = 3 := by omega
      rcases which with same | same | same <;> omega
  · have century : (year + 4899) / 100 = year / 100 + 49 := by omega
    rw [century]
    split
    · rename_i isLeap
      have divisible := leap.mp isLeap
      omega
    · rename_i common
      have indivisible := mt leap.mpr common
      rcases remainder with same | same | same | same <;> omega

theorem monthStart_le {year month later : Int} (threeLe : 3 ≤ month) (before : month < later) (le : later ≤ 12) :
    367 * (month - 2) / 12 + daysInMonth year month ≤ 367 * (later - 2) / 12 := by
  have next : 367 * (month - 2) / 12 + daysInMonth year month ≤ 367 * (month + 1 - 2) / 12 := by
    have notFebruary : month ≠ 2 := by omega
    have months : month = 3 ∨ month = 4 ∨ month = 5 ∨ month = 6 ∨ month = 7 ∨ month = 8 ∨ month = 9 ∨
        month = 10 ∨ month = 11 := by omega
    rw [daysInMonth, if_neg notFebruary]
    rcases months with same | same | same | same | same | same | same | same | same <;> subst same <;> decide
  exact le_trans next (Int.ediv_le_ediv (by decide) (by omega))

theorem YMD2j_lt_sameYear {date later : Date} (valid : date.Valid) (laterValid : later.Valid)
    (sameYear : date.year = later.year) (year : -4700 ≤ date.year)
    (before : date.month < later.month ∨ date.month = later.month ∧ date.day < later.day) :
    YMD2j date < YMD2j later := by
  obtain ⟨oneLeMonth, monthLe, oneLeDay, dayLe⟩ := valid
  obtain ⟨laterOneLeMonth, laterMonthLe, laterOneLeDay, laterDayLe⟩ := laterValid
  have leap := Y2j_leap year
  rcases le_or_gt date.month 2 with early | late
  · rw [YMD2j_early oneLeMonth early]
    unfold daysInMonth at dayLe
    rcases le_or_gt later.month 2 with laterEarly | laterLate
    · rw [YMD2j_early laterOneLeMonth laterEarly, ← sameYear]
      split at dayLe <;> omega
    · rw [YMD2j_late laterLate laterMonthLe, ← sameYear, leap]
      split at dayLe
      · split at dayLe
        · rename_i isLeap
          rw [if_pos isLeap]
          omega
        · rename_i common
          rw [if_neg common]
          omega
      · split <;> omega
  · have laterLate : 2 < later.month := by omega
    rw [YMD2j_late late monthLe, YMD2j_late laterLate laterMonthLe, ← sameYear]
    rcases before with month | ⟨month, day⟩
    · have spaced : _ + daysInMonth date.year date.month ≤ _ := monthStart_le late month laterMonthLe
      omega
    · rw [month]
      omega

theorem YMD2j_lt {date later : Date} (valid : date.Valid) (laterValid : later.Valid) (year : -4700 ≤ date.year)
    (before : date.number < later.number) : YMD2j date < YMD2j later := by
  have days := daysInMonth_le later.year later.month
  have earlierDays := daysInMonth_le date.year date.month
  obtain ⟨oneLeMonth, monthLe, oneLeDay, dayLe⟩ := valid
  obtain ⟨laterOneLeMonth, laterMonthLe, laterOneLeDay, laterDayLe⟩ := laterValid
  unfold Date.number at before
  rcases Int.lt_trichotomy date.year later.year with earlier | same | after
  · have end_ := (YMD2j_bounds ⟨oneLeMonth, monthLe, oneLeDay, dayLe⟩ year).2
    have start := (YMD2j_bounds ⟨laterOneLeMonth, laterMonthLe, laterOneLeDay, laterDayLe⟩ (by omega)).1
    rcases Int.lt_or_eq_of_le (show date.year + 1 ≤ later.year by omega) with less | equal
    · have order := Y2j_lt (by omega) less
      omega
    · rw [equal] at end_
      omega
  · exact YMD2j_lt_sameYear ⟨oneLeMonth, monthLe, oneLeDay, dayLe⟩
      ⟨laterOneLeMonth, laterMonthLe, laterOneLeDay, laterDayLe⟩ same year (by omega)
  · omega

theorem YMD2j_le_iff {date later : Date} (valid : date.Valid) (laterValid : later.Valid)
    (year : -4700 ≤ date.year) (laterYear : -4700 ≤ later.year) :
    YMD2j date ≤ YMD2j later ↔ date.number ≤ later.number := by
  constructor
  · intro order
    by_contra after
    have reversed := YMD2j_lt laterValid valid laterYear (by omega)
    omega
  · intro order
    by_contra after
    rcases Int.lt_or_eq_of_le order with less | equal
    · have forward := YMD2j_lt valid laterValid year less
      omega
    · have days := daysInMonth_le later.year later.month
      have earlierDays := daysInMonth_le date.year date.month
      obtain ⟨oneLeMonth, monthLe, oneLeDay, dayLe⟩ := valid
      obtain ⟨laterOneLeMonth, laterMonthLe, laterOneLeDay, laterDayLe⟩ := laterValid
      unfold Date.number at equal
      have same : date = later := by
        ext <;> omega
      rw [same] at after
      omega

theorem YMD2j_nextMonth {date : Date} (valid : date.Valid) (year : -4700 ≤ date.year) (notLast : date.month < 12)
    (last : date.day = daysInMonth date.year date.month) :
    YMD2j ⟨date.year, date.month + 1, 1⟩ = YMD2j date + 1 := by
  have oneLeMonth := valid.oneLeMonth
  have leap := Y2j_leap year
  rcases le_or_gt date.month 2 with early | late
  · rw [YMD2j_early oneLeMonth early, last]
    rcases Int.lt_or_eq_of_le early with january | february
    · obtain first : date.month = 1 := by omega
      have days : daysInMonth date.year 1 = 31 := rfl
      rw [first, days]
      exact (YMD2j_early (show (1 : Int) ≤ 2 by decide) (Int.le_refl 2)).trans (by dsimp only; omega)
    · have days : daysInMonth date.year 2 = if isLeapYear date.year then 29 else 28 := rfl
      rw [february, days]
      refine (YMD2j_late (Int.le_refl 3) (show (3 : Int) ≤ 12 by decide)).trans ?_
      dsimp only
      rw [leap]
      split <;> omega
  · rw [YMD2j_late late (by omega), last]
    refine (YMD2j_late (show 3 ≤ date.month + 1 by omega) (show date.month + 1 ≤ 12 by omega)).trans ?_
    have notFebruary : date.month ≠ 2 := by omega
    have months : date.month = 3 ∨ date.month = 4 ∨ date.month = 5 ∨ date.month = 6 ∨ date.month = 7 ∨
        date.month = 8 ∨ date.month = 9 ∨ date.month = 10 ∨ date.month = 11 := by omega
    rw [daysInMonth, if_neg notFebruary]
    dsimp only
    rcases months with same | same | same | same | same | same | same | same | same <;> rw [same]
    all_goals simp
    all_goals omega

theorem YMD2j_next {date : Date} (valid : date.Valid) (year : -4700 ≤ date.year) :
    YMD2j date.next = YMD2j date + 1 := by
  have dayLe := valid.dayLe
  have monthLe := valid.monthLe
  unfold Date.next
  split
  · unfold YMD2j
    dsimp only
    omega
  · split
    · rename_i notLast
      exact YMD2j_nextMonth valid year notLast (by omega)
    · obtain december : date.month = 12 := by omega
      have days : daysInMonth date.year 12 = 31 := rfl
      rw [december, days] at dayLe
      rename_i lastDay _
      rw [december, days] at lastDay
      rw [YMD2j_firstOfYear, YMD2j_late (by omega) monthLe, december]
      omega

/-- Day numbers count the dates of the calendar, back and forth, from long before year 1 on. -/
theorem julian_bijection {date : Date} (valid : date.Valid) (year : -4700 ≤ date.year) :
    YMD2j date.next = YMD2j date + 1 ∧ j2YMD (YMD2j date) = date ∧
      (∀ julDate, julDate = YMD2j date → YMD2j (j2YMD julDate) = julDate ∧ j2Y julDate = (j2YMD julDate).year) ∧
      Y2j date.year = YMD2j ⟨date.year, 1, 1⟩ := by
  have back := j2YMD_YMD2j valid (by omega)
  refine ⟨YMD2j_next valid year, back, ?_, (YMD2j_firstOfYear date.year).symm⟩
  intro julDate image
  rw [image, back]
  exact ⟨rfl, by rw [j2Y_eq_year, back]⟩

theorem julian_bijection_leapDay :
    Date.Valid ⟨2000, 2, 29⟩ ∧ YMD2j (Date.next ⟨2000, 2, 29⟩) = YMD2j ⟨2000, 2, 29⟩ + 1 :=
  ⟨by decide, (@julian_bijection ⟨2000, 2, 29⟩ (by decide) (by decide)).1⟩

end Julian

end ServiceHost
