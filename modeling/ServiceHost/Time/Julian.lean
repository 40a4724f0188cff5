import ServiceHost.Time.UtcTime

/-!
Julian day numbers and Gregorian dates. The formulas divide in the order of the
code, towards zero. Days before the epoch of the day count are left out of the
theorems: from there on the divisions meet negative numbers.
-/

namespace ServiceHost

@[ext] structure Date where
  year : Int
  month : Int
  day : Int
deriving DecidableEq, Repr

namespace Julian

def referenceDay : Int := 1721426
def referenceTicks : Int := referenceDay * Utc.day

def YMD2j (date : Date) : Int :=
  let shift := (date.month - 14).tdiv 12
  date.day - 32075 + (1461 * (date.year + 4800 + shift)).tdiv 4 +
    (367 * (date.month - 2 - shift * 12)).tdiv 12 - (3 * ((date.year + 4900 + shift).tdiv 100)).tdiv 4

def j2YMD (julDate : Int) : Date :=
  let t1 := julDate + 68569
  let t2 := (4 * t1).tdiv 146097
  let t1 := t1 - (146097 * t2 + 3).tdiv 4
  let yr := (4000 * (t1 + 1)).tdiv 1461001
  let t1 := t1 - (1461 * yr).tdiv 4 + 31
  let mo := (80 * t1).tdiv 2447
  let day := t1 - (2447 * mo).tdiv 80
  let t1 := mo.tdiv 11
  { day
    month := mo + 2 - 12 * t1
    year := 100 * (t2 - 49) + yr + t1 }

def j2Y (julDate : Int) : Int :=
  let t1 := julDate + 68569
  let t2 := (4 * t1).tdiv 146097
  let t1 := t1 - (146097 * t2 + 3).tdiv 4
  let yr := (4000 * (t1 + 1)).tdiv 1461001
  let t1 := t1 - (1461 * yr).tdiv 4 + 31
  let mo := (80 * t1).tdiv 2447
  let t1 := mo.tdiv 11
  100 * (t2 - 49) + yr + t1

def Y2j (year : Int) : Int :=
  -31738 + (1461 * (year + 4799)).tdiv 4 - (3 * ((year + 4899).tdiv 100)).tdiv 4

def j2ticks (julianDay : Int) : Int := long ((julianDay - referenceDay) * Utc.day)

def ticks2j (t : Int) : Int := (long (referenceTicks + t)).tdiv Utc.day

end Julian

def isLeapYear (year : Int) : Bool := year % 4 = 0 && (year % 100 ≠ 0 || year % 400 = 0)

def daysInMonth (year month : Int) : Int :=
  if month = 2 then if isLeapYear year then 29 else 28
  else if month = 4 ∨ month = 6 ∨ month = 9 ∨ month = 11 then 30
  else 31

theorem daysInMonth_le (year month : Int) : daysInMonth year month ≤ 31 := by
  unfold daysInMonth
  split
  · split <;> omega
  · split <;> omega

structure Date.Valid (date : Date) : Prop where
  oneLeMonth : 1 ≤ date.month
  monthLe : date.month ≤ 12
  oneLeDay : 1 ≤ date.day
  dayLe : date.day ≤ daysInMonth date.year date.month

instance (date : Date) : Decidable date.Valid :=
  decidable_of_iff (1 ≤ date.month ∧ date.month ≤ 12 ∧ 1 ≤ date.day ∧
      date.day ≤ daysInMonth date.year date.month)
    ⟨fun ⟨a, b, c, d⟩ => ⟨a, b, c, d⟩, fun ⟨a, b, c, d⟩ => ⟨a, b, c, d⟩⟩

namespace Julian

theorem j2Y_eq_year (julDate : Int) : j2Y julDate = (j2YMD julDate).year := rfl

def firstDay : Int := -32044

def partsDate (century yr mo day : Int) : Date :=
  ⟨100 * (century - 49) + yr + mo / 11, mo + 2 - 12 * (mo / 11), day⟩

def partsNumber (century yr mo day : Int) : Int :=
  (146097 * century + 3) / 4 + 1461 * yr / 4 + 2447 * mo / 80 + day - 31 - 68569

structure Parts (century yr mo : Int) : Prop where
  oneLeCentury : 1 ≤ century
  zeroLeYr : 0 ≤ yr
  yrLe : yr ≤ 99
  oneLeMo : 1 ≤ mo
  moLe : mo ≤ 12

theorem isLeapYear_iff (year : Int) :
    isLeapYear year = true ↔ year % 4 = 0 ∧ (year % 100 ≠ 0 ∨ year % 400 = 0) := by
  simp [isLeapYear]

theorem exists_parts_date {date : Date} (valid : date.Valid) (year : -4799 ≤ date.year) :
    ∃ century yr mo, Parts century yr mo ∧ date = partsDate century yr mo date.day := by
  have oneLe := valid.oneLeMonth
  have le := valid.monthLe
  by_cases early : date.month ≤ 2
  · refine ⟨(date.year + 4899) / 100, (date.year + 4899) % 100, date.month + 10,
      ⟨by omega, by omega, by omega, by omega, by omega⟩, ?_⟩
    apply Date.ext <;> simp only [partsDate] <;> omega
  · refine ⟨(date.year + 4900) / 100, (date.year + 4900) % 100, date.month - 2,
      ⟨by omega, by omega, by omega, by omega, by omega⟩, ?_⟩
    apply Date.ext <;> simp only [partsDate] <;> omega

theorem YMD2j_partsDate {century yr mo : Int} (parts : Parts century yr mo) (day : Int) :
    YMD2j (partsDate century yr mo day) = partsNumber century yr mo day := by
  obtain ⟨oneLeCentury, zeroLeYr, yrLe, oneLeMo, moLe⟩ := parts
  have shift : (mo + 2 - 12 * (mo / 11) - 14).tdiv 12 = -(mo / 11) := by
    by_cases late : mo ≤ 10
    · have small : (mo + 2 - 12 * (mo / 11) - 14).tdiv 12 = -((12 - mo).tdiv 12) := by
        rw [← Int.neg_tdiv]
        congr 1
        omega
      rw [small, Int.tdiv_eq_ediv_of_nonneg (by omega)]
      omega
    · have large : (mo + 2 - 12 * (mo / 11) - 14).tdiv 12 = -((24 - mo).tdiv 12) := by
        rw [← Int.neg_tdiv]
        congr 1
        omega
      rw [large, Int.tdiv_eq_ediv_of_nonneg (by omega)]
      omega
  have months : 367 * mo / 12 = 2447 * mo / 80 := by omega
  have years : 1461 * (100 * (century - 1) + yr) / 4 = 36525 * (century - 1) + 1461 * yr / 4 := by omega
  simp only [YMD2j, partsDate, partsNumber, shift]
  have first : 1461 * (100 * (century - 49) + yr + mo / 11 + 4800 + -(mo / 11)) =
      1461 * (100 * (century - 1) + yr) := by omega
  have second : 367 * (mo + 2 - 12 * (mo / 11) - 2 - -(mo / 11) * 12) = 367 * mo := by omega
  have third : 100 * (century - 49) + yr + mo / 11 + 4900 + -(mo / 11) = 100 * century + yr := by omega
  rw [first, second, third, Int.tdiv_eq_ediv_of_nonneg (by omega), Int.tdiv_eq_ediv_of_nonneg (by omega),
    Int.tdiv_eq_ediv_of_nonneg (by omega : 0 ≤ 100 * century + yr),
    Int.tdiv_eq_ediv_of_nonneg (by omega), years, months]
  omega

theorem daysInMonth_regular {yr mo : Int} (oneLe : 1 ≤ mo) (le : mo ≤ 11) (year : Int) :
    daysInMonth (year + yr) (mo + 2 - 12 * (mo / 11)) = 2447 * (mo + 1) / 80 - 2447 * mo / 80 := by
  have cases : mo = 1 ∨ mo = 2 ∨ mo = 3 ∨ mo = 4 ∨ mo = 5 ∨ mo = 6 ∨ mo = 7 ∨ mo = 8 ∨ mo = 9 ∨
      mo = 10 ∨ mo = 11 := by omega
  rcases cases with rfl | rfl | rfl | rfl | rfl | rfl | rfl | rfl | rfl | rfl | rfl <;> rfl

theorem daysInMonth_february (century : Int) {yr : Int} (zeroLe : 0 ≤ yr) (le : yr ≤ 99) :
    daysInMonth (100 * (century - 49) + yr + 1) 2 =
      if yr % 4 = 3 ∧ (yr = 99 → century % 4 = 0) then 29 else 28 := by
  have leap : isLeapYear (100 * (century - 49) + yr + 1) = true ↔
      yr % 4 = 3 ∧ (yr = 99 → century % 4 = 0) := by
    rw [isLeapYear_iff]
    omega
  simp only [daysInMonth, if_true, leap]

theorem partsDate_valid_iff {century yr mo : Int} (parts : Parts century yr mo) (day : Int) :
    (partsDate century yr mo day).Valid ↔ 1 ≤ day ∧
      (mo ≤ 11 → day + 2447 * mo / 80 ≤ 2447 * (mo + 1) / 80) ∧
      (mo = 12 → day ≤ 29 ∧ (day = 29 → yr % 4 = 3 ∧ (yr = 99 → century % 4 = 0))) := by
  obtain ⟨oneLeCentury, zeroLeYr, yrLe, oneLeMo, moLe⟩ := parts
  have month : 1 ≤ mo + 2 - 12 * (mo / 11) ∧ mo + 2 - 12 * (mo / 11) ≤ 12 := by omega
  have valid : (partsDate century yr mo day).Valid ↔ 1 ≤ day ∧
      day ≤ daysInMonth (100 * (century - 49) + yr + mo / 11) (mo + 2 - 12 * (mo / 11)) :=
    ⟨fun ⟨_, _, oneLe, le⟩ => ⟨oneLe, le⟩, fun ⟨oneLe, le⟩ => ⟨month.1, month.2, oneLe, le⟩⟩
  rw [valid]
  refine and_congr_right fun _ => ?_
  by_cases last : mo = 12
  · subst last
    have days := daysInMonth_february century zeroLeYr yrLe
    change day ≤ daysInMonth (100 * (century - 49) + yr + 1) 2 ↔ _
    rw [days]
    split <;> omega
  · rw [Int.add_assoc, daysInMonth_regular oneLeMo (by omega)]
    omega

theorem j2YMD_partsNumber {century yr mo day : Int} (parts : Parts century yr mo)
    (valid : (partsDate century yr mo day).Valid) :
    j2YMD (partsNumber century yr mo day) = partsDate century yr mo day := by
  obtain ⟨oneLeDay, regular, february⟩ := (partsDate_valid_iff parts day).mp valid
  obtain ⟨oneLeCentury, zeroLeYr, yrLe, oneLeMo, moLe⟩ := parts
  -- The day of the year, and then one variable of the code after the other.
  obtain ⟨dayOfYear, inYear⟩ : ∃ dayOfYear, dayOfYear = 2447 * mo / 80 + day - 31 := ⟨_, rfl⟩
  have lower : 0 ≤ dayOfYear := by omega
  have upper : dayOfYear ≤ 365 := by omega
  have leapDay : dayOfYear = 365 → yr % 4 = 3 ∧ (yr = 99 → century % 4 = 0) := by omega
  have number : partsNumber century yr mo day + 68569 =
      (146097 * century + 3) / 4 + (1461 * yr / 4 + dayOfYear) := by
    unfold partsNumber
    omega
  have t2 : (4 * (partsNumber century yr mo day + 68569)).tdiv 146097 = century := by
    rw [number, Int.tdiv_eq_ediv_of_nonneg (by omega)]
    omega
  have inCentury : partsNumber century yr mo day + 68569 - (146097 * century + 3).tdiv 4 =
      1461 * yr / 4 + dayOfYear := by
    rw [number, Int.tdiv_eq_ediv_of_nonneg (by omega)]
    omega
  have years : (4000 * (1461 * yr / 4 + dayOfYear + 1)).tdiv 1461001 = yr := by
    rw [Int.tdiv_eq_ediv_of_nonneg (by omega)]
    omega
  have shifted : 1461 * yr / 4 + dayOfYear - (1461 * yr).tdiv 4 + 31 = 2447 * mo / 80 + day := by
    rw [Int.tdiv_eq_ediv_of_nonneg (by omega)]
    omega
  have months : (80 * (2447 * mo / 80 + day)).tdiv 2447 = mo := by
    rw [Int.tdiv_eq_ediv_of_nonneg (by omega)]
    omega
  have days : 2447 * mo / 80 + day - (2447 * mo).tdiv 80 = day := by
    rw [Int.tdiv_eq_ediv_of_nonneg (by omega)]
    omega
  simp only [j2YMD, t2, inCentury, years, shifted, months, days,
    Int.tdiv_eq_ediv_of_nonneg (show 0 ≤ mo by omega), partsDate]

theorem exists_parts_number {julDate : Int} (lower : firstDay ≤ julDate) :
    ∃ century yr mo day, Parts century yr mo ∧ (partsDate century yr mo day).Valid ∧
      julDate = partsNumber century yr mo day := by
  unfold firstDay at lower
  obtain ⟨century, centuryEq⟩ : ∃ century, century = 4 * (julDate + 68569) / 146097 := ⟨_, rfl⟩
  obtain ⟨rest, restEq⟩ : ∃ rest, rest = julDate + 68569 - (146097 * century + 3) / 4 := ⟨_, rfl⟩
  obtain ⟨yr, yrEq⟩ : ∃ yr, yr = 4000 * (rest + 1) / 1461001 := ⟨_, rfl⟩
  obtain ⟨shifted, shiftedEq⟩ : ∃ shifted, shifted = rest - 1461 * yr / 4 + 31 := ⟨_, rfl⟩
  obtain ⟨mo, moEq⟩ : ∃ mo, mo = 80 * shifted / 2447 := ⟨_, rfl⟩
  have restLower : 0 ≤ rest := by omega
  have restUpper : rest ≤ 36523 ∨ rest = 36524 ∧ century % 4 = 0 := by
    have leapCentury : century % 4 = 0 ∨ century % 4 = 1 ∨ century % 4 = 2 ∨ century % 4 = 3 := by omega
    rcases leapCentury with remainder | remainder | remainder | remainder <;> omega
  have yrRange : 0 ≤ yr ∧ yr ≤ 99 := by omega
  have shiftedRange : 31 ≤ shifted ∧ (shifted ≤ 395 ∨ shifted = 396 ∧ yr % 4 = 3) := by
    have leap : yr % 4 = 0 ∨ yr % 4 = 1 ∨ yr % 4 = 2 ∨ yr % 4 = 3 := by omega
    rcases leap with remainder | remainder | remainder | remainder <;> omega
  have moRange : 1 ≤ mo ∧ mo ≤ 12 := by omega
  have parts : Parts century yr mo := ⟨by omega, yrRange.1, yrRange.2, moRange.1, moRange.2⟩
  refine ⟨century, yr, mo, shifted - 2447 * mo / 80, parts, ?_, ?_⟩
  · have dayLower : 1 ≤ shifted - 2447 * mo / 80 := by
      have cases : mo = 1 ∨ mo = 2 ∨ mo = 3 ∨ mo = 4 ∨ mo = 5 ∨ mo = 6 ∨ mo = 7 ∨ mo = 8 ∨ mo = 9 ∨
          mo = 10 ∨ mo = 11 ∨ mo = 12 := by omega
      rcases cases with same | same | same | same | same | same | same | same | same | same | same |
        same <;> omega
    refine (partsDate_valid_iff parts _).mpr ⟨dayLower, by omega, fun last => ⟨by omega, fun leapDay => ?_⟩⟩
    have remainder : yr % 4 = 3 := by omega
    exact ⟨remainder, by omega⟩
  · unfold partsNumber
    omega

theorem YMD2j_j2YMD {julDate : Int} (lower : firstDay ≤ julDate) : YMD2j (j2YMD julDate) = julDate := by
  obtain ⟨century, yr, mo, day, parts, valid, rfl⟩ := exists_parts_number lower
  rw [j2YMD_partsNumber parts valid, YMD2j_partsDate parts]

theorem j2YMD_valid {julDate : Int} (lower : firstDay ≤ julDate) : (j2YMD julDate).Valid := by
  obtain ⟨century, yr, mo, day, parts, valid, rfl⟩ := exists_parts_number lower
  rw [j2YMD_partsNumber parts valid]
  exact valid

theorem j2YMD_year {julDate : Int} (lower : firstDay ≤ julDate) (upper : julDate < 12000000) :
    -4800 ≤ (j2YMD julDate).year ∧ (j2YMD julDate).year < 30000 := by
  obtain ⟨century, yr, mo, day, parts, valid, rfl⟩ := exists_parts_number lower
  rw [j2YMD_partsNumber parts valid]
  have oneLeDay := valid.oneLeDay
  obtain ⟨oneLeCentury, zeroLeYr, yrLe, oneLeMo, moLe⟩ := parts
  unfold partsNumber at upper
  simp only [partsDate] at oneLeDay ⊢
  omega

theorem j2YMD_YMD2j {date : Date} (valid : date.Valid) (year : -4799 ≤ date.year) :
    j2YMD (YMD2j date) = date := by
  obtain ⟨century, yr, mo, parts, same⟩ := exists_parts_date valid year
  rw [same] at valid
  rw [same, YMD2j_partsDate parts, j2YMD_partsNumber parts valid]

theorem Y2j_eq {year : Int} (lower : -4799 ≤ year) :
    Y2j year = -31738 + 1461 * (year + 4799) / 4 - 3 * ((year + 4899) / 100) / 4 := by
  unfold Y2j
  rw [Int.tdiv_eq_ediv_of_nonneg (by omega), Int.tdiv_eq_ediv_of_nonneg (by omega : 0 ≤ year + 4899),
    Int.tdiv_eq_ediv_of_nonneg (by omega)]

theorem Y2j_succ {year : Int} (lower : -4799 ≤ year) : Y2j year + 365 ≤ Y2j (year + 1) := by
  rw [Y2j_eq lower, Y2j_eq (by omega)]
  have remainder : year % 4 = 0 ∨ year % 4 = 1 ∨ year % 4 = 2 ∨ year % 4 = 3 := by omega
  rcases remainder with same | same | same | same <;> omega

theorem Y2j_lt {year later : Int} (lower : -4799 ≤ year) (before : year < later) :
    Y2j year < Y2j later := by
  rw [Y2j_eq lower, Y2j_eq (by omega)]
  omega

theorem Y2j_mono {year later : Int} (lower : -4799 ≤ year) (order : year ≤ later) : Y2j year ≤ Y2j later := by
  rcases Int.lt_or_eq_of_le order with before | same
  · exact le_of_lt (Y2j_lt lower before)
  · rw [same]

theorem lt_of_Y2j_lt {year later : Int} (known : -4799 ≤ later) (order : Y2j year < Y2j later) : year < later := by
  by_contra late
  have back := Y2j_mono known (not_lt.mp late)
  omega

theorem Y2j_parts {century yr : Int} (oneLe : 1 ≤ century) (zeroLe : 0 ≤ yr) (le : yr ≤ 99) :
    Y2j (100 * (century - 49) + yr + 1) = (146097 * century + 3) / 4 + 1461 * yr / 4 - 68263 := by
  have hundreds : (100 * (century - 49) + yr + 1 + 4899) / 100 = century := by omega
  have years : 1461 * (100 * (century - 49) + yr + 1 + 4799) / 4 =
      36525 * (century - 1) + 1461 * yr / 4 := by omega
  have centuries : (146097 * century + 3) / 4 = 36525 * century - 3 * century / 4 := by omega
  rw [Y2j_eq (by omega), hundreds, years, centuries]
  omega

theorem j2Y_bounds {julDate : Int} (lower : 0 ≤ julDate) :
    -4799 ≤ j2Y julDate ∧ Y2j (j2Y julDate) ≤ julDate ∧ julDate < Y2j (j2Y julDate + 1) := by
  obtain ⟨century, yr, mo, day, parts, valid, rfl⟩ := exists_parts_number (le_trans (by decide) lower)
  obtain ⟨oneLeDay, regular, february⟩ := (partsDate_valid_iff parts day).mp valid
  rw [j2Y_eq_year, j2YMD_partsNumber parts valid]
  obtain ⟨oneLeCentury, zeroLeYr, yrLe, oneLeMo, moLe⟩ := parts
  have january := Y2j_parts oneLeCentury zeroLeYr yrLe
  have months : 2447 * mo / 80 + day ≤ if mo ≤ 10 then 336 else 396 := by
    split <;> omega
  unfold partsNumber at lower
  simp only [partsDate, partsNumber]
  have known : -4799 ≤ 100 * (century - 49) + yr := by
    split at months <;> omega
  by_cases early : mo ≤ 10
  · have sameYear : 100 * (century - 49) + yr + mo / 11 = 100 * (century - 49) + yr := by omega
    rw [if_pos early] at months
    rw [sameYear, january]
    refine ⟨by omega, ?_, by omega⟩
    rw [Y2j_eq (by omega)]
    omega
  · have nextYear : 100 * (century - 49) + yr + mo / 11 = 100 * (century - 49) + yr + 1 := by omega
    rw [if_neg early] at months
    rw [nextYear]
    refine ⟨by omega, by omega, ?_⟩
    have next : _ ≤ Y2j (100 * (century - 49) + yr + 1 + 1) := Y2j_succ (by omega)
    omega

theorem j2Y_eq_iff {julDate : Int} (lower : 0 ≤ julDate) {year : Int} (yearLower : -4799 ≤ year) :
    j2Y julDate = year ↔ Y2j year ≤ julDate ∧ julDate < Y2j (year + 1) := by
  obtain ⟨known, after, before⟩ := j2Y_bounds lower
  constructor
  · rintro rfl
    exact ⟨after, before⟩
  · rintro ⟨yearAfter, yearBefore⟩
    rcases Int.lt_trichotomy (j2Y julDate) year with early | same | late
    · have crossed := Y2j_lt (by omega) (by omega)
      rcases Int.lt_or_eq_of_le (show j2Y julDate + 1 ≤ year by omega) with less | equal
      · have order := Y2j_lt (by omega) less
        omega
      · rw [equal] at before
        omega
    · exact same
    · rcases Int.lt_or_eq_of_le (show year + 1 ≤ j2Y julDate by omega) with less | equal
      · have order := Y2j_lt (by omega) less
        omega
      · rw [equal] at yearBefore
        omega

theorem YMD2j_bounds {date : Date} (valid : date.Valid) (year : -4700 ≤ date.year) :
    Y2j date.year ≤ YMD2j date ∧ YMD2j date < Y2j (date.year + 1) := by
  have counted : 0 ≤ YMD2j date := by
    obtain ⟨century, yr, mo, parts, same⟩ := exists_parts_date valid (by omega)
    have oneLeDay := valid.oneLeDay
    have yearEq : date.year = 100 * (century - 49) + yr + mo / 11 := by rw [same, partsDate]
    rw [same, YMD2j_partsDate parts, partsNumber]
    obtain ⟨oneLeCentury, zeroLeYr, yrLe, oneLeMo, moLe⟩ := parts
    omega
  have bounds := (j2Y_bounds counted).2
  rwa [j2Y_eq_year, j2YMD_YMD2j valid (by omega)] at bounds

end Julian

end ServiceHost
