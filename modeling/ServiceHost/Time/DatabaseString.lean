import ServiceHost.Time.LocalTime

/-!
Database strings: a rendered time reads back as that time, and a string of
digits that says a date and a time of day renders back as that string. The ends
of the axis and the year 9999 have meanings of their own.
-/

namespace ServiceHost

open Library

namespace RegionalCalendar

def render (units : CalendarUnits) : CodeUnits :=
  let Y := units.date.year
  let M := units.date.month
  let D := units.date.day
  let ms := units.fraction
  [digit (((Y.tdiv 10).tdiv 10).tdiv 10), digit (((Y.tdiv 10).tdiv 10).tmod 10),
    digit ((Y.tdiv 10).tmod 10), digit (Y.tmod 10),
    digit (M.tdiv 10), digit (M.tmod 10), digit (D.tdiv 10), digit (D.tmod 10),
    digit (units.hour.tdiv 10), digit (units.hour.tmod 10),
    digit (units.minute.tdiv 10), digit (units.minute.tmod 10),
    digit (units.second.tdiv 10), digit (units.second.tmod 10),
    char (48 + (ms.tdiv 10).tdiv 10), digit ((ms.tdiv 10).tmod 10), digit (ms.tmod 10)]

theorem toDatabaseString_eq {calendar : RegionalCalendar} {x : UtcTime} (ordinary : x.Ordinary)
    {units : CalendarUnits} (shown : calendar.asYMDhms_ms x = .ok units) :
    calendar.toDatabaseString x = .ok (render units) := by
  simp only [toDatabaseString, ordinary.notNull, ordinary.notMin, ordinary.notMax, if_false, shown, ok_bind,
    render]
  rfl

theorem char_toNat (value : Int) : ((char value).toNat : Int) = value % 65536 := by
  have small : (value % 2 ^ 16).toNat < 2 ^ 16 := by omega
  have wrapped := UInt16.toNat_ofNat_of_lt' small
  rw [char, UInt16.ofInt, wrapped]
  omega

theorem digit_toNat {value : Int} (lower : -48 ≤ value) (upper : value < 65000) :
    ((digit value).toNat : Int) = 48 + value := by
  rw [digit, char_toNat, char_toNat]
  omega

theorem tdiv_tmod_ten (value : Int) :
    10 * value.tdiv 10 + value.tmod 10 = value ∧ -9 ≤ value.tmod 10 ∧ value.tmod 10 ≤ 9 := by
  have sum := Int.mul_tdiv_add_tmod value 10
  have remainder := tmod_cases value 10
  omega

theorem four_digits {value : Int} (lower : -40000 ≤ value) (upper : value < 60000) :
    1000 * ((digit (((value.tdiv 10).tdiv 10).tdiv 10)).toNat : Int) +
      100 * (digit (((value.tdiv 10).tdiv 10).tmod 10)).toNat + 10 * (digit ((value.tdiv 10).tmod 10)).toNat +
      (digit (value.tmod 10)).toNat - 48 * 1111 = value := by
  have first := tdiv_tmod_ten value
  have second := tdiv_tmod_ten (value.tdiv 10)
  have third := tdiv_tmod_ten ((value.tdiv 10).tdiv 10)
  rw [digit_toNat, digit_toNat, digit_toNat, digit_toNat] <;> omega

theorem two_digits {value : Int} (lower : -99 ≤ value) (upper : value ≤ 99) :
    10 * ((digit (value.tdiv 10)).toNat : Int) + (digit (value.tmod 10)).toNat - 48 * 11 = value := by
  have parts := tdiv_tmod_ten value
  rw [digit_toNat, digit_toNat] <;> omega

theorem three_digits {value : Int} (lower : -999 ≤ value) (upper : value ≤ 999) :
    100 * ((char (48 + (value.tdiv 10).tdiv 10)).toNat : Int) + 10 * (digit ((value.tdiv 10).tmod 10)).toNat +
      (digit (value.tmod 10)).toNat - 48 * 111 = value := by
  have first := tdiv_tmod_ten value
  have second := tdiv_tmod_ten (value.tdiv 10)
  rw [char_toNat, digit_toNat, digit_toNat] <;> omega

structure Renderable (units : CalendarUnits) : Prop where
  year : -40000 ≤ units.date.year ∧ units.date.year < 60000
  month : 1 ≤ units.date.month ∧ units.date.month ≤ 12
  day : 1 ≤ units.date.day ∧ units.date.day ≤ 31
  hour : -23 ≤ units.hour ∧ units.hour ≤ 23
  minute : -59 ≤ units.minute ∧ units.minute ≤ 59
  second : -59 ≤ units.second ∧ units.second ≤ 59
  fraction : -999 ≤ units.fraction ∧ units.fraction ≤ 999

def midnight (units : CalendarUnits) : Int := (Julian.YMD2j units.date - Julian.referenceDay) * Utc.day

theorem midnight_tickCount (units : CalendarUnits) :
    unitsClock units = midnight units + Utc.hour * units.hour + Utc.minute * units.minute +
      Utc.second * units.second + Utc.milliSecond * units.fraction := by
  simp only [unitsClock, midnight, Int.mul_comm]

theorem ordinary_within {days : Int} (notReference : days * Utc.day ≠ 0) {sum : Int}
    (lower : days * Utc.day - Utc.day < sum) (within : sum < days * Utc.day + Utc.day)
    (above : -2 ^ 62 ≤ days * Utc.day) (below : days * Utc.day < 2 ^ 63 - Utc.year) :
    (UtcTime.ofTicks sum).ticks = sum ∧ (UtcTime.ofTicks sum).Ordinary := by
  have day : Utc.day = 864000000000 := rfl
  have year : Utc.year = 315360000000000 := rfl
  rw [day] at notReference lower within above below
  rw [year] at below
  have ticks : (UtcTime.ofTicks sum).ticks = sum := UtcTime.ofTicks_ticks (by omega) (by omega)
  refine ⟨ticks, UtcTime.ordinary_iff.mpr ?_⟩
  simp only [ticks, Utc.minValue, Utc.maxValue]
  omega

theorem readClock_render {units : CalendarUnits} (renderable : Renderable units)
    (lower : -2 ^ 62 ≤ midnight units) (upper : midnight units < 2 ^ 63 - Utc.year)
    (notReference : midnight units ≠ 0) :
    readClock (render units) = .ok (.ofTicks (unitsClock units)) ∧
      (UtcTime.ofTicks (unitsClock units)).Ordinary ∧
      (UtcTime.ofTicks (unitsClock units)).ticks = unitsClock units := by
  obtain ⟨year, month, day, hours, minutes, seconds, fraction⟩ := renderable
  have dayTicks : Utc.day = 864000000000 := rfl
  have hourPart : Utc.hour * units.hour = 36000000000 * units.hour := rfl
  have minutePart : Utc.minute * units.minute = 600000000 * units.minute := rfl
  have secondPart : Utc.second * units.second = 10000000 * units.second := rfl
  have milliPart : Utc.milliSecond * units.fraction = 10000 * units.fraction := rfl
  have partials : ∀ sum, midnight units - Utc.day < sum → sum < midnight units + Utc.day →
      (UtcTime.ofTicks sum).ticks = sum ∧ (UtcTime.ofTicks sum).Ordinary :=
    fun sum above within => ordinary_within notReference above within lower upper
  have started : Julian.j2ticks (Julian.YMD2j units.date) = midnight units := by
    have year : Utc.year = 315360000000000 := rfl
    rw [year] at upper
    exact long_eq (by unfold midnight at lower; omega) (by unfold midnight at upper; omega)
  have atDay := partials (midnight units) (by omega) (by omega)
  have atHour := partials (midnight units + Utc.hour * units.hour) (by omega) (by omega)
  have atMinute := partials (midnight units + Utc.hour * units.hour + Utc.minute * units.minute)
    (by omega) (by omega)
  have atSecond := partials (midnight units + Utc.hour * units.hour + Utc.minute * units.minute +
    Utc.second * units.second) (by omega) (by omega)
  have complete := partials (unitsClock units)
    (by rw [midnight_tickCount]; omega) (by rw [midnight_tickCount]; omega)
  refine ⟨?_, complete.2, complete.1⟩
  -- What the parser computes from the code units, place by place.
  have yearRead : 1000 * (((render units)[0]?.getD 0).toNat : Int) +
      100 * ((render units)[1]?.getD 0).toNat + 10 * ((render units)[2]?.getD 0).toNat +
      ((render units)[3]?.getD 0).toNat - 48 * 1111 = units.date.year := four_digits (by omega) (by omega)
  have monthRead : 10 * (((render units)[4]?.getD 0).toNat : Int) + ((render units)[5]?.getD 0).toNat -
      48 * 11 = units.date.month := two_digits (by omega) (by omega)
  have dayRead : 10 * (((render units)[6]?.getD 0).toNat : Int) + ((render units)[7]?.getD 0).toNat -
      48 * 11 = units.date.day := two_digits (by omega) (by omega)
  have hourRead : 10 * (((render units)[8]?.getD 0).toNat : Int) + ((render units)[9]?.getD 0).toNat -
      48 * 11 = units.hour := two_digits (by omega) (by omega)
  have minuteRead : 10 * (((render units)[10]?.getD 0).toNat : Int) + ((render units)[11]?.getD 0).toNat -
      48 * 11 = units.minute := two_digits (by omega) (by omega)
  have secondRead : 10 * (((render units)[12]?.getD 0).toNat : Int) + ((render units)[13]?.getD 0).toNat -
      48 * 11 = units.second := two_digits (by omega) (by omega)
  have fractionRead : 100 * (((render units)[14]?.getD 0).toNat : Int) +
      10 * ((render units)[15]?.getD 0).toNat + ((render units)[16]?.getD 0).toNat - 48 * 111 =
      units.fraction := three_digits fraction.1 fraction.2
  have date : (⟨units.date.year, units.date.month, units.date.day⟩ : Date) = units.date := rfl
  have length : (render units).length = 17 := rfl
  simp only [readClock, length, yearRead, monthRead, dayRead, hourRead, minuteRead, secondRead, fractionRead,
    date, started, Nat.reduceAdd, Nat.reduceLT, gt_iff_lt, if_true]
  rw [atDay.2.add_eq, ok_bind, atDay.1, atHour.2.add_eq, ok_bind, atHour.1, atMinute.2.add_eq, ok_bind,
    atMinute.1, atSecond.2.add_eq, atSecond.1, midnight_tickCount]

theorem offsetAt_standard {calendar : RegionalCalendar} (standard : calendar.dst = false) (t : Int) :
    calendar.offsetAt t = calendar.utcOffset := by
  simp [offsetAt, standard]

theorem ofDatabaseString_render {calendar : RegionalCalendar} (standard : calendar.dst = false)
    {units : CalendarUnits} (renderable : Renderable units)
    (lower : -2 ^ 62 ≤ midnight units) (upper : midnight units < 2 ^ 63 - Utc.year)
    (notReference : midnight units ≠ 0) (notZero : units.date.year ≠ 0) (notLast : units.date.year ≠ 9999)
    (inside : -2 ^ 63 ≤ unitsClock units - calendar.utcOffset ∧
      unitsClock units - calendar.utcOffset < 2 ^ 63)
    (ordinary : (UtcTime.ofTicks (unitsClock units - calendar.utcOffset)).Ordinary) :
    calendar.ofDatabaseString (some (render units)) =
      .ok (.ofTicks (unitsClock units - calendar.utcOffset)) := by
  obtain ⟨read, clockOrdinary, clockTicks⟩ := readClock_render renderable lower upper notReference
  have yearRead : 1000 * (((render units)[0]?.getD 0).toNat : Int) +
      100 * ((render units)[1]?.getD 0).toNat + 10 * ((render units)[2]?.getD 0).toNat +
      ((render units)[3]?.getD 0).toNat - 48 * 1111 = units.date.year :=
    four_digits renderable.year.1 renderable.year.2
  have ticksNull := UtcTime.ne_null_iff.mp clockOrdinary.notNull
  have adjusted := adjustToTz_eq clockOrdinary
    (by rw [clockTicks, offsetAt_standard standard]; exact inside.1)
    (by rw [clockTicks, offsetAt_standard standard]; exact inside.2)
    (by rw [clockTicks, offsetAt_standard standard]; exact ordinary)
  rw [clockTicks, readBack, offsetAt_standard standard] at adjusted
  simp only [ofDatabaseString, yearRead, notLast, notZero, and_false, if_false, read, ok_bind, Utc.null,
    ne_eq, ticksNull, not_false_eq_true, if_true, adjusted]

structure Writable (calendar : RegionalCalendar) (t : UtcTime) : Prop where
  ordinary : t.Ordinary
  range : InRange (t.ticks + calendar.utcOffset)
  whole : (t.ticks + calendar.utcOffset) % 10000 = 0
  notZero : (clockUnits (t.ticks + calendar.utcOffset)).date.year ≠ 0
  notLast : (clockUnits (t.ticks + calendar.utcOffset)).date.year ≠ 9999
  notReference : (clockUnits (t.ticks + calendar.utcOffset)).date ≠ ⟨1, 1, 1⟩

theorem clockUnits_renderable {clock : Int} (range : InRange clock) (whole : clock % 10000 = 0) :
    Renderable (clockUnits clock) := by
  obtain ⟨julDate, julLower, date, hours, minutes, seconds, fraction, sum⟩ := clockUnits_spec range whole
  obtain ⟨oneLeMonth, monthLe, oneLeDay, dayLe⟩ := Julian.j2YMD_valid julLower
  have upper := range.upper
  have day : Utc.day = 864000000000 := rfl
  have hour : Utc.hour = 36000000000 := rfl
  have minute : Utc.minute = 600000000 := rfl
  have second : Utc.second = 10000000 := rfl
  have milliSecond : Utc.milliSecond = 10000 := rfl
  rw [day, hour, minute, second, milliSecond] at sum
  have year := Julian.j2YMD_year julLower (by omega)
  have days := daysInMonth_le (Julian.j2YMD julDate).year (Julian.j2YMD julDate).month
  rw [← date] at oneLeMonth monthLe oneLeDay dayLe year days
  exact ⟨⟨by omega, by omega⟩, ⟨oneLeMonth, monthLe⟩, ⟨oneLeDay, le_trans dayLe days⟩,
    hours, minutes, seconds, fraction⟩

theorem midnight_clockUnits {clock : Int} (range : InRange clock) (whole : clock % 10000 = 0) :
    -2 ^ 62 ≤ midnight (clockUnits clock) ∧ midnight (clockUnits clock) < 2 ^ 63 - Utc.year ∧
      (midnight (clockUnits clock) = 0 → (clockUnits clock).date = ⟨1, 1, 1⟩) := by
  obtain ⟨julDate, julLower, date, hours, minutes, seconds, fraction, sum⟩ := clockUnits_spec range whole
  have upper := range.upper
  have firstDay : Julian.firstDay = -32044 := rfl
  have reference : Julian.referenceTicks = 1487312064000000000 := rfl
  have referenceDay : Julian.referenceDay = 1721426 := rfl
  have year : Utc.year = 315360000000000 := rfl
  have day : Utc.day = 864000000000 := rfl
  have hour : Utc.hour = 36000000000 := rfl
  have minute : Utc.minute = 600000000 := rfl
  have second : Utc.second = 10000000 := rfl
  have milliSecond : Utc.milliSecond = 10000 := rfl
  rw [day, hour, minute, second, milliSecond] at sum
  unfold midnight
  rw [date, Julian.YMD2j_j2YMD julLower, referenceDay, year, day]
  rw [firstDay] at julLower
  refine ⟨by omega, by omega, fun zero => ?_⟩
  obtain rfl : julDate = 1721426 := by omega
  decide

theorem databaseString_of_writable {calendar : RegionalCalendar} (standard : calendar.dst = false)
    {t : UtcTime} (writable : calendar.Writable t) :
    ∃ text, calendar.toDatabaseString t = .ok text ∧ calendar.ofDatabaseString (some text) = .ok t := by
  obtain ⟨ordinary, range, whole, notZero, notLast, notReference⟩ := writable
  have offset := offsetAt_standard standard t.ticks
  have shown := asYMDhms_ms_eq ordinary (by rw [offset]; exact range)
  rw [offset] at shown
  obtain ⟨lower, upper, reference⟩ := midnight_clockUnits range whole
  have clock := unitsClock_clockUnits range whole
  have back : UtcTime.ofTicks (unitsClock (clockUnits (t.ticks + calendar.utcOffset)) - calendar.utcOffset) = t := by
    rw [clock, Int.add_sub_cancel, UtcTime.ofTicks_eq]
  refine ⟨_, toDatabaseString_eq ordinary shown, ?_⟩
  rw [ofDatabaseString_render standard (clockUnits_renderable range whole) lower upper
    (fun zero => notReference (reference zero)) notZero notLast, back]
  · rw [clock, Int.add_sub_cancel]
    exact ⟨t.lower, t.upper⟩
  · rw [back]
    exact ordinary

def said (text : CodeUnits) : CalendarUnits :=
  let at_ := fun i => ((text[i]?.getD 0).toNat : Int)
  let two := fun i => 10 * at_ i + at_ (i + 1) - 48 * 11
  { date := ⟨1000 * at_ 0 + 100 * at_ 1 + 10 * at_ 2 + at_ 3 - 48 * 1111, two 4, two 6⟩
    hour := two 8
    minute := two 10
    second := two 12
    fraction := 100 * at_ 14 + 10 * at_ 15 + at_ 16 - 48 * 111 }

def IsDigit (c : UInt16) : Prop := 48 ≤ c.toNat ∧ c.toNat ≤ 57

structure SaysTime (text : CodeUnits) : Prop where
  length : text.length = 17
  digits : ∀ c ∈ text, IsDigit c
  date : (said text).date.Valid
  year : 2 ≤ (said text).date.year ∧ (said text).date.year ≤ 9998
  hour : (said text).hour ≤ 23
  minute : (said text).minute ≤ 59
  second : (said text).second ≤ 59

theorem eq_places {text : CodeUnits} (length : text.length = 17) :
    text = (List.range 17).map fun i => text[i]?.getD 0 := by
  apply List.ext_getElem
  · simp [length]
  · intro i inText inRange
    simp [inText]

theorem digit_eq {value : Int} {c : UInt16} (lower : -48 ≤ value) (upper : value < 65000)
    (same : 48 + value = c.toNat) : digit value = c := by
  apply UInt16.toNat_inj.mp
  have shown := digit_toNat lower upper
  omega

theorem char_eq {value : Int} {c : UInt16} (same : value = c.toNat) : char value = c := by
  apply UInt16.toNat_inj.mp
  have shown := char_toNat value
  have small := c.toNat_lt
  omega

theorem SaysTime.place {text : CodeUnits} (told : SaysTime text) {i : Nat} (inside : i < 17) :
    IsDigit (text[i]?.getD 0) := by
  have bound : i < text.length := by rw [told.length]; exact inside
  rw [List.getElem?_eq_getElem bound, Option.getD_some]
  exact told.digits _ (List.getElem_mem bound)

theorem SaysTime.nonneg {text : CodeUnits} (told : SaysTime text) :
    0 ≤ (said text).hour ∧ 0 ≤ (said text).minute ∧ 0 ≤ (said text).second ∧
      0 ≤ (said text).fraction ∧ (said text).fraction ≤ 999 := by
  have p8 := told.place (i := 8) (by omega)
  have p9 := told.place (i := 9) (by omega)
  have p10 := told.place (i := 10) (by omega)
  have p11 := told.place (i := 11) (by omega)
  have p12 := told.place (i := 12) (by omega)
  have p13 := told.place (i := 13) (by omega)
  have p14 := told.place (i := 14) (by omega)
  have p15 := told.place (i := 15) (by omega)
  have p16 := told.place (i := 16) (by omega)
  unfold IsDigit at *
  simp only [said, Nat.reduceAdd]
  omega

theorem two_places {a b : UInt16} (first : IsDigit a) (second : IsDigit b) :
    digit ((10 * (a.toNat : Int) + b.toNat - 48 * 11).tdiv 10) = a ∧
      digit ((10 * (a.toNat : Int) + b.toNat - 48 * 11).tmod 10) = b := by
  unfold IsDigit at first second
  have nonneg : 0 ≤ 10 * (a.toNat : Int) + b.toNat - 48 * 11 := by omega
  rw [Int.tdiv_eq_ediv_of_nonneg nonneg, Int.tmod_eq_emod_of_nonneg nonneg]
  exact ⟨digit_eq (by omega) (by omega) (by omega), digit_eq (by omega) (by omega) (by omega)⟩

theorem four_places {a b c d : UInt16} (first : IsDigit a) (second : IsDigit b) (third : IsDigit c)
    (fourth : IsDigit d) {value : Int}
    (sum : value = 1000 * (a.toNat : Int) + 100 * b.toNat + 10 * c.toNat + d.toNat - 48 * 1111) :
    digit (((value.tdiv 10).tdiv 10).tdiv 10) = a ∧ digit (((value.tdiv 10).tdiv 10).tmod 10) = b ∧
      digit ((value.tdiv 10).tmod 10) = c ∧ digit (value.tmod 10) = d := by
  unfold IsDigit at first second third fourth
  have nonneg : 0 ≤ value := by omega
  rw [Int.tdiv_eq_ediv_of_nonneg nonneg, Int.tdiv_eq_ediv_of_nonneg (by omega : 0 ≤ value / 10),
    Int.tdiv_eq_ediv_of_nonneg (by omega : 0 ≤ value / 10 / 10),
    Int.tmod_eq_emod_of_nonneg (by omega : 0 ≤ value / 10 / 10),
    Int.tmod_eq_emod_of_nonneg (by omega : 0 ≤ value / 10), Int.tmod_eq_emod_of_nonneg nonneg]
  exact ⟨digit_eq (by omega) (by omega) (by omega), digit_eq (by omega) (by omega) (by omega),
    digit_eq (by omega) (by omega) (by omega), digit_eq (by omega) (by omega) (by omega)⟩

theorem three_places {a b c : UInt16} (first : IsDigit a) (second : IsDigit b) (third : IsDigit c)
    {value : Int} (sum : value = 100 * (a.toNat : Int) + 10 * b.toNat + c.toNat - 48 * 111) :
    char (48 + (value.tdiv 10).tdiv 10) = a ∧ digit ((value.tdiv 10).tmod 10) = b ∧
      digit (value.tmod 10) = c := by
  unfold IsDigit at first second third
  have nonneg : 0 ≤ value := by omega
  rw [Int.tdiv_eq_ediv_of_nonneg nonneg, Int.tdiv_eq_ediv_of_nonneg (by omega : 0 ≤ value / 10),
    Int.tmod_eq_emod_of_nonneg (by omega : 0 ≤ value / 10), Int.tmod_eq_emod_of_nonneg nonneg]
  exact ⟨char_eq (by omega), digit_eq (by omega) (by omega) (by omega),
    digit_eq (by omega) (by omega) (by omega)⟩

theorem SaysTime.render_said {text : CodeUnits} (told : SaysTime text) : render (said text) = text := by
  obtain ⟨y0, y1, y2, y3⟩ := four_places (told.place (i := 0) (by omega)) (told.place (i := 1) (by omega))
    (told.place (i := 2) (by omega)) (told.place (i := 3) (by omega)) rfl
  obtain ⟨m0, m1⟩ := two_places (told.place (i := 4) (by omega)) (told.place (i := 5) (by omega))
  obtain ⟨d0, d1⟩ := two_places (told.place (i := 6) (by omega)) (told.place (i := 7) (by omega))
  obtain ⟨h0, h1⟩ := two_places (told.place (i := 8) (by omega)) (told.place (i := 9) (by omega))
  obtain ⟨mi0, mi1⟩ := two_places (told.place (i := 10) (by omega)) (told.place (i := 11) (by omega))
  obtain ⟨s0, s1⟩ := two_places (told.place (i := 12) (by omega)) (told.place (i := 13) (by omega))
  obtain ⟨f0, f1, f2⟩ := three_places (told.place (i := 14) (by omega)) (told.place (i := 15) (by omega))
    (told.place (i := 16) (by omega)) rfl
  conv_rhs => rw [eq_places told.length]
  simp only [render, said, Nat.reduceAdd, y0, y1, y2, y3, m0, m1, d0, d1, h0, h1, mi0, mi1, s0, s1, f0, f1, f2]
  rfl

theorem SaysTime.renderable {text : CodeUnits} (told : SaysTime text) : Renderable (said text) := by
  obtain ⟨hours, minutes, seconds, fraction, fractionLe⟩ := told.nonneg
  obtain ⟨oneLeMonth, monthLe, oneLeDay, dayLe⟩ := told.date
  have year := told.year
  have days : daysInMonth (said text).date.year (said text).date.month ≤ 31 := daysInMonth_le _ _
  exact ⟨⟨by omega, by omega⟩, ⟨oneLeMonth, monthLe⟩, ⟨oneLeDay, le_trans dayLe days⟩,
    ⟨by omega, told.hour⟩, ⟨by omega, told.minute⟩, ⟨by omega, told.second⟩, ⟨by omega, fractionLe⟩⟩

theorem SaysTime.clockUnits_said {text : CodeUnits} (told : SaysTime text) :
    clockUnits (unitsClock (said text)) = said text := by
  obtain ⟨hours, minutes, seconds, fraction, fractionLe⟩ := told.nonneg
  have hourLe := told.hour
  have minuteLe := told.minute
  have secondLe := told.second
  have year := told.year
  have valid := told.date
  have known := (Julian.YMD2j_bounds valid (by omega)).1
  rw [Julian.Y2j_eq (by omega)] at known
  generalize said text = units at *
  obtain ⟨tj, tjEq⟩ : ∃ tj, tj = unitsClock units + Julian.referenceTicks := ⟨_, rfl⟩
  have reference : Julian.referenceTicks = Julian.referenceDay * Utc.day := rfl
  have day : Utc.day = 864000000000 := rfl
  have hour : Utc.hour = 36000000000 := rfl
  have minute : Utc.minute = 600000000 := rfl
  have second : Utc.second = 10000000 := rfl
  have milliSecond : Utc.milliSecond = 10000 := rfl
  have sum : tj = Julian.YMD2j units.date * 864000000000 + units.hour * 36000000000 +
      units.minute * 600000000 + units.second * 10000000 + units.fraction * 10000 := by
    rw [tjEq, unitsClock, reference, Int.sub_mul, day, hour, minute, second, milliSecond]
    omega
  have lower : 0 ≤ tj := by omega
  have date : tj / 864000000000 = Julian.YMD2j units.date := by omega
  simp only [clockUnits, ← tjEq, day, hour, minute, second, milliSecond,
    Int.tmod_eq_emod_of_nonneg lower, Int.tdiv_eq_ediv_of_nonneg lower, date]
  rw [Int.tmod_eq_emod_of_nonneg (by omega : 0 ≤ tj % 864000000000),
    Int.tdiv_eq_ediv_of_nonneg (by omega : 0 ≤ tj % 864000000000),
    Int.tmod_eq_emod_of_nonneg (by omega : 0 ≤ tj % 864000000000 % 36000000000),
    Int.tdiv_eq_ediv_of_nonneg (by omega : 0 ≤ tj % 864000000000 % 36000000000),
    Int.tmod_eq_emod_of_nonneg (by omega : 0 ≤ tj % 864000000000 % 36000000000 % 600000000),
    Int.tdiv_eq_ediv_of_nonneg (by omega : 0 ≤ tj % 864000000000 % 36000000000 % 600000000),
    Int.tdiv_eq_ediv_of_nonneg (by omega : 0 ≤ tj % 864000000000 % 36000000000 % 600000000 % 10000000)]
  apply CalendarUnits.ext
  · exact Julian.j2YMD_YMD2j valid (by omega)
  all_goals dsimp only; omega

theorem databaseString_of_says {calendar : RegionalCalendar} (standard : calendar.dst = false)
    {text : CodeUnits} (told : SaysTime text)
    (afterFirst : Julian.j2ticks (Julian.YMD2j ⟨2, 1, 1⟩) ≤ unitsClock (said text) - calendar.utcOffset)
    (beforeLast : unitsClock (said text) - calendar.utcOffset < Julian.j2ticks (Julian.YMD2j ⟨9999, 1, 1⟩)) :
    ∃ t, calendar.ofDatabaseString (some text) = .ok t ∧ calendar.toDatabaseString t = .ok text := by
  have start2 : Julian.j2ticks (Julian.YMD2j ⟨2, 1, 1⟩) = 315360000000000 := by decide
  have start9999 : Julian.j2ticks (Julian.YMD2j ⟨9999, 1, 1⟩) = 3155063616000000000 := by decide
  rw [start2] at afterFirst
  rw [start9999] at beforeLast
  have before : (Julian.firstDay - 1) * Utc.day = -27686880000000000 := rfl
  have renderable := told.renderable
  have year := told.year
  have bounds := Julian.YMD2j_bounds told.date (by omega)
  rw [Julian.Y2j_eq (by omega), Julian.Y2j_eq (by omega)] at bounds
  have referenceDay : Julian.referenceDay = 1721426 := rfl
  have reference : Julian.referenceTicks = 1487312064000000000 := rfl
  have yearTicks : Utc.year = 315360000000000 := rfl
  have day : Utc.day = 864000000000 := rfl
  have maxValue : Utc.maxValue = 9223372036854775807 := rfl
  have minValue : Utc.minValue = -9223372036854775807 := rfl
  have started : 315360000000000 ≤ midnight (said text) ∧ midnight (said text) < 3155063616000000000 := by
    rw [midnight, referenceDay, day]
    omega
  have clockBounds : midnight (said text) ≤ unitsClock (said text) ∧
      unitsClock (said text) < midnight (said text) + 864000000000 := by
    obtain ⟨hours, minutes, seconds, fraction, fractionLe⟩ := told.nonneg
    have hourLe := told.hour
    have minuteLe := told.minute
    have secondLe := told.second
    have hour : Utc.hour = 36000000000 := rfl
    have minute : Utc.minute = 600000000 := rfl
    have second : Utc.second = 10000000 := rfl
    have milliSecond : Utc.milliSecond = 10000 := rfl
    rw [midnight_tickCount, hour, minute, second, milliSecond]
    omega
  have ticks : (UtcTime.ofTicks (unitsClock (said text) - calendar.utcOffset)).ticks =
      unitsClock (said text) - calendar.utcOffset := UtcTime.ofTicks_ticks (by omega) (by omega)
  have ordinary : (UtcTime.ofTicks (unitsClock (said text) - calendar.utcOffset)).Ordinary :=
    UtcTime.ordinary_iff.mpr ⟨by omega, by omega, by omega⟩
  have read := ofDatabaseString_render standard renderable (by omega) (by omega) (by omega) (by omega)
    (by omega) ⟨by omega, by omega⟩ ordinary
  rw [told.render_said] at read
  refine ⟨_, read, ?_⟩
  have clock : (UtcTime.ofTicks (unitsClock (said text) - calendar.utcOffset)).ticks +
      calendar.offsetAt (UtcTime.ofTicks (unitsClock (said text) - calendar.utcOffset)).ticks =
      unitsClock (said text) := by
    rw [offsetAt_standard standard, ticks, Int.sub_add_cancel]
  have shown := asYMDhms_ms_eq ordinary
    (by rw [clock]; exact ⟨by omega, by omega⟩)
  rw [clock, told.clockUnits_said] at shown
  rw [toDatabaseString_eq ordinary shown, told.render_said]

/-- Database strings round-trip on a calendar without daylight saving. -/
theorem databaseString_roundTrip {calendar : RegionalCalendar} (standard : calendar.dst = false) :
    (∀ t, t = UtcTime.null ∨ t = UtcTime.maxValue ∨ calendar.Writable t →
      ∃ text, calendar.toDatabaseString t = .ok text ∧ calendar.ofDatabaseString (some text) = .ok t) ∧
    (∀ text, SaysTime text →
      Julian.j2ticks (Julian.YMD2j ⟨2, 1, 1⟩) ≤ unitsClock (said text) - calendar.utcOffset →
      unitsClock (said text) - calendar.utcOffset < Julian.j2ticks (Julian.YMD2j ⟨9999, 1, 1⟩) →
      ∃ t, calendar.ofDatabaseString (some text) = .ok t ∧ calendar.toDatabaseString t = .ok text) := by
  refine ⟨fun t cases => ?_, fun text told afterFirst beforeLast =>
    databaseString_of_says standard told afterFirst beforeLast⟩
  rcases cases with rfl | rfl | writable
  · exact ⟨[], rfl, rfl⟩
  · exact ⟨codeUnits "99991231235959000", rfl, rfl⟩
  · exact databaseString_of_writable standard writable

def standardTime (utcOffset : Int) : RegionalCalendar := { utcCalendar with utcOffset }

theorem databaseString_roundTrip_standardTime :
    (∀ t, t = UtcTime.null ∨ t = UtcTime.maxValue ∨ (standardTime Utc.hour).Writable t →
      ∃ text, (standardTime Utc.hour).toDatabaseString t = .ok text ∧
        (standardTime Utc.hour).ofDatabaseString (some text) = .ok t) ∧
    (∀ text, SaysTime text →
      Julian.j2ticks (Julian.YMD2j ⟨2, 1, 1⟩) ≤ unitsClock (said text) - (standardTime Utc.hour).utcOffset →
      unitsClock (said text) - (standardTime Utc.hour).utcOffset <
        Julian.j2ticks (Julian.YMD2j ⟨9999, 1, 1⟩) →
      ∃ t, (standardTime Utc.hour).ofDatabaseString (some text) = .ok t ∧
        (standardTime Utc.hour).toDatabaseString t = .ok text) :=
  databaseString_roundTrip rfl

/-- Why the special times are left out: the least value, a time in the first day,
one in the year 0, one in the year 9999, one before the first day, one whose local
time wraps, and one that an offset of five ticks rounds. -/
theorem databaseString_lost :
    (utcCalendar.toDatabaseString UtcTime.minValue = .ok (codeUnits "00010101000000000") ∧
      utcCalendar.ofDatabaseString (some (codeUnits "00010101000000000")) =
        .error (.argumentNull UtcTime.oneOfOperandsIsNull)) ∧
    (utcCalendar.toDatabaseString (.ofTicks 36000000000) = .ok (codeUnits "00010101010000000") ∧
      utcCalendar.ofDatabaseString (some (codeUnits "00010101010000000")) =
        .error (.argumentNull UtcTime.oneOfOperandsIsNull)) ∧
    (utcCalendar.toDatabaseString (.ofTicks (-864000000000)) = .ok (codeUnits "00001231000000000") ∧
      utcCalendar.ofDatabaseString (some (codeUnits "00001231000000000")) = .ok UtcTime.minValue) ∧
    (utcCalendar.toDatabaseString (.ofTicks 3155063616000000000) = .ok (codeUnits "99990101000000000") ∧
      utcCalendar.ofDatabaseString (some (codeUnits "99990101000000000")) = .ok UtcTime.maxValue) ∧
    (utcCalendar.toDatabaseString (.ofTicks (-1515824244000770000)) = .ok (codeUnits ",(0-07190+00000))") ∧
      utcCalendar.ofDatabaseString (some (codeUnits ",(0-07190+00000))")) =
        .ok (.ofTicks (-1515823380000770000))) ∧
    (utcCalendar.toDatabaseString (.ofTicks 9223372036854770000) =
        .ok (codeUnits "\x13..*0)/00.,(0+,)(") ∧
      utcCalendar.ofDatabaseString (some (codeUnits "\x13..*0)/00.,(0+,)(")) =
        .ok (.ofTicks 9223372036854771616)) ∧
    ((standardTime 5).toDatabaseString (.ofTicks 631083762000000000) = .ok (codeUnits "20001029003000000") ∧
      (standardTime 5).ofDatabaseString (some (codeUnits "20001029003000000")) =
        .ok (.ofTicks 631083761999999995)) ∧
    ((UtcTime.ofTicks 36000000000).Aligned ∧ (UtcTime.ofTicks (-864000000000)).Aligned ∧
      (UtcTime.ofTicks 3155063616000000000).Aligned ∧ (UtcTime.ofTicks (-1515824244000770000)).Aligned ∧
      (UtcTime.ofTicks 9223372036854770000).Aligned ∧ (UtcTime.ofTicks 631083762000000000).Aligned) :=
  ⟨⟨rfl, rfl⟩, ⟨rfl, rfl⟩, ⟨rfl, rfl⟩, ⟨rfl, rfl⟩, ⟨rfl, rfl⟩, ⟨rfl, rfl⟩, ⟨rfl, by decide⟩,
    by decide, by decide, by decide, by decide, by decide, by decide⟩

end RegionalCalendar

end ServiceHost
