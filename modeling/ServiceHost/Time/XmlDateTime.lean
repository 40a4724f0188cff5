import ServiceHost.Time.LocalDays
import ServiceHost.Time.XmlDateTimeCore

/-!
The text of XML formats read back. The text of a clock reading in the years 1 to 9999 reads
as that reading in universal time, so a time keeps its own text, and it keeps the text of a
calendar just where the calendar has no offset.
-/

namespace ServiceHost

open Library Text RegionalCalendar

theorem tdiv_near {divisor : Int} (positive : 0 < divisor) (value : Int) :
    value - divisor < divisor * value.tdiv divisor ∧ divisor * value.tdiv divisor < value + divisor := by
  have sum := Int.mul_tdiv_add_tmod value divisor
  have upper := Int.tmod_lt_of_pos value positive
  have lower := Int.lt_tmod_of_pos value positive
  omega

namespace Julian

theorem j2YMD_year_early {julDate : Int} (early : julDate < firstDay) : (j2YMD julDate).year < 0 := by
  have first : firstDay = -32044 := rfl
  rw [first] at early
  unfold j2YMD
  dsimp only
  -- every quotient is bounded on its own, so that the rest is linear
  have centuries := tdiv_near (show (0 : Int) < 146097 by decide) (4 * (julDate + 68569))
  generalize (4 * (julDate + 68569)).tdiv 146097 = century at centuries ⊢
  have days := tdiv_near (show (0 : Int) < 4 by decide) (146097 * century + 3)
  generalize (146097 * century + 3).tdiv 4 = passed at days ⊢
  have years := tdiv_near (show (0 : Int) < 1461001 by decide) (4000 * (julDate + 68569 - passed + 1))
  generalize (4000 * (julDate + 68569 - passed + 1)).tdiv 1461001 = year at years ⊢
  have yearDays := tdiv_near (show (0 : Int) < 4 by decide) (1461 * year)
  generalize (1461 * year).tdiv 4 = yearPassed at yearDays ⊢
  have months := tdiv_near (show (0 : Int) < 2447 by decide) (80 * (julDate + 68569 - passed - yearPassed + 31))
  generalize (80 * (julDate + 68569 - passed - yearPassed + 31)).tdiv 2447 = month at months ⊢
  have carried := tdiv_near (show (0 : Int) < 11 by decide) month
  generalize month.tdiv 11 = carry at carried ⊢
  omega

theorem year_within_iff (julDate : Int) :
    1 ≤ (j2YMD julDate).year ∧ (j2YMD julDate).year ≤ 9999 ↔ referenceDay ≤ julDate ∧ julDate < 5373485 := by
  have first : Y2j 1 = referenceDay := by decide
  have last : Y2j 10000 = 5373485 := by decide
  have reference : referenceDay = 1721426 := rfl
  constructor
  · rintro ⟨lower, upper⟩
    have late : firstDay ≤ julDate := by
      by_contra early
      have before := j2YMD_year_early (not_le.mp early)
      omega
    have bounds := YMD2j_bounds (j2YMD_valid late) (by omega)
    rw [YMD2j_j2YMD late] at bounds
    have fromFirst := Y2j_mono (show -4799 ≤ (1 : Int) by decide) lower
    have untilLast : _ ≤ Y2j 10000 := Y2j_mono (show -4799 ≤ (j2YMD julDate).year + 1 by omega) (by omega)
    omega
  · rintro ⟨lower, upper⟩
    obtain ⟨known, after, before⟩ := j2Y_bounds (show 0 ≤ julDate by omega)
    rw [j2Y_eq_year] at known after before
    have fromFirst := lt_of_Y2j_lt (show -4799 ≤ (j2YMD julDate).year + 1 by omega) (show Y2j 1 < _ by omega)
    have untilLast := lt_of_Y2j_lt (show -4799 ≤ (10000 : Int) by decide) (show Y2j (j2YMD julDate).year < _ by omega)
    omega

end Julian

namespace XmlUtil

section Reading

theorem parseDigits_zeroPadded {count : Nat} (positive : 0 < count) {value : Int} (lower : 0 ≤ value)
    (upper : value < 10 ^ count) (rest : CodeUnits) :
    parseDigits count (zeroPadded count value ++ rest) = some (value.toNat, rest) := by
  obtain ⟨number, rfl⟩ := Int.eq_ofNat_of_zero_le lower
  have small : number < 10 ^ count := by exact_mod_cast upper
  have length : (zeroPadded count number).length = count := length_zeroPadded positive small
  have digits : (zeroPadded count number ++ rest).take count = zeroPadded count number := by
    rw [List.take_append_of_le_length (by omega), List.take_of_length_le (by omega)]
  have behind : (zeroPadded count number ++ rest).drop count = rest := by
    rw [List.drop_append_of_le_length (by omega), List.drop_of_length_le (by omega), List.nil_append]
  have wide : count ≤ (zeroPadded count number ++ rest).length := by
    rw [List.length_append]
    omega
  rw [parseDigits, digits, behind, if_pos ⟨wide, isAsciiDigit_zeroPadded count number⟩, numeral_zeroPadded]
  rfl

theorem readItems_field {letter : UInt16} {count : Nat} (field : letter ∉ codeUnits "zZ") (positive : 0 < count)
    {value : Int} (lower : 0 ≤ value) (upper : value < 10 ^ count) (items : List FormatItem) (rest : CodeUnits)
    (result : DateTimeResult) :
    readItems (.specifier letter count :: items) (zeroPadded count value ++ rest) result =
      readItems items rest (setField letter count value.toNat result) := by
  have notOffset : [letter] ≠ codeUnits "z" := by
    intro same
    apply field
    rw [(List.cons.inj same).1]
    decide
  have notName : [letter] ≠ codeUnits "Z" := by
    intro same
    apply field
    rw [(List.cons.inj same).1]
    decide
  rw [readItems, readItem, if_neg notOffset, if_neg notName, parseDigits_zeroPadded positive lower upper]
  rfl

theorem readItems_literal (c : UInt16) (items : List FormatItem) (rest : CodeUnits) (result : DateTimeResult) :
    readItems (.literal c :: items) (c :: rest) result = readItems items rest result := by
  rw [readItems, readItem, List.head?_cons, if_pos rfl]
  rfl

theorem setField_fraction (value : Nat) (result : DateTimeResult) :
    setField (char 102) 7 value result = { result with fraction := value } := by
  have read : setField (char 102) 7 value result = { result with fraction := value * 1 } := rfl
  rw [read, Nat.mul_one]

theorem readItems_zone (result : DateTimeResult) :
    readItems [.specifier (char 122) 3] (codeUnits "+00:00") result = some { result with timeZoneOffset := 0 } := by
  have offset : parseTimeZoneOffset (codeUnits "+00:00") = some (0, []) := by decide
  rw [readItems, readItem, if_pos (by decide), offset]
  rfl

theorem formatItems_first : formatItems (codeUnits "yyyy-MM-ddTHH\\:mm\\:ss.fffffffzzz") = [
    .specifier (char 121) 4, .literal minus, .specifier (char 77) 2, .literal minus, .specifier (char 100) 2,
    .literal letterT, .specifier (char 72) 2, .literal colon, .specifier (char 109) 2, .literal colon,
    .specifier (char 115) 2, .literal point, .specifier (char 102) 7, .specifier (char 122) 3] := by
  decide

end Reading

section Clocks

def clockText (clock : Int) : CodeUnits :=
  let units := tickUnits clock
  xmlLayout (zeroPadded 4 units.date.year) (zeroPadded 2 units.date.month) (zeroPadded 2 units.date.day)
    (zeroPadded 2 units.hour) (zeroPadded 2 units.minute) (zeroPadded 2 units.second) (zeroPadded 7 units.fraction)

def clockResult (clock : Int) : DateTimeResult :=
  let units := tickUnits clock
  { year := units.date.year.toNat, month := units.date.month.toNat, day := units.date.day.toNat
    hour := units.hour.toNat, minute := units.minute.toNat, second := units.second.toNat
    fraction := units.fraction.toNat }

variable {clock : Int}

theorem dateOf_within (lower : 0 ≤ clock) (upper : clock ≤ DateTime.maxValue.ticks) :
    (dateOf clock).Valid ∧ 1 ≤ (dateOf clock).year ∧ (dateOf clock).year ≤ 9999 := by
  have max : DateTime.maxValue.ticks = 3155378975999999999 := rfl
  have day : Utc.day = 864000000000 := rfl
  have reference : Julian.referenceDay = 1721426 := rfl
  have first : Julian.firstDay = -32044 := rfl
  rw [max] at upper
  have within : Julian.referenceDay ≤ dayOf clock ∧ dayOf clock < 5373485 := by
    rw [dayOf, reference, day]
    omega
  exact ⟨Julian.j2YMD_valid (by omega), (Julian.year_within_iff _).mpr within⟩

theorem readItems_clockText (lower : 0 ≤ clock) (upper : clock ≤ DateTime.maxValue.ticks) :
    readItems (formatItems (codeUnits "yyyy-MM-ddTHH\\:mm\\:ss.fffffffzzz")) (clockText clock) {} =
      some (clockResult clock) := by
  obtain ⟨⟨oneLeMonth, monthLe, oneLeDay, dayLe⟩, yearLower, yearUpper⟩ := dateOf_within lower upper
  have days := daysInMonth_le (dateOf clock).year (dateOf clock).month
  have dayEq : Utc.day = 864000000000 := rfl
  have hourEq : Utc.hour = 36000000000 := rfl
  have minuteEq : Utc.minute = 600000000 := rfl
  have secondEq : Utc.second = 10000000 := rfl
  have hour : 0 ≤ clock % Utc.day / Utc.hour ∧ clock % Utc.day / Utc.hour < 10 ^ 2 := by
    rw [dayEq, hourEq]
    omega
  have minute : 0 ≤ clock % Utc.hour / Utc.minute ∧ clock % Utc.hour / Utc.minute < 10 ^ 2 := by
    rw [hourEq, minuteEq]
    omega
  have second : 0 ≤ clock % Utc.minute / Utc.second ∧ clock % Utc.minute / Utc.second < 10 ^ 2 := by
    rw [minuteEq, secondEq]
    omega
  have fraction : 0 ≤ clock % Utc.second ∧ clock % Utc.second < 10 ^ 7 := by
    rw [secondEq]
    omega
  rw [formatItems_first, clockText, xmlLayout]
  simp only [tickUnits]
  rw [readItems_field (by decide) (by decide) (by omega) (by omega), readItems_literal,
    readItems_field (by decide) (by decide) (by omega) (by omega), readItems_literal,
    readItems_field (by decide) (by decide) (by omega) (by omega), readItems_literal,
    readItems_field (by decide) (by decide) hour.1 hour.2, readItems_literal,
    readItems_field (by decide) (by decide) minute.1 minute.2, readItems_literal,
    readItems_field (by decide) (by decide) second.1 second.2, readItems_literal,
    readItems_field (by decide) (by decide) fraction.1 fraction.2, readItems_zone]
  rw [setField_fraction]
  rfl

theorem universal_clockResult (lower : 0 ≤ clock) (upper : clock ≤ DateTime.maxValue.ticks) :
    universal (clockResult clock) = some ⟨clock⟩ := by
  obtain ⟨⟨oneLeMonth, monthLe, oneLeDay, dayLe⟩, yearLower, yearUpper⟩ := dateOf_within lower upper
  have number : Julian.YMD2j (dateOf clock) = dayOf clock :=
    YMD2j_tickUnits (le_trans (show -Utc.year ≤ 0 by decide) lower)
  have max : DateTime.maxValue.ticks = 3155378975999999999 := rfl
  have reference : Julian.referenceDay = 1721426 := rfl
  have dayTicks : Utc.day = 864000000000 := rfl
  have hourTicks : Utc.hour = 36000000000 := rfl
  have minuteTicks : Utc.minute = 600000000 := rfl
  have secondTicks : Utc.second = 10000000 := rfl
  have year : ((clockResult clock).year : Int) = (dateOf clock).year :=
    Int.toNat_of_nonneg (show 0 ≤ (dateOf clock).year by omega)
  have month : ((clockResult clock).month : Int) = (dateOf clock).month :=
    Int.toNat_of_nonneg (show 0 ≤ (dateOf clock).month by omega)
  have day : ((clockResult clock).day : Int) = (dateOf clock).day :=
    Int.toNat_of_nonneg (show 0 ≤ (dateOf clock).day by omega)
  have hour : ((clockResult clock).hour : Int) = clock % 864000000000 / 36000000000 :=
    Int.toNat_of_nonneg (show 0 ≤ clock % 864000000000 / 36000000000 by omega)
  have minute : ((clockResult clock).minute : Int) = clock % 36000000000 / 600000000 :=
    Int.toNat_of_nonneg (show 0 ≤ clock % 36000000000 / 600000000 by omega)
  have second : ((clockResult clock).second : Int) = clock % 600000000 / 10000000 :=
    Int.toNat_of_nonneg (show 0 ≤ clock % 600000000 / 10000000 by omega)
  have fraction : ((clockResult clock).fraction : Int) = clock % 10000000 :=
    Int.toNat_of_nonneg (show 0 ≤ clock % 10000000 by omega)
  have offset : (clockResult clock).timeZoneOffset = 0 := rfl
  have ticks : (dayOf clock - Julian.referenceDay) * Utc.day + clock % 864000000000 / 36000000000 * Utc.hour +
      clock % 36000000000 / 600000000 * Utc.minute + clock % 600000000 / 10000000 * Utc.second +
      clock % 10000000 - 0 = clock := by
    rw [dayOf, reference, dayTicks, hourTicks, minuteTicks, secondTicks]
    omega
  unfold universal
  rw [year, month, day]
  rw [if_pos]
  · dsimp only
    have sameDay : (if clock < 0 then clock + Utc.day else clock) = clock := if_neg (by omega)
    rw [hour, minute, second, fraction, offset, number, ticks, sameDay, if_pos ⟨lower, upper⟩]
  · refine ⟨by omega, by omega, by omega, by omega, by omega, dayLe, by omega, by omega, by omega, ?_⟩
    rw [offset]
    decide

theorem parseExact_clockText (lower : 0 ≤ clock) (upper : clock ≤ DateTime.maxValue.ticks) :
    parseExact xmlDateTimeFormats (clockText clock) = .ok ⟨clock⟩ := by
  have first : (readItems (formatItems (codeUnits "yyyy-MM-ddTHH\\:mm\\:ss.fffffffzzz")) (clockText clock) {} >>=
      universal) = some ⟨clock⟩ := by
    rw [readItems_clockText lower upper]
    exact universal_clockResult lower upper
  rw [parseExact, xmlDateTimeFormats, List.findSome?_cons, first]
  rfl

theorem parseDate_clockText (lower : 0 ≤ clock) (upper : clock ≤ DateTime.maxValue.ticks) :
    parseDate (some (clockText clock)) = .ok (universalToUtcTime ⟨clock⟩) := by
  rw [parseDate, parseExact_clockText lower upper, ok_bind, universalToUtcTime]
  split
  · rfl
  · split <;> rfl

end Clocks

end XmlUtil

section Writers

variable {clock : Int}

theorem zeroPadded_aligned (width : Nat) (value : Int) : alignedField width value = zeroPadded width value :=
  padLeft_of_le space (le_length_zeroPadded width value)

theorem toXmlDateTime_eq {t : UtcTime} {dt : DateTime} (some_ : t ≠ UtcTime.null) (shown : t.toDateTime = .ok dt)
    (lower : 0 ≤ dt.ticks) : t.toXmlDateTime = .ok (some (XmlUtil.clockText dt.ticks)) := by
  have fraction : dt.ticks.tmod 10000000 = dt.ticks % Utc.second := Int.tmod_eq_emod_of_nonneg lower
  rw [UtcTime.toXmlDateTime, if_neg some_, shown, ok_bind, fraction]
  rfl

theorem toString_eq {calendar : RegionalCalendar} {t : UtcTime} (some_ : t ≠ UtcTime.null)
    (shown : calendar.asYMDhms_tick t = .ok (tickUnits clock)) :
    calendar.toString t = .ok (XmlUtil.clockText clock) := by
  rw [RegionalCalendar.toString, if_neg some_, shown, ok_bind]
  simp only [zeroPadded_aligned]
  rfl

end Writers

def UtcTime.InYears (t : UtcTime) : Prop := 0 ≤ t.ticks ∧ t.ticks < DateTime.maxValue.ticks

def UtcTime.Stamped (t : UtcTime) : Prop := t.InYears ∨ t = UtcTime.minValue ∨ t = UtcTime.maxValue

def UtcTime.KeepsXml (t : UtcTime) : Prop := (t.toXmlDateTime >>= XmlUtil.parseDate) = .ok t

namespace RegionalCalendar

def LocalInYears (calendar : RegionalCalendar) (t : UtcTime) : Prop :=
  ∃ units, calendar.asYMDhms_tick t = .ok units ∧ 1 ≤ units.date.year ∧ units.date.year ≤ 9999

def KeepsXml (calendar : RegionalCalendar) (t : UtcTime) : Prop :=
  (calendar.toString t >>= fun text => XmlUtil.parseDate (some text)) = .ok t

end RegionalCalendar

section Kept

variable {calendar : RegionalCalendar} {t : UtcTime}

theorem universalToUtcTime_eq {clock : Int} (lower : 0 < clock) (upper : clock < DateTime.maxValue.ticks) :
    XmlUtil.universalToUtcTime ⟨clock⟩ = .ofTicks clock := by
  have notMin : (⟨clock⟩ : DateTime) ≠ DateTime.minValue := fun same => by
    have ticks : clock = 0 := congrArg DateTime.ticks same
    omega
  have notMax : (⟨clock⟩ : DateTime) ≠ DateTime.maxValue := fun same => by
    have ticks : clock = DateTime.maxValue.ticks := congrArg DateTime.ticks same
    omega
  rw [XmlUtil.universalToUtcTime, if_neg notMin, if_neg notMax]

theorem UtcTime.InYears.ordinary (inYears : t.InYears) (some_ : t ≠ UtcTime.null) : t.Ordinary := by
  obtain ⟨lower, upper⟩ := inYears
  have max : DateTime.maxValue.ticks = 3155378975999999999 := rfl
  have first : Utc.minValue = -9223372036854775807 := rfl
  have last : Utc.maxValue = 9223372036854775807 := rfl
  refine UtcTime.ordinary_iff.mpr ⟨UtcTime.ne_null_iff.mp some_, ?_, ?_⟩ <;> omega

theorem keepsXml_iff (stamped : t.Stamped) : t.KeepsXml ↔ t ≠ UtcTime.null := by
  have max : DateTime.maxValue.ticks = 3155378975999999999 := rfl
  constructor
  · rintro kept rfl
    cases kept
  · intro some_
    unfold UtcTime.KeepsXml
    rcases stamped with inYears | rfl | rfl
    · have ordinary := inYears.ordinary some_
      obtain ⟨lower, upper⟩ := inYears
      have notZero := UtcTime.ne_null_iff.mp some_
      have shown : t.toDateTime = .ok ⟨t.ticks⟩ := by
        rw [UtcTime.toDateTime, if_neg some_, if_neg ordinary.notMin, if_neg ordinary.notMax, DateTime.ofTicks,
          if_pos ⟨lower, by omega⟩]
        rfl
      rw [toXmlDateTime_eq some_ shown lower, ok_bind, XmlUtil.parseDate_clockText lower (by omega),
        universalToUtcTime_eq (by omega) upper, UtcTime.ofTicks_eq]
    · have shown : UtcTime.minValue.toDateTime = .ok DateTime.minValue := rfl
      rw [toXmlDateTime_eq some_ shown (by decide), ok_bind, XmlUtil.parseDate_clockText (by decide) (by decide)]
      rfl
    · have shown : UtcTime.maxValue.toDateTime = .ok DateTime.maxValue := rfl
      rw [toXmlDateTime_eq some_ shown (by decide), ok_bind, XmlUtil.parseDate_clockText (by decide) (by decide)]
      rfl

theorem asYMDhms_tick_congr {other : RegionalCalendar} (ordinary : t.Ordinary)
    (same : UtcTime.ofTicks (t.ticks + calendar.offsetAt t.ticks) =
      UtcTime.ofTicks (t.ticks + other.offsetAt t.ticks)) : calendar.asYMDhms_tick t = other.asYMDhms_tick t := by
  simp only [RegionalCalendar.asYMDhms_tick, RegionalCalendar.diffUtc_eq, ok_bind, ordinary.add_eq, same]

theorem LocalInYears.clock (ordinary : t.Ordinary) (inYears : calendar.LocalInYears t) :
    0 ≤ long (t.ticks + calendar.offsetAt t.ticks) ∧
      long (t.ticks + calendar.offsetAt t.ticks) ≤ DateTime.maxValue.ticks ∧
      calendar.asYMDhms_tick t = .ok (tickUnits (long (t.ticks + calendar.offsetAt t.ticks))) := by
  obtain ⟨units, shown, year⟩ := inYears
  have fields := shown
  simp only [RegionalCalendar.asYMDhms_tick, RegionalCalendar.diffUtc_eq, ok_bind, ordinary.add_eq] at fields
  obtain ⟨clock, clockEq⟩ : ∃ clock, long (t.ticks + calendar.offsetAt t.ticks) = clock := ⟨_, rfl⟩
  have ticks : (UtcTime.ofTicks (t.ticks + calendar.offsetAt t.ticks)).ticks = clock := clockEq
  have clockLower : -2 ^ 63 ≤ clock := clockEq ▸ le_long _
  have clockUpper : clock < 2 ^ 63 := clockEq ▸ long_lt _
  rw [ticks] at fields
  have date : units.date = Julian.j2YMD ((long (clock + Julian.referenceTicks)).tdiv Utc.day) :=
    (congrArg CalendarUnits.date (Except.ok.inj fields)).symm
  rw [date, Julian.year_within_iff] at year
  have max : DateTime.maxValue.ticks = 3155378975999999999 := rfl
  have reference : Julian.referenceTicks = 1487312064000000000 := rfl
  have referenceDay : Julian.referenceDay = 1721426 := rfl
  have day : Utc.day = 864000000000 := rfl
  have near := tdiv_near (show 0 < Utc.day by decide) (long (clock + Julian.referenceTicks))
  rw [reference, day] at year near
  rw [referenceDay] at year
  have positive : 0 ≤ long (clock + 1487312064000000000) := by omega
  rw [Int.tdiv_eq_ediv_of_nonneg positive] at year
  have sum : long (clock + 1487312064000000000) = clock + 1487312064000000000 := by
    simp only [long, Int.bmod_def] at year positive ⊢
    omega
  rw [sum] at year
  -- a calendar without daylight saving that shows the same reading
  let other : RegionalCalendar := { calendar with dst := false, utcOffset := clock - t.ticks }
  have offset : other.offsetAt t.ticks = clock - t.ticks := rfl
  have whole : t.ticks + other.offsetAt t.ticks = clock := by
    rw [offset]
    omega
  have shownAs : calendar.asYMDhms_tick t = other.asYMDhms_tick t := by
    apply asYMDhms_tick_congr ordinary
    apply UtcTime.ext
    rw [ticks, whole, UtcTime.ofTicks_ticks clockLower clockUpper]
  have otherShown : other.asYMDhms_tick t = .ok (tickUnits (t.ticks + other.offsetAt t.ticks)) := by
    have year : Utc.year = 315360000000000 := rfl
    apply asYMDhms_tick_eq ordinary
    · rw [whole, year]
      omega
    · rw [whole]
      omega
  rw [clockEq, max, shownAs, otherShown, whole]
  exact ⟨by omega, by omega, rfl⟩

theorem not_localInYears_ends (calendar : RegionalCalendar) :
    ¬calendar.LocalInYears UtcTime.minValue ∧ ¬calendar.LocalInYears UtcTime.maxValue := by
  constructor
  · rintro ⟨units, shown, lower, upper⟩
    have added : ∀ span, UtcTime.minValue.add span = .ok UtcTime.minValue := fun span => rfl
    simp only [RegionalCalendar.asYMDhms_tick, RegionalCalendar.diffUtc_eq, ok_bind, added] at shown
    have year := congrArg (fun units => units.date.year) (Except.ok.inj shown)
    have early : (Julian.j2YMD ((long (UtcTime.minValue.ticks + Julian.referenceTicks)).tdiv Utc.day)).year < 1 := by
      decide
    dsimp only at year
    omega
  · rintro ⟨units, shown, lower, upper⟩
    have added : ∀ span, UtcTime.maxValue.add span = .ok UtcTime.maxValue := fun span => rfl
    simp only [RegionalCalendar.asYMDhms_tick, RegionalCalendar.diffUtc_eq, ok_bind, added] at shown
    have year := congrArg (fun units => units.date.year) (Except.ok.inj shown)
    have early : (Julian.j2YMD ((long (UtcTime.maxValue.ticks + Julian.referenceTicks)).tdiv Utc.day)).year < 1 := by
      decide
    dsimp only at year
    omega

theorem keepsCalendarXml_iff (inYears : t.InYears) (some_ : t ≠ UtcTime.null)
    (localInYears : calendar.LocalInYears t) :
    calendar.KeepsXml t ↔ long (calendar.offsetAt t.ticks) = 0 := by
  have ordinary := inYears.ordinary some_
  have positive := UtcTime.ne_null_iff.mp some_
  obtain ⟨lower, upper⟩ := inYears
  obtain ⟨clockLower, clockUpper, shown⟩ := LocalInYears.clock ordinary localInYears
  have max : DateTime.maxValue.ticks = 3155378975999999999 := rfl
  have wrapped : long (t.ticks + calendar.offsetAt t.ticks) = t.ticks ↔ long (calendar.offsetAt t.ticks) = 0 := by
    simp only [long, Int.bmod_def]
    omega
  generalize long (t.ticks + calendar.offsetAt t.ticks) = clock at clockLower clockUpper shown wrapped
  rw [RegionalCalendar.KeepsXml, toString_eq some_ shown, ok_bind, XmlUtil.parseDate_clockText clockLower clockUpper,
    Except.ok.injEq, ← wrapped]
  constructor
  · intro same
    rw [XmlUtil.universalToUtcTime] at same
    split at same
    · rw [← same] at lower
      exact absurd lower (by decide)
    · split at same
      · rw [← same] at upper
        exact absurd upper (by decide)
      · have ticks := congrArg UtcTime.ticks same
        have read : (UtcTime.ofTicks clock).ticks = clock := UtcTime.ofTicks_ticks (by omega) (by omega)
        exact read.symm.trans ticks
  · rintro rfl
    rw [universalToUtcTime_eq (by omega) upper, UtcTime.ofTicks_eq]

/-- XML time stamps denote the same instant for a time that is not null, where the calendar has
no offset: its text has the fields of the local clock and the zone of universal time. -/
theorem xmlDateTime_kept_iff (calendar : RegionalCalendar) (t : UtcTime) (stamped : t.Stamped) :
    (t.KeepsXml ∧ (calendar.LocalInYears t → calendar.KeepsXml t)) ↔
      t ≠ UtcTime.null ∧ (calendar.LocalInYears t → long (calendar.offsetAt t.ticks) = 0) := by
  rw [keepsXml_iff stamped]
  apply and_congr_right
  intro some_
  apply imp_congr_right
  intro localInYears
  rcases stamped with inYears | rfl | rfl
  · exact keepsCalendarXml_iff inYears some_ localInYears
  · exact absurd localInYears (not_localInYears_ends calendar).1
  · exact absurd localInYears (not_localInYears_ends calendar).2

def newYear2024 : UtcTime := .ofTicks 638396640000000000

theorem newYear2024_inYears : newYear2024.InYears := And.intro (by decide) (by decide)

theorem xmlDateTime_kept_newYear2024 :
    newYear2024.Stamped ∧ newYear2024.KeepsXml ∧
      (RegionalCalendar.utcCalendar.LocalInYears newYear2024 → RegionalCalendar.utcCalendar.KeepsXml newYear2024) := by
  have stamped : newYear2024.Stamped := Or.inl newYear2024_inYears
  exact ⟨stamped, (xmlDateTime_kept_iff RegionalCalendar.utcCalendar newYear2024 stamped).mpr
    ⟨by decide, fun _ => by decide⟩⟩

/-- An hour east of Greenwich the text of midnight names one o'clock in universal time. -/
theorem xmlDateTime_lost : ¬ ∀ (calendar : RegionalCalendar) (t : UtcTime), t.Stamped →
    t.KeepsXml ∧ (calendar.LocalInYears t → calendar.KeepsXml t) := by
  intro always
  have east := always { RegionalCalendar.utcCalendar with utcOffset := Utc.hour } newYear2024
    (Or.inl newYear2024_inYears)
  have inYears : ({ RegionalCalendar.utcCalendar with utcOffset := Utc.hour } : RegionalCalendar).LocalInYears
      newYear2024 := ⟨⟨⟨2024, 1, 1⟩, 1, 0, 0, 0⟩, by decide, by decide, by decide⟩
  have kept := (keepsCalendarXml_iff newYear2024_inYears (by decide) inYears).mp (east.2 inYears)
  revert kept
  decide

end Kept

end ServiceHost
