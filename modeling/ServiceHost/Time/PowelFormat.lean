import ServiceHost.Time.PowelFormatCore
import ServiceHost.Time.TimeText
import ServiceHost.Time.XmlDateTime

/-!
A Powel format renders piece by piece: the loop goes from the start of a piece to the start
of the next one. What a piece renders to is what its letter says, but for the cases that the
conditions of the pieces name.
-/

namespace ServiceHost

open Library Text RegionalCalendar

inductive NameMark
  | dollar
  | numberSign
deriving DecidableEq, Repr

inductive FormatPiece
  | literal (c : UInt16) (plain : c ≠ percent ∧ c ≠ dollar ∧ c ≠ numberSign)
  | field (width : Option DigitText) (letter : FieldLetter) (plain : letter ≠ .x ∧ letter ≠ .X)
  | name (mark : NameMark) (length : Option DigitText) (letter : NameLetter)

namespace FormatPiece

def markUnit : NameMark → UInt16
  | .dollar => Text.dollar
  | .numberSign => Text.numberSign

def widthText : Option DigitText → CodeUnits
  | none => []
  | some width => width.text

def lengthText : Option DigitText → CodeUnits
  | none => []
  | some length => point :: length.text

def text : FormatPiece → CodeUnits
  | literal c _ => [c]
  | field width letter _ => percent :: (widthText width ++ letter.text)
  | name mark length letter => markUnit mark :: (lengthText length ++ letter.text)

theorem text_ne_nil (piece : FormatPiece) : piece.text ≠ [] := by
  cases piece <;> exact List.cons_ne_nil _ _

end FormatPiece

section Letters

theorem fieldLetter_text (letter : FieldLetter) : ∃ c, letter.text = [c] ∧ fieldLetter c = some letter := by
  cases letter <;> exact ⟨_, rfl, by decide⟩

theorem nameLetter_text (letter : NameLetter) : ∃ c, letter.text = [c] ∧ nameLetter c = some letter := by
  cases letter <;> exact ⟨_, rfl, by decide⟩

theorem fieldLetter_low {c : UInt16} (low : c.toNat < 65) : fieldLetter c = none := by
  rw [fieldLetter, List.find?_eq_none]
  intro letter _ same
  rw [decide_eq_true_eq] at same
  have units : ∀ letter : FieldLetter, letter.text.all (fun c => 65 ≤ c.toNat) = true := by
    intro letter
    cases letter <;> decide
  have high := units letter
  rw [same, List.all_cons, Bool.and_eq_true, decide_eq_true_eq] at high
  omega

theorem nameLetter_low {c : UInt16} (low : c.toNat < 65) : nameLetter c = none := by
  rw [nameLetter, List.find?_eq_none]
  intro letter _ same
  rw [decide_eq_true_eq] at same
  have units : ∀ letter : NameLetter, letter.text.all (fun c => 65 ≤ c.toNat) = true := by
    intro letter
    cases letter <;> decide
  have high := units letter
  rw [same, List.all_cons, Bool.and_eq_true, decide_eq_true_eq] at high
  omega

theorem digits_low (number : DigitText) : ∀ c ∈ number.text, c.toNat < 65 := by
  intro c member
  have digit := List.all_eq_true.mp number.digits c member
  rw [isAsciiDigit, decide_eq_true_eq] at digit
  omega

theorem widthText_low (width : Option DigitText) : ∀ c ∈ FormatPiece.widthText width, c.toNat < 65 := by
  cases width with
  | none => simp [FormatPiece.widthText]
  | some width => exact digits_low width

theorem lengthText_low (length : Option DigitText) : ∀ c ∈ FormatPiece.lengthText length, c.toNat < 65 := by
  cases length with
  | none => simp [FormatPiece.lengthText]
  | some length =>
    intro c member
    rcases List.mem_cons.mp member with rfl | digit
    · decide
    · exact digits_low length c digit

end Letters

namespace WeekCalendar

variable {calendar : WeekCalendar} {culture : FormatCulture} {t : UtcTime} {fields : PowelFields}

section Loop

theorem renderSpecifier_low (kind : SpecifierKind) {c : UInt16} (low : c.toNat < 65) (formatBuffer : CodeUnits) :
    calendar.renderSpecifier culture t fields kind c formatBuffer = none := by
  cases kind with
  | field => rw [renderSpecifier, fieldLetter_low low, Option.map_none]
  | name => rw [renderSpecifier, nameLetter_low low, Option.map_none]

theorem formatSpecifier_collect (kind : SpecifierKind) {front : CodeUnits} (low : ∀ c ∈ front, c.toNat < 65)
    (formatBuffer rest : CodeUnits) :
    calendar.formatSpecifier culture t fields kind formatBuffer (front ++ rest) =
      calendar.formatSpecifier culture t fields kind (formatBuffer ++ front) rest := by
  induction front generalizing formatBuffer with
  | nil => rw [List.nil_append, List.append_nil]
  | cons c front ih =>
    rw [List.cons_append, formatSpecifier, renderSpecifier_low kind (low c List.mem_cons_self)]
    dsimp only
    rw [ih (fun c member => low c (List.mem_cons_of_mem _ member)), List.append_assoc, List.singleton_append]

def rendering (calendar : WeekCalendar) (culture : FormatCulture) (t : UtcTime) (fields : PowelFields) :
    FormatPiece → Except SystemException CodeUnits
  | .literal c _ => pure [c]
  | .field width letter _ => calendar.renderField culture t fields letter (FormatPiece.widthText width)
  | .name _ length letter => renderName culture fields letter (FormatPiece.lengthText length)

theorem formatText_piece (piece : FormatPiece) (rest : CodeUnits) :
    calendar.formatText culture t fields (piece.text ++ rest) = (do
      return (← calendar.rendering culture t fields piece) ++ (← calendar.formatText culture t fields rest)) := by
  cases piece with
  | literal c plain =>
    rw [FormatPiece.text, List.singleton_append, formatText, if_neg plain.1, if_neg (by simp [plain.2]), rendering,
      pure_eq_ok, ok_bind]
    rfl
  | field width letter plain =>
    obtain ⟨c, text, known⟩ := fieldLetter_text letter
    rw [FormatPiece.text, List.cons_append, formatText, if_pos rfl, List.append_assoc,
      formatSpecifier_collect .field (widthText_low width), List.nil_append, text, List.singleton_append,
      formatSpecifier, renderSpecifier, known, Option.map_some, rendering]
  | name mark length letter =>
    obtain ⟨c, text, known⟩ := nameLetter_text letter
    have notPercent : FormatPiece.markUnit mark ≠ percent := by cases mark <;> decide
    have isMark : FormatPiece.markUnit mark = Text.dollar ∨ FormatPiece.markUnit mark = Text.numberSign := by
      cases mark <;> decide
    rw [FormatPiece.text, List.cons_append, formatText, if_neg notPercent, if_pos isMark, List.append_assoc,
      formatSpecifier_collect .name (lengthText_low length), List.nil_append, text, List.singleton_append,
      formatSpecifier, renderSpecifier, known, Option.map_some, rendering]

theorem formatText_pieces (pieces : List FormatPiece) :
    calendar.formatText culture t fields (pieces.flatMap FormatPiece.text) =
      List.flatten <$> pieces.mapM (calendar.rendering culture t fields) := by
  induction pieces with
  | nil => rw [List.flatMap_nil, formatText, List.mapM_nil, pure_eq_ok, pure_eq_ok, map_ok, List.flatten_nil]
  | cons piece pieces ih =>
    rw [List.flatMap_cons, formatText_piece, ih, List.mapM_cons]
    cases calendar.rendering culture t fields piece with
    | error exception => rfl
    | ok rendered =>
      cases pieces.mapM (calendar.rendering culture t fields) with
      | error exception => rfl
      | ok more => rfl

end Loop

section Bounds

def Short (value : Int) : Prop := -10000000 < value ∧ value < 10000000

theorem j2YMD_short {julDate : Int} (lower : -20000000 < julDate) (upper : julDate < 20000000) :
    (-100000 < (Julian.j2YMD julDate).year ∧ (Julian.j2YMD julDate).year < 100000) ∧
      Short (Julian.j2YMD julDate).month ∧ Short (Julian.j2YMD julDate).day := by
  unfold Julian.j2YMD
  dsimp only [Short]
  have centuries := tdiv_near (show (0 : Int) < 146097 by decide) (4 * (julDate + 68569))
  generalize (4 * (julDate + 68569)).tdiv 146097 = century at centuries ⊢
  have days := tdiv_near (show (0 : Int) < 4 by decide) (146097 * century + 3)
  generalize (146097 * century + 3).tdiv 4 = passed at days ⊢
  have years := tdiv_near (show (0 : Int) < 1461001 by decide) (4000 * (julDate + 68569 - passed + 1))
  generalize (4000 * (julDate + 68569 - passed + 1)).tdiv 1461001 = year at years ⊢
  have yearDays := tdiv_near (show (0 : Int) < 4 by decide) (1461 * year)
  generalize (1461 * year).tdiv 4 = yearPassed at yearDays ⊢
  have months := tdiv_near (show (0 : Int) < 2447 by decide) (80 * (julDate + 68569 - passed - yearPassed + 31))
  generalize (80 * (julDate + 68569 - passed - yearPassed + 31)).tdiv 2447 = month at months ⊢
  have monthDays := tdiv_near (show (0 : Int) < 80 by decide) (2447 * month)
  generalize (2447 * month).tdiv 80 = monthPassed at monthDays ⊢
  have carried := tdiv_near (show (0 : Int) < 11 by decide) month
  generalize month.tdiv 11 = carry at carried ⊢
  omega

theorem tmod_near {divisor : Int} (positive : 0 < divisor) (value : Int) :
    -divisor < value.tmod divisor ∧ value.tmod divisor < divisor :=
  ⟨Int.lt_tmod_of_pos value positive, Int.tmod_lt_of_pos value positive⟩

theorem long_tdiv_day (value : Int) : -20000000 < (long value).tdiv Utc.day ∧ (long value).tdiv Utc.day < 20000000 := by
  have day : Utc.day = 864000000000 := rfl
  have near := tdiv_near (show 0 < Utc.day by decide) (long value)
  have lower := le_long value
  have upper := long_lt value
  rw [day] at near ⊢
  omega

theorem long_tdiv_week (value : Int) : -5000000 < (long value).tdiv Utc.week ∧ (long value).tdiv Utc.week < 5000000 := by
  have week : Utc.week = 6048000000000 := rfl
  have near := tdiv_near (show 0 < Utc.week by decide) (long value)
  have lower := le_long value
  have upper := long_lt value
  rw [week] at near ⊢
  omega

theorem weekOfYear_cases {calendar : RegionalCalendar} {weekRule : WeekOneRule} {tweek : UtcTime} {date : Date}
    {pair : Int × Int} (told : calendar.weekOfYear weekRule tweek date = .ok pair) :
    (pair.1 = date.year ∨ pair.1 = date.year + 1) ∧
      (pair.2 = 1 ∨ ∃ tyearw, pair.2 = weekNumber tweek tyearw) := by
  have counted : ∀ {first : Except SystemException UtcTime},
      (first >>= fun tyearw => (pure (date.year, weekNumber tweek tyearw) : Except SystemException (Int × Int))) =
        .ok pair → (pair.1 = date.year ∨ pair.1 = date.year + 1) ∧
          (pair.2 = 1 ∨ ∃ tyearw, pair.2 = weekNumber tweek tyearw) := by
    intro first returned
    obtain ⟨tyearw, _, same⟩ := bind_eq_ok_iff.mp returned
    rw [← Except.ok.inj same]
    exact ⟨.inl rfl, .inr ⟨tyearw, rfl⟩⟩
  unfold RegionalCalendar.weekOfYear at told
  cases weekRule with
  | firstJanWeek =>
    dsimp only at told
    split at told
    · rw [← Except.ok.inj told]
      exact ⟨.inr rfl, .inl rfl⟩
    · split at told
      · rw [← Except.ok.inj told]
        exact ⟨.inl rfl, .inl rfl⟩
      · obtain ⟨year, _, told⟩ := bind_eq_ok_iff.mp told
        exact counted told
  | firstFullWeek =>
    dsimp only at told
    split at told
    · rw [← Except.ok.inj told]
      exact ⟨.inl rfl, .inl rfl⟩
    · obtain ⟨year, _, told⟩ := bind_eq_ok_iff.mp told
      obtain ⟨tyearw, _, told⟩ := bind_eq_ok_iff.mp told
      split at told
      · exact counted told
      · exact counted told
  | first4DayWeek =>
    dsimp only at told
    split at told
    · rw [← Except.ok.inj told]
      exact ⟨.inr rfl, .inl rfl⟩
    · split at told
      · rw [← Except.ok.inj told]
        exact ⟨.inl rfl, .inl rfl⟩
      · obtain ⟨year, _, told⟩ := bind_eq_ok_iff.mp told
        obtain ⟨tyearw, _, told⟩ := bind_eq_ok_iff.mp told
        obtain ⟨offset, _, told⟩ := bind_eq_ok_iff.mp told
        obtain ⟨local_, _, told⟩ := bind_eq_ok_iff.mp told
        split at told
        · exact counted told
        · exact counted told

theorem asYW_short {calendar : RegionalCalendar} {weekRule : WeekOneRule} {t : UtcTime} {pair : Int × Int}
    (told : calendar.asYW weekRule t = .ok pair) : Short pair.1 ∧ Short pair.2 := by
  obtain ⟨units, told, pairEq⟩ := bind_eq_ok_iff.mp told
  rw [← Except.ok.inj pairEq]
  simp only [RegionalCalendar.asYWDhms_ticks] at told
  obtain ⟨offset, _, told⟩ := bind_eq_ok_iff.mp told
  obtain ⟨tl, _, told⟩ := bind_eq_ok_iff.mp told
  obtain ⟨tweek, _, told⟩ := bind_eq_ok_iff.mp told
  obtain ⟨offset, _, told⟩ := bind_eq_ok_iff.mp told
  obtain ⟨⟨Yw, Wn⟩, found, same⟩ := bind_eq_ok_iff.mp told
  have yearEq : Yw = units.Yw := congrArg WeekUnits.Yw (Except.ok.inj same)
  have numberEq : Wn = units.Wn := congrArg WeekUnits.Wn (Except.ok.inj same)
  obtain ⟨year, number⟩ := weekOfYear_cases found
  have days := long_tdiv_day (Julian.referenceTicks + long (tweek.ticks + offset))
  have known := (j2YMD_short days.1 days.2).1
  rw [← yearEq, ← numberEq]
  dsimp only [Julian.ticks2j, Short] at year number known ⊢
  constructor
  · clear number
    omega
  · rcases number with first | ⟨tyearw, number⟩
    · omega
    · have weeks := long_tdiv_week (Utc.day + tweek.ticks - tyearw.ticks)
      rw [number, weekNumber]
      omega

theorem powelFields_eq (ordinary : t.Ordinary) (told : calendar.powelFields t = .ok fields) :
    fields.weekday = (let weekday := (8 + ((long (t.ticks + calendar.offsetAt t.ticks)).tmod Utc.week).tdiv Utc.day).tmod 7
      if weekday = 0 ∧ calendar.firstDayOfWeek = 1 then 7 else weekday) ∧
      Short fields.year ∧ Short fields.month ∧ Short fields.day ∧ Short fields.hour ∧ Short (fields.hour + 1) ∧
      Short fields.minute ∧ Short fields.second ∧ Short fields.yearW ∧ Short fields.weekno := by
  obtain ⟨⟨units, weekday⟩, shown, told⟩ := bind_eq_ok_iff.mp told
  obtain ⟨⟨yearW, weekno⟩, week, same⟩ := bind_eq_ok_iff.mp told
  have fieldsEq := (Except.ok.inj same).symm
  obtain ⟨otherUnits, unitsShown, shown⟩ := bind_eq_ok_iff.mp shown
  obtain ⟨otherWeekday, weekdayShown, pairEq⟩ := bind_eq_ok_iff.mp shown
  obtain ⟨rfl, rfl⟩ := Prod.mk.inj (Except.ok.inj pairEq)
  have weekShort := asYW_short week
  simp only [asYMDhms_tick, diffUtc_eq, ok_bind, ordinary.add_eq, pure_eq_ok] at unitsShown
  simp only [weekDay, diffUtc_eq, ok_bind, ordinary.add_eq, pure_eq_ok] at weekdayShown
  have weekdayEq := (Except.ok.inj weekdayShown).symm
  have unitsEq := (Except.ok.inj unitsShown).symm
  have days := long_tdiv_day ((UtcTime.ofTicks (t.ticks + calendar.offsetAt t.ticks)).ticks + Julian.referenceTicks)
  have date := j2YMD_short days.1 days.2
  generalize long ((UtcTime.ofTicks (t.ticks + calendar.offsetAt t.ticks)).ticks + Julian.referenceTicks) = tj
    at unitsEq date
  rw [fieldsEq, unitsEq]
  refine ⟨?_, ⟨?_, ?_⟩, date.2.1, date.2.2, ?_⟩
  · dsimp only
    rw [weekdayEq]
    rfl
  · exact lt_trans (by decide) date.1.1
  · exact lt_trans date.1.2 (by decide)
  · have day : Utc.day = 864000000000 := rfl
    have hour : Utc.hour = 36000000000 := rfl
    have minute : Utc.minute = 600000000 := rfl
    have second : Utc.second = 10000000 := rfl
    rw [day, hour, minute, second]
    dsimp only
    have rest := tmod_near (show (0 : Int) < 864000000000 by decide) tj
    generalize tj.tmod 864000000000 = rem at rest ⊢
    have hours := tdiv_near (show (0 : Int) < 36000000000 by decide) rem
    generalize rem.tdiv 36000000000 = hours at hours ⊢
    have hourRest := tmod_near (show (0 : Int) < 36000000000 by decide) rem
    generalize rem.tmod 36000000000 = hourRem at hourRest ⊢
    have minutes := tdiv_near (show (0 : Int) < 600000000 by decide) hourRem
    generalize hourRem.tdiv 600000000 = minutes at minutes ⊢
    have minuteRest := tmod_near (show (0 : Int) < 600000000 by decide) hourRem
    generalize hourRem.tmod 600000000 = minuteRem at minuteRest ⊢
    have seconds := tdiv_near (show (0 : Int) < 10000000 by decide) minuteRem
    generalize minuteRem.tdiv 10000000 = seconds at seconds ⊢
    dsimp only [Short] at weekShort ⊢
    omega

end Bounds

section Numbers

def widthValue : Option DigitText → Nat
  | none => 0
  | some width => width.value

theorem length_int32Text {value : Int} (short : Short value) : (int32Text value).length ≤ 8 := by
  obtain ⟨lower, upper⟩ := short
  have digits : (decimal value.natAbs).length ≤ 7 := length_decimal_le (by decide) (by omega)
  unfold int32Text
  split
  · rw [List.length_cons]
    omega
  · omega

theorem minus_not_decimal (value : Nat) : minus ∉ decimal value := by
  intro member
  have digit := List.all_eq_true.mp (isAsciiDigit_decimal value) minus member
  revert digit
  decide

theorem padLeft_int32Text_injective {width : Nat} {value other : Int}
    (same : padLeft width zero (int32Text value) = padLeft width zero (int32Text other)) : value = other := by
  have unsigned : ∀ {value : Int}, 0 ≤ value → int32Text value = decimal value.natAbs := fun nonneg =>
    if_neg (by omega)
  have signed : ∀ {value : Int}, value < 0 → int32Text value = minus :: decimal value.natAbs := fun negative =>
    if_pos negative
  have behind : ∀ count (digits : CodeUnits), (List.replicate count zero ++ minus :: digits).dropWhile (· = zero) =
      minus :: digits := by
    intro count digits
    rw [List.dropWhile_append_of_pos]
    · rfl
    · intro c member
      rw [List.eq_of_mem_replicate member, decide_eq_true_eq]
  have noMinus : ∀ count (value : Nat), minus ∉ List.replicate count zero ++ decimal value := by
    intro count value member
    rcases List.mem_append.mp member with zeros | digits
    · exact absurd (List.eq_of_mem_replicate zeros) (by decide)
    · exact minus_not_decimal value digits
  rcases lt_or_ge value 0 with negative | nonneg
  · rcases lt_or_ge other 0 with otherNegative | otherNonneg
    · rw [signed negative, signed otherNegative, padLeft, padLeft, List.leftpad, List.leftpad] at same
      have digits := congrArg (List.dropWhile (· = zero)) same
      rw [behind, behind] at digits
      have equal := decimal_injective (List.cons.inj digits).2
      omega
    · rw [signed negative, unsigned otherNonneg, padLeft, padLeft, List.leftpad, List.leftpad] at same
      have member : minus ∈ List.replicate (width - (minus :: decimal value.natAbs).length) zero ++
          minus :: decimal value.natAbs := List.mem_append_right _ List.mem_cons_self
      rw [same] at member
      exact absurd member (noMinus _ _)
  · rcases lt_or_ge other 0 with otherNegative | otherNonneg
    · rw [unsigned nonneg, signed otherNegative, padLeft, padLeft, List.leftpad, List.leftpad] at same
      have member : minus ∈ List.replicate (width - (minus :: decimal other.natAbs).length) zero ++
          minus :: decimal other.natAbs := List.mem_append_right _ List.mem_cons_self
      rw [← same] at member
      exact absurd member (noMinus _ _)
    · rw [unsigned nonneg, unsigned otherNonneg] at same
      have equal := congrArg numeral same
      rw [numeral_padLeft, numeral_padLeft, numeral_decimal, numeral_decimal] at equal
      omega

theorem createPaddedString_eq (width : Option DigitText) (number : Int) :
    createPaddedString (FormatPiece.widthText width) number = .ok (
      if widthValue width < 2 ^ 31 then padLeft (widthValue width) zero (int32Text number)
      else int32Text number) := by
  cases width with
  | none =>
    have unpadded : padLeft 0 zero (int32Text number) = int32Text number := padLeft_of_le zero (Nat.zero_le _)
    rw [widthValue, if_pos (by decide), unpadded]
    rfl
  | some width =>
    rw [createPaddedString, FormatPiece.widthText, width.parseInt32_text, widthValue]
    rcases Nat.lt_or_ge width.value (2 ^ 31) with small | large
    · rw [if_neg (Nat.not_le.mpr small), if_pos small]
      dsimp only
      rw [if_neg (by omega)]
      rfl
    · rw [if_pos large, if_neg (Nat.not_lt.mpr large)]
      rfl

theorem createPaddedString_iff {width : Option DigitText} {number meant : Int} (short : Short number) :
    createPaddedString (FormatPiece.widthText width) number = .ok (padLeft (widthValue width) zero (int32Text meant)) ↔
      widthValue width < 2 ^ 31 ∧ number = meant := by
  rw [createPaddedString_eq, Except.ok.injEq]
  constructor
  · intro same
    rcases Nat.lt_or_ge (widthValue width) (2 ^ 31) with small | large
    · rw [if_pos small] at same
      exact ⟨small, padLeft_int32Text_injective same⟩
    · have length := length_int32Text short
      rw [if_neg (Nat.not_lt.mpr large)] at same
      have padded := congrArg List.length same
      rw [length_padLeft] at padded
      omega
  · rintro ⟨small, rfl⟩
    rw [if_pos small]

theorem year2_eq_iff (year : Int) : year2 year = year.tmod 100 ↔ -100 < year ∧ year < 100 ∨ 1000 ≤ year := by
  have sum := Int.mul_tdiv_add_tmod year 100
  have near := tmod_near (show (0 : Int) < 100 by decide) year
  have sign := tmod_cases year 100
  rw [year2]
  split <;> omega

end Numbers

section Weekdays

def localClock (calendar : RegionalCalendar) (t : UtcTime) : Int := long (t.ticks + calendar.offsetAt t.ticks)

def weekdayOf (clock : Int) : Int := (clock / Utc.day + 1) % 7

def shownWeekday (clock : Int) : Int := (8 + (clock.tmod Utc.week).tdiv Utc.day).tmod 7

def WeekdayKept (clock : Int) : Prop := 0 ≤ clock ∨ clock % Utc.day = 0

def countedWeekday (firstDayOfWeek weekday : Int) : Int := if weekday = 0 ∧ firstDayOfWeek = 1 then 7 else weekday

theorem weekdayOf_range (clock : Int) : 0 ≤ weekdayOf clock ∧ weekdayOf clock < 7 := by
  unfold weekdayOf
  omega

theorem shownWeekday_eq (clock : Int) :
    (WeekdayKept clock → shownWeekday clock = weekdayOf clock) ∧
      (¬WeekdayKept clock → shownWeekday clock = (weekdayOf clock + 1) % 7) := by
  have week : Utc.week = 6048000000000 := rfl
  have day : Utc.day = 864000000000 := rfl
  unfold WeekdayKept shownWeekday weekdayOf
  rw [week, day]
  rcases lt_or_ge clock 0 with negative | nonneg
  · obtain ⟨back, rfl⟩ : ∃ back, clock = -back := ⟨-clock, by omega⟩
    have remainder : (-back).tmod 6048000000000 = -(back % 6048000000000) := by
      rw [Int.neg_tmod, Int.tmod_eq_emod_of_nonneg (by omega)]
    have quotient : (-(back % 6048000000000)).tdiv 864000000000 = -(back % 6048000000000 / 864000000000) := by
      rw [Int.neg_tdiv, Int.tdiv_eq_ediv_of_nonneg (by omega)]
    rw [remainder, quotient, Int.tmod_eq_emod_of_nonneg (by omega)]
    omega
  · rw [Int.tmod_eq_emod_of_nonneg nonneg, Int.tdiv_eq_ediv_of_nonneg (by omega), Int.tmod_eq_emod_of_nonneg (by omega)]
    omega

theorem shownWeekday_eq_iff (clock : Int) : shownWeekday clock = weekdayOf clock ↔ WeekdayKept clock := by
  have range := weekdayOf_range clock
  constructor
  · intro same
    by_contra lost
    have next := (shownWeekday_eq clock).2 lost
    omega
  · exact (shownWeekday_eq clock).1

theorem shownWeekday_range (clock : Int) : 0 ≤ shownWeekday clock ∧ shownWeekday clock < 7 := by
  have range := weekdayOf_range clock
  by_cases kept : WeekdayKept clock
  · rwa [(shownWeekday_eq clock).1 kept]
  · rw [(shownWeekday_eq clock).2 kept]
    omega

theorem countedWeekday_injective {firstDayOfWeek weekday other : Int} (range : 0 ≤ weekday ∧ weekday < 7)
    (otherRange : 0 ≤ other ∧ other < 7)
    (same : countedWeekday firstDayOfWeek weekday = countedWeekday firstDayOfWeek other) : weekday = other := by
  unfold countedWeekday at same
  split at same <;> split at same <;> omega

theorem countedWeekday_tmod {firstDayOfWeek weekday : Int} (range : 0 ≤ weekday ∧ weekday < 7) :
    (countedWeekday firstDayOfWeek weekday).tmod 7 = weekday := by
  unfold countedWeekday
  split
  · rename_i sunday
    rw [sunday.1]
    rfl
  · rw [Int.tmod_eq_emod_of_nonneg range.1]
    omega

end Weekdays

section Names

def cut (length : Option DigitText) (name : CodeUnits) : CodeUnits :=
  match length with
  | none => name
  | some length => name.take length.value

theorem createSubstring_eq (length : Option DigitText) {s : CodeUnits} (short : s.length < 2 ^ 31) :
    createSubstring (FormatPiece.lengthText length) s = .ok (cut length s) := by
  cases length with
  | none => rfl
  | some length =>
    have long : (FormatPiece.lengthText (some length)).length > 1 := by
      have some_ := List.length_pos_of_ne_nil length.some
      rw [FormatPiece.lengthText, List.length_cons]
      omega
    rw [createSubstring, if_pos ⟨long, rfl⟩, FormatPiece.lengthText, List.tail_cons, length.parseInt32_text, cut]
    rcases Nat.lt_or_ge length.value (2 ^ 31) with small | large
    · rw [if_neg (Nat.not_le.mpr small)]
      dsimp only
      split
      · rw [if_neg (by omega)]
        rfl
      · rw [List.take_of_length_le (by omega)]
        rfl
    · rw [if_pos large, List.take_of_length_le (by omega)]
      rfl

def monthName (culture : FormatCulture) (month : Int) : Option CodeUnits :=
  if inside : 0 ≤ month - 1 ∧ month - 1 < 13 then some (culture.monthNames ⟨(month - 1).toNat, by omega⟩) else none

def dayName (culture : FormatCulture) (weekday : Int) : CodeUnits :=
  culture.dayNames ⟨weekday.toNat % 7, Nat.mod_lt _ (by decide)⟩

end Names

section Meaning

def meantNumber (calendar : WeekCalendar) (t : UtcTime) (fields : PowelFields) (twoDigits : Bool) :
    FieldLetter → Option Int
  | .Y => some (if twoDigits then fields.year.tmod 100 else fields.year)
  | .y => some (if twoDigits then fields.yearW.tmod 100 else fields.yearW)
  | .M => some fields.month
  | .W => some fields.weekno
  | .D => some fields.day
  | .w => some (countedWeekday calendar.firstDayOfWeek (weekdayOf (localClock calendar.toRegionalCalendar t)))
  | .h => some fields.hour
  | .H => some (fields.hour + 1)
  | .m => some fields.minute
  | .s => some fields.second
  | .x => none
  | .X => none
  | .z => none
  | .Z => none

def meantZone (calendar : WeekCalendar) (culture : FormatCulture) (t : UtcTime) (letter : FieldLetter) : CodeUnits :=
  if letter = .z then if calendar.dstAt t ≠ 0 then calendar.alternateName else calendar.name
  else if calendar.utcOffset = 0 then []
  else (if calendar.utcOffset > 0 then plus else minus) :: culture.hours calendar.utcOffset.natAbs

def endsInTwo (width : Option DigitText) : Bool := (FormatPiece.widthText width).getLast? = some (char 50)

def Meant (calendar : WeekCalendar) (culture : FormatCulture) (t : UtcTime) (fields : PowelFields) :
    FormatPiece → CodeUnits → Prop
  | .literal c _, rendered => rendered = [c]
  | .field width letter _, rendered =>
      match meantNumber calendar t fields (endsInTwo width) letter with
      | some number => rendered = padLeft (widthValue width) zero (int32Text number)
      | none => rendered = meantZone calendar culture t letter
  | .name _ length .M, rendered => ∃ name, monthName culture fields.month = some name ∧ rendered = cut length name
  | .name _ length .w, rendered =>
      rendered = cut length (dayName culture (weekdayOf (localClock calendar.toRegionalCalendar t)))

def TwoDigitYear (width : Option DigitText) (year : Int) : Prop :=
  endsInTwo width = true → -100 < year ∧ year < 100 ∨ 1000 ≤ year

def Right (calendar : WeekCalendar) (culture : FormatCulture) (t : UtcTime) (fields : PowelFields) :
    FormatPiece → Prop
  | .literal _ _ => True
  | .field width letter _ =>
      match letter with
      | .Y => widthValue width < 2 ^ 31 ∧ TwoDigitYear width fields.year
      | .y => widthValue width < 2 ^ 31 ∧ TwoDigitYear width fields.yearW
      | .w => widthValue width < 2 ^ 31 ∧ WeekdayKept (localClock calendar.toRegionalCalendar t)
      | .z => calendar.name = calendar.alternateName ∨
          (calendar.dstAt t = calendar.dstOffsetOfYear fields.year ↔ calendar.dstAt t ≠ 0)
      | .Z => 0 ≤ calendar.utcOffset
      | .x => True
      | .X => True
      | _ => widthValue width < 2 ^ 31
  | .name _ _ .M => 1 ≤ fields.month ∧ fields.month ≤ 13
  | .name _ length .w =>
      WeekdayKept (localClock calendar.toRegionalCalendar t) ∨
        cut length (dayName culture (weekdayOf (localClock calendar.toRegionalCalendar t))) =
          cut length (dayName culture ((weekdayOf (localClock calendar.toRegionalCalendar t) + 1) % 7))

def RendersPieces (calendar : WeekCalendar) (culture : FormatCulture) (t : UtcTime) (pieces : List FormatPiece) :
    Prop :=
  ∃ renderings : List CodeUnits,
    calendar.toPowelString culture t (pieces.flatMap FormatPiece.text) = .ok renderings.flatten ∧
      List.Forall₂ (fun piece rendered => calendar.toPowelString culture t piece.text = .ok rendered ∧
        ∃ fields, calendar.powelFields t = .ok fields ∧ Meant calendar culture t fields piece rendered)
        pieces renderings

end Meaning

section Pieces

theorem rendering_numeric {width : Option DigitText} {shown meant : Int} (short : Short shown) :
    (∃ rendered, createPaddedString (FormatPiece.widthText width) shown = .ok rendered ∧
        rendered = padLeft (widthValue width) zero (int32Text meant)) ↔
      widthValue width < 2 ^ 31 ∧ shown = meant := by
  rw [← createPaddedString_iff short]
  constructor
  · rintro ⟨rendered, told, rfl⟩
    exact told
  · intro told
    exact ⟨_, told, rfl⟩

theorem twoDigitYear_iff {width : Option DigitText} {year : Int} :
    (if (FormatPiece.widthText width).getLast? = some (char 50) then year2 year else year) =
        (if endsInTwo width then year.tmod 100 else year) ↔ TwoDigitYear width year := by
  unfold TwoDigitYear endsInTwo
  rw [← year2_eq_iff]
  by_cases two : (FormatPiece.widthText width).getLast? = some (char 50)
  · simp [two]
  · simp [two]

theorem short_year2 {condition : Prop} [Decidable condition] {year : Int} (short : Short year) :
    Short (if condition then year2 year else year) := by
  obtain ⟨lower, upper⟩ := short
  have sum := Int.mul_tdiv_add_tmod year 100
  have near := tmod_near (show (0 : Int) < 100 by decide) year
  unfold Short year2
  split
  · split
    · omega
    · exact ⟨lower, upper⟩
  · exact ⟨lower, upper⟩

theorem ite_eq_ite_iff {p q : Prop} [Decidable p] [Decidable q] (whenTrue whenFalse : CodeUnits) :
    (if p then whenTrue else whenFalse) = (if q then whenTrue else whenFalse) ↔ whenFalse = whenTrue ∨ (p ↔ q) := by
  by_cases first : p
  · by_cases second : q
    · simp [first, second]
    · simp [first, second, eq_comm]
  · by_cases second : q
    · simp [first, second]
    · simp [first, second]

theorem offsetText_iff (calendar : WeekCalendar) (culture : FormatCulture) (t : UtcTime) :
    (if calendar.utcOffset = 0 then []
      else (if calendar.utcOffset > 0 then plus else minus) :: totalHours culture calendar.utcOffset) =
        meantZone calendar culture t .Z ↔ 0 ≤ calendar.utcOffset := by
  have notName : FieldLetter.Z ≠ .z := by decide
  rw [meantZone, if_neg notName]
  rcases Int.lt_trichotomy calendar.utcOffset 0 with west | greenwich | east
  · have nonzero : calendar.utcOffset ≠ 0 := by omega
    rw [if_neg nonzero, if_neg nonzero, totalHours, if_pos west]
    constructor
    · intro same
      have lengths := congrArg List.length same
      simp only [List.length_cons] at lengths
      omega
    · intro nonneg
      omega
  · rw [if_pos greenwich, if_pos greenwich, greenwich]
    simp
  · have nonneg : 0 ≤ calendar.utcOffset := by omega
    rw [totalHours, if_neg (not_lt.mpr nonneg)]
    exact iff_of_true rfl nonneg

theorem rendering_field_iff (ordinary : t.Ordinary) (told : calendar.powelFields t = .ok fields)
    (width : Option DigitText) (letter : FieldLetter) (plain : letter ≠ .x ∧ letter ≠ .X) :
    (∃ rendered, calendar.rendering culture t fields (.field width letter plain) = .ok rendered ∧
        Meant calendar culture t fields (.field width letter plain) rendered) ↔
      Right calendar culture t fields (.field width letter plain) := by
  obtain ⟨weekday, year, month, day, hour, nextHour, minute, second, yearW, weekno⟩ := powelFields_eq ordinary told
  have shown := shownWeekday_range (localClock calendar.toRegionalCalendar t)
  have meant := weekdayOf_range (localClock calendar.toRegionalCalendar t)
  have weekdayEq : fields.weekday = countedWeekday calendar.firstDayOfWeek
      (shownWeekday (localClock calendar.toRegionalCalendar t)) := weekday
  cases letter with
  | Y =>
    refine (rendering_numeric (short_year2 year)).trans (and_congr_right fun _ => ?_)
    exact twoDigitYear_iff
  | y =>
    refine (rendering_numeric (short_year2 yearW)).trans (and_congr_right fun _ => ?_)
    exact twoDigitYear_iff
  | M => exact (rendering_numeric month).trans (and_iff_left rfl)
  | W => exact (rendering_numeric weekno).trans (and_iff_left rfl)
  | D => exact (rendering_numeric day).trans (and_iff_left rfl)
  | w =>
    have short : Short fields.weekday := by
      rw [weekdayEq, countedWeekday]
      unfold Short
      split <;> omega
    refine (rendering_numeric short).trans (and_congr_right fun _ => ?_)
    rw [← shownWeekday_eq_iff, weekdayEq]
    exact ⟨countedWeekday_injective shown meant, fun same => by rw [same]⟩
  | h => exact (rendering_numeric hour).trans (and_iff_left rfl)
  | H => exact (rendering_numeric nextHour).trans (and_iff_left rfl)
  | m => exact (rendering_numeric minute).trans (and_iff_left rfl)
  | s => exact (rendering_numeric second).trans (and_iff_left rfl)
  | x => exact absurd rfl plain.1
  | X => exact absurd rfl plain.2
  | z =>
    refine Iff.trans ?_ (ite_eq_ite_iff calendar.alternateName calendar.name)
    constructor
    · rintro ⟨rendered, same, isMeant⟩
      exact (Except.ok.inj same).trans isMeant
    · intro same
      exact ⟨_, rfl, same⟩
  | Z =>
    refine Iff.trans ?_ (offsetText_iff calendar culture t)
    constructor
    · rintro ⟨rendered, same, isMeant⟩
      exact (Except.ok.inj same).trans isMeant
    · intro same
      exact ⟨_, rfl, same⟩

theorem rendering_name_iff (ordinary : t.Ordinary) (told : calendar.powelFields t = .ok fields) (mark : NameMark)
    (length : Option DigitText) (letter : NameLetter) :
    (∃ rendered, calendar.rendering culture t fields (.name mark length letter) = .ok rendered ∧
        Meant calendar culture t fields (.name mark length letter) rendered) ↔
      Right calendar culture t fields (.name mark length letter) := by
  cases letter with
  | M =>
    dsimp only [rendering, renderName, Meant, Right, monthName]
    by_cases inside : 0 ≤ fields.month - 1 ∧ fields.month - 1 < 13
    · rw [dif_pos inside, dif_pos inside, createSubstring_eq length (culture.monthLength _)]
      refine iff_of_true ⟨_, rfl, _, rfl, rfl⟩ (by omega)
    · rw [dif_neg inside, dif_neg inside]
      refine iff_of_false ?_ (by omega)
      rintro ⟨rendered, returned, _⟩
      cases returned
  | w =>
    have weekday := (powelFields_eq ordinary told).1
    have shown := shownWeekday_range (localClock calendar.toRegionalCalendar t)
    have meant := weekdayOf_range (localClock calendar.toRegionalCalendar t)
    have weekdayEq : fields.weekday.tmod 7 = shownWeekday (localClock calendar.toRegionalCalendar t) := by
      have counted : fields.weekday = countedWeekday calendar.firstDayOfWeek
        (shownWeekday (localClock calendar.toRegionalCalendar t)) := weekday
      rw [counted, countedWeekday_tmod shown]
    have name : ∀ inside : 0 ≤ fields.weekday.tmod 7 ∧ fields.weekday.tmod 7 < 7,
        culture.dayNames ⟨(fields.weekday.tmod 7).toNat, by omega⟩ =
          dayName culture (shownWeekday (localClock calendar.toRegionalCalendar t)) := by
      intro inside
      rw [dayName]
      congr 2
      omega
    have inside : 0 ≤ fields.weekday.tmod 7 ∧ fields.weekday.tmod 7 < 7 := by omega
    dsimp only [rendering, renderName, Meant, Right]
    have short : (dayName culture (shownWeekday (localClock calendar.toRegionalCalendar t))).length < 2 ^ 31 :=
      culture.dayLength _
    rw [dif_pos inside, name inside, createSubstring_eq length short]
    by_cases kept : WeekdayKept (localClock calendar.toRegionalCalendar t)
    · rw [(shownWeekday_eq _).1 kept]
      exact iff_of_true ⟨_, rfl, rfl⟩ (.inl kept)
    · rw [(shownWeekday_eq _).2 kept, or_iff_right kept]
      constructor
      · rintro ⟨rendered, same, isMeant⟩
        rw [← isMeant, ← Except.ok.inj same]
      · intro same
        exact ⟨_, rfl, same.symm⟩

theorem rendering_iff (ordinary : t.Ordinary) (told : calendar.powelFields t = .ok fields) (piece : FormatPiece) :
    (∃ rendered, calendar.rendering culture t fields piece = .ok rendered ∧
        Meant calendar culture t fields piece rendered) ↔ Right calendar culture t fields piece := by
  cases piece with
  | literal c plain => exact iff_of_true ⟨[c], rfl, rfl⟩ trivial
  | field width letter plain => exact rendering_field_iff ordinary told width letter plain
  | name mark length letter => exact rendering_name_iff ordinary told mark length letter

theorem toPowelString_eq (ordinary : t.Ordinary) {format : CodeUnits} (some_ : format ≠ []) :
    calendar.toPowelString culture t format = (do
      calendar.formatText culture t (← calendar.powelFields t) format) := by
  rw [toPowelString, if_neg some_, if_neg ordinary.notNull, if_neg ordinary.notMax, if_neg ordinary.notMin]

theorem toPowelString_piece (ordinary : t.Ordinary) (told : calendar.powelFields t = .ok fields)
    (piece : FormatPiece) :
    calendar.toPowelString culture t piece.text = calendar.rendering culture t fields piece := by
  have whole : piece.text = [piece].flatMap FormatPiece.text := (List.flatMap_singleton _ _).symm
  rw [toPowelString_eq ordinary piece.text_ne_nil, told, ok_bind, whole, formatText_pieces, List.mapM_cons,
    List.mapM_nil]
  cases calendar.rendering culture t fields piece with
  | error exception => rfl
  | ok rendered => simp

theorem exists_forall₂_iff {α β : Type} {R : α → β → Prop} (xs : List α) :
    (∃ ys, List.Forall₂ R xs ys) ↔ ∀ x ∈ xs, ∃ y, R x y := by
  constructor
  · rintro ⟨ys, related⟩
    induction related with
    | nil => exact fun x member => absurd member List.not_mem_nil
    | cons head _ ih =>
      intro x member
      rcases List.mem_cons.mp member with rfl | later
      · exact ⟨_, head⟩
      · exact ih x later
  · intro partners
    induction xs with
    | nil => exact ⟨[], .nil⟩
    | cons x xs ih =>
      obtain ⟨y, head⟩ := partners x List.mem_cons_self
      obtain ⟨ys, rest⟩ := ih fun x member => partners x (List.mem_cons_of_mem _ member)
      exact ⟨y :: ys, .cons head rest⟩

theorem mapM_of_forall₂ {pieces : List FormatPiece} {renderings : List CodeUnits}
    (each : List.Forall₂ (fun piece rendered => calendar.rendering culture t fields piece = .ok rendered)
      pieces renderings) : pieces.mapM (calendar.rendering culture t fields) = .ok renderings := by
  induction each with
  | nil => rfl
  | cons rendered _ ih =>
    rw [List.mapM_cons, rendered, ok_bind, ih]
    rfl

/-- A format of pieces renders piece by piece as meant when it has no pieces, or the time has a week and every
piece meets its condition. -/
theorem toPowelString_pieces_iff (calendar : WeekCalendar) (culture : FormatCulture) (t : UtcTime)
    (ordinary : t.Ordinary) (pieces : List FormatPiece) :
    RendersPieces calendar culture t pieces ↔ pieces = [] ∨
      ∃ fields, calendar.powelFields t = .ok fields ∧ ∀ piece ∈ pieces, Right calendar culture t fields piece := by
  constructor
  · rintro ⟨renderings, _, each⟩
    rcases pieces with _ | ⟨first, rest⟩
    · exact .inl rfl
    · have partners := (exists_forall₂_iff (first :: rest)).mp ⟨renderings, each⟩
      obtain ⟨_, _, fields, told, _⟩ := partners first List.mem_cons_self
      refine .inr ⟨fields, told, ?_⟩
      intro piece member
      obtain ⟨rendered, shown, otherFields, otherTold, meant⟩ := partners piece member
      obtain rfl := Except.ok.inj (told.symm.trans otherTold)
      rw [toPowelString_piece ordinary told] at shown
      exact (rendering_iff ordinary told piece).mp ⟨rendered, shown, meant⟩
  · rintro (rfl | ⟨fields, told, right⟩)
    · exact ⟨[], rfl, .nil⟩
    · have partners : ∀ piece ∈ pieces, ∃ rendered, calendar.rendering culture t fields piece = .ok rendered ∧
          Meant calendar culture t fields piece rendered := fun piece member =>
        (rendering_iff ordinary told piece).mpr (right piece member)
      obtain ⟨renderings, each⟩ := (exists_forall₂_iff pieces).mpr partners
      refine ⟨renderings, ?_, each.imp ?_⟩
      · by_cases empty : pieces.flatMap FormatPiece.text = []
        · rw [empty]
          rcases pieces with _ | ⟨first, rest⟩
          · rw [List.forall₂_nil_left_iff.mp each]
            rfl
          · exact absurd (List.append_eq_nil_iff.mp empty).1 first.text_ne_nil
        · rw [toPowelString_eq ordinary empty, told, ok_bind, formatText_pieces,
            mapM_of_forall₂ (each.imp fun _ _ both => both.1), map_ok]
      · rintro piece rendered ⟨shown, meant⟩
        rw [toPowelString_piece ordinary told]
        exact ⟨shown, fields, told, meant⟩

def plainCulture : FormatCulture where
  monthNames _ := []
  dayNames _ := []
  monthLength _ := by decide
  dayLength _ := by decide
  shortDate _ := []
  longTime _ := []
  hours span := decimal (span / 36000000000)

def weekCalendar (utcOffset : Int) : WeekCalendar where
  toRegionalCalendar := { utcCalendar with utcOffset }
  name := codeUnits "UTC"
  alternateName := codeUnits "UTC"
  weekRule := .first4DayWeek
  firstDayOfWeek := 1

def twoDigitDay : FormatPiece := .field (some ⟨codeUnits "02", by decide, by decide⟩) .D (by decide)

theorem toPowelString_pieces_newYear2024 : RendersPieces (weekCalendar 0) plainCulture newYear2024 [twoDigitDay] := by
  have told : (weekCalendar 0).powelFields newYear2024 = .ok ⟨2024, 1, 1, 0, 0, 0, 2024, 1, 1⟩ := by decide
  refine (toPowelString_pieces_iff (weekCalendar 0) plainCulture newYear2024 (by decide) [twoDigitDay]).mpr
    (.inr ⟨_, told, ?_⟩)
  intro piece member
  rw [List.mem_singleton.mp member]
  exact (show 2 < 2 ^ 31 by decide)

/-- Five hours west of Greenwich the offset is rendered with two signs. -/
theorem toPowelString_pieces_signs : ¬ ∀ (calendar : WeekCalendar) (culture : FormatCulture) (t : UtcTime),
    t.Ordinary → ∀ pieces, RendersPieces calendar culture t pieces := by
  intro always
  have ordinary : newYear2024.Ordinary := by decide
  obtain ⟨renderings, _, each⟩ := always (weekCalendar (-5 * Utc.hour)) plainCulture newYear2024 ordinary
    [.field none .Z (by decide)]
  obtain ⟨rendered, shown, fields, told, meant⟩ := (exists_forall₂_iff _).mp ⟨renderings, each⟩ _
    List.mem_cons_self
  rw [toPowelString_piece ordinary told] at shown
  have east : 0 ≤ (weekCalendar (-5 * Utc.hour)).utcOffset := (rendering_iff ordinary told _).mp ⟨rendered, shown, meant⟩
  revert east
  decide

end Pieces

end WeekCalendar

end ServiceHost
