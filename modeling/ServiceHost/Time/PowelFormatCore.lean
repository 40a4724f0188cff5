import ServiceHost.Time.DecimalText
import ServiceHost.Time.DstRulesCore
import ServiceHost.Time.TimeTextCore
import ServiceHost.Time.WeekNumberCore

/-!
`RegionalCalendar.ToString` with a Powel format: the characters of the format are copied but
for specifiers, which start with a mark and end with a letter. The texts of the culture are
parameters, and numbers have the signs of the invariant culture.
-/

namespace ServiceHost

open Text RegionalCalendar

namespace Text

def percent : UInt16 := 37
def dollar : UInt16 := 36
def infinity : UInt16 := 8734

end Text

/-- What the formats of the framework take from the culture. The hours are those of a span
of so many ticks. The length of a string has 32 bits. -/
structure FormatCulture where
  monthNames : Fin 13 → CodeUnits
  dayNames : Fin 7 → CodeUnits
  monthLength : ∀ month, (monthNames month).length < 2 ^ 31
  dayLength : ∀ day, (dayNames day).length < 2 ^ 31
  shortDate : DateTime → CodeUnits
  longTime : DateTime → CodeUnits
  hours : Nat → CodeUnits

structure WeekCalendar extends ConfiguredCalendar where
  weekRule : WeekOneRule
  firstDayOfWeek : Int

inductive FieldLetter
  | Y
  | y
  | M
  | W
  | D
  | w
  | h
  | H
  | m
  | s
  | x
  | X
  | z
  | Z
deriving DecidableEq, Repr

inductive NameLetter
  | M
  | w
deriving DecidableEq, Repr

inductive SpecifierKind
  | field
  | name
deriving DecidableEq, Repr

def FieldLetter.all : List FieldLetter := [.Y, .y, .M, .W, .D, .w, .h, .H, .m, .s, .x, .X, .z, .Z]

def FieldLetter.text : FieldLetter → CodeUnits
  | Y => codeUnits "Y"
  | y => codeUnits "y"
  | M => codeUnits "M"
  | W => codeUnits "W"
  | D => codeUnits "D"
  | w => codeUnits "w"
  | h => codeUnits "h"
  | H => codeUnits "H"
  | m => codeUnits "m"
  | s => codeUnits "s"
  | x => codeUnits "x"
  | X => codeUnits "X"
  | z => codeUnits "z"
  | Z => codeUnits "Z"

def NameLetter.text : NameLetter → CodeUnits
  | M => codeUnits "M"
  | w => codeUnits "w"

def fieldLetter (c : UInt16) : Option FieldLetter := FieldLetter.all.find? fun letter => letter.text = [c]

def nameLetter (c : UInt16) : Option NameLetter := [NameLetter.M, NameLetter.w].find? fun letter => letter.text = [c]

structure PowelFields where
  year : Int
  month : Int
  day : Int
  hour : Int
  minute : Int
  second : Int
  yearW : Int
  weekno : Int
  weekday : Int
deriving DecidableEq, Repr

namespace RegionalCalendar

/-- `DstAt`. -/
def dstAt (calendar : RegionalCalendar) (t : UtcTime) : Int :=
  match calendar.dstYearIndex t with
  | none => 0
  | some y =>
      if !calendar.isSummerTimeReversed y then
        if t.ticks ≥ (calendar.daylightStart y).ticks ∧ t.ticks < (calendar.daylightEnd y).ticks then
          calendar.dstOffset y
        else 0
      else if t.ticks < (calendar.daylightEnd y).ticks ∨ t.ticks ≥ (calendar.daylightStart y).ticks then
        calendar.dstOffset y
      else 0

/-- `DstOffset` of a year. -/
def dstOffsetOfYear (calendar : RegionalCalendar) (year : Int) : Int :=
  if !calendar.dst then 0
  else
    let y := year - daylightSavingFirstYear
    if outside : y < 0 ∨ y ≥ daylightSavingYears then 0
    else calendar.dstOffset ⟨y.toNat, toNat_lt_years outside⟩

/-- `asYMDhms_wd`: the units and the day of the week. -/
def asYMDhms_wd (calendar : RegionalCalendar) (t : UtcTime) : Except SystemException (CalendarUnits × Int) := do
  let units ← calendar.asYMDhms_tick t
  return (units, ← calendar.weekDay t)

end RegionalCalendar

def year2 (year : Int) : Int := if year ≥ 1000 then year - year.tdiv 100 * 100 else year

def createPaddedString (formatBuffer : CodeUnits) (number : Int) : Except SystemException CodeUnits :=
  match parseInt32 formatBuffer with
  | .ok padding =>
      if padding < 0 then throw .argumentOutOfRange else pure (padLeft padding.toNat zero (int32Text number))
  | .error _ => pure (int32Text number)

def createSubstring (formatBuffer s : CodeUnits) : Except SystemException CodeUnits :=
  if formatBuffer.length > 1 ∧ formatBuffer.head? = some point then
    match parseInt32 formatBuffer.tail with
    | .ok stringLength =>
        if s.length > stringLength then
          if stringLength < 0 then throw .argumentOutOfRange else pure (s.take stringLength.toNat)
        else pure s
    | .error _ => pure s
  else pure s

namespace WeekCalendar

variable (calendar : WeekCalendar) (culture : FormatCulture) (t : UtcTime)

def powelFields : Except SystemException PowelFields := do
  let (units, weekday) ← calendar.asYMDhms_wd t
  let (yearW, weekno) ← calendar.asYW calendar.weekRule t
  let weekday := if weekday = 0 ∧ calendar.firstDayOfWeek = 1 then 7 else weekday
  return { units.date with
    hour := units.hour, minute := units.minute, second := units.second, yearW, weekno, weekday }

/-- The text of `TotalHours`, which has a sign of its own. -/
def totalHours (span : Int) : CodeUnits :=
  if span < 0 then minus :: culture.hours span.natAbs else culture.hours span.natAbs

def renderField (fields : PowelFields) (letter : FieldLetter) (formatBuffer : CodeUnits) :
    Except SystemException CodeUnits :=
  match letter with
  | .Y => createPaddedString formatBuffer
      (if formatBuffer.getLast? = some (char 50) then year2 fields.year else fields.year)
  | .y => createPaddedString formatBuffer
      (if formatBuffer.getLast? = some (char 50) then year2 fields.yearW else fields.yearW)
  | .M => createPaddedString formatBuffer fields.month
  | .W => createPaddedString formatBuffer fields.weekno
  | .D => createPaddedString formatBuffer fields.day
  | .w => createPaddedString formatBuffer fields.weekday
  | .h => createPaddedString formatBuffer fields.hour
  | .H => createPaddedString formatBuffer (fields.hour + 1)
  | .m => createPaddedString formatBuffer fields.minute
  | .s => createPaddedString formatBuffer fields.second
  | .x => do return culture.shortDate (← calendar.toDateTime t)
  | .X => do return culture.longTime (← calendar.toDateTime t)
  | .z => pure (
      if calendar.dstAt t = calendar.dstOffsetOfYear fields.year then calendar.alternateName else calendar.name)
  | .Z => pure (
      if calendar.utcOffset = 0 then []
      else (if calendar.utcOffset > 0 then plus else minus) :: totalHours culture calendar.utcOffset)

def renderName (fields : PowelFields) (letter : NameLetter) (formatBuffer : CodeUnits) :
    Except SystemException CodeUnits :=
  match letter with
  | .M =>
      let month := fields.month - 1
      if inside : 0 ≤ month ∧ month < 13 then createSubstring formatBuffer (culture.monthNames ⟨month.toNat, by omega⟩)
      else throw .indexOutOfRange
  | .w =>
      let weekday := fields.weekday.tmod 7
      if inside : 0 ≤ weekday ∧ weekday < 7 then
        createSubstring formatBuffer (culture.dayNames ⟨weekday.toNat, by omega⟩)
      else throw .indexOutOfRange

def renderSpecifier (fields : PowelFields) (kind : SpecifierKind) (c : UInt16) (formatBuffer : CodeUnits) :
    Option (Except SystemException CodeUnits) :=
  match kind with
  | .field => (fieldLetter c).map fun letter => calendar.renderField culture t fields letter formatBuffer
  | .name => (nameLetter c).map fun letter => renderName culture fields letter formatBuffer

mutual

def formatText (fields : PowelFields) : CodeUnits → Except SystemException CodeUnits
  | [] => pure []
  | c :: rest =>
      if c = percent then formatSpecifier fields .field [] rest
      else if c = dollar ∨ c = numberSign then formatSpecifier fields .name [] rest
      else do return c :: (← formatText fields rest)

/-- The loop inside a specifier. One that no letter ends leaves its buffer. -/
def formatSpecifier (fields : PowelFields) (kind : SpecifierKind) (formatBuffer : CodeUnits) :
    CodeUnits → Except SystemException CodeUnits
  | [] => pure formatBuffer
  | c :: rest =>
      match calendar.renderSpecifier culture t fields kind c formatBuffer with
      | some rendered => do return (← rendered) ++ (← formatText fields rest)
      | none => formatSpecifier fields kind (formatBuffer ++ [c]) rest

end

/-- `ToString` with a Powel format. -/
def toPowelString (format : CodeUnits) : Except SystemException CodeUnits :=
  if format = [] then pure []
  else if t = UtcTime.null then pure []
  else if t = UtcTime.maxValue then pure [plus, infinity]
  else if t = UtcTime.minValue then pure [minus, infinity]
  else do calendar.formatText culture t (← calendar.powelFields t) format

end WeekCalendar

end ServiceHost
