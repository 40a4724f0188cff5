import ServiceHost.Time.DecimalText
import ServiceHost.Time.TimeTextCore
import ServiceHost.Time.WeekNumberCore

/-!
Times as the text of XML formats: `UtcTime.ToXmlDateTime` and `RegionalCalendar.ToString`
write it, and `XmlUtil.ParseDate` reads it with sixteen exact formats. The formats are read
as the framework does under a Gregorian calendar.
-/

namespace ServiceHost

open Text RegionalCalendar

namespace Text

def backslash : UInt16 := 92
def letterT : UInt16 := 84
def letterZ : UInt16 := 90

end Text

namespace DateTime

def hour (dt : DateTime) : Int := dt.ticks % Utc.day / Utc.hour
def minute (dt : DateTime) : Int := dt.ticks % Utc.hour / Utc.minute
def second (dt : DateTime) : Int := dt.ticks % Utc.minute / Utc.second

end DateTime

def xmlLayout (year month day hour minute second fraction : CodeUnits) : CodeUnits :=
  year ++ minus :: (month ++ minus :: (day ++ letterT :: (hour ++ colon :: (minute ++ colon :: (second ++
    point :: (fraction ++ codeUnits "+00:00"))))))

namespace UtcTime

def toDateTime (t : UtcTime) : Except SystemException DateTime :=
  if t = null then pure DateTime.minValue
  else if t = minValue then pure DateTime.minValue
  else if t = maxValue then pure DateTime.maxValue
  else DateTime.ofTicks t.ticks

def toXmlDateTime (t : UtcTime) : Except SystemException (Option CodeUnits) :=
  if t = null then pure none
  else do
    let dt ← t.toDateTime
    return some (xmlLayout (zeroPadded 4 dt.date.year) (zeroPadded 2 dt.date.month) (zeroPadded 2 dt.date.day)
      (zeroPadded 2 dt.hour) (zeroPadded 2 dt.minute) (zeroPadded 2 dt.second)
      (zeroPadded 7 (dt.ticks.tmod 10000000)))

end UtcTime

namespace RegionalCalendar

def alignedField (width : Nat) (value : Int) : CodeUnits := padLeft width space (zeroPadded width value)

/-- `ToString` without a format. -/
protected def toString (calendar : RegionalCalendar) (t : UtcTime) : Except SystemException CodeUnits :=
  if t = UtcTime.null then pure (codeUnits "Null")
  else do
    let units ← calendar.asYMDhms_tick t
    return xmlLayout (alignedField 4 units.date.year) (alignedField 2 units.date.month)
      (alignedField 2 units.date.day) (alignedField 2 units.hour) (alignedField 2 units.minute)
      (alignedField 2 units.second) (alignedField 7 units.fraction)

end RegionalCalendar

structure DateTimeResult where
  year : Nat := 0
  month : Nat := 0
  day : Nat := 0
  hour : Nat := 0
  minute : Nat := 0
  second : Nat := 0
  fraction : Nat := 0
  timeZoneOffset : Int := 0
deriving DecidableEq, Repr

/-- A run of one letter that stands for a part of the time, or a character that stands for itself. -/
inductive FormatItem
  | specifier (letter : UInt16) (count : Nat)
  | literal (c : UInt16)
deriving DecidableEq, Repr

namespace XmlUtil

def specifiers : CodeUnits := codeUnits "yMdHmsfzZ"

def joinItem (c : UInt16) : List FormatItem → List FormatItem
  | .specifier letter count :: items =>
      if letter = c then .specifier c (count + 1) :: items
      else .specifier c 1 :: .specifier letter count :: items
  | items => .specifier c 1 :: items

def formatItems : CodeUnits → List FormatItem
  | [] => []
  | [c] => if c ∈ specifiers then joinItem c [] else [.literal c]
  | c :: next :: rest =>
      if c = backslash then .literal next :: formatItems rest
      else if c ∈ specifiers then joinItem c (formatItems (next :: rest))
      else .literal c :: formatItems (next :: rest)

def parseDigits (count : Nat) (text : CodeUnits) : Option (Nat × CodeUnits) :=
  if count ≤ text.length ∧ (text.take count).all isAsciiDigit then some (numeral (text.take count), text.drop count)
  else none

def parseHour (text : CodeUnits) : Option (Nat × CodeUnits) :=
  match parseDigits 2 text with
  | some found => some found
  | none => parseDigits 1 text

def parseTimeZoneOffset : CodeUnits → Option (Int × CodeUnits)
  | [] => none
  | sign :: text =>
      if ¬isSign sign then none
      else do
        let (hours, text) ← parseHour text
        let (minutes, text) ← parseDigits 2 (if text.head? = some colon then text.tail else text)
        if minutes < 60 then
          let span := hours * Utc.hour + minutes * Utc.minute
          some (if sign = minus then -span else span, text)
        else none

def getTimeZoneName (text : CodeUnits) : Option CodeUnits :=
  if (text.take 3).map asciiUpper = codeUnits "GMT" then some (text.drop 3)
  else if (text.take 1).map asciiUpper = codeUnits "Z" then some (text.drop 1)
  else none

def setField (letter : UInt16) (count value : Nat) (result : DateTimeResult) : DateTimeResult :=
  if [letter] = codeUnits "y" then { result with year := value }
  else if [letter] = codeUnits "M" then { result with month := value }
  else if [letter] = codeUnits "d" then { result with day := value }
  else if [letter] = codeUnits "H" then { result with hour := value }
  else if [letter] = codeUnits "m" then { result with minute := value }
  else if [letter] = codeUnits "s" then { result with second := value }
  else { result with fraction := value * 10 ^ (7 - count) }

def readItem (item : FormatItem) (text : CodeUnits) (result : DateTimeResult) : Option (DateTimeResult × CodeUnits) :=
  match item with
  | .literal c => if text.head? = some c then some (result, text.tail) else none
  | .specifier letter count =>
      if [letter] = codeUnits "z" then do
        let (timeZoneOffset, rest) ← parseTimeZoneOffset text
        some ({ result with timeZoneOffset }, rest)
      else if [letter] = codeUnits "Z" then do
        let rest ← getTimeZoneName text
        some ({ result with timeZoneOffset := 0 }, rest)
      else do
        let (value, rest) ← parseDigits count text
        some (setField letter count value result, rest)

def readItems : List FormatItem → CodeUnits → DateTimeResult → Option DateTimeResult
  | [], text, result => if text = [] then some result else none
  | item :: items, text, result => do
      let (result, rest) ← readItem item text result
      readItems items rest result

/-- The universal time of what has been read. An offset that leads before the first day
comes back a day later. -/
def universal (result : DateTimeResult) : Option DateTime :=
  if 1 ≤ result.year ∧ result.year ≤ 9999 ∧ 1 ≤ result.month ∧ result.month ≤ 12 ∧ 1 ≤ result.day ∧
      result.day ≤ daysInMonth result.year result.month ∧ result.hour < 24 ∧ result.minute < 60 ∧
      result.second < 60 ∧ result.timeZoneOffset.natAbs ≤ 14 * Utc.hour then
    let date : Date := ⟨result.year, result.month, result.day⟩
    let ticks := (Julian.YMD2j date - Julian.referenceDay) * Utc.day + result.hour * Utc.hour +
      result.minute * Utc.minute + result.second * Utc.second + result.fraction - result.timeZoneOffset
    let ticks := if ticks < 0 then ticks + Utc.day else ticks
    if 0 ≤ ticks ∧ ticks ≤ DateTime.maxValue.ticks then some ⟨ticks⟩ else none
  else none

def xmlDateTimeFormats : List CodeUnits := [
  codeUnits "yyyy-MM-ddTHH\\:mm\\:ss.fffffffzzz",
  codeUnits "yyyy-MM-ddTHH\\:mm\\:ss.fffffffZ",
  codeUnits "yyyy-MM-ddTHH\\:mm\\:ss.ffffffzzz",
  codeUnits "yyyy-MM-ddTHH\\:mm\\:ss.ffffffZ",
  codeUnits "yyyy-MM-ddTHH\\:mm\\:ss.fffffzzz",
  codeUnits "yyyy-MM-ddTHH\\:mm\\:ss.fffffZ",
  codeUnits "yyyy-MM-ddTHH\\:mm\\:ss.ffffzzz",
  codeUnits "yyyy-MM-ddTHH\\:mm\\:ss.ffffZ",
  codeUnits "yyyy-MM-ddTHH\\:mm\\:ss.fffzzz",
  codeUnits "yyyy-MM-ddTHH\\:mm\\:ss.fffZ",
  codeUnits "yyyy-MM-ddTHH\\:mm\\:ss.ffzzz",
  codeUnits "yyyy-MM-ddTHH\\:mm\\:ss.ffZ",
  codeUnits "yyyy-MM-ddTHH\\:mm\\:ss.fzzz",
  codeUnits "yyyy-MM-ddTHH\\:mm\\:ss.fZ",
  codeUnits "yyyy-MM-ddTHH\\:mm\\:sszzz",
  codeUnits "yyyy-MM-ddTHH\\:mm\\:ssZ"]

/-- `DateTime.ParseExact` with `AdjustToUniversal`: the first of the formats that the text has. -/
def parseExact (formats : List CodeUnits) (text : CodeUnits) : Except SystemException DateTime :=
  match formats.findSome? fun format => readItems (formatItems format) text {} >>= universal with
  | some dt => pure dt
  | none => throw .format

/-- `RegionalCalendar.ToUtcTime` of a universal time. -/
def universalToUtcTime (dt : DateTime) : UtcTime :=
  if dt = DateTime.minValue then UtcTime.minValue
  else if dt = DateTime.maxValue then UtcTime.maxValue
  else .ofTicks dt.ticks

def parseDate (s : Option CodeUnits) : Except SystemException UtcTime :=
  match s with
  | none => throw (.argumentNull "s")
  | some text => do
      let dt ← parseExact xmlDateTimeFormats text
      if dt = DateTime.minValue then return UtcTime.minValue
      else if dt = DateTime.maxValue then return UtcTime.maxValue
      else return universalToUtcTime dt

end XmlUtil

end ServiceHost
