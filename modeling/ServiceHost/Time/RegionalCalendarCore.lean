import ServiceHost.Library.Outcome
import ServiceHost.Time.Julian

/-!
`RegionalCalendar`: a standard offset and a table of daylight periods by year.
Here are the offset at a time, the conversions between times and calendar units,
the database strings, and adding with calendar semantics. The sum of two offsets
is taken in the integers, since an offset is at most some hours.
-/

namespace ServiceHost

def daylightSavingFirstYear : Int := 1900
def daylightSavingYears : Nat := 200

structure RegionalCalendar where
  utcOffset : Int
  dst : Bool
  daylightStart : Fin daylightSavingYears → UtcTime
  daylightEnd : Fin daylightSavingYears → UtcTime
  dstOffset : Fin daylightSavingYears → Int

@[ext] structure CalendarUnits where
  date : Date
  hour : Int
  minute : Int
  second : Int
  fraction : Int
deriving DecidableEq, Repr

abbrev CodeUnits := List UInt16

namespace RegionalCalendar

/-- Coordinated universal time, the calendar that `init` makes. -/
def utcCalendar : RegionalCalendar :=
  ⟨0, false, fun _ => UtcTime.null, fun _ => UtcTime.null, fun _ => 0⟩

def isSummerTimeReversed (calendar : RegionalCalendar) (y : Fin daylightSavingYears) : Bool :=
  if !calendar.dst || (calendar.daylightStart y).ticks = Utc.null ||
      (calendar.daylightEnd y).ticks = Utc.null then false
  else if (calendar.daylightEnd y).ticks > (calendar.daylightStart y).ticks then false
  else true

/-- What is added to the standard offset in a year that has a daylight period. -/
def daylightOffset (calendar : RegionalCalendar) (y : Fin daylightSavingYears) (t : UtcTime) :
    Except SystemException Int := do
  let fromStart ← UtcTime.greaterOrEqual t (calendar.daylightStart y)
  let beforeEnd ← UtcTime.less t (calendar.daylightEnd y)
  let observed := if !calendar.isSummerTimeReversed y then fromStart && beforeEnd else beforeEnd || fromStart
  return if observed then calendar.dstOffset y else 0

theorem toNat_lt_years {y : Int} (inside : ¬(y < 0 ∨ y ≥ daylightSavingYears)) : y.toNat < daylightSavingYears := by
  omega

def diffUtc (calendar : RegionalCalendar) (t : UtcTime) : Except SystemException Int :=
  if !calendar.dst || t.ticks = Utc.null then pure calendar.utcOffset
  else
    let y := Julian.j2Y (Julian.ticks2j t.ticks) - daylightSavingFirstYear
    if outside : y < 0 ∨ y ≥ daylightSavingYears then pure calendar.utcOffset
    else
      let y : Fin daylightSavingYears := ⟨y.toNat, toNat_lt_years outside⟩
      if (calendar.daylightStart y).ticks = Utc.null ∨ (calendar.daylightEnd y).ticks = Utc.null then
        pure calendar.utcOffset
      else do
        return calendar.utcOffset + (← calendar.daylightOffset y t)

def adjustToTz (calendar : RegionalCalendar) (res : UtcTime) : Except SystemException UtcTime :=
  if res ≠ UtcTime.null then do
    let diffUtc1 ← calendar.diffUtc res
    let res2 ← UtcTime.sub res diffUtc1
    if !calendar.dst then pure res2
    else do
      let diffUtc2 ← calendar.diffUtc res2
      if diffUtc1 ≠ diffUtc2 then UtcTime.add res2 (diffUtc1 - diffUtc2) else pure res2
  else pure res

/-- `ToUtcTime` of calendar units with milliseconds. -/
def toUtcTime (calendar : RegionalCalendar) (units : CalendarUnits) : Except SystemException UtcTime :=
  calendar.adjustToTz (.ofTicks (Julian.j2ticks (Julian.YMD2j units.date) + units.hour * Utc.hour +
    units.minute * Utc.minute + units.second * Utc.second + (units.fraction * Utc.second).tdiv 1000))

def asYMDhms_tick (calendar : RegionalCalendar) (t : UtcTime) : Except SystemException CalendarUnits := do
  let tj := long ((← UtcTime.add t (← calendar.diffUtc t)).ticks + Julian.referenceTicks)
  let date := Julian.j2YMD (tj.tdiv Utc.day)
  let rem := tj.tmod Utc.day
  let hour := rem.tdiv Utc.hour
  let rem := rem.tmod Utc.hour
  let minute := rem.tdiv Utc.minute
  let rem := rem.tmod Utc.minute
  let second := rem.tdiv Utc.second
  return { date, hour, minute, second, fraction := rem.tmod Utc.second }

def asYMDhms_ms (calendar : RegionalCalendar) (t : UtcTime) : Except SystemException CalendarUnits := do
  let units ← calendar.asYMDhms_tick t
  return { units with fraction := units.fraction.tdiv Utc.milliSecond }

section DatabaseString

def char (value : Int) : UInt16 := UInt16.ofInt value

def digit (value : Int) : UInt16 := char (48 + (char value).toNat)

def codeUnits (text : String) : CodeUnits := text.toList.map fun c => char c.toNat

def toDatabaseString (calendar : RegionalCalendar) (x : UtcTime) : Except SystemException CodeUnits :=
  if x = UtcTime.null then pure []
  else if x = UtcTime.maxValue then pure (codeUnits "99991231235959000")
  else if x = UtcTime.minValue then pure (codeUnits "00010101000000000")
  else do
    let units ← calendar.asYMDhms_ms x
    let Y := units.date.year
    let M := units.date.month
    let D := units.date.day
    let ms := units.fraction
    return [
      digit (((Y.tdiv 10).tdiv 10).tdiv 10), digit (((Y.tdiv 10).tdiv 10).tmod 10),
      digit ((Y.tdiv 10).tmod 10), digit (Y.tmod 10),
      digit (M.tdiv 10), digit (M.tmod 10), digit (D.tdiv 10), digit (D.tmod 10),
      digit (units.hour.tdiv 10), digit (units.hour.tmod 10),
      digit (units.minute.tdiv 10), digit (units.minute.tmod 10),
      digit (units.second.tdiv 10), digit (units.second.tmod 10),
      char (48 + (ms.tdiv 10).tdiv 10), digit ((ms.tdiv 10).tmod 10), digit (ms.tmod 10)]

/-- The part of `ToUtcTime` that reads the clock reading, from the longest
string down: every field that is missing counts as its least value. -/
def readClock (text : CodeUnits) : Except SystemException UtcTime :=
  let at_ := fun i => ((text[i]?.getD 0).toNat : Int)
  let two := fun i => 10 * at_ i + at_ (i + 1) - 48 * 11
  let l := text.length
  if l > 3 then
    let Y := 1000 * at_ 0 + 100 * at_ 1 + 10 * at_ 2 + at_ 3 - 48 * 1111
    if l > 5 then
      let M := two 4
      if l > 7 then do
        let D := two 6
        let res := UtcTime.ofTicks (Julian.j2ticks (Julian.YMD2j ⟨Y, M, D⟩))
        let res ← if l > 9 then UtcTime.add res (Utc.hour * two 8) else pure res
        let res ← if l > 11 then UtcTime.add res (Utc.minute * two 10) else pure res
        let res ← if l > 13 then UtcTime.add res (Utc.second * two 12) else pure res
        if l > 16 then
          UtcTime.add res (Utc.milliSecond * (100 * at_ 14 + 10 * at_ 15 + at_ 16 - 48 * 111))
        else pure res
      else pure (.ofTicks (Julian.j2ticks (Julian.YMD2j ⟨Y, M, 1⟩)))
    else pure (.ofTicks (Julian.j2ticks (Julian.YMD2j ⟨Y, 1, 1⟩)))
  else pure UtcTime.null

/-- `ToUtcTime` of a database string. No string at all is the null time. -/
def ofDatabaseString (calendar : RegionalCalendar) (databaseString : Option CodeUnits) :
    Except SystemException UtcTime :=
  match databaseString with
  | none => pure UtcTime.null
  | some text =>
      let at_ := fun i => ((text[i]?.getD 0).toNat : Int)
      let Y := 1000 * at_ 0 + 100 * at_ 1 + 10 * at_ 2 + at_ 3 - 48 * 1111
      if text.length > 3 ∧ Y = 9999 then pure UtcTime.maxValue
      else if text.length > 3 ∧ Y = 0 then pure UtcTime.minValue
      else do
        let res ← readClock text
        if res.ticks ≠ Utc.null then calendar.adjustToTz res else pure res

end DatabaseString

section Add

def addToMonth (date : Date) (count : Int) : Date :=
  let mr := date.month + count
  let (y, m) :=
    if mr < 1 then
      let borrowYears := 1 - mr.tdiv 12
      (date.year - borrowYears, mr + 12 * borrowYears)
    else if mr > 12 then (date.year + (mr - 1).tdiv 12, 1 + (mr - 1).tmod 12)
    else (date.year, mr)
  let d :=
    if m = 4 ∨ m = 6 ∨ m = 9 ∨ m = 11 then min date.day 30
    else if m = 2 then
      if y.tmod 4 = 0 then
        min date.day (if y.tmod 100 = 0 ∧ y.tmod 400 ≠ 0 then 28 else 29)
      else min date.day 28
    else date.day
  ⟨y, m, d⟩

def addByDate (calendar : RegionalCalendar) (time : UtcTime) (forward : Bool) (change : Date → Date) :
    Except SystemException UtcTime := do
  let tz1 ← calendar.diffUtc (← UtcTime.sub time (if forward then 0 else Utc.hour))
  let tl ← UtcTime.add time tz1
  let j1 := Julian.ticks2j tl.ticks
  let j2 := Julian.YMD2j (change (Julian.j2YMD j1))
  let res ← UtcTime.add time (long ((j2 - j1) * Utc.day))
  let tz2 ← calendar.diffUtc (← UtcTime.sub res (if forward then Utc.hour else 0))
  UtcTime.add res (tz1 - tz2)

/-- `Add` with the default for `CheckPrev`. -/
def add (calendar : RegionalCalendar) (time : UtcTime) (step : Int) (count : Int) :
    Except SystemException UtcTime :=
  let nXStep := long (count * step)
  if step = Utc.year then
    calendar.addByDate time (nXStep > 0) fun date => { date with year := date.year + count }
  else if step = Utc.month then calendar.addByDate time (nXStep > 0) fun date => addToMonth date count
  else if step = Utc.week ∨ step = Utc.day then do
    let tz1 ← calendar.diffUtc (← UtcTime.sub time (if nXStep > 0 then 0 else Utc.hour))
    let res ← UtcTime.add time nXStep
    let tz2 ← calendar.diffUtc (← UtcTime.sub res (if nXStep > 0 then Utc.hour else 0))
    UtcTime.add res (tz1 - tz2)
  else UtcTime.add time nXStep

def addSeconds (calendar : RegionalCalendar) (time : UtcTime) (count : Int) := calendar.add time Utc.second count
def addMinutes (calendar : RegionalCalendar) (time : UtcTime) (count : Int) := calendar.add time Utc.minute count
def addHours (calendar : RegionalCalendar) (time : UtcTime) (count : Int) := calendar.add time Utc.hour count
def addDays (calendar : RegionalCalendar) (time : UtcTime) (count : Int) := calendar.add time Utc.day count
def addMonths (calendar : RegionalCalendar) (time : UtcTime) (count : Int) := calendar.add time Utc.month count
def addYears (calendar : RegionalCalendar) (time : UtcTime) (count : Int) := calendar.add time Utc.year count

end Add

end RegionalCalendar

structure TimeResolution where
  value : Int
deriving DecidableEq, Repr

namespace TimeResolution

def unconstrained : TimeResolution := ⟨-1⟩
def minute15 : TimeResolution := ⟨23⟩
def hour : TimeResolution := ⟨101⟩
def day : TimeResolution := ⟨111⟩
def week : TimeResolution := ⟨121⟩
def month : TimeResolution := ⟨131⟩
def year : TimeResolution := ⟨141⟩

def step (resolution : TimeResolution) (t : UtcTime) (count : Int) (calendar : RegionalCalendar) :
    Except SystemException UtcTime :=
  if resolution = minute15 then calendar.addMinutes t (15 * count)
  else if resolution = hour then calendar.addHours t count
  else if resolution = day then calendar.addDays t count
  else if resolution = week then calendar.addDays t (7 * count)
  else if resolution = month then calendar.addMonths t count
  else if resolution = year then calendar.addYears t count
  else throw (.invalidOperation "This particular time resolution does not support stepping.")

end TimeResolution

end ServiceHost
