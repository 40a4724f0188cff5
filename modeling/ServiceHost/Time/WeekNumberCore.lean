import ServiceHost.Time.RegionalCalendarTrimCore

/-!
`RegionalCalendar.GetWeekNumber` and `ToUtcTimeW`. The first goes through the calendar of
the framework, which counts the days as the time axis does; the weeks of the framework
itself are a parameter, used by the other rules only.
-/

namespace ServiceHost

/-- `DateTime`, by its ticks. -/
structure DateTime where
  ticks : Int
deriving DecidableEq, Repr

namespace DateTime

def minValue : DateTime := ⟨0⟩
def maxValue : DateTime := ⟨3155378975999999999⟩

def ofTicks (ticks : Int) : Except SystemException DateTime :=
  if 0 ≤ ticks ∧ ticks ≤ maxValue.ticks then pure ⟨ticks⟩ else throw .argumentOutOfRange

def ofDate (date : Date) : Except SystemException DateTime :=
  if 1 ≤ date.year ∧ date.year ≤ 9999 then pure ⟨(Julian.YMD2j date - Julian.referenceDay) * Utc.day⟩
  else throw .argumentOutOfRange

def date (dt : DateTime) : Date := Julian.j2YMD (dt.ticks / Utc.day + Julian.referenceDay)

def dayOfWeek (dt : DateTime) : Int := (dt.ticks / Utc.day + 1) % 7

def addDays (dt : DateTime) (days : Int) : Except SystemException DateTime := ofTicks (dt.ticks + days * Utc.day)

end DateTime

namespace RegionalCalendar

def toDateTime (calendar : RegionalCalendar) (t : UtcTime) : Except SystemException DateTime :=
  if t = UtcTime.minValue then pure DateTime.minValue
  else if t = UtcTime.maxValue then pure DateTime.maxValue
  else do DateTime.ofTicks (t.ticks + (← calendar.diffUtc t))

def getIsoWeekOne (year : Int) : Except SystemException DateTime := do
  let dt ← DateTime.ofDate ⟨year, 1, 4⟩
  let dayNumber := if dt.dayOfWeek = 0 then 7 else dt.dayOfWeek
  dt.addDays (1 - dayNumber)

def getIsoWeek (dt : DateTime) : Except SystemException Int := do
  let isoYear := dt.date.year
  let late ← DateTime.ofDate ⟨isoYear, 12, 29⟩
  let (isoYear, week1) ←
    if dt.ticks ≥ late.ticks then do
      let week1 ← getIsoWeekOne (isoYear + 1)
      if dt.ticks < week1.ticks then (isoYear, ·) <$> getIsoWeekOne isoYear
      else pure (isoYear + 1, week1)
    else do
      let week1 ← getIsoWeekOne isoYear
      if dt.ticks < week1.ticks then (isoYear - 1, ·) <$> getIsoWeekOne (isoYear - 1)
      else pure (isoYear, week1)
  return isoYear * 100 + (((dt.ticks - week1.ticks).tdiv Utc.day).tdiv 7 + 1)

/-- The year of the week and its number. `getWeekOfYear` is the one of the framework, for the
rule and the first day of the week of the calendar. -/
def getWeekNumber (calendar : RegionalCalendar) (weekRule : WeekOneRule) (mondayFirst : Bool)
    (getWeekOfYear : DateTime → Int) (t : UtcTime) : Except SystemException (Int × Int) := do
  if weekRule = .first4DayWeek ∧ mondayFirst then
    let isoWeek ← getIsoWeek (← calendar.toDateTime t)
    return (isoWeek.tdiv 100, isoWeek.tmod 100)
  else
    let localTime ← calendar.toDateTime t
    let week := getWeekOfYear localTime
    if week = 1 ∧ localTime.date.month = 12 then return (localTime.date.year + 1, week)
    else if (week = 52 ∨ week = 53) ∧ localTime.date.month = 1 then return (localTime.date.year - 1, week)
    else return (localTime.date.year, week)

/-- The time at a week, a day of the week and a time of day. It is counted from the week of
the first of February, which lies in the year of its week. -/
def toUtcTimeW (calendar : RegionalCalendar) (weekRule : WeekOneRule) (Y W Wd h m s : Int) :
    Except SystemException UtcTime := do
  let t ← calendar.toUtcTime ⟨⟨Y, 2, 1⟩, 0, 0, 0, 0⟩
  let t ← calendar.trimWeek t
  let (_, xW) ← calendar.asYW weekRule t
  let t ← calendar.add t Utc.week (W - xW)
  let t ← calendar.addDays t (if Wd = 0 then 6 else Wd - 1)
  let t ← calendar.addHours t h
  let t ← calendar.addMinutes t m
  calendar.addSeconds t s

end RegionalCalendar

end ServiceHost
