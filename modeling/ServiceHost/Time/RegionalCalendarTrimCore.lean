import ServiceHost.Time.RegionalCalendarCore

/-!
`RegionalCalendar`: trimming a time to the start of its day, week, month or year,
and the week that a time lies in. The rule for week one is a property of the
calendar that nothing else here looks at, so it is given beside the calendar.
-/

namespace ServiceHost

/-- `firstJanWeek`: week one is the week of the first of January. `firstFullWeek`: the first full week
in the year. `first4DayWeek`: the first week with four or more days in the new year. -/
inductive WeekOneRule
  | firstJanWeek
  | firstFullWeek
  | first4DayWeek
deriving DecidableEq, Repr

structure WeekUnits where
  Yw : Int
  Wn : Int
  Dw : Int
  hour : Int
  minute : Int
  second : Int
  tick : Int
deriving DecidableEq, Repr

namespace Utc

def weekDayStartNumber : Int := 1

end Utc

namespace RegionalCalendar

def trimYear (calendar : RegionalCalendar) (t : UtcTime) : Except SystemException UtcTime := do
  let t ← UtcTime.add t (← calendar.diffUtc t)
  let y := Julian.j2Y (Julian.ticks2j t.ticks)
  calendar.adjustToTz (.ofTicks (Julian.j2ticks (Julian.Y2j y)))

def trimMonth (calendar : RegionalCalendar) (t : UtcTime) : Except SystemException UtcTime := do
  let t ← UtcTime.add t (← calendar.diffUtc t)
  let date := Julian.j2YMD (Julian.ticks2j t.ticks)
  calendar.adjustToTz (.ofTicks (Julian.j2ticks (Julian.YMD2j { date with day := 1 })))

def trim (calendar : RegionalCalendar) (t : UtcTime) (x : Int) : Except SystemException UtcTime :=
  if x ≤ 0 ∨ x = Utc.null then pure t
  else if x = Utc.year then calendar.trimYear t
  else if x = Utc.month then calendar.trimMonth t
  else do
    let tj := long (Julian.referenceTicks + (← calendar.diffUtc t) + t.ticks)
    let tj := tj.tdiv x * x
    calendar.adjustToTz (.ofTicks (tj - Julian.referenceTicks))

def trimWeek (calendar : RegionalCalendar) (t : UtcTime) : Except SystemException UtcTime :=
  calendar.trim t Utc.week

/-- The number of a week, counted from the start of week one. A day is added against
a change of the offset between them. -/
def weekNumber (tweek tyearw : UtcTime) : Int :=
  1 + (long (Utc.day + tweek.ticks - tyearw.ticks)).tdiv Utc.week

/-- The year and the number of the week that starts at `tweek`, on the given date
of the calendar. -/
def weekOfYear (calendar : RegionalCalendar) (weekRule : WeekOneRule) (tweek : UtcTime) (date : Date) :
    Except SystemException (Int × Int) :=
  match weekRule with
  | .firstJanWeek =>
      if date.month = 12 ∧ date.day ≥ 26 then pure (date.year + 1, 1)
      else if date.month = 1 ∧ date.day = 1 then pure (date.year, 1)
      else do
        let tyearw ← calendar.trimWeek (← calendar.trimYear tweek)
        return (date.year, weekNumber tweek tyearw)
  | .firstFullWeek =>
      if date.month = 1 ∧ date.day ≤ 7 then pure (date.year, 1)
      else do
        let tyearw ← calendar.trimWeek (← calendar.trimYear tweek)
        let yearw := Julian.j2YMD (Julian.ticks2j tyearw.ticks)
        let tyearw ← if yearw.month = 12 then UtcTime.add tyearw Utc.week else pure tyearw
        return (date.year, weekNumber tweek tyearw)
  | .first4DayWeek =>
      if date.month = 12 ∧ date.day ≥ 29 then pure (date.year + 1, 1)
      else if date.month = 1 ∧ date.day = 1 then pure (date.year, 1)
      else do
        let tyearw ← calendar.trimWeek (← calendar.trimYear tweek)
        let local_ ← UtcTime.add tyearw (← calendar.diffUtc tweek)
        let yearw := Julian.j2YMD (Julian.ticks2j local_.ticks)
        let tyearw ← if yearw.month = 12 ∧ yearw.day ≥ 29 ∨ yearw.month = 1 ∧ yearw.day = 1 then pure tyearw
          else UtcTime.add tyearw Utc.week
        return (date.year, weekNumber tweek tyearw)

def asYWDhms_ticks (calendar : RegionalCalendar) (weekRule : WeekOneRule) (t : UtcTime) :
    Except SystemException WeekUnits := do
  let tl ← UtcTime.add t (← calendar.diffUtc t)
  let tj := long (tl.ticks + Julian.referenceTicks)
  let rem := tj.tmod Utc.day
  let hour := rem.tdiv Utc.hour
  let rem := rem.tmod Utc.hour
  let minute := rem.tdiv Utc.minute
  let rem := rem.tmod Utc.minute
  let second := rem.tdiv Utc.second
  let tick := rem.tmod Utc.second
  let Dw := (7 + Utc.weekDayStartNumber + (tl.ticks.tmod Utc.week).tdiv Utc.day).tmod 7
  let tweek ← calendar.trimWeek t
  let date := Julian.j2YMD (Julian.ticks2j (long (tweek.ticks + (← calendar.diffUtc t))))
  let (Yw, Wn) ← calendar.weekOfYear weekRule tweek date
  return { Yw, Wn, Dw, hour, minute, second, tick }

def asYW (calendar : RegionalCalendar) (weekRule : WeekOneRule) (t : UtcTime) :
    Except SystemException (Int × Int) := do
  let units ← calendar.asYWDhms_ticks weekRule t
  return (units.Yw, units.Wn)

end RegionalCalendar

end ServiceHost
