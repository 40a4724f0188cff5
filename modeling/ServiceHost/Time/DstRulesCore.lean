import Mathlib.Logic.Function.Basic
import ServiceHost.Time.RegionalCalendarTrimCore

/-!
The daylight rules of `RegionalCalendar`: a rule for one year, and a range of years that
share one pair of days, which are days of the month or Sundays counted in it.
-/

namespace ServiceHost

/-- When daylight saving starts or ends: a day of the month, or minus the number of the
Sunday in it, where the fifth stands for the last; and the span into that day. -/
structure RuleTime where
  month : Int
  day : Int
  sec : Int
deriving DecidableEq, Repr

structure SundaySearch where
  mday : Int
  nth_daycount : Int
  last_sunday : Int
  found : Bool
deriving DecidableEq, Repr

namespace RegionalCalendar

def weekDay (calendar : RegionalCalendar) (t : UtcTime) : Except SystemException Int := do
  let t ← UtcTime.add t (← calendar.diffUtc t)
  return (7 + Utc.weekDayStartNumber + (t.ticks.tmod Utc.week).tdiv Utc.day).tmod 7

def dstYearIndex (calendar : RegionalCalendar) (t : UtcTime) : Option (Fin daylightSavingYears) :=
  if !calendar.dst then none
  else
    let y := Julian.j2Y (Julian.ticks2j t.ticks) - daylightSavingFirstYear
    if outside : y < 0 ∨ y ≥ daylightSavingYears then none
    else some ⟨y.toNat, toNat_lt_years outside⟩

def setDaylight (calendar : RegionalCalendar) (y : Fin daylightSavingYears) (dstStart dstEnd : UtcTime)
    (dstOffsetA : Int) : RegionalCalendar :=
  { calendar with
    daylightStart := Function.update calendar.daylightStart y dstStart
    daylightEnd := Function.update calendar.daylightEnd y dstEnd
    dstOffset := Function.update calendar.dstOffset y dstOffsetA }

/-- `addDSTRule` for the year in which the daylight period starts. The calendar observes
daylight saving from then on, also when the year is not in the table. -/
def addDSTRule (calendar : RegionalCalendar) (dstStart dstEnd : UtcTime) (dstOffsetA : Int) :
    Bool × RegionalCalendar :=
  let calendar := { calendar with dst := true }
  match calendar.dstYearIndex dstStart with
  | none => (false, calendar)
  | some y => (true, calendar.setDaylight y dstStart dstEnd dstOffsetA)

def searchSunday (utc : RegionalCalendar) (ts_nextm : UtcTime) (day : Int) :
    Nat → UtcTime → SundaySearch → Except SystemException SundaySearch
  | 0, _, search => pure search
  | fuel + 1, ts, search => do
      if ← UtcTime.less ts ts_nextm then
        let sunday := (← utc.weekDay ts) = 0
        let search :=
          if sunday then { search with nth_daycount := search.nth_daycount + 1, last_sunday := search.mday }
          else search
        if sunday ∧ search.nth_daycount = -day then return { search with found := true }
        else
          searchSunday utc ts_nextm day fuel (← UtcTime.add ts Utc.day) { search with mday := search.mday + 1 }
      else return search

/-- The day of the month that a rule means, none when there is no such Sunday. -/
def dayOfRule (year month day : Int) : Except SystemException (Option Int) :=
  if day < 1 then do
    let ts ← utcCalendar.toUtcTime ⟨⟨year, month, 1⟩, 0, 0, 0, 0⟩
    let ts_nextm ← utcCalendar.add ts Utc.month 1
    let search ← searchSunday utcCalendar ts_nextm day 32 ts ⟨1, 0, 0, false⟩
    if day = -5 then return some search.last_sunday
    else if !search.found then return none
    else return some search.mday
  else return some day

def timeOfRule (year : Int) (rule : RuleTime) : Except SystemException (Option UtcTime) := do
  match ← dayOfRule year rule.month rule.day with
  | none => return none
  | some mday =>
      let midnight ← utcCalendar.toUtcTime ⟨⟨year, rule.month, mday⟩, 0, 0, 0, 0⟩
      return some (← UtcTime.add midnight rule.sec)

/-- The loop over the years with daylight saving. The years before the one that fails stay
written. -/
def addDSTYears (begins ends : RuleTime) (dstOffsetA : Int) :
    Nat → Int → RegionalCalendar → Except SystemException (Bool × RegionalCalendar)
  | 0, _, calendar => pure (true, calendar)
  | years + 1, yFrom, calendar =>
      let y := yFrom - daylightSavingFirstYear
      if y ≥ 0 ∧ y < daylightSavingYears then do
        match ← timeOfRule yFrom begins with
        | none => return (false, calendar)
        | some ts =>
            match ← timeOfRule yFrom ends with
            | none => return (false, calendar)
            | some te =>
                if te ≠ UtcTime.null ∧ ts ≠ UtcTime.null then
                  addDSTYears begins ends dstOffsetA years (yFrom + 1) (calendar.addDSTRule ts te dstOffsetA).2
                else return (false, calendar)
      else return (false, calendar)

def wipeDSTYears : Nat → Int → RegionalCalendar → RegionalCalendar
  | 0, _, calendar => calendar
  | years + 1, yFrom, calendar =>
      let y := yFrom - daylightSavingFirstYear
      if inside : y ≥ 0 ∧ y < daylightSavingYears then
        wipeDSTYears years (yFrom + 1) (calendar.setDaylight ⟨y.toNat, by omega⟩ UtcTime.null UtcTime.null 0)
      else wipeDSTYears years (yFrom + 1) calendar

/-- `addDSTRule` for a range of years, the last one not included. -/
def addDSTRules (calendar : RegionalCalendar) (yFrom yTo : Int) (dstOn : Bool) (begins ends : RuleTime)
    (dstOffsetA : Int) : Except SystemException (Bool × RegionalCalendar) :=
  if !dstOn then pure (true, wipeDSTYears (yTo - yFrom).toNat yFrom calendar)
  else if begins.month < 1 ∨ begins.month > 12 then pure (false, calendar)
  else if ends.month < 1 ∨ ends.month > 12 then pure (false, calendar)
  else if begins.day < -5 ∨ begins.day > 31 then pure (false, calendar)
  else if ends.day < -5 ∨ ends.day > 31 then pure (false, calendar)
  else addDSTYears begins ends dstOffsetA (yTo - yFrom).toNat yFrom calendar

end RegionalCalendar

end ServiceHost
