import ServiceHost.Time.RegionalCalendarCore

/-!
`RegionalCalendar.diffUnits`: how many steps of the calendar lie between two times, and
what is left. The count is estimated by the nominal length of the step.
-/

namespace ServiceHost

/-- `UtcTime - UtcTime`. -/
def UtcTime.difference (lhs rhs : UtcTime) : Except SystemException Int :=
  if lhs.ticks = Utc.null ∨ rhs.ticks = Utc.null then throw (.argumentNull UtcTime.oneOfOperandsIsNull)
  else pure (long (lhs.ticks - rhs.ticks))

namespace RegionalCalendar

def nominalUnits (step span : Int) : Int :=
  let nUnits := span.tdiv step
  if step = Utc.month then nUnits - nUnits.tdiv 73 else nUnits

def diffUnits (calendar : RegionalCalendar) (tfrom tto : UtcTime) (step : Int) :
    Except SystemException (Int × Int) :=
  if step = 0 then pure (0, 0)
  else
    let nUnits := nominalUnits step (long (tto.ticks - tfrom.ticks))
    if step = Utc.month ∨ step = Utc.week ∨ step = Utc.year ∨ step = Utc.day then do
      let calcTto ← calendar.add tfrom step nUnits
      if ← UtcTime.greater calcTto tto then
        let nUnits := nUnits - 1
        return (nUnits, ← UtcTime.difference tto (← calendar.add tfrom step nUnits))
      else if ← UtcTime.less calcTto tto then
        let nUnits := nUnits + 1
        let calcTtoX ← calendar.add tfrom step nUnits
        if ← UtcTime.greater calcTtoX tto then
          return (nUnits - 1, ← UtcTime.difference tto calcTto)
        else return (nUnits, ← UtcTime.difference tto calcTtoX)
      else return (nUnits, 0)
    else return (nUnits, ← UtcTime.difference tto (← UtcTime.add tfrom (long (nUnits * step))))

end RegionalCalendar

end ServiceHost
