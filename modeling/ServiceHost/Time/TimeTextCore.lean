import ServiceHost.Time.ConfiguredCalendarCore
import ServiceHost.Time.RegionalCalendarTrimCore

/-!
`Txt2UtcTime` of a calendar: the start of the period that a keyword names, and behind the
keyword terms that are added to it. A text without a keyword is a date, and how that one is
read makes no difference to a keyword.
-/

namespace ServiceHost

namespace Text

def numberSign : UInt16 := 35
def colon : UInt16 := 58

def isAsciiWord (c : UInt16) : Bool :=
  48 ≤ c.toNat ∧ c.toNat < 58 ∨ 65 ≤ c.toNat ∧ c.toNat < 91 ∨ c = underscore ∨ 97 ≤ c.toNat ∧ c.toNat < 123

def asciiUpper (c : UInt16) : UInt16 := if 97 ≤ c.toNat ∧ c.toNat < 123 then c - 32 else c

end Text

open Text

/-- The classes of characters and the upper case of the culture. The letter i has an upper case of its own
in some cultures. -/
structure MacroClasses extends CharacterClasses where
  isWord : UInt16 → Bool
  toUpper : UInt16 → UInt16
  word : ∀ c, c.toNat < 128 → isWord c = isAsciiWord c
  upper : ∀ c, c.toNat < 128 → c.toNat ≠ 105 → toUpper c = asciiUpper c

namespace RegionalCalendar

def timeSpanDict : List (CodeUnits × Int) := [
  (codeUnits "YEAR", Utc.year),
  (codeUnits "ÅR", Utc.year),
  (codeUnits "MONTH", Utc.month),
  (codeUnits "MÅNED", Utc.month),
  (codeUnits "MÅNAD", Utc.month),
  (codeUnits "MND", Utc.month),
  (codeUnits "DAY", Utc.day),
  (codeUnits "TODAY", Utc.day),
  (codeUnits "DAG", Utc.day),
  (codeUnits "IDAG", Utc.day),
  (codeUnits "DØGN", Utc.day),
  (codeUnits "DYGN", Utc.day),
  (codeUnits "WEEK", Utc.week),
  (codeUnits "UKE", Utc.week),
  (codeUnits "VECKA", Utc.week),
  (codeUnits "VEKE", Utc.week),
  (codeUnits "UGE", Utc.week),
  (codeUnits "HOUR", Utc.hour),
  (codeUnits "TIME", Utc.hour),
  (codeUnits "TIMME", Utc.hour),
  (codeUnits "MINUTE", Utc.minute),
  (codeUnits "MINUTT", Utc.minute),
  (codeUnits "MINUT", Utc.minute),
  (codeUnits "MIN15", Utc.minute * 15),
  (codeUnits "M15", Utc.minute * 15),
  (codeUnits "QUARTER", Utc.minute * 15),
  (codeUnits "KVARTER", Utc.minute * 15),
  (codeUnits "SECOND", Utc.second),
  (codeUnits "SEKUND", Utc.second),
  (codeUnits "NOW", Utc.second),
  (codeUnits "NÅ", Utc.second),
  (codeUnits "NUH", Utc.second),
  (codeUnits "NU", Utc.second)]

def hydYear : CodeUnits := codeUnits "HYDYEAR"

def startsWithIgnoreCase (txt value : CodeUnits) : Bool := (txt.take value.length).map asciiUpper = value

def isDelimiter (c : UInt16) : Bool := c = space ∨ isSign c ∨ c = colon

/-- `new TimeSpan(hours, minutes, seconds)`. -/
def timeSpan (hours minutes seconds : Int) : Except SystemException Int :=
  let totalSeconds := hours * 3600 + minutes * 60 + seconds
  if totalSeconds < -922337203685 ∨ 922337203685 < totalSeconds then throw .argumentOutOfRange
  else pure (totalSeconds * Utc.second)

/-- `Int32.TryParse`, with nothing for what is no number. -/
def tryParseInt32 (text : CodeUnits) : Int :=
  match parseInt32 text with
  | .ok value => value
  | .error _ => 0

def unitStep (letter : UInt16) : Int :=
  if letter ∈ codeUnits "YyÅå" then Utc.year
  else if letter ∈ codeUnits "Mm" then Utc.month
  else if letter ∈ codeUnits "Dd" then Utc.day
  else if letter ∈ codeUnits "WwVvUu" then Utc.week
  else if letter ∈ codeUnits "Xx" then Utc.minute
  else Utc.hour

section Macros

variable (classes : MacroClasses) (calendar : RegionalCalendar)

def interpretTimeSpanText (txt : CodeUnits) : Int :=
  (timeSpanDict.lookup ((txt.takeWhile fun c => !isDelimiter c).map classes.toUpper)).getD 0

/-- The first match of a number with a unit, which may be missing. -/
def matchAmount (x : CodeUnits) : Option (CodeUnits × Option UInt16) :=
  match x.dropWhile fun c => !classes.isDigit c with
  | [] => none
  | found => some (found.takeWhile classes.isDigit, (found.dropWhile classes.isDigit).head?.filter classes.isWord)

def addTerm (dTrim sign : Int) (x : CodeUnits) (t : UtcTime) : Except SystemException UtcTime :=
  match (x.splitOn colon).map tryParseInt32 with
  | [hours, minutes, seconds] => do UtcTime.add t (← timeSpan hours minutes seconds)
  | [hours, minutes] => do UtcTime.add t (← timeSpan hours minutes 0)
  | _ =>
      match matchAmount classes x with
      | none => pure t
      | some (num, none) => do calendar.add t dTrim (sign * (← parseInt32 num))
      | some (num, some letter) => do calendar.add t (unitStep letter) (sign * (← parseInt32 num))

def addTerms (dTrim : Int) : CodeUnits → UtcTime → Except SystemException UtcTime
  | [], t => pure t
  | c :: s, t =>
      if isSign c then do
        let t ← addTerm classes calendar dTrim (if c = plus then 1 else -1) (s.takeWhile fun c => !isSign c) t
        addTerms dTrim s t
      else addTerms dTrim s t

def hydYearStart (t : UtcTime) : Except SystemException UtcTime := do
  let tref ← calendar.addMonths t 4
  let tref ← calendar.trimYear tref
  calendar.addMonths tref (-4)

variable (now : UtcTime) (datetoken : CodeUnits → Except SystemException UtcTime)

def txt2UtcTime (txt : CodeUnits) (tNowRef : UtcTime) : Except SystemException UtcTime := do
  let t := if tNowRef = UtcTime.null then now else tNowRef
  let withoutSpaces (txt : CodeUnits) := txt.filter fun c => c ≠ space
  if startsWithIgnoreCase txt hydYear then
    addTerms classes calendar 0 (withoutSpaces txt) (← calendar.hydYearStart t)
  else
    let dTrim := interpretTimeSpanText classes txt
    if dTrim = 0 then
      let txt ← if tNowRef ≠ UtcTime.null ∧ numberSign ∉ txt then do
          pure (txt ++ numberSign :: (← calendar.toDatabaseString tNowRef))
        else pure txt
      let reference := txt.takeWhile fun c => !isSign c
      if reference ≠ txt ∧ 8 ≤ reference.length then do
        let t ← datetoken reference
        if t ≠ UtcTime.null then
          addTerms classes calendar dTrim (withoutSpaces txt) (← calendar.trim t dTrim)
        else datetoken txt
      else datetoken txt
    else addTerms classes calendar dTrim (withoutSpaces txt) (← calendar.trim t dTrim)

end Macros

end RegionalCalendar

end ServiceHost
