import ServiceHost.Library.SortedEntries
import ServiceHost.Time.RegionalCalendarCore

/-!
`TimeSeriesAge`: which stretch of a time series was written by a message of
which age. The sorted list of segments is rewritten in place by the trimming
loops below, which keep their two list positions as the code does. `Debug.Assert`
is absent, as it is from the release build.
-/

namespace ServiceHost

open Library

structure TimeSeriesInfo where
  filename : List Char
  tscode : List Char
deriving DecidableEq

namespace TimeSeriesInfo

def withLeadingSlash (name : List Char) : List Char :=
  if name.head? = some '/' then name else '/' :: name

def removeDoubleSlashes : List Char → List Char
  | [] => []
  | c :: rest =>
      let rest := removeDoubleSlashes rest
      if c = '/' ∧ rest.head? = some '/' then rest else c :: rest

def fullName (info : TimeSeriesInfo) : String :=
  String.ofList (removeDoubleSlashes (withLeadingSlash info.filename ++ '/' :: info.tscode))

def ofFullName (value : String) : TimeSeriesInfo :=
  let value := removeDoubleSlashes (withLeadingSlash value.toList)
  let tscode := (value.reverse.takeWhile fun c => c ≠ '/').reverse
  { filename := value.take (value.length - tscode.length - 1), tscode }

end TimeSeriesInfo

structure AgeSegment where
  period : TimePeriod
  age : UtcTime
  fromAligned : period.fromTime.Aligned
  untilAligned : period.untilTime.Aligned
  ageAligned : age.Aligned
deriving DecidableEq

namespace AgeSegment

@[ext] theorem ext {a b : AgeSegment} (period : a.period = b.period) (age : a.age = b.age) : a = b := by
  cases a
  cases b
  simp_all

def create (period : TimePeriod) (age : UtcTime) : AgeSegment where
  period := period.trim
  age := age.trimToMillisecondAccuracy
  fromAligned := UtcTime.trim_aligned _
  untilAligned := UtcTime.trim_aligned _
  ageAligned := UtcTime.trim_aligned _

/-- The first of two neighbours with the period set to run to the end of the second. -/
def extendTo (segment1 segment2 : AgeSegment) : AgeSegment where
  period := ⟨segment1.period.fromTime, segment2.period.untilTime⟩
  age := segment1.age
  fromAligned := segment1.fromAligned
  untilAligned := segment2.untilAligned
  ageAligned := segment1.ageAligned

end AgeSegment

/-- `SortedList` with the segments keyed by their start. -/
abbrev SortedList := SortedEntries UtcTime AgeSegment

namespace SortedList

def add (list : SortedList) (key : UtcTime) (segment : AgeSegment) : Except SystemException SortedList :=
  if list.contains key then throw (.argument "Item has already been added.")
  else pure (list.set key segment)

def getByIndex (list : SortedList) (index : Int) : Except SystemException AgeSegment :=
  if 0 ≤ index then
    match list.values[index.toNat]? with
    | some segment => pure segment
    | none => throw .argumentOutOfRange
  else throw .argumentOutOfRange

def removeAt (list : SortedList) (index : Int) : Except SystemException SortedList :=
  if 0 ≤ index ∧ index < list.count then pure (SortedEntries.removeAt list index.toNat)
  else throw .argumentOutOfRange

end SortedList

def AgeSegment.trimOverlapWith (segment : AgeSegment) (period : TimePeriod) :
    Except SystemException (List AgeSegment) :=
  let period := period.trim
  if !segment.period.intersects period then pure [segment]
  else do
    let newSegments ←
      if ← UtcTime.less segment.period.fromTime period.fromTime then
        SortedList.add SortedEntries.empty segment.period.fromTime
          (.create ⟨segment.period.fromTime, period.fromTime⟩ segment.age)
      else pure SortedEntries.empty
    let newSegments ←
      if ← UtcTime.greater segment.period.untilTime period.untilTime then
        SortedList.add newSegments period.untilTime
          (.create ⟨period.untilTime, segment.period.untilTime⟩ segment.age)
      else pure newSegments
    return newSegments.values

structure TimeSeriesAge where
  segments : SortedList
  /-- The full name in `timeSeriesInfo`; none while that reference is not set. -/
  timeSeriesName : Option String
deriving DecidableEq

/-- The variables of the trimming loop: the list it rewrites, the loop index
(which steps back to -1 when the first segment disappears), and the index into
the segments to compare with. -/
structure TrimState where
  segmentsToTrim : SortedList
  i : Int
  segmentsToCompareWithIndex : Nat

namespace TimeSeriesAge

def empty : TimeSeriesAge := ⟨SortedEntries.empty, none⟩

def ofName (timeSeriesName : String) : TimeSeriesAge :=
  ⟨SortedEntries.empty, some (TimeSeriesInfo.ofFullName timeSeriesName).fullName⟩

def getAge (age : TimeSeriesAge) (timeSeriesPoint : UtcTime) : UtcTime :=
  let timeSeriesPoint := timeSeriesPoint.trimToMillisecondAccuracy
  match age.segments.values.find? fun segment => segment.period.intersectsTime timeSeriesPoint with
  | some segment => segment.age
  | none => UtcTime.null

def isOlder (age : TimeSeriesAge) (timeSeriesPoint sourceTimeStamp : UtcTime) :
    Except SystemException Bool :=
  let timeSeriesPoint := timeSeriesPoint.trimToMillisecondAccuracy
  let sourceTimeStamp := sourceTimeStamp.trimToMillisecondAccuracy
  let found := age.getAge timeSeriesPoint
  if found = UtcTime.null then pure false else UtcTime.less sourceTimeStamp found

def addSegment (age : TimeSeriesAge) (period : TimePeriod) (ageTime : UtcTime) :
    Except SystemException TimeSeriesAge := do
  return { age with segments := ← SortedList.add age.segments period.fromTime (.create period ageTime) }

structure AgeRow where
  filename : String
  tscode : String
  segmentFrom : CodeUnits
  segmentUntil : CodeUnits
  age : CodeUnits

def addRows (calendar : RegionalCalendar) : List AgeRow → TimeSeriesAge → Except SystemException TimeSeriesAge
  | [], age => pure age
  | row :: rest, age => do
      let info : TimeSeriesInfo := ⟨row.filename.toList, row.tscode.toList⟩
      let fromTime ← calendar.ofDatabaseString (some row.segmentFrom)
      let untilTime ← calendar.ofDatabaseString (some row.segmentUntil)
      let ageTime ← calendar.ofDatabaseString (some row.age)
      let age ← { age with timeSeriesName := some info.fullName }.addSegment ⟨fromTime, untilTime⟩ ageTime
      addRows calendar rest age

def ofRows (calendar : RegionalCalendar) (rows : List AgeRow) : Except SystemException TimeSeriesAge :=
  if rows.isEmpty then throw (.argument "The DataTable is empty.")
  else addRows calendar rows empty

/-- Skip past all segments to compare with that end before the segment to trim. -/
def skipNonOverlapping (segmentsToCompareWith : SortedList) (segmentToTrim : AgeSegment) :
    Nat → Nat → Except SystemException Nat
  | 0, index => pure index
  | fuel + 1, index =>
      if index < segmentsToCompareWith.count then do
        let compareSegment ← SortedList.getByIndex segmentsToCompareWith index
        if ← UtcTime.lessOrEqual compareSegment.period.untilTime segmentToTrim.period.fromTime then
          skipNonOverlapping segmentsToCompareWith segmentToTrim fuel (index + 1)
        else pure index
      else pure index

def shouldTrim (trimWhenSameAge : Bool) (compareSegment segmentToTrim : AgeSegment) :
    Except SystemException Bool :=
  if trimWhenSameAge then UtcTime.greaterOrEqual compareSegment.age segmentToTrim.age
  else UtcTime.greater compareSegment.age segmentToTrim.age

def addTrimmed : List AgeSegment → TrimState → Except SystemException TrimState
  | [], state => pure state
  | trimmedSegment :: rest, state => do
      let segmentsToTrim ←
        SortedList.add state.segmentsToTrim trimmedSegment.period.fromTime trimmedSegment
      addTrimmed rest { state with segmentsToTrim, i := state.i + 1 }

def trimSegment (state : TrimState) (compareSegment segmentToTrim : AgeSegment) :
    Except SystemException TrimState := do
  let segmentsToTrim ← SortedList.removeAt state.segmentsToTrim state.i
  let trimmedSegments ← segmentToTrim.trimOverlapWith compareSegment.period
  addTrimmed trimmedSegments { state with segmentsToTrim, i := state.i - 1 }

/-- Check all overlapping segments. No state comes back when the list to trim
has become empty, which ends the whole method. -/
def trimOverlapping (segmentsToCompareWith : SortedList) (trimWhenSameAge : Bool) :
    Nat → TrimState → AgeSegment → Except SystemException (Option TrimState)
  | 0, state, _ => pure (some state)
  | fuel + 1, state, segmentToTrim =>
      if state.segmentsToCompareWithIndex < segmentsToCompareWith.count then do
        let compareSegment ←
          SortedList.getByIndex segmentsToCompareWith state.segmentsToCompareWithIndex
        if ← UtcTime.less compareSegment.period.fromTime segmentToTrim.period.untilTime then
          let state ←
            if ← shouldTrim trimWhenSameAge compareSegment segmentToTrim then
              trimSegment state compareSegment segmentToTrim
            else pure state
          if state.segmentsToTrim.count = 0 then pure none
          else
            let segmentToTrim ← SortedList.getByIndex state.segmentsToTrim (max state.i 0)
            trimOverlapping segmentsToCompareWith trimWhenSameAge fuel
              { state with segmentsToCompareWithIndex := state.segmentsToCompareWithIndex + 1 }
              segmentToTrim
        else pure (some state)
      else pure (some state)

/-- The outer loop. Each round moves the index one step closer to the count, so
the length of the list at the start is enough fuel. -/
def trimFrom (segmentsToCompareWith : SortedList) (trimWhenSameAge : Bool) :
    Nat → TrimState → Except SystemException SortedList
  | 0, state => pure state.segmentsToTrim
  | fuel + 1, state =>
      if state.i < state.segmentsToTrim.count then do
        let segmentToTrim ← SortedList.getByIndex state.segmentsToTrim state.i
        let index ← skipNonOverlapping segmentsToCompareWith segmentToTrim
          segmentsToCompareWith.count state.segmentsToCompareWithIndex
        if index = segmentsToCompareWith.count then pure state.segmentsToTrim
        else
          match ← trimOverlapping segmentsToCompareWith trimWhenSameAge segmentsToCompareWith.count
              { state with segmentsToCompareWithIndex := index } segmentToTrim with
          | none => pure SortedEntries.empty
          | some state =>
              trimFrom segmentsToCompareWith trimWhenSameAge fuel
                { state with
                  i := state.i + 1
                  segmentsToCompareWithIndex := state.segmentsToCompareWithIndex - 1 }
      else pure state.segmentsToTrim

/-- The private `TrimOverlappingAndOlder`: cuts out of the first list what is
older than the second. -/
def trimSegments (segmentsToTrim segmentsToCompareWith : SortedList) (trimWhenSameAge : Bool) :
    Except SystemException SortedList :=
  trimFrom segmentsToCompareWith trimWhenSameAge segmentsToTrim.count ⟨segmentsToTrim, 0, 0⟩

def mergeAdjacentFrom : Nat → Nat → SortedList → Except SystemException SortedList
  | 0, _, segments => pure segments
  | fuel + 1, i, segments =>
      if i + 1 < segments.count then do
        let segment1 ← SortedList.getByIndex segments i
        let segment2 ← SortedList.getByIndex segments (i + 1)
        if segment1.age = segment2.age ∧ segment1.period.untilTime = segment2.period.fromTime then
          mergeAdjacentFrom fuel (i + 1)
            (SortedEntries.removeAt (segments.modifyAt i fun _ => segment1.extendTo segment2) (i + 1))
        else mergeAdjacentFrom fuel (i + 1) segments
      else pure segments

def mergeAdjacentSegments (segments : SortedList) : Except SystemException SortedList :=
  mergeAdjacentFrom segments.count 0 segments

def addAll : List AgeSegment → SortedList → Except SystemException SortedList
  | [], segments => pure segments
  | newSegment :: rest, segments => do
      addAll rest (← SortedList.add segments newSegment.period.fromTime newSegment)

def updateSegment (age : TimeSeriesAge) (period : TimePeriod) (ageTime : UtcTime) :
    Except SystemException TimeSeriesAge := do
  let period := period.trim
  let ageTime := ageTime.trimToMillisecondAccuracy
  if period.duration = 0 then
    throw (.argument "TimeSeriesAge cannot contain segments of zero duration.")
  let newSegments ← SortedList.add SortedEntries.empty period.fromTime (.create period ageTime)
  let newSegments ← trimSegments newSegments age.segments false
  let segments ← trimSegments age.segments newSegments true
  let segments ← addAll newSegments.values segments
  return { age with segments := ← mergeAdjacentSegments segments }

/-- The public `TrimOverlappingAndOlder`: the parts of the period where nothing
newer is recorded. -/
def trimOverlappingAndOlder (age : TimeSeriesAge) (periodToTrim : TimePeriod) (ageTime : UtcTime) :
    Except SystemException (List TimePeriod) := do
  let periodToTrim := periodToTrim.trim
  let ageTime := ageTime.trimToMillisecondAccuracy
  let segmentsToTrim ←
    SortedList.add SortedEntries.empty periodToTrim.fromTime (.create periodToTrim ageTime)
  let segmentsToCompareWith ← addAll age.segments.values SortedEntries.empty
  let segmentsToTrim ← trimSegments segmentsToTrim segmentsToCompareWith false
  return segmentsToTrim.values.map AgeSegment.period

def updateAll : List (TimePeriod × UtcTime) → TimeSeriesAge → Except SystemException TimeSeriesAge
  | [], age => pure age
  | update :: rest, age => do updateAll rest (← age.updateSegment update.1 update.2)

end TimeSeriesAge

end ServiceHost
