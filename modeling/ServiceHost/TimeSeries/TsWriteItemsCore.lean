import ServiceHost.Library.Loops
import ServiceHost.Library.Sorting
import ServiceHost.Time.RegionalCalendarCore

/-!
`TsWriteItemsFromArrays` and `TsWriter.writeValues`: what is to be stored comes as
parallel arrays of points and of periods to delete. The constructor may add a copy
of the points for the original values and may take out what would overwrite
corrected values; the writer sorts the points and hands all of it to the database.
The modes that the writer passes with every call are left out.
-/

namespace ServiceHost

open Library

section Arrays

variable {A : Type}

def elementAt (array : List A) (i : Nat) : Except SystemException A :=
  match array[i]? with
  | some item => pure item
  | none => throw .indexOutOfRange

def elementOf (array : Option (List A)) (i : Nat) : Except SystemException A :=
  match array with
  | some array => elementAt array i
  | none => throw .nullReference

/-- An item of a `List`. -/
def itemAt (list : List A) (i : Nat) : Except SystemException A :=
  match list[i]? with
  | some item => pure item
  | none => throw .argumentOutOfRange

def removeAt (list : List A) (i : Nat) : Except SystemException (List A) :=
  if i < list.length then pure (list.eraseIdx i) else throw .argumentOutOfRange

def setAt (list : List A) (i : Nat) (item : A) : Except SystemException (List A) :=
  if i < list.length then pure (list.set i item) else throw .argumentOutOfRange

def onList (list : Option (List A)) (method : List A → Except SystemException (List A)) :
    Except SystemException (Option (List A)) :=
  match list with
  | some list => some <$> method list
  | none => throw .nullReference

def onOptionalList (list : Option (List A)) (method : List A → Except SystemException (List A)) :
    Except SystemException (Option (List A)) :=
  match list with
  | some list => some <$> method list
  | none => pure none

end Arrays

/-- The arrays of the points; those of reference times, flags and dates may be missing. -/
structure PointArrays (D : Type) where
  stepTypes : List Int
  timsKeys : List Int
  vlcodes : List Int
  ts : List Int
  vs : List D
  qs : List (BitVec 32)
  readKeys : List (Option Int)
  reptKeys : List (Option Int)
  reasKeys : List (Option Int)
  rtps : Option (List UtcTime)
  paraFlags : Option (List Int)
  lcDates : Option (List UtcTime)

structure PeriodArrays where
  timsKeys : List Int
  vlcodes : List Int
  fromDate17s : List (Option CodeUnits)
  untilDate17s : List (Option CodeUnits)
deriving DecidableEq

structure TsWriteItemsFromArrays (D : Type) where
  points : PointArrays D
  deletes : PeriodArrays
  tzDb : RegionalCalendar

def originalValues : Int := 100

namespace PointArrays

variable {D : Type}

def time (points : PointArrays D) (i : Nat) : Except SystemException UtcTime := do
  return .createFromPdtime (← elementAt points.ts i)

/-- Adds the copy of a flagged point that holds an original value. -/
def appendOrigPoint (given : PointArrays D) (i : Nat) (lists : PointArrays D) :
    Except SystemException (PointArrays D) := do
  if (← elementOf given.paraFlags i) ≠ 1 then return lists
  if (← elementAt given.vlcodes i) ≠ 0 then return lists
  let rtp := fun list => do return list ++ [← elementOf given.rtps i]
  let paraFlag := fun list => do return list ++ [← elementOf given.paraFlags i]
  let lcDate := fun list => do return list ++ [← elementOf given.lcDates i]
  return {
    stepTypes := lists.stepTypes ++ [← elementAt given.stepTypes i]
    timsKeys := lists.timsKeys ++ [← elementAt given.timsKeys i]
    vlcodes := lists.vlcodes ++ [originalValues]
    ts := lists.ts ++ [← elementAt given.ts i]
    vs := lists.vs ++ [← elementAt given.vs i]
    qs := lists.qs ++ [← elementAt given.qs i]
    readKeys := lists.readKeys ++ [← elementAt given.readKeys i]
    reptKeys := lists.reptKeys ++ [← elementAt given.reptKeys i]
    reasKeys := lists.reasKeys ++ [← elementAt given.reasKeys i]
    rtps := ← onOptionalList lists.rtps rtp
    paraFlags := ← onList lists.paraFlags paraFlag
    lcDates := ← onOptionalList lists.lcDates lcDate }

def removeAt (lists : PointArrays D) (i : Nat) : Except SystemException (PointArrays D) := do
  return {
    stepTypes := ← ServiceHost.removeAt lists.stepTypes i
    timsKeys := ← ServiceHost.removeAt lists.timsKeys i
    vlcodes := ← ServiceHost.removeAt lists.vlcodes i
    ts := ← ServiceHost.removeAt lists.ts i
    vs := ← ServiceHost.removeAt lists.vs i
    qs := ← ServiceHost.removeAt lists.qs i
    readKeys := ← ServiceHost.removeAt lists.readKeys i
    reptKeys := ← ServiceHost.removeAt lists.reptKeys i
    reasKeys := ← ServiceHost.removeAt lists.reasKeys i
    rtps := ← onOptionalList lists.rtps fun list => ServiceHost.removeAt list i
    paraFlags := ← onList lists.paraFlags fun list => ServiceHost.removeAt list i
    lcDates := ← onList lists.lcDates fun list => ServiceHost.removeAt list i }

def removeCorrected (given : PointArrays D) (i : Nat) (lists : PointArrays D) :
    Except SystemException (PointArrays D) := do
  if (← elementAt given.vlcodes i) ≠ 0 then return lists
  let lcDate ← elementOf given.lcDates i
  if lcDate.ticks = Utc.null then return lists
  if ← UtcTime.less lcDate (← given.time i) then return lists
  lists.removeAt i

def newFromDate (reduced : PointArrays D) (timsKey : Int) (fromDateDel untilDateDel : UtcTime) (i : Nat)
    (newFromDateDel : UtcTime) : Except SystemException UtcTime := do
  if (← itemAt reduced.vlcodes i) ≠ 0 then return newFromDateDel
  if (← itemAt reduced.timsKeys i) ≠ timsKey then return newFromDateDel
  let t := UtcTime.createFromPdtime (← itemAt reduced.ts i)
  if ← UtcTime.greaterOrEqual t fromDateDel then
    if ← UtcTime.lessOrEqual t untilDateDel then
      if ← UtcTime.less t newFromDateDel then return t
  return newFromDateDel

end PointArrays

namespace PeriodArrays

/-- Adds the period of the original values to that of the values. -/
def appendOrigPeriod (given : PeriodArrays) (i : Nat) (lists : PeriodArrays) :
    Except SystemException PeriodArrays := do
  if (← elementAt given.vlcodes i) ≠ 0 then return lists
  return {
    timsKeys := lists.timsKeys ++ [← elementAt given.timsKeys i]
    vlcodes := lists.vlcodes ++ [originalValues]
    fromDate17s := lists.fromDate17s ++ [← elementAt given.fromDate17s i]
    untilDate17s := lists.untilDate17s ++ [← elementAt given.untilDate17s i] }

def removeAt (lists : PeriodArrays) (i : Nat) : Except SystemException PeriodArrays := do
  return {
    timsKeys := ← ServiceHost.removeAt lists.timsKeys i
    vlcodes := ← ServiceHost.removeAt lists.vlcodes i
    fromDate17s := ← ServiceHost.removeAt lists.fromDate17s i
    untilDate17s := ← ServiceHost.removeAt lists.untilDate17s i }

/-- Lets a period begin at the first of the remaining points in it, or removes it. -/
def shorten {D : Type} (calendar : RegionalCalendar) (given : PeriodArrays) (reduced : PointArrays D) (j : Nat)
    (lists : PeriodArrays) : Except SystemException PeriodArrays := do
  if (← elementAt given.vlcodes j) ≠ 0 then return lists
  let timsKey ← elementAt given.timsKeys j
  let fromDateDel ← calendar.ofDatabaseString (← elementAt given.fromDate17s j)
  let untilDateDel ← calendar.ofDatabaseString (← elementAt given.untilDate17s j)
  let newFromDateDel ← descending (reduced.newFromDate timsKey fromDateDel untilDateDel)
    reduced.stepTypes.length (← calendar.addSeconds untilDateDel 1)
  if ← UtcTime.lessOrEqual newFromDateDel untilDateDel then
    let text ← calendar.toDatabaseString newFromDateDel
    return { lists with fromDate17s := ← setAt lists.fromDate17s j (some text) }
  lists.removeAt j

end PeriodArrays

namespace TsWriteItemsFromArrays

variable {D : Type}

def appendOrigSeriesPointsAndPeriods (items : TsWriteItemsFromArrays D) :
    Except SystemException (TsWriteItemsFromArrays D) := do
  if items.points.paraFlags.isNone then return items
  let points ← ascending items.points.appendOrigPoint items.points.stepTypes.length items.points
  let deletes ← ascending items.deletes.appendOrigPeriod items.deletes.timsKeys.length items.deletes
  return { items with points, deletes }

def removePointsProtectCorrectedValuesMode (items : TsWriteItemsFromArrays D) :
    Except SystemException (TsWriteItemsFromArrays D) := do
  if items.points.lcDates.isNone then return items
  let points ← descending items.points.removeCorrected items.points.stepTypes.length items.points
  let deletes ← descending (items.deletes.shorten items.tzDb points) items.deletes.timsKeys.length items.deletes
  return { items with points, deletes }

def create (points : PointArrays D) (deletes : PeriodArrays) (tzDb : RegionalCalendar)
    (appendOrigSeries protectCorrectedValues : Bool) :
    Except SystemException (TsWriteItemsFromArrays D) := do
  let items : TsWriteItemsFromArrays D := ⟨points, deletes, tzDb⟩
  let items ← if appendOrigSeries then items.appendOrigSeriesPointsAndPeriods else pure items
  if protectCorrectedValues then items.removePointsProtectCorrectedValuesMode else pure items

def numberOfPoints (items : TsWriteItemsFromArrays D) : Nat := items.points.stepTypes.length

def key (keys : List (Option Int)) (i : Nat) : Except SystemException Int := do
  return (← elementAt keys i).getD 0

def rtp (items : TsWriteItemsFromArrays D) (i : Nat) : Except SystemException UtcTime :=
  match items.points.rtps with
  | none => pure UtcTime.null
  | some rtps => elementAt rtps i

def numberOfPeriods (items : TsWriteItemsFromArrays D) : Nat := items.deletes.timsKeys.length

def changedPeriod (items : TsWriteItemsFromArrays D) (i : Nat) : Except SystemException TimePeriod := do
  let fromTime ← items.tzDb.ofDatabaseString (← elementAt items.deletes.fromDate17s i)
  let untilTime ← items.tzDb.ofDatabaseString (← elementAt items.deletes.untilDate17s i)
  return ⟨fromTime, untilTime⟩

end TsWriteItemsFromArrays

/-- What the database driver makes of doubles. -/
class OracleDouble (D : Type) (N : outParam Type) where
  isNaN : D → Bool
  toDecimal : D → Except SystemException N

/-- The arrays handed to the database. A number that is `OracleDecimal.Null` is none. -/
structure BulkWrite (N : Type) where
  timsKeys : List Int
  vlcodes : List Int
  datetimes : List Int
  values : List (Option N)
  status : List (BitVec 32)
  readKeys : List Int
  reptKeys : List Int
  reasKeys : List Int
  rtpDates : List (Option Int)
  changedTimsKeys : List Int
  changedVlCodes : List Int
  changedFromDates : List Int
  changedUntilDates : List Int
deriving DecidableEq

namespace TsWriter

variable {D N : Type}

def tsVlMissing : BitVec 32 := 0x4000000#32

def compare (r : TsWriteItemsFromArrays D) (a b : Nat) : Except SystemException Int := do
  let timsKey ← elementAt r.points.timsKeys a
  let otherKey ← elementAt r.points.timsKeys b
  if timsKey < otherKey then return -1
  if timsKey > otherKey then return 1
  let vlCode ← elementAt r.points.vlcodes a
  let otherCode ← elementAt r.points.vlcodes b
  if vlCode < otherCode then return -1
  if vlCode > otherCode then return 1
  let time ← r.points.time a
  let otherTime ← r.points.time b
  if ← UtcTime.less time otherTime then return -1
  if ← UtcTime.greater time otherTime then return 1
  return 0

section Bulk

variable [OracleDouble D N]

/-- A value that is not a number is handed over as a missing one. -/
def handedValue (x : D) (q : BitVec 32) : Except SystemException (Option N × BitVec 32) :=
  if OracleDouble.isNaN x then pure (none, q ||| tsVlMissing)
  else if q &&& tsVlMissing = tsVlMissing then pure (none, q)
  else do return (some (← OracleDouble.toDecimal x), q)

def writePoint (writeItems : TsWriteItemsFromArrays D) (arrays : BulkWrite N) (j : Nat) :
    Except SystemException (BulkWrite N) := do
  let timsKey ← elementAt writeItems.points.timsKeys j
  let vlcode ← elementAt writeItems.points.vlcodes j
  let time ← writeItems.points.time j
  let (value, quality) ← handedValue (← elementAt writeItems.points.vs j) (← elementAt writeItems.points.qs j)
  let readKey ← TsWriteItemsFromArrays.key writeItems.points.readKeys j
  let reptKey ← TsWriteItemsFromArrays.key writeItems.points.reptKeys j
  let reasKey ← TsWriteItemsFromArrays.key writeItems.points.reasKeys j
  let rtp ← writeItems.rtp j
  return { arrays with
    timsKeys := arrays.timsKeys ++ [timsKey]
    vlcodes := arrays.vlcodes ++ [vlcode]
    datetimes := arrays.datetimes ++ [time.toPdtime]
    values := arrays.values ++ [value]
    status := arrays.status ++ [quality]
    readKeys := arrays.readKeys ++ [readKey]
    reptKeys := arrays.reptKeys ++ [reptKey]
    reasKeys := arrays.reasKeys ++ [reasKey]
    rtpDates := arrays.rtpDates ++ [if rtp = UtcTime.null then none else some rtp.toPdtime] }

def writePeriod (writeItems : TsWriteItemsFromArrays D) (i : Nat) (arrays : BulkWrite N) :
    Except SystemException (BulkWrite N) := do
  let timsKey ← elementAt writeItems.deletes.timsKeys i
  let vlcode ← elementAt writeItems.deletes.vlcodes i
  let period ← writeItems.changedPeriod i
  return { arrays with
    changedTimsKeys := arrays.changedTimsKeys ++ [timsKey]
    changedVlCodes := arrays.changedVlCodes ++ [vlcode]
    changedFromDates := arrays.changedFromDates ++ [period.fromTime.toPdtime]
    changedUntilDates := arrays.changedUntilDates ++ [period.untilTime.toPdtime] }

def emptyArrays : BulkWrite N := ⟨[], [], [], [], [], [], [], [], [], [], [], [], []⟩

/-- What `writeValues` hands to the database, once the points are sorted. -/
def bulkWrite (writeItems : TsWriteItemsFromArrays D) (ix : List Nat) : Except SystemException (BulkWrite N) := do
  let arrays ← ix.foldlM (writePoint writeItems) emptyArrays
  ascending (writePeriod writeItems) writeItems.numberOfPeriods arrays

def sortFailure : SystemException := .invalidOperation "Failed to compare two elements in the array."

/-- `writeValues`: what it may hand to the database, in one of the orders that sorting leaves open. -/
def WriteValues (writeItems : TsWriteItemsFromArrays D) (outcome : Except SystemException (BulkWrite N)) : Prop :=
  ∃ ix, SortOutcome (compare writeItems) sortFailure (List.range writeItems.numberOfPoints) ix ∧
    outcome = do bulkWrite writeItems (← ix)

def StoreValues (points : PointArrays D) (deletes : PeriodArrays) (tzDb : RegionalCalendar)
    (appendOrigSeries protectCorrectedValues : Bool) (outcome : Except SystemException (BulkWrite N)) : Prop :=
  match TsWriteItemsFromArrays.create points deletes tzDb appendOrigSeries protectCorrectedValues with
  | .ok writeItems => WriteValues writeItems outcome
  | .error exception => outcome = .error exception

end Bulk

end TsWriter

end ServiceHost
