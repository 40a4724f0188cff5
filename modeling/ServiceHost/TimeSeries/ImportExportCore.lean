import ServiceHost.TimeSeries.TimeSeriesAgeCore
import ServiceHost.TimeSeries.TimeSeriesCore

/-!
`ImportExport.ReceiveTimeSeries`: a received series is split into internal series
by the import definitions, the values are converted, and what is older than the
data already there is put aside. Lists are in the order in which the code adds to
them; an age that the caller passed in is updated in place, so the list of ages
is threaded through. Logging is left out.
-/

namespace ServiceHost

open Library

structure Mapping (D : Type) where
  period : TimePeriod
  internalName : Option String
  scale : D
  offset : D
  digits : Int
  decimals : Int

structure ExternalReference (D : Type) where
  mappings : List (Mapping D)
  /-- The mapping in use, if one was selected. -/
  mapping : Option (Mapping D)

namespace ExternalReference

variable {D : Type}

def importDefinitionIgnore : String := "##PDCONST##ImportDefinitionIgnore##"

def mappingAt (mappings : List (Mapping D)) (time : UtcTime) : Option (Mapping D) :=
  mappings.find? fun mapping => mapping.period.intersectsTime time

def mappingNamed (mappings : List (Mapping D)) (internalName : Option String) : Option (Mapping D) :=
  mappings.find? fun mapping => mapping.internalName = internalName

def useMapping (reference : ExternalReference D) (time : UtcTime) : Bool × ExternalReference D :=
  match mappingAt reference.mappings time with
  | some mapping => (true, { reference with mapping := some mapping })
  | none => (false, reference)

def useMappingNamed (reference : ExternalReference D) (internalName : Option String) :
    Except SystemException (ExternalReference D) :=
  match mappingNamed reference.mappings internalName with
  | some mapping => pure { reference with mapping := some mapping }
  | none => throw (.application "No mapping exists for given internalName.")

def current (reference : ExternalReference D) : Except SystemException (Mapping D) :=
  match reference.mapping with
  | some mapping => pure mapping
  | none => throw .nullReference

/-- `ExternalReferenceSplitterOperator`. -/
def findDestinationName (reference : ExternalReference D) (tvq : Tvq D) :
    Except SystemException (Option String × ExternalReference D) :=
  let (found, reference) := reference.useMapping tvq.time
  if found then do return ((← reference.current).internalName, reference)
  else pure (none, reference)

end ExternalReference

inductive StorageStatus
  | stored
  | internalError
  | missingImportDefinition
  | importDefinitionIgnore
  | invalidResolution
  | incompatibleMeasuringUnit
  | moreRecentDataExists
deriving DecidableEq, Repr

structure TvqStorageStatus (D : Type) where
  tvq : Tvq D
  status : StorageStatus
  message : String

structure ReplacePeriod where
  timeSeriesName : Option String
  period : TimePeriod
deriving DecidableEq

structure AgeTable where
  calendar : RegionalCalendar
  fetch : String → Except SystemException (List TimeSeriesAge.AgeRow)

/-- What `ReceiveTimeSeries` has put together so far, and the two objects of the
caller that it changes. -/
structure ImportExport (D : Type) where
  relevantData : List (TimeSeries D)
  relevantReplacePeriods : List ReplacePeriod
  ages : List TimeSeriesAge
  status : List (TvqStorageStatus D)
  externalReference : ExternalReference D
  currentAges : List TimeSeriesAge

namespace ImportExport

variable {D : Type}

section Values

variable [DoubleArithmetic D]

open DoubleArithmetic

def truncateValues (ts : TimeSeries D) (mapping : Mapping D) : Except SystemException (TimeSeries D) :=
  BinaryOperation.run ts (TruncateOperator.calculate mapping.digits mapping.decimals)

def scaleValues (ts : TimeSeries D) (mapping : Mapping D) : Except SystemException (TimeSeries D) :=
  UnaryOperation.run ts (ScaleOperator.calculate mapping.scale)

def translateValues (ts : TimeSeries D) (mapping : Mapping D) : Except SystemException (TimeSeries D) :=
  UnaryOperation.run ts (TranslateOperator.calculate mapping.offset)

def convertValues (internalSeries : TimeSeries D) (mapping : Mapping D) :
    Except SystemException (TimeSeries D) := do
  let internalSeries ←
    if mapping.digits ≥ 0 ∨ mapping.decimals ≥ 0 then truncateValues internalSeries mapping
    else pure internalSeries
  let internalSeries ←
    if ne mapping.scale one then scaleValues internalSeries mapping else pure internalSeries
  if ne mapping.offset zero then translateValues internalSeries mapping else pure internalSeries

end Values

def verifyReplacePeriod (ts : TimeSeries D) (replacePeriod : Option TimePeriod) : Except SystemException Unit :=
  match replacePeriod with
  | none => pure ()
  | some replacePeriod =>
      if ts.tvqs.all fun tvq => replacePeriod.intersectsTime tvq.time then pure ()
      else throw (.application "The replace period does not span the submitted time series.")

def statusOf (ts : TimeSeries D) (status : StorageStatus) (message : String) : List (TvqStorageStatus D) :=
  ts.tvqs.map fun tvq => ⟨tvq, status, message⟩

def updateSlots (resolution : TimeResolution) (sourceTime : UtcTime) :
    List (Tvq D) → TimeSeriesAge → Except SystemException TimeSeriesAge
  | [], age => pure age
  | tvq :: rest, age => do
      let until_ ← resolution.step tvq.time 1 RegionalCalendar.utcCalendar
      updateSlots resolution sourceTime rest (← age.updateSegment ⟨tvq.time, until_⟩ sourceTime)

/-- `UpdateAge` by points: each writes the stretch up to the next step. -/
def updateAge (age : TimeSeriesAge) (newData : TimeSeries D) (sourceTime : UtcTime) :
    Except SystemException TimeSeriesAge :=
  if newData.resolution = TimeResolution.unconstrained then pure age
  else updateSlots newData.resolution sourceTime newData.tvqs age

/-- `UpdateAge` by a replace period. -/
def updateAgeOfPeriod (age : TimeSeriesAge) (sourceTime : UtcTime) (replacePeriod : Option TimePeriod) :
    Except SystemException TimeSeriesAge :=
  match replacePeriod with
  | some replacePeriod => age.updateSegment replacePeriod sourceTime
  | none => pure age

def internalReplacePeriod (replacePeriod : TimePeriod) (mapping : Mapping D) :
    Except SystemException (Option TimePeriod) :=
  replacePeriod.intersection mapping.period

/-- The age with that name among those of the caller. An age without a name is
not one that the code can look at. -/
def findAge (timeSeriesName : String) : List TimeSeriesAge → Except SystemException (Option TimeSeriesAge)
  | [] => pure none
  | age :: rest =>
      match age.timeSeriesName with
      | none => throw .nullReference
      | some name => if name = timeSeriesName then pure (some age) else findAge timeSeriesName rest

def getTimeSeriesAge (table : AgeTable) (timeSeriesName : String) (ages : List TimeSeriesAge) :
    Except SystemException TimeSeriesAge := do
  match ← findAge timeSeriesName ages with
  | some age => pure age
  | none =>
      let rows ← table.fetch timeSeriesName
      if rows.isEmpty then pure (.ofName timeSeriesName) else TimeSeriesAge.ofRows table.calendar rows

/-- The age that was found is an object of the caller: its updates show there. -/
def putAge (timeSeriesName : String) (updated : TimeSeriesAge) : List TimeSeriesAge → List TimeSeriesAge
  | [] => []
  | age :: rest =>
      if age.timeSeriesName = some timeSeriesName then updated :: rest
      else age :: putAge timeSeriesName updated rest

/-- `NewerDataSplitterOperator`; it has no state. -/
def findDestinationName (ts : TimeSeries D) (age : TimeSeriesAge) (timeStamp : UtcTime) (_ : Unit)
    (tvq : Tvq D) : Except SystemException (Option String × Unit) := do
  return (if ← age.isOlder tvq.time timeStamp then none else ts.name, ())

def trimOldData (ts : TimeSeries D) (age : TimeSeriesAge) (sourceTime : UtcTime) :
    Except SystemException (List (TimeSeries D)) :=
  Prod.fst <$> SplitterOperation.run (findDestinationName ts age sourceTime) ts ()

def trimOldReplacePeriod (ts : TimeSeries D) (age : TimeSeriesAge) (replacePeriod : Option TimePeriod)
    (sourceTime : UtcTime) : Except SystemException (List ReplacePeriod) :=
  match replacePeriod with
  | none => throw .nullReference
  | some replacePeriod => do
      let replacePeriodFragments ← age.trimOverlappingAndOlder replacePeriod sourceTime
      return replacePeriodFragments.map fun period => ⟨ts.name, period⟩

/-- The period that an internal series replaces, and the parts of it that are not
older than the data already there. -/
def internalReplacePeriods (age : TimeSeriesAge) (sourceTime : UtcTime) (replacePeriod : Option TimePeriod)
    (mapping : Mapping D) (internalSeries : TimeSeries D) :
    Except SystemException (Option TimePeriod × List ReplacePeriod) :=
  match replacePeriod with
  | none => pure (none, [])
  | some replacePeriod => do
      let internalPeriod ← internalReplacePeriod replacePeriod mapping
      return (internalPeriod, ← trimOldReplacePeriod internalSeries age internalPeriod sourceTime)

/-- The loop over the two parts that `TrimOldData` makes. -/
def receiveTrimmed (sourceTime : UtcTime) (replacePeriod : Option TimePeriod) :
    List (TimeSeries D) → ImportExport D → TimeSeriesAge →
      Except SystemException (ImportExport D × TimeSeriesAge)
  | [], state, age => pure (state, age)
  | trimmedSeries :: rest, state, age =>
      match trimmedSeries.name with
      | none =>
          receiveTrimmed sourceTime replacePeriod rest
            { state with
              status := state.status ++
                statusOf trimmedSeries .moreRecentDataExists "More recent data already exists." } age
      | some _ => do
          let age ← if replacePeriod = none then updateAge age trimmedSeries sourceTime else pure age
          receiveTrimmed sourceTime replacePeriod rest
            { state with relevantData := state.relevantData ++ [trimmedSeries] } age

variable [DoubleArithmetic D]

def receiveInternal (table : AgeTable) (sourceTime : UtcTime) (replacePeriod : Option TimePeriod)
    (name : String) (ts : TimeSeries D) (state : ImportExport D) : Except SystemException (ImportExport D) := do
  let externalReference ← state.externalReference.useMappingNamed (some name)
  let mapping ← externalReference.current
  let internalSeries ← convertValues ts mapping
  let age ← getTimeSeriesAge table name state.currentAges
  let (internalPeriod, fragments) ←
    internalReplacePeriods age sourceTime replacePeriod mapping internalSeries
  let trimmed ← trimOldData internalSeries age sourceTime
  let state := { state with
    externalReference
    relevantReplacePeriods := state.relevantReplacePeriods ++ fragments }
  let (state, age) ← receiveTrimmed sourceTime replacePeriod trimmed state age
  let age ← updateAgeOfPeriod age sourceTime internalPeriod
  return { state with
    ages := state.ages ++ [age]
    currentAges := putAge name age state.currentAges }

def receiveEach (table : AgeTable) (sourceTime : UtcTime) (replacePeriod : Option TimePeriod) :
    List (TimeSeries D) → ImportExport D → Except SystemException (ImportExport D)
  | [], state => pure state
  | ts :: rest, state =>
      match ts.name with
      | none =>
          receiveEach table sourceTime replacePeriod rest
            { state with
              status := state.status ++ statusOf ts .missingImportDefinition "Missing import definition" }
      | some name =>
          if name = ExternalReference.importDefinitionIgnore then
            receiveEach table sourceTime replacePeriod rest
              { state with
                status := state.status ++
                  statusOf ts .importDefinitionIgnore "Import definition set to be ignored" }
          else do
            receiveEach table sourceTime replacePeriod rest
              (← receiveInternal table sourceTime replacePeriod name ts state)

def receiveTimeSeries (table : AgeTable) (sourceTs : TimeSeries D) (sourceTime : UtcTime)
    (replacePeriod : Option TimePeriod) (externalReference : ExternalReference D)
    (currentAges : List TimeSeriesAge) : Except SystemException (ImportExport D) := do
  verifyReplacePeriod sourceTs replacePeriod
  let (internalSeriesArray, externalReference) ←
    SplitterOperation.run ExternalReference.findDestinationName sourceTs externalReference
  receiveEach table sourceTime replacePeriod internalSeriesArray
    ⟨[], [], [], [], externalReference, currentAges⟩

section Samples

def pointAt (ticks value : Int) : Entry Int := (⟨.ofTicks ticks, .point⟩, ⟨value, ⟨0, 0⟩⟩)

def seriesOf (resolution : TimeResolution) (points : List (Entry Int)) : TimeSeries Int :=
  ⟨none, resolution, points.foldl (fun entries point => entries.set point.1 point.2) SortedEntries.empty⟩

def ageOf (name : String) (period : TimePeriod) (age : UtcTime) : TimeSeriesAge :=
  ⟨SortedEntries.empty.set period.fromTime (.create period age), some name⟩

def plainMapping (period : TimePeriod) (internalName : Option String) : Mapping Int :=
  ⟨period, internalName, 1, 0, -1, -1⟩

def noRows : AgeTable := ⟨.utcCalendar, fun _ => pure []⟩

end Samples

end ImportExport

end ServiceHost
