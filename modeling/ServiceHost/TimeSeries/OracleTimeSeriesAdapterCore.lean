import ServiceHost.Library.Program
import ServiceHost.TimeSeries.ImportExportCore
import ServiceHost.TimeSeries.TsWriteItemsCore

/-!
`OracleTimeSeriesAdapter.Update`: the series of the database is looked up, its
resolution and its unit are compared with those of the series, and `Write` builds
the arrays for the writer. `F` is the type of the factors, which are decimals. What
the database answers is a parameter; the units are finite tables.
-/

namespace ServiceHost

open Library

namespace TimeResolution

def steptype (resolution : TimeResolution) : Except SystemException Int :=
  if resolution = unconstrained then pure 2
  else if resolution = minute15 then pure 7
  else if resolution = hour then pure 4
  else if resolution = day then pure 5
  else if resolution = week then pure 6
  else if resolution = month then pure 8
  else if resolution = year then pure 9
  else throw (.argument ("Illegal TimeResolution.Value:" ++ toString resolution.value))

end TimeResolution

/-- What `Update` reads of the row of a series. -/
structure TimeSeriesRow where
  timsKey : Int
  resolution : TimeResolution
  valueType : Int
  unmeKey : Int
  paraflag : Int
  lcdate : Option CodeUnits
  lvdate : Option CodeUnits

def PrimaryValueType.accumulated : Int := 2

inductive AdapterException
  | storage (message : String) (status : StorageStatus)
  | icc (message : String)
  | database (message : String)
  | system (exception : SystemException)
deriving DecidableEq, Repr

structure UnitData (F : Type) where
  unmeaTp : String → Option Int
  unmeaRescaleTp : Int → Int → Option F

namespace UnitData

variable {F : Type}

def isUnit (tables : UnitData F) (unitcode : String) : Option Int := tables.unmeaTp unitcode

def isScalable (tables : UnitData F) (fromUnitKey toUnitKey : Int) : Option F :=
  tables.unmeaRescaleTp fromUnitKey toUnitKey

end UnitData

structure OracleTimeSeriesAdapter (D F : Type) where
  autoCommit : Bool
  /-- The text of the exception of the provider, if it cannot begin a transaction. -/
  openTransaction : Option String
  commitTransaction : Option AdapterException
  timeser : String → Except AdapterException (Option TimeSeriesRow)
  units : UnitData F
  pddbenv : String → Option String
  databaseCalendar : RegionalCalendar
  currentNT : RegionalCalendar
  /-- What the writer raises for some items, if anything. -/
  writeValues : TsWriteItemsFromArrays D → Option AdapterException

structure WriteArguments (D : Type) where
  points : PointArrays D
  deletes : PeriodArrays
  appendOrigSeries : Bool
  protectCorrectedValues : Bool

/-- The attributes that `Update` copies from the database to the series. -/
structure SeriesAttributes where
  id : Int
  paraflag : Int
  lastCorrectedDate : UtcTime
  lastValidatedDate : UtcTime

/-- What `Update` changes: the attributes of the series, the arrays and the items
that it hands to the writer, in order, and the commits. -/
structure AdapterState (D : Type) where
  attributes : SeriesAttributes
  arrays : List (WriteArguments D)
  written : List (TsWriteItemsFromArrays D)
  commits : Nat

namespace OracleTimeSeriesAdapter

variable {D F : Type}

def liftSystem {A : Type} (outcome : Except SystemException A) :
    Program (AdapterState D) AdapterException A :=
  Program.ofExcept (match outcome with
    | .ok value => .ok value
    | .error exception => .error (.system exception))

/-- `Fetch` for a full name, which may not be null. -/
def fetch (adapter : OracleTimeSeriesAdapter D F) (name : Option String) :
    Except AdapterException (Option TimeSeriesRow) :=
  match name with
  | none => throw (.system .nullReference)
  | some name =>
      let info := TimeSeriesInfo.ofFullName name
      if info.tscode = [] then pure none else adapter.timeser info.fullName

/-- `GetPDDBEnv`: a value that is missing or empty is the default. -/
def getPDDBEnv (adapter : OracleTimeSeriesAdapter D F) (name defaultValue : String) : String :=
  match adapter.pddbenv name with
  | some value => if value = "" then defaultValue else value
  | none => defaultValue

def emptyPoints : PointArrays D := ⟨[], [], [], [], [], [], [], [], [], none, some [], some []⟩

def fillPoint (ts : TimeSeries D) (attributes : SeriesAttributes) (arrays : PointArrays D) (tvq : Tvq D) :
    Except SystemException (PointArrays D) := do
  let stepType ← ts.resolution.steptype
  return { arrays with
    stepTypes := arrays.stepTypes ++ [stepType]
    timsKeys := arrays.timsKeys ++ [attributes.id]
    vlcodes := arrays.vlcodes ++ [0]
    ts := arrays.ts ++ [tvq.time.toPdtime]
    vs := arrays.vs ++ [tvq.value]
    qs := arrays.qs ++ [tvq.vq.quality.exposedQuality]
    readKeys := arrays.readKeys ++ [some 0]
    reptKeys := arrays.reptKeys ++ [some 0]
    reasKeys := arrays.reasKeys ++ [some 0]
    paraFlags := arrays.paraFlags.map fun flags => flags ++ [attributes.paraflag]
    lcDates := arrays.lcDates.map fun dates => dates ++ [attributes.lastCorrectedDate] }

/-- The arguments that `Write` puts together. It is given the factor, but nothing is
multiplied by it. -/
def writeArguments (adapter : OracleTimeSeriesAdapter D F) (ts : TimeSeries D) (attributes : SeriesAttributes)
    (first last : Tvq D) (_factor : F) : Except SystemException (WriteArguments D) := do
  let start ← adapter.databaseCalendar.toDatabaseString first.time
  let finish ← adapter.databaseCalendar.toDatabaseString last.time
  let points ← ts.tvqs.foldlM (fillPoint ts attributes) emptyPoints
  return {
    points
    deletes := ⟨[attributes.id], [0], [some start], [some finish]⟩
    appendOrigSeries := attributes.paraflag = 1
    protectCorrectedValues := (adapter.getPDDBEnv "ICC_TSSTORE_OVERWRITE_CC_PERIODS" "true").toLower ≠ "true" }

def writeItems (adapter : OracleTimeSeriesAdapter D F) (arguments : WriteArguments D) :
    Program (AdapterState D) AdapterException Unit := do
  let items ← liftSystem (TsWriteItemsFromArrays.create arguments.points arguments.deletes adapter.currentNT
    arguments.appendOrigSeries arguments.protectCorrectedValues)
  Program.change fun state => { state with written := state.written ++ [items] }
  Program.call (adapter.writeValues items)

def write (adapter : OracleTimeSeriesAdapter D F) (ts : TimeSeries D) (factor : F) :
    Program (AdapterState D) AdapterException Unit :=
  match ts.tvqs.head?, ts.tvqs.getLast? with
  | some first, some last => do
      let attributes ← Program.read AdapterState.attributes
      let arguments ← liftSystem (adapter.writeArguments ts attributes first last factor)
      Program.change fun state => { state with arrays := state.arrays ++ [arguments] }
      adapter.writeItems arguments
  | _, _ => pure ()

def resolutionMatches (ts : TimeSeries D) (info : TimeSeriesRow) : Bool :=
  ts.resolution = info.resolution ||
    (info.resolution = .hour && ts.resolution = .unconstrained && info.valueType = PrimaryValueType.accumulated)

/-- The factor from the unit of the series to that of the database, where one is
needed and known. -/
def unitFactor [One F] (adapter : OracleTimeSeriesAdapter D F) (unit : Option String) (info : TimeSeriesRow) :
    Except AdapterException F :=
  match unit with
  | none => pure 1
  | some unit =>
      if unit = "" then pure 1
      else match adapter.units.isUnit unit with
        | none => pure 1
        | some unitKey =>
            if unitKey = info.unmeKey then pure 1
            else match adapter.units.isScalable unitKey info.unmeKey with
              | some factor => pure factor
              | none => throw (.storage ("The time series measuring unit is not compatible with that of the " ++
                  "corresponding database time series.") .incompatibleMeasuringUnit)

def copyAttributes (adapter : OracleTimeSeriesAdapter D F) (row : TimeSeriesRow) :
    Program (AdapterState D) AdapterException Unit := do
  Program.change fun state =>
    { state with attributes := { state.attributes with id := row.timsKey, paraflag := row.paraflag } }
  let lastCorrectedDate ← liftSystem (adapter.databaseCalendar.ofDatabaseString row.lcdate)
  Program.change fun state => { state with attributes := { state.attributes with lastCorrectedDate } }
  let lastValidatedDate ← liftSystem (adapter.databaseCalendar.ofDatabaseString row.lvdate)
  Program.change fun state => { state with attributes := { state.attributes with lastValidatedDate } }

def commit (adapter : OracleTimeSeriesAdapter D F) : Program (AdapterState D) AdapterException Unit :=
  if adapter.autoCommit then do
    Program.call adapter.commitTransaction
    Program.change fun state => { state with commits := state.commits + 1 }
  else pure ()

/-- Writes and commits. An exception of the database is told as the status of the points. -/
def storeSeries (adapter : OracleTimeSeriesAdapter D F) (ts : TimeSeries D) (factor : F) :
    Program (AdapterState D) AdapterException (List (TvqStorageStatus D)) := do
  let (status, message) ← Program.handle (do
    adapter.write ts factor
    pure (StorageStatus.stored, "Stored.")) fun exception =>
      match exception with
      | .icc message => pure (.internalError, message)
      | other => Program.raise other
  adapter.commit
  return ts.tvqs.map fun tvq => ⟨tvq, status, message⟩

def updateSeries [One F] (adapter : OracleTimeSeriesAdapter D F) (ts : TimeSeries D) (unit : Option String) :
    Program (AdapterState D) AdapterException (List (TvqStorageStatus D)) := do
  let info ← Program.ofExcept (adapter.fetch ts.name)
  match info with
  | none => Program.raise (.storage ("Time series " ++ ts.name.getD "" ++ " not found") .internalError)
  | some info =>
      if !resolutionMatches ts info then
        Program.raise (.storage "The time series resolution does not match the corresponding database time series."
          .invalidResolution)
      else
        let factor ← Program.ofExcept (adapter.unitFactor unit info)
        adapter.copyAttributes info
        adapter.storeSeries ts factor

/-- `Update`. Disposing of the transaction changes nothing that is modelled. -/
def update [One F] (adapter : OracleTimeSeriesAdapter D F) (ts : TimeSeries D) (unit : Option String) :
    Program (AdapterState D) AdapterException (List (TvqStorageStatus D)) := do
  if adapter.autoCommit then Program.call (adapter.openTransaction.map .database)
  adapter.updateSeries ts unit

end OracleTimeSeriesAdapter

end ServiceHost
