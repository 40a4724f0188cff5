import ServiceHost.TimeSeries.ImportExportCore
import ServiceHost.Library.Program

/-!
`ImportExport.ImportTimeSeries`: what was received is stored in one transaction for each
age, which is tried again when the database could not serialize it. The statuses are a
field of the object, so what an attempt has added to them stays when it is rolled back.
Each attempt comes with what the database does in it. Logging and waiting are left out.
-/

namespace ServiceHost

open Library

inductive TransactionException
  | serialization
  | other (exception : SystemException)
deriving DecidableEq

/-- A row of the import definitions. A missing number of digits is that of the row before. -/
structure ImportDefinitionRow (D : Type) where
  timsKey : Int
  filename : String
  tscode : String
  rval1 : Option Int
  rval2 : Option Int
  valftime : CodeUnits
  valttime : CodeUnits
  factor : D
  offset : D

/-- What `OracleTimeSeriesAdapter.Update` does with a series. -/
inductive StoreOutcome (D : Type)
  | answered (answer : Tvq D → StorageStatus × String)
  | storageException (status : StorageStatus) (message : String) (innerMessage : Option String)
  | raised (exception : TransactionException)

structure Attempt (D : Type) where
  opens : Option TransactionException
  deletes : ReplacePeriod → Option TransactionException
  stores : TimeSeries D → StoreOutcome D
  storesAge : Option TransactionException
  commits : Option TransactionException

namespace ImportExport

variable {D : Type}

def addMappings (calendar : RegionalCalendar) :
    List (ImportDefinitionRow D) → Int → Int → List (Mapping D) → Except SystemException (List (Mapping D))
  | [], _, _, mappings => pure mappings
  | row :: rest, digits, decimals, mappings => do
      let internalName :=
        if row.timsKey = -1 then ExternalReference.importDefinitionIgnore
        else (⟨row.filename.toList, row.tscode.toList⟩ : TimeSeriesInfo).fullName
      let digits := row.rval1.getD digits
      let decimals := row.rval2.getD decimals
      let fromTime ← calendar.ofDatabaseString (some row.valftime)
      let untilTime ← calendar.ofDatabaseString (some row.valttime)
      addMappings calendar rest digits decimals
        (mappings ++ [⟨⟨fromTime, untilTime⟩, some internalName, row.factor, row.offset, digits, decimals⟩])

def fetchImportDefinitions (calendar : RegionalCalendar) (rows : List (ImportDefinitionRow D)) :
    Except SystemException (ExternalReference D) := do
  return ⟨← addMappings calendar rows (-1) (-1) [], none⟩

abbrev StatusProgram (D A : Type) : Type := Program (List (TvqStorageStatus D)) TransactionException A

def storageMessage (message : String) : Option String → String
  | some innerMessage => message ++ ": " ++ innerMessage
  | none => message

def storeTimeSeries (ts : TimeSeries D) : StoreOutcome D → StatusProgram D Unit
  | .answered answer =>
      Program.change fun status => status ++ ts.tvqs.map fun tvq => ⟨tvq, (answer tvq).1, (answer tvq).2⟩
  | .storageException status message innerMessage =>
      Program.change fun statuses => statuses ++ statusOf ts status (storageMessage message innerMessage)
  | .raised exception => Program.raise exception

def isNamed (age : TimeSeriesAge) (timeSeriesName : Option String) : StatusProgram D Bool :=
  match age.timeSeriesName with
  | some name => pure (timeSeriesName = some name)
  | none => Program.raise (.other .nullReference)

def deleteEach (age : TimeSeriesAge) (deletes : ReplacePeriod → Option TransactionException) :
    List ReplacePeriod → StatusProgram D Unit
  | [] => pure ()
  | relevantReplacePeriod :: rest => do
      if ← isNamed age relevantReplacePeriod.timeSeriesName then Program.call (deletes relevantReplacePeriod)
      deleteEach age deletes rest

def storeEach (age : TimeSeriesAge) (stores : TimeSeries D → StoreOutcome D) :
    List (TimeSeries D) → StatusProgram D Unit
  | [] => pure ()
  | relevantFragment :: rest => do
      if ← isNamed age relevantFragment.name then storeTimeSeries relevantFragment (stores relevantFragment)
      storeEach age stores rest

def transaction (importExport : ImportExport D) (age : TimeSeriesAge) (attempt : Attempt D) :
    StatusProgram D Unit := do
  Program.call attempt.opens
  deleteEach age attempt.deletes importExport.relevantReplacePeriods
  storeEach age attempt.stores importExport.relevantData
  Program.call attempt.storesAge
  Program.call attempt.commits

def storeAge (importExport : ImportExport D) (age : TimeSeriesAge) : List (Attempt D) → StatusProgram D Bool
  | [] => pure false
  | attempt :: rest =>
      Program.handle
        (do
          transaction importExport age attempt
          return true)
        fun exception =>
          match exception with
          | .serialization => storeAge importExport age rest
          | .other exception => Program.raise (.other exception)

def storeAges (importExport : ImportExport D) (attempts : TimeSeriesAge → List (Attempt D)) :
    List TimeSeriesAge → StatusProgram D Bool
  | [] => pure true
  | age :: rest => do
      if ← storeAge importExport age (attempts age) then storeAges importExport attempts rest else pure false

variable [DoubleArithmetic D]

def receiveDefined (table : AgeTable) (definitions : List (ImportDefinitionRow D)) (sourceTs : TimeSeries D)
    (sourceTime : UtcTime) (replacePeriod : Option TimePeriod) : Except SystemException (ImportExport D) := do
  let extRef ← fetchImportDefinitions table.calendar definitions
  receiveTimeSeries table sourceTs sourceTime replacePeriod extRef []

/-- The statuses that are returned, when the attempts are enough for the loops to end. -/
def importTimeSeries (table : AgeTable) (definitions : List (ImportDefinitionRow D)) (sourceTs : TimeSeries D)
    (sourceTime : UtcTime) (replacePeriod : Option TimePeriod) (attempts : TimeSeriesAge → List (Attempt D)) :
    Except TransactionException (Option (List (TvqStorageStatus D))) :=
  match receiveDefined table definitions sourceTs sourceTime replacePeriod with
  | .error exception => throw (.other exception)
  | .ok importExport =>
      match storeAges importExport attempts importExport.ages importExport.status with
      | (.ok true, status) => pure (some status)
      | (.ok false, _) => pure none
      | (.error exception, _) => throw exception

end ImportExport

end ServiceHost
