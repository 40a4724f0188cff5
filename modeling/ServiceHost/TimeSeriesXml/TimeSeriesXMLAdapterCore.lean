import ServiceHost.TimeSeries.ImportExportCore
import ServiceHost.TimeSeries.QualityCore

/-!
`TimeSeriesXMLAdapter`: a time series document becomes a series to import and a
response, and the storage statuses become statuses of the response. The objects of
single item responses are shared between a hash table and the response, so they are
kept apart and referred to by number. Hash tables are lists in the order of insertion.
What the schema requires of a document is there.
-/

namespace ServiceHost.TimeSeriesXml

open Library

inductive TsResponseLevelType
  | none
  | ts
  | tsFail
  | tsv
  | tsvFail
deriving DecidableEq, Repr

inductive StatusType
  | ok
  | partlyOk
  | failed
deriving DecidableEq, Repr

def StatusType.toNat : StatusType → Nat
  | .ok => 0
  | .partlyOk => 1
  | .failed => 2

inductive TsIntervalType
  | momentum
  | min15
  | hour
  | day
  | week
  | month
  | year
deriving DecidableEq, Repr

/-- What the runtime makes of texts and times. An exception is its message. -/
structure Runtime where
  toTimeSpan : String → Except String Int
  toInt32 : String → Except String Int
  argumentNullMessage : String → String
  argumentMessage : String → String → String
  toXmlDateTime : UtcTime → String

structure TsTimePeriodType where
  fromDateTime : UtcTime
  toDateTime : UtcTime
  toSpecified : Bool
  duration : String
deriving DecidableEq

inductive TsValMethodType
  | abs_LIMIT
  | delta_LIMIT
  | delta_CHANGE
  | rep_VALUE
  | ctrl_METER
  | val_METER_SUM
  | ctrl_HT
  | ctrl_T
  | ctrl_U
  | ctrl_IMPORT
deriving DecidableEq, Repr

inductive TsCorMethodType
  | constant
  | copy
  | interpolate
  | extrapolate
  | mean
  | mean_DELTA_TIME
  | energy
  | meter_SUM
deriving DecidableEq, Repr

namespace TsXMLEnumMapper

def getValMethod : TsValMethodType → ValidationMethods
  | .abs_LIMIT => .absoluteLimit
  | .ctrl_HT => .controlHighTariffPeriod
  | .ctrl_IMPORT => .controlImport
  | .ctrl_METER => .controlMeter
  | .ctrl_T => .controlTariff
  | .ctrl_U => .controlAccessibleEnergy
  | .delta_CHANGE => .deltaEpsilon
  | .delta_LIMIT => .deltaLimit
  | .rep_VALUE => .repeatValue
  | .val_METER_SUM => .meterSum

def getCorMethod : TsCorMethodType → CorrectionMethods
  | .constant => .constant
  | .copy => .copy
  | .meter_SUM => .meterSum
  | .energy => .energy
  | .extrapolate => .extrapolate
  | .interpolate => .interpolate
  | .mean_DELTA_TIME => .meanDeltaT
  | .mean => .mean

end TsXMLEnumMapper

structure TsPVQItemType (D : Type) where
  fromDateTime : UtcTime
  toDateTime : UtcTime
  toSpecified : Bool
  duration : String
  value : D
  n_OK : Bool
  suspect : Bool
  manual : Bool
  accepted : Bool
  locked : Bool
  validated : Bool
  corrected : Bool
  valMethod : TsValMethodType
  valMethodSpecified : Bool
  corMethod : TsCorMethodType
  corMethodSpecified : Bool
  missing : Bool
  custom : Option String

structure TsReferenceType where
  id : String
  originatorSendingTimeDateTime : UtcTime

structure TsValueMetaInfoType where
  interval : Option TsIntervalType
  replacePeriod : Option TsTimePeriodType

structure TimeSeriesType (D : Type) where
  reference : TsReferenceType
  valueMetaInfo : Option TsValueMetaInfoType
  items : List (TsPVQItemType D)
  responseLevel : TsResponseLevelType

structure TsItemsResponseType (D : Type) where
  tsPVQItem : TsPVQItemType D
  status : StatusType
  statusMessage : String

structure TimeSeriesResponseType where
  status : StatusType
  statusMessage : List String
  itemsResponse : List Nat
  responseLevel : TsResponseLevelType

structure TsXmlImportData (D : Type) where
  timeSeries : TimeSeries D
  tsResponse : TimeSeriesResponseType
  objects : List (TsItemsResponseType D)
  itemsResponses : List (UtcTime × Option Nat)
  replacePeriod : Option TimePeriod
  originatorSendingTime : UtcTime
  totalItems : Nat
  failedItems : Nat
  errors : List String
  responseLevel : TsResponseLevelType
  itemErrors : List (String × Nat)
  itemStatuses : List (String × Nat)

variable {D : Type}

def timeSpanMinValue : Int := -0x8000000000000000

/-- The time that is left out of a period is compared as the least time span. -/
def parseTimePeriod (runtime : Runtime) (tsTime : TsTimePeriodType) : Except String TimePeriod := do
  let fromTime := tsTime.fromDateTime
  let (period, dur) ←
    if tsTime.toSpecified then
      if fromTime = UtcTime.null ∨ tsTime.toDateTime = UtcTime.null then
        throw (runtime.argumentNullMessage UtcTime.oneOfOperandsIsNull)
      else pure ((⟨fromTime, tsTime.toDateTime⟩ : TimePeriod), long (fromTime.ticks - tsTime.toDateTime.ticks))
    else pure (⟨fromTime, UtcTime.maxValue⟩, timeSpanMinValue)
  if tsTime.duration = "" then pure period
  else do
    let dur2 ← runtime.toTimeSpan tsTime.duration
    if dur ≠ timeSpanMinValue then
      if dur2 = dur then pure period
      else throw (runtime.argumentMessage "Ambiguous time period" tsTime.duration)
    else pure ⟨fromTime, UtcTime.ofTicks (fromTime.ticks + dur2)⟩

/-- The operator `|=` with the quality of a flag. -/
def orWhen (flag : Bool) (other q : Quality) : Quality := if flag then q.union other else q

def parseQuality (runtime : Runtime) (tsItem : TsPVQItemType D) : Except String Quality := do
  let q := Quality.ofInt 0
  let q := orWhen tsItem.n_OK .notOK q
  let q := orWhen tsItem.validated .validated q
  let q := orWhen tsItem.corrected .corrected q
  let q := orWhen tsItem.manual .manual q
  let q := orWhen tsItem.suspect .suspect q
  let q := orWhen tsItem.missing .missing q
  let q := orWhen tsItem.locked .locked q
  let q := orWhen tsItem.accepted .accepted q
  let _ ← match tsItem.custom with
    | some custom => do pure (q.setCustom (BitVec.ofInt 32 (← runtime.toInt32 custom)))
    | none => pure q
  let _ :=
    if tsItem.valMethodSpecified then q.setValidation (TsXMLEnumMapper.getValMethod tsItem.valMethod)
    else q.setValidation .none
  let _ :=
    if tsItem.corMethodSpecified then q.setCorrection (TsXMLEnumMapper.getCorMethod tsItem.corMethod)
    else q.setCorrection .none
  return q

def parseTsItem (runtime : Runtime) (tsItem : TsPVQItemType D) : Except String (Tvq D) := do
  let period ← parseTimePeriod runtime
    ⟨tsItem.fromDateTime, tsItem.toDateTime, tsItem.toSpecified, tsItem.duration⟩
  let quality ← parseQuality runtime tsItem
  pure ⟨⟨period.fromTime, .point⟩, ⟨tsItem.value, quality⟩⟩

def TsResponseLevelType.listsItems : TsResponseLevelType → Bool
  | .tsv | .tsvFail => true
  | _ => false

def countStatus (status : String) : List (String × Nat) → List (String × Nat)
  | [] => [(status, 1)]
  | (key, count) :: rest =>
      if key = status then (key, count + 1) :: rest else (key, count) :: countStatus status rest

/-- A response takes a status only when it is worse than the one it has. -/
def TsItemsResponseType.worsen (response : TsItemsResponseType D) (statusMessage : String)
    (statusType : StatusType) : TsItemsResponseType D :=
  if statusType.toNat > response.status.toNat then { response with status := statusType, statusMessage }
  else if statusType = response.status ∧ response.statusMessage = "" then { response with statusMessage }
  else response

namespace TsXmlImportData

variable (importData : TsXmlImportData D)

def addItemStatus (status : String) (bError : Bool) : TsXmlImportData D :=
  if bError then { importData with itemErrors := countStatus status importData.itemErrors }
  else { importData with itemStatuses := countStatus status importData.itemStatuses }

/-- `AddTsItemStatus` of a response that may be missing. -/
def addTsItemStatus (itemResponse : Option Nat) (statusMessage : String) (statusType : StatusType) :
    TsXmlImportData D :=
  let importData := importData.addItemStatus statusMessage (statusType = .failed)
  match itemResponse with
  | none => importData
  | some reference =>
      if importData.responseLevel = .tsv ∨ importData.responseLevel = .tsvFail ∧ statusType = .failed then
        { importData with
          objects := importData.objects.modify reference fun response => response.worsen statusMessage statusType }
      else importData

def listItem (itemResponse : Option Nat) : TsXmlImportData D :=
  match itemResponse with
  | none => importData
  | some reference =>
      { importData with
        tsResponse := { importData.tsResponse with
          itemsResponse := importData.tsResponse.itemsResponse ++ [reference] } }

/-- `AddTsStatus`, which does nothing at the level `NONE`. -/
def addTsStatus (statusMessage : String) (statusType : StatusType) : TsXmlImportData D :=
  if importData.tsResponse.responseLevel ≠ .none then
    { importData with
      tsResponse := { importData.tsResponse with
        status :=
          if statusType.toNat > importData.tsResponse.status.toNat then statusType else importData.tsResponse.status
        statusMessage := importData.tsResponse.statusMessage ++ [statusMessage] }
      errors := if statusType ≠ .ok then importData.errors ++ [statusMessage] else importData.errors }
  else importData

/-- An item whose time is already there is rejected, without being counted. -/
def addImportItem (runtime : Runtime) (tvq : Tvq D) (itemResponse : Option Nat) : TsXmlImportData D :=
  if importData.itemsResponses.any fun entry => entry.1 = tvq.time then
    (importData.addTsItemStatus itemResponse
      ("Item with time '" ++ runtime.toXmlDateTime tvq.time ++ "' already added") .failed).listItem itemResponse
  else
    { importData with
      itemsResponses := importData.itemsResponses ++ [(tvq.time, itemResponse)]
      timeSeries := importData.timeSeries.setValue tvq true }

def newResponse (item : TsPVQItemType D) (status : StatusType) (statusMessage : String) :
    Option Nat × TsXmlImportData D :=
  if importData.responseLevel.listsItems then
    (some importData.objects.length, { importData with objects := importData.objects ++ [⟨item, status, statusMessage⟩] })
  else (none, importData)

def addItem (runtime : Runtime) (nItemsInvalid : Nat) (item : TsPVQItemType D) : Nat × TsXmlImportData D :=
  if importData.tsResponse.status ≠ .failed then
    let (itemResp, importData) := importData.newResponse item .ok ""
    match parseTsItem runtime item with
    | .ok tvq => (nItemsInvalid, importData.addImportItem runtime tvq itemResp)
    | .error message =>
        (nItemsInvalid + 1, (importData.addTsItemStatus itemResp message .failed).listItem itemResp)
  else
    match importData.newResponse item .failed "Item skipped because of time series parsing error" with
    | (some reference, importData) => (nItemsInvalid + 1, importData.listItem (some reference))
    | (none, importData) => (nItemsInvalid, importData)

def addItems (runtime : Runtime) : List (TsPVQItemType D) → Nat → TsXmlImportData D → Nat × TsXmlImportData D
  | [], nItemsInvalid, importData => (nItemsInvalid, importData)
  | item :: rest, nItemsInvalid, importData =>
      let (nItemsInvalid, importData) := importData.addItem runtime nItemsInvalid item
      addItems runtime rest nItemsInvalid importData

end TsXmlImportData

def resolutionOf : Option TsIntervalType → TimeResolution
  | some .hour => .hour
  | some .day => .day
  | some .min15 => .minute15
  | some .week => .week
  | some .month => .month
  | some .year => .year
  | some .momentum | none => .unconstrained

def newImportData (responseLevel : TsResponseLevelType) : TsXmlImportData D where
  timeSeries := ⟨none, .unconstrained, SortedEntries.empty⟩
  tsResponse := ⟨.ok, [], [], responseLevel⟩
  objects := []
  itemsResponses := []
  replacePeriod := none
  originatorSendingTime := UtcTime.null
  totalItems := 0
  failedItems := 0
  errors := []
  responseLevel := responseLevel
  itemErrors := []
  itemStatuses := []

def parseReference (tsXML : TimeSeriesType D) (importData : TsXmlImportData D) : TsXmlImportData D :=
  if tsXML.reference.id = "" then
    importData.addTsStatus ("Invalid external reference: " ++ tsXML.reference.id) .failed
  else { importData with timeSeries := { importData.timeSeries with name := some tsXML.reference.id } }

def parseReplacePeriod (runtime : Runtime) (replacePeriod : Option TsTimePeriodType)
    (importData : TsXmlImportData D) : TsXmlImportData D :=
  match replacePeriod with
  | none => importData
  | some replacePeriod =>
      match parseTimePeriod runtime replacePeriod with
      | .ok period => { importData with replacePeriod := some period }
      | .error message => importData.addTsStatus message .failed

def parseValueMetaInfo (runtime : Runtime) (tsXML : TimeSeriesType D) (importData : TsXmlImportData D) :
    TsXmlImportData D :=
  match tsXML.valueMetaInfo with
  | none => importData
  | some valueMetaInfo =>
      parseReplacePeriod runtime valueMetaInfo.replacePeriod
        { importData with
          timeSeries := { importData.timeSeries with resolution := resolutionOf valueMetaInfo.interval } }

def closeItems (nItems nItemsInvalid : Nat) (importData : TsXmlImportData D) : TsXmlImportData D :=
  let importData := importData.addTsStatus (toString nItems ++ " items received") .ok
  let importData := if nItems = 0 then importData.addTsStatus "No items received" .failed else importData
  if nItemsInvalid > 0 ∧ nItemsInvalid = nItems then
    importData.addTsStatus "All items failed during parsing of XML" .failed
  else importData

def parseTimeSeries (runtime : Runtime) (tsXML : TimeSeriesType D) : TsXmlImportData D :=
  let importData := parseValueMetaInfo runtime tsXML (parseReference tsXML (newImportData tsXML.responseLevel))
  let (nItemsInvalid, importData) := importData.addItems runtime tsXML.items 0
  let importData := closeItems tsXML.items.length nItemsInvalid importData
  if importData.tsResponse.status ≠ .failed then
    { importData with
      originatorSendingTime := tsXML.reference.originatorSendingTimeDateTime
      totalItems := tsXML.items.length
      failedItems := nItemsInvalid }
  else importData

/-- What `ImportExport.ImportTimeSeries` is called with. -/
structure StorageCall (D : Type) where
  timeSeries : TimeSeries D
  originatorSendingTime : UtcTime
  replacePeriod : Option TimePeriod

/-- The storage is called by `SubmitTimeSeriesParser.ImportTimeSeries` unless parsing failed. -/
def storageCall (tsImportData : TsXmlImportData D) : Option (StorageCall D) :=
  if tsImportData.tsResponse.status ≠ .failed then
    some ⟨tsImportData.timeSeries, tsImportData.originatorSendingTime, tsImportData.replacePeriod⟩
  else none

def isOk (tvqStatus : TvqStorageStatus D) : Bool :=
  match tvqStatus.status with
  | .stored | .importDefinitionIgnore | .moreRecentDataExists => true
  | _ => false

def responseOf (importData : TsXmlImportData D) (tvqStatus : TvqStorageStatus D) : Option Nat :=
  ((importData.itemsResponses.find? fun entry => entry.1 = tvqStatus.tvq.time).map Prod.snd).join

def updateItem (importData : TsXmlImportData D) (tvqStatus : TvqStorageStatus D) : TsXmlImportData D :=
  let responseType := responseOf importData tvqStatus
  if isOk tvqStatus then
    (importData.addTsItemStatus responseType tvqStatus.message .ok).listItem responseType
  else
    let statusMessage :=
      if tvqStatus.status = .internalError then "Internal error: " ++ tvqStatus.message else tvqStatus.message
    ({ importData with failedItems := importData.failedItems + 1 }.addTsItemStatus responseType statusMessage
      .failed).listItem responseType

def updateItems : List (TvqStorageStatus D) → TsXmlImportData D → TsXmlImportData D
  | [], importData => importData
  | tvqStatus :: rest, importData => updateItems rest (updateItem importData tvqStatus)

def counterMessage (kind : String) (entry : String × Nat) : String :=
  kind ++ entry.1 ++ " (" ++ toString entry.2 ++ " items)"

def addCounters (kind : String) (statusType : StatusType) (counters : List (String × Nat))
    (importData : TsXmlImportData D) : TsXmlImportData D :=
  counters.foldl (fun importData entry => importData.addTsStatus (counterMessage kind entry) statusType) importData

def updateTimeSeriesResponse (metadata : TsXmlImportData D) (alStorageResponse : List (TvqStorageStatus D)) :
    TsXmlImportData D :=
  let metadata := updateItems alStorageResponse metadata
  let metadata := addCounters "STATUS: " .ok metadata.itemStatuses metadata
  let metadata := addCounters "ERROR: " .partlyOk metadata.itemErrors metadata
  if metadata.failedItems ≥ metadata.totalItems then
    { metadata with tsResponse := { metadata.tsResponse with status := .failed } }
  else metadata

def sampleRuntime : Runtime where
  toTimeSpan text :=
    if text = "PT1H" then .ok 36000000000 else .error ("The string '" ++ text ++ "' is not a valid TimeSpan value.")
  toInt32 _ := .error "Input string was not in a correct format."
  argumentNullMessage text := "Value cannot be null.\r\nParameter name: " ++ text
  argumentMessage text name := text ++ "\r\nParameter name: " ++ name
  toXmlDateTime time := toString time.ticks

def sampleItem (ticks value : Int) : TsPVQItemType Int where
  fromDateTime := UtcTime.ofTicks ticks
  toDateTime := UtcTime.null
  toSpecified := false
  duration := ""
  value := value
  n_OK := false
  suspect := false
  manual := false
  accepted := false
  locked := false
  validated := false
  corrected := false
  valMethod := .abs_LIMIT
  valMethodSpecified := false
  corMethod := .constant
  corMethodSpecified := false
  missing := false
  custom := none

end ServiceHost.TimeSeriesXml
