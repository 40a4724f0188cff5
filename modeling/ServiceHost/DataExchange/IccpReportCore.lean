import ServiceHost.DataExchange.IccpLogicCore
import ServiceHost.DataExchange.QueueCore
import ServiceHost.Library.Utf16

/-!
The reports of an ICCP server. `IccpLogic` collects the values of a report in a message,
`IccpImportModule` holds the import lock from the beginning of a report to its end.
-/

namespace ServiceHost.DataExchange.Iccp

open Library

/-- The value of a point. A real number is the text that the runtime writes for it. -/
inductive PointValueType
  | discrete (value : Int)
  | real (text : String)
  | notImplemented (type : String)
deriving DecidableEq, Repr

structure PointValue where
  hasTimeStamp : Bool
  timeStamp : UInt64
  value : PointValueType
deriving DecidableEq, Repr

structure TimeSeries where
  tsReference : String
  timeStamp : Int
  measureUnit : String
  values : List String
deriving DecidableEq, Repr

/-- The message under construction; the time of its creation is left out. -/
structure TimeSeriesContract where
  documentIdentification : String
  origin : String
  timeSeries : List TimeSeries
deriving DecidableEq, Repr

/-- The arguments of `AddMessageValue`. Variables that all clients share have no domain. -/
structure ReportValue where
  domainName : Option String
  dataSetName : String
  variableName : String
  pointValue : PointValue
deriving DecidableEq, Repr

abbrev MessageProgram := Program (Option TimeSeriesContract) SystemException

def createNewMessage (docId origin : String) : TimeSeriesContract := ⟨docId, origin, []⟩

def valueAsString : PointValueType → Except SystemException String
  | .discrete value => .ok (toString value)
  | .real text => .ok text
  | .notImplemented _ => .error (.other "NotImplementedException")

/-- `DateTimeOffset.FromUnixTimeMilliseconds`. -/
def fromUnixTimeMilliseconds (milliseconds : Int) : Except SystemException Int :=
  if -62135596800000 ≤ milliseconds ∧ milliseconds ≤ 253402300799999 then .ok milliseconds
  else .error (.other "ArgumentOutOfRangeException")

/-- The cast of the time stamp to `long`. -/
def PointValue.milliseconds (pointValue : PointValue) : Int := pointValue.timeStamp.toBitVec.toInt

namespace IccpLogic

variable (logic : IccpLogic)

/-- A dictionary is not searched for `null`. -/
def getPointValueMapping (domainName : Option String) (dataSetName variableName : String) :
    Except SystemException (Option PointValueMapping) :=
  match domainName with
  | none => .error .argumentNull
  | some domainName => .ok (logic.domains.find? fun point => point.variableId = ⟨domainName, dataSetName, variableName⟩)

def findReference (call : ReportValue) : Except SystemException (Option (String × String)) :=
  if call.dataSetName = "" then
    .ok ((logic.timeseriesMaps.find? fun m =>
      some m.variableId.domain = call.domainName ∧ m.variableId.variableCode = call.variableName).map
        fun timeseriesMap => (timeseriesMap.externalReference, timeseriesMap.valueUnit))
  else do
    match ← logic.getPointValueMapping call.domainName call.dataSetName call.variableName with
    | none =>
        .ok ((logic.timeseriesMaps.find? fun m =>
          some m.variableId.domain = call.domainName ∧ m.variableId.dataset = call.dataSetName ∧
            m.variableId.variableCode = call.variableName).map
              fun timeseriesMap => (timeseriesMap.externalReference, timeseriesMap.valueUnit))
    | some pointValueMapping =>
        if pointValueMapping.externalReference = "" then .ok none
        else .ok (some (pointValueMapping.externalReference, pointValueMapping.valueUnit))

end IccpLogic

def updateSeries (tsReference : String) (update : TimeSeries → TimeSeries) : List TimeSeries → List TimeSeries
  | [] => []
  | series :: rest =>
      if series.tsReference = tsReference then update series :: rest
      else series :: updateSeries tsReference update rest

def changeSeries (change : List TimeSeries → List TimeSeries) : MessageProgram Unit :=
  Program.change fun message => message.map fun message => { message with timeSeries := change message.timeSeries }

def addMessageValue (logic : IccpLogic) (call : ReportValue) : MessageProgram Unit := do
  match ← Program.read id with
  | none => pure ()
  | some message =>
      if call.pointValue.hasTimeStamp = false then pure ()
      else
        match ← Program.ofExcept (logic.findReference call) with
        | none => pure ()
        | some (externalReference, valueUnit) => do
            let time ← Program.ofExcept (fromUnixTimeMilliseconds call.pointValue.milliseconds)
            match message.timeSeries.find? fun t => t.tsReference = externalReference with
            | none => do
                let value ← Program.ofExcept (valueAsString call.pointValue.value)
                changeSeries fun timeSeries => timeSeries ++ [⟨externalReference, time, valueUnit, [value]⟩]
            | some _ => do
                changeSeries (updateSeries externalReference fun ts => { ts with timeStamp := time })
                let value ← Program.ofExcept (valueAsString call.pointValue.value)
                changeSeries (updateSeries externalReference fun ts =>
                  { ts with values := ts.values.modifyHead fun _ => value })

section SendMessage

abbrev Priorities := List (String × String)

/-- What the store of payloads and the import answer to a message that is sent. -/
structure SendOutcomes where
  setMessageData : Except SystemException ClaimTicket
  submitImport : Option SystemException

def priorityOf (priorities : Priorities) (datasetName : String) : Except SystemException String :=
  match (priorities.lookup datasetName).or (priorities.lookup "default") with
  | some priority => .ok priority
  | none => .error .nullReference

variable (serializeObject : TimeSeriesContract → String) (priorities : Priorities)

def buildDataExchangeImportMessage (outcomes : SendOutcomes) (datasetName : String) (message : TimeSeriesContract) :
    Except SystemException DataExchangeMessage := do
  let priority ← priorityOf priorities datasetName
  let msgStr := serializeObject message
  let dataExchMsg : DataExchangeMessage :=
    { version := if 1000 + (Utf16.encode msgStr.toList).length ≥ 4 * 1024 * 1024 then 1 else 0
      externalReference := some message.documentIdentification
      messageData := none
      claimTicket := none
      senderId := message.origin
      receiverId := ""
      senderName := ""
      receiverName := ""
      format := "JSON"
      country := ""
      protocolId := 0
      protocol := "JSON.TS"
      priority := priority
      routingAddress := "ICCP:" ++ message.origin
      messageLogId := 0
      messageReference := ""
      senderKey := 0
      receiverKey := 0 }
  if dataExchMsg.version = 0 then .ok { dataExchMsg with messageData := some msgStr }
  else do .ok { dataExchMsg with claimTicket := some (← outcomes.setMessageData) }

/-- `SendMessage` of the logic, with whether a message was sent. -/
def sendMessage (outcomes : SendOutcomes) (datasetName : String) (message : Option TimeSeriesContract) :
    Except SystemException Bool :=
  match message with
  | none => .ok false
  | some message =>
      if message.timeSeries.length = 0 then .ok false
      else do
        let _ ← buildDataExchangeImportMessage serializeObject priorities outcomes datasetName message
        match outcomes.submitImport with
        | none => .ok true
        | some exception => .error exception

end SendMessage

/-- The module, with how often the lock has been entered and left by its callbacks. A report
is in progress from its beginning to its end, or until the connection is closed. -/
structure ReportModule where
  logic : IccpLogic
  priorities : Priorities
  messageOrigin : String
  message : Option TimeSeriesContract
  entered : Nat
  exited : Nat
  inProgress : Bool

inductive ReportEvent
  | start (docId : String)
  | value (call : ReportValue)
  | finish (datasetName : String) (outcomes : SendOutcomes)
  | connectionClosed

namespace ReportModule

variable (serializeObject : TimeSeriesContract → String) (module : ReportModule)

def lockCount : Int := module.entered - module.exited

/-- `SendMessage` of the module: an exception leaves the lock as it is. -/
def finishReport (datasetName : String) (outcomes : SendOutcomes) : ReportModule :=
  match sendMessage serializeObject module.priorities outcomes datasetName module.message with
  | .error _ => { module with inProgress := false }
  | .ok _ => { module with
      exited := if module.lockCount > 0 then module.exited + 1 else module.exited
      inProgress := false }

def reportStep (event : ReportEvent) : ReportModule :=
  match event with
  | .start docId => { module with
      entered := module.entered + 1
      message := some (createNewMessage docId module.messageOrigin)
      inProgress := true }
  | .value call => { module with message := (addMessageValue module.logic call module.message).2 }
  | .finish datasetName outcomes => module.finishReport serializeObject datasetName outcomes
  | .connectionClosed => { module with inProgress := false }

end ReportModule

end ServiceHost.DataExchange.Iccp
