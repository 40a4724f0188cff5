import Mathlib.Init

/-!
`IccpLogic`, which remembers the points of the data sets of an ICCP server, and the
subscriptions that `IccpImportModule.Initialize` makes once it is connected.
-/

namespace ServiceHost.DataExchange.Iccp

structure VariableId where
  domain : String
  dataset : String
  variableCode : String
deriving DecidableEq, Repr

structure TimeserieMap where
  variableId : VariableId
  externalReference : String
  valueUnit : String
deriving DecidableEq, Repr

structure PointValueMapping where
  variableId : VariableId
  externalReference : String
  valueUnit : String
deriving DecidableEq, Repr

/-- The dictionaries of domains, data sets and points, in the order of the first insertion. -/
structure IccpLogic where
  domains : List PointValueMapping
  timeseriesMaps : List TimeserieMap

namespace IccpLogic

def containsDomain (logic : IccpLogic) (domainName : String) : Bool :=
  logic.domains.any fun point => point.variableId.domain = domainName

def containsDataSet (logic : IccpLogic) (domainName dataSetName : String) : Bool :=
  logic.domains.any fun point => point.variableId.domain = domainName ∧ point.variableId.dataset = dataSetName

def containsPoint (logic : IccpLogic) (variableId : VariableId) : Bool :=
  logic.domains.any fun point => point.variableId = variableId

def addDataSetPoint (domainName : Option String) (dataSetName variableName : String) (logic : IccpLogic) : IccpLogic :=
  let variableId : VariableId := ⟨domainName.getD "", dataSetName, variableName⟩
  if logic.containsPoint variableId then
    { logic with
      domains := logic.domains.map fun point => if point.variableId = variableId then ⟨variableId, "", ""⟩ else point }
  else { logic with domains := logic.domains ++ [⟨variableId, "", ""⟩] }

def clearExternalReference (logic : IccpLogic) : IccpLogic :=
  { logic with domains := logic.domains.map fun point => { point with externalReference := "", valueUnit := "" } }

def applyMap (point : PointValueMapping) (timeseriesMap : TimeserieMap) : PointValueMapping :=
  if timeseriesMap.variableId = point.variableId then
    { point with externalReference := timeseriesMap.externalReference, valueUnit := timeseriesMap.valueUnit }
  else point

/-- One entry of the map, with the number of entries that have found their point. -/
def matchMap (matched : Nat × IccpLogic) (timeseriesMap : TimeserieMap) : Nat × IccpLogic :=
  if matched.2.containsPoint timeseriesMap.variableId then
    (matched.1 + 1,
      { matched.2 with domains := matched.2.domains.map fun point => applyMap point timeseriesMap })
  else matched

def matchTimeseriesMapping (logic : IccpLogic) : Nat × IccpLogic :=
  if logic.timeseriesMaps.length = 0 ∨ logic.domains.length = 0 then (0, logic)
  else logic.timeseriesMaps.foldl matchMap (0, logic)

/-- The setter of `TimeseriesMaps`. -/
def setTimeseriesMaps (value : List TimeserieMap) (logic : IccpLogic) : IccpLogic :=
  (matchTimeseriesMapping { logic.clearExternalReference with timeseriesMaps := value }).2

def getDynamicDatasets (logic : IccpLogic) (domainName : String) : List String :=
  if logic.containsDomain domainName then
    logic.timeseriesMaps.foldl
      (fun ret timeseriesMap =>
        if timeseriesMap.variableId.domain ≠ domainName then ret
        else if logic.containsDataSet domainName timeseriesMap.variableId.dataset then ret
        else if timeseriesMap.variableId.dataset ∈ ret then ret
        else ret ++ [timeseriesMap.variableId.dataset]) []
  else []

def dataSetNames (logic : IccpLogic) (domainName : String) : List String :=
  ((logic.domains.filter fun point => point.variableId.domain = domainName).map fun point =>
    point.variableId.dataset).eraseDups

def getDataSetsWithExternalReference (logic : IccpLogic) (domainName : String) : List String :=
  let dynDss := logic.getDynamicDatasets domainName
  (logic.dataSetNames domainName).filter fun dataSetName =>
    dataSetName ∉ dynDss ∧ logic.domains.any fun point =>
      point.variableId.domain = domainName ∧ point.variableId.dataset = dataSetName ∧ point.externalReference ≠ ""

/-- The variables that a client puts first in a dynamic data set. -/
def transferSetVariables : List String :=
  ["Transfer_Set_Name", "DSConditions_Detected", "Event_Code_Detected", "Transfer_Set_Time_Stamp"]

/-- Without duplicates, and none at all for a data set that the map does not name. -/
def datasetVariables (timeseriesMaps : List TimeserieMap) (domainName datasetName : String) : List String :=
  let domainPrefix := domainName ++ "/"
  (timeseriesMaps.filter fun timeseriesMap =>
      timeseriesMap.variableId.domain = domainName ∧ timeseriesMap.variableId.dataset = datasetName).foldl
    (fun ret timeseriesMap =>
      let ret := if ret.length = 0 then transferSetVariables.map fun code => domainPrefix ++ code else ret
      let domainVariable := domainPrefix ++ timeseriesMap.variableId.variableCode
      if domainVariable ∈ ret then ret else ret ++ [domainVariable]) []

def getDynamicDatasetVariables (logic : IccpLogic) (domainName datasetName : String) : List String :=
  if logic.containsDomain domainName then datasetVariables logic.timeseriesMaps domainName datasetName else []

end IccpLogic

section Connected

/-- A point of a data set; the domain of a variable that all clients share is `null`. -/
structure DataSetPoint where
  domainName : Option String
  variableName : String

structure IccpServer where
  domainNames : List String
  dataSets : String → List String
  domainVariables : String → List String
  points : String → String → List DataSetPoint
  createDataSet : String → String → List String → Bool
  createdPoints : String → String → List String → List DataSetPoint

structure IccpParameters where
  domainNames : String
  useDynamicDatasets : Bool

inductive IccpCall
  | createDataSet (domainName dataSetName : String) (variableNames : List String)
  | createTransferSet (domainName dataSetName : String)
deriving DecidableEq, Repr

variable (parameters : IccpParameters) (server : IccpServer)

def domainNames : List String :=
  if server.domainNames.length = 0 ∧ parameters.domainNames.length > 0 then parameters.domainNames.splitOn ","
  else server.domainNames

/-- The arguments of `AddDataSetPoint` for one domain: the points of the data sets, and the
variables of the domain that are in none of them. -/
def domainPoints (domainName : String) : List (Option String × String × String) :=
  let points := (server.dataSets domainName).flatMap fun dataSetName =>
    (server.points domainName dataSetName).map fun point => (point.domainName, dataSetName, point.variableName)
  let domVars := points.foldl (fun domVars point => domVars.erase point.2.2) (server.domainVariables domainName)
  if parameters.useDynamicDatasets then points ++ domVars.map fun domVar => (some domainName, "", domVar)
  else points

def addPoint (logic : IccpLogic) (point : Option String × String × String) : IccpLogic :=
  logic.addDataSetPoint point.1 point.2.1 point.2.2

def readServer (logic : IccpLogic) : IccpLogic :=
  (domainNames parameters server).foldl
    (fun logic domainName => (domainPoints parameters server domainName).foldl addPoint logic) logic

/-- The transfer sets of the data sets that the logic takes for predefined. -/
def predefinedCalls (matched : Nat × IccpLogic) : List IccpCall :=
  if matched.1 > 0 then
    (domainNames parameters server).flatMap fun domainName =>
      (matched.2.getDataSetsWithExternalReference domainName).map (.createTransferSet domainName)
  else []

def createDynamicDataset (domainName : String) (state : IccpLogic × List IccpCall) (dataSetName : String) :
    IccpLogic × List IccpCall :=
  let variableNames := state.1.getDynamicDatasetVariables domainName dataSetName
  if server.createDataSet domainName dataSetName variableNames then
    let points := (server.createdPoints domainName dataSetName variableNames).map fun point =>
      (point.domainName, dataSetName, point.variableName)
    let logic := points.foldl addPoint state.1
    (logic.matchTimeseriesMapping.2,
      state.2 ++ [.createDataSet domainName dataSetName variableNames, .createTransferSet domainName dataSetName])
  else (state.1, state.2 ++ [.createDataSet domainName dataSetName variableNames])

def createDynamicDatasets (state : IccpLogic × List IccpCall) (domainName : String) : IccpLogic × List IccpCall :=
  (state.1.getDynamicDatasets domainName).foldl (createDynamicDataset server domainName) state

/-- `Initialize` after a connection was made, up to the start of the transfer sets. -/
def initializeModule (logic : IccpLogic) : IccpLogic × List IccpCall :=
  let matched := (readServer parameters server logic).matchTimeseriesMapping
  let state := (matched.2, predefinedCalls parameters server matched)
  if parameters.useDynamicDatasets then
    (domainNames parameters server).foldl (createDynamicDatasets server) state
  else state

end Connected

def newLogic (timeseriesMaps : List TimeserieMap) : IccpLogic := IccpLogic.setTimeseriesMaps timeseriesMaps ⟨[], []⟩

/-- What happens to a logic: points, maps that are loaded again, and earlier connections. -/
inductive LogicEvent
  | addDataSetPoint (domainName : Option String) (dataSetName variableName : String)
  | setTimeseriesMaps (timeseriesMaps : List TimeserieMap)
  | initializeModule (parameters : IccpParameters) (server : IccpServer)

def logicStep (logic : IccpLogic) : LogicEvent → IccpLogic
  | .addDataSetPoint domainName dataSetName variableName => logic.addDataSetPoint domainName dataSetName variableName
  | .setTimeseriesMaps timeseriesMaps => logic.setTimeseriesMaps timeseriesMaps
  | .initializeModule parameters server => (initializeModule parameters server logic).1

end ServiceHost.DataExchange.Iccp
