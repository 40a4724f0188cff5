import ServiceHost.DataExchange.EcpAmqpLogicCore
import ServiceHost.Library.Runs
import ServiceHost.Time.DiffUnitsCore
import ServiceHost.Time.WeekNumberCore

/-!
`NpAuctionRequester`: the commands that ask Nord Pool for auctions and for contracts. Options
are given as parsed, and the database by what its queries return.
-/

namespace ServiceHost.DataExchange.AuctionRequester

open Library EcpAmqpLogic

/-- `NordPoolRequestCommand.Commands` -/
inductive Commands
  | newAuction
  | getContract
  | patchCurves
  | patchBlocks
  | getCurveOrder
  | getBlockOrder
  | getAuctionOrders
  | getAuctionPortfolioVolumes
  | getAuctionPrices
deriving DecidableEq, Repr

structure NordPoolRequestCommand where
  command : Commands
  parameters : List (String × String)
deriving DecidableEq, Repr

structure DataExchangeExportMessage where
  protocolId : Int
  protocol : String
  senderKey : Int
  receiverKey : Int
  routingAddress : String
  format : String
  priority : String
  messageData : NordPoolRequestCommand
deriving DecidableEq, Repr

/-- The parameters of the system and of the receiver of the requests. -/
structure Requester where
  receiver : Int
  /-- Address and export queue of the receiver, if it has a routing now. -/
  recadr : Option (String × String)
  priorities : String
  operators : Option String
  defaultOperator : String

namespace Requester

variable (requester : Requester)

def getPriority (command : String) (default : Option String) : String :=
  ((split ',' requester.priorities).findSome? fun commandPriority =>
    if command.toList.isPrefixOf commandPriority.toList then (split ':' commandPriority)[1]? else none).getD
      (default.getD "Normal")

def getRoutingParameters (command : String) : String × String :=
  match requester.recadr with
  | none => ("NPAUCTION:", requester.getPriority command (some "LOW"))
  | some (address, exportQueue) => (address, requester.getPriority command (some exportQueue))

/-- The operators of the options, else those of the configuration; `none` when there are none
and the run is verbose. -/
def operatorsOf (operators : Option (List String)) (verbose : Bool) : Option (List String) :=
  match operators with
  | some operators => some operators
  | none =>
      match requester.operators with
      | some configured => some (split ',' configured)
      | none =>
          if requester.defaultOperator = "" && verbose then none else some [requester.defaultOperator]

def message (opunKey : Int) (routing : String × String) (data : NordPoolRequestCommand) :
    DataExchangeExportMessage where
  protocolId := 104
  protocol := "NP_REQUEST_COMMAND"
  senderKey := opunKey
  receiverKey := requester.receiver
  routingAddress := routing.1
  format := "JSON"
  priority := routing.2
  messageData := data

end Requester

section NewAuctions

inductive PeriodLoop
  | loop (date : UtcTime) (periods : List TimePeriod)
  | ended (outcome : Except RuleException (List TimePeriod))

def PeriodLoop.ofOutcome : Except RuleException PeriodLoop → PeriodLoop
  | .ok state => state
  | .error exception => ended (.error exception)

def increment : Int := Utc.day

/-- `periods[periods.Count - 1].SetUntil(until)` -/
def setLastUntil (periods : List TimePeriod) (untilTime : UtcTime) : List TimePeriod :=
  match periods.getLast? with
  | none => periods
  | some last => periods.dropLast ++ [{ last with untilTime }]

/-- A date without trade period begins a period or joins the last one. -/
def addDate (periods : List TimePeriod) (date : UtcTime) : Except RuleException (List TimePeriod) := do
  let begins ← match periods.getLast? with
    | none => pure true
    | some last =>
        if last.untilTime.isNull then pure false
        else do pure (decide ((← date.difference last.untilTime) > increment))
  if begins then do
    let fromTime ← date.sub increment
    return periods ++ [⟨fromTime, .null⟩]
  else return setLastUntil periods date

/-- One test of the condition of the loop, with the turn after it. The database tells whether the market
has a trade period with a delivery date. -/
def periodStep (tradePeriod : UtcTime → Bool) (force : Bool) (endTime : UtcTime) : PeriodLoop → PeriodLoop
  | .loop date periods => .ofOutcome do
      if ← UtcTime.less date endTime then
        let periods ← if tradePeriod date && !force then pure periods else addDate periods date
        return .loop (← date.add increment) periods
      else return .ended (.ok periods)
  | .ended outcome => .ended outcome

/-- The end that a last period of one day still lacks after the loop. -/
def closeLast (npCal : RegionalCalendar) (periods : List TimePeriod) : Except RuleException (List TimePeriod) :=
  match periods.getLast? with
  | none => .ok periods
  | some last =>
      if last.untilTime = .null then do
        return setLastUntil periods (← npCal.add last.fromTime increment 1)
      else .ok periods

/-- The gate-closing periods of `CreateNewAuctionCommands`. -/
def PeriodsReturn (npCal : RegionalCalendar) (tradePeriod : UtcTime → Bool) (force : Bool) (start : UtcTime)
    (days : Int) (periods : List TimePeriod) : Prop :=
  ∃ endTime looped, npCal.addDays start days = .ok endTime ∧
    Comes (periodStep tradePeriod force endTime) (.loop start []) (.ended (.ok looped)) ∧
    closeLast npCal looped = .ok periods

end NewAuctions

section Contracts

structure ContractOptions where
  operators : Option (List String)
  /-- The delivery date in the calendar of the database, null when its text is none. -/
  date : Option DateTime
  portfolioIds : Option (List String)
  areas : Option (List String)
  force : Bool
  verbose : Bool
  help : Bool

structure ContractDatabase where
  /-- Status of the messages received, the last one first. -/
  messageStatus : DateTime → Int → List Int
  portfolioIds : DateTime → Int → List String
  auctionIds : DateTime → Int → List String
  areas : DateTime → Int → List String
  today : DateTime

/-- `TransLogMessageStatus.ImportSuccessful` -/
def importSuccessful : Int := 1

/-- `TransLogMessageStatus.ImportPartly` -/
def importPartly : Int := 2

def saturday : Int := 6
def sunday : Int := 0

def ContractDatabase.daysSince (database : ContractDatabase) (date : DateTime) : Int :=
  database.today.ticks / Utc.day - date.ticks / Utc.day

def ContractDatabase.alreadyReceived (database : ContractDatabase) (date : DateTime) (opunKey : Int) : Bool :=
  match (database.messageStatus date opunKey).head? with
  | none => false
  | some messageStatus =>
      if messageStatus = importSuccessful then true
      else if messageStatus = importPartly then
        if database.today.dayOfWeek = saturday ∨ database.today.dayOfWeek = sunday then
          if date.dayOfWeek = saturday then decide (¬database.daysSince date > 1)
          else if date.dayOfWeek = sunday then decide (¬database.daysSince date > 2)
          else false
        else false
      else false

/-- The variables of the options that the loop over the operators fills and clears. -/
structure Filters where
  portfolioIds : Option (List String)
  areas : Option (List String)
deriving DecidableEq, Repr

variable (requester : Requester) (database : ContractDatabase)

def contractCommand (portfolioIds areas : List String) (id : String) : NordPoolRequestCommand where
  command := .getContract
  parameters := [("AuctionId", id), ("Portfolios", ",".intercalate portfolioIds), ("AreaCodes", ",".intercalate areas)]

def contractTurn (force : Bool) (date : DateTime) (filters : Filters) (opunKey : Int) :
    List DataExchangeExportMessage × Filters :=
  if !force && database.alreadyReceived date opunKey then ([], filters)
  else
    let dt := database.portfolioIds date opunKey
    if filters.portfolioIds = none ∧ dt = [] then ([], filters)
    else
      let portfolioIds := filters.portfolioIds.getD dt
      let ids := database.auctionIds date opunKey
      if ids = [] then ([], { filters with portfolioIds := none })
      else
        let dt := database.areas date opunKey
        if filters.areas = none ∧ dt = [] then ([], { filters with portfolioIds := none })
        else
          let areas := filters.areas.getD dt
          (ids.map fun id =>
              requester.message opunKey (requester.getRoutingParameters "GetContract")
                (contractCommand portfolioIds areas id),
            ⟨none, none⟩)

def contractLoop (force : Bool) (date : DateTime) :
    Filters → List String → Except RuleException (List DataExchangeExportMessage)
  | _, [] => .ok []
  | filters, oper :: operators => do
      let opunKey ← toInt32 oper
      let (commands, filters) := contractTurn requester database force date filters opunKey
      return commands ++ (← contractLoop force date filters operators)

/-- `CreateGetContractsCommands` for one delivery date, without `-u`. -/
def createGetContractsCommands (options : ContractOptions) :
    Except RuleException (List DataExchangeExportMessage) :=
  if options.help then .ok []
  else
    match options.date with
    | none => .ok []
    | some date =>
        match requester.operatorsOf options.operators options.verbose with
        | none => .ok []
        | some operators =>
            contractLoop requester database options.force date ⟨options.portfolioIds, options.areas⟩ operators

end Contracts

end ServiceHost.DataExchange.AuctionRequester
