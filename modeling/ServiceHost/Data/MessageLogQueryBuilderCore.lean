import ServiceHost.Library.Placeholders
import ServiceHost.Library.Program
import ServiceHost.Time.WeekNumberCore

/-!
`MessageLogQueryBuilder.SqlStatement`: the filters of the message log append their conditions to
the text of a query and create their parameters, each for itself. The texts are ASCII.
-/

namespace ServiceHost.Data

open Library

abbrev SqlText := List Char

def sql (text : String) : SqlText := text.toList

inductive QueryValue
  | dateTime (time : DateTime)
  | int (number : Int)
  | text (characters : String)
deriving DecidableEq, Repr

/-- `SqlParameterCollection` is a list of these. -/
structure DbParameter where
  parameterName : SqlText
  value : QueryValue
deriving DecidableEq, Repr

structure MessageLogQueryParameters where
  «import» : Bool
  «export» : Bool
  startTime : DateTime
  endTime : DateTime
  createdDate : Bool
  transactionPeriod : Bool
  transferDate : Bool
  measurePointName : Option String
  messageReference : Option String
  transactionReference : Option String
  senderName : Option String
  receiverName : Option String
  componentCode : Option String
  productCode : Option String
  exchangeMethodName : Option String
  actorType : Int
  actorName : Option String
  includeAck : Bool
  includeHandled : Bool
  routingAddress : Option String
  externalReference : Option String
  fileName : Option String
  globalReference : Option String
  transactionStatus : List Int
  protocolType : List Int
  messageStatus : List Int

/-- What the culture of the thread makes of a text: its capitals, and whether it ends with `%`. -/
structure QueryCulture where
  toUpper : String → String
  endsWithPercent : String → Bool

/-- The local variables of the getter and the parameters of the builder. -/
structure Query where
  select : SqlText
  «from» : SqlText
  «where» : SqlText
  distinctRequired : Bool
  sqlParameters : List DbParameter

namespace MessageLogQueryBuilder

def decimalText : Int → SqlText
  | .ofNat number => Nat.toDigits 10 number
  | .negSucc number => '-' :: Nat.toDigits 10 (number + 1)

/-- `string.Format(":{0:00}", number)` -/
def parameterName (number : Nat) : SqlText :=
  if number < 10 then ':' :: '0' :: Nat.toDigits 10 number else ':' :: Nat.toDigits 10 number

section Texts

def selectText : SqlText := sql ("select mh.msg_id, mh.direct, mh.prot_key, mh.date_created, " ++
  "mh.message_reference, mh.start_date, mh.end_date, mh.sender, mh.receiver, mh.transfer_date, " ++
  "mh.message_status, mh.date_ack_received, mh.filesize, mh.routing_address, mh.external_reference, " ++
  "ptp.name as proto_name, ops.name as sender_name, ops.shorname as sender_shorname, " ++
  "ops.country_key as sender_country_key, opr.name as receiver_name, opr.shorname as receiver_shorname, " ++
  "opr.country_key as receiver_country_key, ms.name as message_status_name, " ++
  "(case mh.direct when 0 then mh.transfer_date else mh.date_created end) as sort_date, " ++
  "em.name as exchange_method_name")

def fromText : SqlText := sql ("from message_header mh, oprtunit ops, oprtunit opr, proto_tp ptp, " ++
  "message_status_tp ms, exchmeth em")

def whereText : SqlText := sql ("where mh.sender = ops.opun_key (+) and mh.receiver = opr.opun_key (+) " ++
  "and mh.exmt_key = em.exmt_key (+) and mh.prot_key = ptp.prot_key and mh.message_status = ms.message_status")

def excludedAckFiles : List Int := [17, 64, 73, 96, 97, 106, 124, 127]

def joined : List Int → SqlText
  | [] => []
  | [number] => decimalText number
  | number :: next :: rest => decimalText number ++ sql "," ++ joined (next :: rest)

end Texts

section Conditions

def append (query : Query) (text : SqlText) : Query := { query with «where» := query.«where» ++ text }

def fetchDetails (fetchTransactions : Bool) (query : Query) : Query :=
  if fetchTransactions then
    { query with
      select := query.select ++ sql ", td.transaction_status, td.transaction_reference"
      «from» := query.«from» ++ sql ", transaction_details td"
      «where» := query.«where» ++ sql " and td.msg_id(+) = mh.msg_id" }
  else query

def directionFilter (parameters : MessageLogQueryParameters) (query : Query) : Query :=
  if parameters.«import» && !parameters.«export» then append query (sql " and mh.direct = 0")
  else if parameters.«export» && !parameters.«import» then append query (sql " and mh.direct = 1")
  else if !parameters.«import» && !parameters.«export» then
    append query (sql " and mh.direct = 0 and mh.direct = 1")
  else query

def ackFilter (parameters : MessageLogQueryParameters) (query : Query) : Query :=
  if !parameters.includeAck && excludedAckFiles.length > 0 then
    append query (sql " and mh.prot_key not in (" ++ joined excludedAckFiles ++ sql ")")
  else query

def handledFilter (parameters : MessageLogQueryParameters) (query : Query) : Query :=
  if !parameters.includeHandled then append query (sql " and mh.handled is null") else query

def isNullOrEmpty (text : Option String) : Bool := text.getD "" = ""

def joinDetails (parameters : MessageLogQueryParameters) (fetchTransactions : Bool) (query : Query) : Query :=
  if parameters.transactionStatus.length > 0 || !isNullOrEmpty parameters.transactionReference then
    let query :=
      if !fetchTransactions then
        { query with
          «from» := query.«from» ++ sql ", transaction_details td"
          «where» := query.«where» ++ sql " and mh.msg_id = td.msg_id" }
      else query
    { query with distinctRequired := true }
  else query

def numberFilter (condition : String) (numbers : List Int) (query : Query) : Query :=
  if numbers.length > 0 then append query (sql condition ++ joined numbers ++ sql ")") else query

def conditions (parameters : MessageLogQueryParameters) (fetchTransactions : Bool) : Query :=
  let query : Query := ⟨selectText, fromText, whereText, false, []⟩
  let query := fetchDetails fetchTransactions query
  let query := directionFilter parameters query
  let query := ackFilter parameters query
  let query := handledFilter parameters query
  let query := joinDetails parameters fetchTransactions query
  let query := numberFilter " and td.transaction_status in (" parameters.transactionStatus query
  let query := numberFilter " and mh.prot_key in (" parameters.protocolType query
  numberFilter " and mh.message_status in (" parameters.messageStatus query

end Conditions

section Filters

/-- `SqlParameters.CreateParameter(value)` -/
def createParameter (value : QueryValue) : Program Query SystemException DbParameter := do
  let number ← Program.read fun query => query.sqlParameters.length + 1
  let param : DbParameter := ⟨parameterName number, value⟩
  Program.change fun query => { query with sqlParameters := query.sqlParameters ++ [param] }
  return param

def appendText (text : SqlText) : Program Query SystemException Unit := Program.change fun query => append query text

def createParameters : List QueryValue → Program Query SystemException (List DbParameter)
  | [] => return []
  | value :: values => do
      let param ← createParameter value
      let params ← createParameters values
      return param :: params

def comparisonText : List (String × DbParameter) → SqlText
  | [] => []
  | (text, param) :: rest => sql text ++ param.parameterName ++ comparisonText rest

structure Filter where
  value : Option QueryValue
  texts : List String
  closing : String

/-- The parameters of a filter are created before its texts are appended. -/
def Filter.apply (filter : Filter) : Program Query SystemException Unit :=
  match filter.value with
  | none => return ()
  | some value => do
      let params ← createParameters (filter.texts.map fun _ => value)
      appendText (comparisonText (filter.texts.zip params) ++ sql filter.closing)

/-- The text, or its capitals, with `%` behind it unless it is there already. -/
def withPercent (culture : QueryCulture) (capitals : Bool) (text : String) : String :=
  let changed := if capitals then culture.toUpper text else text
  if culture.endsWithPercent text then changed else changed ++ "%"

def likeValue (culture : QueryCulture) (capitals : Bool) (text : Option String) : Option QueryValue :=
  if isNullOrEmpty text then none else some (.text (withPercent culture capitals (text.getD "")))

variable (culture : QueryCulture) (parameters : MessageLogQueryParameters)

def addFullDay (time : DateTime) : Except SystemException DateTime := DateTime.ofTicks (time.ticks + Utc.day)

def dateFilter : Program Query SystemException Unit := do
  if parameters.startTime ≠ DateTime.minValue then
    let start_param ← createParameter (.dateTime parameters.startTime)
    let endTime ← Program.ofExcept (addFullDay parameters.endTime)
    let end_param ← createParameter (.dateTime endTime)
    if parameters.createdDate then
      appendText (sql " and mh.date_created >= " ++ start_param.parameterName)
      appendText (sql " and mh.date_created <= " ++ end_param.parameterName)
    else if parameters.transferDate then
      let start_param2 ← createParameter (.dateTime parameters.startTime)
      let endTime2 ← Program.ofExcept (addFullDay parameters.endTime)
      let end_param2 ← createParameter (.dateTime endTime2)
      appendText (sql " and ((mh.direct = 0 and mh.transfer_date >= " ++ start_param.parameterName)
      appendText (sql " and mh.transfer_date <= " ++ end_param.parameterName ++ sql ")")
      appendText (sql " or ")
      appendText (sql " (mh.direct = 1 and nvl(mh.transfer_date, mh.date_created) >= " ++ start_param2.parameterName)
      appendText (sql " and nvl(mh.transfer_date, mh.date_created) <= " ++ end_param2.parameterName ++ sql "))")
    else if parameters.transactionPeriod then
      appendText (sql " and (mh.end_date > " ++ start_param.parameterName ++ sql " and mh.start_date < " ++
        end_param.parameterName ++ sql ")")

def measurePointFilter : Filter where
  value := likeValue culture true parameters.measurePointName
  texts := [" and mh.msg_id in (select tobj.msg_id from transaction_objects tobj, meas_pnt mp, exch_pnt ep where " ++
    "((tobj.object_key = mp.meas_key and tobj.link_type = 2 and tobj.object_type = 1 and upper(mp.name) like ",
    ") or (tobj.object_key = ep.exch_key and tobj.link_type = 3 and tobj.object_type = 4 and upper(ep.name) like "]
  closing := ")))"

def messageReferenceFilter : Filter where
  value := likeValue culture false parameters.messageReference
  texts := [" and mh.message_reference like "]
  closing := ""

def transactionReferenceFilter : Filter where
  value := likeValue culture false parameters.transactionReference
  texts := [" and td.transaction_reference like "]
  closing := ""

def componentCodeFilter : Filter where
  value := likeValue culture true parameters.componentCode
  texts := [" and mh.msg_id in (select tobj.msg_id from transaction_objects tobj where tobj.link_type = 9 and " ++
    "upper(tobj.object_name) like "]
  closing := ")"

def productCodeFilter : Filter where
  value := likeValue culture true parameters.productCode
  texts := [" and mh.msg_id in (select tobj.msg_id from transaction_objects tobj where tobj.link_type = 10 and " ++
    "upper(tobj.object_name) like "]
  closing := ")"

def actorTypeFilter : Filter where
  value := if parameters.actorType ≠ -1 then some (.int parameters.actorType) else none
  texts := [" and (opr.oprstatu = ", " or ops.oprstatu = "]
  closing := ")"

def actorNameFilter : Filter where
  value := likeValue culture true parameters.actorName
  texts := [" and (upper(ops.name) like ", " or upper(opr.name) like "]
  closing := ")"

def senderNameFilter : Filter where
  value := likeValue culture true parameters.senderName
  texts := [" and upper(ops.name) like "]
  closing := ""

def receiverNameFilter : Filter where
  value := likeValue culture true parameters.receiverName
  texts := [" and upper(opr.name) like "]
  closing := ""

def exchangeMethodNameFilter : Filter where
  value := likeValue culture true parameters.exchangeMethodName
  texts := [" and upper(em.name) like "]
  closing := ""

def routingAddressFilter : Filter where
  value := likeValue culture true parameters.routingAddress
  texts := [" and upper(mh.routing_address) like "]
  closing := ""

def externalReferenceFilter : Filter where
  value := likeValue culture false parameters.externalReference
  texts := [" and mh.external_reference like "]
  closing := ""

def fileNameFilter : Filter where
  value := likeValue culture true parameters.fileName
  texts := [" and upper(mh.filename) like "]
  closing := ""

def globalReferenceFilter : Filter where
  value := likeValue culture true parameters.globalReference
  texts := [" and mh.msg_id in (select tobj.msg_id from transaction_objects tobj where tobj.link_type = 11 and " ++
    "upper(tobj.object_name) like "]
  closing := ")"

def laterFilters : List Filter := [
  measurePointFilter culture parameters, messageReferenceFilter culture parameters,
  transactionReferenceFilter culture parameters, componentCodeFilter culture parameters,
  productCodeFilter culture parameters, actorTypeFilter parameters, actorNameFilter culture parameters,
  senderNameFilter culture parameters, receiverNameFilter culture parameters,
  exchangeMethodNameFilter culture parameters, routingAddressFilter culture parameters,
  externalReferenceFilter culture parameters, fileNameFilter culture parameters,
  globalReferenceFilter culture parameters]

def filters : Program Query SystemException Unit := do
  dateFilter parameters
  Program.forEach Filter.apply (laterFilters culture parameters)

end Filters

end MessageLogQueryBuilder

structure MessageLogQueryBuilder where
  parameters : Option MessageLogQueryParameters
  sqlParameters : List DbParameter
  fetchTransactions : Bool

namespace MessageLogQueryBuilder

def new : MessageLogQueryBuilder := ⟨none, [], false⟩

def statementText (query : Query) : SqlText :=
  let select := if query.distinctRequired then query.select.take 7 ++ sql "distinct " ++ query.select.drop 7 else query.select
  select ++ sql " " ++ query.«from» ++ sql " " ++ query.«where» ++ sql " order by sort_date desc"

/-- The getter leaves its parameters in the builder, also when it ends in an exception. -/
def sqlStatement (culture : QueryCulture) : Program MessageLogQueryBuilder SystemException (Option SqlText) := fun builder =>
  match builder.parameters with
  | none => (.ok none, builder)
  | some parameters =>
      match filters culture parameters (conditions parameters builder.fetchTransactions) with
      | (outcome, query) =>
          (outcome.map fun _ => some (statementText query), { builder with sqlParameters := query.sqlParameters })

/-- A use of a builder: the parameters and the flag are set and the text is read. -/
def use (culture : QueryCulture) (builder : MessageLogQueryBuilder)
    (wanted : Option MessageLogQueryParameters × Bool) : MessageLogQueryBuilder :=
  (sqlStatement culture { builder with parameters := wanted.1, fetchTransactions := wanted.2 }).2

/-- The command of `GetMessageHeaders`. -/
def messageHeadersCommand (culture : QueryCulture) (parameters : MessageLogQueryParameters) :
    Except SystemException (Option SqlText × List DbParameter) :=
  match sqlStatement culture { new with fetchTransactions := true, parameters := some parameters } with
  | (outcome, query) => outcome.map fun text => (text, query.sqlParameters)

end MessageLogQueryBuilder

end ServiceHost.Data
