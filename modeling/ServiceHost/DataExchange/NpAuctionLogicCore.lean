import ServiceHost.DataExchange.CompelloImportCore

/-!
`NpAuctionLogic.SubmitImport`: an answer of Nord Pool becomes a message of the import that
is a copy of the command with another payload. Answers are the texts that they are
serialised to, and identifiers that the runtime makes up are given.
-/

namespace ServiceHost.DataExchange.NpAuction

open Library

inductive Response
  | auction (json : String)
  | auctions (json : String)
  | tradesSummary (json : String)
  | tradesSummaries (json : String)
  | curveOrder (json : String)
  | blockOrder (json : String)
  | orders (json : String)
  | portfolioVolumes (json : String)
  | prices (json : String)
  | errorMessage (json : String)
deriving DecidableEq

def Response.serialised : Response → String
  | auction json | auctions json | tradesSummary json | tradesSummaries json | curveOrder json | blockOrder json
  | orders json | portfolioVolumes json | prices json | errorMessage json => json

structure NpAuctionOutcomes where
  newGuid : String
  copyId : String
  answerId : String
  claimHandler : String
  kind : TransactionKind
  transaction : Compello.TransactionOutcomes
  enqueueImport : EnqueueImportOutcomes
  enqueueErroneous : Option SystemException

section MessageData

variable {X : Type}

def claimHandlers : List String := ["LocalFileshareClaimHandler", "CloudBlobClaimHandler", "DatabaseClaimHandler"]

/-- `ClaimCheckFactory.Create`, by the name of the handler. -/
def createClaimHandler (claimHandler handlerName : String) : Except SystemException String :=
  let name := if handlerName = "" then claimHandler else handlerName
  if name ∈ claimHandlers then .ok name else .error (.other "ArgumentOutOfRangeException")

def setMessageData (claimHandler storageId : String) (payload : Option String) (handlerName : String)
    (message : DataExchangeMessage) : Exchange X DataExchangeMessage :=
  if message.version = 0 then pure { message with messageData := payload }
  else do
    let name ← Program.ofExcept (createClaimHandler claimHandler handlerName)
    let ticket : ClaimTicket := ⟨name, storageId⟩
    Program.change fun world =>
      { world with payloads := Function.update world.payloads ticket (some (payload.getD "")) }
    pure { message with claimTicket := some ticket }

def deleteMessageData (message : DataExchangeMessage) : Exchange X DataExchangeMessage :=
  if message.version = 0 then pure { message with messageData := some "" }
  else do
    message.deleteMessageData none
    pure message

def importMessageOf (claimHandler copyId : String) (exportMessage : DataExchangeMessage) :
    Exchange X DataExchangeMessage := do
  let payloads ← Program.read World.payloads
  let payload ← Program.ofExcept (exportMessage.getMessageData payloads none)
  let handlerName := (exportMessage.claimTicket.map ClaimTicket.handlerName).getD ""
  setMessageData claimHandler copyId payload handlerName
    { version := exportMessage.version
      externalReference := some (toString exportMessage.messageLogId)
      messageData := none
      claimTicket := exportMessage.claimTicket
      senderId := exportMessage.senderId
      receiverId := exportMessage.receiverId
      senderName := exportMessage.senderName
      receiverName := exportMessage.receiverName
      format := exportMessage.format
      country := exportMessage.country
      protocolId := exportMessage.protocolId
      protocol := exportMessage.protocol
      priority := exportMessage.priority
      routingAddress := exportMessage.routingAddress
      messageLogId := 0
      messageReference := ""
      senderKey := 0
      receiverKey := 0 }

end MessageData

section SubmitImport

variable {X : Type}

/-- The message that `EnqueueImportMessage` leaves, also where it raises an exception. -/
def filledMessage (defaultRoutingAddress : Option String) (message : DataExchangeMessage) : DataExchangeMessage :=
  match routingAddressOrDefault defaultRoutingAddress message with
  | .error _ => message
  | .ok routingAddress =>
      { message with
        routingAddress := routingAddress
        priority := if message.priority = "" then "Normal" else message.priority }

/-- `WsLogicBase.SubmitImport`: a message that is not valid goes to the error queue. -/
def submitImport (toUpperInvariant : Char → Char) (outcomes : NpAuctionOutcomes) (message : DataExchangeMessage) :
    Exchange X Unit :=
  Compello.addMessage outcomes.kind outcomes.transaction <|
    Program.handle (DataExchangeApi.enqueueImportMessage toUpperInvariant outcomes.enqueueImport message) fun exception =>
      match exception with
      | .invalidMessage _ | .invalidMetadata _ => do
          DataExchangeApi.enqueueErroneousImportMessage outcomes.enqueueErroneous
            (filledMessage outcomes.enqueueImport.defaultRoutingAddress message)
          logMessage 8100
          logMessage 8209
      | _ => Program.raise exception

def switched (exportCommand : DataExchangeMessage) (externalReference : Option String) (protocol : String)
    (protocolId : Int) (message : DataExchangeMessage) : DataExchangeMessage :=
  { message with
    externalReference := externalReference
    protocol := protocol
    protocolId := protocolId
    senderId := exportCommand.receiverId
    senderName := exportCommand.receiverName
    receiverId := exportCommand.senderId
    receiverName := exportCommand.senderName }

/-- An answer that the initialiser puts into `MessageData`. -/
def answerInProperty (outcomes : NpAuctionOutcomes) (exportCommand : DataExchangeMessage)
    (externalReference : Option String) (protocol : String) (protocolId : Int) (json : String) :
    Exchange X DataExchangeMessage := do
  let message ← importMessageOf outcomes.claimHandler outcomes.copyId exportCommand
  pure { switched exportCommand externalReference protocol protocolId message with messageData := some json }

def answerInStore (outcomes : NpAuctionOutcomes) (exportCommand : DataExchangeMessage)
    (externalReference : Option String) (protocol : String) (protocolId : Int) (json : String) :
    Exchange X DataExchangeMessage := do
  let message ← importMessageOf outcomes.claimHandler outcomes.copyId exportCommand
  let message ← deleteMessageData (switched exportCommand externalReference protocol protocolId message)
  setMessageData outcomes.claimHandler outcomes.answerId (some json) "" message

variable (outcomes : NpAuctionOutcomes) (exportCommand : DataExchangeMessage) (json : String)

def auctionAnswer : Exchange X DataExchangeMessage :=
  answerInProperty outcomes exportCommand (some outcomes.newGuid) "JSON.NPAUCTION" 115 json

def auctionsAnswer : Exchange X DataExchangeMessage :=
  answerInProperty outcomes exportCommand (some outcomes.newGuid) "JSON.NPAUCTIONS" 115 json

def tradesSummaryAnswer : Exchange X DataExchangeMessage :=
  answerInProperty outcomes exportCommand (some outcomes.newGuid) "JSON.NPCONTRACT" 117 json

def tradesSummariesAnswer : Exchange X DataExchangeMessage :=
  answerInProperty outcomes exportCommand (some outcomes.newGuid) "JSON.NPCONTRACTS" 117 json

def curveOrderAnswer : Exchange X DataExchangeMessage :=
  answerInStore outcomes exportCommand (some exportCommand.messageReference) "JSON.NP_CURVE_ORDER" 124 json

def blockOrderAnswer : Exchange X DataExchangeMessage :=
  answerInStore outcomes exportCommand (some exportCommand.messageReference) "JSON.NP_BLOCK_ORDER" 127 json

def ordersAnswer : Exchange X DataExchangeMessage :=
  answerInStore outcomes exportCommand (some outcomes.newGuid) "JSON.NP.AUCTION_ORDERS" 129 json

def portfolioVolumesAnswer : Exchange X DataExchangeMessage :=
  answerInStore outcomes exportCommand (some outcomes.newGuid) "JSON.NP.AUCTION_PORTFOLIO_VOLUMES" 130 json

def pricesAnswer : Exchange X DataExchangeMessage :=
  answerInStore outcomes exportCommand (some outcomes.newGuid) "JSON.NP.AUCTION_PRICES" 131 json

def errorMessageAnswer : Exchange X DataExchangeMessage :=
  answerInStore outcomes exportCommand (some exportCommand.messageReference) "JSON.NP_ERROR_MESSAGE" 128 json

def answerMessage : Response → Exchange X DataExchangeMessage
  | .auction json => auctionAnswer outcomes exportCommand json
  | .auctions json => auctionsAnswer outcomes exportCommand json
  | .tradesSummary json => tradesSummaryAnswer outcomes exportCommand json
  | .tradesSummaries json => tradesSummariesAnswer outcomes exportCommand json
  | .curveOrder json => curveOrderAnswer outcomes exportCommand json
  | .blockOrder json => blockOrderAnswer outcomes exportCommand json
  | .orders json => ordersAnswer outcomes exportCommand json
  | .portfolioVolumes json => portfolioVolumesAnswer outcomes exportCommand json
  | .prices json => pricesAnswer outcomes exportCommand json
  | .errorMessage json => errorMessageAnswer outcomes exportCommand json

/-- The overloads of `NpAuctionLogic.SubmitImport`. -/
def submitAnswer (toUpperInvariant : Char → Char) (response : Response) : Exchange X Unit := do
  let message ← answerMessage outcomes exportCommand response
  submitImport toUpperInvariant outcomes message

end SubmitImport

end ServiceHost.DataExchange.NpAuction
