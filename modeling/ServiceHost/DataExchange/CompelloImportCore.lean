import ServiceHost.DataExchange.EnqueueImportCore

/-!
The import module for Compello: `CompelloImportModule.OnMessageReceived`, the importer that
it calls, and the translator of the metadata. Each place where a collaborator may fail has
its own outcome, and faults of the Compello server are exceptions of their own class.
-/

namespace ServiceHost.DataExchange.Compello

open Library

structure Dictionary (comparer : String → List Char) where
  entries : List (String × Option String)
  distinct : (entries.map fun entry => comparer entry.1).Nodup

namespace Dictionary

variable {comparer : String → List Char}

def tryGetValue (dictionary : Dictionary comparer) (key : String) : Option (Option String) :=
  (dictionary.entries.find? fun entry => comparer entry.1 = comparer key).map Prod.snd

/-- `ToString` of an object that is there. -/
def objectText : Option String → Except SystemException String
  | none => .error .nullReference
  | some text => .ok text

/-- The constructor that copies a dictionary for another comparer. -/
def copy (dictionary : Dictionary comparer) (other : String → List Char) :
    Except SystemException (Dictionary other) :=
  if distinct : (dictionary.entries.map fun entry => other entry.1).Nodup then .ok ⟨dictionary.entries, distinct⟩
  else .error (.other "ArgumentException")

end Dictionary

abbrev Metadata := Dictionary String.toList

structure ImportMessageReceivedEventArgs where
  messageId : Int
  metadata : Option Metadata

structure ImportMessage (comparer : String → List Char) where
  messageId : Int
  data : String
  metadata : Option (Dictionary comparer)

/-- A message of the import, with the fields that no queue looks at. -/
structure DataExchangeImportMessage extends DataExchangeMessage where
  externalText : String
  subAddress : String
  productCode : String
deriving DecidableEq, Repr

def DataExchangeImportMessage.setClaimTicket (message : DataExchangeImportMessage) (ticket : ClaimTicket) :
    DataExchangeImportMessage :=
  { message with claimTicket := some ticket }

structure SubmitImportResponse where
  requestOk : Bool
deriving DecidableEq, Repr

structure TransactionOutcomes where
  begin_ : Option SystemException
  commit : Option SystemException
  dispose : Option SystemException

structure ImporterOutcomes where
  kind : TransactionKind
  getRoutingAddressForImport : Except SystemException String
  checkIn : Except SystemException ClaimTicket
  checkInAgain : Except SystemException ClaimTicket
  enqueueImport : EnqueueImportOutcomes
  enqueueErroneous : Option SystemException
  importQueue : TransactionOutcomes
  errorQueue : TransactionOutcomes

structure ReceiveOutcomes where
  createApiWrapper : Option SystemException
  getEncoding : String → Option SystemException
  getTransactionData : Except SystemException String
  importer : ImporterOutcomes
  stopListening : Option SystemException

section MetaData

variable {comparer : String → List Char}

def getMetadataValue (caseInsensitiveMetadata : Option (Dictionary comparer)) (keyName : String) (mandatory : Bool) :
    Except SystemException String :=
  match caseInsensitiveMetadata with
  | none => if mandatory then .error (.invalidMetadata 0) else .ok ""
  | some metadata => do
      let value ←
        match metadata.tryGetValue keyName with
        | none => .ok ""
        | some value => Dictionary.objectText value
      if mandatory ∧ value = "" then .error (.invalidMetadata 0) else .ok value

/-- The message that `Translate` makes before it hands over the payload. -/
def translateMetadata (getRoutingAddressForImport : Except SystemException String)
    (importMessage : ImportMessage comparer) (areMetaDataMandatory : Bool) :
    Except SystemException DataExchangeImportMessage := do
  let value := getMetadataValue importMessage.metadata
  let priority ← value "priority" areMetaDataMandatory
  let protocol ← value "protocol" areMetaDataMandatory
  let country ← value "country" false
  let routingAddress ← getRoutingAddressForImport
  let externalText ← value "externaltext" false
  let subAddress ← value "subaddress" false
  let senderName ← value "sendername" false
  let productCode ← value "prodcode" false
  pure
    { version := 1
      externalReference := some (toString importMessage.messageId)
      messageData := none
      claimTicket := none
      senderId := ""
      receiverId := ""
      senderName := senderName
      receiverName := ""
      format := ""
      country := country
      protocolId := 0
      protocol := protocol
      priority := priority
      routingAddress := routingAddress
      messageLogId := 0
      messageReference := ""
      senderKey := 0
      receiverKey := 0
      externalText := externalText
      subAddress := subAddress
      productCode := productCode }

end MetaData

section Importer

variable {X : Type} {comparer : String → List Char}

/-- `SetMessageData` of the latest version: the payload goes to the store. -/
def setMessageData (checkIn : Except SystemException ClaimTicket) (payload : String)
    (message : DataExchangeImportMessage) : Exchange X DataExchangeImportMessage := do
  let ticket ← Program.ofExcept checkIn
  Program.change fun world => { world with payloads := Function.update world.payloads ticket (some payload) }
  pure (message.setClaimTicket ticket)

def translate (outcomes : ImporterOutcomes) (checkIn : Except SystemException ClaimTicket)
    (importMessage : ImportMessage comparer) (areMetaDataMandatory : Bool) :
    Exchange X DataExchangeImportMessage := do
  let message ← Program.ofExcept
    (translateMetadata outcomes.getRoutingAddressForImport importMessage areMetaDataMandatory)
  setMessageData checkIn importMessage.data message

def addMessage (kind : TransactionKind) (outcomes : TransactionOutcomes) (enqueueCall : Exchange X Unit) :
    Exchange X Unit :=
  Transaction.using_ .enqueue kind outcomes.dispose do
    Transaction.begin_ .enqueue outcomes.begin_
    enqueueCall
    Transaction.commit .enqueue outcomes.commit

def addMessageToImportErrorQueue (outcomes : ImporterOutcomes) (message : DataExchangeImportMessage) :
    Exchange X Unit :=
  addMessage outcomes.kind outcomes.errorQueue
    (DataExchangeApi.enqueueErroneousImportMessage outcomes.enqueueErroneous message.toDataExchangeMessage)

def addMessageToImportQueue (toUpperInvariant : Char → Char) (outcomes : ImporterOutcomes)
    (message : DataExchangeImportMessage) : Exchange X SubmitImportResponse := do
  addMessage outcomes.kind outcomes.importQueue
    (DataExchangeApi.enqueueImportMessage toUpperInvariant outcomes.enqueueImport message.toDataExchangeMessage)
  pure ⟨true⟩

def getCaseInsensitiveMetadata (toUpperInvariant : Char → Char) :
    Option Metadata → Except SystemException (Option (Dictionary (foldCase toUpperInvariant)))
  | none => .ok none
  | some metadata => (metadata.copy (foldCase toUpperInvariant)).map some

/-- The `try` block of `MessageImporter.Import`. -/
def tryImport (toUpperInvariant : Char → Char) (outcomes : ImporterOutcomes) (message : ImportMessage comparer) :
    Exchange X SubmitImportResponse := do
  let dataExchangeImportMessage ← translate outcomes outcomes.checkIn message true
  addMessageToImportQueue toUpperInvariant outcomes dataExchangeImportMessage

def handleInvalidMetadata (outcomes : ImporterOutcomes) (message : ImportMessage comparer) :
    Exchange X SubmitImportResponse := do
  let dataExchangeImportMessage ← translate outcomes outcomes.checkInAgain message false
  addMessageToImportErrorQueue outcomes dataExchangeImportMessage
  logMessage 30264
  pure ⟨false⟩

def importCaseInsensitive (toUpperInvariant : Char → Char) (outcomes : ImporterOutcomes)
    (message : ImportMessage comparer) : Exchange X SubmitImportResponse :=
  Program.handle (tryImport toUpperInvariant outcomes message) fun exception =>
    match exception with
    | .invalidMetadata _ => handleInvalidMetadata outcomes message
    | _ => pure ⟨false⟩

/-- `MessageImporter.Import`. -/
def importMessage (toUpperInvariant : Char → Char) (outcomes : ImporterOutcomes)
    (message : ImportMessage String.toList) : Exchange X SubmitImportResponse := do
  let metadata ← Program.ofExcept (getCaseInsensitiveMetadata toUpperInvariant message.metadata)
  let caseInsensitiveMessage : ImportMessage (foldCase toUpperInvariant) :=
    ⟨message.messageId, message.data, metadata⟩
  importCaseInsensitive toUpperInvariant outcomes caseInsensitiveMessage

end Importer

section Module

variable {X : Type}

/-- A fault of the Compello server is logged only; after any other exception the module
stops listening. -/
def executeAndLogExceptions (stopListening : Option SystemException) (command : Exchange X Unit)
    (rethrowAsInternalException : Bool) : Exchange X Unit :=
  Program.handle command fun exception =>
    match exception with
    | .fault => pure ()
    | _ => do
        Program.call stopListening
        logMessage 30259
        if rethrowAsInternalException then Program.raise (.other "internal server error") else pure ()

def answer : Option SystemException → Except SystemException Unit
  | none => .ok ()
  | some exception => .error exception

/-- The encoding that the metadata names is looked up, and UTF-8 is there without. -/
def selectEncoding (outcomes : ReceiveOutcomes) : Option Metadata → Except SystemException Unit
  | none => .error .nullReference
  | some metadata =>
      match metadata.tryGetValue "ENCODING" with
      | none => .ok ()
      | some encName => do
          let name ← Dictionary.objectText encName
          answer (outcomes.getEncoding name)

/-- The transaction that belongs to a message, with what Compello says about it. -/
def readTransaction (outcomes : ReceiveOutcomes) (eventArgs : ImportMessageReceivedEventArgs) :
    Except SystemException (ImportMessage String.toList) := do
  answer outcomes.createApiWrapper
  selectEncoding outcomes eventArgs.metadata
  let data ← outcomes.getTransactionData
  pure ⟨eventArgs.messageId, data, eventArgs.metadata⟩

def importReceived (toUpperInvariant : Char → Char) (outcomes : ReceiveOutcomes)
    (eventArgs : ImportMessageReceivedEventArgs) : Exchange X Unit := do
  let message ← Program.ofExcept (readTransaction outcomes eventArgs)
  let _ ← importMessage toUpperInvariant outcomes.importer message
  pure ()

def onMessageReceived (toUpperInvariant : Char → Char) (outcomes : ReceiveOutcomes)
    (eventArgs : ImportMessageReceivedEventArgs) : Exchange X Unit :=
  executeAndLogExceptions outcomes.stopListening (importReceived toUpperInvariant outcomes eventArgs) true

end Module

end ServiceHost.DataExchange.Compello
