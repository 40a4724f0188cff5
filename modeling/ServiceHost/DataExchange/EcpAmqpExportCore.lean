import ServiceHost.DataExchange.EcpMessageCore
import ServiceHost.DataExchange.QueueCore

/-!
`EcpAmqpExportModule.SendExportMessage`: a message is sent, and its answer is looked for in
the response queue. The parser of documents is a parameter, and each operation of the
connection has its outcome. A status that is only logged is left out.
-/

namespace ServiceHost.DataExchange.EcpAmqpExport

open EcpMessage (Body DecoderFallback)

abbrev Text := EcpMessage.Text

/-- An element below a child of the root: its name, and the value of its attribute `v`. -/
structure XElement where
  name : String
  v : Option String
deriving DecidableEq

structure RootElement where
  name : String
  elements : List XElement
deriving DecidableEq

/-- `Root.Elements()`. -/
abbrev XDocument := List RootElement

/-- What is thrown. A status text that tells of a failure is the message of an exception. -/
inductive ExportException
  | thrown (exception : SystemException)
  | failed (message : String) (data : List (String × Option String))
  | wrapped (exception : SystemException) (message : String) (inner : ExportException)
deriving DecidableEq

structure EcpAmqpParameters where
  useEdx : Bool
  enable : Bool

structure Document where
  messageLogId : Int
  subAddress : String
  routingAddress : Option Text
  messageReference : String
  externalReference : Option String
  getMessageData : Except SystemException (Option Text)

structure Properties where
  correlationId : Option String
  messageId : Option String

structure Response where
  properties : Option Properties
  body : Body
  applicationProperties : Option (List (String × Option String))

/-- What one call of `Receive` comes to, and the call of `Accept` behind it. -/
inductive Answer
  | timeout
  | failure (exception : SystemException)
  | response (response : Response) (accept : Option SystemException)

structure LinkOutcomes where
  newGuid : String
  connect : Option SystemException
  send : Option SystemException
  openInbox : Option SystemException
  answers : List Answer
  close : Option SystemException

def succeeds : Option SystemException → Except SystemException Unit
  | none => pure ()
  | some exception => throw exception

section CreateMessage

structure OutgoingMessage where
  message : EcpMessage.Message
  correlationId : Option String

/-- The part of `ECPAMQP:<EICaddress>` behind the colon. -/
def getReceiverCode (document : Document) : Except SystemException Text :=
  match document.routingAddress with
  | none => throw .nullReference
  | some routingAddress =>
      match routingAddress.splitOn 58 with
      | _ :: receiver :: _ => pure receiver
      | _ => throw .missingField

def withProperty (name value : String) (message : EcpMessage.Message) : EcpMessage.Message :=
  { message with applicationProperties := message.applicationProperties ++ [(name, value)] }

def createMessage (newGuid : String) (document : Document) : Except SystemException OutgoingMessage := do
  match ← document.getMessageData with
  | none => throw .argumentNull
  | some messageData => do
      let message := EcpMessage.createMessage newGuid document.subAddress messageData
      let receiver ← getReceiverCode document
      let receiverCode := String.ofList (Library.Utf16.decode receiver)
      pure {
        message := withProperty "senderApplication" "EcpAmqp"
          (withProperty "correlationID" (document.externalReference.getD "")
            (withProperty "baMessageID" document.messageReference (withProperty "receiverCode" receiverCode message)))
        correlationId := document.externalReference }

end CreateMessage

def receive (correlationId : Option String) : List Answer → Except SystemException (Option Response)
  | [] => pure none
  | .timeout :: _ => pure none
  | .failure exception :: _ => throw exception
  | .response response accept :: answers => do
      succeeds accept
      match response.properties with
      | none => throw .nullReference
      | some properties =>
          if correlationId ≠ properties.correlationId then receive correlationId answers else pure (some response)

section Edx

structure Traversal where
  exception : Option (String × List (String × Option String))
  failed : Bool
deriving DecidableEq

/-- `Attribute("v").Value`. -/
def XElement.value (element : XElement) : Except SystemException String :=
  match element.v with
  | some value => pure value
  | none => throw .nullReference

def onMessageStatusElement (traversal : Traversal) (messageStatusElement : XElement) :
    Except SystemException Traversal :=
  if messageStatusElement.name = "status" then do
    let status ← messageStatusElement.value
    pure (if status = "FAILED" then { traversal with failed := true } else traversal)
  else if traversal.failed ∧ messageStatusElement.name = "statusText" then do
    let text ← messageStatusElement.value
    pure { traversal with exception := some (text, []) }
  else pure traversal

/-- `Exception.Data.Add` throws for a key that is there. -/
def addData (data : List (String × Option String)) (key : String) (value : Option String) :
    Except SystemException (List (String × Option String)) :=
  if key ∈ data.map Prod.fst then throw (.other "ArgumentException") else pure (data ++ [(key, value)])

def onMetadataElement (traversal : Traversal) (metadataElement : XElement) : Except SystemException Traversal :=
  match traversal.exception with
  | none => throw .nullReference
  | some (message, data) => do
      let value ← metadataElement.value
      let data ← addData data metadataElement.name (some value)
      pure { traversal with exception := some (message, data) }

def onRootElement (traversal : Traversal) (xElement : RootElement) : Except SystemException Traversal :=
  if xElement.name = "finalMessageStatus" then xElement.elements.foldlM onMessageStatusElement traversal
  else if traversal.failed ∧ xElement.name = "edxReplyMetadata" then
    xElement.elements.foldlM onMetadataElement traversal
  else pure traversal

def started : Traversal := ⟨none, false⟩

def traverse (root : XDocument) : Except SystemException Traversal := root.foldlM onRootElement started

end Edx

section Send

variable (load : Text → Except SystemException XDocument) (fallback : DecoderFallback)

def decodeBody (body : Body) : Except SystemException Text :=
  match EcpMessage.decodeBodyAsString fallback ⟨body, "", "", []⟩ none with
  | .ok content => pure content
  | .error message => throw (.other message)

def liftExport {Result : Type} : Except SystemException Result → Except ExportException Result :=
  Except.mapError ExportException.thrown

def checkEdx (response : Response) : Except ExportException Unit := do
  let content ← liftExport (decodeBody fallback response.body)
  let root ← liftExport (load content)
  let traversal ← liftExport (traverse root)
  match traversal.exception with
  | some (message, data) => throw (.failed message data)
  | none => pure ()

def getProperty (map : List (String × Option String)) (propertyName : String) : Option String :=
  (map.lookup propertyName).join

def checkEcp (response : Response) : Except ExportException Unit :=
  match response.applicationProperties with
  | none => throw (.thrown .nullReference)
  | some map =>
      if (getProperty map "messageID").getD "" ≠ "" then pure ()
      else do
          let data ← liftExport (map.foldlM (fun data property => addData data property.1 property.2) [])
          throw (.failed ((getProperty map "errorMessage").getD "") data)

/-- The body of the `try` block. -/
def exchange (parameters : EcpAmqpParameters) (document : Document) (outcomes : LinkOutcomes) :
    Except ExportException (Option String) := do
  let message ← liftExport (createMessage outcomes.newGuid document)
  liftExport (succeeds outcomes.send)
  liftExport (succeeds outcomes.openInbox)
  match ← liftExport (receive message.correlationId outcomes.answers) with
  | none => pure none
  | some response => do
      if parameters.useEdx then checkEdx load fallback response else checkEcp response
      pure (response.properties.bind Properties.messageId)

/-- The four `catch` clauses. -/
def handle (parameters : EcpAmqpParameters) (document : Document) (exception : ExportException) :
    Except ExportException (Option String) :=
  let queueOperationFailed :=
    if parameters.useEdx then
      throw (.wrapped (.invalidMessage (some document.messageLogId)) "Send operation failed. See inner exception."
        exception)
    else pure (some "")
  match exception with
  | .failed _ _ => queueOperationFailed
  | .thrown .queueOperationFailed => queueOperationFailed
  | .wrapped .queueOperationFailed _ _ => queueOperationFailed
  | .thrown (.invalidMetadata _) => throw exception
  | .thrown (.other "AmqpException") => throw (.wrapped .queueOperationFailed "Amqp operation failed." exception)
  | _ => throw (.wrapped (.invalidMessage (some document.messageLogId)) "EcpAmqp failure" exception)

/-- The connection is opened before the `try` block, and closed whatever has come of it. -/
def sendExportMessage (parameters : EcpAmqpParameters) (document : Document) (outcomes : LinkOutcomes) :
    Except ExportException (Option String) := do
  liftExport (succeeds outcomes.connect)
  let ret := (exchange load fallback parameters document outcomes).tryCatch (handle parameters document)
  liftExport (succeeds outcomes.close)
  let ret ← ret
  pure (if parameters.enable then ret else some "")

end Send

end ServiceHost.DataExchange.EcpAmqpExport
