import ServiceHost.DataExchange.ExportCore

/-!
The export module for the service bus. The payload is uploaded as a blob, and a
trigger message that names the blob is sent over the first connection, or over the
other one when the first fails. The rule set with its patterns is a parameter.
-/

namespace ServiceHost.DataExchange

open Library

structure AzureParameters where
  pipOutputTopicName : String
  pipOutputTopicPrimaryConnectionString : String
  pipOutputTopicSecondaryConnectionString : String

structure BrokeredMessage where
  blobPath : String
  correlationId : Option String
  priority : String
  properties : List (String × String)
deriving DecidableEq, Repr

structure Rule where
  name : String
  properties : List (String × String)
deriving DecidableEq, Repr

structure AzureExport where
  sender : Option String
  blobs : List String
  accepted : List (String × BrokeredMessage)
deriving DecidableEq, Repr

/-- Exceptions of the service bus and the blob store are foreign to the exporter. -/
structure AzureExportOutcomes where
  newGuid : String
  readMessageData : Option SystemException
  uploadText : Option String
  findRule : DataExchangeMessage → Except String (Option Rule)
  createFirstSender : Option String
  send : Option String
  createSecondSender : Option String
  sendAgain : Option String
  deleteBlob : Option String

def capitalize (text : String) : String :=
  match text.toLower.toList with
  | [] => ""
  | first :: rest => String.ofList (first.toUpper :: rest)

def generateTriggerMessage (outcomes : AzureExportOutcomes) (dataUrl : String) (message : DataExchangeMessage) :
    Except SystemException (BrokeredMessage × DataExchangeMessage) :=
  match outcomes.findRule message with
  | .error name => .error (.other name)
  | .ok none => .error .missingField
  | .ok (some rule) => .ok (⟨dataUrl, message.externalReference, capitalize message.priority, rule.properties⟩,
      { message with format := rule.name })

/-- The two sends over a connection and, when the first fails, over the other one. -/
def sendOver (parameters : AzureParameters) (outcomes : AzureExportOutcomes) (trigger : BrokeredMessage)
    (connection : String) (azure : AzureExport) : Except SystemException String × AzureExport :=
  let accept (azure : AzureExport) : AzureExport :=
    { azure with accepted := azure.accepted ++ [(parameters.pipOutputTopicName, trigger)] }
  let azure := { azure with sender := some connection }
  match outcomes.send with
  | none => (.ok outcomes.newGuid, accept azure)
  | some _ =>
      match outcomes.createSecondSender with
      | some name => (.error (.other name), azure)
      | none =>
          let toggled :=
            if connection = parameters.pipOutputTopicPrimaryConnectionString then
              parameters.pipOutputTopicSecondaryConnectionString
            else parameters.pipOutputTopicPrimaryConnectionString
          let azure := { azure with sender := some toggled }
          match outcomes.sendAgain with
          | none => (.ok outcomes.newGuid, accept azure)
          | some _ =>
              match outcomes.deleteBlob with
              | some name => (.error (.other name), azure)
              | none => (.ok "", { azure with blobs := azure.blobs.filter fun blob => blob ≠ outcomes.newGuid })

def sendTriggerMessage (parameters : AzureParameters) (outcomes : AzureExportOutcomes) (trigger : BrokeredMessage)
    (azure : AzureExport) : Except SystemException String × AzureExport :=
  match azure.sender, outcomes.createFirstSender with
  | some connection, _ => sendOver parameters outcomes trigger connection azure
  | none, none =>
      sendOver parameters outcomes trigger parameters.pipOutputTopicPrimaryConnectionString azure
  | none, some name => (.error (.other name), azure)

def sendExportMessage (parameters : AzureParameters) (outcomes : AzureExportOutcomes) :
    SendExportMessage AzureExport := fun payloads message azure =>
  match message.getMessageData payloads outcomes.readMessageData with
  | .error exception => (.error exception, message, azure)
  | .ok none => (.error .argumentNull, message, azure)
  | .ok (some _) =>
      match outcomes.uploadText with
      | some name => (.error (.other name), message, azure)
      | none =>
          let azure := { azure with blobs := azure.blobs ++ [outcomes.newGuid] }
          match generateTriggerMessage outcomes outcomes.newGuid message with
          | .error exception => (.error exception, message, azure)
          | .ok (trigger, message) =>
              let (answer, azure) := sendTriggerMessage parameters outcomes trigger azure
              (answer, message, azure)

end ServiceHost.DataExchange
