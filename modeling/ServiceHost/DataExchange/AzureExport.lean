import ServiceHost.DataExchange.AzureExportCore
import ServiceHost.DataExchange.ManagerServiceExport

/-!
What the export module for the service bus tells the exporter. A return means that
the bus has accepted the trigger message, but for one path: when both sends fail and
the blob is deleted, the module returns the empty reference.
-/

namespace ServiceHost.DataExchange

open Library

def AzureExport.Accepts (before after : AzureExport) (outcomes : AzureExportOutcomes) : Prop :=
  ∃ topic trigger, after.accepted = before.accepted ++ [(topic, trigger)] ∧ trigger.blobPath = outcomes.newGuid

structure AzureExportOutcomes.Drops (outcomes : AzureExportOutcomes) (payloads : ClaimTicket → Option String)
    (message : DataExchangeMessage) (azure : AzureExport) : Prop where
  readable : ∃ payload, message.getMessageData payloads outcomes.readMessageData = .ok (some payload)
  uploaded : outcomes.uploadText = none
  matched : ∃ rule, outcomes.findRule message = .ok (some rule)
  connected : azure.sender = none → outcomes.createFirstSender = none
  send : outcomes.send ≠ none
  toggled : outcomes.createSecondSender = none
  sendAgain : outcomes.sendAgain ≠ none
  deleted : outcomes.deleteBlob = none

section Module

variable (parameters : AzureParameters) (outcomes : AzureExportOutcomes)

theorem sendTriggerMessage_cases (trigger : BrokeredMessage) (azure : AzureExport)
    (present : outcomes.newGuid ∈ azure.blobs) :
    let result := sendTriggerMessage parameters outcomes trigger azure
    let drops := (azure.sender = none → outcomes.createFirstSender = none) ∧ outcomes.send ≠ none ∧
      outcomes.createSecondSender = none ∧ outcomes.sendAgain ≠ none ∧ outcomes.deleteBlob = none
    (drops ∧ result.1 = .ok "" ∧ result.2.accepted = azure.accepted) ∨
    (¬ drops ∧ result.1 = .ok outcomes.newGuid ∧ outcomes.newGuid ∈ result.2.blobs ∧
      result.2.accepted = azure.accepted ++ [(parameters.pipOutputTopicName, trigger)]) ∨
    (¬ drops ∧ ∃ name, result.1 = .error (.other name) ∧ result.2.accepted = azure.accepted) := by
  by_cases connected : azure.sender = none → outcomes.createFirstSender = none
  · have reached : sendTriggerMessage parameters outcomes trigger azure =
        sendOver parameters outcomes trigger
          (azure.sender.getD parameters.pipOutputTopicPrimaryConnectionString) azure := by
      cases used : azure.sender with
      | none => simp [sendTriggerMessage, used, connected used]
      | some connection => simp [sendTriggerMessage, used]
    rw [reached]
    cases first : outcomes.send with
    | none => simp [sendOver, first, present]
    | some _ =>
        cases second : outcomes.createSecondSender with
        | some name => simp [sendOver, first, second]
        | none =>
            cases again : outcomes.sendAgain with
            | none => simp [sendOver, first, second, again, present]
            | some _ =>
                cases deleted : outcomes.deleteBlob with
                | none => simpa [sendOver, first, second, again, deleted] using connected
                | some name => simp [sendOver, first, second, again, deleted]
  · obtain ⟨used, failed⟩ : azure.sender = none ∧ outcomes.createFirstSender ≠ none := by
      simpa [Classical.not_imp] using connected
    obtain ⟨name, raised⟩ := Option.ne_none_iff_exists'.mp failed
    simp [sendTriggerMessage, used, raised]

theorem other_iff {read : Except SystemException (Option String)} {exception : SystemException}
    (kept : ManagerService.Discards exception = false) (readable : ∃ payload, read = .ok payload) :
    ∀ other, ManagerService.Discards other = true → (exception = other ↔ read = .error other) := by
  rintro other discards
  obtain ⟨payload, read⟩ := readable
  constructor
  · rintro rfl
    rw [kept] at discards
    contradiction
  · rw [read]
    intro same
    contradiction

theorem sendExportMessage_cases (payloads : ClaimTicket → Option String) (message : DataExchangeMessage)
    (azure : AzureExport) :
    let result := sendExportMessage parameters outcomes payloads message azure
    result.2.1.SharesPayload message ∧
    ((outcomes.Drops payloads message azure ∧ result.1 = .ok "" ∧ result.2.2.accepted = azure.accepted) ∨
    (¬ outcomes.Drops payloads message azure ∧ result.1 = .ok outcomes.newGuid ∧
      outcomes.newGuid ∈ result.2.2.blobs ∧ azure.Accepts result.2.2 outcomes ∧
      ∃ payload, message.getMessageData payloads outcomes.readMessageData = .ok payload) ∨
    (¬ outcomes.Drops payloads message azure ∧ result.2.2.accepted = azure.accepted ∧
      ∃ exception, result.1 = .error exception ∧
        ∀ other, ManagerService.Discards other = true →
          (exception = other ↔ message.getMessageData payloads outcomes.readMessageData = .error other))) := by
  cases read : message.getMessageData payloads outcomes.readMessageData with
  | error exception =>
      simp only [sendExportMessage, read]
      refine ⟨⟨rfl, rfl, rfl⟩, Or.inr (Or.inr ⟨fun drops => ?_, trivial, exception, rfl, fun other _ => by simp⟩)⟩
      obtain ⟨payload, found⟩ := drops.readable
      rw [read] at found
      contradiction
  | ok payload =>
      cases payload with
      | none =>
          simp only [sendExportMessage, read]
          refine ⟨⟨rfl, rfl, rfl⟩, Or.inr (Or.inr ⟨fun drops => ?_, trivial, _, rfl, other_iff rfl ⟨_, rfl⟩⟩)⟩
          obtain ⟨payload, found⟩ := drops.readable
          simp [read] at found
      | some payload =>
          cases uploaded : outcomes.uploadText with
          | some name =>
              simp only [sendExportMessage, read, uploaded]
              refine ⟨⟨rfl, rfl, rfl⟩, Or.inr (Or.inr ⟨fun drops => ?_, trivial, _, rfl, other_iff rfl ⟨_, rfl⟩⟩)⟩
              have none_ := drops.uploaded
              rw [uploaded] at none_
              contradiction
          | none =>
              cases matched : outcomes.findRule message with
              | error name =>
                  simp only [sendExportMessage, read, uploaded, generateTriggerMessage, matched]
                  refine ⟨⟨rfl, rfl, rfl⟩, Or.inr (Or.inr ⟨fun drops => ?_, trivial, _, rfl, other_iff rfl ⟨_, rfl⟩⟩)⟩
                  obtain ⟨rule, found⟩ := drops.matched
                  rw [matched] at found
                  contradiction
              | ok rule =>
                  cases rule with
                  | none =>
                      simp only [sendExportMessage, read, uploaded, generateTriggerMessage, matched]
                      refine ⟨⟨rfl, rfl, rfl⟩, Or.inr (Or.inr ⟨fun drops => ?_, trivial, _, rfl, other_iff rfl ⟨_, rfl⟩⟩)⟩
                      obtain ⟨rule, found⟩ := drops.matched
                      simp [matched] at found
                  | some rule =>
                      simp only [sendExportMessage, read, uploaded, generateTriggerMessage, matched]
                      let trigger : BrokeredMessage :=
                        ⟨outcomes.newGuid, message.externalReference, capitalize message.priority, rule.properties⟩
                      have ends := sendTriggerMessage_cases parameters outcomes trigger
                        { azure with blobs := azure.blobs ++ [outcomes.newGuid] } (by simp)
                      have drops_iff : outcomes.Drops payloads message azure ↔
                          (azure.sender = none → outcomes.createFirstSender = none) ∧ outcomes.send ≠ none ∧
                            outcomes.createSecondSender = none ∧ outcomes.sendAgain ≠ none ∧
                            outcomes.deleteBlob = none :=
                        ⟨fun drops => ⟨drops.connected, drops.send, drops.toggled, drops.sendAgain, drops.deleted⟩,
                          fun ⟨connected, send, toggled, sendAgain, deleted⟩ =>
                            ⟨⟨payload, read⟩, uploaded, ⟨rule, matched⟩, connected, send, toggled, sendAgain, deleted⟩⟩
                      refine ⟨⟨rfl, rfl, rfl⟩, ?_⟩
                      rcases ends with ⟨drops, answer, same⟩ | ⟨kept, answer, present, accepted⟩ |
                        ⟨kept, name, answer, same⟩
                      · exact Or.inl ⟨drops_iff.mpr drops, answer, same⟩
                      · exact Or.inr (Or.inl ⟨fun drops => kept (drops_iff.mp drops), answer, present,
                          ⟨_, trigger, accepted, rfl⟩, _, rfl⟩)
                      · exact Or.inr (Or.inr ⟨fun drops => kept (drops_iff.mp drops), same, _, answer,
                          other_iff rfl ⟨_, rfl⟩⟩)

end Module

section Export

variable {world : World (ExporterState AzureExport)} {kind : TransactionKind} {name : QueueName}

def StillQueued (world : World (ExporterState AzureExport)) (name : QueueName) (message : DataExchangeMessage)
    (queues : Queues) : Prop :=
  queues = world.queues ∨
    ∃ copy, copy.SharesPayload message ∧
      queues = (world.queues.dropFirst name).append (lowPriorityQueue copy) (.message copy)

structure LosesNothing (world : World (ExporterState AzureExport)) (name : QueueName) (message : DataExchangeMessage)
    (outcomes : AzureExportOutcomes) (answer : Except SystemException String)
    (final : World (ExporterState AzureExport)) : Prop where
  accepted : answer.toOption.isSome → world.external.module.Accepts final.external.module outcomes ∧
    outcomes.newGuid ∈ final.external.module.blobs
  queued : final.external.module.accepted = world.external.module.accepted →
    StillQueued world name message final.queues ∧ final.payloads = world.payloads

/-- The export loses nothing exactly if the module does not drop the trigger message, and no
message whose payload cannot be read is discarded. -/
theorem exportMessage_losesNothing_iff (outcomes : ExportOutcomes) (moduleName : String)
    (parameters : AzureParameters) (azure : AzureExportOutcomes) {message : DataExchangeMessage}
    (begins : kind = .msmq → outcomes.begin_ = none) (waited : outcomes.wait = none)
    (found : world.queues.firstItem (exportQueueNames moduleName) = some (name, .message message)) :
    LosesNothing world name message azure
        (sendExportMessage parameters azure world.payloads message world.external.module).1
        (ManagerService.exportMessage kind outcomes moduleName (sendExportMessage parameters azure) world).2 ↔
      ¬ azure.Drops world.payloads message world.external.module ∧
        ∀ exception, message.getMessageData world.payloads azure.readMessageData = .error exception →
          ManagerService.Discards exception = true → ¬ Commits kind outcomes.commitHandled outcomes.dispose := by
  obtain ⟨shares, ends⟩ := sendExportMessage_cases parameters azure world.payloads message world.external.module
  obtain ⟨_, head⟩ := Queues.firstItem_head found
  generalize answers : sendExportMessage parameters azure world.payloads message world.external.module = result at *
  obtain ⟨answer, sent, module⟩ := result
  have moduleKept := ManagerService.exportMessage_module begins waited found answers
  rcases ends with ⟨drops, answered, same⟩ | ⟨kept, answered, present, accepted, readable⟩ |
    ⟨kept, same, exception, answered, discards_iff⟩
  · -- the module returns although nothing was accepted
    refine iff_of_false (fun safe => ?_) fun safe => safe.1 drops
    obtain ⟨⟨topic, trigger, added, _⟩, _⟩ := safe.accepted (by rw [answered]; rfl)
    rw [moduleKept, same] at added
    simp at added
  · refine iff_of_true ⟨fun _ => ?_, fun same => ?_⟩ ⟨kept, fun exception failed => ?_⟩
    · rw [moduleKept]
      exact ⟨accepted, present⟩
    · obtain ⟨topic, trigger, added, _⟩ := accepted
      rw [moduleKept, added] at same
      simp at same
    · obtain ⟨payload, read⟩ := readable
      rw [read] at failed
      contradiction
  · replace answered : answer = .error exception := answered
    subst answered
    have stored := ManagerService.exportMessage_failed_stored begins waited found answers
    have payloads : (ManagerService.exportMessage kind outcomes moduleName (sendExportMessage parameters azure)
        world).2.payloads = world.payloads := congrArg Prod.fst stored
    have unchanged : module.accepted = world.external.module.accepted := same
    have unanswered : ¬ (Except.error exception : Except SystemException String).toOption.isSome = true := by
      simp [Except.toOption]
    cases discards : ManagerService.Discards exception with
    | true =>
        have queues := ManagerService.exportMessage_discards_queues discards begins waited found answers
        have failed := (discards_iff exception discards).mp rfl
        by_cases commits : Commits kind outcomes.commitHandled outcomes.dispose
        · refine iff_of_false (fun safe => ?_) fun safe => safe.2 exception failed discards commits
          rw [if_pos commits] at queues
          have queued := (safe.queued (by rw [moduleKept, unchanged])).1
          rw [queues] at queued
          rcases queued with back | ⟨copy, _, moved⟩
          · exact dropFirst_ne_of_head head back
          · exact append_ne _ _ _ moved.symm
        · rw [if_neg commits] at queues
          refine iff_of_true ⟨fun answered => absurd answered unanswered, fun _ => ⟨Or.inl queues, payloads⟩⟩
            ⟨kept, fun _ _ _ => commits⟩
    | false =>
        have queues := ManagerService.exportMessage_moves_queues discards begins waited found answers
        refine iff_of_true ⟨fun answered => absurd answered unanswered, fun _ => ⟨?_, payloads⟩⟩
          ⟨kept, fun other failed discarded => ?_⟩
        · split at queues
          · obtain ⟨copy, filled, moved⟩ := queues
            have isCopy := lowPriorityMessage_isCopyOf filled
            exact Or.inr ⟨copy, ⟨isCopy.version.trans shares.version, isCopy.messageData.trans shares.messageData,
              isCopy.claimTicket.trans shares.claimTicket⟩, moved⟩
          · exact Or.inl queues
        · have same := (discards_iff other discarded).mpr failed
          rw [same, discarded] at discards
          contradiction

def azureParameters : AzureParameters := ⟨"topic", "primary", "secondary"⟩

def azureSends (send sendAgain : Option String) : AzureExportOutcomes where
  newGuid := "blob"
  readMessageData := none
  uploadText := none
  findRule := fun _ => .ok (some ⟨"values", []⟩)
  createFirstSender := none
  send := send
  createSecondSender := none
  sendAgain := sendAgain
  deleteBlob := none

theorem exportMessage_losesNothing_values :
    LosesNothing (exportWorld "AZURE" ⟨none, [], []⟩) (.internalExport "AZURE" .normal) valuesMessage
        (azureSends (some "TimeoutException") none)
        (sendExportMessage azureParameters (azureSends (some "TimeoutException") none)
          (exportWorld "AZURE" ()).payloads valuesMessage ⟨none, [], []⟩).1
        (ManagerService.exportMessage .msmq nothingFails "AZURE"
          (sendExportMessage azureParameters (azureSends (some "TimeoutException") none))
          (exportWorld "AZURE" ⟨none, [], []⟩)).2 ↔
      ¬ (azureSends (some "TimeoutException") none).Drops (exportWorld "AZURE" ()).payloads valuesMessage
          ⟨none, [], []⟩ ∧
        ∀ exception, valuesMessage.getMessageData (exportWorld "AZURE" ()).payloads none = .error exception →
          ManagerService.Discards exception = true → ¬ Commits .msmq none none :=
  exportMessage_losesNothing_iff nothingFails "AZURE" azureParameters (azureSends (some "TimeoutException") none)
    (fun _ => rfl) rfl (exportWorld_first "AZURE" (⟨none, [], []⟩ : AzureExport))

/-- When both sends fail the module returns, and the message and its payload are removed. -/
theorem exportMessage_drops_trigger :
    ¬ LosesNothing (exportWorld "AZURE" ⟨none, [], []⟩) (.internalExport "AZURE" .normal) valuesMessage
      (azureSends (some "TimeoutException") (some "TimeoutException"))
      (sendExportMessage azureParameters (azureSends (some "TimeoutException") (some "TimeoutException"))
        (exportWorld "AZURE" ()).payloads valuesMessage ⟨none, [], []⟩).1
      (ManagerService.exportMessage .msmq nothingFails "AZURE"
        (sendExportMessage azureParameters (azureSends (some "TimeoutException") (some "TimeoutException")))
        (exportWorld "AZURE" ⟨none, [], []⟩)).2 := by
  intro safe
  have payloads := (safe.queued (by decide)).2
  have there := congrFun payloads valuesTicket
  exact absurd there (by decide)

end Export

end ServiceHost.DataExchange
