import ServiceHost.DataExchange.ImportService

/-!
Where an import message is after one call: still in the import queue, in the error
queue, or gone. It is accounted for when its place fits what was done with it.
-/

namespace ServiceHost.DataExchange

open Library

inductive ImportPlace
  | importQueue
  | errorQueue
  | gone
deriving DecidableEq, Repr

def Queues.withMessageAt (queues : Queues) (name : QueueName) (item : QueueItem) : ImportPlace → Queues
  | .importQueue => queues
  | .errorQueue => (queues.dropFirst name).append .internalImportError item
  | .gone => queues.dropFirst name

namespace World

variable (world final : World ImportVariables)

def newImports : List (DataExchangeMessage × Option SystemException) :=
  final.imports.drop world.imports.length

def newEvents : List Nat :=
  final.eventLog.drop world.eventLog.length

def Imported : QueueItem → Prop
  | .message message => (message, none) ∈ world.newImports final
  | .corrupt => False

def Recorded : QueueItem → Prop
  | .message message =>
      (∃ result, (message, result) ∈ world.newImports final ∧
        ∀ exception, result = some exception → exception.route = .messageLog) ∨
      8206 ∈ world.newEvents final
  | .corrupt => 8209 ∈ world.newEvents final

def AccountedFor (name : QueueName) (item : QueueItem) (place : ImportPlace) : Prop :=
  final.queues = world.queues.withMessageAt name item place ∧
    match place with
    | .gone => world.Recorded final item
    | _ => ¬ world.Imported final item

end World

namespace Queues

variable {queues : Queues} {name : QueueName} {item : QueueItem}

theorem withMessageAt_name (notError : name ≠ .internalImportError) (place : ImportPlace) :
    (queues.withMessageAt name item place name).length =
      match place with
      | .importQueue => (queues name).length
      | _ => (queues name).length - 1 := by
  cases place with
  | importQueue => rfl
  | errorQueue => simp [withMessageAt, append, dropFirst, Function.update_of_ne notError]
  | gone => simp [withMessageAt, dropFirst]

theorem withMessageAt_error (notError : name ≠ .internalImportError) (place : ImportPlace) :
    (queues.withMessageAt name item place .internalImportError).length =
      match place with
      | .errorQueue => (queues .internalImportError).length + 1
      | _ => (queues .internalImportError).length := by
  cases place with
  | importQueue => rfl
  | errorQueue => simp [withMessageAt, append, dropFirst, Function.update_of_ne notError.symm]
  | gone => simp [withMessageAt, dropFirst, Function.update_of_ne notError.symm]

theorem withMessageAt_injective (imported : name ∈ importQueueNames) (first : (queues name).head? = some item)
    {place other : ImportPlace}
    (same : queues.withMessageAt name item place = queues.withMessageAt name item other) : place = other := by
  have notError : name ≠ .internalImportError := by
    intro error
    simp [error, importQueueNames, orderedPriorities] at imported
  have nonempty : 0 < (queues name).length := by
    cases content : queues name with
    | nil => simp [content] at first
    | cons head tail => simp
  have here := congrArg (fun queues : Queues => (queues name).length) same
  have there := congrArg (fun queues : Queues => (queues .internalImportError).length) same
  simp only [withMessageAt_name notError, withMessageAt_error notError] at here there
  cases place <;> cases other <;> simp only [] at here there <;> first | rfl | omega

end Queues

def ImportOutcomes.Conserves (outcomes : ImportOutcomes) (kind : TransactionKind)
    (payloads : ClaimTicket → Option String) : QueueItem → Prop
  | .corrupt => True
  | .message message =>
      let commits := Commits kind outcomes.commit outcomes.dispose
      match outcomes.handleMessage.handling payloads message with
      | .empty => True
      | .ran =>
          match message.deleteException outcomes.deleteMessageData with
          | none => commits
          | some exception =>
              match exception.route with
              | .errorQueue => outcomes.enqueueErroneous = some .argumentNull ∧ commits
              | .messageLog => message.deleteException outcomes.deleteAfterFailure = none ∧ commits
              | .propagates => False
      | .failed exception =>
          match exception.route with
          | .errorQueue => ¬ (outcomes.enqueueErroneous = some .argumentNull ∧ commits)
          | .messageLog => ¬ (message.deleteException outcomes.deleteAfterFailure = none ∧ commits)
          | .propagates => True
      | .runFailed exception =>
          match exception.route with
          | .errorQueue => ¬ (outcomes.enqueueErroneous = some .argumentNull ∧ commits)
          | _ => True

section Trace

variable (outcomes : ImportOutcomes) (payloads : ClaimTicket → Option String)

theorem failureTrace_imports (exception : SystemException) (trace : ImportTrace) :
    (outcomes.failureTrace exception trace).imports = trace.imports := by
  unfold ImportOutcomes.failureTrace
  cases exception.route with
  | errorQueue =>
      simp only [ImportOutcomes.erroneousTrace]
      split <;> rfl
  | messageLog =>
      simp only [ImportTrace.delete]
      split
      · rfl
      · split <;> rfl
  | propagates => rfl

theorem trace_imports (message : DataExchangeMessage) :
    (outcomes.trace payloads (.message message)).imports =
      (outcomes.handleMessage.handling payloads message).imports message := by
  simp only [ImportOutcomes.trace]
  split
  · rfl
  · rw [failureTrace_imports]
    rfl

theorem failureTrace_sent (exception : SystemException) (trace : ImportTrace) :
    (outcomes.failureTrace exception trace).sent =
      match trace.message with
      | some message =>
          if exception.route = .errorQueue ∧ outcomes.enqueueErroneous = none then
            trace.sent ++ [(.internalImportError, .message message)]
          else trace.sent
      | none => trace.sent := by
  unfold ImportOutcomes.failureTrace
  cases held : trace.message with
  | none => cases exception.route <;> simp [ImportOutcomes.erroneousTrace, ImportTrace.delete]
  | some message =>
      cases exception.route with
      | errorQueue =>
          cases failure : outcomes.enqueueErroneous with
          | none => simp [ImportOutcomes.erroneousTrace, failure]
          | some exception => cases exception <;> simp [ImportOutcomes.erroneousTrace, failure]
      | messageLog =>
          simp only [ImportTrace.delete]
          split <;> simp
      | propagates => simp

theorem failureTrace_logged (exception : SystemException) (trace : ImportTrace) :
    8206 ∈ (outcomes.failureTrace exception trace).logged ↔ 8206 ∈ trace.logged := by
  have others : 8206 ∉ exception.logged := by cases exception <;> simp [SystemException.logged]
  unfold ImportOutcomes.failureTrace
  cases exception.route with
  | errorQueue =>
      simp only [ImportOutcomes.erroneousTrace]
      split <;> simp [others]
  | messageLog =>
      simp only [ImportTrace.delete]
      split
      · simp [others]
      · split <;> simp [others]
  | propagates => simp [others]

theorem trace_logged (message : DataExchangeMessage) :
    8206 ∈ (outcomes.trace payloads (.message message)).logged ↔
      outcomes.handleMessage.handling payloads message = .empty := by
  have called : 8206 ∈ (outcomes.callTrace payloads message).logged ↔
      outcomes.handleMessage.handling payloads message = .empty := by
    cases handling : outcomes.handleMessage.handling payloads message <;>
      simp [ImportOutcomes.callTrace, handling, Handling.logged]
  simp only [ImportOutcomes.trace]
  split
  · exact called
  · rw [failureTrace_logged, called]

end Trace

section Accounting

variable {world : World ImportVariables} {kind : TransactionKind} {name : QueueName} {item : QueueItem}

def ImportOutcomes.place (outcomes : ImportOutcomes) (kind : TransactionKind) (payloads : ClaimTicket → Option String)
    (item : QueueItem) : ImportPlace :=
  if outcomes.handlingException payloads item = none ∧ Commits kind outcomes.commit outcomes.dispose then
    match (outcomes.trace payloads item).sent with
    | [] => .gone
    | _ => .errorQueue
  else .importQueue

theorem trace_sent (outcomes : ImportOutcomes) (payloads : ClaimTicket → Option String) (item : QueueItem) :
    (outcomes.trace payloads item).sent = [] ∨
      (outcomes.trace payloads item).sent = [(.internalImportError, item)] := by
  cases item with
  | corrupt => simp [ImportOutcomes.trace, failureTrace_sent]
  | message message =>
      simp only [ImportOutcomes.trace]
      split
      · exact Or.inl rfl
      · simp only [failureTrace_sent, ImportOutcomes.callTrace, List.nil_append]
        split <;> simp

theorem processNextImportMessage_place (outcomes : ImportOutcomes)
    (begins : kind = .msmq → outcomes.begin_ = none) (waited : outcomes.wait = none)
    (found : world.queues.firstItem importQueueNames = some (name, item)) :
    (processNextImportMessage kind outcomes world).2.queues =
      world.queues.withMessageAt name item (outcomes.place kind world.payloads item) := by
  rw [processNextImportMessage_queues outcomes begins waited found]
  unfold ImportOutcomes.place
  split
  · rcases trace_sent outcomes world.payloads item with nothing | moved
    · simp [nothing, Queues.withMessageAt, Queues.appendAll]
    · simp [moved, Queues.withMessageAt, Queues.appendAll]
  · rfl

def ImportPlace.Fits (place : ImportPlace) (world final : World ImportVariables) (item : QueueItem) : Prop :=
  match place with
  | .gone => world.Recorded final item
  | _ => ¬ world.Imported final item

theorem accountedFor_iff (outcomes : ImportOutcomes)
    (begins : kind = .msmq → outcomes.begin_ = none) (waited : outcomes.wait = none)
    (found : world.queues.firstItem importQueueNames = some (name, item)) :
    (∃! place, world.AccountedFor (processNextImportMessage kind outcomes world).2 name item place) ↔
      (outcomes.place kind world.payloads item).Fits world (processNextImportMessage kind outcomes world).2 item := by
  have placed := processNextImportMessage_place outcomes begins waited found
  obtain ⟨imported, first⟩ := Queues.firstItem_head found
  constructor
  · rintro ⟨place, ⟨queues, fits⟩, unique⟩
    have same := Queues.withMessageAt_injective imported first (placed.symm.trans queues)
    rw [same]
    exact fits
  · intro fits
    refine ⟨outcomes.place kind world.payloads item, ⟨placed, fits⟩, ?_⟩
    rintro other ⟨queues, _⟩
    exact Queues.withMessageAt_injective imported first (queues.symm.trans placed)

theorem imported_iff (outcomes : ImportOutcomes) {message : DataExchangeMessage}
    (begins : kind = .msmq → outcomes.begin_ = none) (waited : outcomes.wait = none)
    (found : world.queues.firstItem importQueueNames = some (name, .message message)) :
    world.Imported (processNextImportMessage kind outcomes world).2 (.message message) ↔
      outcomes.handleMessage.handling world.payloads message = .ran := by
  have records := processNextImportMessage_records outcomes begins waited found
  simp only [World.Imported, World.newImports, records.imports, World.traced, trace_imports, List.drop_left]
  cases outcomes.handleMessage.handling world.payloads message <;> simp [Handling.imports]

theorem recorded_iff (outcomes : ImportOutcomes) {message : DataExchangeMessage}
    (begins : kind = .msmq → outcomes.begin_ = none) (waited : outcomes.wait = none)
    (found : world.queues.firstItem importQueueNames = some (name, .message message)) :
    world.Recorded (processNextImportMessage kind outcomes world).2 (.message message) ↔
      match outcomes.handleMessage.handling world.payloads message with
      | .ran | .empty => True
      | .runFailed exception => exception.route = .messageLog
      | .failed _ => False := by
  have records := processNextImportMessage_records outcomes begins waited found
  simp only [World.Recorded, World.newImports, World.newEvents, records.imports, records.eventLog, World.traced,
    trace_imports, List.drop_left, trace_logged]
  cases outcomes.handleMessage.handling world.payloads message <;> simp [Handling.imports]

theorem recorded_corrupt (outcomes : ImportOutcomes)
    (begins : kind = .msmq → outcomes.begin_ = none) (waited : outcomes.wait = none)
    (found : world.queues.firstItem importQueueNames = some (name, .corrupt)) :
    world.Recorded (processNextImportMessage kind outcomes world).2 .corrupt := by
  have records := processNextImportMessage_records outcomes begins waited found
  simp only [World.Recorded, World.newEvents, records.eventLog, World.traced, List.drop_left]
  simp [ImportOutcomes.trace, ImportOutcomes.failureTrace, SystemException.route, SystemException.logged,
    ImportOutcomes.erroneousTrace]

theorem place_gone_iff (outcomes : ImportOutcomes) (payloads : ClaimTicket → Option String)
    (message : DataExchangeMessage) :
    outcomes.place kind payloads (.message message) = .gone ↔
      Commits kind outcomes.commit outcomes.dispose ∧
        match outcomes.callException message (outcomes.handleMessage.handling payloads message) with
        | none => True
        | some exception =>
            match exception.route with
            | .errorQueue => outcomes.enqueueErroneous = some .argumentNull
            | .messageLog => message.deleteException outcomes.deleteAfterFailure = none
            | .propagates => False := by
  unfold ImportOutcomes.place
  cases raised : outcomes.callException message (outcomes.handleMessage.handling payloads message) with
  | none =>
      have nothing : (outcomes.trace payloads (.message message)).sent = [] := by
        simp [ImportOutcomes.trace, raised, ImportOutcomes.callTrace]
      simp [ImportOutcomes.handlingException, raised, nothing]
  | some exception =>
      have sent : (outcomes.trace payloads (.message message)).sent =
          if exception.route = .errorQueue ∧ outcomes.enqueueErroneous = none then
            [(.internalImportError, .message message)]
          else [] := by
        simp [ImportOutcomes.trace, raised, failureTrace_sent, ImportOutcomes.callTrace]
      rw [sent]
      cases route : exception.route with
      | errorQueue =>
          cases failure : outcomes.enqueueErroneous with
          | none =>
              simp only [ImportOutcomes.handlingException, raised, ImportOutcomes.failureException, route,
                ImportOutcomes.erroneousException, failure, and_self, true_and, ↓reduceIte]
              split <;> simp
          | some failed =>
              cases failed <;>
                simp [ImportOutcomes.handlingException, raised, ImportOutcomes.failureException, route,
                  ImportOutcomes.erroneousException, failure]
      | messageLog =>
          simp [ImportOutcomes.handlingException, raised, ImportOutcomes.failureException, route, and_comm]
      | propagates => simp [ImportOutcomes.handlingException, raised, ImportOutcomes.failureException, route]

theorem place_fits_iff (outcomes : ImportOutcomes)
    (begins : kind = .msmq → outcomes.begin_ = none) (waited : outcomes.wait = none)
    (found : world.queues.firstItem importQueueNames = some (name, item)) :
    (outcomes.place kind world.payloads item).Fits world (processNextImportMessage kind outcomes world).2 item ↔
      outcomes.Conserves kind world.payloads item := by
  cases item with
  | corrupt =>
      have recorded := recorded_corrupt outcomes begins waited found
      unfold ImportOutcomes.place
      split
      · rcases trace_sent outcomes world.payloads .corrupt with nothing | moved
        · simpa [nothing, ImportPlace.Fits, ImportOutcomes.Conserves] using recorded
        · simp [moved, ImportPlace.Fits, ImportOutcomes.Conserves, World.Imported]
      · simp [ImportPlace.Fits, ImportOutcomes.Conserves, World.Imported]
  | message message =>
      have imported := imported_iff outcomes begins waited found
      have recorded := recorded_iff outcomes begins waited found
      have gone := @place_gone_iff kind outcomes world.payloads message
      have fits : (outcomes.place kind world.payloads (.message message)).Fits world
          (processNextImportMessage kind outcomes world).2 (.message message) ↔
            (outcomes.place kind world.payloads (.message message) = .gone →
              world.Recorded (processNextImportMessage kind outcomes world).2 (.message message)) ∧
            (outcomes.place kind world.payloads (.message message) ≠ .gone →
              ¬ world.Imported (processNextImportMessage kind outcomes world).2 (.message message)) := by
        cases outcomes.place kind world.payloads (.message message) <;> simp [ImportPlace.Fits]
      rw [fits, imported, recorded, ne_eq, gone]
      cases handling : outcomes.handleMessage.handling world.payloads message with
      | empty => simp [ImportOutcomes.Conserves, handling]
      | ran =>
          have raised : outcomes.callException message .ran = message.deleteException outcomes.deleteMessageData := rfl
          rw [raised]
          cases deleted : message.deleteException outcomes.deleteMessageData with
          | none => simp [ImportOutcomes.Conserves, handling, deleted]
          | some exception =>
              cases route : exception.route <;> simp [ImportOutcomes.Conserves, handling, deleted, route, and_comm]
      | failed exception =>
          have raised : outcomes.callException message (.failed exception) = some exception := rfl
          rw [raised]
          cases route : exception.route <;> simp [ImportOutcomes.Conserves, handling, route, and_comm]
      | runFailed exception =>
          have raised : outcomes.callException message (.runFailed exception) = some exception := rfl
          rw [raised]
          cases route : exception.route <;> simp [ImportOutcomes.Conserves, handling, route, and_comm]

/-- A received message is in exactly one place that fits what was done with it, unless a
run is followed by a failed deletion or commit, or a failure is followed by a removal. -/
theorem processNextImportMessage_accounts (outcomes : ImportOutcomes)
    (begins : kind = .msmq → outcomes.begin_ = none) (waited : outcomes.wait = none)
    (found : world.queues.firstItem importQueueNames = some (name, item)) :
    (∃! place, world.AccountedFor (processNextImportMessage kind outcomes world).2 name item place) ↔
      outcomes.Conserves kind world.payloads item :=
  (accountedFor_iff outcomes begins waited found).trans (place_fits_iff outcomes begins waited found)

theorem processNextImportMessage_accounts_values :
    (∃! place, valuesWorld.AccountedFor (processNextImportMessage .msmq (onlyCommitFails none) valuesWorld).2
      (.internalImport .normal) (.message valuesMessage) place) ↔
      (onlyCommitFails none).Conserves .msmq valuesWorld.payloads (.message valuesMessage) :=
  processNextImportMessage_accounts (onlyCommitFails none) (fun _ => rfl) rfl valuesWorld_first

/-- An import whose commit fails is back in the import queue although it ran. -/
theorem processNextImportMessage_imported_again :
    ¬ ∃! place, valuesWorld.AccountedFor
      (processNextImportMessage .msmq (onlyCommitFails (some (.other "MessageQueueException"))) valuesWorld).2
      (.internalImport .normal) (.message valuesMessage) place := by
  rintro ⟨place, ⟨queues, fits⟩, _⟩
  have back : (processNextImportMessage .msmq (onlyCommitFails (some (.other "MessageQueueException")))
      valuesWorld).2.queues (.internalImport .normal) = [.message valuesMessage] := by decide
  have imported : valuesWorld.Imported (processNextImportMessage .msmq
      (onlyCommitFails (some (.other "MessageQueueException"))) valuesWorld).2 (.message valuesMessage) := by
    show (valuesMessage, none) ∈ World.newImports _ _
    decide
  cases place with
  | importQueue => exact fits imported
  | errorQueue => exact fits imported
  | gone =>
      rw [queues] at back
      exact absurd back (by decide)

end Accounting

end ServiceHost.DataExchange
