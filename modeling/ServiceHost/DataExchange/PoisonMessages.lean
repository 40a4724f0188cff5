import ServiceHost.DataExchange.ManagerServiceExport

/-!
Repeated calls of the exporter of `DataExchangeManagerService` while every
collaborator but the delegate succeeds. Each call hands over the first message of the
module's queues, unless that one is corrupt: then it stays first for ever.
-/

namespace ServiceHost.DataExchange

open Library

structure EnqueueExportOutcomes.Healthy (outcomes : EnqueueExportOutcomes) : Prop where
  address : outcomes.defaultRoutingAddress.isSome
  reference : outcomes.setExternalReference = none
  protocol : outcomes.getProtocolName.toOption.isSome
  sender : outcomes.getSenderInfo.toOption.isSome
  receiver : outcomes.getReceiverInfo.toOption.isSome
  enqueue : outcomes.enqueue = none
  storeFile : outcomes.storeFile = none
  setEnqueued : outcomes.setEnqueued = none

structure ExportOutcomes.Healthy (outcomes : ExportOutcomes) : Prop where
  begin_ : outcomes.begin_ = none
  wait : outcomes.wait = none
  setTransferred : outcomes.setTransferred = none
  commit : outcomes.commit = none
  deleteMessageData : outcomes.deleteMessageData = none
  commitHandled : outcomes.commitHandled = none
  setFailed : outcomes.setFailed = none
  enqueue : outcomes.enqueue.Healthy
  dispose : outcomes.dispose = none

theorem EnqueueExportOutcomes.Healthy.exception {outcomes : EnqueueExportOutcomes} (healthy : outcomes.Healthy)
    (message : DataExchangeMessage) : outcomes.exception message = none := by
  obtain ⟨address, hasAddress⟩ := Option.isSome_iff_exists.mp healthy.address
  obtain ⟨protocol, hasProtocol⟩ := exists_ok healthy.protocol
  obtain ⟨sender, hasSender⟩ := exists_ok healthy.sender
  obtain ⟨receiver, hasReceiver⟩ := exists_ok healthy.receiver
  have filled : ∃ copy, lowPriorityMessage outcomes message = .ok copy := by
    have routed (message : DataExchangeMessage) : ∃ copy, fillRoutingAddress outcomes message = .ok copy := by
      unfold fillRoutingAddress
      split
      · simp [hasAddress]
      · exact ⟨_, rfl⟩
    have referenced (message : DataExchangeMessage) : ∃ copy, fillExternalReference outcomes message = .ok copy := by
      unfold fillExternalReference
      split
      · simp [healthy.reference]
      · exact ⟨_, rfl⟩
    have named (message : DataExchangeMessage) : ∃ copy, fillProtocol outcomes message = .ok copy := by
      unfold fillProtocol
      split
      · simp [hasProtocol, Except.map]
      · exact ⟨_, rfl⟩
    have sent (message : DataExchangeMessage) : ∃ copy, fillSender outcomes message = .ok copy := by
      unfold fillSender
      split
      · simp [hasSender, Except.map]
      · exact ⟨_, rfl⟩
    have received (message : DataExchangeMessage) : ∃ copy, fillReceiver outcomes message = .ok copy := by
      unfold fillReceiver
      split
      · simp [hasReceiver, Except.map]
      · exact ⟨_, rfl⟩
    obtain ⟨first, ran⟩ := routed { message with priority := "LOW" }
    obtain ⟨second, ran'⟩ := referenced first
    obtain ⟨third, ran''⟩ := named second
    obtain ⟨fourth, ran'''⟩ := sent third
    obtain ⟨last, ran''''⟩ := received fourth
    exact ⟨last, by simp [lowPriorityMessage, ran, ran', ran'', ran''', ran'''']⟩
  obtain ⟨copy, filled⟩ := filled
  simp [EnqueueExportOutcomes.exception, filled, healthy.enqueue, healthy.storeFile, healthy.setEnqueued]

structure ExportCall where
  outcomes : ExportOutcomes
  healthy : outcomes.Healthy
  answer : (ClaimTicket → Option String) → DataExchangeMessage → Except SystemException String × DataExchangeMessage

def ExportCall.send (call : ExportCall) : SendExportMessage (List DataExchangeMessage) :=
  fun payloads message handed =>
    ((call.answer payloads message).1, (call.answer payloads message).2, handed ++ [message])

theorem ExportCall.nothingRaised (call : ExportCall) (reference : String) (message : DataExchangeMessage) :
    call.outcomes.exportException (.ok reference) message = none := by
  simp [ExportOutcomes.exportException, ExportOutcomes.transferException, DataExchangeMessage.deleteException,
    call.healthy.setTransferred, call.healthy.commit, call.healthy.deleteMessageData]

theorem ExportCall.commitsHandled (call : ExportCall) {kind : TransactionKind} :
    Commits kind call.outcomes.commitHandled call.outcomes.dispose :=
  ⟨call.healthy.commitHandled, fun _ => call.healthy.dispose⟩

namespace ManagerService

abbrev HandingWorld := World (ExporterState (List DataExchangeMessage))

variable (kind : TransactionKind) (moduleName : String)

def exportMessages : List ExportCall → HandingWorld → List (Except SystemException Bool) × HandingWorld
  | [], world => ([], world)
  | call :: rest, world =>
      let (result, world) := exportMessage kind call.outcomes moduleName call.send world
      let (results, world) := exportMessages rest world
      (result :: results, world)

def moduleItems (queues : Queues) : List QueueItem :=
  queues (.internalExport moduleName .high) ++ queues (.internalExport moduleName .normal) ++
    queues (.internalExport moduleName .low)

section Items

variable {moduleName : String} {queues : Queues}

theorem firstItem_of_nil (nothing : moduleItems moduleName queues = []) :
    queues.firstItem (exportQueueNames moduleName) = none := by
  simp only [moduleItems, List.append_eq_nil_iff] at nothing
  obtain ⟨⟨high, normal⟩, low⟩ := nothing
  simp [exportQueueNames, orderedPriorities, Queues.firstItem, high, normal, low]

theorem firstItem_of_cons {item : QueueItem} {rest : List QueueItem}
    (items : moduleItems moduleName queues = item :: rest) :
    ∃ name, queues.firstItem (exportQueueNames moduleName) = some (name, item) ∧
      moduleItems moduleName (queues.dropFirst name) = rest := by
  unfold moduleItems at items
  cases high : queues (.internalExport moduleName .high) with
  | cons head tail =>
      rw [high] at items
      obtain ⟨rfl, rfl⟩ : head = item ∧ _ = rest := List.cons.inj items
      refine ⟨.internalExport moduleName .high, ?_, ?_⟩
      · simp [exportQueueNames, orderedPriorities, Queues.firstItem, high]
      · simp [moduleItems, Queues.dropFirst, high]
  | nil =>
      cases normal : queues (.internalExport moduleName .normal) with
      | cons head tail =>
          rw [high, normal] at items
          obtain ⟨rfl, rfl⟩ : head = item ∧ _ = rest := List.cons.inj items
          refine ⟨.internalExport moduleName .normal, ?_, ?_⟩
          · simp [exportQueueNames, orderedPriorities, Queues.firstItem, high, normal]
          · simp [moduleItems, Queues.dropFirst, high, normal]
      | nil =>
          rw [high, normal] at items
          refine ⟨.internalExport moduleName .low, ?_, ?_⟩
          · simp only [List.append_nil, List.nil_append] at items
            simp [exportQueueNames, orderedPriorities, Queues.firstItem, high, normal, items]
          · simp only [List.append_nil, List.nil_append] at items
            simp [moduleItems, Queues.dropFirst, high, normal, items]

theorem moduleItems_append (copy : DataExchangeMessage) :
    ∃ extra, moduleItems moduleName (queues.append (lowPriorityQueue copy) (.message copy)) =
        moduleItems moduleName queues ++ extra ∧ .corrupt ∉ extra := by
  by_cases same : getModuleFromRoutingAddress copy.routingAddress = moduleName
  · refine ⟨[.message copy], ?_, by simp⟩
    simp [moduleItems, Queues.append, lowPriorityQueue, same]
  · refine ⟨[], ?_, by simp⟩
    have others (priority : DataExchangeQueuePriority) :
        QueueName.internalExport moduleName priority ≠ lowPriorityQueue copy := by
      intro eq
      simp only [lowPriorityQueue, QueueName.internalExport.injEq] at eq
      exact same eq.1.symm
    simp [moduleItems, Queues.append, others]

end Items

section Calls

variable (kind : TransactionKind) {moduleName : String} {world : HandingWorld} (call : ExportCall)

theorem exportMessage_empty (nothing : moduleItems moduleName world.queues = []) :
    (exportMessage kind call.outcomes moduleName call.send world).1 = .ok false ∧
      (exportMessage kind call.outcomes moduleName call.send world).2.queues = world.queues ∧
      (exportMessage kind call.outcomes moduleName call.send world).2.external.module = world.external.module := by
  have healthy := call.healthy
  have begun := @Transaction.begin_create _ world .dequeue kind call.outcomes.begin_ fun _ => healthy.begin_
  have missing := dequeueFrom_missing (World.setTransaction_same world .dequeue ⟨kind, .pending, [], [], []⟩)
    (firstItem_of_nil nothing)
  have waited : dequeue .dequeue (exportQueueNames moduleName) call.outcomes.wait
      (world.setTransaction .dequeue ⟨kind, .pending, [], [], []⟩) =
        (.ok none, world.setTransaction .dequeue ⟨kind, .pending, [], [], []⟩) := by
    rw [healthy.wait]
    exact missing
  have run : exportInTransaction call.outcomes moduleName call.send (world.setTransaction .dequeue (.create kind)) =
      (.ok false, world.setTransaction .dequeue ⟨kind, .pending, [], [], []⟩) := by
    rw [exportInTransaction, Program.bind_of_ok begun, Program.bind_of_ok waited]
    rfl
  have same := @Transaction.using_sameRecords _ world .dequeue kind _ call.outcomes.dispose
    (exportInTransaction call.outcomes moduleName call.send)
  rw [run] at same
  refine ⟨?_, ?_, ?_⟩
  · rw [exportMessage, Transaction.using_result call.outcomes.dispose run, Transaction.dispose_result]
    simp
  · rw [exportMessage, Transaction.using_queues, run]
    simp [World.disposedQueues, Queues.giveBackAll]
  · rw [exportMessage, same.external]
    rfl

theorem exportMessage_corrupt {rest : List QueueItem} (items : moduleItems moduleName world.queues = .corrupt :: rest) :
    (exportMessage kind call.outcomes moduleName call.send world).1 = .error (.invalidMessage none) ∧
      (exportMessage kind call.outcomes moduleName call.send world).2.queues = world.queues := by
  obtain ⟨name, found, _⟩ := firstItem_of_cons items
  exact using_corrupt call.outcomes moduleName _ (fun _ => call.healthy.begin_) call.healthy.wait found

theorem handleException_returns {name : QueueName} {item : QueueItem}
    {state : HandingWorld} (open_ : state.transactions .dequeue = ⟨kind, .pending, [(name, item)], [], []⟩)
    (sent : DataExchangeMessage) (exception : SystemException) :
    (handleException call.outcomes sent exception state).1 = .ok () := by
  have discarded (messageId : Option Int) :
      ((do
        Transaction.commit .dequeue call.outcomes.commitHandled
        onInvalidMessageException call.outcomes messageId : Exchange (ExporterState (List DataExchangeMessage)) Unit)
          state).1 = .ok () := by
    rw [call.healthy.commitHandled]
    obtain ⟨later, commits, _⟩ := Transaction.commit_returns open_
    rw [Program.bind_of_ok commits]
    cases messageId with
    | none => rfl
    | some messageId => simp [onInvalidMessageException, logMessage, setStatus, call.healthy.setFailed, bind]
  by_cases discards : Discards exception = true
  · cases exception with
    | invalidMessage messageId => exact discarded messageId
    | claimHandler => exact discarded (some sent.messageLogId)
    | _ => contradiction
  · rw [handleException_other call.outcomes sent (Bool.eq_false_iff.mpr discards)]
    obtain ⟨reported, ran, same⟩ := onUnknownError_run call.outcomes sent state
    have still : reported.transactions .dequeue = ⟨kind, .pending, [(name, item)], [], []⟩ := by
      rw [same.transactions, open_]
    obtain ⟨later, moved, _⟩ := moveToLowPriority_run call.outcomes sent still
    rw [Program.bind_of_ok ran, moved]

theorem exportMessage_hands {message : DataExchangeMessage} {rest : List QueueItem}
    (items : moduleItems moduleName world.queues = .message message :: rest) :
    (exportMessage kind call.outcomes moduleName call.send world).1 = .ok true ∧
      (exportMessage kind call.outcomes moduleName call.send world).2.external.module =
        world.external.module ++ [message] ∧
      ∃ extra, moduleItems moduleName (exportMessage kind call.outcomes moduleName call.send world).2.queues =
        rest ++ extra ∧ .corrupt ∉ extra := by
  obtain ⟨name, found, left⟩ := firstItem_of_cons items
  have begins : kind = .msmq → call.outcomes.begin_ = none := fun _ => call.healthy.begin_
  have waited := call.healthy.wait
  cases answers : call.answer world.payloads message with
  | mk answer sent =>
      have sends : call.send world.payloads message world.external.module =
          (answer, sent, world.external.module ++ [message]) := by
        simp [ExportCall.send, answers]
      refine ⟨?_, exportMessage_module begins waited found sends, ?_⟩
      · cases answer with
        | ok reference => exact (exportMessage_isFinal begins waited found sends (call.nothingRaised reference sent)
            ⟨call.healthy.commit, fun _ => call.healthy.dispose⟩).returns
        | error exception =>
            have run := exportInTransaction_failed begins waited found sends
            have handled := handleException_returns kind call
              (@answered_transaction _ world kind name message (world.external.module ++ [message])) sent exception
            rw [exportMessage, call.healthy.dispose, Transaction.using_returns, run]
            exact then_pure_returns handled true
      · cases answer with
        | ok reference =>
            have final := exportMessage_isFinal begins waited found sends (call.nothingRaised reference sent)
              ⟨call.healthy.commit, fun _ => call.healthy.dispose⟩
            exact ⟨[], by rw [final.queues, left, List.append_nil], List.not_mem_nil⟩
        | error exception =>
            by_cases discards : Discards exception = true
            · refine ⟨[], ?_, List.not_mem_nil⟩
              rw [exportMessage_discards_queues discards begins waited found sends, if_pos call.commitsHandled, left,
                List.append_nil]
            · have moved := exportMessage_moves_queues (Bool.eq_false_iff.mpr discards) begins waited found sends
              rw [if_pos ⟨call.healthy.enqueue.exception sent, call.commitsHandled⟩] at moved
              obtain ⟨copy, _, queues⟩ := moved
              obtain ⟨extra, appended, readable⟩ := @moduleItems_append moduleName (world.queues.dropFirst name) copy
              exact ⟨extra, by rw [queues, appended, left], readable⟩

end Calls

section Runs

variable (kind : TransactionKind) {moduleName : String} {world : HandingWorld}

theorem exportMessage_readable (call : ExportCall) (readable : .corrupt ∉ moduleItems moduleName world.queues) :
    (∃ exported, (exportMessage kind call.outcomes moduleName call.send world).1 = .ok exported) ∧
      .corrupt ∉ moduleItems moduleName (exportMessage kind call.outcomes moduleName call.send world).2.queues ∧
      ∃ more, (exportMessage kind call.outcomes moduleName call.send world).2.external.module =
        world.external.module ++ more := by
  cases items : moduleItems moduleName world.queues with
  | nil =>
      obtain ⟨result, queues, module⟩ := exportMessage_empty kind call items
      refine ⟨⟨false, result⟩, ?_, [], by rw [module, List.append_nil]⟩
      rwa [queues]
  | cons item rest =>
      rw [items, List.mem_cons, not_or] at readable
      cases item with
      | corrupt => exact absurd rfl readable.1
      | message message =>
          obtain ⟨result, module, extra, queues, clean⟩ := exportMessage_hands kind call items
          refine ⟨⟨true, result⟩, ?_, [message], module⟩
          rw [queues, List.mem_append, not_or]
          exact ⟨readable.2, clean⟩

theorem exportMessages_return (calls : List ExportCall) (readable : .corrupt ∉ moduleItems moduleName world.queues) :
    (∀ result ∈ (exportMessages kind moduleName calls world).1, ∃ exported, result = .ok exported) ∧
      ∃ more, (exportMessages kind moduleName calls world).2.external.module = world.external.module ++ more := by
  induction calls generalizing world with
  | nil => exact ⟨by simp [exportMessages], [], by simp [exportMessages]⟩
  | cons call rest ih =>
      obtain ⟨returned, clean, first, handed⟩ := exportMessage_readable kind call readable
      obtain ⟨returns, later, module⟩ := ih clean
      constructor
      · intro result member
        rcases List.mem_cons.mp member with here | there
        · exact here ▸ returned
        · exact returns result there
      · refine ⟨first ++ later, ?_⟩
        rw [exportMessages, module, handed, List.append_assoc]

theorem exportMessages_hand (calls : List ExportCall) {messages : List DataExchangeMessage} {later : List QueueItem}
    (items : moduleItems moduleName world.queues = messages.map .message ++ later) (clean : .corrupt ∉ later)
    (enough : messages.length ≤ calls.length) :
    ∃ more, (exportMessages kind moduleName calls world).2.external.module =
      world.external.module ++ (messages ++ more) := by
  induction messages generalizing world calls later with
  | nil =>
      have readable : .corrupt ∉ moduleItems moduleName world.queues := by simpa [items] using clean
      exact (exportMessages_return kind calls readable).2
  | cons message messages ih =>
      cases calls with
      | nil => simp at enough
      | cons call rest =>
          rw [List.map_cons, List.cons_append] at items
          obtain ⟨_, handed, extra, queues, added⟩ := exportMessage_hands kind call items
          rw [List.append_assoc] at queues
          have cleanLater : .corrupt ∉ later ++ extra := by
            rw [List.mem_append, not_or]
            exact ⟨clean, added⟩
          obtain ⟨more, module⟩ := ih rest queues cleanLater (Nat.le_of_succ_le_succ enough)
          refine ⟨more, ?_⟩
          rw [exportMessages, module, handed]
          simp

theorem exportMessages_throw (call : ExportCall) {messages : List DataExchangeMessage} {later : List QueueItem}
    (items : moduleItems moduleName world.queues = messages.map .message ++ .corrupt :: later) :
    .error (.invalidMessage none) ∈
      (exportMessages kind moduleName (List.replicate (messages.length + 1) call) world).1 := by
  induction messages generalizing world later with
  | nil =>
      have thrown := (exportMessage_corrupt kind call items).1
      simp [exportMessages, thrown]
  | cons message messages ih =>
      rw [List.map_cons, List.cons_append] at items
      obtain ⟨_, _, extra, queues, _⟩ := exportMessage_hands kind call items
      rw [List.append_assoc] at queues
      exact List.mem_cons_of_mem _ (ih queues)

theorem exists_messages (items : List QueueItem) :
    ∃ messages : List DataExchangeMessage, items = messages.map .message ∨
      ∃ later, items = messages.map .message ++ .corrupt :: later := by
  induction items with
  | nil => exact ⟨[], Or.inl rfl⟩
  | cons item items ih =>
      cases item with
      | corrupt => exact ⟨[], Or.inr ⟨items, rfl⟩⟩
      | message message =>
          obtain ⟨messages, all | ⟨later, first⟩⟩ := ih
          · exact ⟨message :: messages, Or.inl (by simp [all])⟩
          · exact ⟨message :: messages, Or.inr ⟨later, by simp [first]⟩⟩

end Runs

structure NoPoison (kind : TransactionKind) (moduleName : String) (world : HandingWorld) : Prop where
  returns : ∀ calls, ∀ result ∈ (exportMessages kind moduleName calls world).1, ∃ exported, result = .ok exported
  hands : ∃ enough, ∀ calls : List ExportCall, enough ≤ calls.length →
    ∃ handed, (exportMessages kind moduleName calls world).2.external.module = world.external.module ++ handed ∧
      ∀ message, .message message ∈ moduleItems moduleName world.queues → message ∈ handed
  removes : ∀ (call : ExportCall) name,
    world.queues.firstItem (exportQueueNames moduleName) = some (name, .corrupt) →
      (exportMessage kind call.outcomes moduleName call.send world).2.queues = world.queues.dropFirst name

def acceptingCall : ExportCall where
  outcomes := nothingFails
  healthy := ⟨rfl, rfl, rfl, rfl, rfl, rfl, rfl, ⟨rfl, rfl, rfl, rfl, rfl, rfl, rfl, rfl⟩, rfl⟩
  answer := fun _ message => (.ok "", message)

/-- A module is stopped by poison exactly when there is some in its queues. -/
theorem exportMessages_noPoison_iff (kind : TransactionKind) (moduleName : String) (world : HandingWorld) :
    NoPoison kind moduleName world ↔ .corrupt ∉ moduleItems moduleName world.queues := by
  obtain ⟨messages, all | ⟨later, first⟩⟩ := exists_messages (moduleItems moduleName world.queues)
  · have readable : .corrupt ∉ moduleItems moduleName world.queues := by simp [all]
    refine iff_of_true ⟨fun calls => (exportMessages_return kind calls readable).1, ⟨messages.length, ?_⟩, ?_⟩ readable
    · intro calls enough
      have itemsEnd : moduleItems moduleName world.queues = messages.map .message ++ [] := by simp [all]
      obtain ⟨more, module⟩ := exportMessages_hand kind calls itemsEnd List.not_mem_nil enough
      refine ⟨messages ++ more, module, ?_⟩
      intro message member
      rw [all] at member
      simp only [List.mem_map, QueueItem.message.injEq, exists_eq_right] at member
      exact List.mem_append_left _ member
    · intro call name found
      cases items : moduleItems moduleName world.queues with
      | nil => simp [firstItem_of_nil items] at found
      | cons item rest =>
          obtain ⟨_, head, _⟩ := firstItem_of_cons items
          rw [head] at found
          cases found
          simp [items] at readable
  · refine iff_of_false ?_ (by simp [first])
    intro noPoison
    obtain ⟨exported, returned⟩ := noPoison.returns _ _ (exportMessages_throw kind acceptingCall first)
    contradiction

def poisonedWorld : HandingWorld :=
  { exportWorld "STANDARDWS" [] with
    queues := Function.update (fun _ => []) (.internalExport "STANDARDWS" .normal) [.corrupt, .message valuesMessage] }

theorem exportMessages_poisoned : ¬ NoPoison .msmq "STANDARDWS" poisonedWorld := by
  intro noPoison
  have first : poisonedWorld.queues.firstItem (exportQueueNames "STANDARDWS") =
      some (.internalExport "STANDARDWS" .normal, .corrupt) := by decide
  have items : moduleItems "STANDARDWS" poisonedWorld.queues = [.corrupt, .message valuesMessage] := by decide
  have kept := (exportMessage_corrupt .msmq acceptingCall items).2
  have removed := noPoison.removes acceptingCall _ first
  rw [kept] at removed
  have lengths := congrArg (fun queues : Queues => (moduleItems "STANDARDWS" queues).length) removed
  revert lengths
  decide

end ManagerService

end ServiceHost.DataExchange
