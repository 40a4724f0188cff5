import ServiceHost.DataExchange.CompelloImportCore
import ServiceHost.DataExchange.Queue

/-!
What has become of a message when `OnMessageReceived` returns, which tells Compello that it
may go. It is in a queue of the import then, unless Compello's own fault was swallowed, or
the importer has answered with an internal error that nobody looks at.
-/

namespace ServiceHost.DataExchange.Compello

open Library

section Transactions

variable {X : Type} {kind : TransactionKind} {name : QueueName} {message : DataExchangeMessage}

def TransactionOutcomes.failure (outcomes : TransactionOutcomes) (kind : TransactionKind)
    (enqueued : Option SystemException) : Option SystemException :=
  match if kind = .msmq then outcomes.begin_ else none with
  | some exception => some exception
  | none =>
      match enqueued, outcomes.commit with
      | some exception, _ => some exception
      | none, some exception => some exception
      | none, none => if kind = .msdtc then outcomes.dispose else none

theorem TransactionOutcomes.enqueued_of_failure {outcomes : TransactionOutcomes} {enqueued : Option SystemException}
    (returns : outcomes.failure kind enqueued = none) : enqueued = none := by
  unfold TransactionOutcomes.failure at returns
  split at returns
  · cases returns
  · split at returns
    · cases returns
    · cases returns
    · rfl

def Enqueues (call : Exchange X Unit) (failure : Option SystemException) (name : QueueName)
    (message : DataExchangeMessage) : Prop :=
  ∀ (world : World X) (kind : TransactionKind), world.transactions .enqueue = ⟨kind, .pending, [], [], []⟩ →
    ∃ later, call world = (resultOf failure (), later) ∧ later.queues = world.queues ∧
      later.payloads = world.payloads ∧ later.transactions .enqueue =
        ⟨kind, .pending, [], if failure = none then [(name, .message message)] else [], []⟩

theorem enqueues_enqueue (failure : Option SystemException) :
    Enqueues (X := X) (enqueue .enqueue name message failure) failure name message := by
  intro world kind pending
  cases failure with
  | none =>
      simp only [enqueue, bind, Program.read_run, pending, ↓reduceIte, Program.call_none, Program.change_run]
      exact ⟨_, rfl, rfl, rfl, by simp [World.setTransaction]⟩
  | some exception =>
      refine ⟨world, ?_, rfl, rfl, pending⟩
      simp [enqueue, bind, pending, resultOf]

def importEnqueueFailure (toUpperInvariant : Char → Char) (outcomes : EnqueueImportOutcomes)
    (original : DataExchangeMessage) : Option SystemException :=
  match importMessageToEnqueue toUpperInvariant outcomes.defaultRoutingAddress original with
  | .error exception => some exception
  | .ok _ => outcomes.enqueue

theorem fillImportMessage_same {defaultRoutingAddress : Option String} {original message : DataExchangeMessage}
    (filled : fillImportMessage defaultRoutingAddress original = .ok message) :
    ∃ routingAddress priority,
      message = { original with routingAddress := routingAddress, priority := priority } := by
  simp only [fillImportMessage, bind_eq_ok_iff] at filled
  obtain ⟨routingAddress, _, placed⟩ := filled
  split at placed
  · cases placed
  · cases placed
    exact ⟨_, _, rfl⟩

theorem importMessageToEnqueue_same {toUpperInvariant : Char → Char} {defaultRoutingAddress : Option String}
    {original message : DataExchangeMessage} {name : QueueName}
    (placed : importMessageToEnqueue toUpperInvariant defaultRoutingAddress original = .ok (name, message)) :
    (∃ priority, name = .internalImport priority) ∧ ∃ routingAddress priority,
      message = { original with routingAddress := routingAddress, priority := priority } := by
  simp only [importMessageToEnqueue, bind_eq_ok_iff] at placed
  obtain ⟨filled, fills, priority, _, named⟩ := placed
  have same := fillImportMessage_same fills
  split at named
  · cases named
    exact ⟨⟨_, rfl⟩, same⟩
  · cases named

theorem enqueueImportMessage_enqueues (toUpperInvariant : Char → Char) (outcomes : EnqueueImportOutcomes)
    (original : DataExchangeMessage) : ∃ name message,
      Enqueues (X := X) (DataExchangeApi.enqueueImportMessage toUpperInvariant outcomes original)
        (importEnqueueFailure toUpperInvariant outcomes original) name message ∧
      (importEnqueueFailure toUpperInvariant outcomes original = none →
        (∃ priority, name = .internalImport priority) ∧ ∃ routingAddress priority,
          message = { original with routingAddress := routingAddress, priority := priority }) := by
  unfold importEnqueueFailure
  cases target : importMessageToEnqueue toUpperInvariant outcomes.defaultRoutingAddress original with
  | error exception =>
      refine ⟨.internalImportError, original, ?_, by simp⟩
      intro world kind pending
      refine ⟨world, ?_, rfl, rfl, pending⟩
      simp [DataExchangeApi.enqueueImportMessage, bind, target, resultOf]
  | ok placed =>
      obtain ⟨name, message⟩ := placed
      refine ⟨name, message, ?_, fun _ => importMessageToEnqueue_same target⟩
      intro world kind pending
      have run := @enqueues_enqueue X name message outcomes.enqueue world kind pending
      simpa [DataExchangeApi.enqueueImportMessage, bind, target] using run

structure Adds (world : World X) (out : Except SystemException Unit × World X) (failure : Option SystemException)
    (name : QueueName) (message : DataExchangeMessage) : Prop where
  result : out.1 = resultOf failure ()
  queues : out.2.queues = if failure = none then world.queues.append name (.message message) else world.queues
  payloads : out.2.payloads = world.payloads

theorem adds_raised {world later : World X} {body : Exchange X Unit} {exception : SystemException}
    (dispose : Option SystemException)
    (run : body (world.setTransaction .enqueue (.create kind)) = (.error exception, later))
    (unfinished : (later.transactions .enqueue).status = .initialized ∨
      (later.transactions .enqueue).status = .pending ∧ (later.transactions .enqueue).received = [])
    (queues : later.queues = world.queues) (payloads : later.payloads = world.payloads) :
    Adds world (Transaction.using_ .enqueue kind dispose body world) (some exception) name message := by
  have records := @Transaction.using_sameRecords X world .enqueue kind Unit dispose body
  rw [run] at records
  refine ⟨?_, ?_, records.payloads.trans payloads⟩
  · rw [Transaction.using_result dispose run, Transaction.dispose_result]
    rcases unfinished with initialized | pending
    · simp [initialized, resultOf]
    · simp [pending.1, resultOf]
  · rw [Transaction.using_queues, run]
    rcases unfinished with initialized | pending
    · simp [World.disposedQueues, initialized, queues]
    · simp [World.disposedQueues, pending.1, pending.2, Queues.giveBackAll, queues]

theorem adds_committed {world later : World X} {body : Exchange X Unit} (dispose : Option SystemException)
    (run : body (world.setTransaction .enqueue (.create kind)) = (.ok (), later))
    (committed : later.transactions .enqueue =
      Transaction.committed kind [] [(name, .message message)] [.commit])
    (queues : later.queues = Transaction.committedQueues kind [(name, .message message)] world.queues)
    (payloads : later.payloads = world.payloads) :
    Adds world (Transaction.using_ .enqueue kind dispose body world) (if kind = .msdtc then dispose else none) name
      message := by
  have records := @Transaction.using_sameRecords X world .enqueue kind Unit dispose body
  rw [run] at records
  refine ⟨?_, ?_, records.payloads.trans payloads⟩
  · rw [Transaction.using_result dispose run, Transaction.dispose_result, committed]
    cases kind with
    | msmq => rfl
    | msdtc => cases dispose <;> rfl
  · rw [Transaction.using_queues, run, Transaction.disposedQueues_committed committed, queues]
    cases kind with
    | msmq => rfl
    | msdtc => cases dispose <;> rfl

theorem addMessage_adds {call : Exchange X Unit} {failure : Option SystemException} (outcomes : TransactionOutcomes)
    (enqueues : Enqueues call failure name message) (world : World X) :
    Adds world (addMessage kind outcomes call world) (outcomes.failure kind failure) name message := by
  unfold addMessage
  by_cases begins : kind = .msmq → outcomes.begin_ = none
  · have begun := @Transaction.begin_create X world .enqueue kind outcomes.begin_ begins
    obtain ⟨later, called, queues, payloads, transaction⟩ :=
      enqueues (world.setTransaction .enqueue ⟨kind, .pending, [], [], []⟩) kind (World.setTransaction_same ..)
    have first : (if kind = .msmq then outcomes.begin_ else none) = none := by
      split
      · exact begins ‹_›
      · rfl
    cases failure with
    | some exception =>
        have failed : outcomes.failure kind (some exception) = some exception := by
          simp [TransactionOutcomes.failure, first]
        rw [failed]
        refine adds_raised outcomes.dispose ?_ ?_ queues payloads
        · rw [Program.bind_of_ok begun, Program.bind_of_error called]
        · simp [transaction]
    | none =>
        cases commit : outcomes.commit with
        | some exception =>
            have failed : outcomes.failure kind none = some exception := by
              simp [TransactionOutcomes.failure, first, commit]
            have refused := Transaction.commit_refused transaction exception
            rw [failed]
            refine adds_raised outcomes.dispose
              (?_ : _ = (_, (Transaction.commit .enqueue (some exception) later).2)) ?_ ?_ ?_
            · rw [Program.bind_of_ok begun, Program.bind_of_ok called, refused]
            · simp [refused]
            · simpa [refused] using queues
            · simpa [refused] using payloads
        | none =>
            have failed : outcomes.failure kind none = if kind = .msdtc then outcomes.dispose else none := by
              simp [TransactionOutcomes.failure, first, commit]
            obtain ⟨last, returned, later_queues, transactions, records⟩ := Transaction.commit_returns transaction
            rw [failed]
            refine adds_committed outcomes.dispose ?_ ?_ ?_ (records.payloads.trans payloads)
            · rw [Program.bind_of_ok begun, Program.bind_of_ok called, returned]
            · rw [transactions]
              simp
            · rw [later_queues, queues]
              rfl
  · simp only [Classical.not_imp] at begins
    obtain ⟨isMsmq, begin_⟩ := begins
    subst isMsmq
    obtain ⟨exception, raises⟩ := Option.ne_none_iff_exists'.mp begin_
    have failed : outcomes.failure .msmq failure = some exception := by
      simp [TransactionOutcomes.failure, raises]
    rw [failed]
    have refused : Transaction.begin_ .enqueue outcomes.begin_ (world.setTransaction .enqueue (.create .msmq)) =
        (.error exception, world.setTransaction .enqueue (.create .msmq)) := by
      simp [Transaction.begin_, bind, Transaction.create, raises]
    refine adds_raised outcomes.dispose (Program.bind_of_error refused) ?_ rfl rfl
    simp [Transaction.create]

end Transactions

section Importer

variable {X : Type} {comparer : String → List Char} {toUpperInvariant : Char → Char} {outcomes : ImporterOutcomes}

def ImporterOutcomes.translated (outcomes : ImporterOutcomes) (checkIn : Except SystemException ClaimTicket)
    (importMessage : ImportMessage comparer) (areMetaDataMandatory : Bool) :
    Except SystemException (DataExchangeImportMessage × ClaimTicket) := do
  let message ← translateMetadata outcomes.getRoutingAddressForImport importMessage areMetaDataMandatory
  let ticket ← checkIn
  pure (message, ticket)

theorem translate_run (checkIn : Except SystemException ClaimTicket) (importMessage : ImportMessage comparer)
    (areMetaDataMandatory : Bool) (world : World X) :
    translate outcomes checkIn importMessage areMetaDataMandatory world =
      match outcomes.translated checkIn importMessage areMetaDataMandatory with
      | .ok (message, ticket) =>
          (.ok (message.setClaimTicket ticket),
            { world with payloads := Function.update world.payloads ticket (some importMessage.data) })
      | .error exception => (.error exception, world) := by
  unfold translate ImporterOutcomes.translated setMessageData
  cases translateMetadata outcomes.getRoutingAddressForImport importMessage areMetaDataMandatory with
  | error exception => rfl
  | ok message => cases checkIn <;> rfl

theorem translateMetadata_reference {getRoutingAddress : Except SystemException String}
    {importMessage : ImportMessage comparer} {areMetaDataMandatory : Bool} {message : DataExchangeImportMessage}
    (translated : translateMetadata getRoutingAddress importMessage areMetaDataMandatory = .ok message) :
    message.externalReference = some (toString importMessage.messageId) := by
  simp only [translateMetadata, bind_eq_ok_iff] at translated
  obtain ⟨_, _, _, _, _, _, _, _, _, _, _, _, _, _, _, _, made⟩ := translated
  cases made
  rfl

def ImporterOutcomes.importFailure (outcomes : ImporterOutcomes) (toUpperInvariant : Char → Char)
    (importMessage : ImportMessage comparer) : Option SystemException :=
  match outcomes.translated outcomes.checkIn importMessage true with
  | .error exception => some exception
  | .ok (message, ticket) =>
      outcomes.importQueue.failure outcomes.kind
        (importEnqueueFailure toUpperInvariant outcomes.enqueueImport (message.setClaimTicket ticket).toDataExchangeMessage)

def ImporterOutcomes.errorQueueFailure (outcomes : ImporterOutcomes) (importMessage : ImportMessage comparer) :
    Option SystemException :=
  match outcomes.translated outcomes.checkInAgain importMessage false with
  | .error exception => some exception
  | .ok _ => outcomes.errorQueue.failure outcomes.kind outcomes.enqueueErroneous

def Committed (messageId : Int) (data : String) (world later : World X) : Prop :=
  ∃ name message ticket, ((∃ priority, name = .internalImport priority) ∨ name = .internalImportError) ∧
    message.externalReference = some (toString messageId) ∧ message.claimTicket = some ticket ∧
    later.payloads ticket = some data ∧ later.queues = world.queues.append name (.message message)

theorem Committed.congr {messageId : Int} {data : String} {world other later : World X}
    (committed : Committed messageId data world later) (queues : world.queues = other.queues) :
    Committed messageId data other later := by
  unfold Committed
  rw [← queues]
  exact committed

structure Ends {A : Type} (importMessage : ImportMessage comparer) (failure : Option SystemException) (value : A)
    (world : World X) (out : Except SystemException A × World X) : Prop where
  result : out.1 = resultOf failure value
  committed : failure = none → Committed importMessage.messageId importMessage.data world out.2
  queues : failure ≠ none → out.2.queues = world.queues

theorem ends_adds {checkIn : Except SystemException ClaimTicket} {importMessage : ImportMessage comparer}
    {areMetaDataMandatory : Bool} {translated : DataExchangeImportMessage} {ticket : ClaimTicket}
    {failure : Option SystemException} {name : QueueName} {message : DataExchangeMessage} {world : World X}
    {out : Except SystemException Unit × World X}
    (translates : outcomes.translated checkIn importMessage areMetaDataMandatory = .ok (translated, ticket))
    (adds : Adds { world with payloads := Function.update world.payloads ticket (some importMessage.data) } out failure
      name message)
    (named : failure = none → ((∃ priority, name = .internalImport priority) ∨ name = .internalImportError) ∧
      message.externalReference = translated.externalReference ∧ message.claimTicket = some ticket) :
    Ends importMessage failure () world out := by
  refine ⟨adds.result, fun none => ?_, fun raises => ?_⟩
  · obtain ⟨isImport, reference, held⟩ := named none
    have queues := adds.queues
    rw [if_pos none] at queues
    refine ⟨name, message, ticket, isImport, ?_, held, ?_, queues⟩
    · rw [reference]
      simp only [ImporterOutcomes.translated, bind_eq_ok_iff] at translates
      obtain ⟨made, translates, _, _, same⟩ := translates
      cases same
      exact translateMetadata_reference translates
    · rw [adds.payloads]
      simp
  · rw [adds.queues, if_neg raises]

theorem Ends.andThen {A : Type} {importMessage : ImportMessage comparer} {failure : Option SystemException}
    {world state : World X} {first : Exchange X Unit} (ends : Ends importMessage failure () world (first state))
    {next : Exchange X A} {value : A} (returns : ∀ state, (next state).1 = .ok value)
    (kept : ∀ state, (next state).2.queues = state.queues ∧ (next state).2.payloads = state.payloads) :
    Ends importMessage failure value world ((first >>= fun _ => next) state) := by
  cases run : first state with
  | mk outcome later =>
      rw [run] at ends
      cases failure with
      | none =>
          have result : outcome = .ok () := ends.result
          subst result
          rw [Program.bind_of_ok run]
          refine ⟨returns later, fun none => ?_, by simp⟩
          obtain ⟨name, message, ticket, named, reference, held, payload, queues⟩ := ends.committed none
          refine ⟨name, message, ticket, named, reference, held, ?_, ?_⟩
          · rw [(kept later).2]
            exact payload
          · rw [(kept later).1]
            exact queues
      | some exception =>
          have result : outcome = .error exception := ends.result
          subst result
          rw [Program.bind_of_error run]
          exact ⟨rfl, by simp, ends.queues⟩

theorem tryImport_ends (importMessage : ImportMessage comparer) (world : World X) :
    Ends importMessage (outcomes.importFailure toUpperInvariant importMessage) ⟨true⟩ world
      (tryImport toUpperInvariant outcomes importMessage world) := by
  have translates := @translate_run X _ outcomes outcomes.checkIn importMessage true world
  unfold tryImport ImporterOutcomes.importFailure
  cases translated : outcomes.translated outcomes.checkIn importMessage true with
  | error exception =>
      simp only [translated] at translates
      rw [Program.bind_of_error translates]
      exact ⟨rfl, by simp, fun _ => rfl⟩
  | ok made =>
      obtain ⟨made, ticket⟩ := made
      simp only [translated] at translates
      rw [Program.bind_of_ok translates]
      obtain ⟨name, message, enqueues, named⟩ := enqueueImportMessage_enqueues (X := X) toUpperInvariant
        outcomes.enqueueImport (made.setClaimTicket ticket).toDataExchangeMessage
      refine Ends.andThen (ends_adds translated (addMessage_adds outcomes.importQueue enqueues _) ?_)
        (fun _ => rfl) (fun _ => ⟨rfl, rfl⟩)
      intro returns
      obtain ⟨isImport, _, _, same⟩ := named (TransactionOutcomes.enqueued_of_failure returns)
      subst same
      exact ⟨.inl isImport, rfl, rfl⟩

theorem handleInvalidMetadata_ends (importMessage : ImportMessage comparer) (world : World X) :
    Ends importMessage (outcomes.errorQueueFailure importMessage) ⟨false⟩ world
      (handleInvalidMetadata outcomes importMessage world) := by
  have translates := @translate_run X _ outcomes outcomes.checkInAgain importMessage false world
  unfold handleInvalidMetadata ImporterOutcomes.errorQueueFailure
  cases translated : outcomes.translated outcomes.checkInAgain importMessage false with
  | error exception =>
      simp only [translated] at translates
      rw [Program.bind_of_error translates]
      exact ⟨rfl, by simp, fun _ => rfl⟩
  | ok made =>
      obtain ⟨made, ticket⟩ := made
      simp only [translated] at translates
      rw [Program.bind_of_ok translates]
      have enqueues := @enqueues_enqueue X .internalImportError (made.setClaimTicket ticket).toDataExchangeMessage
        outcomes.enqueueErroneous
      refine Ends.andThen (ends_adds translated (addMessage_adds outcomes.errorQueue enqueues _) ?_)
        (fun _ => rfl) (fun _ => ⟨rfl, rfl⟩)
      exact fun _ => ⟨.inr rfl, rfl, rfl⟩

def ImporterOutcomes.Unanswered (outcomes : ImporterOutcomes) (toUpperInvariant : Char → Char)
    (importMessage : ImportMessage comparer) : Prop :=
  match outcomes.importFailure toUpperInvariant importMessage with
  | none | some (.invalidMetadata _) => True
  | some _ => False

theorem importCaseInsensitive_run {message : ImportMessage comparer}
    (unanswered : outcomes.Unanswered toUpperInvariant message) (world : World X) :
    let out := importCaseInsensitive toUpperInvariant outcomes message world
    (∃ response, out.1 = .ok response ∧ Committed message.messageId message.data world out.2) ∨
      ∃ messageId exception, outcomes.importFailure toUpperInvariant message = some (.invalidMetadata messageId) ∧
        outcomes.errorQueueFailure message = some exception ∧ out.1 = .error exception := by
  have tried := @tryImport_ends X _ toUpperInvariant outcomes message world
  unfold ImporterOutcomes.Unanswered at unanswered
  unfold importCaseInsensitive
  cases run : tryImport toUpperInvariant outcomes message world with
  | mk outcome later =>
      rw [run] at tried
      have result : outcome = _ := tried.result
      split at unanswered
      · rename_i returns
        rw [returns] at result
        subst result
        rw [Program.handle_of_ok run]
        exact .inl ⟨_, rfl, tried.committed returns⟩
      · rename_i messageId raises
        rw [raises] at result
        subst result
        rw [Program.handle_of_error run]
        have handled := @handleInvalidMetadata_ends X _ outcomes message later
        have queues : later.queues = world.queues := tried.queues (by rw [raises]; exact Option.some_ne_none _)
        have answered := handled.result
        cases failure : outcomes.errorQueueFailure message with
        | none =>
            rw [failure] at answered
            exact .inl ⟨_, answered, (handled.committed failure).congr queues⟩
        | some exception =>
            rw [failure] at answered
            exact .inr ⟨messageId, exception, raises, rfl, answered⟩
      · exact unanswered.elim

end Importer

section Module

variable {X : Type}

def receivedMessage (toUpperInvariant : Char → Char) (outcomes : ReceiveOutcomes)
    (eventArgs : ImportMessageReceivedEventArgs) :
    Except SystemException (ImportMessage (foldCase toUpperInvariant)) := do
  let message ← readTransaction outcomes eventArgs
  let metadata ← getCaseInsensitiveMetadata toUpperInvariant message.metadata
  pure ⟨message.messageId, message.data, metadata⟩

def CompelloFault (toUpperInvariant : Char → Char) (outcomes : ReceiveOutcomes)
    (eventArgs : ImportMessageReceivedEventArgs) : Prop :=
  match receivedMessage toUpperInvariant outcomes eventArgs with
  | .error exception => exception = .fault
  | .ok message =>
      (∃ messageId, outcomes.importer.importFailure toUpperInvariant message = some (.invalidMetadata messageId)) ∧
        outcomes.importer.errorQueueFailure message = some .fault

theorem executeAndLogExceptions_returns {command : Exchange X Unit} {stopListening : Option SystemException}
    {world later : World X} {exception : SystemException} (run : command world = (.error exception, later))
    (returns : (executeAndLogExceptions stopListening command true world).1 = .ok ()) : exception = .fault := by
  unfold executeAndLogExceptions at returns
  rw [Program.handle_of_error run] at returns
  split at returns
  · rfl
  · cases stopListening with
    | none => cases returns
    | some failure => cases returns

theorem executeAndLogExceptions_state {command : Exchange X Unit} {stopListening : Option SystemException}
    {world later : World X} (run : command world = (.ok (), later)) :
    (executeAndLogExceptions stopListening command true world).2 = later := by
  unfold executeAndLogExceptions
  rw [Program.handle_of_ok run]

theorem receivedMessage_ok {toUpperInvariant : Char → Char} {outcomes : ReceiveOutcomes}
    {eventArgs : ImportMessageReceivedEventArgs} {message : ImportMessage (foldCase toUpperInvariant)}
    (received : receivedMessage toUpperInvariant outcomes eventArgs = .ok message) :
    message.messageId = eventArgs.messageId ∧ outcomes.getTransactionData = .ok message.data := by
  simp only [receivedMessage, readTransaction, bind_eq_ok_iff] at received
  obtain ⟨read, ⟨_, _, _, _, data, gets, made⟩, _, _, copied⟩ := received
  cases made
  cases copied
  exact ⟨rfl, gets⟩

theorem importReceived_ok {toUpperInvariant : Char → Char} {outcomes : ReceiveOutcomes}
    {eventArgs : ImportMessageReceivedEventArgs} {message : ImportMessage (foldCase toUpperInvariant)}
    (received : receivedMessage toUpperInvariant outcomes eventArgs = .ok message) (world : World X) :
    importReceived toUpperInvariant outcomes eventArgs world =
      (do
        let _ ← importCaseInsensitive toUpperInvariant outcomes.importer message
        pure () : Exchange X Unit) world := by
  simp only [receivedMessage, bind_eq_ok_iff] at received
  obtain ⟨read, reads, metadata, copied, made⟩ := received
  cases made
  have copies : importMessage toUpperInvariant outcomes.importer read =
      (importCaseInsensitive toUpperInvariant outcomes.importer ⟨read.messageId, read.data, metadata⟩ :
        Exchange X SubmitImportResponse) := by
    unfold importMessage
    rw [copied]
    rfl
  unfold importReceived
  rw [reads, Program.bind_of_ok (Program.ofExcept_run _ _), copies]

theorem importReceived_error {toUpperInvariant : Char → Char} {outcomes : ReceiveOutcomes}
    {eventArgs : ImportMessageReceivedEventArgs} {exception : SystemException}
    (received : receivedMessage toUpperInvariant outcomes eventArgs = .error exception) (world : World X) :
    importReceived toUpperInvariant outcomes eventArgs world = (.error exception, world) := by
  unfold receivedMessage at received
  unfold importReceived
  cases reads : readTransaction outcomes eventArgs with
  | error failure =>
      rw [reads] at received
      cases received
      rfl
  | ok message =>
      rw [reads] at received
      cases copied : getCaseInsensitiveMetadata toUpperInvariant message.metadata with
      | error failure =>
          simp only [ok_bind, copied, error_bind] at received
          cases received
          simp [bind, importMessage, copied]
      | ok metadata =>
          simp only [ok_bind, copied] at received
          cases received

/-- When `OnMessageReceived` returns, the message is in a queue of the import, unless a
fault of Compello's was swallowed, as long as the importer answers no internal error. -/
theorem onMessageReceived_committed {toUpperInvariant : Char → Char} {outcomes : ReceiveOutcomes}
    {eventArgs : ImportMessageReceivedEventArgs}
    (unanswered : ∀ message, receivedMessage toUpperInvariant outcomes eventArgs = .ok message →
      outcomes.importer.Unanswered toUpperInvariant message) {world : World X}
    (returns : (onMessageReceived toUpperInvariant outcomes eventArgs world).1 = .ok ()) :
    (∃ data, outcomes.getTransactionData = .ok data ∧
      Committed eventArgs.messageId data world (onMessageReceived toUpperInvariant outcomes eventArgs world).2) ∨
      CompelloFault toUpperInvariant outcomes eventArgs := by
  unfold CompelloFault
  cases received : receivedMessage toUpperInvariant outcomes eventArgs with
  | error exception => exact .inr (executeAndLogExceptions_returns (importReceived_error received world) returns)
  | ok message =>
      obtain ⟨sameId, data⟩ := receivedMessage_ok received
      have imported := importReceived_ok received world
      cases run : importCaseInsensitive toUpperInvariant outcomes.importer message world with
      | mk outcome later =>
          have ways := importCaseInsensitive_run (unanswered message received) world
          rw [run] at ways
          cases outcome with
          | ok response =>
              rw [Program.bind_of_ok run] at imported
              rcases ways with ⟨_, _, committed⟩ | ⟨_, _, _, _, raised⟩
              · refine .inl ⟨message.data, data, ?_⟩
                rw [← sameId, onMessageReceived, executeAndLogExceptions_state imported]
                exact committed
              · cases raised
          | error exception =>
              rw [Program.bind_of_error run] at imported
              have isFault := executeAndLogExceptions_returns imported returns
              rcases ways with ⟨_, answered, _⟩ | ⟨messageId, failure, raises, failed, raised⟩
              · cases answered
              · cases raised
                exact .inr ⟨⟨messageId, raises⟩, failed.trans (congrArg some isFault)⟩

def receiveOutcomes (getTransactionData : Except SystemException String) : ReceiveOutcomes where
  createApiWrapper := none
  getEncoding := fun _ => none
  getTransactionData := getTransactionData
  importer :=
    { kind := .msmq
      getRoutingAddressForImport := .ok "COMPELLO:localhost:80"
      checkIn := .ok valuesTicket
      checkInAgain := .ok valuesTicket
      enqueueImport := ⟨none, none⟩
      enqueueErroneous := none
      importQueue := ⟨none, none, none⟩
      errorQueue := ⟨none, none, none⟩ }
  stopListening := none

def metadataOfValues : Metadata := ⟨[("Priority", some "high"), ("PROTOCOL", some "MSCONS")], by decide⟩

def valuesReceived : ImportMessageReceivedEventArgs := ⟨17, some metadataOfValues⟩

def idleWorld : World Unit where
  queues := fun _ => []
  payloads := fun _ => none
  messageLog := []
  eventLog := []
  imports := []
  transactions := fun _ => .create .msmq
  external := ()

theorem onMessageReceived_committed_values :
    let out := onMessageReceived Char.toUpper (receiveOutcomes (.ok "values")) valuesReceived idleWorld
    (∃ data, (receiveOutcomes (.ok "values")).getTransactionData = .ok data ∧
      Committed valuesReceived.messageId data idleWorld out.2) ∨
      CompelloFault Char.toUpper (receiveOutcomes (.ok "values")) valuesReceived := by
  refine @onMessageReceived_committed Unit Char.toUpper _ valuesReceived ?_ idleWorld ?_
  · intro message received
    have isValues : message = ⟨17, "values", some ⟨metadataOfValues.entries, by decide⟩⟩ := by
      cases received
      rfl
    have returns : (receiveOutcomes (.ok "values")).importer.importFailure Char.toUpper
        (⟨17, "values", some ⟨metadataOfValues.entries, by decide⟩⟩ : ImportMessage (foldCase Char.toUpper)) = none := by
      decide
    simp [ImporterOutcomes.Unanswered, isValues, returns]
  · rfl

/-- The Compello server raises a fault when the transaction is read. -/
theorem onMessageReceived_fault : ¬ ∀ toUpperInvariant outcomes eventArgs (world : World Unit),
    (onMessageReceived toUpperInvariant outcomes eventArgs world).1 = .ok () →
      ∃ data, outcomes.getTransactionData = .ok data ∧
        Committed eventArgs.messageId data world (onMessageReceived toUpperInvariant outcomes eventArgs world).2 := by
  intro committed
  obtain ⟨data, gets, _⟩ :=
    committed Char.toUpper (receiveOutcomes (.error .fault)) valuesReceived idleWorld rfl
  cases gets

end Module

end ServiceHost.DataExchange.Compello
