import ServiceHost.DataExchange.QueueCore

/-!
What a transaction leaves in the queues. The queues that a disposal will leave are
a function of the state, and each call on the transaction changes that function in
one known way.
-/

namespace ServiceHost.DataExchange

open Library

variable {X : Type}

namespace Queues

theorem giveBack_dropFirst {queues : Queues} {name : QueueName} {item : QueueItem}
    (first : (queues name).head? = some item) : (queues.dropFirst name).giveBack name item = queues := by
  have cons : item :: (queues name).tail = queues name := by
    cases content : queues name with
    | nil => simp [content] at first
    | cons head tail => simpa [content] using first.symm
  simp [giveBack, dropFirst, cons]

theorem append_length (queues : Queues) (target name : QueueName) (item : QueueItem) :
    (queues.append target item name).length = (queues name).length + if name = target then 1 else 0 := by
  by_cases same : name = target
  · subst same
    simp [append]
  · simp [append, same]

theorem dropFirst_length (queues : Queues) (target name : QueueName) :
    (queues.dropFirst target name).length = (queues name).length - if name = target then 1 else 0 := by
  by_cases same : name = target
  · subst same
    simp [dropFirst]
  · simp [dropFirst, same]

theorem firstItem_head {queues : Queues} {names : List QueueName} {name : QueueName} {item : QueueItem}
    (found : queues.firstItem names = some (name, item)) :
    name ∈ names ∧ (queues name).head? = some item := by
  induction names with
  | nil => simp [firstItem] at found
  | cons first rest ih =>
      cases content : queues first with
      | nil =>
          simp only [firstItem, content] at found
          have later := ih found
          exact ⟨List.mem_cons_of_mem _ later.1, later.2⟩
      | cons head tail =>
          simp only [firstItem, content, Option.some.injEq, Prod.mk.injEq] at found
          rw [← found.1, ← found.2, content]
          exact ⟨List.mem_cons_self .., rfl⟩

end Queues

theorem Queues.length_of_head {queues : Queues} {name : QueueName} {item : QueueItem}
    (first : (queues name).head? = some item) : 0 < (queues name).length := by
  cases content : queues name with
  | nil => simp [content] at first
  | cons head tail => simp

namespace World

variable (world : World X) (which : TransactionVariable) (transaction later : Transaction)

@[simp] theorem setTransaction_queues : (world.setTransaction which transaction).queues = world.queues := rfl

@[simp] theorem setTransaction_payloads : (world.setTransaction which transaction).payloads = world.payloads := rfl

@[simp] theorem setTransaction_messageLog :
    (world.setTransaction which transaction).messageLog = world.messageLog := rfl

@[simp] theorem setTransaction_eventLog : (world.setTransaction which transaction).eventLog = world.eventLog := rfl

@[simp] theorem setTransaction_imports : (world.setTransaction which transaction).imports = world.imports := rfl

@[simp] theorem setTransaction_external : (world.setTransaction which transaction).external = world.external := rfl

@[simp] theorem setTransaction_same : (world.setTransaction which transaction).transactions which = transaction := by
  simp [setTransaction]

@[simp] theorem setTransaction_other {other : TransactionVariable} (different : other ≠ which) :
    (world.setTransaction which transaction).transactions other = world.transactions other := by
  simp [setTransaction, different]

@[simp] theorem setTransaction_setTransaction :
    (world.setTransaction which transaction).setTransaction which later = world.setTransaction which later := by
  simp [setTransaction]

structure SameRecords (world later : World X) : Prop where
  payloads : later.payloads = world.payloads
  messageLog : later.messageLog = world.messageLog
  eventLog : later.eventLog = world.eventLog
  imports : later.imports = world.imports
  external : later.external = world.external

theorem SameRecords.refl (world : World X) : SameRecords world world := ⟨rfl, rfl, rfl, rfl, rfl⟩

theorem SameRecords.trans {world later last : World X} (first : SameRecords world later)
    (second : SameRecords later last) : SameRecords world last where
  payloads := second.payloads.trans first.payloads
  messageLog := second.messageLog.trans first.messageLog
  eventLog := second.eventLog.trans first.eventLog
  imports := second.imports.trans first.imports
  external := second.external.trans first.external

theorem sameRecords_setTransaction : SameRecords world (world.setTransaction which transaction) :=
  ⟨rfl, rfl, rfl, rfl, rfl⟩

theorem sameRecords_applyTransaction : SameRecords world (world.applyTransaction which) :=
  ⟨rfl, rfl, rfl, rfl, rfl⟩

theorem sameRecords_discardTransaction : SameRecords world (world.discardTransaction which) :=
  ⟨rfl, rfl, rfl, rfl, rfl⟩

def disposedQueues (disposeFailure : Option SystemException) : Queues :=
  let transaction := world.transactions which
  match transaction.status with
  | .pending => world.queues.giveBackAll transaction.received
  | .complete =>
      match disposeFailure with
      | none => world.queues.appendAll transaction.sent
      | some _ => world.queues.giveBackAll transaction.received
  | _ => world.queues

end World

def Commits (kind : TransactionKind) (commit dispose : Option SystemException) : Prop :=
  commit = none ∧ (kind = .msdtc → dispose = none)

instance (kind : TransactionKind) (commit dispose : Option SystemException) :
    Decidable (Commits kind commit dispose) := by
  unfold Commits
  infer_instance

def resultOf {A : Type} (exception : Option SystemException) (value : A) : Except SystemException A :=
  match exception with
  | none => .ok value
  | some exception => .error exception

theorem resultOf_pure {A : Type} {first : Exchange X Unit} {state later : World X}
    {exception : Option SystemException} (run : first state = (resultOf exception (), later)) (value : A) :
    (first >>= fun _ => pure value) state = (resultOf exception value, later) := by
  cases exception with
  | none => exact Program.bind_of_ok run
  | some exception => exact Program.bind_of_error run

namespace Transaction

variable {world : World X} {which : TransactionVariable} {kind : TransactionKind}
  {received sent : List (QueueName × QueueItem)} {calls : List TransactionCall}

theorem begin_create (failure : Option SystemException) (begins : kind = .msmq → failure = none) :
    begin_ which failure (world.setTransaction which (.create kind)) =
      (.ok (), world.setTransaction which ⟨kind, .pending, [], [], []⟩) := by
  cases kind with
  | msmq => simp [begin_, bind, create, begins rfl, Program.read, Program.change]
  | msdtc => simp [begin_, bind, create, Program.read]

theorem commit_disposedQueues (pending : world.transactions which = ⟨kind, .pending, received, sent, calls⟩)
    (commitFailure disposeFailure : Option SystemException) :
    (commit which commitFailure world).2.disposedQueues which disposeFailure =
      if Commits kind commitFailure disposeFailure then world.queues.appendAll sent
      else world.queues.giveBackAll received := by
  cases commitFailure with
  | some exception => simp [commit, bind, pending, Program.read, Program.change, World.disposedQueues, Commits]
  | none =>
      cases kind with
      | msmq =>
          simp [commit, bind, pending, Program.read, Program.change, World.disposedQueues,
            World.applyTransaction, Commits]
      | msdtc =>
          cases disposeFailure with
          | none => simp [commit, bind, pending, Program.read, Program.change, World.disposedQueues, Commits]
          | some exception =>
              simp [commit, bind, pending, Program.read, Program.change, World.disposedQueues, Commits]

theorem commit_result (pending : world.transactions which = ⟨kind, .pending, received, sent, calls⟩)
    (failure : Option SystemException) :
    (commit which failure world).1 = resultOf failure () := by
  cases failure with
  | some exception => simp [commit, bind, pending, Program.read, Program.change, resultOf]
  | none => cases kind <;> simp [commit, bind, pending, Program.read, Program.change, resultOf]

theorem commit_sameRecords (failure : Option SystemException) :
    world.SameRecords (commit which failure world).2 := by
  simp only [commit, bind, Program.read, Program.change, World.setTransaction_same]
  by_cases pending : (world.transactions which).status = .pending
  · cases failure with
    | some exception => simpa [pending] using World.sameRecords_setTransaction ..
    | none =>
        cases kind : (world.transactions which).kind with
        | msmq =>
            simp only [pending, ↓reduceIte, Program.call_none]
            exact (World.sameRecords_setTransaction ..).trans (World.sameRecords_applyTransaction ..)
        | msdtc =>
            simp only [pending, ↓reduceIte, Program.call_none]
            exact (World.sameRecords_setTransaction ..).trans (World.sameRecords_setTransaction ..)
  · simpa [pending] using World.sameRecords_setTransaction ..

def committed (kind : TransactionKind) (received sent : List (QueueName × QueueItem)) (calls : List TransactionCall) :
    Transaction :=
  match kind with
  | .msmq => ⟨.msmq, .committed, [], [], calls⟩
  | .msdtc => ⟨.msdtc, .complete, received, sent, calls⟩

def committedQueues (kind : TransactionKind) (sent : List (QueueName × QueueItem)) (queues : Queues) : Queues :=
  match kind with
  | .msmq => queues.appendAll sent
  | .msdtc => queues

theorem commit_returns (pending : world.transactions which = ⟨kind, .pending, received, sent, calls⟩) :
    ∃ later, commit which none world = (.ok (), later) ∧ later.queues = committedQueues kind sent world.queues ∧
      later.transactions =
        Function.update world.transactions which (committed kind received sent (calls ++ [.commit])) ∧
      world.SameRecords later := by
  have same := @commit_sameRecords _ world which none
  cases kind with
  | msmq =>
      simp only [commit, bind, Program.change_run, Program.read_run, World.setTransaction_same, pending, ↓reduceIte,
        Program.call_none] at same ⊢
      exact ⟨_, rfl, by simp [World.applyTransaction, committedQueues], by
        simp [World.applyTransaction, World.setTransaction, committed], same⟩
  | msdtc =>
      simp only [commit, bind, Program.change_run, Program.read_run, World.setTransaction_same, pending, ↓reduceIte,
        Program.call_none] at same ⊢
      exact ⟨_, rfl, rfl, by simp [World.setTransaction, committed], same⟩

theorem commit_refused (pending : world.transactions which = ⟨kind, .pending, received, sent, calls⟩)
    (exception : SystemException) :
    commit which (some exception) world =
      (.error exception, world.setTransaction which ⟨kind, .pending, received, sent, calls ++ [.commit]⟩) := by
  simp [commit, bind, pending, Program.read, Program.change]

theorem commit_again (done : world.transactions which = committed kind received sent calls)
    (failure : Option SystemException) :
    commit which failure world =
      (.error .invalidOperation, world.setTransaction which (committed kind received sent (calls ++ [.commit]))) := by
  cases kind <;> simp [commit, bind, done, Program.read, Program.change, committed]

theorem rollback_again (done : world.transactions which = committed kind received sent calls) :
    rollback which world =
      (resultOf (if kind = .msmq then some .invalidOperation else none) (),
        world.setTransaction which (committed kind received sent (calls ++ [.rollback]))) := by
  cases kind <;> simp [rollback, bind, done, Program.read, Program.change, committed, resultOf]

theorem disposedQueues_committed (done : world.transactions which = committed kind received sent calls)
    (disposeFailure : Option SystemException) :
    world.disposedQueues which disposeFailure =
      match kind, disposeFailure with
      | .msmq, _ => world.queues
      | .msdtc, none => world.queues.appendAll sent
      | .msdtc, some _ => world.queues.giveBackAll received := by
  cases kind with
  | msmq => simp [World.disposedQueues, done, committed]
  | msdtc => cases disposeFailure <;> simp [World.disposedQueues, done, committed]

theorem rollback_disposedQueues (pending : world.transactions which = ⟨kind, .pending, received, sent, calls⟩)
    (disposeFailure : Option SystemException) :
    (rollback which world).2.disposedQueues which disposeFailure = world.queues.giveBackAll received := by
  cases kind with
  | msmq =>
      simp [rollback, bind, pending, Program.read, Program.change, World.disposedQueues, World.discardTransaction]
  | msdtc => simp [rollback, bind, pending, Program.read, Program.change, World.disposedQueues]

theorem rollback_result (pending : world.transactions which = ⟨kind, .pending, received, sent, calls⟩) :
    (rollback which world).1 = .ok () := by
  cases kind <;> simp [rollback, bind, pending, Program.read, Program.change]

theorem rollback_sameRecords : world.SameRecords (rollback which world).2 := by
  simp only [rollback, bind, Program.read, Program.change, World.setTransaction_same]
  cases kind : (world.transactions which).kind with
  | msdtc => exact World.sameRecords_setTransaction ..
  | msmq =>
      by_cases pending : (world.transactions which).status = .pending
      · simp only [pending, ↓reduceIte]
        exact (World.sameRecords_setTransaction ..).trans (World.sameRecords_discardTransaction ..)
      · simpa [pending] using World.sameRecords_setTransaction ..

theorem dispose_queues (failure : Option SystemException) :
    (dispose which failure world).2.queues = world.disposedQueues which failure := by
  cases state : (world.transactions which).status with
  | complete =>
      cases failure with
      | none => simp [dispose, bind, state, World.disposedQueues, World.applyTransaction]
      | some exception => simp [dispose, bind, state, World.disposedQueues, World.discardTransaction]
  | pending => simp [dispose, bind, state, World.disposedQueues, World.discardTransaction]
  | initialized => simp [dispose, bind, state, World.disposedQueues]
  | committed => simp [dispose, bind, state, World.disposedQueues]
  | aborted => simp [dispose, bind, state, World.disposedQueues]

theorem dispose_sameRecords (failure : Option SystemException) :
    world.SameRecords (dispose which failure world).2 := by
  cases state : (world.transactions which).status with
  | complete =>
      cases failure with
      | none => simpa [dispose, bind, state] using World.sameRecords_applyTransaction ..
      | some exception => simpa [dispose, bind, state] using World.sameRecords_discardTransaction ..
  | pending => simpa [dispose, bind, state] using World.sameRecords_discardTransaction ..
  | initialized => simpa [dispose, bind, state] using World.SameRecords.refl world
  | committed => simpa [dispose, bind, state] using World.SameRecords.refl world
  | aborted => simpa [dispose, bind, state] using World.SameRecords.refl world

theorem dispose_result (failure : Option SystemException) :
    (dispose which failure world).1 =
      if (world.transactions which).status = .complete then resultOf failure () else .ok () := by
  cases state : (world.transactions which).status with
  | complete => cases failure <;> simp [dispose, bind, state, resultOf]
  | pending => simp [dispose, bind, state]
  | initialized => simp [dispose, bind, state]
  | committed => simp [dispose, bind, state]
  | aborted => simp [dispose, bind, state]

theorem dispose_calls (failure : Option SystemException) :
    ((dispose which failure world).2.transactions which).calls = (world.transactions which).calls := by
  cases state : (world.transactions which).status with
  | complete => cases failure <;> simp [dispose, bind, state, World.applyTransaction, World.discardTransaction]
  | pending => simp [dispose, bind, state, World.discardTransaction]
  | initialized => simp [dispose, bind, state]
  | committed => simp [dispose, bind, state]
  | aborted => simp [dispose, bind, state]

theorem using_calls {A : Type} (failure : Option SystemException) (body : Exchange X A) :
    ((using_ which kind failure body world).2.transactions which).calls =
      ((body (world.setTransaction which (.create kind))).2.transactions which).calls := by
  cases run : body (world.setTransaction which (.create kind)) with
  | mk outcome later =>
      have kept := @dispose_calls _ later which failure
      cases disposed : dispose which failure later with
      | mk result last =>
          rw [disposed] at kept
          cases result with
          | ok _ => simpa [using_, bind, Program.change, Program.ensure, run, disposed] using kept
          | error exception => simpa [using_, bind, Program.change, Program.ensure, run, disposed] using kept

theorem using_result {A : Type} (failure : Option SystemException) {body : Exchange X A}
    {outcome : Except SystemException A} {later : World X}
    (run : body (world.setTransaction which (.create kind)) = (outcome, later)) :
    (using_ which kind failure body world).1 =
      match (dispose which failure later).1 with
      | .ok _ => outcome
      | .error exception => .error exception := by
  cases disposed : dispose which failure later with
  | mk result last =>
      cases result with
      | ok _ => simp [using_, bind, Program.change, Program.ensure, run, disposed]
      | error exception => simp [using_, bind, Program.change, Program.ensure, run, disposed]

theorem using_returns {A : Type} (body : Exchange X A) :
    (using_ which kind none body world).1 = (body (world.setTransaction which (.create kind))).1 := by
  cases run : body (world.setTransaction which (.create kind)) with
  | mk outcome later =>
      rw [using_result none run, dispose_result]
      simp [resultOf]

theorem using_state {A : Type} (failure : Option SystemException) {body : Exchange X A}
    {outcome : Except SystemException A} {later : World X}
    (run : body (world.setTransaction which (.create kind)) = (outcome, later)) :
    (using_ which kind failure body world).2 = (dispose which failure later).2 := by
  cases disposed : dispose which failure later with
  | mk result last =>
      cases result with
      | ok _ => simp [using_, bind, Program.change, Program.ensure, run, disposed]
      | error exception => simp [using_, bind, Program.change, Program.ensure, run, disposed]

theorem dispose_others (failure : Option SystemException) {other : TransactionVariable} (different : other ≠ which) :
    (dispose which failure world).2.transactions other = world.transactions other := by
  cases state : (world.transactions which).status with
  | complete =>
      cases failure <;>
        simp [dispose, bind, state, World.applyTransaction, World.discardTransaction, World.setTransaction, different]
  | pending => simp [dispose, bind, state, World.discardTransaction, World.setTransaction, different]
  | initialized => simp [dispose, bind, state]
  | committed => simp [dispose, bind, state]
  | aborted => simp [dispose, bind, state]

theorem using_queues {A : Type} (failure : Option SystemException) (body : Exchange X A) :
    (using_ which kind failure body world).2.queues =
      (body (world.setTransaction which (.create kind))).2.disposedQueues which failure := by
  cases run : body (world.setTransaction which (.create kind)) with
  | mk outcome later =>
      rw [← dispose_queues]
      cases disposed : dispose which failure later with
      | mk result last =>
          cases result with
          | ok _ => simp [using_, bind, Program.change, Program.ensure, run, disposed]
          | error exception => simp [using_, bind, Program.change, Program.ensure, run, disposed]

theorem using_sameRecords {A : Type} (failure : Option SystemException) (body : Exchange X A) :
    World.SameRecords (body (world.setTransaction which (.create kind))).2
      (using_ which kind failure body world).2 := by
  cases run : body (world.setTransaction which (.create kind)) with
  | mk outcome later =>
      have same := @dispose_sameRecords _ later which failure
      cases disposed : dispose which failure later with
      | mk result last =>
          rw [disposed] at same
          cases result with
          | ok _ => simpa [using_, bind, Program.change, Program.ensure, run, disposed] using same
          | error exception => simpa [using_, bind, Program.change, Program.ensure, run, disposed] using same

end Transaction

section Dequeue

variable {world : World X} {which : TransactionVariable} {kind : TransactionKind} {calls : List TransactionCall}
  {names : List QueueName} {name : QueueName} {item : QueueItem}

def World.received (world : World X) (which : TransactionVariable) (kind : TransactionKind)
    (calls : List TransactionCall) (name : QueueName) (item : QueueItem) : World X :=
  { world with queues := world.queues.dropFirst name }.setTransaction which
    ⟨kind, .pending, [(name, item)], [], calls⟩

def dequeued : QueueItem → Exchange X (Option DataExchangeMessage)
  | .message message => do
      logMessage 8204
      pure (some message)
  | .corrupt => Program.raise (.invalidMessage none)

theorem dequeueFrom_found (fresh : world.transactions which = ⟨kind, .pending, [], [], calls⟩)
    (found : world.queues.firstItem names = some (name, item)) :
    dequeueFrom which names world = dequeued item (world.received which kind calls name item) := by
  induction names with
  | nil => simp [Queues.firstItem] at found
  | cons first rest ih =>
      cases content : world.queues first with
      | nil =>
          simp only [Queues.firstItem, content] at found
          rw [← ih found]
          simp [dequeueFrom, receive, bind, fresh, content, Program.read]
      | cons head tail =>
          simp only [Queues.firstItem, content, Option.some.injEq, Prod.mk.injEq] at found
          obtain ⟨sameName, sameItem⟩ := found
          subst sameName sameItem
          cases head with
          | message message =>
              simp [dequeueFrom, receive, bind, fresh, content, Program.read, Program.change, messageBody,
                dequeued, World.received, Queues.dropFirst]
          | corrupt =>
              simp [dequeueFrom, receive, bind, fresh, content, Program.read, Program.change, messageBody,
                dequeued, World.received, Queues.dropFirst]

theorem dequeueFrom_missing (fresh : world.transactions which = ⟨kind, .pending, [], [], calls⟩)
    (missing : world.queues.firstItem names = none) : dequeueFrom which names world = (.ok none, world) := by
  induction names with
  | nil => rfl
  | cons first rest ih =>
      cases content : world.queues first with
      | nil =>
          simp only [Queues.firstItem, content] at missing
          rw [← ih missing]
          simp [dequeueFrom, receive, bind, fresh, content, Program.read]
      | cons head tail => simp [Queues.firstItem, content] at missing

theorem dequeue_found (fresh : world.transactions which = ⟨kind, .pending, [], [], calls⟩)
    (found : world.queues.firstItem names = some (name, item)) :
    dequeue which names none world = dequeued item (world.received which kind calls name item) := by
  rw [← dequeueFrom_found fresh found]
  rfl

end Dequeue

namespace DataExchangeMessage

def deleteException (message : DataExchangeMessage) (failure : Option SystemException) : Option SystemException :=
  if message.version = 0 ∨ message.claimTicket = none then none else failure

def clearedPayloads (message : DataExchangeMessage) (payloads : ClaimTicket → Option String) :
    ClaimTicket → Option String :=
  if message.version = 0 then payloads
  else match message.claimTicket with
    | none => payloads
    | some ticket => Function.update payloads ticket none

theorem deleteMessageData_raises {message : DataExchangeMessage} {failure : Option SystemException}
    {exception : SystemException} (raises : message.deleteException failure = some exception) (world : World X) :
    message.deleteMessageData failure world = (.error exception, world) := by
  unfold deleteException at raises
  split at raises
  · contradiction
  · rename_i external
    cases ticket : message.claimTicket with
    | none => exact absurd (Or.inr ticket) external
    | some ticket =>
        have version : message.version ≠ 0 := fun zero => external (Or.inl zero)
        simp [deleteMessageData, version, ticket, raises, bind]

theorem deleteMessageData_returns {message : DataExchangeMessage} {failure : Option SystemException}
    (returns : message.deleteException failure = none) (world : World X) :
    message.deleteMessageData failure world =
      (.ok (), { world with payloads := message.clearedPayloads world.payloads }) := by
  by_cases version : message.version = 0
  · simp [deleteMessageData, clearedPayloads, version]
  · cases ticket : message.claimTicket with
    | none => simp [deleteMessageData, clearedPayloads, version, ticket]
    | some ticket =>
        simp only [deleteException, version, ticket, reduceCtorEq, or_self, ↓reduceIte] at returns
        simp [deleteMessageData, clearedPayloads, version, ticket, returns, bind, Program.change]

end DataExchangeMessage

section Samples

def valuesTicket : ClaimTicket := ⟨"LocalFileshareClaimHandler", "values"⟩

def valuesMessage : DataExchangeMessage where
  version := 1
  externalReference := some "values"
  messageData := none
  claimTicket := some valuesTicket
  senderId := ""
  receiverId := ""
  senderName := ""
  receiverName := ""
  format := ""
  country := ""
  protocolId := 0
  protocol := "XML"
  priority := "normal"
  routingAddress := "STANDARDWS"
  messageLogId := 0
  messageReference := ""
  senderKey := 0
  receiverKey := 0

end Samples

end ServiceHost.DataExchange
