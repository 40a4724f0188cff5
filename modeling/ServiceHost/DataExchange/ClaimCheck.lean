import ServiceHost.DataExchange.ImportMessageConservation

/-!
The payloads behind the claim tickets. A payload is deleted before the queue
transaction commits, so what keeps every queued message readable is that no commit
fails after a deletion and that no two queued messages share a ticket.
-/

namespace ServiceHost.DataExchange

open Library

def DataExchangeMessage.HasPayload (payloads : ClaimTicket → Option String) (message : DataExchangeMessage) : Prop :=
  message.version = 1 → ∃ ticket, message.claimTicket = some ticket ∧ (payloads ticket).isSome

def importAndErrorQueueNames : List QueueName := .internalImportError :: importQueueNames

def World.ClaimsBacked (world : World ImportVariables) : Prop :=
  ∀ name ∈ importAndErrorQueueNames, ∀ message, .message message ∈ world.queues name →
    message.HasPayload world.payloads

def ImportOutcomes.Deletes (outcomes : ImportOutcomes) (payloads : ClaimTicket → Option String)
    (message : DataExchangeMessage) : Prop :=
  message.version ≠ 0 ∧ message.claimTicket ≠ none ∧
    match outcomes.callException message (outcomes.handleMessage.handling payloads message) with
    | none => True
    | some exception =>
        exception.route = .messageLog ∧ message.deleteException outcomes.deleteAfterFailure = none

def ImportOutcomes.KeepsClaims (outcomes : ImportOutcomes) (kind : TransactionKind)
    (world : World ImportVariables) : Prop :=
  (kind = .msmq → outcomes.begin_ = none) → outcomes.wait = none →
    ∀ name message, world.queues.firstItem importQueueNames = some (name, .message message) →
      outcomes.Deletes world.payloads message →
        (message.version = 1 → Commits kind outcomes.commit outcomes.dispose) ∧
          ∀ other ∈ importAndErrorQueueNames, ∀ queued, .message queued ∈ world.queues.dropFirst name other →
            queued.version = 1 → queued.claimTicket ≠ message.claimTicket

section NothingReceived

variable {world : World ImportVariables} {kind : TransactionKind}

structure World.Idle (world : World ImportVariables) (kind : TransactionKind) (state : World ImportVariables) :
    Prop where
  queues : state.queues = world.queues
  payloads : state.payloads = world.payloads
  transaction : state.transactions .dequeue = ⟨kind, .pending, [], [], []⟩
  external : state.external = ⟨none, false⟩

theorem logMessage_idle (key : Nat) :
    Program.Triple (world.Idle kind) (logMessage key) fun _ => world.Idle kind :=
  Program.Triple.change fun _ idle => ⟨idle.queues, idle.payloads, idle.transaction, idle.external⟩

theorem deleteCurrentMessageData_idle (failure : Option SystemException) :
    Program.Triple (world.Idle kind) (deleteCurrentMessageData failure) fun _ => world.Idle kind := by
  intro state idle
  simpa [deleteCurrentMessageData, bind, Program.read, idle.external] using idle

theorem onErrorCaught_idle (outcomes : ImportOutcomes) :
    Program.Triple (world.Idle kind) (importDelegates outcomes).onErrorCaught fun _ => world.Idle kind := by
  intro state idle
  have logged := logMessage_idle 8000 state idle
  simpa [importDelegates, bind, Program.read, idle.external, enqueueErroneousImportMessage, Program.handle]
    using logged

theorem handlingCall_idle (outcomes : ImportOutcomes)
    (nothing : outcomes.wait = none → world.queues.firstItem importQueueNames = none) :
    Program.Triple (world.Idle kind) (handlingCall outcomes) fun _ => world.Idle kind := by
  intro state idle
  cases waited : outcomes.wait with
  | some exception => simpa [handlingCall, dequeue, bind, waited] using idle
  | none =>
      have missing := dequeueFrom_missing idle.transaction (by rw [idle.queues]; exact nothing waited)
      have kept : world.Idle kind { state with external := ⟨none, false⟩ } :=
        ⟨idle.queues, idle.payloads, idle.transaction, rfl⟩
      simpa [handlingCall, dequeue, bind, waited, missing, Program.change, handleMessage, deleteCurrentMessageData,
        Program.read] using kept

theorem then_idle {A B : Type} {first : Exchange ImportVariables A} {next : A → Exchange ImportVariables B}
    (starts : Program.Triple (world.Idle kind) first fun _ => world.Idle kind)
    (goes : ∀ value, Program.Triple (world.Idle kind) (next value) fun _ => world.Idle kind) :
    Program.Triple (world.Idle kind) (first >>= next) fun _ => world.Idle kind :=
  Program.Triple.bind starts goes fun _ _ idle => idle

theorem handling_idle (outcomes : ImportOutcomes)
    (nothing : outcomes.wait = none → world.queues.firstItem importQueueNames = none) :
    Program.Triple (world.Idle kind)
      (handleMessageWithExceptionHandling (importDelegates outcomes) (handlingCall outcomes))
      fun _ => world.Idle kind := by
  have logged (key : Nat) := @logMessage_idle world kind key
  have moved := @onErrorCaught_idle world kind outcomes
  have deleted := @deleteCurrentMessageData_idle world kind outcomes.deleteAfterFailure
  have skipped : Program.Triple (world.Idle kind) (pure () : Exchange ImportVariables Unit) fun _ => world.Idle kind :=
    Program.Triple.pure fun _ idle => idle
  have finished : Program.Triple (world.Idle kind) (pure true : Exchange ImportVariables Bool)
      fun _ => world.Idle kind := Program.Triple.pure fun _ idle => idle
  refine Program.Triple.handle (handlingCall_idle outcomes nothing) (fun _ _ idle => idle) ?_
  intro exception
  cases exception with
  | invalidMessage messageId =>
      exact then_idle (logged _) fun _ => then_idle (logged _) fun _ => then_idle skipped fun _ =>
        then_idle moved fun _ => finished
  | claimHandler =>
      exact then_idle (logged _) fun _ => then_idle (logged _) fun _ => then_idle skipped fun _ =>
        then_idle moved fun _ => finished
  | invalidMetadata messageId =>
      exact then_idle (logged _) fun _ => then_idle skipped fun _ => then_idle moved fun _ => finished
  | importRunnerFailed =>
      exact then_idle (logged _) fun _ => then_idle (logged _) fun _ => then_idle deleted fun _ => finished
  | timeout => exact then_idle (logged _) fun _ => then_idle deleted fun _ => finished
  | win32 => exact then_idle (logged _) fun _ => then_idle moved fun _ => finished
  | _ => exact Program.Triple.raise fun _ idle => idle

theorem processInTransaction_idle (outcomes : ImportOutcomes) (begins : kind = .msmq → outcomes.begin_ = none)
    (nothing : outcomes.wait = none → world.queues.firstItem importQueueNames = none) :
    (processInTransaction outcomes (world.setTransaction .dequeue (.create kind))).2.disposedQueues
        .dequeue outcomes.dispose = world.queues ∧
      (processInTransaction outcomes (world.setTransaction .dequeue (.create kind))).2.payloads =
        world.payloads := by
  let cleared : World ImportVariables := { world with external := ⟨none, false⟩ }
  have begun : Transaction.begin_ .dequeue outcomes.begin_
      { world.setTransaction .dequeue (.create kind) with external := ⟨none, false⟩ } =
        (.ok (), world.handlingStart kind) :=
    @Transaction.begin_create _ cleared .dequeue kind outcomes.begin_ begins
  have start : world.Idle kind (world.handlingStart kind) := ⟨rfl, rfl, handlingStart_transaction, rfl⟩
  have handled := handling_idle outcomes nothing (world.handlingStart kind) start
  rw [processInTransaction, Program.bind_of_ok (Program.change_run ..), Program.bind_of_ok begun]
  cases run : handleMessageWithExceptionHandling (importDelegates outcomes) (handlingCall outcomes)
      (world.handlingStart kind) with
  | mk result later =>
      replace handled : world.Idle kind later := by rwa [run] at handled
      cases result with
      | error exception =>
          rw [Program.bind_of_error run]
          simp [World.disposedQueues, handled.transaction, handled.queues, handled.payloads, Queues.giveBackAll]
      | ok messageIsHandled =>
          rw [Program.bind_of_ok run]
          cases messageIsHandled with
          | true =>
              have queues := Transaction.commit_disposedQueues handled.transaction outcomes.commit outcomes.dispose
              have same := @Transaction.commit_sameRecords _ later .dequeue outcomes.commit
              cases committed : Transaction.commit .dequeue outcomes.commit later with
              | mk result last =>
                  rw [committed] at queues same
                  replace same : last.payloads = later.payloads := same.payloads
                  replace queues : last.disposedQueues .dequeue outcomes.dispose = _ := queues
                  cases result <;>
                    simp [bind, committed, Program.read, queues, same, handled.queues, handled.payloads,
                      Queues.appendAll, Queues.giveBackAll]
          | false =>
              have queues := Transaction.rollback_disposedQueues handled.transaction outcomes.dispose
              have same := @Transaction.rollback_sameRecords _ later .dequeue
              cases rolledBack : Transaction.rollback .dequeue later with
              | mk result last =>
                  rw [rolledBack] at queues same
                  replace same : last.payloads = later.payloads := same.payloads
                  replace queues : last.disposedQueues .dequeue outcomes.dispose = _ := queues
                  cases result <;>
                    simp [bind, rolledBack, Program.read, queues, same, handled.queues, handled.payloads,
                      Queues.giveBackAll]

theorem processNextImportMessage_nothing (outcomes : ImportOutcomes)
    (nothing : (kind = .msmq → outcomes.begin_ = none) → outcomes.wait = none →
      world.queues.firstItem importQueueNames = none) :
    (processNextImportMessage kind outcomes world).2.queues = world.queues ∧
      (processNextImportMessage kind outcomes world).2.payloads = world.payloads := by
  have same := @Transaction.using_sameRecords _ world .dequeue kind _ outcomes.dispose (processInTransaction outcomes)
  rw [processNextImportMessage, Transaction.using_queues, same.payloads]
  by_cases begins : kind = .msmq → outcomes.begin_ = none
  · exact processInTransaction_idle outcomes begins (nothing begins)
  · have msmq : kind = .msmq := by
      by_contra other
      exact begins fun same => absurd same other
    subst msmq
    cases failed : outcomes.begin_ with
    | none => exact absurd (fun _ => failed) begins
    | some exception =>
        simp [processInTransaction, bind, Program.change, Transaction.begin_, Program.read, failed,
          Transaction.create, World.disposedQueues]

end NothingReceived

section Runs

variable {world : World ImportVariables} {kind : TransactionKind} {name : QueueName}

theorem clearedPayloads_same {message : DataExchangeMessage} (payloads : ClaimTicket → Option String)
    (nothing : message.version = 0 ∨ message.claimTicket = none) : message.clearedPayloads payloads = payloads := by
  unfold DataExchangeMessage.clearedPayloads
  rcases nothing with version | ticket
  · rw [if_pos version]
  · simp [ticket]

theorem clearedPayloads_other {message : DataExchangeMessage} (payloads : ClaimTicket → Option String)
    {ticket : ClaimTicket} (different : message.claimTicket ≠ some ticket) :
    message.clearedPayloads payloads ticket = payloads ticket := by
  unfold DataExchangeMessage.clearedPayloads
  split
  · rfl
  · cases held : message.claimTicket with
    | none => rfl
    | some own =>
        have others : ticket ≠ own := fun same => different (by rw [held, same])
        exact Function.update_of_ne others none payloads

theorem failureTrace_payloads (outcomes : ImportOutcomes) (exception : SystemException) (trace : ImportTrace) :
    (outcomes.failureTrace exception trace).payloads =
      match trace.message with
      | some message =>
          if exception.route = .messageLog ∧ message.deleteException outcomes.deleteAfterFailure = none then
            message.clearedPayloads trace.payloads
          else trace.payloads
      | none => trace.payloads := by
  unfold ImportOutcomes.failureTrace
  cases held : trace.message with
  | none =>
      cases exception.route <;> simp [ImportOutcomes.erroneousTrace, ImportTrace.delete]
  | some message =>
      cases exception.route with
      | errorQueue =>
          simp only [ImportOutcomes.erroneousTrace]
          split <;> simp
      | messageLog =>
          simp only [ImportTrace.delete, true_and]
          split <;> rfl
      | propagates => simp

theorem trace_payloads_kept (outcomes : ImportOutcomes) (payloads : ClaimTicket → Option String)
    {message : DataExchangeMessage} (kept : ¬ outcomes.Deletes payloads message) :
    (outcomes.trace payloads (.message message)).payloads = payloads := by
  by_cases nothing : message.version = 0 ∨ message.claimTicket = none
  · have same := clearedPayloads_same payloads nothing
    simp only [ImportOutcomes.trace]
    split
    · simp [ImportOutcomes.callTrace, same]
    · simp [failureTrace_payloads, ImportOutcomes.callTrace, same]
  · have version : message.version ≠ 0 := fun zero => nothing (Or.inl zero)
    have ticket : message.claimTicket ≠ none := fun missing => nothing (Or.inr missing)
    cases raised : outcomes.callException message (outcomes.handleMessage.handling payloads message) with
    | none => exact absurd ⟨version, ticket, by simp [raised]⟩ kept
    | some exception =>
        have rejected : ¬ (exception.route = .messageLog ∧
            message.deleteException outcomes.deleteAfterFailure = none) := by
          intro deleted
          exact kept ⟨version, ticket, by simpa [raised] using deleted⟩
        simp [ImportOutcomes.trace, raised, failureTrace_payloads, ImportOutcomes.callTrace, rejected]

theorem trace_payloads_other (outcomes : ImportOutcomes) (payloads : ClaimTicket → Option String)
    {message : DataExchangeMessage} {ticket : ClaimTicket} (different : message.claimTicket ≠ some ticket) :
    (outcomes.trace payloads (.message message)).payloads ticket = payloads ticket := by
  have cleared (payloads : ClaimTicket → Option String) := clearedPayloads_other payloads different
  simp only [ImportOutcomes.trace]
  split
  · rename_i raised
    simp [ImportOutcomes.callTrace, raised, cleared]
  · rename_i exception raised
    rw [failureTrace_payloads]
    simp only [ImportOutcomes.callTrace, raised]
    split <;> simp [cleared]

theorem trace_payloads_corrupt (outcomes : ImportOutcomes) (payloads : ClaimTicket → Option String) :
    (outcomes.trace payloads .corrupt).payloads = payloads := by
  simp [ImportOutcomes.trace, failureTrace_payloads]

theorem place_of_deletes (outcomes : ImportOutcomes) (payloads : ClaimTicket → Option String)
    {message : DataExchangeMessage} (deletes : outcomes.Deletes payloads message) :
    outcomes.place kind payloads (.message message) =
      if Commits kind outcomes.commit outcomes.dispose then .gone else .importQueue := by
  obtain ⟨_, _, deleted⟩ := deletes
  by_cases commits : Commits kind outcomes.commit outcomes.dispose
  · rw [if_pos commits]
    refine (place_gone_iff outcomes payloads message).mpr ⟨commits, ?_⟩
    cases raised : outcomes.callException message (outcomes.handleMessage.handling payloads message) with
    | none => trivial
    | some exception =>
        simp only [raised] at deleted
        simpa [deleted.1] using deleted.2
  · simp [ImportOutcomes.place, commits]

theorem trace_payloads_deleted (outcomes : ImportOutcomes) (payloads : ClaimTicket → Option String)
    {message : DataExchangeMessage} (deletes : outcomes.Deletes payloads message) {ticket : ClaimTicket}
    (held : message.claimTicket = some ticket) : (outcomes.trace payloads (.message message)).payloads ticket = none := by
  obtain ⟨version, _, deleted⟩ := deletes
  have cleared (payloads : ClaimTicket → Option String) : message.clearedPayloads payloads ticket = none := by
    simp [DataExchangeMessage.clearedPayloads, version, held]
  cases raised : outcomes.callException message (outcomes.handleMessage.handling payloads message) with
  | none => simp [ImportOutcomes.trace, raised, ImportOutcomes.callTrace, cleared]
  | some exception =>
      simp only [raised] at deleted
      simp [ImportOutcomes.trace, raised, failureTrace_payloads, ImportOutcomes.callTrace, deleted, cleared]

theorem mem_dropFirst {queues : Queues} {name other : QueueName} {item : QueueItem}
    (member : item ∈ queues.dropFirst name other) : item ∈ queues other := by
  by_cases same : other = name
  · subst same
    simp only [Queues.dropFirst, Function.update_self] at member
    exact List.mem_of_mem_tail member
  · simpa [Queues.dropFirst, same] using member

theorem mem_withMessageAt {queues : Queues} {name other : QueueName} {item queued : QueueItem} (place : ImportPlace)
    (member : queued ∈ queues.withMessageAt name item place other) : queued ∈ queues other ∨ queued = item := by
  cases place with
  | importQueue => exact Or.inl member
  | gone => exact Or.inl (mem_dropFirst member)
  | errorQueue =>
      by_cases same : other = .internalImportError
      · subst same
        simp only [Queues.withMessageAt, Queues.append, Function.update_self, List.mem_append,
          List.mem_singleton] at member
        rcases member with remained | moved
        · exact Or.inl (mem_dropFirst remained)
        · exact Or.inr moved
      · simp only [Queues.withMessageAt, Queues.append, Function.update_of_ne same] at member
        exact Or.inl (mem_dropFirst member)

theorem HasPayload_congr {payloads later : ClaimTicket → Option String} {message : DataExchangeMessage}
    (has : message.HasPayload payloads)
    (same : ∀ ticket, message.claimTicket = some ticket → message.version = 1 → later ticket = payloads ticket) :
    message.HasPayload later := by
  intro version
  obtain ⟨ticket, held, stored⟩ := has version
  exact ⟨ticket, held, by rwa [same ticket held version]⟩

theorem mem_of_head {queues : Queues} {name other : QueueName} {item queued : QueueItem}
    (head : (queues name).head? = some item) (member : queued ∈ queues other) :
    queued ∈ queues.dropFirst name other ∨ queued = item := by
  by_cases same : other = name
  · subst same
    cases content : queues other with
    | nil => simp [content] at head
    | cons first rest =>
        simp only [content, List.head?_cons, Option.some.injEq] at head
        simp only [content, List.mem_cons] at member
        rw [← head, Queues.dropFirst, Function.update_self, content, List.tail_cons]
        exact member.symm
  · left
    simpa [Queues.dropFirst, same] using member

section Step

variable {item : QueueItem} {message : DataExchangeMessage} (outcomes : ImportOutcomes)

theorem claimsBacked_of_kept (backed : world.ClaimsBacked)
    (begins : kind = .msmq → outcomes.begin_ = none) (waited : outcomes.wait = none)
    (found : world.queues.firstItem importQueueNames = some (name, item))
    (kept : (outcomes.trace world.payloads item).payloads = world.payloads) :
    (processNextImportMessage kind outcomes world).2.ClaimsBacked := by
  have records := processNextImportMessage_records outcomes begins waited found
  have placed := processNextImportMessage_place outcomes begins waited found
  obtain ⟨imported, head⟩ := Queues.firstItem_head found
  intro other known queued member
  rw [placed] at member
  rw [records.payloads]
  show queued.HasPayload (outcomes.trace world.payloads item).payloads
  rw [kept]
  rcases mem_withMessageAt _ member with remained | moved
  · exact backed other known queued remained
  · have present : item ∈ world.queues name := List.mem_of_head? head
    exact backed name (List.mem_cons_of_mem _ imported) queued (moved ▸ present)

theorem claimsBacked_of_deletes_iff (backed : world.ClaimsBacked)
    (begins : kind = .msmq → outcomes.begin_ = none) (waited : outcomes.wait = none)
    (found : world.queues.firstItem importQueueNames = some (name, .message message))
    (deletes : outcomes.Deletes world.payloads message) :
    (processNextImportMessage kind outcomes world).2.ClaimsBacked ↔
      (message.version = 1 → Commits kind outcomes.commit outcomes.dispose) ∧
        ∀ other ∈ importAndErrorQueueNames, ∀ queued, .message queued ∈ world.queues.dropFirst name other →
          queued.version = 1 → queued.claimTicket ≠ message.claimTicket := by
  have records := processNextImportMessage_records outcomes begins waited found
  have placed := processNextImportMessage_place outcomes begins waited found
  rw [place_of_deletes outcomes world.payloads deletes] at placed
  obtain ⟨imported, head⟩ := Queues.firstItem_head found
  have knownName : name ∈ importAndErrorQueueNames := List.mem_cons_of_mem _ imported
  have present : .message message ∈ world.queues name := List.mem_of_head? head
  have payloads : (processNextImportMessage kind outcomes world).2.payloads =
      (outcomes.trace world.payloads (.message message)).payloads := records.payloads
  constructor
  · intro kept
    have lost {queued : DataExchangeMessage} (version : queued.version = 1)
        (shares : queued.claimTicket = message.claimTicket) :
        ¬ queued.HasPayload (processNextImportMessage kind outcomes world).2.payloads := by
      intro has
      obtain ⟨ticket, held, stored⟩ := has version
      rw [payloads, trace_payloads_deleted outcomes world.payloads deletes (shares.symm.trans held)] at stored
      contradiction
    constructor
    · intro version
      by_contra fails
      rw [if_neg fails] at placed
      refine lost version rfl (kept name knownName message ?_)
      rw [placed]
      exact present
    · intro other known queued member version shares
      refine lost version shares (kept other known queued ?_)
      rw [placed]
      split
      · exact member
      · exact mem_dropFirst member
  · rintro ⟨gone, unshared⟩ other known queued member version
    rw [placed] at member
    have remained : .message queued ∈ world.queues.dropFirst name other := by
      split at member
      · exact member
      · rename_i fails
        rcases mem_of_head head member with remained | same
        · exact remained
        · injection same with same
          exact absurd (gone (same ▸ version)) fails
    have different := unshared other known queued remained version
    have before := backed other known queued (mem_dropFirst remained)
    rw [payloads]
    refine HasPayload_congr before (fun ticket held _ => ?_) version
    exact trace_payloads_other outcomes world.payloads fun same => different (held.trans same.symm)

theorem processNextImportMessage_claimsBacked_iff (backed : world.ClaimsBacked) :
    (processNextImportMessage kind outcomes world).2.ClaimsBacked ↔ outcomes.KeepsClaims kind world := by
  by_cases received : (kind = .msmq → outcomes.begin_ = none) ∧ outcomes.wait = none ∧
      ∃ name message, world.queues.firstItem importQueueNames = some (name, .message message) ∧
        outcomes.Deletes world.payloads message
  · obtain ⟨begins, waited, name, message, found, deletes⟩ := received
    rw [claimsBacked_of_deletes_iff outcomes backed begins waited found deletes]
    constructor
    · intro kept _ _ otherName other also _
      rw [found] at also
      obtain ⟨rfl, rfl⟩ : name = otherName ∧ message = other := by simpa using also
      exact kept
    · intro keeps
      exact keeps begins waited name message found deletes
  · have keeps : outcomes.KeepsClaims kind world := fun begins waited name message found deletes =>
      absurd ⟨begins, waited, name, message, found, deletes⟩ received
    refine iff_of_true ?_ keeps
    by_cases starts : (kind = .msmq → outcomes.begin_ = none) ∧ outcomes.wait = none ∧
        world.queues.firstItem importQueueNames ≠ none
    · obtain ⟨begins, waited, some_⟩ := starts
      obtain ⟨⟨name, item⟩, found⟩ := Option.ne_none_iff_exists'.mp some_
      refine claimsBacked_of_kept outcomes backed begins waited found ?_
      cases item with
      | corrupt => exact trace_payloads_corrupt outcomes world.payloads
      | message message =>
          exact trace_payloads_kept outcomes world.payloads fun deletes =>
            received ⟨begins, waited, name, message, found, deletes⟩
    · obtain ⟨queues, payloads⟩ := @processNextImportMessage_nothing world kind outcomes fun begins waited => by
        by_contra some_
        exact starts ⟨begins, waited, some_⟩
      intro name known message member
      rw [queues] at member
      rw [payloads]
      exact backed name known message member

end Step

inductive ImportRun (start : World ImportVariables) : World ImportVariables → Prop
  | start : ImportRun start start
  | next {state : World ImportVariables} (kind : TransactionKind) (outcomes : ImportOutcomes) :
      ImportRun start state → outcomes.KeepsClaims kind state →
        ImportRun start (processNextImportMessage kind outcomes state).2

theorem ImportRun.claimsBacked {start final : World ImportVariables} (backed : start.ClaimsBacked)
    (run : ImportRun start final) : final.ClaimsBacked := by
  induction run with
  | start => exact backed
  | next kind outcomes _ keeps ih => exact (processNextImportMessage_claimsBacked_iff outcomes ih).mpr keeps

theorem HasPayload.readable {payloads : ClaimTicket → Option String} {message : DataExchangeMessage}
    (has : message.HasPayload payloads) (version : message.version = 1) {readFailure : Option SystemException}
    (otherwise : readFailure ≠ some .claimHandler) :
    message.getMessageData payloads readFailure ≠ .error .claimHandler := by
  obtain ⟨ticket, held, stored⟩ := has version
  obtain ⟨payload, found⟩ := Option.isSome_iff_exists.mp stored
  cases readFailure with
  | none => simp [DataExchangeMessage.getMessageData, version, held, found]
  | some exception => simpa [DataExchangeMessage.getMessageData, version, held] using otherwise

/-- In every state of such a run the queued messages of version 1 have their payloads. -/
theorem import_runs_keep_payloads {start final : World ImportVariables} (backed : start.ClaimsBacked)
    (run : ImportRun start final) {name : QueueName} (known : name ∈ importAndErrorQueueNames)
    {message : DataExchangeMessage} (queued : .message message ∈ final.queues name)
    (version : message.version = 1) :
    (∃ ticket, message.claimTicket = some ticket ∧ (final.payloads ticket).isSome) ∧
      ∀ readFailure, readFailure ≠ some .claimHandler →
        message.getMessageData final.payloads readFailure ≠ .error .claimHandler := by
  have has := run.claimsBacked backed name known message queued
  exact ⟨has version, fun _ otherwise => HasPayload.readable has version otherwise⟩

theorem valuesWorld_claimsBacked : valuesWorld.ClaimsBacked := by
  intro name _ message member
  by_cases here : name = .internalImport .normal
  · subst here
    have same : message = valuesMessage := by simpa [valuesWorld] using member
    subst same
    exact fun _ => ⟨valuesTicket, rfl, by decide⟩
  · simp [valuesWorld, here] at member

def win32Fails : ImportOutcomes :=
  { onlyCommitFails none with handleMessage := ⟨none, none, some .win32⟩ }

theorem import_runs_keep_payloads_win32 :
    (∃ ticket, valuesMessage.claimTicket = some ticket ∧
      ((processNextImportMessage .msmq win32Fails valuesWorld).2.payloads ticket).isSome) ∧
    ∀ readFailure, readFailure ≠ some .claimHandler → valuesMessage.getMessageData
      (processNextImportMessage .msmq win32Fails valuesWorld).2.payloads readFailure ≠ .error .claimHandler :=
  import_runs_keep_payloads valuesWorld_claimsBacked
    (.next .msmq win32Fails .start fun _ _ name message found deletes => by
      rw [valuesWorld_first] at found
      obtain ⟨rfl, rfl⟩ : .internalImport .normal = name ∧ valuesMessage = message := by simpa using found
      have raised : win32Fails.callException valuesMessage
          (win32Fails.handleMessage.handling valuesWorld.payloads valuesMessage) = some .win32 := by decide
      obtain ⟨_, _, deleted⟩ := deletes
      rw [raised] at deleted
      exact absurd deleted.1 (by decide))
    (by decide : .internalImportError ∈ importAndErrorQueueNames) (by decide) (by decide)

/-- The payload is gone when the commit after its deletion fails, and the message is back. -/
theorem import_run_loses_payload :
    valuesWorld.ClaimsBacked ∧
      ¬ (processNextImportMessage .msmq (onlyCommitFails (some (.other "MessageQueueException")))
        valuesWorld).2.ClaimsBacked := by
  refine ⟨valuesWorld_claimsBacked, fun backed => ?_⟩
  obtain ⟨ticket, held, stored⟩ := backed (.internalImport .normal) (by decide) valuesMessage (by decide) rfl
  obtain rfl : valuesTicket = ticket := by simpa [valuesMessage] using held
  exact absurd stored (by decide)

end Runs

end ServiceHost.DataExchange
