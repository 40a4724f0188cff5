import Mathlib.Data.List.Basic
import ServiceHost.DataExchange.ImportMessageConservation

/-!
`ImportApplicationManagerService.RunIteration`: messages are processed until there is none, one could not be read, an
exception is raised or a stop is requested.
-/

namespace ServiceHost.DataExchange.ImportIteration

open Library

/-- What a call of `ProcessNextImportMessage` meets, and what `StopRequested` says after it. -/
structure Turn where
  outcomes : ImportOutcomes
  stopRequested : Bool

section RunIteration

variable (kind : TransactionKind) (turns : Nat → Turn)

/-- The loop of `RunIteration` from one of its turns on. It logs an exception and raises it again. -/
def runIteration : (fuel turn : Nat) → World ImportVariables →
    Option (Except SystemException Bool × World ImportVariables)
  | 0, _, _ => none
  | fuel + 1, turn, world =>
      match processNextImportMessage kind (turns turn).outcomes world with
      | (.error exception, world) => some (.error exception, world)
      | (.ok possiblyMoreWork, world) =>
          if possiblyMoreWork && !(turns turn).stopRequested then runIteration fuel (turn + 1) world
          else some (.ok possiblyMoreWork, world)

end RunIteration

section Items

/-- The messages that wait for their import, in the order in which they are dequeued. -/
def importItems (queues : Queues) : List QueueItem := importQueueNames.flatMap queues

theorem firstItem_none {queues : Queues} {names : List QueueName} (missing : queues.firstItem names = none) :
    names.flatMap queues = [] := by
  induction names with
  | nil => rfl
  | cons name names ih =>
      unfold Queues.firstItem at missing
      rw [List.flatMap_cons]
      cases content : queues name with
      | nil =>
          rw [content] at missing
          exact ih missing
      | cons item items =>
          rw [content] at missing
          cases missing

theorem flatMap_update {queues : Queues} {names : List QueueName} {name : QueueName} (items : List QueueItem)
    (other : name ∉ names) : names.flatMap (Function.update queues name items) = names.flatMap queues := by
  refine List.flatMap_congr fun member inside => ?_
  exact Function.update_of_ne (fun same : member = name => other (same ▸ inside)) _ _

theorem firstItem_some {queues : Queues} {names : List QueueName} {name : QueueName} {item : QueueItem}
    (distinct : names.Nodup) (found : queues.firstItem names = some (name, item)) :
    names.flatMap queues = item :: names.flatMap (queues.dropFirst name) := by
  induction names with
  | nil => cases found
  | cons first names ih =>
      obtain ⟨apart, distinct⟩ := List.nodup_cons.mp distinct
      unfold Queues.firstItem at found
      rw [List.flatMap_cons, List.flatMap_cons]
      cases content : queues first with
      | nil =>
          rw [content] at found
          have inside := (Queues.firstItem_head found).1
          have same : queues.dropFirst name first = [] :=
            (Function.update_of_ne (fun same : first = name => apart (same ▸ inside)) _ _).trans content
          rw [same]
          exact ih distinct found
      | cons head items =>
          rw [content] at found
          obtain ⟨rfl, rfl⟩ : first = name ∧ head = item := by simpa using found
          have rest : queues.dropFirst first first = items := by
            unfold Queues.dropFirst
            rw [Function.update_self, content]
            rfl
          rw [rest, Queues.dropFirst, flatMap_update _ apart]
          rfl

theorem importQueueNames_nodup : importQueueNames.Nodup := by decide

theorem internalImportError_notMem : QueueName.internalImportError ∉ importQueueNames := by decide

end Items

section Call

variable {kind : TransactionKind} {outcomes : ImportOutcomes} {world : World ImportVariables}

def isMessage : QueueItem → Bool
  | .message _ => true
  | .corrupt => false

/-- What a call returns and does to the queues: nothing, or it takes the first message out of its queue. -/
inductive Processed (world : World ImportVariables) : Except SystemException Bool → Queues → Prop
  | failed (exception : SystemException) : Processed world (.error exception) world.queues
  | nothing (missing : world.queues.firstItem importQueueNames = none) : Processed world (.ok false) world.queues
  | taken (name : QueueName) (item : QueueItem) (found : world.queues.firstItem importQueueNames = some (name, item))
      (place : ImportPlace) (left : place ≠ .importQueue) :
      Processed world (.ok (isMessage item)) (world.queues.withMessageAt name item place)

theorem failureTrace_message (exception : SystemException) (trace : ImportTrace) :
    (outcomes.failureTrace exception trace).message = trace.message := by
  unfold ImportOutcomes.failureTrace
  cases exception.route with
  | errorQueue =>
      simp only [ImportOutcomes.erroneousTrace]
      split <;> rfl
  | messageLog =>
      simp only [ImportTrace.delete]
      split
      · rfl
      · split <;> rfl
  | propagates => rfl

theorem trace_message (payloads : ClaimTicket → Option String) (item : QueueItem) :
    (outcomes.trace payloads item).message.isSome = isMessage item := by
  cases item with
  | corrupt => rw [ImportOutcomes.trace, failureTrace_message]; rfl
  | message message =>
      unfold ImportOutcomes.trace
      dsimp only
      split
      · rfl
      · rw [failureTrace_message]; rfl

theorem processInTransaction_begun (begins : kind = .msmq → outcomes.begin_ = none) :
    processInTransaction outcomes (world.setTransaction .dequeue (.create kind)) =
      (do
        let messageIsHandled ← handleMessageWithExceptionHandling (importDelegates outcomes) (handlingCall outcomes)
        if messageIsHandled then Transaction.commit .dequeue outcomes.commit
        else Transaction.rollback .dequeue
        let shared ← Program.read World.external
        pure shared.possiblyMoreWork : Exchange ImportVariables Bool) (world.handlingStart kind) := by
  let cleared : World ImportVariables := { world with external := ⟨none, false⟩ }
  have begun : Transaction.begin_ .dequeue outcomes.begin_
      { world.setTransaction .dequeue (.create kind) with external := ⟨none, false⟩ } =
        (.ok (), world.handlingStart kind) :=
    @Transaction.begin_create _ cleared .dequeue kind outcomes.begin_ begins
  rw [processInTransaction, Program.bind_of_ok (Program.change_run ..), Program.bind_of_ok begun]

section Found

variable (begins : kind = .msmq → outcomes.begin_ = none) (waited : outcomes.wait = none) {name : QueueName} {item : QueueItem}
  (found : world.queues.firstItem importQueueNames = some (name, item))

include begins waited found

theorem processInTransaction_found :
    processInTransaction outcomes (world.setTransaction .dequeue (.create kind)) =
      (do
        Program.ofExcept (resultOf (outcomes.handlingException world.payloads item) ())
        Transaction.commit .dequeue outcomes.commit
        let shared ← Program.read World.external
        pure shared.possiblyMoreWork : Exchange ImportVariables Bool)
        (world.traced kind name item (outcomes.trace world.payloads item)) := by
  have run := @handling_run world kind name item outcomes waited found
  rw [processInTransaction_begun begins]
  cases raised : outcomes.handlingException world.payloads item with
  | some exception =>
      rw [raised] at run
      exact Program.bind_of_error run
  | none =>
      rw [raised] at run
      exact Program.bind_of_ok run

/-- The call returns when nothing raises an exception, the commit and the disposal of a scope included. -/
theorem processNextImportMessage_result :
    (processNextImportMessage kind outcomes world).1 =
      resultOf (((outcomes.handlingException world.payloads item).or outcomes.commit).or
        (if kind = .msdtc then outcomes.dispose else none)) (isMessage item) := by
  have run := @processInTransaction_found kind outcomes world begins waited name item found
  have pending : (world.traced kind name item (outcomes.trace world.payloads item)).transactions .dequeue =
      ⟨kind, .pending, [(name, item)], (outcomes.trace world.payloads item).sent, []⟩ := by
    simp [World.traced]
  rw [processNextImportMessage]
  cases raised : outcomes.handlingException world.payloads item with
  | some exception =>
      rw [raised] at run
      rw [Transaction.using_result outcomes.dispose run, Transaction.dispose_result, pending]
      rfl
  | none =>
      rw [raised] at run
      cases failure : outcomes.commit with
      | some exception =>
          rw [failure] at run
          rw [Transaction.using_result outcomes.dispose
            ((run.trans (Program.bind_of_ok rfl)).trans (Program.bind_of_error (Transaction.commit_refused pending exception))),
            Transaction.dispose_result, World.setTransaction_same]
          rfl
      | none =>
          obtain ⟨later, returns, -, transactions, records⟩ := Transaction.commit_returns pending
          have shared : later.external.possiblyMoreWork = isMessage item := by
            rw [records.external]
            exact trace_message world.payloads item
          rw [failure] at run
          rw [Transaction.using_result outcomes.dispose
            ((run.trans (Program.bind_of_ok rfl)).trans ((Program.bind_of_ok returns).trans (Program.bind_of_ok rfl))),
            Transaction.dispose_result, transactions, Function.update_self, shared]
          cases kind with
          | msmq => rfl
          | msdtc => cases outcomes.dispose <;> rfl

end Found

theorem processed_missing (begins : kind = .msmq → outcomes.begin_ = none) (waited : outcomes.wait = none)
    (missing : world.queues.firstItem importQueueNames = none) :
    (processNextImportMessage kind outcomes world).1 = .ok false ∧
      (processNextImportMessage kind outcomes world).2.queues = world.queues := by
  have nothing : dequeue .dequeue importQueueNames none (world.handlingStart kind) = (.ok none, world.handlingStart kind) :=
    dequeueFrom_missing handlingStart_transaction missing
  have call : handlingCall outcomes (world.handlingStart kind) = (.ok false, world.handlingStart kind) := by
    rw [handlingCall, waited, Program.bind_of_ok nothing]
    rfl
  have run : processInTransaction outcomes (world.setTransaction .dequeue (.create kind)) =
      (do
        Transaction.rollback .dequeue
        let shared ← Program.read World.external
        pure shared.possiblyMoreWork : Exchange ImportVariables Bool) (world.handlingStart kind) := by
    rw [processInTransaction_begun begins]
    exact Program.bind_of_ok (Program.handle_of_ok call)
  let rolled := (Transaction.rollback .dequeue (world.handlingStart kind)).2
  have returned : Transaction.rollback .dequeue (world.handlingStart kind) = (.ok (), rolled) :=
    Prod.ext (Transaction.rollback_result handlingStart_transaction) rfl
  have shared : rolled.external.possiblyMoreWork = false :=
    congrArg ImportVariables.possiblyMoreWork (@Transaction.rollback_sameRecords _ (world.handlingStart kind) .dequeue).external
  have body : processInTransaction outcomes (world.setTransaction .dequeue (.create kind)) = (.ok false, rolled) := by
    rw [run, Program.bind_of_ok returned, ← shared]
    rfl
  have unmarked : (rolled.transactions .dequeue).status ≠ .complete := by
    cases kind <;>
      simp [rolled, Transaction.rollback, bind, handlingStart_transaction, Program.read, World.discardTransaction]
  constructor
  · rw [processNextImportMessage, Transaction.using_result outcomes.dispose body, Transaction.dispose_result, if_neg unmarked]
  · rw [processNextImportMessage, Transaction.using_queues, body]
    exact Transaction.rollback_disposedQueues handlingStart_transaction outcomes.dispose

theorem processed_failed {exception : SystemException} {later : World ImportVariables}
    (run : processInTransaction outcomes (world.setTransaction .dequeue (.create kind)) = (.error exception, later))
    (queues : later.disposedQueues .dequeue outcomes.dispose = world.queues) :
    Processed world (processNextImportMessage kind outcomes world).1 (processNextImportMessage kind outcomes world).2.queues := by
  rw [processNextImportMessage, Transaction.using_queues, run, queues, Transaction.using_result outcomes.dispose run]
  cases (Transaction.dispose .dequeue outcomes.dispose later).1 with
  | ok _ => exact .failed exception
  | error other => exact .failed other

theorem processed_begun (begins : kind = .msmq → outcomes.begin_ = none) (waited : outcomes.wait = none) :
    Processed world (processNextImportMessage kind outcomes world).1 (processNextImportMessage kind outcomes world).2.queues := by
  cases found : world.queues.firstItem importQueueNames with
  | none =>
      obtain ⟨returns, queues⟩ := processed_missing begins waited found
      rw [returns, queues]
      exact .nothing found
  | some first =>
      obtain ⟨name, item⟩ := first
      rw [@processNextImportMessage_result kind outcomes world begins waited name item found,
        processNextImportMessage_place outcomes begins waited found]
      unfold ImportOutcomes.place
      by_cases commits : outcomes.handlingException world.payloads item = none ∧ Commits kind outcomes.commit outcomes.dispose
      · rw [if_pos commits]
        obtain ⟨handled, committed, disposed⟩ := commits
        have nothing : (if kind = .msdtc then outcomes.dispose else none) = none := by
          split
          · exact disposed ‹_›
          · rfl
        rw [handled, committed, nothing]
        refine .taken name item found _ ?_
        split <;> exact fun same => by cases same
      · rw [if_neg commits]
        cases raised : ((outcomes.handlingException world.payloads item).or outcomes.commit).or
            (if kind = .msdtc then outcomes.dispose else none) with
        | some exception => exact .failed exception
        | none =>
            obtain ⟨earlier, disposed⟩ := Option.or_eq_none_iff.mp raised
            obtain ⟨handled, committed⟩ := Option.or_eq_none_iff.mp earlier
            exact (commits ⟨handled, committed, fun scope => (if_pos scope).symm.trans disposed⟩).elim

/-- The queue can be read, or the reading ends with the exception of the queue. -/
def Reads (outcomes : ImportOutcomes) : Prop := ∀ exception, outcomes.wait = some exception → exception = .queueOperationFailed

/-- Every call does one of the three. -/
theorem processed (reads : Reads outcomes) :
    Processed world (processNextImportMessage kind outcomes world).1 (processNextImportMessage kind outcomes world).2.queues := by
  by_cases begins : kind = .msmq → outcomes.begin_ = none
  · cases waited : outcomes.wait with
    | none => exact processed_begun begins waited
    | some exception =>
        obtain rfl := reads exception waited
        have raised : handlingCall outcomes (world.handlingStart kind) =
            (.error .queueOperationFailed, world.handlingStart kind) := by
          unfold handlingCall dequeue
          rw [waited]
          rfl
        have run : processInTransaction outcomes (world.setTransaction .dequeue (.create kind)) =
            (.error .queueOperationFailed, world.handlingStart kind) := by
          rw [processInTransaction_begun begins]
          exact Program.bind_of_error (Program.handle_of_error raised)
        refine processed_failed run ?_
        unfold World.disposedQueues
        rw [handlingStart_transaction]
        rfl
  · obtain ⟨rfl, failed⟩ := Classical.not_imp.mp begins
    obtain ⟨exception, failure⟩ := Option.ne_none_iff_exists'.mp failed
    let cleared : World ImportVariables := { world with external := ⟨none, false⟩ }
    have run : processInTransaction outcomes (world.setTransaction .dequeue (.create .msmq)) =
        (.error exception, cleared.setTransaction .dequeue (.create .msmq)) := by
      unfold processInTransaction Transaction.begin_
      rw [failure]
      simp [bind, Program.change, Program.read, cleared, Transaction.create, World.setTransaction]
    refine processed_failed run ?_
    unfold World.disposedQueues
    rw [World.setTransaction_same]
    rfl

end Call

section Runs

/-- Items were taken in their order, and some of them were put on the error queue. -/
structure Drained (queues final : Queues) (taken moved : List QueueItem) : Prop where
  items : importItems queues = taken ++ importItems final
  sublist : moved.Sublist taken
  errors : final .internalImportError = queues .internalImportError ++ moved
  others : ∀ name ∉ importQueueNames, name ≠ .internalImportError → final name = queues name

variable {queues between final : Queues} {taken moved : List QueueItem}

theorem Drained.refl (queues : Queues) : Drained queues queues [] [] :=
  ⟨rfl, List.Sublist.refl [], (List.append_nil _).symm, fun _ _ _ => rfl⟩

theorem Drained.trans {later movedLater : List QueueItem} (first : Drained queues between taken moved)
    (second : Drained between final later movedLater) : Drained queues final (taken ++ later) (moved ++ movedLater) where
  items := by rw [first.items, second.items, List.append_assoc]
  sublist := first.sublist.append second.sublist
  errors := by rw [second.errors, first.errors, List.append_assoc]
  others name other notError := (second.others name other notError).trans (first.others name other notError)

theorem drained_withMessageAt {name : QueueName} {item : QueueItem}
    (found : queues.firstItem importQueueNames = some (name, item)) {place : ImportPlace} (left : place ≠ .importQueue) :
    ∃ moved, Drained queues (queues.withMessageAt name item place) [item] moved := by
  have items := firstItem_some importQueueNames_nodup found
  have inside := (Queues.firstItem_head found).1
  have different : ∀ other ∉ importQueueNames, queues.dropFirst name other = queues other := fun other outside =>
    Function.update_of_ne (fun same : other = name => outside (same ▸ inside)) _ _
  have errors := different _ internalImportError_notMem
  cases place with
  | importQueue => exact (left rfl).elim
  | gone => exact ⟨[], items, List.nil_sublist _, errors.trans (List.append_nil _).symm, fun other outside _ => different other outside⟩
  | errorQueue =>
      refine ⟨[item], ?_, List.Sublist.refl _, ?_, fun other outside notError => ?_⟩
      · exact items.trans (congrArg (item :: ·) (flatMap_update _ internalImportError_notMem).symm)
      · have appended : queues.withMessageAt name item .errorQueue .internalImportError =
            queues.dropFirst name .internalImportError ++ [item] := by
          unfold Queues.withMessageAt Queues.append
          exact Function.update_self ..
        rw [appended, errors]
      · exact (Function.update_of_ne notError _ _).trans (different other outside)

variable {kind : TransactionKind} {turns : Nat → Turn}

/-- How an iteration ends, after it has taken some items. -/
structure Ended (turns : Nat → Turn) (turn : Nat) (queues final : Queues) (result : Except SystemException Bool)
    (taken moved : List QueueItem) : Prop where
  drained : Drained queues final taken moved
  readable : .corrupt ∉ taken.dropLast
  idle : result = .ok false → importItems final = [] ∨ ∃ before, taken = before ++ [.corrupt]
  stopped : result = .ok true → ∃ before last, taken = before ++ [last] ∧ (turns (turn + before.length)).stopRequested = true

theorem Ended.cons {turn : Nat} {result : Except SystemException Bool} {message : DataExchangeMessage} {first : List QueueItem}
    (step : Drained queues between [.message message] first) (rest : Ended turns (turn + 1) between final result taken moved) :
    Ended turns turn queues final result (.message message :: taken) (first ++ moved) where
  drained := step.trans rest.drained
  readable := by
    cases taken with
    | nil => exact List.not_mem_nil
    | cons next taken =>
        rw [List.dropLast_cons_cons]
        exact List.not_mem_cons_of_ne_of_not_mem (fun same => by cases same) rest.readable
  idle returns := by
    refine (rest.idle returns).imp_right fun found => ?_
    obtain ⟨before, same⟩ := found
    exact ⟨.message message :: before, congrArg _ same⟩
  stopped returns := by
    obtain ⟨before, last, same, requested⟩ := rest.stopped returns
    refine ⟨.message message :: before, last, congrArg _ same, ?_⟩
    rwa [List.length_cons, Nat.add_comm before.length, ← Nat.add_assoc]

/-- `RunIteration` ends, and takes the first messages in the order of the priorities: each leaves its queue once, and
the error queue gets some of them and nothing else. It says that there is no more work only when the queues are empty
or the last message could not be read, and that there is more only at a stop request. -/
theorem runIteration_drains (kind : TransactionKind) (turns : Nat → Turn) (reads : ∀ turn, Reads (turns turn).outcomes)
    (turn fuel : Nat) (world : World ImportVariables) (enough : (importItems world.queues).length < fuel) :
    ∃ result final taken moved, runIteration kind turns fuel turn world = some (result, final) ∧
      Ended turns turn world.queues final.queues result taken moved := by
  induction fuel generalizing turn world with
  | zero => exact absurd enough (Nat.not_lt_zero _)
  | succ fuel ih =>
      have step := @processed kind (turns turn).outcomes world (reads turn)
      unfold runIteration
      cases run : processNextImportMessage kind (turns turn).outcomes world with
      | mk result later =>
          rw [run] at step
          generalize left : later.queues = queues at step
          cases step with
          | failed exception =>
              refine ⟨_, _, [], [], rfl, left ▸ Drained.refl _, List.not_mem_nil, ?_, ?_⟩ <;> exact fun same => by cases same
          | nothing missing =>
              refine ⟨_, _, [], [], rfl, left ▸ Drained.refl _, List.not_mem_nil, fun _ => .inl ?_, fun same => by cases same⟩
              rw [left]
              exact firstItem_none missing
          | taken name item found place away =>
              obtain ⟨first, drained⟩ := drained_withMessageAt found away
              rw [← left] at drained
              cases item with
              | corrupt =>
                  exact ⟨_, _, _, _, rfl, drained, List.not_mem_nil, fun _ => .inr ⟨[], rfl⟩, fun same => by cases same⟩
              | message message =>
                  cases requested : (turns turn).stopRequested with
                  | true =>
                      exact ⟨_, _, _, _, rfl, drained, List.not_mem_nil, (fun same => by cases same),
                        fun _ => ⟨[], .message message, rfl, requested⟩⟩
                  | false =>
                      have fewer : (importItems later.queues).length < fuel := by
                        have length := congrArg List.length drained.items
                        rw [List.length_append, List.length_singleton] at length
                        omega
                      obtain ⟨result, final, taken, moved, runs, ended⟩ := ih (turn + 1) later fewer
                      exact ⟨result, final, _, _, runs, ended.cons drained⟩

theorem runIteration_drains_values :
    ∃ result final taken moved, runIteration .msmq (fun _ => ⟨onlyCommitFails none, false⟩) 2 0 valuesWorld = some (result, final) ∧
      Ended (fun _ => ⟨onlyCommitFails none, false⟩) 0 valuesWorld.queues final.queues result taken moved :=
  runIteration_drains .msmq (fun _ => ⟨onlyCommitFails none, false⟩) (fun _ exception waited => by cases waited) 0 2 valuesWorld
    (by decide)

end Runs

end ServiceHost.DataExchange.ImportIteration
