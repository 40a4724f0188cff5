import Mathlib.Logic.Basic
import ServiceHost.DataExchange.NpAuctionLogic
import ServiceHost.DataExchange.WsLogicBaseCore

/-!
What the callback of `SubmitImport` has been told when the call ends, and where the message
is then. The callback runs before the commit, so it has been told of a message that a commit
may still lose, and it is not told of one in the error queue.
-/

namespace ServiceHost.DataExchange.WsLogicBase

open Library

def Sends (body : Exchange (List Bool) Unit) (result : Except SystemException Unit)
    (sent : List (QueueName × QueueItem)) (told : List Bool) : Prop :=
  ∀ (world : World (List Bool)) (kind : TransactionKind) (before : List (QueueName × QueueItem)),
    world.transactions .enqueue = ⟨kind, .pending, [], before, []⟩ →
    ∃ later, body world = (result, later) ∧ later.queues = world.queues ∧
      later.external = world.external ++ told ∧
      later.transactions .enqueue = ⟨kind, .pending, [], before ++ sent, []⟩

namespace Sends

variable {first next : Exchange (List Bool) Unit} {exception : SystemException} {result : Except SystemException Unit}
  {sent more : List (QueueName × QueueItem)} {told later : List Bool}

theorem bind (starts : Sends first (.ok ()) sent told) (goes : Sends next result more later) :
    Sends (first >>= fun _ => next) result (sent ++ more) (told ++ later) := by
  intro world kind before pending
  obtain ⟨middle, run, queues, external, transaction⟩ := starts world kind before pending
  obtain ⟨last, ran, lastQueues, lastExternal, lastTransaction⟩ := goes middle kind (before ++ sent) transaction
  refine ⟨last, (Program.bind_of_ok run).trans ran, lastQueues.trans queues, ?_, ?_⟩
  · rw [lastExternal, external, List.append_assoc]
  · rw [lastTransaction, List.append_assoc]

theorem bind_raised (starts : Sends first (.error exception) sent told) :
    Sends (first >>= fun _ => next) (.error exception) sent told := by
  intro world kind before pending
  obtain ⟨middle, run, rest⟩ := starts world kind before pending
  exact ⟨middle, Program.bind_of_error run, rest⟩

theorem handle_returned {handler : SystemException → Exchange (List Bool) Unit} (returns : Sends first (.ok ()) sent told) :
    Sends (Program.handle first handler) (.ok ()) sent told := by
  intro world kind before pending
  obtain ⟨middle, run, rest⟩ := returns world kind before pending
  exact ⟨middle, Program.handle_of_ok run, rest⟩

theorem handle_raised {handler : SystemException → Exchange (List Bool) Unit}
    (raises : Sends first (.error exception) sent told) (handles : Sends (handler exception) result more later) :
    Sends (Program.handle first handler) result (sent ++ more) (told ++ later) := by
  intro world kind before pending
  obtain ⟨middle, run, queues, external, transaction⟩ := raises world kind before pending
  obtain ⟨last, ran, lastQueues, lastExternal, lastTransaction⟩ := handles middle kind (before ++ sent) transaction
  refine ⟨last, (Program.handle_of_error run).trans ran, lastQueues.trans queues, ?_, ?_⟩
  · rw [lastExternal, external, List.append_assoc]
  · rw [lastTransaction, List.append_assoc]

theorem raise (exception : SystemException) : Sends (Program.raise exception) (.error exception) [] [] := by
  intro world kind before pending
  exact ⟨world, rfl, rfl, by simp, by simpa using pending⟩

theorem logMessage (key : Nat) : Sends (DataExchange.logMessage key) (.ok ()) [] [] := by
  intro world kind before pending
  exact ⟨_, rfl, rfl, by simp, by simpa using pending⟩

theorem enqueue (name : QueueName) (message : DataExchangeMessage) (failure : Option SystemException) :
    Sends (DataExchange.enqueue .enqueue name message failure) (resultOf failure ())
      (if failure = none then [(name, .message message)] else []) [] := by
  intro world kind before pending
  cases failure with
  | none =>
      simp only [DataExchange.enqueue, Bind.bind, Program.read_run, pending, ↓reduceIte, Program.call_none,
        Program.change_run]
      exact ⟨_, rfl, rfl, by simp, by simp [World.setTransaction]⟩
  | some exception =>
      refine ⟨world, ?_, rfl, by simp, by simpa using pending⟩
      simp [DataExchange.enqueue, Bind.bind, pending, resultOf]

theorem invoke (failure : Option SystemException) (messageIsHandled : Bool) :
    Sends (WsLogicBase.invoke (some failure) messageIsHandled) (resultOf failure ()) [] [messageIsHandled] := by
  intro world kind before pending
  refine ⟨{ world with external := world.external ++ [messageIsHandled] }, ?_, rfl, rfl, by simpa using pending⟩
  cases failure with
  | none => rfl
  | some exception => rfl

end Sends

section Transaction

variable {kind : TransactionKind} {outcomes : Compello.TransactionOutcomes} {body : Exchange (List Bool) Unit}
  {sent : List (QueueName × QueueItem)} {told : List Bool}

def Begins (kind : TransactionKind) (failure : Option SystemException) : Prop := kind = .msmq → failure = none

instance (kind : TransactionKind) (failure : Option SystemException) : Decidable (Begins kind failure) := by
  unfold Begins
  infer_instance

theorem addMessage_refused (refused : ¬Begins kind outcomes.begin_) (world : World (List Bool)) :
    (Compello.addMessage kind outcomes body world).2.queues = world.queues ∧
      (Compello.addMessage kind outcomes body world).2.external = world.external := by
  simp only [Begins, Classical.not_imp] at refused
  obtain ⟨isMsmq, failed⟩ := refused
  subst isMsmq
  obtain ⟨exception, raises⟩ := Option.ne_none_iff_exists'.mp failed
  have first : Transaction.begin_ .enqueue outcomes.begin_ (world.setTransaction .enqueue (.create .msmq)) =
      (.error exception, world.setTransaction .enqueue (.create .msmq)) := by
    simp [Transaction.begin_, bind, Transaction.create, raises]
  have records := (@Transaction.using_sameRecords _ world .enqueue .msmq) outcomes.dispose
    (do
      Transaction.begin_ .enqueue outcomes.begin_
      body
      Transaction.commit .enqueue outcomes.commit)
  rw [Program.bind_of_error first] at records
  refine ⟨?_, records.external⟩
  rw [Compello.addMessage, Transaction.using_queues, Program.bind_of_error first]
  simp [World.disposedQueues, Transaction.create]

theorem addMessage_raised {exception : SystemException} (begins : Begins kind outcomes.begin_)
    (raises : Sends body (.error exception) sent told) (world : World (List Bool)) :
    (Compello.addMessage kind outcomes body world).2.queues = world.queues ∧
      (Compello.addMessage kind outcomes body world).2.external = world.external ++ told := by
  have begun := (@Transaction.begin_create _ world .enqueue) outcomes.begin_ begins
  obtain ⟨later, ran, queues, external, transaction⟩ :=
    raises (world.setTransaction .enqueue ⟨kind, .pending, [], [], []⟩) kind [] (World.setTransaction_same ..)
  have records := (@Transaction.using_sameRecords _ world .enqueue kind) outcomes.dispose
    (do
      Transaction.begin_ .enqueue outcomes.begin_
      body
      Transaction.commit .enqueue outcomes.commit)
  rw [Program.bind_of_ok begun, Program.bind_of_error ran] at records
  refine ⟨?_, records.external.trans external⟩
  rw [Compello.addMessage, Transaction.using_queues, Program.bind_of_ok begun, Program.bind_of_error ran]
  simp [World.disposedQueues, transaction, Queues.giveBackAll, queues]

theorem addMessage_returned (begins : Begins kind outcomes.begin_) (returns : Sends body (.ok ()) sent told)
    (world : World (List Bool)) :
    (Compello.addMessage kind outcomes body world).2.queues =
        (if Commits kind outcomes.commit outcomes.dispose then world.queues.appendAll sent else world.queues) ∧
      (Compello.addMessage kind outcomes body world).2.external = world.external ++ told := by
  have begun := (@Transaction.begin_create _ world .enqueue) outcomes.begin_ begins
  obtain ⟨later, ran, queues, external, transaction⟩ :=
    returns (world.setTransaction .enqueue ⟨kind, .pending, [], [], []⟩) kind [] (World.setTransaction_same ..)
  have records := (@Transaction.using_sameRecords _ world .enqueue kind) outcomes.dispose
    (do
      Transaction.begin_ .enqueue outcomes.begin_
      body
      Transaction.commit .enqueue outcomes.commit)
  have committed := (@Transaction.commit_sameRecords _ later .enqueue) outcomes.commit
  rw [Program.bind_of_ok begun, Program.bind_of_ok ran] at records
  refine ⟨?_, (records.external.trans committed.external).trans external⟩
  rw [Compello.addMessage, Transaction.using_queues, Program.bind_of_ok begun, Program.bind_of_ok ran,
    Transaction.commit_disposedQueues transaction, queues]
  rfl

end Transaction

section Outcome

variable {toUpperInvariant : Char → Char} {outcomes : SubmitImportOutcomes} {message : DataExchangeMessage}
  {failure : Option SystemException}

def IsSent (message : DataExchangeMessage) (item : QueueItem) : Prop :=
  ∃ routingAddress priority, item = .message { message with routingAddress := routingAddress, priority := priority }

theorem sends_enqueueImport (succeeds : Compello.importEnqueueFailure toUpperInvariant outcomes.enqueueImport message = none) :
    ∃ priority item, IsSent message item ∧
      Sends (DataExchangeApi.enqueueImportMessage toUpperInvariant outcomes.enqueueImport message) (.ok ())
        [(.internalImport priority, item)] [] := by
  unfold Compello.importEnqueueFailure at succeeds
  split at succeeds
  · cases succeeds
  · rename_i placed target
    obtain ⟨name, enqueued⟩ := placed
    obtain ⟨⟨priority, rfl⟩, routingAddress, asked, rfl⟩ := Compello.importMessageToEnqueue_same target
    refine ⟨priority, _, ⟨routingAddress, asked, rfl⟩, ?_⟩
    rw [DataExchangeApi.enqueueImportMessage, target, succeeds]
    exact Sends.enqueue _ _ none

theorem sends_enqueueImport_raised {exception : SystemException}
    (fails : Compello.importEnqueueFailure toUpperInvariant outcomes.enqueueImport message = some exception) :
    Sends (DataExchangeApi.enqueueImportMessage toUpperInvariant outcomes.enqueueImport message) (.error exception)
      [] [] := by
  unfold Compello.importEnqueueFailure at fails
  split at fails
  · rename_i raised target
    cases fails
    rw [DataExchangeApi.enqueueImportMessage, target]
    exact Sends.raise exception
  · rename_i placed target
    rw [DataExchangeApi.enqueueImportMessage, target, fails]
    exact Sends.enqueue _ _ (some exception)

def IsInvalid : SystemException → Bool
  | .invalidMessage _ | .invalidMetadata _ => true
  | _ => false

theorem enqueueErroneous_other {exception : SystemException} (other : IsInvalid exception = false) :
    Sends (enqueueErroneous outcomes message exception) (.error exception) [] [] := by
  cases exception with
  | invalidMessage messageId => cases other
  | invalidMetadata messageId => cases other
  | _ => exact Sends.raise _

theorem enqueueErroneous_invalid {exception : SystemException} (invalid : IsInvalid exception = true) :
    ∃ item, IsSent message item ∧
      Sends (enqueueErroneous outcomes message exception) (resultOf outcomes.enqueueErroneous ())
        (if outcomes.enqueueErroneous = none then [(.internalImportError, item)] else []) [] := by
  obtain ⟨routingAddress, priority, same⟩ :=
    NpAuction.filledMessage_same outcomes.enqueueImport.defaultRoutingAddress message
  refine ⟨.message (NpAuction.filledMessage outcomes.enqueueImport.defaultRoutingAddress message),
    ⟨routingAddress, priority, congrArg QueueItem.message same⟩, ?_⟩
  have enqueued := Sends.enqueue .internalImportError
    (NpAuction.filledMessage outcomes.enqueueImport.defaultRoutingAddress message) outcomes.enqueueErroneous
  have handled : Sends (do
      DataExchangeApi.enqueueErroneousImportMessage outcomes.enqueueErroneous
        (NpAuction.filledMessage outcomes.enqueueImport.defaultRoutingAddress message)
      logMessage 8100
      logMessage 8209) (resultOf outcomes.enqueueErroneous ())
      (if outcomes.enqueueErroneous = none then [(.internalImportError, .message
        (NpAuction.filledMessage outcomes.enqueueImport.defaultRoutingAddress message))] else []) [] := by
    cases failed : outcomes.enqueueErroneous with
    | none =>
        rw [failed] at enqueued
        exact enqueued.bind ((Sends.logMessage 8100).bind (Sends.logMessage 8209))
    | some exception =>
        rw [failed] at enqueued
        exact enqueued.bind_raised
  cases exception with
  | invalidMessage messageId => exact handled
  | invalidMetadata messageId => exact handled
  | _ => cases invalid

end Outcome

section Queues

variable {message : DataExchangeMessage} {before after : Queues} {item errorItem : QueueItem}
  {priority : DataExchangeQueuePriority}

def InImportQueue (message : DataExchangeMessage) (before after : Queues) : Prop :=
  ∃ priority item, IsSent message item ∧ after (.internalImport priority) = before (.internalImport priority) ++ [item]

def InErrorQueue (message : DataExchangeMessage) (before after : Queues) : Prop :=
  ∃ item, IsSent message item ∧ after .internalImportError = before .internalImportError ++ [item]

theorem not_inImportQueue (same : ∀ priority, after (.internalImport priority) = before (.internalImport priority)) :
    ¬InImportQueue message before after := by
  rintro ⟨priority, item, _, grown⟩
  rw [same priority] at grown
  simp at grown

theorem not_inErrorQueue (same : after .internalImportError = before .internalImportError) :
    ¬InErrorQueue message before after := by
  rintro ⟨item, _, grown⟩
  rw [same] at grown
  simp at grown

theorem inImportQueue_append (isSent : IsSent message item) :
    InImportQueue message before (before.appendAll [(.internalImport priority, item)]) ∧
      ¬InErrorQueue message before (before.appendAll [(.internalImport priority, item)]) := by
  constructor
  · exact ⟨priority, item, isSent, by simp [Queues.appendAll, Queues.append]⟩
  · exact not_inErrorQueue (by simp [Queues.appendAll, Queues.append])

theorem inErrorQueue_append (isSent : IsSent message errorItem) :
    ¬InImportQueue message before (before.appendAll [(.internalImportError, errorItem)]) ∧
      InErrorQueue message before (before.appendAll [(.internalImportError, errorItem)]) := by
  constructor
  · exact not_inImportQueue (by simp [Queues.appendAll, Queues.append])
  · exact ⟨errorItem, isSent, by simp [Queues.appendAll, Queues.append]⟩

theorem inBothQueues_append (isSent : IsSent message item) (errorSent : IsSent message errorItem) :
    InImportQueue message before
        (before.appendAll [(.internalImport priority, item), (.internalImportError, errorItem)]) ∧
      InErrorQueue message before
        (before.appendAll [(.internalImport priority, item), (.internalImportError, errorItem)]) := by
  constructor
  · exact ⟨priority, item, isSent, by simp [Queues.appendAll, Queues.append]⟩
  · exact ⟨errorItem, errorSent, by simp [Queues.appendAll, Queues.append]⟩

end Queues

section Truth

variable {toUpperInvariant : Char → Char} {outcomes : SubmitImportOutcomes} {message : DataExchangeMessage}
  {callback : Option SystemException} {world later : World (List Bool)}

structure TellsTruth (message : DataExchangeMessage) (callback : Option SystemException)
    (world later : World (List Bool)) : Prop where
  once : ∃ told, later.external = world.external ++ told ∧ told.length ≤ 1 ∧
    (true ∈ told ↔ Xor (InImportQueue message world.queues later.queues) (InErrorQueue message world.queues later.queues))
  apart : callback ≠ none →
    ¬(InImportQueue message world.queues later.queues ∧ InErrorQueue message world.queues later.queues)

theorem TellsTruth.ofOutcome {told : List Bool} (external : later.external = world.external ++ told)
    (once : told.length ≤ 1)
    (truth : true ∈ told ↔
      Xor (InImportQueue message world.queues later.queues) (InErrorQueue message world.queues later.queues))
    (apart : ¬(InImportQueue message world.queues later.queues ∧ InErrorQueue message world.queues later.queues)) :
    TellsTruth message callback world later :=
  ⟨⟨told, external, once, truth⟩, fun _ => apart⟩

theorem TellsTruth.iff {told : List Bool} (truth : TellsTruth message callback world later)
    (external : later.external = world.external ++ told) :
    true ∈ told ↔
      Xor (InImportQueue message world.queues later.queues) (InErrorQueue message world.queues later.queues) := by
  obtain ⟨⟨other, same, _, tells⟩, _⟩ := truth
  rw [external] at same
  rw [List.append_cancel_left same]
  exact tells

theorem tellsTruth_nothing (external : later.external = world.external) (queues : later.queues = world.queues) :
    TellsTruth message callback world later := by
  have noImport := (@not_inImportQueue message world.queues later.queues)
    (fun _ => by rw [queues])
  have noError := (@not_inErrorQueue message world.queues later.queues) (by rw [queues])
  have nothing : later.external = world.external ++ [] := by simpa using external
  exact .ofOutcome nothing (Nat.zero_le 1) (by simp [Xor, noImport, noError]) (by simp [noImport])

theorem not_tellsTruth_lost (external : later.external = world.external ++ [true])
    (queues : later.queues = world.queues) : ¬TellsTruth message callback world later := by
  intro truth
  have tells := truth.iff external
  have noImport := (@not_inImportQueue message world.queues later.queues)
    (fun _ => by rw [queues])
  have noError := (@not_inErrorQueue message world.queues later.queues) (by rw [queues])
  simp [Xor, noImport, noError] at tells

def Truthful (toUpperInvariant : Char → Char) (outcomes : SubmitImportOutcomes) (message : DataExchangeMessage)
    (callback : Option SystemException) : Prop :=
  Begins outcomes.kind outcomes.transaction.begin_ →
    match Compello.importEnqueueFailure toUpperInvariant outcomes.enqueueImport message with
    | none => callback = none ∧ Commits outcomes.kind outcomes.transaction.commit outcomes.transaction.dispose
    | some exception => IsInvalid exception = true →
        ¬(outcomes.enqueueErroneous = none ∧
          Commits outcomes.kind outcomes.transaction.commit outcomes.transaction.dispose)

theorem truthful_iff_of_returns (begins : Begins outcomes.kind outcomes.transaction.begin_)
    (returns : Compello.importEnqueueFailure toUpperInvariant outcomes.enqueueImport message = none) :
    Truthful toUpperInvariant outcomes message callback ↔
      callback = none ∧ Commits outcomes.kind outcomes.transaction.commit outcomes.transaction.dispose := by
  simp [Truthful, begins, returns]

theorem truthful_iff_of_raises {exception : SystemException} (begins : Begins outcomes.kind outcomes.transaction.begin_)
    (raises : Compello.importEnqueueFailure toUpperInvariant outcomes.enqueueImport message = some exception) :
    Truthful toUpperInvariant outcomes message callback ↔
      (IsInvalid exception = true → ¬(outcomes.enqueueErroneous = none ∧
        Commits outcomes.kind outcomes.transaction.commit outcomes.transaction.dispose)) := by
  simp [Truthful, begins, raises]

theorem submitImport_returned (begins : Begins outcomes.kind outcomes.transaction.begin_)
    (returns : Compello.importEnqueueFailure toUpperInvariant outcomes.enqueueImport message = none) :
    TellsTruth message none world (submitImport toUpperInvariant outcomes message (some none) world).2 ↔
      Commits outcomes.kind outcomes.transaction.commit outcomes.transaction.dispose := by
  obtain ⟨priority, item, isSent, enqueues⟩ := sends_enqueueImport returns
  have told : Sends (Program.handle (tryEnqueue toUpperInvariant outcomes message (some none))
      (enqueueErroneous outcomes message)) (.ok ()) [(.internalImport priority, item)] [true] :=
    (enqueues.bind (Sends.invoke none true)).handle_returned
  obtain ⟨queues, external⟩ := addMessage_returned begins told world
  rw [submitImport]
  split at queues
  next commits =>
    simp only [commits, iff_true]
    obtain ⟨inImport, notError⟩ :=
      (@inImportQueue_append _ world.queues _ priority) isSent
    rw [← queues] at inImport notError
    exact .ofOutcome external (Nat.le_refl 1) (by simp [Xor, inImport, notError]) (by simp [notError])
  next lost =>
    simp only [lost, iff_false]
    exact not_tellsTruth_lost external queues

theorem submitImport_callback_other {exception : SystemException}
    (begins : Begins outcomes.kind outcomes.transaction.begin_)
    (returns : Compello.importEnqueueFailure toUpperInvariant outcomes.enqueueImport message = none)
    (other : IsInvalid exception = false) :
    ¬TellsTruth message (some exception) world
      (submitImport toUpperInvariant outcomes message (some (some exception)) world).2 := by
  obtain ⟨priority, item, isSent, enqueues⟩ := sends_enqueueImport returns
  have told : Sends (Program.handle (tryEnqueue toUpperInvariant outcomes message (some (some exception)))
      (enqueueErroneous outcomes message)) (.error exception) [(.internalImport priority, item)] [true] :=
    (enqueues.bind (Sends.invoke (some exception) true)).handle_raised (enqueueErroneous_other other)
  obtain ⟨queues, external⟩ := addMessage_raised begins told world
  exact not_tellsTruth_lost external queues

theorem submitImport_callback_invalid {exception : SystemException}
    (begins : Begins outcomes.kind outcomes.transaction.begin_)
    (returns : Compello.importEnqueueFailure toUpperInvariant outcomes.enqueueImport message = none)
    (invalid : IsInvalid exception = true) :
    ¬TellsTruth message (some exception) world
      (submitImport toUpperInvariant outcomes message (some (some exception)) world).2 := by
  obtain ⟨priority, item, isSent, enqueues⟩ := sends_enqueueImport returns
  obtain ⟨errorItem, errorSent, handles⟩ := (@enqueueErroneous_invalid outcomes message) invalid
  have told := (enqueues.bind (Sends.invoke (some exception) true)).handle_raised handles
  cases failed : outcomes.enqueueErroneous with
  | some raised =>
      rw [failed] at told
      obtain ⟨queues, external⟩ := addMessage_raised begins told world
      exact not_tellsTruth_lost external queues
  | none =>
      rw [failed] at told
      obtain ⟨queues, external⟩ := addMessage_returned begins told world
      split at queues
      next commits =>
        intro truth
        have both := (@inBothQueues_append _ world.queues _ _ priority) isSent errorSent
        exact truth.apart (by simp) (queues ▸ both)
      next lost => exact not_tellsTruth_lost external queues

theorem submitImport_invalid {exception : SystemException} (begins : Begins outcomes.kind outcomes.transaction.begin_)
    (raises : Compello.importEnqueueFailure toUpperInvariant outcomes.enqueueImport message = some exception)
    (invalid : IsInvalid exception = true) :
    TellsTruth message callback world (submitImport toUpperInvariant outcomes message (some callback) world).2 ↔
      ¬(outcomes.enqueueErroneous = none ∧
        Commits outcomes.kind outcomes.transaction.commit outcomes.transaction.dispose) := by
  obtain ⟨errorItem, errorSent, handles⟩ := (@enqueueErroneous_invalid outcomes message) invalid
  have raised : Sends (tryEnqueue toUpperInvariant outcomes message (some callback)) (.error exception) [] [] :=
    (sends_enqueueImport_raised raises).bind_raised
  have told := raised.handle_raised handles
  rw [submitImport]
  cases failed : outcomes.enqueueErroneous with
  | some raised =>
      rw [failed] at told
      obtain ⟨queues, external⟩ := addMessage_raised begins told world
      simp only [reduceCtorEq, false_and, not_false_eq_true, iff_true]
      exact tellsTruth_nothing (by simpa using external) queues
  | none =>
      rw [failed] at told
      obtain ⟨queues, external⟩ := addMessage_returned begins told world
      split at queues
      next commits =>
        simp only [commits, and_self, not_true_eq_false, iff_false]
        intro truth
        have tells := truth.iff external
        have inError := (@inErrorQueue_append _ world.queues) errorSent
        have placed := queues ▸ inError
        simp [Xor, placed] at tells
      next lost =>
        simp only [lost, and_false, not_false_eq_true, iff_true]
        exact tellsTruth_nothing (by simpa using external) queues

theorem submitImport_other {exception : SystemException} (begins : Begins outcomes.kind outcomes.transaction.begin_)
    (raises : Compello.importEnqueueFailure toUpperInvariant outcomes.enqueueImport message = some exception)
    (other : IsInvalid exception = false) :
    TellsTruth message callback world (submitImport toUpperInvariant outcomes message (some callback) world).2 := by
  have raised : Sends (tryEnqueue toUpperInvariant outcomes message (some callback)) (.error exception) [] [] :=
    (sends_enqueueImport_raised raises).bind_raised
  have told := raised.handle_raised ((@enqueueErroneous_other outcomes message) other)
  rw [submitImport]
  obtain ⟨queues, external⟩ := addMessage_raised begins told world
  exact tellsTruth_nothing (by simpa using external) queues

/-- Exactly when the callback of `SubmitImport` tells the truth about durability. -/
theorem callback_tells_truth_iff (toUpperInvariant : Char → Char) (outcomes : SubmitImportOutcomes)
    (message : DataExchangeMessage) (callback : Option SystemException) (world : World (List Bool)) :
    TellsTruth message callback world (submitImport toUpperInvariant outcomes message (some callback) world).2 ↔
      Truthful toUpperInvariant outcomes message callback := by
  by_cases begins : Begins outcomes.kind outcomes.transaction.begin_
  · cases enqueued : Compello.importEnqueueFailure toUpperInvariant outcomes.enqueueImport message with
    | none =>
        rw [truthful_iff_of_returns begins enqueued]
        cases callback with
        | none => simp [submitImport_returned begins enqueued]
        | some exception =>
            simp only [reduceCtorEq, false_and, iff_false]
            cases invalid : IsInvalid exception with
            | true => exact submitImport_callback_invalid begins enqueued invalid
            | false => exact submitImport_callback_other begins enqueued invalid
    | some exception =>
        rw [truthful_iff_of_raises begins enqueued]
        cases invalid : IsInvalid exception with
        | true => simp [submitImport_invalid begins enqueued invalid]
        | false => simp [submitImport_other begins enqueued invalid]
  · obtain ⟨queues, external⟩ := (@addMessage_refused _ _ (Program.handle
      (tryEnqueue toUpperInvariant outcomes message (some callback)) (enqueueErroneous outcomes message))) begins world
    simp only [Truthful, begins, false_implies, iff_true]
    exact tellsTruth_nothing external queues

def noProtocol : DataExchangeMessage :=
  ⟨0, none, some "payload", none, "", "", "", "", "", "", 0, "", "Normal", "Mades:in", 0, "", 0, 0⟩

def allSucceed : SubmitImportOutcomes := ⟨.msmq, ⟨none, none, none⟩, ⟨none, none⟩, none⟩

def emptyWorld : World (List Bool) :=
  ⟨fun _ => [], fun _ => none, [], [], [], fun _ => .create .msmq, []⟩

theorem callback_not_always_truthful :
    ¬∀ (toUpperInvariant : Char → Char) (outcomes : SubmitImportOutcomes) (message : DataExchangeMessage)
      (callback : Option SystemException) (world : World (List Bool)),
      TellsTruth message callback world
        (submitImport toUpperInvariant outcomes message (some callback) world).2 := by
  intro always
  have raises : Compello.importEnqueueFailure Char.toUpper allSucceed.enqueueImport noProtocol =
      some (.invalidMetadata 0) := rfl
  have truth := always Char.toUpper allSucceed noProtocol none emptyWorld
  rw [submitImport_invalid (fun _ => rfl) raises rfl] at truth
  exact truth (by decide)

end Truth

end ServiceHost.DataExchange.WsLogicBase
