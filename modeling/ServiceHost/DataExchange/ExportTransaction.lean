import ServiceHost.DataExchange.Export

/-!
The transaction that took a message, followed through the handlers of an exporter:
open, or done with a commit that returned, and what its disposal will leave.
-/

namespace ServiceHost.DataExchange

open Library

variable {X : Type} {kind : TransactionKind} {name : QueueName} {item : QueueItem}

def Quiet {A : Type} (program : Exchange X A) : Prop :=
  Program.Keeps World.queues program ∧ Program.Keeps World.transactions program

structure World.Holding (state : World X) (kind : TransactionKind) (name : QueueName) (item : QueueItem)
    (queues : Queues) (done : Prop) : Prop where
  queues : state.queues = queues
  committed : done → ∃ calls, state.transactions .dequeue = Transaction.committed kind [(name, item)] [] calls
  pending : ¬ done → ∃ calls, state.transactions .dequeue = ⟨kind, .pending, [(name, item)], [], calls⟩

def Queues.leaves (queues : Queues) (name : QueueName) (item : QueueItem) (kind : TransactionKind)
    (dispose : Option SystemException) (done : Prop) [Decidable done] : Queues :=
  if done ∧ (kind = .msdtc → dispose = none) then queues else queues.giveBack name item

theorem Queues.leaves_congr {queues : Queues} {dispose : Option SystemException} {done other : Prop}
    [Decidable done] [Decidable other] (same : done ↔ other) :
    queues.leaves name item kind dispose done = queues.leaves name item kind dispose other := by
  simp [Queues.leaves, same]

namespace World.Holding

variable {state : World X} {queues : Queues} {done : Prop}

theorem disposed [Decidable done] (holding : state.Holding kind name item queues done)
    (dispose : Option SystemException) :
    state.disposedQueues .dequeue dispose = queues.leaves name item kind dispose done := by
  unfold Queues.leaves
  by_cases finished : done
  · obtain ⟨calls, transaction⟩ := holding.committed finished
    rw [Transaction.disposedQueues_committed transaction, holding.queues]
    cases kind with
    | msmq => simp [finished]
    | msdtc => cases dispose <;> simp [finished, Queues.appendAll, Queues.giveBackAll]
  · obtain ⟨calls, transaction⟩ := holding.pending finished
    simp [World.disposedQueues, transaction, holding.queues, finished, Queues.giveBackAll]

theorem commit (holding : state.Holding kind name item queues done) (failure : Option SystemException) :
    ∃ result later, Transaction.commit .dequeue failure state = (result, later) ∧
      later.Holding kind name item queues (done ∨ failure = none) ∧
      (result = .ok () ↔ ¬ done ∧ failure = none) := by
  by_cases finished : done
  · obtain ⟨calls, transaction⟩ := holding.committed finished
    refine ⟨_, _, Transaction.commit_again transaction failure, ⟨holding.queues, fun _ => ?_, fun open_ => ?_⟩, ?_⟩
    · exact ⟨_, World.setTransaction_same ..⟩
    · exact absurd (Or.inl finished) open_
    · simp [finished]
  · obtain ⟨calls, transaction⟩ := holding.pending finished
    cases failure with
    | some exception =>
        refine ⟨_, _, Transaction.commit_refused transaction exception, ⟨holding.queues, fun committed => ?_, ?_⟩, ?_⟩
        · simp [finished] at committed
        · exact fun _ => ⟨_, World.setTransaction_same ..⟩
        · simp
    | none =>
        obtain ⟨later, run, laterQueues, transactions, _⟩ := Transaction.commit_returns transaction
        refine ⟨_, later, run, ⟨?_, fun _ => ⟨calls ++ [.commit], by simp [transactions]⟩, fun open_ => ?_⟩, ?_⟩
        · rw [laterQueues, holding.queues]
          cases kind <;> rfl
        · exact absurd (Or.inr rfl) open_
        · simp [finished]

theorem rollback [Decidable done] (holding : state.Holding kind name item queues done)
    (dispose : Option SystemException) :
    (Transaction.rollback .dequeue state).2.disposedQueues .dequeue dispose =
      queues.leaves name item kind dispose done := by
  by_cases finished : done
  · obtain ⟨calls, transaction⟩ := holding.committed finished
    have again : (state.setTransaction .dequeue
        (Transaction.committed kind [(name, item)] [] (calls ++ [.rollback]))).Holding kind name item queues done :=
      ⟨holding.queues, fun _ => ⟨_, World.setTransaction_same ..⟩, fun open_ => absurd finished open_⟩
    rw [Transaction.rollback_again transaction, again.disposed]
  · obtain ⟨calls, transaction⟩ := holding.pending finished
    rw [Transaction.rollback_disposedQueues transaction dispose, holding.queues]
    simp [Queues.leaves, finished, Queues.giveBackAll]

end World.Holding

theorem disposedQueues_quiet {A : Type} {program : Exchange X A} (silent : Quiet program) (state : World X)
    (dispose : Option SystemException) :
    (program state).2.disposedQueues .dequeue dispose = state.disposedQueues .dequeue dispose := by
  simp only [World.disposedQueues, silent.1 state, silent.2 state]

namespace Quiet

variable {A B : Type}

theorem pure (value : A) : Quiet (Pure.pure value : Exchange X A) := ⟨.pure value, .pure value⟩

theorem logMessage (key : Nat) : Quiet (DataExchange.logMessage key : Exchange X Unit) :=
  ⟨.change fun _ => rfl, .change fun _ => rfl⟩

theorem bind {first : Exchange X A} {next : A → Exchange X B} (starts : Quiet first)
    (goes : ∀ value, Quiet (next value)) : Quiet (first >>= next) :=
  ⟨starts.1.bind fun value => (goes value).1, starts.2.bind fun value => (goes value).2⟩

theorem setStatus (messageLogId : Int) (status : TransLogMessageStatus) (failure : Option SystemException) :
    Quiet (DataExchange.setStatus messageLogId status failure : Exchange X Unit) :=
  bind ⟨.call failure, .call failure⟩ fun _ => ⟨.change fun _ => rfl, .change fun _ => rfl⟩

theorem onUnknownError (outcomes : ExportOutcomes) (message : DataExchangeMessage) :
    Quiet (DataExchange.onUnknownError outcomes message : Exchange (ExporterState X) Unit) := by
  have run (state : World (ExporterState X)) := onUnknownError_run outcomes message state
  constructor
  · intro state
    obtain ⟨later, ran, same⟩ := run state
    rw [ran]
    exact same.queues
  · intro state
    obtain ⟨later, ran, same⟩ := run state
    rw [ran]
    exact same.transactions

end Quiet

def World.stored (world : World (ExporterState X)) : (ClaimTicket → Option String) × X :=
  (world.payloads, world.external.module)

section Steps

variable {state : World (ExporterState X)} {queues : Queues} {done : Prop} [Decidable done]

theorem commit_then_leaves (holding : state.Holding kind name item queues done) (commit dispose : Option SystemException)
    {next : Unit → Exchange (ExporterState X) Unit} (silent : ∀ value, Quiet (next value)) :
    ((Transaction.commit .dequeue commit >>= next) state).2.disposedQueues .dequeue dispose =
      queues.leaves name item kind dispose (done ∨ commit = none) := by
  obtain ⟨result, later, run, still, _⟩ := holding.commit commit
  cases result with
  | ok value => rw [Program.bind_of_ok run, disposedQueues_quiet (silent value), still.disposed]
  | error exception => rw [Program.bind_of_error run, still.disposed]

theorem rollback_then_leaves (holding : state.Holding kind name item queues done) (dispose : Option SystemException)
    {next : Unit → Exchange (ExporterState X) Unit} (silent : ∀ value, Quiet (next value)) :
    ((Transaction.rollback .dequeue >>= next) state).2.disposedQueues .dequeue dispose =
      queues.leaves name item kind dispose done := by
  have left := holding.rollback dispose
  cases run : Transaction.rollback .dequeue state with
  | mk result later =>
      rw [run] at left
      cases result with
      | ok value => rw [Program.bind_of_ok run, disposedQueues_quiet (silent value), left]
      | error exception => rw [Program.bind_of_error run, left]

end Steps

section Queues

theorem leaves_cases {queues : Queues} (back : (queues.dropFirst name).giveBack name item = queues)
    (dispose : Option SystemException) (done : Prop) [Decidable done] :
    ((queues.dropFirst name).leaves name item kind dispose done = queues.dropFirst name ∧ done) ∨
      (queues.dropFirst name).leaves name item kind dispose done = queues := by
  unfold Queues.leaves
  split
  · rename_i committed
    exact Or.inl ⟨rfl, committed.1⟩
  · exact Or.inr back

theorem giveBack_append {queues : Queues} (back : (queues.dropFirst name).giveBack name item = queues)
    (target : QueueName) (copy : QueueItem) :
    ((queues.dropFirst name).append target copy).giveBack name item = queues.append target copy := by
  have whole : queues.append target copy = ((queues.dropFirst name).giveBack name item).append target copy := by
    rw [back]
  rw [whole]
  funext other
  by_cases atName : other = name
  · subst atName
    by_cases atTarget : other = target
    · subst atTarget
      simp [Queues.giveBack, Queues.append]
    · simp [Queues.giveBack, Queues.append, atTarget]
  · by_cases atTarget : other = target
    · subst atTarget
      simp [Queues.giveBack, Queues.append, atName]
    · simp [Queues.giveBack, Queues.append, atName, atTarget]

theorem append_ne_of_head {queues : Queues} {name : QueueName} {item : QueueItem}
    (first : (queues name).head? = some item) (target other : QueueName) (added copied : QueueItem) :
    queues.append target added ≠ queues.dropFirst name ∧ queues.append target added ≠ queues ∧
      queues.append target added ≠ (queues.dropFirst name).append other copied := by
  have some_ := Queues.length_of_head first
  have lengths {left right : Queues} (same : left = right) (at_ : QueueName) :
      (left at_).length = (right at_).length := by rw [same]
  refine ⟨fun same => ?_, fun same => ?_, fun same => ?_⟩
  · have here := lengths same name
    rw [Queues.append_length, Queues.dropFirst_length, if_pos rfl] at here
    omega
  · have here := lengths same target
    rw [Queues.append_length, if_pos rfl] at here
    omega
  · have here := lengths same name
    have there := lengths same target
    rw [Queues.append_length, Queues.append_length, Queues.dropFirst_length, if_pos rfl] at here
    rw [Queues.append_length, Queues.append_length, Queues.dropFirst_length, if_pos rfl] at there
    by_cases sameTarget : name = target
    · rw [if_pos sameTarget] at here
      split at here <;> omega
    · have others : target ≠ name := fun eq => sameTarget eq.symm
      simp only [sameTarget, others, ↓reduceIte] at here there
      split at here
      · rename_i nameOther
        split at there
        · rename_i targetOther
          exact sameTarget (nameOther.trans targetOther.symm)
        · omega
      · omega

theorem dropFirst_ne_of_head {queues : Queues} {name : QueueName} {item : QueueItem}
    (first : (queues name).head? = some item) : queues.dropFirst name ≠ queues := by
  intro same
  have some_ := Queues.length_of_head first
  have here := congrArg (fun queues : Queues => (queues name).length) same
  simp only [Queues.dropFirst_length, ↓reduceIte] at here
  omega

theorem append_ne (queues : Queues) (target : QueueName) (item : QueueItem) : queues.append target item ≠ queues := by
  intro same
  have here := congrArg (fun queues : Queues => (queues target).length) same
  simp only [Queues.append_length, ↓reduceIte] at here
  omega

theorem then_pure_state {A B : Type} (first : Exchange X A) (value : B) (state : World X) :
    ((do
      let _ ← first
      pure value) state).2 = (first state).2 := by
  cases run : first state with
  | mk result later => cases result <;> simp [bind, run]

theorem then_pure_returns {A B : Type} {first : Exchange X A} {state : World X} {result : A}
    (returns : (first state).1 = .ok result) (value : B) :
    ((do
      let _ ← first
      pure value) state).1 = .ok value := by
  cases run : first state with
  | mk outcome later =>
      rw [run] at returns
      subst returns
      rw [Program.bind_of_ok run]
      rfl

end Queues

end ServiceHost.DataExchange
