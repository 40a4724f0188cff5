import ServiceHost.DataExchange.EcpAmqpImportCore
import ServiceHost.Library.Runs

/-!
When an AMQP message is accepted. Its import is durable then as long as the message is
polled for and the task happens to have run to its end: nothing waits for the task, and a
pumped message is accepted first.
-/

namespace ServiceHost.DataExchange.EcpAmqpImport

open Library

def AmqpWorld.Durable (world : AmqpWorld) : Prop :=
  world.inImportQueue = true ∨ world.inErrorQueue = true ∨ world.handled = true

instance (world : AmqpWorld) : Decidable world.Durable := by
  unfold AmqpWorld.Durable
  infer_instance

def AmqpWorld.KeepsMessage (world : AmqpWorld) : Prop := world.accepted = true → world.Durable

instance (world : AmqpWorld) : Decidable world.KeepsMessage := by
  unfold AmqpWorld.KeepsMessage
  infer_instance

def Careful (world : AmqpWorld) : AmqpEvent → Prop
  | .accept _ => world.receiver = .accepting → world.workTask = .ranToCompletion
  | _ => True

instance (world : AmqpWorld) (event : AmqpEvent) : Decidable (Careful world event) := by
  unfold Careful
  split <;> infer_instance

def WorkTask.Achieved (world : AmqpWorld) : WorkTask → Prop
  | disposing _ complete none => complete = false → world.Durable
  | deletingHandled | deletingFailed => world.handled = true
  | ranToCompletion => world.Durable
  | _ => True

structure Settled (world : AmqpWorld) : Prop where
  achieved : world.workTask.Achieved world
  keeps : world.KeepsMessage

theorem settled_received (mode : ReceivingMode) (kind : TransactionKind) : Settled (received mode kind) := by
  constructor
  · trivial
  · simp [AmqpWorld.KeepsMessage, received]

theorem Settled.ofTask {world later : AmqpWorld} (settled : Settled world)
    (durable : world.Durable → later.Durable) (accepted : later.accepted = world.accepted)
    (achieved : later.workTask.Achieved later) : Settled later := by
  refine ⟨achieved, ?_⟩
  intro called
  rw [accepted] at called
  exact durable (settled.keeps called)

theorem durable_put (world : AmqpWorld) (target : TargetQueue) : (world.put target).Durable := by
  cases target with
  | importQueue => exact .inl rfl
  | errorQueue => exact .inr (.inl rfl)

theorem put_accepted (world : AmqpWorld) (target : TargetQueue) : (world.put target).accepted = world.accepted := by
  cases target <;> rfl

theorem Settled.endTask {world later : AmqpWorld} (settled : Settled world) {failure : Option SystemException}
    (durable : world.Durable → later.Durable) (accepted : later.accepted = world.accepted)
    (ended : failure = none → later.Durable) : Settled (later.endTask failure) := by
  cases failure with
  | none => exact settled.ofTask durable accepted (ended rfl)
  | some exception => exact settled.ofTask durable accepted trivial

theorem Settled.handleException {world : AmqpWorld} (settled : Settled world) (exception : SystemException) :
    Settled (world.handleException exception) := by
  unfold AmqpWorld.handleException
  split
  · exact settled.ofTask id rfl trivial
  · exact settled.ofTask (fun _ => .inr (.inr rfl)) rfl rfl
  · exact settled.endTask id rfl (by simp)

theorem Settled.enqueue {world : AmqpWorld} (settled : Settled world) (target : TargetQueue)
    (failure : Option SystemException) : Settled (world.enqueue target failure) := by
  unfold AmqpWorld.enqueue
  split
  · exact settled.ofTask id rfl trivial
  · split <;> exact settled.ofTask id rfl trivial

theorem Settled.commit {world : AmqpWorld} (settled : Settled world) (target : TargetQueue)
    (failure : Option SystemException) : Settled (world.commit target failure) := by
  unfold AmqpWorld.commit
  split
  · split
    · refine settled.ofTask (fun _ => ?_) (put_accepted world target) (fun _ => ?_)
      · exact durable_put world target
      · exact durable_put world target
    · exact settled.ofTask id rfl (by simp [WorkTask.Achieved])
  · exact settled.ofTask id rfl trivial

theorem Settled.dispose {world : AmqpWorld} (settled : Settled world) {target : TargetQueue} {complete : Bool}
    {raised : Option SystemException} (disposing : world.workTask = .disposing target complete raised)
    (failure : Option SystemException) : Settled (world.dispose target complete raised failure) := by
  have achieved := settled.achieved
  rw [disposing] at achieved
  unfold AmqpWorld.dispose
  split
  · split
    · have durable := durable_put world target
      exact settled.endTask (fun _ => durable) (put_accepted world target) (fun _ => durable)
    · exact settled.endTask id rfl (by simp)
  · rename_i incomplete
    refine settled.endTask id rfl ?_
    intro returned
    subst returned
    exact achieved (by simpa using incomplete)

theorem Settled.deleteMessageData {world : AmqpWorld} (settled : Settled world) (failure : Option SystemException) :
    Settled (world.taskStep (.deleteMessageData failure)) := by
  have achieved := settled.achieved
  simp only [AmqpWorld.taskStep]
  split
  · rename_i deleting
    rw [deleting] at achieved
    exact settled.endTask id rfl (fun _ => .inr (.inr achieved))
  · exact settled.handleException _
  · rename_i deleting
    rw [deleting] at achieved
    exact settled.endTask id rfl (fun _ => .inr (.inr achieved))
  · exact settled

theorem Settled.taskStep {world : AmqpWorld} (settled : Settled world) (event : AmqpEvent) :
    Settled (world.taskStep event) := by
  cases event with
  | submitImport useImportApplicationManagerService =>
      simp only [AmqpWorld.taskStep]
      split
      · refine settled.ofTask id rfl ?_
        cases useImportApplicationManagerService <;> trivial
      · exact settled
  | begin_ failure =>
      simp only [AmqpWorld.taskStep]
      split
      · exact settled.ofTask id rfl trivial
      · exact settled.ofTask id rfl trivial
      · exact settled
  | enqueue failure =>
      simp only [AmqpWorld.taskStep]
      split
      · exact settled.enqueue _ failure
      · exact settled
  | commit failure =>
      simp only [AmqpWorld.taskStep]
      split
      · exact settled.commit _ failure
      · exact settled
  | dispose failure =>
      simp only [AmqpWorld.taskStep]
      split
      · rename_i disposing
        exact settled.dispose disposing failure
      · exact settled
  | handleMessage failure =>
      simp only [AmqpWorld.taskStep]
      split
      · cases failure with
        | none => exact settled.ofTask (fun _ => .inr (.inr rfl)) rfl rfl
        | some exception => exact settled.handleException exception
      · exact settled
  | deleteMessageData failure => exact settled.deleteMessageData failure
  | accept failure => exact settled
  | buildMessage failure => exact settled
  | runTask => exact settled
  | stopProcess => exact settled

theorem Settled.accept {world : AmqpWorld} (settled : Settled world) (ran : world.workTask = .ranToCompletion)
    (failure : Option SystemException) : Settled (world.accept failure) := by
  have durable := settled.achieved
  rw [ran] at durable
  refine ⟨?_, fun _ => durable⟩
  show world.workTask.Achieved _
  rw [ran]
  exact durable

theorem Settled.ofReceiver {world later : AmqpWorld} (settled : Settled world)
    (same : later.workTask = world.workTask) (accepted : later.accepted = world.accepted)
    (durable : later.Durable ↔ world.Durable) (handled : later.handled = world.handled) : Settled later := by
  refine settled.ofTask durable.mpr accepted ?_
  have achieved := settled.achieved
  rw [same]
  cases task : world.workTask with
  | disposing target complete raised =>
      rw [task] at achieved
      cases raised with
      | none => exact fun incomplete => durable.mpr (achieved incomplete)
      | some exception => trivial
  | deletingHandled =>
      rw [task] at achieved
      exact handled.trans achieved
  | deletingFailed =>
      rw [task] at achieved
      exact handled.trans achieved
  | ranToCompletion =>
      rw [task] at achieved
      exact durable.mpr achieved
  | notStarted => trivial
  | scheduled => trivial
  | beginning target => trivial
  | enqueuing target => trivial
  | committing target => trivial
  | handling => trivial
  | faulted exception => trivial

theorem Settled.step {world : AmqpWorld} (settled : Settled world) {event : AmqpEvent}
    (careful : Careful world event) : Settled (amqpStep world event) := by
  unfold amqpStep
  split
  · exact settled
  · split
    · split
      · rename_i accepting
        exact settled.accept (careful accepting) _
      · exact settled
    · split
      · exact settled.ofReceiver rfl rfl Iff.rfl rfl
      · exact settled
    · split
      · exact settled.ofTask id rfl trivial
      · exact settled
    · exact settled.ofReceiver rfl rfl Iff.rfl rfl
    · exact settled.taskStep _

/-- In every run in which the message is accepted once its task has run to its end without
an exception, the message is at the broker or its import is durable. -/
theorem accepted_durable {mode : ReceivingMode} {kind : TransactionKind} {events : List AmqpEvent}
    (careful : Permits amqpStep Careful (received mode kind) events) :
    (finalState amqpStep (received mode kind) events).KeepsMessage :=
  (finalState_invariant (fun _ _ settled careful => settled.step careful)
    (settled_received mode kind) careful).keeps

theorem accepted_durable_polling :
    let events : List AmqpEvent := [.buildMessage none, .runTask, .submitImport true, .begin_ none, .enqueue none,
      .commit none, .dispose none, .accept none, .stopProcess]
    (finalState amqpStep (received .polling .msdtc) events).KeepsMessage ∧
      (finalState amqpStep (received .polling .msdtc) events).accepted = true :=
  ⟨accepted_durable (by decide), by decide⟩

section Pumping

def AmqpEvent.Waits : AmqpEvent → Prop
  | accept _ | stopProcess => False
  | _ => True

end Pumping

/-- The process stops between the start of the task and its first step. -/
theorem accepted_before_import : ¬ ∀ mode kind events,
    (finalState amqpStep (received mode kind) events).KeepsMessage := by
  intro keeps
  let events : List AmqpEvent := [.buildMessage none, .runTask, .accept none, .stopProcess]
  have durable := keeps .polling .msmq events (by decide)
  revert durable
  decide

end ServiceHost.DataExchange.EcpAmqpImport
