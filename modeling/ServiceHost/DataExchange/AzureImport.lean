import ServiceHost.DataExchange.AzureImportCore
import ServiceHost.Library.Runs

/-!
When a brokered message is completed. It is after a successful import as long as the
waiting thread looks at the task when that has ended, and no failure of the import is
reported as handled: it only looks at fields that the task may not have written yet.
-/

namespace ServiceHost.DataExchange.AzureImport

open Library

structure CompletesTruthfully (world : JobWorld) : Prop where
  complete : world.completeCalled = true →
    world.workTask = .ranToCompletion ∧ world.importJob.result = true ∧ world.handled = some (.ok true)
  kept : world.handled = some (.ok false) ∨ (∃ exception, world.handled = some (.error exception)) →
    world.message ≠ .completed

def isHonest : Except SystemException Bool → Bool
  | .ok handled => handled
  | .error exception => !isReported exception

def Honest (world : JobWorld) : JobEvent → Prop
  | .readException => world.waiting = .readingException → world.workTask.isCompleted = true
  | .handleMessage handled => isHonest handled = true
  | _ => True

instance (world : JobWorld) (event : JobEvent) : Decidable (Honest world event) := by
  cases event <;> unfold Honest <;> infer_instance

def WaitPhase.looked : WaitPhase → Bool
  | readingFailed | readingCanceled | finishing | returned => true
  | _ => false

def WaitPhase.judged : WaitPhase → Bool
  | readingCanceled | finishing => true
  | _ => false

def WorkTask.Wrote (world : JobWorld) : WorkTask → Prop
  | scheduled | importing | canceled => True
  | reporting result => result = true ∧ world.handled = some (.ok true)
  | deletingMessageData | ranToCompletion => world.importJob.result = true ∧ world.handled = some (.ok true)
  | faulted _ => True

structure Consistent (world : JobWorld) : Prop where
  wrote : world.workTask.Wrote world
  looked : world.waiting.looked = true → world.workTask.isCompleted = true
  judged : world.waiting.judged = true →
    world.importJob.failed = (world.workTask.exception.isSome || world.workTask.isCanceled)
  unfailed : world.waiting.judged = false → world.waiting ≠ .returned → world.importJob.failed = false
  finishing : world.waiting = .finishing → world.workTask.isCanceled = false
  complete : world.completeCalled = true → world.workTask = .ranToCompletion
  completed : world.message = .completed → world.completeCalled = true

theorem consistent_newJob (cancellationRequested : Bool) : Consistent (newJob cancellationRequested) := by
  constructor <;> simp [newJob, WorkTask.Wrote, WaitPhase.looked, WaitPhase.judged]

theorem Consistent.ofTask {world later : JobWorld} (consistent : Consistent world)
    (running : world.workTask.isCompleted = false) (wrote : later.workTask.Wrote later)
    (waiting : later.waiting = world.waiting) (failed : later.importJob.failed = world.importJob.failed)
    (called : later.completeCalled = world.completeCalled) (message : later.message = world.message) :
    Consistent later := by
  have unseen : world.waiting.looked = false := by
    by_contra seen
    have ended := consistent.looked (by simpa using seen)
    rw [running] at ended
    contradiction
  have uncalled : world.completeCalled = false := by
    by_contra calls
    rw [consistent.complete (by simpa using calls)] at running
    contradiction
  have unjudged : world.waiting.judged = false := by
    cases phase : world.waiting <;> simp [phase, WaitPhase.looked, WaitPhase.judged] at unseen ⊢
  constructor
  · exact wrote
  · rw [waiting, unseen]
    exact fun seen => absurd seen Bool.false_ne_true
  · rw [waiting, unjudged]
    exact fun judged => absurd judged Bool.false_ne_true
  · rw [waiting, failed]
    exact consistent.unfailed
  · rw [waiting]
    intro finishing
    rw [finishing] at unseen
    contradiction
  · rw [called, uncalled]
    exact fun calls => absurd calls Bool.false_ne_true
  · rw [called, message]
    exact consistent.completed

theorem WorkTask.Wrote.congr {world later : JobWorld} {task : WorkTask} (wrote : task.Wrote world)
    (result : later.importJob.result = world.importJob.result) (handled : later.handled = world.handled) :
    task.Wrote later := by
  cases task with
  | reporting => exact ⟨wrote.1, handled.trans wrote.2⟩
  | deletingMessageData => exact ⟨result.trans wrote.1, handled.trans wrote.2⟩
  | ranToCompletion => exact ⟨result.trans wrote.1, handled.trans wrote.2⟩
  | scheduled => trivial
  | importing => trivial
  | faulted exception => trivial
  | canceled => trivial

theorem Consistent.ofWait {world later : JobWorld} (consistent : Consistent world)
    (unseen : later.waiting.looked = false) (task : later.workTask = world.workTask)
    (handled : later.handled = world.handled) (result : later.importJob.result = world.importJob.result)
    (failed : later.importJob.failed = false) (called : later.completeCalled = world.completeCalled)
    (message : later.message = world.message) : Consistent later := by
  have unjudged : later.waiting.judged = false := by
    cases phase : later.waiting <;> simp [phase, WaitPhase.looked, WaitPhase.judged] at unseen ⊢
  constructor
  · rw [task]
    exact consistent.wrote.congr result handled
  · intro seen
    rw [unseen] at seen
    contradiction
  · intro judged
    rw [unjudged] at judged
    contradiction
  · exact fun _ _ => failed
  · intro finishing
    rw [finishing] at unseen
    contradiction
  · rw [called, task]
    exact consistent.complete
  · rw [called, message]
    exact consistent.completed

theorem Consistent.check {world : JobWorld} (consistent : Consistent world) (checking : world.waiting = .checking) :
    Consistent (jobStep world .check) := by
  have unfailed := consistent.unfailed (by rw [checking]; rfl) (by rw [checking]; decide)
  simp only [jobStep, checking, ↓reduceIte]
  split
  · exact consistent.ofWait rfl rfl rfl rfl unfailed rfl rfl
  · exact consistent.ofWait rfl rfl rfl rfl unfailed rfl rfl

theorem Consistent.keepLock {world : JobWorld} (consistent : Consistent world) (keeping : world.waiting = .keepingLock)
    (renewLock : Option (Option SystemException)) : Consistent (jobStep world (.keepLock renewLock)) := by
  have unfailed := consistent.unfailed (by rw [keeping]; rfl) (by rw [keeping]; decide)
  simp only [jobStep, keeping, ↓reduceIte]
  split
  · exact consistent.ofWait rfl rfl rfl rfl unfailed rfl rfl
  · exact consistent.ofWait rfl rfl rfl rfl unfailed rfl rfl

theorem Consistent.readException {world : JobWorld} (consistent : Consistent world)
    (reading : world.waiting = .readingException) (ended : world.workTask.isCompleted = true) :
    Consistent (jobStep world .readException) := by
  have unfailed := consistent.unfailed (by rw [reading]; rfl) (by rw [reading]; decide)
  simp only [jobStep, reading, ↓reduceIte]
  exact ⟨consistent.wrote.congr rfl rfl, fun _ => ended, by simp [WaitPhase.judged], fun _ _ => unfailed, by simp,
    consistent.complete, consistent.completed⟩

theorem Consistent.readFailed {world : JobWorld} (consistent : Consistent world)
    (reading : world.waiting = .readingFailed) : Consistent (jobStep world .readFailed) := by
  have unfailed := consistent.unfailed (by rw [reading]; rfl) (by rw [reading]; decide)
  have ended := consistent.looked (by rw [reading]; rfl)
  simp only [jobStep, reading, ↓reduceIte]
  exact ⟨consistent.wrote.congr rfl rfl, fun _ => ended, fun _ => by simp [unfailed], by simp [WaitPhase.judged],
    by simp, consistent.complete, consistent.completed⟩

theorem Consistent.readCanceled {world : JobWorld} (consistent : Consistent world)
    (reading : world.waiting = .readingCanceled) : Consistent (jobStep world .readCanceled) := by
  have judged := consistent.judged (by rw [reading]; rfl)
  have ended := consistent.looked (by rw [reading]; rfl)
  simp only [jobStep, reading, ↓reduceIte]
  split
  · exact ⟨consistent.wrote.congr rfl rfl, fun _ => ended, by simp [WaitPhase.judged], by simp, by simp,
      consistent.complete, consistent.completed⟩
  · rename_i running
    exact ⟨consistent.wrote.congr rfl rfl, fun _ => ended, fun _ => judged, by simp [WaitPhase.judged],
      fun _ => by simpa using running, consistent.complete, consistent.completed⟩

theorem Consistent.importHasFinished {world : JobWorld} (consistent : Consistent world)
    (finishing : world.waiting = .finishing) (failure : Option SystemException) :
    Consistent (world.importHasFinished failure) := by
  have judged := consistent.judged (by rw [finishing]; rfl)
  have ended := consistent.looked (by rw [finishing]; rfl)
  have running := consistent.finishing finishing
  by_cases failed : world.importJob.failed = true
  · simp only [JobWorld.importHasFinished, failed, ↓reduceIte]
    refine ⟨consistent.wrote.congr rfl rfl, fun _ => ended, by simp [WaitPhase.judged], by simp, by simp,
      consistent.complete, fun completed => consistent.completed ?_⟩
    simp only at completed
    split at completed
    · contradiction
    · exact completed
  · simp only [JobWorld.importHasFinished, failed]
    have ran : world.workTask = .ranToCompletion := by
      simp only [judged, Bool.or_eq_true, not_or, Bool.not_eq_true] at failed
      cases task : world.workTask <;> simp [task, WorkTask.isCompleted, WorkTask.exception] at ended failed ⊢
      rw [task] at running
      contradiction
    exact ⟨consistent.wrote.congr rfl rfl, fun _ => ended, by simp [WaitPhase.judged], by simp, by simp,
      fun _ => ran, fun _ => rfl⟩

theorem Consistent.step {world : JobWorld} (consistent : Consistent world) {event : JobEvent}
    (honest : Honest world event) : Consistent (jobStep world event) := by
  cases event with
  | requestCancellation => exact ⟨consistent.wrote, consistent.looked, consistent.judged, consistent.unfailed,
      consistent.finishing, consistent.complete, consistent.completed⟩
  | loseLock =>
      simp only [jobStep]
      split
      · exact ⟨consistent.wrote, consistent.looked, consistent.judged, consistent.unfailed,
          consistent.finishing, consistent.complete, by simp⟩
      · exact consistent
  | startTask =>
      simp only [jobStep]
      split
      · rename_i scheduled
        refine consistent.ofTask (by rw [scheduled]; rfl) ?_ rfl rfl rfl rfl
        split <;> trivial
      · exact consistent
  | handleMessage handled =>
      simp only [jobStep]
      split
      · rename_i importing
        refine consistent.ofTask (by rw [importing]; rfl) ?_ rfl rfl rfl rfl
        have honest : isHonest handled = true := honest
        cases handled with
        | ok result => exact ⟨honest, congrArg (fun result => some (Except.ok result)) honest⟩
        | error exception =>
            have passes : isReported exception = false := by simpa [isHonest] using honest
            simp only [submitImport, passes]
            trivial
      · exact consistent
  | reportResult =>
      simp only [jobStep]
      split
      · rename_i result reporting
        have wrote := consistent.wrote
        rw [reporting] at wrote
        exact consistent.ofTask (by rw [reporting]; rfl) wrote rfl rfl rfl rfl
      · exact consistent
  | deleteMessageData failure =>
      simp only [jobStep]
      split
      · rename_i deleting
        have wrote := consistent.wrote
        rw [deleting] at wrote
        refine consistent.ofTask (by rw [deleting]; rfl) ?_ rfl rfl rfl rfl
        cases failure with
        | none => exact wrote
        | some exception => trivial
      · exact consistent
  | check =>
      by_cases phase : world.waiting = .checking
      · exact consistent.check phase
      · simpa [jobStep, phase] using consistent
  | keepLock renewLock =>
      by_cases phase : world.waiting = .keepingLock
      · exact consistent.keepLock phase renewLock
      · simpa [jobStep, phase] using consistent
  | readException =>
      by_cases phase : world.waiting = .readingException
      · exact consistent.readException phase (honest phase)
      · simpa [jobStep, phase] using consistent
  | readFailed =>
      by_cases phase : world.waiting = .readingFailed
      · exact consistent.readFailed phase
      · simpa [jobStep, phase] using consistent
  | readCanceled =>
      by_cases phase : world.waiting = .readingCanceled
      · exact consistent.readCanceled phase
      · simpa [jobStep, phase] using consistent
  | importHasFinished failure =>
      by_cases phase : world.waiting = .finishing
      · simpa [jobStep, phase] using consistent.importHasFinished phase failure
      · simpa [jobStep, phase] using consistent

theorem Consistent.truthful {world : JobWorld} (consistent : Consistent world) : CompletesTruthfully world := by
  have complete : world.completeCalled = true →
      world.workTask = .ranToCompletion ∧ world.importJob.result = true ∧ world.handled = some (.ok true) := by
    intro called
    have ended := consistent.complete called
    have wrote := consistent.wrote
    rw [ended] at wrote
    exact ⟨ended, wrote⟩
  refine ⟨complete, fun failed completed => ?_⟩
  obtain ⟨_, _, handled⟩ := complete (consistent.completed completed)
  rw [handled] at failed
  simp at failed

/-- A brokered message is completed after its import has succeeded, and one whose import
has failed is still there, in every run in which the waiting thread looks at the task when
that has ended, and no failure of the import is reported as handled. -/
theorem complete_after_success {cancellationRequested : Bool} {events : List JobEvent}
    (honest : Permits jobStep Honest (newJob cancellationRequested) events) :
    CompletesTruthfully (finalState jobStep (newJob cancellationRequested) events) :=
  (finalState_invariant (fun _ _ consistent honest => consistent.step honest)
    (consistent_newJob cancellationRequested) honest).truthful

theorem complete_after_success_handled :
    let events : List JobEvent := [.startTask, .check, .keepLock none, .handleMessage (.ok true), .reportResult,
      .deleteMessageData none, .check, .readException, .readFailed, .readCanceled, .importHasFinished none]
    CompletesTruthfully (finalState jobStep (newJob false) events) ∧
      (finalState jobStep (newJob false) events).message = .completed :=
  ⟨complete_after_success (by decide), by decide⟩

/-- The module is cancelled while the import is running. -/
theorem complete_while_running : ¬ ∀ cancellationRequested events,
    CompletesTruthfully (finalState jobStep (newJob cancellationRequested) events) := by
  intro truthful
  let events : List JobEvent := [.startTask, .requestCancellation, .check, .readException, .readFailed, .readCanceled,
    .importHasFinished none]
  have ended := ((truthful false events).complete (by decide)).1
  have running : (finalState jobStep (newJob false) events).workTask = .importing := by decide
  rw [running] at ended
  contradiction

end ServiceHost.DataExchange.AzureImport
