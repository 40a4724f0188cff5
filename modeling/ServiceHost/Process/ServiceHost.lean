import Mathlib.Algebra.GroupWithZero.Nat
import Mathlib.Logic.Relation
import ServiceHost.Process.ServiceHostCore

/-!
What holds of `ServiceHost` in any order of the steps of its threads: `OnStart` returns only where services have been
loaded, no service begins an iteration once `Stop` has returned, and every service then ends.
-/

namespace ServiceHost.Hosting

variable {iterationSeconds : Int} {host next : Host}

section Service

variable {iteration : ServiceIteration} {outcome : CallOutcome}

theorem next_leaving (leaves : iteration.next iterationSeconds outcome = .leaving) : iteration.stopRequested = true := by
  unfold ServiceIteration.next at leaves
  grind

theorem next_disposing_iff : iteration.next iterationSeconds outcome = .disposing ↔ iteration.point = .leaving := by
  unfold ServiceIteration.next
  grind

theorem next_ended_iff :
    iteration.next iterationSeconds outcome = .ended ↔ iteration.point = .disposing ∨ iteration.point = .ended := by
  unfold ServiceIteration.next
  grind

theorem next_notStarted_iff : iteration.next iterationSeconds outcome = .notStarted ↔ iteration.point = .notStarted := by
  unfold ServiceIteration.next
  grind

/-- A service is disposed of once, by its thread, which has left the loop at a stop request. -/
structure ServiceIteration.Sound (iteration : ServiceIteration) : Prop where
  left : iteration.point = .leaving ∨ iteration.point = .disposing ∨ iteration.point = .ended → iteration.stopRequested = true
  running : iteration.isRunning = false ↔ iteration.point = .disposing ∨ iteration.point = .ended
  disposed : iteration.disposals = if iteration.point = .ended then 1 else 0

theorem sound_create : ServiceIteration.create.Sound := ⟨by decide, by decide, rfl⟩

theorem ServiceIteration.Sound.startProcess (sound : iteration.Sound) (idle : iteration.point = .notStarted) :
    iteration.startProcess.Sound := by
  have running := sound.running
  have disposed := sound.disposed
  rw [idle] at running disposed
  exact ⟨by simp [ServiceIteration.startProcess], by simpa [ServiceIteration.startProcess] using running, disposed⟩

theorem ServiceIteration.Sound.requestStop (sound : iteration.Sound) : iteration.requestStop.Sound :=
  ⟨fun _ => rfl, sound.running, sound.disposed⟩

theorem ServiceIteration.Sound.step (sound : iteration.Sound) (going : iteration.point ≠ .ended) :
    (iteration.step iterationSeconds outcome).Sound := by
  constructor
  · change iteration.next iterationSeconds outcome = .leaving ∨ iteration.next iterationSeconds outcome = .disposing ∨
      iteration.next iterationSeconds outcome = .ended → iteration.stopRequested = true
    rw [next_disposing_iff, next_ended_iff]
    rintro (leaving | left)
    · exact next_leaving leaving
    · exact sound.left left
  · change (iteration.isRunning && decide (iteration.point ≠ .leaving)) = false ↔
      iteration.next iterationSeconds outcome = .disposing ∨ iteration.next iterationSeconds outcome = .ended
    rw [next_disposing_iff, next_ended_iff, ← sound.running, Bool.and_eq_false_iff, decide_eq_false_iff_not, not_not, or_comm]
  · change (if iteration.point = .disposing then iteration.disposals + 1 else iteration.disposals) =
      if iteration.next iterationSeconds outcome = .ended then 1 else 0
    rw [sound.disposed, if_neg going]
    simp only [next_ended_iff, going, or_false]

theorem step_iterations (stopRequested : iteration.stopRequested = true) :
    (iteration.step iterationSeconds outcome).iterations = iteration.iterations :=
  if_neg fun begins => by rw [stopRequested] at begins; cases begins.2

end Service

section Services

/-- Every service has a property, which may depend on its place. -/
def Host.Each (host : Host) (property : Nat → ServiceIteration → Prop) : Prop :=
  ∀ index iteration, host.services[index]? = some iteration → property index iteration

theorem changeService_services (index : Nat) (change : ServiceIteration → ServiceIteration) :
    (host.changeService index change).services = host.services.modify index change := by
  unfold Host.changeService Host.services
  cases host.iterationClasses with
  | none => cases index <;> rfl
  | some services => rfl

theorem each_changeService {property : Nat → ServiceIteration → Prop} {index : Nat}
    {change : ServiceIteration → ServiceIteration}
    (others : ∀ other iteration, host.services[other]? = some iteration → other ≠ index → property other iteration)
    (changed : ∀ iteration, host.services[index]? = some iteration → property index (change iteration)) :
    (host.changeService index change).Each property := by
  intro other iteration found
  rw [changeService_services, List.getElem?_modify] at found
  obtain ⟨before, present, rfl⟩ := Option.map_eq_some_iff.mp found
  by_cases same : index = other
  · subst same
    rw [if_pos rfl]
    exact changed before present
  · rw [if_neg same]
    exact others other before present (Ne.symm same)

/-- What a step changes of the services. -/
inductive ServicesStep (iterationSeconds : Int) (host : Host) : Host → Prop
  | same {next : Host} (services : next.services = host.services) : ServicesStep iterationSeconds host next
  | load {next : Host} (count : Nat) (starting : host.processing = .starting ∨ host.processing = .nothingLoaded)
      (services : next.services = List.replicate count .create) : ServicesStep iterationSeconds host next
  | start {next : Host} (index : Nat) (processing : host.processing = .processServices index)
      (services : next.services = (host.changeService index .startProcess).services) : ServicesStep iterationSeconds host next
  | stop {next : Host} (index : Nat) (services : next.services = (host.changeService index .requestStop).services) :
      ServicesStep iterationSeconds host next
  | run {next : Host} (index : Nat) (outcome : CallOutcome) (iteration : ServiceIteration)
      (found : host.services[index]? = some iteration) (started : iteration.point ≠ .notStarted)
      (going : iteration.point ≠ .ended)
      (services : next.services = (host.changeService index (.step iterationSeconds outcome)).services) :
      ServicesStep iterationSeconds host next

theorem servicesStep_of_works (works : Works iterationSeconds host next) : ServicesStep iterationSeconds host next := by
  cases works with
  | processing outcome step =>
      unfold Host.processingStep at step
      split at step
      case h_3 count _ starting =>
          cases step
          exact .load count (.inl starting) rfl
      case h_5 nothing =>
          cases step
          exact .load 0 (.inr nothing) rfl
      case h_8 index processing =>
          split at step
          · cases step
            exact .same rfl
          · split at step
            · cases step
              exact .same rfl
            · cases step
              exact .start index processing rfl
      all_goals (try split_ifs at step) <;> cases step <;> exact .same rfl
  | service index outcome step =>
      unfold Host.serviceStep at step
      split at step
      · cases step
      · rename_i iteration found
        split at step
        · cases step
        · rename_i goes
          rw [not_or] at goes
          cases step
          exact .run index outcome iteration found goes.1 goes.2 rfl

theorem servicesStep_of_step (step : Step iterationSeconds host next) : ServicesStep iterationSeconds host next := by
  cases step with
  | works works => exact servicesStep_of_works works
  | caller step =>
      unfold Host.callerStep at step
      split at step
      case h_6 index _ =>
          split at step
          · cases step
            exact .same rfl
          · cases step
            exact .stop index rfl
      all_goals cases step <;> exact .same rfl

end Services

section Start

/-- How far the host has come, with what the caller can have read by then. -/
inductive Host.Phase (host : Host) : Prop
  | loading (classes : host.iterationClasses = none) (processing : host.processing = .starting)
      (notStarted : host.processingThreadStarted = false) (notStopped : host.stopRequested = false)
      (caller : host.caller = .waiting ∨ host.caller = .looking)
  | failing (nothing : host.services = []) (stopRequested : host.stopRequested = true) (processing : host.processing ≠ .starting)
      (caller : host.caller = .waiting ∨ host.caller = .looking ∨ host.caller = .deciding ∨ host.caller = .refused)
  | serving (something : host.services ≠ []) (processing : host.processing ≠ .starting ∧ host.processing ≠ .nothingLoaded)
      (started : host.processingThreadStarted = true ↔ host.processing ≠ .loaded)
      (stopRequested : host.stopRequested = true ↔ ∃ index, host.caller = .stopping index)
      (caller : host.caller ≠ .refused)
      (returned : host.caller = .waiting ∨ host.caller = .looking ∨ host.processingThreadStarted = true)

theorem changeService_ne {index : Nat} {change : ServiceIteration → ServiceIteration} (something : host.services ≠ []) :
    (host.changeService index change).services ≠ [] := by
  rw [changeService_services]
  intro nothing
  have length := congrArg List.length nothing
  rw [List.length_modify, List.length_nil] at length
  exact something (List.length_eq_zero_iff.mp length)

theorem works_caller (works : Works iterationSeconds host next) : next.caller = host.caller := by
  cases works with
  | processing outcome step =>
      unfold Host.processingStep at step
      split at step <;> (try split_ifs at step) <;> cases step <;> rfl
  | service index outcome step =>
      unfold Host.serviceStep at step
      split at step <;> (try split_ifs at step) <;> cases step
      rfl

theorem Host.Phase.processing (phase : host.Phase) {outcome : Option Nat} (step : host.processingStep outcome = some next) :
    next.Phase := by
  have caller : next.caller = host.caller := works_caller (.processing outcome step : Works 0 host next)
  cases phase with
  | loading classes processing notStarted notStopped waits =>
      unfold Host.processingStep at step
      rw [processing] at step
      cases outcome with
      | none =>
          cases step
          exact .failing (by simp [Host.criticalLog, Host.services, classes]) (by simp [Host.criticalLog, notStarted])
            (by simp [Host.criticalLog]) (waits.imp_right .inl)
      | some count =>
          cases count with
          | zero =>
              cases step
              exact .failing (by simp [Host.services, classes]) rfl (by simp) (waits.imp_right .inl)
          | succ count =>
              cases step
              refine .serving (by simp [Host.services, List.replicate_succ]) (by simp) (by simp [notStarted]) ?_ ?_ ?_
              · rcases waits with waiting | looking
                · simp [notStopped, waiting]
                · simp [notStopped, looking]
              · rcases waits with waiting | looking
                · simp [waiting]
                · simp [looking]
              · exact waits.imp_right .inl
  | failing nothing stopRequested processing waits =>
      have stays : next.services = [] ∧ next.stopRequested = true ∧ next.processing ≠ .starting := by
        have none : host.services.length ≤ 0 := by rw [nothing]; exact Nat.le_refl 0
        unfold Host.processingStep at step
        split at step
        case h_8 index _ =>
          rw [if_pos (Nat.le_trans none (Nat.zero_le index))] at step
          cases step
          exact ⟨nothing, stopRequested, by simp⟩
        all_goals
          (try split_ifs at step) <;> cases step
          all_goals first
            | contradiction
            | exact ⟨nothing, by simp [Host.criticalLog, stopRequested], by simp [Host.criticalLog]⟩
            | exact ⟨rfl, stopRequested, by simp⟩
      exact .failing stays.1 stays.2.1 stays.2.2 (caller ▸ waits)
  | serving something processing started stopRequested notRefused returned =>
      have stays : next.services ≠ [] ∧ (next.processing ≠ .starting ∧ next.processing ≠ .nothingLoaded) ∧
          next.processing ≠ .loaded ∧ next.processingThreadStarted = true ∧ next.stopRequested = host.stopRequested := by
        have logs (running : host.processing ≠ .loaded) : host.criticalLog.stopRequested = host.stopRequested := by
          simp [Host.criticalLog, started.mpr running]
        unfold Host.processingStep at step
        split at step
        case h_6 =>
          cases step
          exact ⟨something, by simp, by simp, rfl, rfl⟩
        case h_8 index launching =>
          have running : host.processing ≠ .loaded := by rw [launching]; simp
          split_ifs at step <;> cases step
          · exact ⟨something, by simp, by simp, started.mpr running, rfl⟩
          · exact ⟨something, by simp [Host.criticalLog], by simp [Host.criticalLog], started.mpr running, logs running⟩
          · refine ⟨?_, by simp, by simp, started.mpr running, rfl⟩
            exact changeService_ne something
        all_goals
          rename_i point
          have running : host.processing ≠ .loaded := by rw [point]; simp
          (try split_ifs at step) <;> cases step
          all_goals first
            | exact absurd point processing.1
            | exact absurd point processing.2
            | exact ⟨something, by simp, by simp, started.mpr running, rfl⟩
            | exact ⟨something, by simp [Host.criticalLog], by simp [Host.criticalLog], started.mpr running, logs running⟩
      obtain ⟨some, known, notLoaded, started, same⟩ := stays
      exact .serving some known (by simp [started, notLoaded]) (by rw [same, caller]; exact stopRequested) (caller ▸ notRefused)
        (.inr (.inr started))

end Start

section Invariant

theorem Host.Phase.service (phase : host.Phase) {index : Nat} {outcome : CallOutcome}
    (step : host.serviceStep iterationSeconds index outcome = some next) : next.Phase := by
  unfold Host.serviceStep at step
  split at step
  · cases step
  · rename_i iteration found
    split_ifs at step
    cases step
    have something : host.services ≠ [] := by
      intro nothing
      rw [nothing] at found
      cases found
    cases phase with
    | loading classes processing notStarted notStopped waits => exact absurd (by simp [Host.services, classes]) something
    | failing nothing stopRequested processing waits => exact absurd nothing something
    | serving _ processing started stopRequested caller returned =>
        exact .serving (changeService_ne something) processing started stopRequested caller returned

theorem Host.Phase.caller (phase : host.Phase) (step : host.callerStep = some next) : next.Phase := by
  unfold Host.callerStep at step
  cases phase with
  | loading classes processing notStarted notStopped waits =>
      rcases waits with point | point
      · rw [point, notStarted] at step
        cases step
        exact .loading classes processing rfl notStopped (.inr rfl)
      · rw [point, notStopped] at step
        cases step
        exact .loading classes processing notStarted rfl (.inl rfl)
  | failing nothing stopRequested processing waits =>
      rcases waits with point | point | point | point
      · rw [point] at step
        cases step
        refine .failing nothing stopRequested processing ?_
        dsimp only
        split
        · exact .inr (.inr (.inl rfl))
        · exact .inr (.inl rfl)
      · rw [point, stopRequested] at step
        cases step
        exact .failing nothing rfl processing (.inr (.inr (.inl rfl)))
      · rw [point, stopRequested] at step
        cases step
        exact .failing nothing rfl processing (.inr (.inr (.inr rfl)))
      · rw [point] at step
        cases step
  | serving something processing started stopRequested notRefused returned =>
      have unasked (other : ¬∃ index, host.caller = .stopping index) : host.stopRequested = false :=
        Bool.eq_false_iff.mpr (mt stopRequested.mp other)
      cases point : host.caller with
      | waiting =>
          rw [point] at step
          have unasked := unasked (by simp [point])
          cases step
          refine .serving something processing started (by simp [unasked]; split <;> simp) (by dsimp only; split <;> simp) ?_
          dsimp only
          split
          · rename_i begun
            exact .inr (.inr begun)
          · exact .inr (.inl rfl)
      | looking =>
          have unasked := unasked (by simp [point])
          rw [point, unasked] at step
          cases step
          exact .serving something processing started (by simp) (by simp) (.inl rfl)
      | deciding =>
          have unasked := unasked (by simp [point])
          rw [point, unasked] at step
          rw [point] at returned
          cases step
          exact .serving something processing started (by simp) (by simp) (.inr (.inr (by simpa using returned)))
      | refused => exact absurd point notRefused
      | started =>
          rw [point] at step returned
          cases step
          exact .serving something processing started (by simp) (by simp) (.inr (.inr (by simpa using returned)))
      | stopping index =>
          rw [point] at step returned
          dsimp only at step
          split_ifs at step <;> cases step
          · exact .serving something processing started (by simp) (by simp) (.inr (.inr (by simpa using returned)))
          · refine .serving (changeService_ne something) processing started ?_ (by simp) (.inr (.inr ?_))
            · exact iff_of_true (stopRequested.mpr ⟨index, point⟩) ⟨index + 1, rfl⟩
            · exact (by simpa using returned : host.processingThreadStarted = true)
      | stopped =>
          rw [point] at step returned
          cases step
          exact .serving something processing started (by simp) (by simp) (.inr (.inr (by simpa using returned)))

/-- Whether the thread of a service has been started, where that follows from how far the host has come. -/
def ProcessingPoint.launches (index : Nat) : ProcessingPoint → Option Bool
  | .processServices count => some (index < count)
  | .waiting => some true
  | .stopped => some true
  | .failed => none
  | _ => some false

/-- A service has been asked to stop. -/
def CallerPoint.Asks (index : Nat) : CallerPoint → Prop
  | .stopping count => index < count
  | .stopped => True
  | _ => False

structure Host.Sound (host : Host) : Prop where
  phase : host.Phase
  services : host.Each fun _ iteration => iteration.Sound
  launched : host.Each fun index iteration => ∀ launched, host.processing.launches index = some launched →
    (iteration.point ≠ .notStarted ↔ launched = true)
  asked : host.Each fun index iteration => host.caller.Asks index → iteration.stopRequested = true
  finished : host.processing = .stopped → host.Each fun _ iteration => iteration.isRunning = false

theorem sound_createHost : Host.create.Sound where
  phase := .loading rfl rfl rfl rfl (.inl rfl)
  services := fun _ _ found => by cases found
  launched := fun _ _ found => by cases found
  asked := fun _ _ found => by cases found
  finished := fun _ _ _ found => by cases found

theorem each_of_services {other : Host} {property : Nat → ServiceIteration → Prop} (same : next.services = other.services)
    (each : other.Each property) : next.Each property := fun index iteration found => each index iteration (same ▸ found)

theorem each_replicate {count : Nat} {property : Nat → ServiceIteration → Prop}
    (same : next.services = List.replicate count .create) (created : ∀ index, property index .create) : next.Each property := by
  intro index iteration found
  rw [same] at found
  rw [List.eq_of_mem_replicate (List.mem_of_getElem? found)]
  exact created index

theorem Host.Sound.services_step (sound : host.Sound) (step : ServicesStep iterationSeconds host next) :
    next.Each fun _ iteration => iteration.Sound := by
  cases step with
  | same services => exact each_of_services services sound.services
  | load count _ services => exact each_replicate services fun _ => sound_create
  | start index processing services =>
      refine each_of_services services (each_changeService (fun other _ found _ => sound.services other _ found) ?_)
      intro iteration found
      have idle := sound.launched index iteration found false (by rw [processing]; simp [ProcessingPoint.launches])
      exact (sound.services index iteration found).startProcess (by simpa using idle)
  | stop index services =>
      exact each_of_services services (each_changeService (fun other _ found _ => sound.services other _ found)
        fun iteration found => (sound.services index iteration found).requestStop)
  | run index outcome _ found _ going services =>
      refine each_of_services services (each_changeService (fun other _ found _ => sound.services other _ found) ?_)
      intro iteration same
      obtain rfl := Option.some.inj (found.symm.trans same)
      exact (sound.services index _ found).step going

/-- What every change of a service keeps, once the services have been loaded. -/
theorem each_step {property : Nat → ServiceIteration → Prop} (step : ServicesStep iterationSeconds host next)
    (loaded : host.processing ≠ .starting ∧ host.processing ≠ .nothingLoaded) (each : host.Each property)
    (starts : ∀ index iteration, property index iteration → property index iteration.startProcess)
    (stops : ∀ index iteration, property index iteration → property index iteration.requestStop)
    (runs : ∀ index iteration outcome, property index iteration → property index (iteration.step iterationSeconds outcome)) :
    next.Each property := by
  have changed (index : Nat) {change : ServiceIteration → ServiceIteration}
      (kept : ∀ iteration, property index iteration → property index (change iteration)) :
      (host.changeService index change).Each property :=
    each_changeService (fun other _ found _ => each other _ found) fun iteration found => kept iteration (each index iteration found)
  cases step with
  | same services => exact each_of_services services each
  | load count starting services => exact absurd starting (not_or.mpr loaded)
  | start index _ services => exact each_of_services services (changed index (starts index))
  | stop index services => exact each_of_services services (changed index (stops index))
  | run index outcome _ _ _ _ services => exact each_of_services services (changed index fun iteration => runs index iteration outcome)

theorem Host.Sound.launched_processing (sound : host.Sound) {outcome : Option Nat}
    (step : host.processingStep outcome = some next) :
    next.Each fun index iteration => ∀ launched, next.processing.launches index = some launched →
      (iteration.point ≠ .notStarted ↔ launched = true) := by
  unfold Host.processingStep at step
  split at step
  case h_3 count _ starting =>
      cases step
      refine each_replicate rfl fun index launched known => ?_
      cases known
      simp [ServiceIteration.create]
  case h_5 =>
      cases step
      exact fun _ _ found => by cases found
  case h_8 count launching =>
      split_ifs at step with complete <;> cases step
      · intro index iteration found launched known
        have inside : index < count := Nat.lt_of_lt_of_le (List.getElem?_eq_some_iff.mp found).1 complete
        exact sound.launched index iteration found launched (by rw [launching]; simpa [ProcessingPoint.launches, inside] using known)
      · exact fun _ _ _ _ known => by cases known
      · refine each_of_services rfl (each_changeService (fun other iteration found different launched known => ?_) ?_)
        · refine sound.launched other iteration found launched ?_
          rw [launching]
          have same : other < count ↔ other < count + 1 := by omega
          simpa [ProcessingPoint.launches, same] using known
        · intro iteration found launched known
          have started : launched = true := by simpa [ProcessingPoint.launches] using known.symm
          exact iff_of_true (by simp [ServiceIteration.startProcess]) started
  all_goals
    rename_i point
    (try split_ifs at step) <;> cases step
    all_goals
      intro index iteration found launched known
      first
        | (cases known; done)
        | exact sound.launched index iteration found launched (by rw [point]; simpa [ProcessingPoint.launches] using known)

end Invariant

section Runs

theorem processing_of_asks (sound : host.Sound) {index : Nat} (asks : host.caller.Asks index) :
    host.processing ≠ .starting ∧ host.processing ≠ .nothingLoaded := by
  cases sound.phase with
  | loading _ _ _ _ waits => rcases waits with point | point <;> rw [point] at asks <;> exact asks.elim
  | failing _ _ _ waits => rcases waits with point | point | point | point <;> rw [point] at asks <;> exact asks.elim
  | serving _ processing _ _ _ _ => exact processing

theorem Host.Sound.asked_works (sound : host.Sound) (works : Works iterationSeconds host next) :
    next.Each fun index iteration => next.caller.Asks index → iteration.stopRequested = true := by
  rw [works_caller works]
  intro index iteration found asks
  exact each_step (servicesStep_of_works works) (processing_of_asks sound asks) sound.asked (fun _ _ holds => holds)
    (fun _ _ _ _ => rfl) (fun _ _ _ holds => holds) index iteration found asks

theorem Host.Sound.processing (sound : host.Sound) {outcome : Option Nat} (step : host.processingStep outcome = some next) :
    next.Sound where
  phase := sound.phase.processing step
  services := sound.services_step (servicesStep_of_works (.processing outcome step : Works 0 host next))
  launched := sound.launched_processing step
  asked := sound.asked_works (.processing outcome step : Works 0 host next)
  finished := by
    intro stopped
    unfold Host.processingStep at step
    split at step
    case h_9 =>
        split_ifs at step with running
        cases step
        intro index iteration found
        exact Bool.eq_false_iff.mpr fun runs => running (List.any_eq_true.mpr ⟨iteration, List.mem_of_getElem? found, runs⟩)
    all_goals (try split_ifs at step) <;> cases step <;> cases stopped

theorem Host.Sound.service (sound : host.Sound) {index : Nat} {outcome : CallOutcome}
    (step : host.serviceStep iterationSeconds index outcome = some next) : next.Sound := by
  have works : Works iterationSeconds host next := .service index outcome step
  have services := sound.services_step (servicesStep_of_works works)
  have asked := sound.asked_works works
  have phase := sound.phase.service step
  have finished (stopped : host.processing = .stopped) :=
    each_step (servicesStep_of_works works) (by rw [stopped]; simp) (sound.finished stopped) (fun _ _ halted => halted)
      (fun _ _ halted => halted) fun _ iteration _ halted => (by rw [halted, Bool.false_and] : (iteration.isRunning && _) = false)
  unfold Host.serviceStep at step
  split at step
  · cases step
  · split_ifs at step
    cases step
    refine ⟨phase, services, ?_, asked, finished⟩
    refine each_changeService (fun other iteration found _ => sound.launched other iteration found) ?_
    intro iteration found launched known
    change iteration.next iterationSeconds outcome ≠ .notStarted ↔ _
    rw [Ne, next_notStarted_iff]
    exact sound.launched index iteration found launched known

theorem Host.Sound.caller (sound : host.Sound) (step : host.callerStep = some next) : next.Sound := by
  have phase := sound.phase.caller step
  have services := sound.services_step (servicesStep_of_step (.caller step : Step 0 host next))
  unfold Host.callerStep at step
  split at step
  case h_6 count stopping =>
      have asked := sound.asked
      rw [stopping] at asked
      split_ifs at step with complete <;> cases step
      · refine ⟨phase, services, sound.launched, ?_, sound.finished⟩
        intro index iteration found _
        exact asked index iteration found (Nat.lt_of_lt_of_le (List.getElem?_eq_some_iff.mp found).1 complete)
      · refine ⟨phase, services, ?_, ?_, ?_⟩
        · exact each_changeService (fun other iteration found _ => sound.launched other iteration found)
            fun iteration found => sound.launched count iteration found
        · refine each_changeService (fun other iteration found different asks => ?_) fun _ _ _ => rfl
          exact asked other iteration found (by change other < count + 1 at asks; change other < count; omega)
        · intro stopped
          exact each_changeService (fun other iteration found _ => sound.finished stopped other iteration found)
            fun iteration found => sound.finished stopped count iteration found
  all_goals
    cases step
    all_goals
      refine ⟨phase, services, sound.launched, ?_, sound.finished⟩
      intro index iteration found asks
      dsimp only at asks
      (try split at asks) <;> simp [CallerPoint.Asks] at asks

theorem Host.Sound.step (sound : host.Sound) (step : Step iterationSeconds host next) : next.Sound := by
  cases step with
  | works works =>
      cases works with
      | processing outcome step => exact sound.processing step
      | service index outcome step => exact sound.service step
  | caller step => exact sound.caller step

abbrev Runs (iterationSeconds : Int) : Host → Host → Prop := Relation.ReflTransGen (Step iterationSeconds)

variable {later : Host}

theorem Host.Sound.runs (sound : host.Sound) (runs : Runs iterationSeconds host later) : later.Sound := by
  induction runs with
  | refl => exact sound
  | tail _ step ih => exact ih.step step

/-- The host has services, and each of them was asked to stop. -/
structure Host.Stopping (host : Host) : Prop where
  sound : host.Sound
  something : host.services ≠ []
  started : host.processingThreadStarted = true
  asked : host.Each fun _ iteration => iteration.stopRequested = true

theorem Host.Stopping.processing (stopping : host.Stopping) :
    host.processing ≠ .starting ∧ host.processing ≠ .nothingLoaded ∧ host.processing ≠ .loaded := by
  cases stopping.sound.phase with
  | loading classes _ _ _ _ => exact absurd (by simp [Host.services, classes]) stopping.something
  | failing nothing _ _ _ => exact absurd nothing stopping.something
  | serving _ processing started _ _ _ => exact ⟨processing.1, processing.2, started.mp stopping.started⟩

theorem map_modify {A B : Type} {measure : A → B} {change : A → A} {items : List A} {index : Nat}
    (same : ∀ item, items[index]? = some item → measure (change item) = measure item) :
    (items.modify index change).map measure = items.map measure := by
  refine List.ext_getElem? fun other => ?_
  rw [List.getElem?_map, List.getElem?_modify, List.getElem?_map, Option.map_eq_map, Option.map_map]
  refine Option.map_congr fun item found => ?_
  by_cases here : index = other
  · subst here
    simpa using same item found
  · simp [here]

theorem Host.Stopping.iterations_step (stopping : host.Stopping) (step : ServicesStep iterationSeconds host next) :
    next.services.map ServiceIteration.iterations = host.services.map ServiceIteration.iterations := by
  cases step with
  | same services => rw [services]
  | load count starting services => exact absurd starting (not_or.mpr ⟨stopping.processing.1, stopping.processing.2.1⟩)
  | start index _ services =>
      rw [services, changeService_services]
      exact map_modify fun _ _ => rfl
  | stop index services =>
      rw [services, changeService_services]
      exact map_modify fun _ _ => rfl
  | run index outcome _ _ _ _ services =>
      rw [services, changeService_services]
      exact map_modify fun iteration found => step_iterations (stopping.asked index iteration found)

theorem started_step (step : Step iterationSeconds host next) (started : host.processingThreadStarted = true) :
    next.processingThreadStarted = true := by
  cases step with
  | works works =>
      cases works with
      | processing outcome step =>
          unfold Host.processingStep at step
          split at step <;> (try split_ifs at step) <;> cases step <;> first | exact started | rfl
      | service index outcome step =>
          unfold Host.serviceStep at step
          split at step <;> (try split_ifs at step) <;> cases step
          exact started
  | caller step =>
      unfold Host.callerStep at step
      split at step <;> (try split_ifs at step) <;> cases step <;> exact started

theorem Host.Stopping.step (stopping : host.Stopping) (step : Step iterationSeconds host next) : next.Stopping where
  sound := stopping.sound.step step
  started := started_step step stopping.started
  something := by
    intro nothing
    have same := stopping.iterations_step (servicesStep_of_step step)
    rw [nothing] at same
    exact stopping.something (List.map_eq_nil_iff.mp same.symm)
  asked := each_step (servicesStep_of_step step) ⟨stopping.processing.1, stopping.processing.2.1⟩ stopping.asked
    (fun _ _ asked => asked) (fun _ _ _ => rfl) fun _ _ _ asked => asked

/-- The host says that it has stopped only when every service has left its loop at a stop request, and no service is
disposed of twice. -/
theorem host_stops_last (reached : Runs iterationSeconds .create host) (iteration : ServiceIteration)
    (member : iteration ∈ host.services) :
    (host.processing = .stopped →
      iteration.stopRequested = true ∧ (iteration.point = .disposing ∨ iteration.point = .ended)) ∧
    iteration.disposals = if iteration.point = .ended then 1 else 0 := by
  have sound := sound_createHost.runs reached
  obtain ⟨index, found⟩ := List.mem_iff_getElem?.mp member
  have service := sound.services index iteration found
  refine ⟨fun stopped => ?_, service.disposed⟩
  have left := service.running.mp (sound.finished stopped index iteration found)
  exact ⟨service.left (.inr left), left⟩

end Runs

section Ends

/-- A bound on the steps that a thread has left once its service was asked to stop. -/
def ThreadPoint.rank : ThreadPoint → Nat
  | .running => 8
  | .finishing _ => 7
  | .sleeping _ => 6
  | .recycling => 5
  | .logging => 4
  | .notStarted => 4
  | .checking => 3
  | .leaving => 2
  | .disposing => 1
  | .ended => 0

/-- A bound on the steps that the thread of the host has left once some services were loaded. -/
def ProcessingPoint.rank (count : Nat) : ProcessingPoint → Nat
  | .initializing index => count - index + count + 3
  | .processServices index => count - index + 2
  | .waiting => 1
  | _ => 0

def Host.rank (host : Host) : Nat :=
  host.processing.rank host.services.length + (host.services.map fun iteration => iteration.point.rank).sum

/-- Where no thread has a step left, the host has stopped, or an exception has ended its thread before every service was started. -/
theorem Host.Stopping.rests (stopping : host.Stopping) (rests : ∀ next, ¬Works iterationSeconds host next) :
    (host.processing = .stopped ∧ ∀ iteration ∈ host.services, iteration.point = .ended) ∨
      (host.processing = .failed ∧ ∀ iteration ∈ host.services, iteration.point = .notStarted ∨ iteration.point = .ended) := by
  have idle (iteration : ServiceIteration) (member : iteration ∈ host.services) :
      iteration.point = .notStarted ∨ iteration.point = .ended := by
    obtain ⟨index, found⟩ := List.mem_iff_getElem?.mp member
    by_contra goes
    refine rests (host.changeService index (.step iterationSeconds .throws)) (.service index .throws ?_)
    unfold Host.serviceStep
    rw [found]
    exact if_neg goes
  have started (launches : ∀ index, host.processing.launches index = some true) (iteration : ServiceIteration)
      (member : iteration ∈ host.services) : iteration.point = .ended := by
    obtain ⟨index, found⟩ := List.mem_iff_getElem?.mp member
    exact (idle iteration member).resolve_left ((stopping.sound.launched index iteration found true (launches index)).mpr rfl)
  have known := stopping.processing
  have still (next : Host) (outcome : Option Nat) (step : host.processingStep outcome = some next) : False :=
    rests next (.processing outcome step)
  cases point : host.processing with
  | starting => exact absurd point known.1
  | nothingLoaded => exact absurd point known.2.1
  | loaded => exact absurd point known.2.2
  | initializing index =>
      unfold Host.processingStep at still
      rw [point] at still
      by_cases complete : host.services.length ≤ index
      · exact (still _ none (if_pos complete)).elim
      · exact (still _ none ((if_neg complete).trans (if_pos rfl))).elim
  | processServices index =>
      unfold Host.processingStep at still
      rw [point] at still
      by_cases complete : host.services.length ≤ index
      · exact (still _ none (if_pos complete)).elim
      · exact (still _ none ((if_neg complete).trans (if_pos rfl))).elim
  | waiting =>
      unfold Host.processingStep at still
      rw [point] at still started
      have ended := started fun _ => rfl
      have halted : ¬host.services.any ServiceIteration.isRunning = true := by
        intro running
        obtain ⟨iteration, member, runs⟩ := List.any_eq_true.mp running
        obtain ⟨index, found⟩ := List.mem_iff_getElem?.mp member
        have left := (stopping.sound.services index iteration found).running.mpr (.inr (ended iteration member))
        rw [left] at runs
        cases runs
      exact (still _ none (if_neg halted)).elim
  | stopped =>
      rw [point] at started
      exact .inl ⟨rfl, started fun _ => rfl⟩
  | failed => exact .inr ⟨rfl, idle⟩

end Ends

section Sample

/-- A host with one service, when `Stop` has returned and the service has not been initialized yet. -/
def sampleHost : Host := ⟨false, true, some [ServiceIteration.create.requestStop], .initializing 0, .stopped⟩

theorem sampleHost_reached : Runs 60 .create sampleHost :=
  Relation.ReflTransGen.refl
    |>.tail (.works (.processing (some 1) rfl))
    |>.tail (.works (.processing none rfl))
    |>.tail (.caller rfl)
    |>.tail (.caller rfl)
    |>.tail (.caller rfl)
    |>.tail (.caller rfl)
    |>.tail (.caller rfl)

/-- The service as it was disposed of. -/
def endedService : ServiceIteration := ⟨true, false, .ended, 0, 1⟩

def endedHost : Host := ⟨false, true, some [endedService], .stopped, .stopped⟩

theorem endedHost_later : Runs 60 sampleHost endedHost :=
  Relation.ReflTransGen.refl
    |>.tail (.works (.processing (some 0) rfl))
    |>.tail (.works (.processing none rfl))
    |>.tail (.works (.processing (some 0) rfl))
    |>.tail (.works (.service 0 .throws rfl))
    |>.tail (.works (.service 0 .throws rfl))
    |>.tail (.works (.service 0 .throws rfl))
    |>.tail (.works (.processing none rfl))
    |>.tail (.works (.processing none rfl))

theorem host_stops_last_sample : endedHost.processing = .stopped ∧ endedService.stopRequested = true :=
  ⟨rfl, ((host_stops_last (sampleHost_reached.trans endedHost_later) endedService List.mem_cons_self).1 rfl).1⟩

end Sample

end ServiceHost.Hosting
