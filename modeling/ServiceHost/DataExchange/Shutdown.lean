import Mathlib.Algebra.BigOperators.Group.List.Basic
import Mathlib.Algebra.Order.Ring.Abs
import Mathlib.Data.List.Induction
import Mathlib.Data.List.Nodup
import Mathlib.Tactic.Linarith
import Mathlib.Tactic.Ring
import ServiceHost.DataExchange.ShutdownCore

/-!
When the shutdown reaches every module: `Stop` is called on each of them with the share that is
left over, and nothing but the last call may end with an exception.
-/

namespace ServiceHost.DataExchange.Shutdown

open Library

section Plan

variable (average : Int)

def plan : List DataExchangeModule → Nat → Int → List StopCall
  | [], _, _ => []
  | module :: rest, index, timeout =>
      ⟨index, timeout, (module.stop timeout).elapsed⟩ ::
        plan rest (index + 1) (average + (timeout - (module.stop timeout).elapsed))

def timeoutBehind (front : List DataExchangeModule) (timeout : Int) : Int :=
  front.foldl (fun timeout module => average + (timeout - (module.stop timeout).elapsed)) timeout

def timeUsed (modules : List DataExchangeModule) : Nat := ((plan average modules 0 average).map StopCall.elapsed).sum

variable {average}

theorem plan_append (front back : List DataExchangeModule) (index : Nat) (timeout : Int) :
    plan average (front ++ back) index timeout =
      plan average front index timeout ++ plan average back (index + front.length) (timeoutBehind average front timeout) := by
  induction front generalizing index timeout with
  | nil => rfl
  | cons module front ih =>
      rw [List.cons_append, plan, ih, plan, List.cons_append, List.length_cons, Nat.add_assoc, Nat.add_comm 1]
      rfl

theorem plan_index (modules : List DataExchangeModule) (index : Nat) (timeout : Int) :
    (plan average modules index timeout).map StopCall.index = List.range' index modules.length := by
  induction modules generalizing index timeout with
  | nil => rfl
  | cons module rest ih => rw [plan, List.map_cons, ih, List.length_cons, List.range'_succ]

theorem timeoutBehind_eq (front : List DataExchangeModule) (index : Nat) (timeout : Int) :
    timeoutBehind average front timeout =
      timeout + front.length * average - ((plan average front index timeout).map StopCall.elapsed).sum := by
  induction front generalizing index timeout with
  | nil => simp [timeoutBehind, plan]
  | cons module rest ih =>
      have next := ih (index + 1) (average + (timeout - (module.stop timeout).elapsed))
      have unfolded : timeoutBehind average (module :: rest) timeout =
          timeoutBehind average rest (average + (timeout - (module.stop timeout).elapsed)) := rfl
      rw [unfolded, next, plan, List.map_cons, List.sum_cons, List.length_cons]
      push_cast
      linarith

theorem timeoutBehind_average (front : List DataExchangeModule) :
    timeoutBehind average front average = (front.length + 1) * average - timeUsed average front := by
  rw [timeoutBehind_eq front 0, timeUsed]
  linarith

theorem mem_plan_iff {modules : List DataExchangeModule} {index : Nat} {timeout : Int} {call : StopCall} :
    call ∈ plan average modules index timeout ↔ ∃ front module back, modules = front ++ module :: back ∧
      call = ⟨index + front.length, timeoutBehind average front timeout,
        (module.stop (timeoutBehind average front timeout)).elapsed⟩ := by
  induction modules generalizing index timeout with
  | nil => simp [plan]
  | cons first rest ih =>
      rw [plan, List.mem_cons, ih]
      constructor
      · rintro (rfl | ⟨front, module, back, rfl, rfl⟩)
        · exact ⟨[], first, rest, rfl, rfl⟩
        · refine ⟨first :: front, module, back, rfl, ?_⟩
          rw [List.length_cons, Nat.add_assoc, Nat.add_comm 1]
          rfl
      · rintro ⟨front, module, back, split, rfl⟩
        cases front with
        | nil =>
            obtain ⟨rfl, rfl⟩ := List.cons.inj split
            exact Or.inl rfl
        | cons head front =>
            obtain ⟨rfl, rfl⟩ := List.cons.inj split
            refine Or.inr ⟨front, module, back, rfl, ?_⟩
            rw [List.length_cons, Nat.add_assoc, Nat.add_comm 1]
            rfl

end Plan

section Run

variable {average : Int}

theorem stop_run (module : DataExchangeModule) (index : Nat) (timeout : Int) (iteration : Iteration) :
    stop module index timeout iteration =
      ((match (module.stop timeout).failure with
        | none => .ok (module.stop timeout).elapsed
        | some exception => .error exception),
        { iteration with stops := iteration.stops ++ [⟨index, timeout, (module.stop timeout).elapsed⟩] }) := by
  unfold stop
  rw [Program.bind_of_ok (Program.change_run _ _)]
  cases (module.stop timeout).failure with
  | none => rw [Program.bind_of_ok (Program.call_none _)]; rfl
  | some exception => rw [Program.bind_of_error (Program.call_some _ _)]

def AllReturn (average : Int) (modules : List DataExchangeModule) (timeout : Int) : Prop :=
  ∀ front module back, modules = front ++ module :: back →
    (module.stop (timeoutBehind average front timeout)).failure = none

theorem allReturn_nil {timeout : Int} : AllReturn average [] timeout :=
  fun front module back split => absurd split (by simp)

theorem AllReturn.cons {module : DataExchangeModule} {rest : List DataExchangeModule} {timeout : Int}
    (returns : (module.stop timeout).failure = none)
    (others : AllReturn average rest (average + (timeout - (module.stop timeout).elapsed))) :
    AllReturn average (module :: rest) timeout := by
  intro front other back split
  cases front with
  | nil =>
      obtain ⟨rfl, -⟩ := List.cons.inj split
      exact returns
  | cons head front =>
      obtain ⟨rfl, tail⟩ := List.cons.inj split
      exact others front other back tail

theorem stopModule_cases (average : Int) (modules : List DataExchangeModule) (index : Nat) (timeout : Int)
    (iteration : Iteration) :
    (AllReturn average modules timeout ∧ stopModule average modules index timeout iteration =
      (.ok (), { iteration with stops := iteration.stops ++ plan average modules index timeout })) ∨
    ∃ front module back exception, modules = front ++ module :: back ∧ AllReturn average front timeout ∧
      (module.stop (timeoutBehind average front timeout)).failure = some exception ∧
      stopModule average modules index timeout iteration =
        (.error exception, { iteration with stops := iteration.stops ++ plan average (front ++ [module]) index timeout }) := by
  induction modules generalizing index timeout iteration with
  | nil =>
      refine Or.inl ⟨allReturn_nil, ?_⟩
      rw [plan, List.append_nil]
      rfl
  | cons module rest ih =>
      have called := stop_run module index timeout iteration
      cases outcome : (module.stop timeout).failure with
      | some exception =>
          rw [outcome] at called
          refine Or.inr ⟨[], module, rest, exception, rfl, allReturn_nil, outcome, ?_⟩
          rw [stopModule, Program.bind_of_error called]
          rfl
      | none =>
          rw [outcome] at called
          rw [stopModule, Program.bind_of_ok called]
          obtain ⟨others, run⟩ | ⟨front, failing, back, exception, rfl, others, fails, run⟩ := ih (index + 1)
            (average + (timeout - (module.stop timeout).elapsed))
            { iteration with stops := iteration.stops ++ [⟨index, timeout, (module.stop timeout).elapsed⟩] }
          · refine Or.inl ⟨.cons outcome others, run.trans ?_⟩
            rw [plan, ← List.append_cons]
          · refine Or.inr ⟨module :: front, failing, back, exception, rfl, .cons outcome others, fails, run.trans ?_⟩
            rw [List.cons_append, plan, ← List.append_cons]

theorem terminateRunningModules_run (modules : List DataExchangeModule) (iteration : Iteration) :
    terminateRunningModules modules iteration = (.ok (), { iteration with
      aborted := iteration.aborted ++ (modules.zipIdx.filter fun module => module.1.isRunning).map Prod.snd }) := by
  unfold terminateRunningModules
  induction modules.zipIdx generalizing iteration with
  | nil => simp [Program.forEach]
  | cons module rest ih =>
      rw [Program.forEach]
      by_cases running : module.1.isRunning
      · have turn : abortIfRunning module iteration =
            (.ok (), { iteration with aborted := iteration.aborted ++ [module.2] }) := by
          unfold abortIfRunning
          rw [if_pos running]
          rfl
        rw [Program.bind_of_ok turn, ih, List.filter_cons, if_pos running, List.map_cons, ← List.append_cons]
      · have turn : abortIfRunning module iteration = (.ok (), iteration) := by
          unfold abortIfRunning
          rw [if_neg running]
          rfl
        rw [Program.bind_of_ok turn, ih, List.filter_cons, if_neg running]

end Run

section Shutdown

variable (rounding : Rounding) (totalSeconds : Int) (modules : List DataExchangeModule)

def share : Int := averageTimeout rounding totalSeconds modules.length

def after : Iteration := (runIteration rounding totalSeconds modules ⟨[], []⟩).2

structure ReachesEveryModule : Prop where
  stopped : ∀ index < modules.length, ((after rounding totalSeconds modules).stops.map StopCall.index).count index = 1
  nonnegative : ∀ call ∈ (after rounding totalSeconds modules).stops, 0 ≤ call.timeout
  total : (∀ call ∈ (after rounding totalSeconds modules).stops, call.elapsed ≤ call.timeout) →
    (((after rounding totalSeconds modules).stops.map StopCall.elapsed).sum : Int) ≤
      totalSeconds * 1000 * ticksPerMillisecond
  aborted : ∀ index module, modules[index]? = some module → module.isRunning = true →
    index ∈ (after rounding totalSeconds modules).aborted

structure Orderly : Prop where
  left : ∀ front module back, modules = front ++ module :: back →
    (timeUsed (share rounding totalSeconds modules) front : Int) ≤
      (front.length + 1) * share rounding totalSeconds modules
  returns : ∀ front module back exception, modules = front ++ module :: back →
    (module.stop ((front.length + 1) * share rounding totalSeconds modules -
      timeUsed (share rounding totalSeconds modules) front)).failure = some exception →
    back = [] ∧ ∀ other ∈ modules, other.isRunning = false
  unused : (∃ front module back, modules = front ++ module :: back ∧
      (front.length + 1) * share rounding totalSeconds modules <
        (timeUsed (share rounding totalSeconds modules) (front ++ [module]) : Int)) ∨
    (timeUsed (share rounding totalSeconds modules) modules : Int) ≤ totalSeconds * 1000 * ticksPerMillisecond

variable {rounding totalSeconds modules}

theorem timeUsed_concat (average : Int) (front : List DataExchangeModule) (module : DataExchangeModule) :
    timeUsed average (front ++ [module]) =
      timeUsed average front + (module.stop (timeoutBehind average front average)).elapsed := by
  unfold timeUsed
  rw [plan_append, List.map_append, List.sum_append]
  rfl

theorem overruns_iff (average : Int) (front : List DataExchangeModule) (module : DataExchangeModule) :
    timeoutBehind average front average < ((module.stop (timeoutBehind average front average)).elapsed : Int) ↔
      (front.length + 1) * average < (timeUsed average (front ++ [module]) : Int) := by
  rw [timeUsed_concat, timeoutBehind_average]
  push_cast
  constructor <;> intro less <;> linarith

theorem after_cases (rounding : Rounding) (totalSeconds : Int) (modules : List DataExchangeModule) :
    let average := share rounding totalSeconds modules
    (AllReturn average modules average ∧ (after rounding totalSeconds modules).stops = plan average modules 0 average ∧
      ∀ index module, modules[index]? = some module → module.isRunning = true →
        index ∈ (after rounding totalSeconds modules).aborted) ∨
    ∃ front module back exception, modules = front ++ module :: back ∧ AllReturn average front average ∧
      (module.stop (timeoutBehind average front average)).failure = some exception ∧
      (after rounding totalSeconds modules).stops = plan average (front ++ [module]) 0 average ∧
      (after rounding totalSeconds modules).aborted = [] := by
  intro average
  have stopping : stopModules rounding totalSeconds modules ⟨[], []⟩ = stopModule average modules 0 average ⟨[], []⟩ := by
    unfold stopModules
    cases modules with
    | nil => rfl
    | cons module rest => exact congrFun (if_neg (Nat.succ_ne_zero _)) _
  obtain ⟨returns, run⟩ | ⟨front, module, back, exception, split, others, fails, run⟩ :=
    stopModule_cases average modules 0 average ⟨[], []⟩
  · left
    have ran : after rounding totalSeconds modules =
        ((if modules.any DataExchangeModule.isRunning then terminateRunningModules modules else pure () : Stopping Unit)
          ⟨plan average modules 0 average, []⟩).2 := by
      unfold after runIteration
      rw [Program.bind_of_ok (stopping.trans run)]
      rfl
    refine ⟨returns, ?_, fun index module found running => ?_⟩
    · rw [ran]
      split
      · rw [terminateRunningModules_run]
      · rfl
    · have some : modules.any DataExchangeModule.isRunning = true :=
        List.any_eq_true.mpr ⟨module, List.mem_of_getElem? found, running⟩
      have member : (module, index) ∈ modules.zipIdx.filter fun module => module.1.isRunning :=
        List.mem_filter.mpr ⟨List.mk_mem_zipIdx_iff_getElem?.mpr found, running⟩
      rw [ran, if_pos some, terminateRunningModules_run]
      exact List.mem_append_right _ (List.mem_map_of_mem member)
  · right
    have ran : after rounding totalSeconds modules = ⟨plan average (front ++ [module]) 0 average, []⟩ := by
      unfold after runIteration
      rw [Program.bind_of_error (stopping.trans run)]
      rfl
    rw [ran]
    exact ⟨front, module, back, exception, split, others, fails, rfl, rfl⟩

theorem count_range' (count index : Nat) (inside : index < count) : (List.range' 0 count).count index = 1 :=
  List.count_eq_one_of_mem List.nodup_range' (List.mem_range'_1.mpr ⟨Nat.zero_le _, by omega⟩)

section Planned

variable (planned : (after rounding totalSeconds modules).stops =
  plan (share rounding totalSeconds modules) modules 0 (share rounding totalSeconds modules))
include planned

theorem stopped_of_planned : ∀ index < modules.length,
    ((after rounding totalSeconds modules).stops.map StopCall.index).count index = 1 := by
  intro index inside
  rw [planned, plan_index]
  exact count_range' _ _ inside

theorem nonnegative_iff_of_planned :
    (∀ call ∈ (after rounding totalSeconds modules).stops, 0 ≤ call.timeout) ↔
      ∀ front module back, modules = front ++ module :: back →
        (timeUsed (share rounding totalSeconds modules) front : Int) ≤
          (front.length + 1) * share rounding totalSeconds modules := by
  rw [planned]
  constructor
  · intro nonnegative front module back split
    have call := nonnegative _ (mem_plan_iff.mpr ⟨front, module, back, split, rfl⟩)
    rw [timeoutBehind_average] at call
    linarith
  · intro left call member
    obtain ⟨front, module, back, split, rfl⟩ := mem_plan_iff.mp member
    have enough := left front module back split
    rw [timeoutBehind_average]
    linarith

theorem total_iff_of_planned :
    ((∀ call ∈ (after rounding totalSeconds modules).stops, call.elapsed ≤ call.timeout) →
      (((after rounding totalSeconds modules).stops.map StopCall.elapsed).sum : Int) ≤
        totalSeconds * 1000 * ticksPerMillisecond) ↔
    ((∃ front module back, modules = front ++ module :: back ∧
        (front.length + 1) * share rounding totalSeconds modules <
          (timeUsed (share rounding totalSeconds modules) (front ++ [module]) : Int)) ∨
      (timeUsed (share rounding totalSeconds modules) modules : Int) ≤ totalSeconds * 1000 * ticksPerMillisecond) := by
  rw [planned]
  constructor
  · intro total
    by_cases within : ∀ call ∈ plan (share rounding totalSeconds modules) modules 0 (share rounding totalSeconds modules),
        (call.elapsed : Int) ≤ call.timeout
    · exact Or.inr (total within)
    · left
      push Not at within
      obtain ⟨call, member, tooLong⟩ := within
      obtain ⟨front, module, back, split, rfl⟩ := mem_plan_iff.mp member
      exact ⟨front, module, back, split, (overruns_iff _ front module).mp tooLong⟩
  · rintro (⟨front, module, back, split, tooLong⟩ | unused) within
    · have kept := within _ (mem_plan_iff.mpr ⟨front, module, back, split, rfl⟩)
      have overruns := (overruns_iff _ front module).mpr tooLong
      exact absurd kept (not_le.mpr overruns)
    · exact unused

end Planned

/-- The shutdown reaches every module exactly when it is orderly. -/
theorem shutdown_reaches_every_module_iff (rounding : Rounding) (totalSeconds : Int) (modules : List DataExchangeModule) :
    ReachesEveryModule rounding totalSeconds modules ↔ Orderly rounding totalSeconds modules := by
  obtain ⟨returns, planned, aborts⟩ | ⟨front, module, back, exception, split, others, fails, stops, aborted⟩ :=
    after_cases rounding totalSeconds modules
  · -- no module throws, so only the time-outs and the total are open
    have never : ∀ front module back exception, modules = front ++ module :: back →
        (module.stop ((front.length + 1) * share rounding totalSeconds modules -
          timeUsed (share rounding totalSeconds modules) front)).failure ≠ some exception := by
      intro front module back exception split fails
      rw [← timeoutBehind_average] at fails
      exact absurd ((returns front module back split).symm.trans fails) (Option.some_ne_none _).symm
    constructor
    · intro reaches
      exact ⟨(nonnegative_iff_of_planned planned).mp reaches.nonnegative,
        fun front module back exception split fails => absurd fails (never front module back exception split),
        (total_iff_of_planned planned).mp reaches.total⟩
    · intro orderly
      exact ⟨stopped_of_planned planned, (nonnegative_iff_of_planned planned).mpr orderly.left,
        (total_iff_of_planned planned).mpr orderly.unused, aborts⟩
  · -- a module throws: it has to be the last one
    have planned (last : back = []) : (after rounding totalSeconds modules).stops =
        plan (share rounding totalSeconds modules) modules 0 (share rounding totalSeconds modules) := by
      rw [stops, split, last]
    constructor
    · intro reaches
      have last : back = [] := by
        cases back with
        | nil => rfl
        | cons next rest =>
            have inside : front.length + 1 < modules.length := by
              rw [split]
              simp
            have once := reaches.stopped _ inside
            rw [stops, plan_index, List.length_append, List.length_singleton] at once
            have missing : front.length + 1 ∉ List.range' 0 (front.length + 1) := fun member => by
              rw [List.mem_range'_1] at member
              omega
            rw [List.count_eq_zero_of_not_mem missing] at once
            cases once
      have idle : ∀ other ∈ modules, other.isRunning = false := by
        intro other member
        obtain ⟨index, inside, found⟩ := List.mem_iff_getElem.mp member
        by_contra running
        have reached := reaches.aborted index other (by rw [List.getElem?_eq_getElem inside, found])
          (Bool.not_eq_false _ ▸ running)
        rw [aborted] at reached
        cases reached
      refine ⟨(nonnegative_iff_of_planned (planned last)).mp reaches.nonnegative, ?_,
        (total_iff_of_planned (planned last)).mp reaches.total⟩
      intro front' module' back' exception' split' fails'
      refine ⟨?_, idle⟩
      subst last
      cases back' using List.reverseRecOn with
      | nil => rfl
      | append_singleton rest final =>
          -- a module before the last one returns
          rw [← timeoutBehind_average] at fails'
          have joined : front ++ [module] = front' ++ module' :: rest ++ [final] := by
            rw [← split, split', List.append_assoc, List.cons_append]
          have inFront := (List.append_inj' joined rfl).1
          have returned := others front' module' rest inFront
          exact absurd (returned.symm.trans fails') (Option.some_ne_none _).symm
    · intro orderly
      have fails' := fails
      rw [timeoutBehind_average] at fails'
      obtain ⟨last, idle⟩ := orderly.returns front module back exception split fails'
      refine ⟨stopped_of_planned (planned last), (nonnegative_iff_of_planned (planned last)).mpr orderly.left,
        (total_iff_of_planned (planned last)).mpr orderly.unused, fun index other found running => ?_⟩
      have stopped := idle other (List.mem_of_getElem? found)
      exact absurd (running.symm.trans stopped) Bool.true_eq_false.mp

def halfUp : Rounding where
  milliseconds := fun totalSeconds count => (2000 * totalSeconds + count) / (2 * count)
  nearest := fun totalSeconds count some => by
    have positive : (0 : Int) < 2 * count := by omega
    have below := Int.mul_ediv_self_le (x := 2000 * totalSeconds + count) (k := 2 * (count : Int)) positive.ne'
    have above := Int.lt_mul_ediv_self_add (x := 2000 * totalSeconds + count) positive
    have doubled : 2 * |(2000 * totalSeconds + count) / (2 * count) * count - 1000 * totalSeconds| =
        |2 * count * ((2000 * totalSeconds + count) / (2 * count)) - 2000 * totalSeconds| := by
      rw [← abs_two, ← abs_mul]
      congr 1
      ring
    rw [doubled, abs_le]
    constructor <;> linarith

def blocked : DataExchangeModule := ⟨ModuleThread.stop ⟨true, 400000000, 150000000⟩, false⟩
def waiting : DataExchangeModule := ⟨ModuleThread.stop ⟨true, 400000000, 0⟩, true⟩

/-- The second of two modules gets a negative time-out when the first takes 25 of 20 seconds. -/
theorem overrun_breaks_shutdown : ¬ReachesEveryModule halfUp 20 [blocked, waiting] := by
  intro reaches
  have stops : (after halfUp 20 [blocked, waiting]).stops = [⟨0, 100000000, 250000000⟩, ⟨1, -50000000, 0⟩] := by decide
  have negative := reaches.nonnegative ⟨1, -50000000, 0⟩ (by rw [stops]; exact List.mem_cons_of_mem _ List.mem_cons_self)
  revert negative
  decide

end Shutdown

end ServiceHost.DataExchange.Shutdown
