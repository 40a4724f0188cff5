import Mathlib.Data.List.Induction
import ServiceHost.DataExchange.IccpReportCore
import ServiceHost.Library.Outcome
import ServiceHost.Library.Runs

/-!
The import lock over all runs of callbacks. It is never left more often than entered, and it
is free between two reports as long as every report that begins comes to its own end, and
sending its message raises no exception.
-/

namespace ServiceHost.DataExchange.Iccp

open Library

namespace ReportModule

variable {serializeObject : TimeSeriesContract → String} {module : ReportModule}

structure Balanced (module : ReportModule) : Prop where
  atMost : module.exited ≤ module.entered
  free : module.inProgress = false → module.entered = module.exited

def Sends (serializeObject : TimeSeriesContract → String) (module : ReportModule) (datasetName : String)
    (outcomes : SendOutcomes) : Prop :=
  ∃ sent, sendMessage serializeObject module.priorities outcomes datasetName module.message = .ok sent

theorem Balanced.start (balanced : Balanced module) (docId : String) :
    Balanced (module.reportStep serializeObject (.start docId)) := by
  constructor
  · exact Nat.le_succ_of_le balanced.atMost
  · intro idle
    cases idle

theorem Balanced.value (balanced : Balanced module) (call : ReportValue) :
    Balanced (module.reportStep serializeObject (.value call)) := ⟨balanced.atMost, balanced.free⟩

theorem atMost_reportStep (atMost : module.exited ≤ module.entered) (event : ReportEvent) :
    (module.reportStep serializeObject event).exited ≤ (module.reportStep serializeObject event).entered := by
  cases event with
  | start docId => exact Nat.le_succ_of_le atMost
  | value call => exact atMost
  | connectionClosed => exact atMost
  | finish datasetName outcomes =>
      simp only [reportStep, finishReport]
      split
      · exact atMost
      · by_cases held : module.lockCount > 0
        · simp only [if_pos held]
          simp only [lockCount] at held
          omega
        · simp only [if_neg held]
          exact atMost

theorem balanced_finish_iff (atMost : module.exited ≤ module.entered) (datasetName : String) (outcomes : SendOutcomes) :
    Balanced (module.reportStep serializeObject (.finish datasetName outcomes)) ↔
      module.lockCount = 0 ∨ module.lockCount = 1 ∧ Sends serializeObject module datasetName outcomes := by
  have kept := (@atMost_reportStep serializeObject) atMost (.finish datasetName outcomes)
  have count : Balanced (module.reportStep serializeObject (.finish datasetName outcomes)) ↔
      (module.reportStep serializeObject (.finish datasetName outcomes)).entered =
        (module.reportStep serializeObject (.finish datasetName outcomes)).exited := by
    constructor
    · intro balanced
      apply balanced.free
      simp only [reportStep, finishReport]
      split <;> rfl
    · exact fun free => ⟨kept, fun _ => free⟩
  rw [count]
  simp only [reportStep, finishReport, Sends]
  cases sent : sendMessage serializeObject module.priorities outcomes datasetName module.message with
  | error exception =>
      simp only [lockCount, reduceCtorEq, exists_false, and_false, or_false]
      omega
  | ok value =>
      simp only [Except.ok.injEq, exists_eq', and_true]
      by_cases held : module.lockCount > 0
      · simp only [if_pos held]
        simp only [lockCount] at held ⊢
        omega
      · simp only [if_neg held]
        simp only [lockCount] at held ⊢
        omega

theorem balanced_connectionClosed_iff (atMost : module.exited ≤ module.entered) :
    Balanced (module.reportStep serializeObject .connectionClosed) ↔ module.lockCount = 0 := by
  simp only [lockCount]
  constructor
  · intro balanced
    have free : module.entered = module.exited := balanced.free rfl
    omega
  · intro free
    exact ⟨atMost, fun _ => by simp only [reportStep]; omega⟩

end ReportModule

section Runs

variable (serializeObject : TimeSeriesContract → String)

def newReportModule (logic : IccpLogic) (priorities : Priorities) (messageOrigin : String) : ReportModule :=
  ⟨logic, priorities, messageOrigin, none, 0, 0, false⟩

abbrev runReports (module : ReportModule) (events : List ReportEvent) : ReportModule :=
  finalState (ReportModule.reportStep serializeObject) module events

def countOpen (count : Nat) : ReportEvent → Nat
  | .start _ => count + 1
  | .value _ => count
  | .finish .. | .connectionClosed => 0

def openReports (events : List ReportEvent) : Nat := events.foldl countOpen 0

def Closes (module : ReportModule) (open_ : Nat) : ReportEvent → Prop
  | .start _ | .value _ => True
  | .finish datasetName outcomes => open_ = 0 ∨ open_ = 1 ∧ module.Sends serializeObject datasetName outcomes
  | .connectionClosed => open_ = 0

variable {serializeObject} {module : ReportModule}

theorem finalState_snoc {S E : Type} (step : S → E → S) (state : S) (events : List E) (event : E) :
    finalState step state (events ++ [event]) = step (finalState step state events) event := by
  induction events generalizing state with
  | nil => rfl
  | cons first rest ih => exact ih (step state first)

theorem balanced_step_iff {open_ : Nat} (balanced : module.Balanced) (count : module.lockCount = open_)
    (event : ReportEvent) :
    (module.reportStep serializeObject event).Balanced ↔ Closes serializeObject module open_ event := by
  cases event with
  | start docId => exact iff_of_true (balanced.start docId) trivial
  | value call => exact iff_of_true (balanced.value call) trivial
  | connectionClosed =>
      rw [ReportModule.balanced_connectionClosed_iff balanced.atMost, count, Closes]
      exact Int.natCast_eq_zero
  | finish datasetName outcomes =>
      rw [ReportModule.balanced_finish_iff balanced.atMost, count, Closes]
      norm_cast

theorem lockCount_step {open_ : Nat} {event : ReportEvent}
    (balanced : (module.reportStep serializeObject event).Balanced)
    (count : module.lockCount = open_) :
    (module.reportStep serializeObject event).lockCount = countOpen open_ event := by
  cases event with
  | start docId =>
      simp only [ReportModule.lockCount, ReportModule.reportStep, countOpen] at count ⊢
      omega
  | value call => exact count
  | connectionClosed =>
      have free := balanced.free rfl
      simp only [ReportModule.lockCount, countOpen]
      omega
  | finish datasetName outcomes =>
      have free := balanced.free (by
        simp only [ReportModule.reportStep, ReportModule.finishReport]
        split <;> rfl)
      simp only [ReportModule.lockCount, countOpen]
      omega

theorem balanced_new (logic : IccpLogic) (priorities : Priorities) (messageOrigin : String) :
    (newReportModule logic priorities messageOrigin).Balanced := ⟨Nat.le_refl 0, fun _ => rfl⟩

theorem openReports_snoc (events : List ReportEvent) (event : ReportEvent) :
    openReports (events ++ [event]) = countOpen (openReports events) event := by
  simp [openReports, List.foldl_append]

variable {events : List ReportEvent}

theorem lockCount_run (start : module.lockCount = 0)
    (balanced : ∀ front back, events = front ++ back → (runReports serializeObject module front).Balanced)
    (front back : List ReportEvent) (split : events = front ++ back) :
    (runReports serializeObject module front).lockCount = openReports front := by
  induction front using List.reverseRecOn generalizing back with
  | nil => exact start
  | append_singleton front event ih =>
      have before := ih (event :: back) (by rw [split, List.append_assoc]; rfl)
      have after := balanced _ _ split
      rw [runReports, finalState_snoc] at after ⊢
      rw [openReports_snoc]
      exact lockCount_step after before

theorem balanced_run (start : module.lockCount = 0) (initially : module.Balanced)
    (closes : ∀ front event back, events = front ++ event :: back →
      Closes serializeObject (runReports serializeObject module front) (openReports front) event)
    (front back : List ReportEvent) (split : events = front ++ back) :
    (runReports serializeObject module front).Balanced ∧
      (runReports serializeObject module front).lockCount = openReports front := by
  induction front using List.reverseRecOn generalizing back with
  | nil => exact ⟨initially, start⟩
  | append_singleton front event ih =>
      have continued : events = front ++ event :: back := by
        rw [split, List.append_assoc]
        rfl
      obtain ⟨before, count⟩ := ih (event :: back) continued
      have after := (balanced_step_iff before count event).mpr (closes front event back continued)
      rw [runReports, finalState_snoc, openReports_snoc]
      exact ⟨after, lockCount_step after count⟩

/-- The lock is balanced after every beginning of a run exactly when each end of a report,
and each closing of the connection, finds what it can close. -/
theorem import_lock_balanced_iff (serializeObject : TimeSeriesContract → String) (logic : IccpLogic)
    (priorities : Priorities) (messageOrigin : String) (events : List ReportEvent) :
    (∀ front back, events = front ++ back →
      (runReports serializeObject (newReportModule logic priorities messageOrigin) front).Balanced) ↔
    ∀ front event back, events = front ++ event :: back →
      Closes serializeObject (runReports serializeObject (newReportModule logic priorities messageOrigin) front)
        (openReports front) event := by
  have initially := balanced_new logic priorities messageOrigin
  constructor
  · intro balanced front event back split
    have before := balanced front (event :: back) split
    have count := (@lockCount_run serializeObject) rfl balanced front (event :: back) split
    have after := balanced (front ++ [event]) back (by rw [split, List.append_assoc]; rfl)
    rw [runReports, finalState_snoc] at after
    exact (balanced_step_iff before count event).mp after
  · intro closes front back split
    exact (balanced_run rfl initially closes front back split).1

def interrupted (outcomes : SendOutcomes) : List ReportEvent := [.start "1", .start "2", .finish "" outcomes]

theorem import_lock_not_always_balanced :
    ¬∀ (serializeObject : TimeSeriesContract → String) (logic : IccpLogic) (priorities : Priorities)
      (messageOrigin : String) (events front back : List ReportEvent), events = front ++ back →
      (runReports serializeObject (newReportModule logic priorities messageOrigin) front).Balanced := by
  intro always
  have balanced := always (fun _ => "") ⟨[], []⟩ [("default", "NORMAL")] "SCADA"
    (interrupted ⟨.error .claimHandler, none⟩) (interrupted ⟨.error .claimHandler, none⟩) []
    (List.append_nil _).symm
  have free := balanced.free rfl
  cases free

end Runs

end ServiceHost.DataExchange.Iccp
