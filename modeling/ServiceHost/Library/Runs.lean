import Mathlib.Logic.Function.Iterate

/-!
Runs of a system that takes one labelled step after another. An invariant that every
allowed step keeps holds at the end of every run whose steps are all allowed.
-/

namespace ServiceHost.Library

variable {S E : Type}

def finalState (step : S → E → S) (state : S) : List E → S
  | [] => state
  | event :: rest => finalState step (step state event) rest

/-- Every event of a run is allowed in the state in which it happens. -/
def Permits (step : S → E → S) (allowed : S → E → Prop) (state : S) : List E → Prop
  | [] => True
  | event :: rest => allowed state event ∧ Permits step allowed (step state event) rest

def decidePermits (step : S → E → S) (allowed : S → E → Prop) [∀ state event, Decidable (allowed state event)] :
    ∀ state events, Decidable (Permits step allowed state events)
  | _, [] => .isTrue trivial
  | state, event :: rest =>
      have := decidePermits step allowed (step state event) rest
      inferInstanceAs (Decidable (allowed state event ∧ Permits step allowed (step state event) rest))

instance (step : S → E → S) (allowed : S → E → Prop) [∀ state event, Decidable (allowed state event)]
    (state : S) (events : List E) : Decidable (Permits step allowed state events) :=
  decidePermits step allowed state events

section Invariants

variable {step : S → E → S} {allowed : S → E → Prop} {invariant : S → Prop}

theorem finalState_invariant
    (kept : ∀ state event, invariant state → allowed state event → invariant (step state event))
    {events : List E} {state : S} (holds : invariant state) (permitted : Permits step allowed state events) :
    invariant (finalState step state events) := by
  induction events generalizing state with
  | nil => exact holds
  | cons event rest ih => exact ih (kept state event holds permitted.1) permitted.2

end Invariants

section Machines

variable {step : S → S} {start middle final other : S}

def Comes (step : S → S) (start final : S) : Prop := ∃ steps, step^[steps] start = final

theorem Comes.refl : Comes step start start := ⟨0, rfl⟩

theorem Comes.head (comes : Comes step (step start) final) : Comes step start final := by
  obtain ⟨steps, run⟩ := comes
  exact ⟨steps + 1, run⟩

theorem Comes.trans (first : Comes step start middle) (second : Comes step middle final) : Comes step start final := by
  obtain ⟨steps, rfl⟩ := first
  obtain ⟨more, rfl⟩ := second
  exact ⟨more + steps, Function.iterate_add_apply step more steps start⟩

theorem Comes.unique (first : Comes step start final) (second : Comes step start other)
    (stops : step final = final) (stopsToo : step other = other) : final = other := by
  obtain ⟨steps, rfl⟩ := first
  obtain ⟨more, rfl⟩ := second
  calc step^[steps] start = step^[more] (step^[steps] start) := (Function.iterate_fixed stops more).symm
    _ = step^[steps] (step^[more] start) := by
        rw [← Function.iterate_add_apply, ← Function.iterate_add_apply, Nat.add_comm]
    _ = step^[more] start := Function.iterate_fixed stopsToo steps

end Machines

end ServiceHost.Library
