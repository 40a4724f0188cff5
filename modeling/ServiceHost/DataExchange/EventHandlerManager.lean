import Mathlib.Data.List.Induction
import ServiceHost.DataExchange.EventHandlerManagerCore

/-!
When the manager listens to the source event exactly while it has handlers. The decision to
unsubscribe is taken before the removal, from the last entry of the value and the number of handlers.
-/

namespace ServiceHost.DataExchange.Events

open Library

variable {M O : Type}

structure Exact [DecidableEq M] [DecidableEq O] (manager : EventHandlerManager M O) : Prop where
  subscribed : manager.subscriptions = if manager.handler = [] then 0 else 1
  raised : ∀ handler, manager.raised.count handler = manager.handler.count handler
  disposed : manager.isDisposed = true → manager.subscriptions = 0

def Removable (manager : EventHandlerManager M O) (value : EventHandler M O) : Prop :=
  value.invocationList.length = 1 ∨
    (manager.handler ≠ value.invocationList ∧ manager.handler ≠ [value.last])

structure Settled (manager : EventHandlerManager M O) : Prop where
  flag : manager.isEventSubscribed = true ↔ manager.handler ≠ []
  subscriptions : manager.subscriptions = manager.isEventSubscribed.toNat
  disposed : manager.isDisposed = true → manager.handler = []

theorem settled_new : Settled (EventHandlerManager.new : EventHandlerManager M O) :=
  ⟨⟨fun flag => (nomatch flag), fun some => absurd rfl some⟩, rfl, fun _ => rfl⟩

namespace EventHandler

theorem invocationList_of_length (value : EventHandler M O) (one : value.invocationList.length = 1) :
    value.invocationList = [value.last] := by
  obtain ⟨handler, single⟩ := List.length_eq_one_iff.mp one
  have isLast : value.last = handler := by
    unfold last
    simp only [single, List.getLast_singleton]
  rw [isLast, single]

end EventHandler

theorem Removable.iff {manager : EventHandlerManager M O} {value : EventHandler M O} :
    Removable manager value ↔ (manager.handler = [value.last] ↔ manager.handler = value.invocationList) := by
  constructor
  · rintro (one | ⟨notAll, notLast⟩)
    · rw [value.invocationList_of_length one]
    · exact iff_of_false notLast notAll
  · intro same
    by_cases all : manager.handler = value.invocationList
    · left
      rw [← all, same.mpr all]
      rfl
    · exact Or.inr ⟨all, fun isLast => all (same.mp isLast)⟩

theorem throwIfDisposed_ok {manager : EventHandlerManager M O} (open_ : manager.isDisposed = false) :
    throwIfDisposed manager = (.ok (), manager) := by
  unfold throwIfDisposed
  rw [Program.bind_of_ok (Program.read_run _ _), open_]
  rfl

theorem throwIfDisposed_error {manager : EventHandlerManager M O} (disposed : manager.isDisposed = true) :
    throwIfDisposed manager = (.error (.objectDisposed "event handler manager"), manager) := by
  unfold throwIfDisposed
  rw [Program.bind_of_ok (Program.read_run _ _), disposed]
  rfl

variable [DecidableEq M] [DecidableEq O]

theorem Settled.exact {manager : EventHandlerManager M O} (settled : Settled manager) : Exact manager := by
  have subscribed : manager.subscriptions = if manager.handler = [] then 0 else 1 := by
    rw [settled.subscriptions]
    split
    · rename_i none
      rw [Bool.eq_false_iff.mpr fun flag => settled.flag.mp flag none]
      rfl
    · rename_i some
      rw [settled.flag.mpr some]
      rfl
  refine ⟨subscribed, fun handler => ?_, fun disposed => ?_⟩
  · unfold EventHandlerManager.raised
    rw [subscribed]
    split
    · rename_i none
      rw [none]
      rfl
    · rw [List.replicate_one, List.flatten_singleton]
  · rw [subscribed, if_pos (settled.disposed disposed)]

section Calls

variable {manager : EventHandlerManager M O} {value : EventHandler M O}

theorem unsubscribeFromSourceIfNeeded_run (value : EventHandler M O) (manager : EventHandlerManager M O) :
    unsubscribeFromSourceIfNeeded value manager =
      (.ok (), if manager.handler = [value.last] then
        { manager with subscriptions := manager.subscriptions - 1, isEventSubscribed := false } else manager) := by
  unfold unsubscribeFromSourceIfNeeded
  rw [Program.bind_of_ok (Program.read_run _ _)]
  obtain ⟨handler, flag, disposed, subscriptions⟩ := manager
  dsimp only
  match handler with
  | [] => rfl
  | [only] =>
      have found : ([only].any fun other => other.method = value.method ∧ other.target = value.target) =
          decide ([only] = [value.last]) := by
        rw [List.any_cons, List.any_nil, Bool.or_false, decide_eq_decide, List.cons.injEq, and_iff_left rfl]
        exact ⟨fun same => SingleHandler.ext same.1 same.2, fun same => same ▸ ⟨rfl, rfl⟩⟩
      have one : ¬[only].length ≠ 1 := fun other => other rfl
      rw [if_neg (List.cons_ne_nil only []), if_neg one, found]
      by_cases isLast : [only] = [value.last]
      · rw [if_neg (by simpa using isLast), if_pos isLast]
        exact Program.bind_of_ok (Program.change_run _ _)
      · rw [if_pos (by simpa using isLast), if_neg isLast]
        rfl
  | first :: second :: rest =>
      have notLast : first :: second :: rest ≠ [value.last] := fun same => by cases (List.cons.inj same).2
      rw [if_neg (List.cons_ne_nil _ _), if_pos (by simp), if_neg notLast]
      rfl

theorem remove_run (open_ : manager.isDisposed = false) :
    remove value manager =
      (.ok (), { (if manager.handler = [value.last] then
          { manager with subscriptions := manager.subscriptions - 1, isEventSubscribed := false } else manager) with
        handler := removeLast value.invocationList manager.handler }) := by
  unfold remove
  rw [Program.bind_of_ok (throwIfDisposed_ok open_),
    Program.bind_of_ok (unsubscribeFromSourceIfNeeded_run value manager), Program.change_run]
  split <;> rfl

theorem step_disposed (disposed : manager.isDisposed = true) (step : Step M O) : manager.step step = manager := by
  cases step with
  | add value =>
      rw [EventHandlerManager.step, add, Program.bind_of_error (throwIfDisposed_error disposed)]
  | remove value =>
      rw [EventHandlerManager.step, remove, Program.bind_of_error (throwIfDisposed_error disposed)]
  | dispose =>
      rw [EventHandlerManager.step, dispose, Program.bind_of_ok (Program.read_run _ _), if_pos disposed]
      rfl

theorem Settled.add (settled : Settled manager) (value : EventHandler M O) : Settled (manager.step (.add value)) := by
  cases disposed : manager.isDisposed with
  | true =>
      rw [step_disposed disposed]
      exact settled
  | false =>
      have some : manager.handler ++ value.invocationList ≠ [] := fun none =>
        value.some (List.append_eq_nil_iff.mp none).2
      rw [EventHandlerManager.step, Events.add, Program.bind_of_ok (throwIfDisposed_ok disposed),
        Program.bind_of_ok (Program.change_run _ _), ensureSourceEventIsSubscribed,
        Program.bind_of_ok (Program.read_run _ _)]
      obtain ⟨handler, flag, isDisposed, subscriptions⟩ := manager
      have counted : subscriptions = flag.toNat := settled.subscriptions
      have stays : isDisposed = true → handler ++ value.invocationList = [] := fun is => (nomatch disposed.symm.trans is)
      cases flag with
      | true => exact ⟨iff_of_true rfl some, counted, stays⟩
      | false => exact ⟨iff_of_true rfl some, congrArg (· + 1) counted, stays⟩

theorem Settled.remove (settled : Settled manager) (removable : Removable manager value) :
    Settled (manager.step (.remove value)) := by
  cases disposed : manager.isDisposed with
  | true =>
      rw [step_disposed disposed]
      exact settled
  | false =>
      have empties : removeLast value.invocationList manager.handler = [] ↔
          manager.handler = [] ∨ manager.handler = value.invocationList := removeLast_eq_nil_iff value.some
      rw [EventHandlerManager.step, remove_run disposed]
      by_cases isLast : manager.handler = [value.last]
      · rw [if_pos isLast]
        have subscribed : manager.isEventSubscribed = true :=
          settled.flag.mpr (by rw [isLast]; exact List.cons_ne_nil _ _)
        have none : removeLast value.invocationList manager.handler = [] :=
          empties.mpr (Or.inr (Removable.iff.mp removable |>.mp isLast))
        refine ⟨⟨fun flag => (nomatch flag), fun some => absurd none some⟩, ?_, fun _ => none⟩
        have counted := settled.subscriptions
        rw [subscribed] at counted
        exact congrArg (· - 1) counted
      · rw [if_neg isLast]
        have notAll : manager.handler ≠ value.invocationList := fun all =>
          isLast ((Removable.iff.mp removable).mpr all)
        have same : removeLast value.invocationList manager.handler = [] ↔ manager.handler = [] :=
          empties.trans (or_iff_left notAll)
        exact ⟨settled.flag.trans (not_congr same).symm, settled.subscriptions,
          fun isDisposed => same.mpr (settled.disposed isDisposed)⟩

theorem Settled.removable (settled : Settled manager) (exact_ : Exact (manager.step (.remove value))) :
    Removable manager value := by
  have empties : removeLast value.invocationList manager.handler = [] ↔
      manager.handler = [] ∨ manager.handler = value.invocationList := removeLast_eq_nil_iff value.some
  rw [Removable.iff]
  cases disposed : manager.isDisposed with
  | true =>
      rw [settled.disposed disposed]
      exact iff_of_false (fun none => (nomatch none)) fun none => value.some none.symm
  | false =>
      have subscribed := exact_.subscribed
      rw [EventHandlerManager.step, remove_run disposed] at subscribed
      by_cases isLast : manager.handler = [value.last]
      · have some : manager.handler ≠ [] := by rw [isLast]; exact List.cons_ne_nil _ _
        rw [if_pos isLast] at subscribed
        have counted := settled.subscriptions
        rw [settled.flag.mpr some] at counted
        have none : removeLast value.invocationList manager.handler = [] := by
          by_contra left
          rw [if_neg left, counted] at subscribed
          cases subscribed
        exact iff_of_true isLast ((empties.mp none).resolve_left some)
      · rw [if_neg isLast] at subscribed
        refine iff_of_false isLast fun all => ?_
        have some : manager.handler ≠ [] := by rw [all]; exact value.some
        have counted := settled.subscriptions
        rw [settled.flag.mpr some] at counted
        rw [if_pos (empties.mpr (Or.inr all)), counted] at subscribed
        cases subscribed

theorem Settled.dispose (settled : Settled manager) : Settled (manager.step .dispose) := by
  cases disposed : manager.isDisposed with
  | true =>
      rw [step_disposed disposed]
      exact settled
  | false =>
      have loop : ∀ handlers (state : EventHandlerManager M O), state.isDisposed = false → Settled state →
          ∃ later, Program.forEach (fun handler => Events.remove (.single handler)) handlers state = (.ok (), later) ∧
            later.isDisposed = false ∧ Settled later ∧
            later.handler = handlers.foldl (fun left handler => removeLast [handler] left) state.handler := by
        intro handlers
        induction handlers with
        | nil => exact fun state open_ holds => ⟨state, rfl, open_, holds, rfl⟩
        | cons handler rest ih =>
            intro state open_ holds
            have run := @remove_run _ _ _ _ state (.single handler) open_
            have next : Settled (state.step (.remove (.single handler))) := holds.remove (Or.inl rfl)
            rw [EventHandlerManager.step, run] at next
            obtain ⟨later, goesOn, stays, ends, left⟩ := ih _ (by dsimp only; split <;> exact open_) next
            exact ⟨later, (Program.bind_of_ok run).trans goesOn, stays, ends, left⟩
      obtain ⟨later, run, -, ends, left⟩ := loop manager.handler manager disposed settled
      have none : later.handler = [] := left.trans (foldl_removeLast_of_perm (List.Perm.refl _))
      have body : ((do
          let subscribed ← Program.read fun manager => manager.handler
          Program.forEach (fun handler => Events.remove (.single handler)) subscribed) : Listening M O Unit) manager =
            (.ok (), later) := (Program.bind_of_ok (Program.read_run _ _)).trans run
      rw [EventHandlerManager.step, Events.dispose, Program.bind_of_ok (Program.read_run _ _),
        if_neg (Bool.eq_false_iff.mp disposed), Program.ensure_of_ok body (Program.change_run _ _)]
      exact ⟨ends.flag, ends.subscriptions, fun _ => none⟩

end Calls

section Runs

def EachRemovable (steps : List (Step M O)) : Prop :=
  ∀ front value, front ++ [.remove value] <+: steps → Removable (EventHandlerManager.run front) value

theorem run_concat (steps : List (Step M O)) (step : Step M O) :
    EventHandlerManager.run (steps ++ [step]) = (EventHandlerManager.run steps).step step := by
  unfold EventHandlerManager.run
  rw [List.foldl_append]
  rfl

theorem settled_run {steps : List (Step M O)} (each : EachRemovable steps) :
    Settled (EventHandlerManager.run steps) := by
  induction steps using List.reverseRecOn with
  | nil => exact settled_new
  | append_singleton steps step ih =>
      have before := ih fun front value isFront => each front value (isFront.trans (List.prefix_append _ _))
      rw [run_concat]
      cases step with
      | add value => exact before.add value
      | remove value => exact before.remove (each steps value List.prefix_rfl)
      | dispose => exact before.dispose

/-- The manager is right after every step of a run exactly when each removal meets the condition. -/
theorem source_subscribed_while_listened_iff (steps : List (Step M O)) :
    (∀ front, front <+: steps → Exact (EventHandlerManager.run front)) ↔ EachRemovable steps := by
  constructor
  · intro exact_
    induction steps using List.reverseRecOn with
    | nil => exact fun front value isFront => absurd (List.prefix_nil.mp isFront) (by simp)
    | append_singleton steps step ih =>
        have before := ih fun front isFront => exact_ front (isFront.trans (List.prefix_append _ _))
        intro front value isFront
        obtain whole | earlier := List.prefix_concat_iff.mp isFront
        · obtain ⟨rfl, last⟩ := List.append_inj' whole rfl
          obtain rfl := List.cons.inj last |>.1
          have last := exact_ _ List.prefix_rfl
          rw [run_concat] at last
          exact (settled_run before).removable last
        · exact before front value earlier
  · intro each front isFront
    exact (settled_run fun earlier value isEarlier => each earlier value (isEarlier.trans isFront)).exact

def firstHandler : SingleHandler Nat Nat := ⟨0, none⟩
def secondHandler : SingleHandler Nat Nat := ⟨1, none⟩

/-- Removing a combined delegate that ends in the only handler unsubscribes and removes nothing. -/
theorem combined_removal_stops_listening :
    ¬∀ front, front <+: [Step.add (.single firstHandler), .remove ⟨[secondHandler, firstHandler], by decide⟩] →
      Exact (EventHandlerManager.run front) := by
  intro exact_
  have after := (exact_ _ List.prefix_rfl).subscribed
  revert after
  decide

end Runs

end ServiceHost.DataExchange.Events
