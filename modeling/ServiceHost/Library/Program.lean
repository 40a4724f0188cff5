import ServiceHost.Library.Outcome

/-!
Computations that change a state and may end in an exception. What was changed
before the exception stays. Triples describe both ways out by one assertion.
-/

namespace ServiceHost.Library

/-- A computation over a state that returns a value or raises an exception. -/
def Program (S E A : Type) : Type := S → Except E A × S

namespace Program

variable {S E A B : Type}

instance : Monad (Program S E) where
  pure value := fun state => (.ok value, state)
  bind first next := fun state =>
    match first state with
    | (.ok value, state) => next value state
    | (.error exception, state) => (.error exception, state)

def read (look : S → A) : Program S E A := fun state => (.ok (look state), state)

def change (update : S → S) : Program S E Unit := fun state => (.ok (), update state)

def raise (exception : E) : Program S E A := fun state => (.error exception, state)

def ofExcept (outcome : Except E A) : Program S E A := fun state => (outcome, state)

/-- A collaborator that does nothing here but may raise an exception. -/
def call (failure : Option E) : Program S E Unit :=
  match failure with
  | none => pure ()
  | some exception => raise exception

/-- `try` with one handler for all exceptions; it raises again what it does not handle. -/
def handle (body : Program S E A) (handler : E → Program S E A) : Program S E A := fun state =>
  match body state with
  | (.ok value, state) => (.ok value, state)
  | (.error exception, state) => handler exception state

/-- `finally`: an exception of the cleanup takes the place of the outcome. -/
def ensure (body : Program S E A) (cleanup : Program S E Unit) : Program S E A := fun state =>
  match body state with
  | (outcome, state) =>
      match cleanup state with
      | (.ok _, state) => (outcome, state)
      | (.error exception, state) => (.error exception, state)

/-- `foreach`. -/
def forEach (step : A → Program S E Unit) : List A → Program S E Unit
  | [] => pure ()
  | item :: items => do
      step item
      forEach step items

section Run

variable {first : Program S E A} {next : A → Program S E B} {state later : S} {value : A} {exception : E}

@[simp] theorem pure_run (value : A) (state : S) : (pure value : Program S E A) state = (.ok value, state) := rfl

@[simp] theorem read_run (look : S → A) (state : S) :
    (read look : Program S E A) state = (.ok (look state), state) := rfl

@[simp] theorem change_run (update : S → S) (state : S) :
    (change update : Program S E Unit) state = (.ok (), update state) := rfl

@[simp] theorem raise_run (exception : E) (state : S) :
    (raise exception : Program S E A) state = (.error exception, state) := rfl

@[simp] theorem ofExcept_run (outcome : Except E A) (state : S) :
    (ofExcept outcome : Program S E A) state = (outcome, state) := rfl

@[simp] theorem call_none (state : S) : (call none : Program S E Unit) state = (.ok (), state) := rfl

@[simp] theorem call_some (exception : E) (state : S) :
    (call (some exception) : Program S E Unit) state = (.error exception, state) := rfl

theorem bind_of_ok (run : first state = (.ok value, later)) : (first >>= next) state = next value later := by
  simp only [bind, run]

theorem bind_of_error (run : first state = (.error exception, later)) :
    (first >>= next) state = (.error exception, later) := by
  simp only [bind, run]

theorem ok_of_bind {result : B} {last : S} (returned : (first >>= next) state = (.ok result, last)) :
    ∃ value later, first state = (.ok value, later) ∧ next value later = (.ok result, last) := by
  cases run : first state with
  | mk outcome later =>
      cases outcome with
      | ok value => exact ⟨value, later, rfl, (bind_of_ok run).symm.trans returned⟩
      | error exception =>
          rw [bind_of_error run] at returned
          cases returned

theorem handle_of_ok {handler : E → Program S E A} (run : first state = (.ok value, later)) :
    handle first handler state = (.ok value, later) := by
  simp only [handle, run]

theorem handle_of_error {handler : E → Program S E A} (run : first state = (.error exception, later)) :
    handle first handler state = handler exception later := by
  simp only [handle, run]

theorem ensure_of_ok {cleanup : Program S E Unit} {outcome : Except E A} {last : S}
    (run : first state = (outcome, later)) (cleaned : cleanup later = (.ok (), last)) :
    ensure first cleanup state = (outcome, last) := by
  simp only [ensure, run, cleaned]

theorem ensure_of_error {cleanup : Program S E Unit} {outcome : Except E A} {last : S}
    (run : first state = (outcome, later)) (cleaned : cleanup later = (.error exception, last)) :
    ensure first cleanup state = (.error exception, last) := by
  simp only [ensure, run, cleaned]

end Run

/-- From every state with the precondition, outcome and state satisfy the postcondition. -/
def Triple (before : S → Prop) (program : Program S E A) (after : Except E A → S → Prop) : Prop :=
  ∀ state, before state → after (program state).1 (program state).2

namespace Triple

variable {before : S → Prop} {first : Program S E A} {next : A → Program S E B}

theorem pure {value : A} {after : Except E A → S → Prop} (holds : ∀ state, before state → after (.ok value) state) :
    Triple before (Pure.pure value) after := holds

theorem raise {exception : E} {after : Except E A → S → Prop}
    (holds : ∀ state, before state → after (.error exception) state) :
    Triple before (Program.raise exception) after := holds

theorem change {update : S → S} {after : Except E Unit → S → Prop}
    (holds : ∀ state, before state → after (.ok ()) (update state)) :
    Triple before (Program.change update) after := holds

theorem bind {middle : Except E A → S → Prop} {after : Except E B → S → Prop}
    (starts : Triple before first middle) (goes : ∀ value, Triple (middle (.ok value)) (next value) after)
    (raises : ∀ exception state, middle (.error exception) state → after (.error exception) state) :
    Triple before (first >>= next) after := by
  intro state holds
  have reached := starts state holds
  cases run : first state with
  | mk outcome later =>
      rw [run] at reached
      cases outcome with
      | ok value =>
          rw [bind_of_ok run]
          exact goes value later reached
      | error exception =>
          rw [bind_of_error run]
          exact raises exception later reached

theorem handle {handler : E → Program S E A} {middle after : Except E A → S → Prop}
    (starts : Triple before first middle)
    (returns : ∀ value state, middle (.ok value) state → after (.ok value) state)
    (handles : ∀ exception, Triple (middle (.error exception)) (handler exception) after) :
    Triple before (Program.handle first handler) after := by
  intro state holds
  have reached := starts state holds
  cases run : first state with
  | mk outcome later =>
      rw [run] at reached
      cases outcome with
      | ok value =>
          rw [handle_of_ok run]
          exact returns value later reached
      | error exception =>
          rw [handle_of_error run]
          exact handles exception later reached

end Triple

/-- A computation keeps what a view of the state shows, whichever way it ends. -/
def Keeps {V : Type} (view : S → V) (program : Program S E A) : Prop :=
  ∀ state, view (program state).2 = view state

namespace Keeps

variable {V : Type} {view : S → V}

theorem pure (value : A) : Keeps view (Pure.pure value : Program S E A) := fun _ => rfl

theorem raise (exception : E) : Keeps view (Program.raise exception : Program S E A) := fun _ => rfl

theorem read (look : S → A) : Keeps view (Program.read look : Program S E A) := fun _ => rfl

theorem ofExcept (outcome : Except E A) : Keeps view (Program.ofExcept outcome : Program S E A) := fun _ => rfl

theorem change {update : S → S} (same : ∀ state, view (update state) = view state) :
    Keeps view (Program.change update : Program S E Unit) := same

theorem call (failure : Option E) : Keeps view (Program.call failure : Program S E Unit) := by
  cases failure with
  | none => exact pure ()
  | some exception => exact raise exception

theorem bind {first : Program S E A} {next : A → Program S E B} (starts : Keeps view first)
    (goes : ∀ value, Keeps view (next value)) : Keeps view (first >>= next) := by
  intro state
  have before := starts state
  cases run : first state with
  | mk result later =>
      rw [run] at before
      cases result with
      | ok value =>
          rw [bind_of_ok run]
          exact (goes value later).trans before
      | error exception =>
          rw [bind_of_error run]
          exact before

theorem handle {body : Program S E A} {handler : E → Program S E A} (starts : Keeps view body)
    (handles : ∀ exception, Keeps view (handler exception)) : Keeps view (Program.handle body handler) := by
  intro state
  have before := starts state
  cases run : body state with
  | mk result later =>
      rw [run] at before
      cases result with
      | ok value =>
          rw [handle_of_ok run]
          exact before
      | error exception =>
          rw [handle_of_error run]
          exact (handles exception later).trans before

theorem after_bind (view : S → V) {first : Program S E A} {next : A → Program S E B} (goes : ∀ value, Keeps view (next value))
    (state : S) : view ((first >>= next) state).2 = view (first state).2 := by
  cases run : first state with
  | mk result later =>
      cases result with
      | ok value =>
          rw [bind_of_ok run]
          exact goes value later
      | error exception => rw [bind_of_error run]

theorem after_handle (view : S → V) {body : Program S E A} {handler : E → Program S E A}
    (handles : ∀ exception, Keeps view (handler exception)) (state : S) :
    view (Program.handle body handler state).2 = view (body state).2 := by
  cases run : body state with
  | mk result later =>
      cases result with
      | ok value => rw [handle_of_ok run]
      | error exception =>
          rw [handle_of_error run]
          exact handles exception later

end Keeps

def ReturnsWhen (program : Program S E A) (condition : Prop) : Prop :=
  ∀ state, (∃ value, (program state).1 = .ok value) ↔ condition

namespace ReturnsWhen

theorem pure (value : A) : ReturnsWhen (Pure.pure value : Program S E A) True :=
  fun _ => ⟨fun _ => trivial, fun _ => ⟨value, rfl⟩⟩

theorem change (update : S → S) : ReturnsWhen (Program.change update : Program S E Unit) True :=
  fun _ => ⟨fun _ => trivial, fun _ => ⟨(), rfl⟩⟩

theorem call (failure : Option E) : ReturnsWhen (Program.call failure : Program S E Unit) (failure = none) := by
  intro state
  cases failure with
  | none => exact ⟨fun _ => rfl, fun _ => ⟨(), rfl⟩⟩
  | some exception => exact ⟨fun ⟨_, returned⟩ => (nomatch returned), fun none => (nomatch none)⟩

theorem bind {first : Program S E A} {next : A → Program S E B} {starts goes : Prop}
    (firstReturns : ReturnsWhen first starts) (nextReturns : ∀ value, ReturnsWhen (next value) goes) :
    ReturnsWhen (first >>= next) (starts ∧ goes) := by
  intro state
  rw [← firstReturns state]
  cases run : first state with
  | mk result later =>
      cases result with
      | ok value =>
          rw [bind_of_ok run, nextReturns value later]
          exact ⟨fun holds => ⟨⟨value, rfl⟩, holds⟩, fun holds => holds.2⟩
      | error exception =>
          rw [bind_of_error run]
          exact ⟨fun ⟨_, returned⟩ => (nomatch returned), fun ⟨⟨_, returned⟩, _⟩ => (nomatch returned)⟩

theorem imp {program : Program S E A} {condition other : Prop} (returns : ReturnsWhen program condition)
    (same : condition ↔ other) : ReturnsWhen program other :=
  fun state => (returns state).trans same

theorem guarded {body : Program S E Unit} {guard condition : Prop} [Decidable guard]
    (returns : ReturnsWhen body condition) :
    ReturnsWhen (if guard then body else Pure.pure ()) (guard → condition) := by
  split
  · rename_i holds
    exact returns.imp ⟨fun given _ => given, fun given => given holds⟩
  · rename_i fails
    exact (pure ()).imp ⟨fun _ holds => absurd holds fails, fun _ => trivial⟩

theorem forEach {step : A → Program S E Unit} {condition : A → Prop}
    (turn : ∀ item, ReturnsWhen (step item) (condition item)) (items : List A) :
    ReturnsWhen (Program.forEach step items) (∀ item ∈ items, condition item) := by
  induction items with
  | nil => exact (pure ()).imp (by simp)
  | cons item items ih => exact (bind (turn item) fun _ => ih).imp (by simp)

end ReturnsWhen

theorem Keeps.guarded {V : Type} {view : S → V} {body : Program S E Unit} {guard : Prop} [Decidable guard]
    (keeps : Keeps view body) : Keeps view (if guard then body else Pure.pure ()) := by
  split
  · exact keeps
  · exact Keeps.pure ()

theorem Keeps.forEach {V : Type} {view : S → V} {step : A → Program S E Unit}
    (turn : ∀ item, Keeps view (step item)) (items : List A) : Keeps view (Program.forEach step items) := by
  induction items with
  | nil => exact Keeps.pure ()
  | cons item items ih => exact Keeps.bind (turn item) fun _ => ih

section Loops

variable {R : Type}

theorem forEach_returns_iff {step : A → Program S E Unit} {outcome : A → Except E Unit}
    (turn : ∀ item state, (step item state).1 = outcome item) (items : List A) (state : S) :
    (forEach step items state).1 = .ok () ↔ ∀ item ∈ items, outcome item = .ok () := by
  induction items generalizing state with
  | nil => simp [forEach]
  | cons item items ih =>
      have ends := turn item state
      rw [forEach, List.forall_mem_cons]
      cases run : step item state with
      | mk result later =>
          rw [run] at ends
          cases result with
          | ok value => rw [bind_of_ok run, ← ends, ih, eq_self, true_and]
          | error exception =>
              rw [bind_of_error run, ← ends]
              simp

theorem forEach_turn_returns {step : A → Program S E Unit} {items : List A} {state : S}
    (returns : (forEach step items state).1 = .ok ()) {item : A} (member : item ∈ items) :
    ∃ before, (step item before).1 = .ok () := by
  induction items generalizing state with
  | nil => cases member
  | cons first rest ih =>
      rw [forEach] at returns
      cases run : step first state with
      | mk outcome later =>
          cases outcome with
          | error exception =>
              rw [bind_of_error run] at returns
              cases returns
          | ok value =>
              rw [bind_of_ok run] at returns
              obtain rfl | inRest := List.mem_cons.mp member
              · exact ⟨state, by rw [run]⟩
              · exact ih returns inRest

theorem forEach_invariant {step : A → Program S E Unit} {inv : List A → S → Prop} {items : List A}
    (turn : ∀ front item rest, items = front ++ item :: rest → ∀ state, inv front state →
      ∃ later, step item state = (.ok (), later) ∧ inv (front ++ [item]) later)
    {state : S} (starts : inv [] state) :
    ∃ later, forEach step items state = (.ok (), later) ∧ inv items later := by
  have goes : ∀ front rest, items = front ++ rest → ∀ state, inv front state →
      ∃ later, forEach step rest state = (.ok (), later) ∧ inv items later := by
    intro front rest
    induction rest generalizing front with
    | nil =>
        intro all state holds
        rw [List.append_nil] at all
        exact ⟨state, rfl, all ▸ holds⟩
    | cons item rest ih =>
        intro all state holds
        obtain ⟨middle, run, goesOn⟩ := turn front item rest all state holds
        obtain ⟨later, loop, ends⟩ := ih (front ++ [item]) (by rw [all]; simp) middle goesOn
        exact ⟨later, (bind_of_ok run).trans loop, ends⟩
  exact goes [] items rfl state starts

theorem forEach_collects {step : A → Program S E Unit} (view : S → List R) {piece : A → Option R}
    (turn : ∀ item state, (step item state).1 = .ok () →
      view (step item state).2 = view state ++ (piece item).toList) (items : List A) (state : S)
    (returns : (forEach step items state).1 = .ok ()) :
    view (forEach step items state).2 = view state ++ items.filterMap piece := by
  induction items generalizing state with
  | nil => simp [forEach]
  | cons item items ih =>
      have collected := turn item state
      rw [forEach] at returns ⊢
      cases run : step item state with
      | mk result later =>
          rw [run] at collected
          cases result with
          | ok value =>
              rw [bind_of_ok run] at returns ⊢
              rw [ih later returns, collected rfl, List.append_assoc, List.filterMap_cons]
              cases piece item <;> rfl
          | error exception =>
              rw [bind_of_error run] at returns
              cases returns

end Loops

end Program

end ServiceHost.Library
