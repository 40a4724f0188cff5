import Mathlib.Data.List.Basic
import Mathlib.Data.Nat.Find
import ServiceHost.DataExchange.IccpReconnectCore

/-!
What `Reconnect` tries, and what it reports. It goes to the next client once, and gives up
there unless that client is the last of the list, which it then tries again and again. A
client object is there after the first failure, connected or not.
-/

namespace ServiceHost.DataExchange.IccpReconnect

namespace ReconnectEvent

def clientIndex : ReconnectEvent → Nat
  | connect clientIndex _ | sleep clientIndex => clientIndex

def isSleep : ReconnectEvent → Bool
  | connect .. => false
  | sleep _ => true

end ReconnectEvent

def cyclicAfter (clients : Clients) (current : Nat) : List Nat :=
  (List.range clients.length).map fun offset => (current + 1 + offset) % clients.length

def Cyclic (clients : Clients) (trace : List ReconnectEvent) : Prop :=
  ∀ front current between next back,
    trace = front ++ .sleep current :: (between ++ .sleep next :: back) →
    (∀ event ∈ between, event.isSleep = false) →
    between.map ReconnectEvent.clientIndex = cyclicAfter clients current

structure Truthful (clients : Clients) (before : IccpImportModule) (state : Reconnecting) : Prop where
  keepsTrying : state.ending ≠ .running →
    (∃ clientIndex, .connect clientIndex true ∈ state.trace) ∨ state.module.isStopRequested = true
  cyclic : Cyclic clients state.trace
  truth : state.ending = .returned true ∨ before.reconnect = true ∧ state.module.reconnect = false →
    state.module.client = some (.connected state.module.clientIndex)

section Traces

variable {clients : Clients} {index : Nat} {trace : List ReconnectEvent}

theorem cyclic_of_one_sleep (few : (trace.filter ReconnectEvent.isSleep).length ≤ 1) : Cyclic clients trace := by
  rintro front current between next back rfl _
  have asleep (clientIndex : Nat) (rest : List ReconnectEvent) :
      (ReconnectEvent.sleep clientIndex :: rest).filter ReconnectEvent.isSleep =
        .sleep clientIndex :: rest.filter ReconnectEvent.isSleep := rfl
  simp only [List.filter_append, asleep, List.length_append, List.length_cons] at few
  omega

inductive Alternates (index : Nat) : List ReconnectEvent → Prop
  | nil : Alternates index []
  | tried (established : Bool) : Alternates index [.connect index established]
  | slept (established : Bool) {trace : List ReconnectEvent} (rest : Alternates index trace) :
      Alternates index (.connect index established :: .sleep index :: trace)

theorem Alternates.head {event : ReconnectEvent} {rest : List ReconnectEvent}
    (alternates : Alternates index (event :: rest)) : ∃ established, event = .connect index established := by
  cases alternates with
  | tried established => exact ⟨established, rfl⟩
  | slept established _ => exact ⟨established, rfl⟩

theorem Alternates.first_sleep (alternates : Alternates index trace) {between back : List ReconnectEvent} {next : Nat}
    (split : trace = between ++ .sleep next :: back) (awake : ∀ event ∈ between, event.isSleep = false) :
    ∃ established, between = [.connect index established] := by
  cases between with
  | nil =>
      rw [List.nil_append] at split
      subst split
      obtain ⟨_, impossible⟩ := alternates.head
      cases impossible
  | cons event between =>
      rw [List.cons_append] at split
      subst split
      obtain ⟨established, rfl⟩ := alternates.head
      cases between with
      | nil => exact ⟨established, rfl⟩
      | cons event between =>
          cases alternates with
          | slept _ rest =>
              have asleep := awake (.sleep index) (by simp)
              cases asleep

theorem Alternates.between_sleeps (alternates : Alternates index trace) {front between back : List ReconnectEvent}
    {current next : Nat} (split : trace = front ++ .sleep current :: (between ++ .sleep next :: back))
    (awake : ∀ event ∈ between, event.isSleep = false) :
    current = index ∧ ∃ established, between = [.connect index established] := by
  induction alternates generalizing front with
  | nil => simp at split
  | tried established =>
      have lengths := congrArg List.length split
      simp only [List.length_append, List.length_cons, List.length_nil] at lengths
      omega
  | slept established rest ih =>
      cases front with
      | nil => simp at split
      | cons first front =>
          cases front with
          | nil =>
              simp only [List.cons_append, List.nil_append, List.cons.injEq, ReconnectEvent.sleep.injEq] at split
              obtain ⟨_, same, later⟩ := split
              exact ⟨same.symm, rest.first_sleep later awake⟩
          | cons second front =>
              simp only [List.cons_append, List.cons.injEq] at split
              exact ih split.2.2

theorem Alternates.cyclic (alternates : Alternates index trace) (one : clients.length = 1) (first : index = 0) :
    Cyclic clients trace := by
  intro front current between next back split awake
  obtain ⟨rfl, established, rfl⟩ := alternates.between_sleeps split awake
  simp [cyclicAfter, one, ReconnectEvent.clientIndex, first]

theorem not_cyclic_of_two_sleeps {established : Bool} {back : List ReconnectEvent} (several : clients.length ≠ 1) :
    ¬Cyclic clients (.connect index false :: .sleep index :: .connect index established :: .sleep index :: back) := by
  intro cyclic
  have order := cyclic [.connect index false] index [.connect index established] index back rfl
    (by simp [ReconnectEvent.isSleep])
  have lengths := congrArg List.length order
  simp only [cyclicAfter, List.length_map, List.length_range, List.length_cons, List.length_nil] at lengths
  exact several lengths.symm

end Traces

section Steps

variable {clients : Clients} {surroundings : Surroundings} {state : Reconnecting} {trace : List ReconnectEvent}

theorem iterate_ended (ended : state.ending ≠ .running) (turns : Nat) :
    (Reconnecting.step clients surroundings)^[turns] state = state := by
  apply Function.iterate_fixed
  cases ending : state.ending with
  | running => exact absurd ending ended
  | returned value => simp [Reconnecting.step, ending]
  | raised exception => simp [Reconnecting.step, ending]

def Stopped (surroundings : Surroundings) (state : Reconnecting) : Prop :=
  state.module.isStopRequested = true ∨ surroundings.stops state.turn = true

theorem step_stopped (running : state.ending = .running) (stopped : Stopped surroundings state) :
    state.step clients surroundings =
      { state with
        module := { state.module with isStopRequested := true }
        ending := .returned state.module.client.isSome } := by
  have read : (state.module.isStopRequested || surroundings.stops state.turn) = true := by
    simpa [Stopped] using stopped
  simp [Reconnecting.step, running, Reconnecting.readStop, read, Reconnecting.finish]

structure Connected (trace : List ReconnectEvent) (state : Reconnecting) : Prop where
  client : state.module.client = some (.connected state.module.clientIndex)
  trace : state.trace = trace
  ends : state.ending ≠ .running ∨ state.module.isStopRequested = true

theorem Connected.step (connected : Connected trace state) : Connected trace (state.step clients surroundings) := by
  cases ending : state.ending with
  | running =>
      have requested := connected.ends.resolve_left (not_not_intro ending)
      rw [step_stopped ending (.inl requested)]
      exact ⟨connected.client, connected.trace, .inl (by simp)⟩
  | returned value => simpa [Reconnecting.step, ending] using connected
  | raised exception => simpa [Reconnecting.step, ending] using connected

theorem Connected.iterate (connected : Connected trace state) (turns : Nat) :
    Connected trace ((Reconnecting.step clients surroundings)^[turns] state) := by
  induction turns generalizing state with
  | zero => exact connected
  | succ turns ih => exact ih connected.step

theorem Connected.truthful {before : IccpImportModule} {index : Nat} (connected : Connected trace state)
    (tried : .connect index true ∈ trace) (cyclic : Cyclic clients trace) : Truthful clients before state where
  keepsTrying := fun _ => .inl ⟨index, by rw [connected.trace]; exact tried⟩
  cyclic := by rw [connected.trace]; exact cyclic
  truth := fun _ => connected.client

def establishedTrace (clients : Clients) (index : Nat) (subscription : Subscription) : List ReconnectEvent :=
  if subscription = .noTransferSets ∧ index = clients.length - 1 then [.connect index true, .sleep index]
  else [.connect index true]

theorem step_established (running : state.ending = .running) (goesOn : ¬Stopped surroundings state)
    {subscription : Subscription}
    (established : surroundings.connect state.turn state.module.clientIndex = .established subscription) :
    Connected (state.trace ++ establishedTrace clients state.module.clientIndex subscription)
      (state.step clients surroundings) := by
  simp only [Stopped, not_or, Bool.not_eq_true] at goesOn
  cases subscription with
  | started =>
      simp only [Reconnecting.step, running, Reconnecting.readStop, goesOn, Bool.or_self, Bool.false_eq_true,
        ↓reduceIte, Reconnecting.initializeModule, established, establishedTrace]
      exact ⟨rfl, by simp [Reconnecting.finish, Reconnecting.isEstablished], .inl (by simp [Reconnecting.finish])⟩
  | noTransferSets =>
      simp only [Reconnecting.step, running, Reconnecting.readStop, goesOn, Bool.or_self, Bool.false_eq_true,
        ↓reduceIte, Reconnecting.initializeModule, established, establishedTrace, true_and]
      split
      next last => exact ⟨rfl, by simp [Reconnecting.isEstablished], .inr rfl⟩
      next other =>
        exact ⟨rfl, by simp [Reconnecting.finish, Reconnecting.isEstablished], .inl (by simp [Reconnecting.finish])⟩
  | raised exception =>
      simp only [Reconnecting.step, running, Reconnecting.readStop, goesOn, Bool.or_self, Bool.false_eq_true,
        ↓reduceIte, Reconnecting.initializeModule, established, establishedTrace]
      exact ⟨rfl, by simp [Reconnecting.isEstablished], .inl (by simp)⟩

theorem step_raised (running : state.ending = .running) (goesOn : ¬Stopped surroundings state)
    {exception : SystemException}
    (raises : surroundings.connect state.turn state.module.clientIndex = .raised exception) :
    (state.step clients surroundings).ending = .raised exception ∧
      (state.step clients surroundings).trace = state.trace ++ [.connect state.module.clientIndex false] ∧
      (state.step clients surroundings).module.isStopRequested = false := by
  simp only [Stopped, not_or, Bool.not_eq_true] at goesOn
  simp [Reconnecting.step, running, Reconnecting.readStop, goesOn, Reconnecting.initializeModule, raises,
    Reconnecting.isEstablished]

theorem step_failed_last (running : state.ending = .running) (goesOn : ¬Stopped surroundings state)
    (failed : surroundings.connect state.turn state.module.clientIndex = .failed)
    (last : state.module.clientIndex = clients.length - 1) :
    state.step clients surroundings =
      { module := ⟨state.module.clientIndex, some .created, true, false⟩
        turn := state.turn + 1
        trace := state.trace ++ [.connect state.module.clientIndex false, .sleep state.module.clientIndex]
        ending := .running } := by
  simp only [Stopped, not_or, Bool.not_eq_true] at goesOn
  simp only [Reconnecting.step, running, Reconnecting.readStop, goesOn, Bool.or_self, Bool.false_eq_true,
    ↓reduceIte, Reconnecting.initializeModule, failed, Reconnecting.isEstablished]
  rw [if_pos last, List.append_assoc]
  rfl

theorem step_failed_other (running : state.ending = .running) (goesOn : ¬Stopped surroundings state)
    (failed : surroundings.connect state.turn state.module.clientIndex = .failed)
    (other : state.module.clientIndex ≠ clients.length - 1) :
    (state.step clients surroundings).ending = .returned true ∧
      (state.step clients surroundings).module.client = some .created := by
  simp only [Stopped, not_or, Bool.not_eq_true] at goesOn
  simp [Reconnecting.step, running, Reconnecting.readStop, goesOn, Reconnecting.initializeModule, failed, other,
    Reconnecting.finish]

end Steps

section Runs

variable {clients : Clients} {surroundings : Surroundings} {module : IccpImportModule}

def Quiet (surroundings : Surroundings) (index turn : Nat) : Prop :=
  surroundings.stops turn = false ∧ surroundings.connect turn index = .failed

instance (surroundings : Surroundings) (index turn : Nat) : Decidable (Quiet surroundings index turn) := by
  unfold Quiet
  infer_instance

def failures (index : Nat) : Nat → List ReconnectEvent
  | 0 => []
  | turns + 1 => .connect index false :: .sleep index :: failures index turns

theorem failures_succ (index turns : Nat) :
    failures index (turns + 1) = failures index turns ++ [.connect index false, .sleep index] := by
  induction turns with
  | zero => rfl
  | succ turns ih =>
      calc failures index (turns + 2)
        _ = .connect index false :: .sleep index :: failures index (turns + 1) := rfl
        _ = .connect index false :: .sleep index ::
            (failures index turns ++ [.connect index false, .sleep index]) := by rw [ih]
        _ = failures index (turns + 1) ++ [.connect index false, .sleep index] := rfl

theorem Alternates.failures_append {index : Nat} {trace : List ReconnectEvent} (alternates : Alternates index trace)
    (turns : Nat) : Alternates index (failures index turns ++ trace) := by
  induction turns with
  | zero => exact alternates
  | succ turns ih => exact ih.slept false

def waiting (index turns : Nat) : Reconnecting where
  module := ⟨index, some .created, true, false⟩
  turn := turns
  trace := failures index turns
  ending := .running

def StartsQuiet (clients : Clients) (surroundings : Surroundings) (module : IccpImportModule) : Prop :=
  module.isStopRequested = false ∧ Quiet surroundings (nextIndex clients module.clientIndex) 0

theorem reconnect_succ (turns : Nat) :
    reconnect clients surroundings module (turns + 1) =
      (reconnect clients surroundings module turns).step clients surroundings :=
  Function.iterate_succ_apply' ..

theorem reconnect_add (turns more : Nat) :
    reconnect clients surroundings module (turns + more) =
      (Reconnecting.step clients surroundings)^[more] (reconnect clients surroundings module turns) := by
  rw [reconnect, reconnect, Nat.add_comm, Function.iterate_add_apply]

theorem reconnect_waiting (starts : StartsQuiet clients surroundings module)
    (last : nextIndex clients module.clientIndex = clients.length - 1) {turns : Nat}
    (quiet : ∀ turn, 0 < turn → turn ≤ turns → Quiet surroundings (nextIndex clients module.clientIndex) turn) :
    reconnect clients surroundings module (turns + 1) = waiting (nextIndex clients module.clientIndex) (turns + 1) := by
  induction turns with
  | zero =>
      obtain ⟨unrequested, unseen, failed⟩ := starts
      have goesOn : ¬Stopped surroundings (start clients module) := by
        simp [Stopped, start, unrequested, unseen]
      rw [reconnect_succ]
      exact step_failed_last rfl goesOn failed last
  | succ turns ih =>
      rw [reconnect_succ, ih (fun turn positive bound => quiet turn positive (by omega))]
      obtain ⟨unseen, failed⟩ := quiet (turns + 1) (by omega) (by omega)
      have goesOn : ¬Stopped surroundings (waiting (nextIndex clients module.clientIndex) (turns + 1)) := by
        simp [Stopped, waiting, unseen]
      rw [step_failed_last rfl goesOn failed last]
      simp only [waiting, failures_succ _ (turns + 1)]

theorem connect_true_notMem_failures (index turns clientIndex : Nat) :
    .connect clientIndex true ∉ failures index turns := by
  induction turns with
  | zero => simp [failures]
  | succ turns ih => simpa [failures] using ih

theorem waiting_truthful_iff (index turns : Nat) :
    Truthful clients module (waiting index turns) ↔ Cyclic clients (failures index turns) := by
  constructor
  · exact Truthful.cyclic
  · intro cyclic
    exact ⟨by simp [waiting], cyclic, by simp [waiting]⟩

theorem Connected.truthful_of_failures {state : Reconnecting} {index turns : Nat} {subscription : Subscription}
    (connected : Connected (failures index turns ++ establishedTrace clients index subscription) state)
    (cyclic : Cyclic clients (failures index turns ++ establishedTrace clients index subscription)) :
    Truthful clients module state := by
  refine (@Connected.truthful _ _ _ _ index connected) ?_ cyclic
  rw [List.mem_append]
  right
  rw [establishedTrace]
  split <;> simp

theorem reconnect_connected {turns index : Nat} {state : Reconnecting}
    (reached : reconnect clients surroundings module turns = state) (running : state.ending = .running)
    (goesOn : ¬Stopped surroundings state) (at_ : state.module.clientIndex = index) {subscription : Subscription}
    (established : surroundings.connect state.turn index = .established subscription) (more : Nat) :
    Connected (state.trace ++ establishedTrace clients index subscription)
      (reconnect clients surroundings module (turns + 1 + more)) := by
  subst at_
  rw [reconnect_add, reconnect_succ, reached]
  exact (step_established running goesOn established).iterate more

theorem start_truthful : Truthful clients module (reconnect clients surroundings module 0) where
  keepsTrying := fun ended => absurd rfl ended
  cyclic := cyclic_of_one_sleep (by simp [reconnect, start])
  truth := by
    rintro (returned | ⟨before, after⟩)
    · cases returned
    · have same : (reconnect clients surroundings module 0).module.reconnect = module.reconnect := rfl
      rw [same, before] at after
      cases after

theorem stopped_truthful_iff (stopped : Stopped surroundings (start clients module)) :
    (∀ turns, Truthful clients module (reconnect clients surroundings module turns)) ↔
      (module.client = none ∨ module.client = some (.connected (nextIndex clients module.clientIndex))) := by
  have after := (@step_stopped clients) rfl stopped
  have ended : reconnect clients surroundings module 1 = _ := after
  constructor
  · intro truthful
    have truth := (truthful 1).truth
    rw [ended] at truth
    cases client : module.client with
    | none => exact .inl rfl
    | some object =>
        have returned := truth (.inl (by simp [start, client]))
        simp only [start, client] at returned
        exact .inr returned
  · intro settled turns
    cases turns with
    | zero => exact start_truthful
    | succ turns =>
        rw [Nat.add_comm, reconnect_add, ended, iterate_ended (by simp)]
        refine ⟨fun _ => .inr rfl, cyclic_of_one_sleep (by simp [start]), ?_⟩
        rintro (returned | ⟨before, left⟩)
        · rcases settled with missing | connected
          · simp [start, missing] at returned
          · simp [start, connected]
        · simp [start, before] at left

theorem established_truthful (goesOn : ¬Stopped surroundings (start clients module)) {subscription : Subscription}
    (established : surroundings.connect 0 (nextIndex clients module.clientIndex) = .established subscription)
    (turns : Nat) : Truthful clients module (reconnect clients surroundings module turns) := by
  cases turns with
  | zero => exact start_truthful
  | succ turns =>
      have connected := (@reconnect_connected _ _ _ 0 _ (start clients module)) rfl rfl goesOn rfl
        established turns
      rw [Nat.add_comm turns 1]
      refine (@Connected.truthful_of_failures _ _ _ _ 0) connected (cyclic_of_one_sleep ?_)
      rw [establishedTrace]
      split
      · exact Nat.le_refl 1
      · exact Nat.zero_le 1

theorem raised_not_truthful {turns index : Nat} {state : Reconnecting}
    (reached : reconnect clients surroundings module turns = state) (running : state.ending = .running)
    (goesOn : ¬Stopped surroundings state) (at_ : state.module.clientIndex = index) {exception : SystemException}
    (raises : surroundings.connect state.turn index = .raised exception)
    (nothing : ∀ clientIndex, .connect clientIndex true ∉ state.trace) :
    ¬Truthful clients module (reconnect clients surroundings module (turns + 1)) := by
  intro truthful
  subst at_
  obtain ⟨ending, trace, unrequested⟩ := (@step_raised clients) running goesOn raises
  have keeps := truthful.keepsTrying
  rw [reconnect_succ, reached, ending, trace, unrequested] at keeps
  obtain ⟨clientIndex, tried⟩ | requested := keeps (by simp)
  · simp only [List.mem_append, List.mem_singleton, ReconnectEvent.connect.injEq, Bool.true_eq_false, and_false,
      or_false] at tried
    exact nothing clientIndex tried
  · cases requested

theorem stop_not_truthful {turns : Nat} {state : Reconnecting}
    (reached : reconnect clients surroundings module turns = state) (running : state.ending = .running)
    (stopped : Stopped surroundings state) (unconnected : state.module.client = some .created) :
    ¬Truthful clients module (reconnect clients surroundings module (turns + 1)) := by
  intro truthful
  have truth := truthful.truth
  rw [reconnect_succ, reached, step_stopped running stopped] at truth
  have client := truth (.inl (by simp [unconnected]))
  simp [unconnected] at client

end Runs

section Condition

variable (clients : Clients) (surroundings : Surroundings) (module : IccpImportModule)

def UndisturbedUntilConnected (surroundings : Surroundings) : Prop :=
  ∀ turn, 0 < turn → (∀ earlier, 0 < earlier → earlier < turn → Quiet surroundings 0 earlier) →
    surroundings.stops turn = false ∧ ∀ exception, surroundings.connect turn 0 ≠ .raised exception

def ConnectedAtSecondTry (surroundings : Surroundings) (index : Nat) : Prop :=
  surroundings.stops 1 = false ∧
    ∃ subscription, surroundings.connect 1 index = .established subscription ∧ subscription ≠ .noTransferSets

def KeepsPromises : Prop :=
  if module.isStopRequested = true ∨ surroundings.stops 0 = true then
    module.client = none ∨ module.client = some (.connected (nextIndex clients module.clientIndex))
  else
    match surroundings.connect 0 (nextIndex clients module.clientIndex) with
    | .established _ => True
    | .raised _ => False
    | .failed => nextIndex clients module.clientIndex = clients.length - 1 ∧
        if clients.length = 1 then UndisturbedUntilConnected surroundings
        else ConnectedAtSecondTry surroundings (nextIndex clients module.clientIndex)

end Condition

section Failures

variable {clients : Clients} {surroundings : Surroundings} {module : IccpImportModule}

theorem StartsQuiet.goesOn (starts : StartsQuiet clients surroundings module) :
    ¬Stopped surroundings (start clients module) := by
  simp [Stopped, start, starts.1, starts.2.1]

theorem failed_other_not_truthful (starts : StartsQuiet clients surroundings module)
    (other : nextIndex clients module.clientIndex ≠ clients.length - 1) :
    ¬Truthful clients module (reconnect clients surroundings module 1) := by
  intro truthful
  obtain ⟨returned, client⟩ := (@step_failed_other clients _ (start clients module)) rfl starts.goesOn
    starts.2.2 other
  have connected := truthful.truth (.inl returned)
  rw [show (reconnect clients surroundings module 1).module.client = some .created from client] at connected
  cases connected

theorem several_truthful_iff (starts : StartsQuiet clients surroundings module)
    (last : nextIndex clients module.clientIndex = clients.length - 1) (several : clients.length ≠ 1) :
    (∀ turns, Truthful clients module (reconnect clients surroundings module turns)) ↔
      ConnectedAtSecondTry surroundings (nextIndex clients module.clientIndex) := by
  have first := @reconnect_waiting clients surroundings module starts last 0 (by omega)
  constructor
  · intro truthful
    cases stops : surroundings.stops 1 with
    | true => exact absurd (truthful 2) (stop_not_truthful first rfl (.inr stops) rfl)
    | false =>
        have goesOn : ¬Stopped surroundings (waiting (nextIndex clients module.clientIndex) 1) := by
          simp [Stopped, waiting, stops]
        cases outcome : surroundings.connect 1 (nextIndex clients module.clientIndex) with
        | raised exception =>
            exact absurd (truthful 2)
              (raised_not_truthful first rfl goesOn rfl outcome (connect_true_notMem_failures _ 1))
        | failed =>
            have second := @reconnect_waiting clients surroundings module starts last 1 (by
              intro turn positive bound
              obtain rfl : turn = 1 := by omega
              exact ⟨stops, outcome⟩)
            have cyclic := (truthful 2).cyclic
            rw [second] at cyclic
            exact absurd cyclic (not_cyclic_of_two_sleeps several)
        | established subscription =>
            refine ⟨stops, subscription, outcome, ?_⟩
            rintro rfl
            have connected := reconnect_connected first rfl goesOn rfl outcome 0
            have cyclic := (truthful 2).cyclic
            rw [connected.trace, establishedTrace, if_pos ⟨rfl, last⟩] at cyclic
            exact absurd cyclic (not_cyclic_of_two_sleeps several)
  · rintro ⟨stops, subscription, outcome, has⟩ turns
    have goesOn : ¬Stopped surroundings (waiting (nextIndex clients module.clientIndex) 1) := by
      simp [Stopped, waiting, stops]
    match turns with
    | 0 => exact start_truthful
    | 1 =>
        rw [first, waiting_truthful_iff]
        exact cyclic_of_one_sleep (Nat.le_refl 1)
    | more + 2 =>
        have connected := reconnect_connected first rfl goesOn rfl outcome more
        rw [Nat.add_comm more 2]
        refine (@Connected.truthful_of_failures _ _ _ _ 1) connected (cyclic_of_one_sleep ?_)
        rw [establishedTrace, if_neg (fun none => has none.1)]
        exact Nat.le_refl 1

theorem one_truthful_iff (starts : StartsQuiet clients surroundings module)
    (last : nextIndex clients module.clientIndex = clients.length - 1) (one : clients.length = 1) :
    (∀ turns, Truthful clients module (reconnect clients surroundings module turns)) ↔
      UndisturbedUntilConnected surroundings := by
  have index : nextIndex clients module.clientIndex = 0 := by omega
  have cyclic (turns : Nat) (trace : List ReconnectEvent) (alternates : Alternates 0 trace) :
      Cyclic clients (failures 0 turns ++ trace) := (alternates.failures_append turns).cyclic one rfl
  have waits (turns : Nat) (quiet : ∀ earlier, 0 < earlier → earlier ≤ turns → Quiet surroundings 0 earlier) :
      reconnect clients surroundings module (turns + 1) = waiting 0 (turns + 1) := by
    have reached := @reconnect_waiting clients surroundings module starts last turns (by rw [index]; exact quiet)
    rw [index] at reached
    exact reached
  constructor
  · intro truthful turn positive quiet
    obtain ⟨turn, rfl⟩ := Nat.exists_eq_succ_of_ne_zero (Nat.ne_of_gt positive)
    have reached := waits turn (fun earlier positive bound => quiet earlier positive (by omega))
    cases stops : surroundings.stops (turn + 1) with
    | true => exact absurd (truthful (turn + 2)) (stop_not_truthful reached rfl (.inr stops) rfl)
    | false =>
        have goesOn : ¬Stopped surroundings (waiting 0 (turn + 1)) := by simp [Stopped, waiting, stops]
        refine ⟨rfl, fun exception raises => ?_⟩
        exact absurd (truthful (turn + 2))
          (raised_not_truthful reached rfl goesOn rfl raises (connect_true_notMem_failures _ _))
  · intro undisturbed turns
    by_cases quiet : ∀ turn, 0 < turn → turn < turns → Quiet surroundings 0 turn
    · cases turns with
      | zero => exact start_truthful
      | succ turns =>
          rw [waits turns (fun turn positive bound => quiet turn positive (by omega)), waiting_truthful_iff]
          have alternating := cyclic (turns + 1) [] .nil
          rwa [List.append_nil] at alternating
    · -- The first turn that is not quiet gets the connection.
      have disturbed : ∃ turn, 0 < turn ∧ turn < turns ∧ ¬Quiet surroundings 0 turn := by
        simpa only [not_forall, exists_prop] using quiet
      classical
      obtain ⟨positive, bound, notQuiet⟩ := Nat.find_spec disturbed
      have before : ∀ earlier, 0 < earlier → earlier < Nat.find disturbed → Quiet surroundings 0 earlier := by
        intro earlier positive earlierThan
        by_contra noisy
        exact Nat.find_min disturbed earlierThan ⟨positive, by omega, noisy⟩
      obtain ⟨stops, noException⟩ := undisturbed _ positive before
      obtain ⟨turn, found⟩ := Nat.exists_eq_succ_of_ne_zero (Nat.ne_of_gt positive)
      rw [found] at bound notQuiet before stops noException
      have reached := waits turn (fun earlier positive bound => before earlier positive (by omega))
      have goesOn : ¬Stopped surroundings (waiting 0 (turn + 1)) := by simp [Stopped, waiting, stops]
      cases outcome : surroundings.connect (turn + 1) 0 with
      | raised exception => exact absurd outcome (noException exception)
      | failed => exact absurd ⟨stops, outcome⟩ notQuiet
      | established subscription =>
          have connected := reconnect_connected reached rfl goesOn rfl outcome (turns - (turn + 2))
          have same : turn + 1 + 1 + (turns - (turn + 2)) = turns := by omega
          rw [same] at connected
          refine Connected.truthful_of_failures connected (cyclic (turn + 1) _ ?_)
          rw [establishedTrace]
          split
          · exact .slept true .nil
          · exact .tried true

/-- Exactly when `Reconnect` tries every server and reports the truth. -/
theorem reconnect_truthful_iff (clients : Clients) (surroundings : Surroundings) (module : IccpImportModule) :
    (∀ turns, Truthful clients module (reconnect clients surroundings module turns)) ↔
      KeepsPromises clients surroundings module := by
  unfold KeepsPromises
  split
  next stopped => exact stopped_truthful_iff stopped
  next goesOn =>
    split
    next subscription established =>
      exact iff_of_true (established_truthful goesOn established) trivial
    next exception raises =>
      simp only [iff_false]
      intro truthful
      exact (@raised_not_truthful _ _ _ 0) rfl rfl goesOn rfl raises (fun _ => List.not_mem_nil) (truthful 1)
    next failed =>
      simp only [not_or, Bool.not_eq_true] at goesOn
      have starts : StartsQuiet clients surroundings module := ⟨goesOn.1, goesOn.2, failed⟩
      by_cases last : nextIndex clients module.clientIndex = clients.length - 1
      · simp only [last, true_and]
        split
        next one => exact one_truthful_iff starts last one
        next several =>
          rw [← last]
          exact several_truthful_iff starts last several
      · simp only [last, false_and, iff_false]
        intro truthful
        exact failed_other_not_truthful starts last (truthful 1)

def nobodyAnswers : Surroundings := ⟨fun _ _ => .failed, fun _ => false⟩

def twoClients : Clients := ⟨2, by decide⟩

def closed : IccpImportModule := ⟨1, none, true, false⟩

theorem reconnect_not_always_truthful :
    ¬∀ (clients : Clients) (surroundings : Surroundings) (module : IccpImportModule) (turns : Nat),
      Truthful clients module (reconnect clients surroundings module turns) := by
  intro always
  have truth := (always twoClients nobodyAnswers closed 1).truth (.inl rfl)
  cases truth

end Failures

end ServiceHost.DataExchange.IccpReconnect
