import ServiceHost.Metering.AgreementTable

/-!
What a turn of the loop over the table of registers does to the registers, the lookups and
the keys, and what the loop does.
-/

namespace ServiceHost.Metering

open Library

section Orders

def ordersFor (agreement : Agreement) (register : Register) : List Commodity :=
  if register.wayOfRegistration = WayOfRegistrationType.accumulative then
    (getMeterReadingCommodities agreement).filter fun mrc =>
      matchesRegister ProductCodeType.meterReadingAll mrc register
  else
    (getConsumptionCommodities agreement).filter fun cc =>
      matchesRegister ProductCodeType.consumptionAll cc register

def Activates (agreement : Agreement) (register : Register) : Prop :=
  register.state = Register.inactive ∧ ordersFor agreement register ≠ []

instance (agreement : Agreement) (register : Register) : Decidable (Activates agreement register) :=
  inferInstanceAs (Decidable (_ ∧ _))

def afterOrders (agreement : Agreement) (register : Register) : Register :=
  if Activates agreement register then register.activated else register

def exportStarts (orders : List Commodity) (exportStartTime : UtcTime) : Except SystemException UtcTime :=
  orders.foldlM (fun time mrc => exportStart time mrc.validFromDate) exportStartTime

def TimesCompare (agreement : Agreement) (register : Register) : Prop :=
  register.wayOfRegistration = WayOfRegistrationType.accumulative →
    (exportStarts (ordersFor agreement register) UtcTime.null).toOption.isSome = true

instance (agreement : Agreement) (register : Register) : Decidable (TimesCompare agreement register) :=
  inferInstanceAs (Decidable (_ → _))

def OrdersPass (services : Services) (agreement : Agreement) (id : Nat) (register : Register) : Prop :=
  (Activates agreement register → services.fails (.updateRegister id) = none) ∧ TimesCompare agreement register

theorem getProductCode_activated (register : Register) :
    getProductCode register.activated = getProductCode register := by
  have kept : ∀ field, field ≠ Register.Field.state →
      register.activated.value field = register.value field :=
    fun field other => Register.activated_value register other
  unfold getProductCode Register.wayOfRegistration Register.meteringFunctionCode Register.directionOfFlow
    Register.measureUnitCode
  rw [kept _ (by decide), kept _ (by decide), kept _ (by decide), kept _ (by decide)]

theorem matchesRegister_activated (all : Int) (commodity : Commodity) (register : Register) :
    matchesRegister all commodity register.activated = matchesRegister all commodity register := by
  rw [matchesRegister, matchesRegister, getProductCode_activated]

variable {services : Services} {agreement : Agreement} {registers : List Register} {id : Nat} {world : World}

def activatedWorld (registers : List Register) (id : Nat) (world : World) : World :=
  { world with
    registers := world.registers.set id (objectOf registers id).activated
    lookups := world.lookups ++ [(id, some (objectOf registers id).key)] }

structure Fresh (registers : List Register) (id : Nat) (world : World) : Prop where
  now : Current registers world.registers
  inside : id < registers.length
  entered : objectOf world.registers id = objectOf registers id

theorem Fresh.current_activated (fresh : Fresh registers id world)
    (inactive : (objectOf registers id).state = Register.inactive) :
    Current registers (activatedWorld registers id world).registers :=
  fresh.now.activate fresh.inside inactive

theorem Fresh.objectOf_activated (fresh : Fresh registers id world) :
    objectOf (activatedWorld registers id world).registers id = (objectOf registers id).activated :=
  objectOf_set_self _ (fresh.now.length ▸ fresh.inside)

theorem activateIfInactive_of_other {slots : List Slot}
    (other : (objectOf world.registers id).state ≠ Register.inactive) :
    activateIfInactive services slots id world = (.ok (), world) := by
  rw [activateIfInactive, Program.bind_of_ok (Program.read_run _ world), if_neg other]
  rfl

theorem updateRegister_run {meter : Int} (hasKey : (objectOf world.registers id).key ≠ 0) :
    updateRegister services id meter world = services.call (.updateRegister id) world := by
  rw [updateRegister, Program.bind_of_ok (Program.read_run _ world), if_neg hasKey]

theorem call_run (services : Services) (step : Step) (world : World) :
    services.call step world =
      (match services.fails step with | none => .ok () | some fault => .error fault, world) := by
  unfold Services.call
  cases services.fails step <;> rfl

theorem activateIfInactive_run (enterable : Enterable registers) (hasKey : (objectOf registers id).key ≠ 0)
    (fresh : Fresh registers id world) (inactive : (objectOf registers id).state = Register.inactive) :
    activateIfInactive services (tableOf services.hash registers).slots id world =
      (match services.fails (.updateRegister id) with | none => .ok () | some fault => .error fault,
        activatedWorld registers id world) := by
  obtain ⟨meter, looked, found, -⟩ := lookUp_run services enterable fresh.now fresh.inside
  have finds := (@finds_of_unchanged services.hash) fresh.inside fresh.entered
  rw [found finds] at looked
  have inactiveNow : (objectOf world.registers id).state = Register.inactive := fresh.entered ▸ inactive
  have keyed : (objectOf (activatedWorld registers id world).registers id).key ≠ 0 := by
    rw [fresh.objectOf_activated, Register.activated_key]
    exact hasKey
  rw [activateIfInactive, Program.bind_of_ok (Program.read_run _ world), if_pos inactiveNow,
    Program.bind_of_ok looked, activateRegister, Program.bind_of_ok (Program.change_run _ _), fresh.entered]
  exact (updateRegister_run keyed).trans (call_run services _ _)

theorem orSystem_run {A : Type} (outcome : Except SystemException A) (world : World) :
    orSystem outcome world = (outcome.mapError .system, world) := rfl

theorem meterReadingLoop_of_other {slots : List Slot} {register : Register}
    (now : objectOf world.registers id = register) (other : register.state ≠ Register.inactive)
    (commodities : List Commodity) (time : UtcTime) :
    meterReadingLoop services slots id commodities time world =
      ((exportStarts (commodities.filter fun mrc =>
        matchesRegister ProductCodeType.meterReadingAll mrc register) time).mapError .system, world) := by
  induction commodities generalizing time with
  | nil => rfl
  | cons mrc rest ih =>
      rw [meterReadingLoop, Program.bind_of_ok (Program.read_run _ world), now]
      by_cases fits : matchesRegister ProductCodeType.meterReadingAll mrc register = true
      · rw [if_pos fits, List.filter_cons, if_pos fits,
          Program.bind_of_ok (activateIfInactive_of_other (now ▸ other)), exportStarts, List.foldlM_cons]
        cases compared : exportStart time mrc.validFromDate with
        | ok next =>
            rw [Program.bind_of_ok (orSystem_run _ world)]
            exact ih next
        | error exception => rw [Program.bind_of_error (orSystem_run _ world)]; rfl
      · rw [if_neg fits, List.filter_cons, if_neg fits]
        exact ih time

theorem meterReadingLoop_of_inactive (enterable : Enterable registers)
    (hasKey : (objectOf registers id).key ≠ 0) (fresh : Fresh registers id world)
    (inactive : (objectOf registers id).state = Register.inactive) (commodities : List Commodity)
    (time : UtcTime) {orders : List Commodity}
    (isOrders : commodities.filter (fun mrc =>
      matchesRegister ProductCodeType.meterReadingAll mrc (objectOf registers id)) = orders) :
    meterReadingLoop services (tableOf services.hash registers).slots id commodities time world =
      if orders = [] then (.ok time, world)
      else (match services.fails (.updateRegister id) with
        | none => (exportStarts orders time).mapError .system
        | some fault => .error fault, activatedWorld registers id world) := by
  induction commodities with
  | nil =>
      rw [← isOrders]
      rfl
  | cons mrc rest ih =>
      rw [meterReadingLoop, Program.bind_of_ok (Program.read_run _ world), fresh.entered]
      by_cases fits : matchesRegister ProductCodeType.meterReadingAll mrc (objectOf registers id) = true
      · have activation := (@activateIfInactive_run services) enterable hasKey fresh inactive
        rw [List.filter_cons, if_pos fits] at isOrders
        rw [if_pos fits, if_neg (isOrders ▸ List.cons_ne_nil _ _)]
        cases fails : services.fails (.updateRegister id) with
        | some fault =>
            rw [fails] at activation
            rw [Program.bind_of_error activation]
        | none =>
            rw [fails] at activation
            rw [Program.bind_of_ok activation, ← isOrders, exportStarts, List.foldlM_cons]
            have active : (objectOf registers id).activated.state ≠ Register.inactive := by
              rw [Register.activated_state]
              decide
            cases compared : exportStart time mrc.validFromDate with
            | ok next =>
                rw [Program.bind_of_ok (orSystem_run _ _)]
                refine (meterReadingLoop_of_other fresh.objectOf_activated active rest next).trans ?_
                simp only [matchesRegister_activated]
                rfl
            | error exception => rw [Program.bind_of_error (orSystem_run _ _)]; rfl
      · rw [List.filter_cons, if_neg fits] at isOrders
        rw [if_neg fits]
        exact ih isOrders

theorem consumptionLoop_of_other {slots : List Slot}
    (other : (objectOf world.registers id).state ≠ Register.inactive) (commodities : List Commodity) :
    Program.forEach (consumptionLoop services slots id) commodities world = (.ok (), world) := by
  induction commodities with
  | nil => rfl
  | cons cc rest ih =>
      have turn : consumptionLoop services slots id cc world = (.ok (), world) := by
        rw [consumptionLoop, Program.bind_of_ok (Program.read_run _ world)]
        split
        · exact activateIfInactive_of_other other
        · rfl
      rw [Program.forEach, Program.bind_of_ok turn, ih]

theorem consumptionLoop_of_inactive (enterable : Enterable registers)
    (hasKey : (objectOf registers id).key ≠ 0) (fresh : Fresh registers id world)
    (inactive : (objectOf registers id).state = Register.inactive) (commodities : List Commodity) :
    Program.forEach (consumptionLoop services (tableOf services.hash registers).slots id) commodities world =
      if commodities.filter (fun cc =>
          matchesRegister ProductCodeType.consumptionAll cc (objectOf registers id)) = [] then (.ok (), world)
      else (match services.fails (.updateRegister id) with | none => .ok () | some fault => .error fault,
        activatedWorld registers id world) := by
  induction commodities with
  | nil => rfl
  | cons cc rest ih =>
      rw [Program.forEach]
      by_cases fits : matchesRegister ProductCodeType.consumptionAll cc (objectOf registers id) = true
      · have turn : consumptionLoop services (tableOf services.hash registers).slots id cc world =
            (match services.fails (.updateRegister id) with | none => .ok () | some fault => .error fault,
              activatedWorld registers id world) := by
          rw [consumptionLoop, Program.bind_of_ok (Program.read_run _ world), fresh.entered, if_pos fits]
          exact activateIfInactive_run enterable hasKey fresh inactive
        rw [List.filter_cons, if_pos fits, if_neg (List.cons_ne_nil _ _)]
        cases fails : services.fails (.updateRegister id) with
        | some fault =>
            rw [fails] at turn
            rw [Program.bind_of_error turn]
        | none =>
            rw [fails] at turn
            rw [Program.bind_of_ok turn]
            refine consumptionLoop_of_other ?_ rest
            rw [fresh.objectOf_activated, Register.activated_state]
            decide
      · have turn : consumptionLoop services (tableOf services.hash registers).slots id cc world =
            (.ok (), world) := by
          rw [consumptionLoop, Program.bind_of_ok (Program.read_run _ world), fresh.entered, if_neg fits]
          rfl
        rw [List.filter_cons, if_neg fits, Program.bind_of_ok turn]
        exact ih

def ordersWorld (agreement : Agreement) (registers : List Register) (id : Nat) (world : World) : World :=
  if Activates agreement (objectOf registers id) then activatedWorld registers id world else world

theorem ordersFor_eq_of_accumulative {register : Register}
    (accumulative : register.wayOfRegistration = WayOfRegistrationType.accumulative) :
    ordersFor agreement register = (getMeterReadingCommodities agreement).filter fun mrc =>
      matchesRegister ProductCodeType.meterReadingAll mrc register := if_pos accumulative

theorem ordersFor_eq_of_differential {register : Register}
    (differential : register.wayOfRegistration ≠ WayOfRegistrationType.accumulative) :
    ordersFor agreement register = (getConsumptionCommodities agreement).filter fun cc =>
      matchesRegister ProductCodeType.consumptionAll cc register := if_neg differential

theorem meterReadingLoop_run (enterable : Enterable registers) (hasKey : (objectOf registers id).key ≠ 0)
    (fresh : Fresh registers id world)
    (accumulative : (objectOf registers id).wayOfRegistration = WayOfRegistrationType.accumulative) :
    ∃ outcome, meterReadingLoop services (tableOf services.hash registers).slots id
        (getMeterReadingCommodities agreement) UtcTime.null world =
          (outcome, ordersWorld agreement registers id world) ∧
      ((∃ time, outcome = .ok time) ↔ OrdersPass services agreement id (objectOf registers id)) := by
  have times : TimesCompare agreement (objectOf registers id) ↔
      ∃ time, exportStarts (ordersFor agreement (objectOf registers id)) UtcTime.null = .ok time := by
    rw [TimesCompare, forall_prop_of_true accumulative]
    cases exportStarts (ordersFor agreement (objectOf registers id)) UtcTime.null <;> simp [Except.toOption]
  have orders := (@ordersFor_eq_of_accumulative agreement) accumulative
  unfold OrdersPass
  rw [times]
  by_cases activates : Activates agreement (objectOf registers id)
  · have loop := (@meterReadingLoop_of_inactive services) enterable hasKey fresh activates.1
      (getMeterReadingCommodities agreement) UtcTime.null orders.symm
    rw [if_neg activates.2] at loop
    rw [ordersWorld, if_pos activates, forall_prop_of_true activates]
    refine ⟨_, loop, ?_⟩
    cases services.fails (.updateRegister id) with
    | some fault => simp
    | none =>
        cases exportStarts (ordersFor agreement (objectOf registers id)) UtcTime.null <;>
          simp [Except.mapError]
  · rw [ordersWorld, if_neg activates, forall_prop_of_false activates, true_and]
    by_cases inactive : (objectOf registers id).state = Register.inactive
    · have none : ordersFor agreement (objectOf registers id) = [] :=
        of_not_not fun some => activates ⟨inactive, some⟩
      have loop := (@meterReadingLoop_of_inactive services) enterable hasKey fresh inactive
        (getMeterReadingCommodities agreement) UtcTime.null orders.symm
      rw [if_pos none] at loop
      exact ⟨_, loop, by simp [none, exportStarts, pure_eq_ok]⟩
    · refine ⟨_, meterReadingLoop_of_other fresh.entered inactive _ _, ?_⟩
      rw [← orders]
      cases exportStarts (ordersFor agreement (objectOf registers id)) UtcTime.null <;>
        simp [Except.mapError]

theorem consumptionLoops_run (enterable : Enterable registers) (hasKey : (objectOf registers id).key ≠ 0)
    (fresh : Fresh registers id world)
    (differential : (objectOf registers id).wayOfRegistration ≠ WayOfRegistrationType.accumulative) :
    ∃ outcome, Program.forEach (consumptionLoop services (tableOf services.hash registers).slots id)
        (getConsumptionCommodities agreement) world = (outcome, ordersWorld agreement registers id world) ∧
      (outcome = .ok () ↔ OrdersPass services agreement id (objectOf registers id)) := by
  have times : TimesCompare agreement (objectOf registers id) :=
    fun accumulative => absurd accumulative differential
  have orders := (@ordersFor_eq_of_differential agreement) differential
  unfold OrdersPass
  rw [and_iff_left times]
  by_cases inactive : (objectOf registers id).state = Register.inactive
  · have loop := (@consumptionLoop_of_inactive services) enterable hasKey fresh inactive
      (getConsumptionCommodities agreement)
    rw [← orders] at loop
    by_cases none : ordersFor agreement (objectOf registers id) = []
    · have keeps : ¬Activates agreement (objectOf registers id) := fun activates => activates.2 none
      rw [if_pos none] at loop
      rw [ordersWorld, if_neg keeps]
      exact ⟨_, loop, by simp [keeps]⟩
    · have activates : Activates agreement (objectOf registers id) := ⟨inactive, none⟩
      rw [if_neg none] at loop
      rw [ordersWorld, if_pos activates, forall_prop_of_true activates]
      refine ⟨_, loop, ?_⟩
      cases services.fails (.updateRegister id) <;> simp
  · have keeps : ¬Activates agreement (objectOf registers id) := fun activates => inactive activates.1
    rw [ordersWorld, if_neg keeps]
    have loop := (@consumptionLoop_of_other services id world ((tableOf services.hash registers).slots)) (fresh.entered ▸ inactive)
      (getConsumptionCommodities agreement)
    exact ⟨_, loop, by simp [keeps]⟩

theorem goThroughCommodities_run (enterable : Enterable registers) (hasKey : (objectOf registers id).key ≠ 0)
    (fresh : Fresh registers id world) :
    ∃ outcome, goThroughCommodities services agreement (tableOf services.hash registers).slots id world =
        (outcome, ordersWorld agreement registers id world) ∧
      (outcome = .ok () ↔ OrdersPass services agreement id (objectOf registers id)) := by
  unfold goThroughCommodities
  rw [Program.bind_of_ok (Program.read_run _ world), fresh.entered]
  by_cases accumulative : (objectOf registers id).wayOfRegistration = WayOfRegistrationType.accumulative
  · rw [if_pos accumulative]
    obtain ⟨outcome, loop, passes⟩ :=
      (@meterReadingLoop_run services agreement) enterable hasKey fresh accumulative
    rw [← passes]
    cases outcome with
    | ok time => exact ⟨_, Program.bind_of_ok loop, by simp⟩
    | error fault => exact ⟨_, Program.bind_of_error loop, by simp⟩
  · rw [if_neg accumulative]
    exact consumptionLoops_run enterable hasKey fresh accumulative

end Orders

section Turn

variable {services : Services} {agreement : Agreement} {registers : List Register} {id : Nat} {world : World}

def TimeSeriesPass (services : Services) (id : Nat) : Prop :=
  services.fails (.getTimeSeries id) = none ∧
    (services.timeSeries id = 0 →
      services.fails (.getTSName id) = none ∧ services.fails (.createTimeSeries id) = none)

def SeriesTakesKey (services : Services) (id : Nat) : Prop :=
  services.fails (.getTimeSeries id) = none ∧ services.timeSeries id = 0 ∧
    services.fails (.getTSName id) = none

def DefinitionPasses (services : Services) (id : Nat) : Prop :=
  TimeSeriesPass services id ∧ services.fails (.getName id) = none ∧
    services.fails (.updateImpExpDef id) = none

def SavesOrders (services : Services) (agreement : Agreement) (id : Nat) (register : Register) : Prop :=
  register.wayOfRegistration = WayOfRegistrationType.accumulative →
    services.fails (.endAccumulativeExportOrders id) = none ∧
      ∀ order ∈ List.range (getMeterReadingCommodities agreement).length,
        (agreement.exportScheduleDateFixed = true → services.fails (.getFirstExportDate id order) = none) ∧
          services.fails (.saveCyclicAccumulativeMeteringOrder id order) = none

instance (services : Services) (agreement : Agreement) (id : Nat) (register : Register) :
    Decidable (OrdersPass services agreement id register) := inferInstanceAs (Decidable ((_ → _) ∧ _))

instance (services : Services) (id : Nat) : Decidable (TimeSeriesPass services id) :=
  inferInstanceAs (Decidable (_ ∧ (_ → _)))

instance (services : Services) (id : Nat) : Decidable (SeriesTakesKey services id) :=
  inferInstanceAs (Decidable (_ ∧ _ ∧ _))

instance (services : Services) (id : Nat) : Decidable (DefinitionPasses services id) :=
  inferInstanceAs (Decidable (_ ∧ _ ∧ _))

instance (services : Services) (agreement : Agreement) (id : Nat) (register : Register) :
    Decidable (SavesOrders services agreement id register) :=
  inferInstanceAs (Decidable (_ → _ ∧ ∀ order ∈ _, (_ → _) ∧ _))

def seriesWorld (services : Services) (id : Nat) (world : World) : World :=
  if SeriesTakesKey services id then
    { world with
      liTSReservedKeys := world.liTSReservedKeys.tail
      pending := world.pending ++
        if services.fails (.createTimeSeries id) = none then [world.liTSReservedKeys.headD 0] else [] }
  else world

theorem getPlaceHolderTSkey_run (world : World) : getPlaceHolderTSkey world =
    (.ok (world.liTSReservedKeys.headD 0), { world with liTSReservedKeys := world.liTSReservedKeys.tail }) := by
  rw [getPlaceHolderTSkey, Program.bind_of_ok (Program.read_run _ world)]
  obtain ⟨registers, keys, reserved, pending, created, deleted, lookups, definitions⟩ := world
  cases keys with
  | nil => rfl
  | cons key rest => rfl

theorem updateTimeSeries_run (services : Services) (id : Nat) (world : World) :
    ∃ outcome, updateTimeSeries services id world = (outcome, seriesWorld services id world) ∧
      (outcome = .ok () ↔ TimeSeriesPass services id) := by
  have unchanged : ¬SeriesTakesKey services id → seriesWorld services id world = world := fun keeps => if_neg keeps
  unfold updateTimeSeries
  cases sought : services.fails (.getTimeSeries id) with
  | some fault =>
      have keeps : ¬SeriesTakesKey services id := fun takes => nomatch sought.symm.trans takes.1
      rw [Program.bind_of_error (by rw [call_run, sought]), unchanged keeps]
      exact ⟨_, rfl, by simp [TimeSeriesPass, sought]⟩
  | none =>
      rw [Program.bind_of_ok (by rw [call_run, sought])]
      by_cases missing : services.timeSeries id = 0
      · rw [if_pos missing]
        cases named : services.fails (.getTSName id) with
        | some fault =>
            have keeps : ¬SeriesTakesKey services id := fun takes => nomatch named.symm.trans takes.2.2
            rw [Program.bind_of_error (by rw [call_run, named]), unchanged keeps]
            exact ⟨_, rfl, by simp [TimeSeriesPass, missing, named]⟩
        | none =>
            have takes : SeriesTakesKey services id := ⟨sought, missing, named⟩
            rw [Program.bind_of_ok (by rw [call_run, named]), Program.bind_of_ok (getPlaceHolderTSkey_run world),
              seriesWorld, if_pos takes]
            cases created : services.fails (.createTimeSeries id) with
            | some fault =>
                rw [Program.bind_of_error (by rw [call_run, created]), if_neg (by simp), List.append_nil]
                exact ⟨_, rfl, by simp [TimeSeriesPass, missing, created]⟩
            | none =>
                rw [Program.bind_of_ok (by rw [call_run, created]), if_pos rfl]
                exact ⟨_, rfl, by simp [TimeSeriesPass, sought, named, created]⟩
      · have keeps : ¬SeriesTakesKey services id := fun takes => missing takes.2.1
        rw [if_neg missing, unchanged keeps]
        exact ⟨_, rfl, by simp [TimeSeriesPass, sought, missing]⟩

def definedWorld (services : Services) (id : Nat) (meter : Option Int) (world : World) : World :=
  { seriesWorld services id world with
    definitions := world.definitions ++ if DefinitionPasses services id then [(id, meter)] else [] }

theorem seriesWorld_definitions (services : Services) (id : Nat) (world : World) :
    (seriesWorld services id world).definitions = world.definitions := by
  unfold seriesWorld
  split <;> rfl

theorem updateImpExpDef_run (services : Services) (id : Nat) (meter : Option Int) (world : World) :
    ∃ outcome, updateImpExpDef services id meter world = (outcome, definedWorld services id meter world) ∧
      (outcome = .ok () ↔ DefinitionPasses services id) := by
  have unsaved : ¬DefinitionPasses services id →
      definedWorld services id meter world = seriesWorld services id world := by
    intro fails
    rw [definedWorld, if_neg fails, List.append_nil, ← seriesWorld_definitions services id world]
  obtain ⟨outcome, series, passes⟩ := updateTimeSeries_run services id world
  unfold updateImpExpDef
  cases outcome with
  | error fault =>
      have fails : ¬DefinitionPasses services id := fun defined => nomatch passes.mpr defined.1
      rw [Program.bind_of_error series, unsaved fails]
      exact ⟨_, rfl, by simp [fails]⟩
  | ok _ =>
      have timeSeries := passes.mp rfl
      rw [Program.bind_of_ok series]
      cases named : services.fails (.getName id) with
      | some fault =>
          have fails : ¬DefinitionPasses services id := fun defined => nomatch named.symm.trans defined.2.1
          rw [Program.bind_of_error (by rw [call_run, named]), unsaved fails]
          exact ⟨_, rfl, by simp [fails]⟩
      | none =>
          rw [Program.bind_of_ok (by rw [call_run, named])]
          cases saved : services.fails (.updateImpExpDef id) with
          | some fault =>
              have fails : ¬DefinitionPasses services id :=
                fun defined => nomatch saved.symm.trans defined.2.2
              rw [Program.bind_of_error (by rw [call_run, saved]), unsaved fails]
              exact ⟨_, rfl, by simp [fails]⟩
          | none =>
              have defines : DefinitionPasses services id := ⟨timeSeries, named, saved⟩
              rw [Program.bind_of_ok (by rw [call_run, saved]), definedWorld, if_pos defines,
                ← seriesWorld_definitions services id world]
              exact ⟨_, rfl, by simp [defines]⟩

theorem saveOrder_keeps (services : Services) (agreement : Agreement) (id order : Nat) :
    (saveOrder services agreement id order).Keeps fun world => world := by
  unfold saveOrder
  split
  · exact .bind (.call _) fun _ => .call _
  · exact .call _

theorem saveOrder_returns (services : Services) (agreement : Agreement) (id order : Nat) :
    (saveOrder services agreement id order).ReturnsWhen
      ((agreement.exportScheduleDateFixed = true → services.fails (.getFirstExportDate id order) = none) ∧
        services.fails (.saveCyclicAccumulativeMeteringOrder id order) = none) := by
  unfold saveOrder
  split
  · rename_i fixed
    rw [forall_prop_of_true fixed]
    exact .bind (.call _) fun _ => .call _
  · rename_i fixed
    rw [forall_prop_of_false fixed, true_and]
    exact .call _

theorem saveOrders_keeps (services : Services) (agreement : Agreement) (id : Nat) (register : Register) :
    (saveOrders services agreement id register).Keeps fun world => world :=
  .guarded (.bind (.call _) fun _ => .forEach (saveOrder_keeps services agreement id) _)

theorem saveOrders_returns (services : Services) (agreement : Agreement) (id : Nat) (register : Register) :
    (saveOrders services agreement id register).ReturnsWhen (SavesOrders services agreement id register) :=
  .guarded (.bind (.call _) fun _ => .forEach (saveOrder_returns services agreement id) _)

def TurnPasses (services : Services) (agreement : Agreement) (id : Nat) (register : Register) : Prop :=
  OrdersPass services agreement id register ∧
    ((afterOrders agreement register).state = Register.active →
      DefinitionPasses services id ∧ SavesOrders services agreement id register)

def TakesKey (services : Services) (agreement : Agreement) (id : Nat) (register : Register) : Prop :=
  OrdersPass services agreement id register ∧ (afterOrders agreement register).state = Register.active ∧
    SeriesTakesKey services id

instance (services : Services) (agreement : Agreement) (id : Nat) (register : Register) :
    Decidable (TurnPasses services agreement id register) := inferInstanceAs (Decidable (_ ∧ (_ → _ ∧ _)))

instance (services : Services) (agreement : Agreement) (id : Nat) (register : Register) :
    Decidable (TakesKey services agreement id register) := inferInstanceAs (Decidable (_ ∧ _ ∧ _))

def Defines (services : Services) (agreement : Agreement) (id : Nat) (register : Register) : Prop :=
  OrdersPass services agreement id register ∧ (afterOrders agreement register).state = Register.active ∧
    DefinitionPasses services id

def LookedUpAtEnd (services : Services) (agreement : Agreement) (id : Nat) (register : Register) : Prop :=
  OrdersPass services agreement id register ∧ (afterOrders agreement register).state = Register.active

def Kept (hash : List Printed → Nat) (agreement : Agreement) (registers : List Register) (id : Nat) : Prop :=
  Activates agreement (objectOf registers id) →
    hash (objectOf registers id).activated.hashed = hash (objectOf registers id).hashed ∨
      ∃ other < registers.length, (objectOf registers other).equals (objectOf registers id).activated = true

instance (services : Services) (agreement : Agreement) (id : Nat) (register : Register) :
    Decidable (Defines services agreement id register) := inferInstanceAs (Decidable (_ ∧ _ ∧ _))

instance (services : Services) (agreement : Agreement) (id : Nat) (register : Register) :
    Decidable (LookedUpAtEnd services agreement id register) := inferInstanceAs (Decidable (_ ∧ _))

instance (hash : List Printed → Nat) (agreement : Agreement) (registers : List Register) (id : Nat) :
    Decidable (Kept hash agreement registers id) :=
  inferInstanceAs (Decidable (_ → _ ∨ ∃ other < registers.length, _))

def meterAtEnd (services : Services) (agreement : Agreement) (registers : List Register) (id : Nat) :
    Option Int :=
  if Kept services.hash agreement registers id then some (objectOf registers id).key else none

def turnLookups (services : Services) (agreement : Agreement) (registers : List Register) (id : Nat) :
    List (Nat × Option Int) :=
  (if Activates agreement (objectOf registers id) then [(id, some (objectOf registers id).key)] else []) ++
    if LookedUpAtEnd services agreement id (objectOf registers id) then
      [(id, meterAtEnd services agreement registers id)] else []

def turnDefinitions (services : Services) (agreement : Agreement) (registers : List Register) (id : Nat) :
    List (Nat × Option Int) :=
  if Defines services agreement id (objectOf registers id) then
    [(id, meterAtEnd services agreement registers id)] else []

structure TurnEnds (services : Services) (agreement : Agreement) (registers : List Register) (id : Nat)
    (world : World) (outcome : Except Fault Unit) (later : World) : Prop where
  returns : outcome = .ok () ↔ TurnPasses services agreement id (objectOf registers id)
  now : Current registers later.registers
  own : objectOf later.registers id = afterOrders agreement (objectOf registers id)
  others : ∀ other, other ≠ id → objectOf later.registers other = objectOf world.registers other
  lookups : later.lookups = world.lookups ++ turnLookups services agreement registers id
  definitions : later.definitions = world.definitions ++ turnDefinitions services agreement registers id
  liTSReservedKeys : later.liTSReservedKeys =
    if TakesKey services agreement id (objectOf registers id) then world.liTSReservedKeys.tail
    else world.liTSReservedKeys
  pending : TurnPasses services agreement id (objectOf registers id) → later.pending = world.pending ++
    if TakesKey services agreement id (objectOf registers id) then [world.liTSReservedKeys.headD 0] else []
  database : (later.reserved, later.created, later.deleted) = (world.reserved, world.created, world.deleted)

theorem afterOrders_wayOfRegistration (agreement : Agreement) (register : Register) :
    (afterOrders agreement register).wayOfRegistration = register.wayOfRegistration := by
  unfold afterOrders
  split
  · exact register.activated_wayOfRegistration
  · rfl

theorem ordersWorld_now (fresh : Fresh registers id world) :
    Current registers (ordersWorld agreement registers id world).registers := by
  unfold ordersWorld
  split
  · rename_i activates
    exact fresh.current_activated activates.1
  · exact fresh.now

theorem ordersWorld_own (fresh : Fresh registers id world) :
    objectOf (ordersWorld agreement registers id world).registers id =
      afterOrders agreement (objectOf registers id) := by
  unfold ordersWorld afterOrders
  split
  · exact fresh.objectOf_activated
  · exact fresh.entered

theorem ordersWorld_others {other : Nat} (different : other ≠ id) :
    objectOf (ordersWorld agreement registers id world).registers other = objectOf world.registers other := by
  unfold ordersWorld
  split
  · exact objectOf_set_of_ne _ different
  · rfl

theorem ordersWorld_lookups (agreement : Agreement) (registers : List Register) (id : Nat) (world : World) :
    (ordersWorld agreement registers id world).lookups = world.lookups ++
      if Activates agreement (objectOf registers id) then [(id, some (objectOf registers id).key)] else [] := by
  unfold ordersWorld
  split
  · rfl
  · exact (List.append_nil _).symm

theorem ordersWorld_rest (agreement : Agreement) (registers : List Register) (id : Nat) (world : World) :
    ordersWorld agreement registers id world =
      { world with
        registers := (ordersWorld agreement registers id world).registers
        lookups := (ordersWorld agreement registers id world).lookups } := by
  unfold ordersWorld
  split <;> rfl

theorem finds_iff_kept {hash : List Printed → Nat} {current : List Register} (enterable : Enterable registers)
    (now : Current registers current) (inside : id < registers.length)
    (own : objectOf current id = afterOrders agreement (objectOf registers id)) :
    Finds hash registers current id ↔ Kept hash agreement registers id := by
  unfold Kept
  by_cases activates : Activates agreement (objectOf registers id)
  · rw [afterOrders, if_pos activates] at own
    rw [forall_prop_of_true activates]
    exact finds_activated_iff enterable now inside activates.1 own
  · rw [afterOrders, if_neg activates] at own
    rw [forall_prop_of_false activates, iff_true]
    exact finds_of_unchanged inside own

def finishedWorld (services : Services) (agreement : Agreement) (registers : List Register) (id : Nat)
    (world : World) : World :=
  definedWorld services id (meterAtEnd services agreement registers id)
    { world with lookups := world.lookups ++ [(id, meterAtEnd services agreement registers id)] }

theorem finishTurn_of_active (enterable : Enterable registers) (now : Current registers world.registers)
    (inside : id < registers.length)
    (own : objectOf world.registers id = afterOrders agreement (objectOf registers id))
    (active : (afterOrders agreement (objectOf registers id)).state = Register.active) :
    ∃ outcome, finishTurn services agreement (tableOf services.hash registers).slots id world =
        (outcome, finishedWorld services agreement registers id world) ∧
      (outcome = .ok () ↔
        DefinitionPasses services id ∧ SavesOrders services agreement id (objectOf registers id)) := by
  obtain ⟨meter, looked, found, lost⟩ := lookUp_run services enterable now inside
  have isMeter : meter = meterAtEnd services agreement registers id := by
    have finds := (@finds_iff_kept _ _ _ services.hash) enterable now inside own
    unfold meterAtEnd
    split
    · rename_i kept
      exact found (finds.mpr kept)
    · rename_i hidden
      exact lost fun finding => hidden (finds.mp finding)
  rw [isMeter] at looked
  obtain ⟨outcome, defined, passes⟩ := updateImpExpDef_run services id
    (meterAtEnd services agreement registers id)
    { world with lookups := world.lookups ++ [(id, meterAtEnd services agreement registers id)] }
  have orders : SavesOrders services agreement id (afterOrders agreement (objectOf registers id)) ↔
      SavesOrders services agreement id (objectOf registers id) := by
    rw [SavesOrders, SavesOrders, afterOrders_wayOfRegistration]
  unfold finishTurn
  rw [Program.bind_of_ok (Program.read_run _ world), own, if_pos active, Program.bind_of_ok looked, ← passes,
    ← orders]
  cases outcome with
  | error fault => exact ⟨_, Program.bind_of_error defined, by simp⟩
  | ok _ =>
      rw [Program.bind_of_ok defined]
      have kept := saveOrders_keeps services agreement id (afterOrders agreement (objectOf registers id))
        (finishedWorld services agreement registers id world)
      have returned := saveOrders_returns services agreement id
        (afterOrders agreement (objectOf registers id)) (finishedWorld services agreement registers id world)
      refine ⟨_, Prod.ext rfl kept, ?_⟩
      rw [← returned, eq_self, true_and]
      exact ⟨fun ended => ⟨(), ended⟩, fun ⟨_, ended⟩ => ended⟩

theorem finishTurn_of_other {slots : List Slot} (other : (objectOf world.registers id).state ≠ Register.active) :
    finishTurn services agreement slots id world = (.ok (), world) := by
  rw [finishTurn, Program.bind_of_ok (Program.read_run _ world), if_neg other]
  rfl

theorem turnEnds_of_unfinished (fresh : Fresh registers id world) {outcome : Except Fault Unit}
    (unfinished : ¬LookedUpAtEnd services agreement id (objectOf registers id))
    (returns : outcome = .ok () ↔ TurnPasses services agreement id (objectOf registers id)) :
    TurnEnds services agreement registers id world outcome (ordersWorld agreement registers id world) := by
  have noKey : ¬TakesKey services agreement id (objectOf registers id) := fun takes =>
    unfinished ⟨takes.1, takes.2.1⟩
  have noDefinition : ¬Defines services agreement id (objectOf registers id) := fun defines =>
    unfinished ⟨defines.1, defines.2.1⟩
  have rest := ordersWorld_rest agreement registers id world
  refine ⟨returns, ordersWorld_now fresh, ordersWorld_own fresh, fun _ => ordersWorld_others, ?_, ?_, ?_, ?_, ?_⟩
  · rw [ordersWorld_lookups, turnLookups, if_neg unfinished, List.append_nil]
  · rw [rest, turnDefinitions, if_neg noDefinition, List.append_nil]
  · rw [rest, if_neg noKey]
  · rw [rest, if_neg noKey, List.append_nil]
    exact fun _ => rfl
  · rw [rest]

theorem turnEnds_of_finished (fresh : Fresh registers id world) {outcome : Except Fault Unit}
    (finished : LookedUpAtEnd services agreement id (objectOf registers id))
    (returns : outcome = .ok () ↔
      DefinitionPasses services id ∧ SavesOrders services agreement id (objectOf registers id)) :
    TurnEnds services agreement registers id world outcome
      (finishedWorld services agreement registers id (ordersWorld agreement registers id world)) := by
  have takes : TakesKey services agreement id (objectOf registers id) ↔ SeriesTakesKey services id :=
    ⟨fun takes => takes.2.2, fun takes => ⟨finished.1, finished.2, takes⟩⟩
  have defines : Defines services agreement id (objectOf registers id) ↔ DefinitionPasses services id :=
    ⟨fun defines => defines.2.2, fun defines => ⟨finished.1, finished.2, defines⟩⟩
  have passes : TurnPasses services agreement id (objectOf registers id) ↔
      DefinitionPasses services id ∧ SavesOrders services agreement id (objectOf registers id) :=
    ⟨fun passes => passes.2 finished.2, fun passes => ⟨finished.1, fun _ => passes⟩⟩
  have rest := ordersWorld_rest agreement registers id world
  have series (world : World) : (seriesWorld services id world).registers = world.registers ∧
      (seriesWorld services id world).lookups = world.lookups ∧
      ((seriesWorld services id world).reserved, (seriesWorld services id world).created,
        (seriesWorld services id world).deleted) = (world.reserved, world.created, world.deleted) := by
    unfold seriesWorld
    split <;> exact ⟨rfl, rfl, rfl⟩
  have registersKept : (finishedWorld services agreement registers id
      (ordersWorld agreement registers id world)).registers =
        (ordersWorld agreement registers id world).registers := (series _).1
  refine ⟨returns.trans passes.symm, ?_, ?_, fun other different => ?_, ?_, ?_, ?_, fun passing => ?_, ?_⟩
  · rw [registersKept]
    exact ordersWorld_now fresh
  · rw [registersKept]
    exact ordersWorld_own fresh
  · rw [registersKept]
    exact ordersWorld_others different
  · refine (series _).2.1.trans ?_
    rw [turnLookups, if_pos finished, ordersWorld_lookups, List.append_assoc]
  · rw [turnDefinitions, finishedWorld, definedWorld, rest]
    simp only [defines]
  · rw [finishedWorld, definedWorld, rest]
    simp only [takes, seriesWorld]
    split <;> rfl
  · have created : SeriesTakesKey services id → services.fails (.createTimeSeries id) = none := fun takes =>
      ((passes.mp passing).1.1.2 takes.2.1).2
    rw [finishedWorld, definedWorld, rest]
    simp only [takes, seriesWorld]
    split
    · rename_i takesKey
      rw [if_pos (created takesKey)]
    · exact (List.append_nil _).symm
  · refine (series _).2.2.trans ?_
    rw [rest]

theorem turnEnds (services : Services) (agreement : Agreement) (enterable : Enterable registers)
    (hasKey : (objectOf registers id).key ≠ 0) (fresh : Fresh registers id world) :
    ∃ outcome later, registerTurn services agreement (tableOf services.hash registers).slots id world =
        (outcome, later) ∧ TurnEnds services agreement registers id world outcome later := by
  obtain ⟨outcome, gone, passes⟩ :=
    (@goThroughCommodities_run services agreement) enterable hasKey fresh
  unfold registerTurn
  cases outcome with
  | error fault =>
      have stops : ¬OrdersPass services agreement id (objectOf registers id) := fun pass => nomatch passes.mpr pass
      refine ⟨_, _, Program.bind_of_error gone, turnEnds_of_unfinished fresh (fun ends => stops ends.1) ?_⟩
      exact ⟨fun ended => (nomatch ended), fun passes => absurd passes.1 stops⟩
  | ok _ =>
      have ordersPass := passes.mp rfl
      rw [Program.bind_of_ok gone]
      by_cases active : (afterOrders agreement (objectOf registers id)).state = Register.active
      · obtain ⟨finish, finished, ends⟩ := (@finishTurn_of_active services) enterable
          (ordersWorld_now fresh) fresh.inside (ordersWorld_own fresh) active
        exact ⟨_, _, finished, turnEnds_of_finished fresh ⟨ordersPass, active⟩ ends⟩
      · have other : (objectOf (ordersWorld agreement registers id world).registers id).state ≠
            Register.active := by
          rw [ordersWorld_own fresh]
          exact active
        refine ⟨_, _, finishTurn_of_other other, turnEnds_of_unfinished fresh (fun ends => active ends.2) ?_⟩
        exact ⟨fun _ => ⟨ordersPass, fun isActive => absurd isActive active⟩, fun _ => rfl⟩

end Turn

section Loop

def turnsOf (services : Services) (agreement : Agreement) (registers : List Register) : List Nat → List Nat
  | [] => []
  | id :: rest =>
      if TurnPasses services agreement id (objectOf registers id) then
        id :: turnsOf services agreement registers rest
      else [id]

variable {services : Services} {agreement : Agreement} {registers : List Register}

def takenOf (services : Services) (agreement : Agreement) (registers : List Register) (keys : List Nat) : Nat :=
  (turnsOf services agreement registers keys).countP fun id =>
    TakesKey services agreement id (objectOf registers id)

structure LoopEnds (services : Services) (agreement : Agreement) (registers : List Register) (keys : List Nat)
    (world : World) (outcome : Except Fault Unit) (later : World) : Prop where
  returns : outcome = .ok () ↔ ∀ id ∈ keys, TurnPasses services agreement id (objectOf registers id)
  lookups : later.lookups = world.lookups ++
    (turnsOf services agreement registers keys).flatMap (turnLookups services agreement registers)
  definitions : later.definitions = world.definitions ++
    (turnsOf services agreement registers keys).flatMap (turnDefinitions services agreement registers)
  liTSReservedKeys : later.liTSReservedKeys =
    world.liTSReservedKeys.drop (takenOf services agreement registers keys)
  pending : outcome = .ok () → later.pending = world.pending ++
    (List.range (takenOf services agreement registers keys)).map fun taken =>
      world.liTSReservedKeys.getD taken 0
  database : (later.reserved, later.created, later.deleted) = (world.reserved, world.created, world.deleted)
  others : ∀ other, other ∉ keys → objectOf later.registers other = objectOf world.registers other
  own : outcome = .ok () → ∀ id ∈ keys,
    objectOf later.registers id = afterOrders agreement (objectOf registers id)

theorem takenKeys_append (keys : List Int) (first more : Nat) :
    (List.range first).map (fun taken => keys.getD taken 0) ++
        (List.range more).map (fun taken => (keys.drop first).getD taken 0) =
      (List.range (first + more)).map fun taken => keys.getD taken 0 := by
  rw [List.range_add, List.map_append, List.map_map]
  congr 1
  refine List.map_congr_left fun taken _ => ?_
  simp [List.getD_eq_getElem?_getD]

theorem turnsOf_of_passes {id : Nat} (rest : List Nat)
    (passes : TurnPasses services agreement id (objectOf registers id)) :
    turnsOf services agreement registers (id :: rest) = id :: turnsOf services agreement registers rest :=
  if_pos passes

theorem turnsOf_of_stops {id : Nat} (rest : List Nat)
    (stops : ¬TurnPasses services agreement id (objectOf registers id)) :
    turnsOf services agreement registers (id :: rest) = [id] := if_neg stops

theorem takenOf_of_passes {id : Nat} (rest : List Nat)
    (passes : TurnPasses services agreement id (objectOf registers id)) :
    takenOf services agreement registers (id :: rest) =
      (if TakesKey services agreement id (objectOf registers id) then 1 else 0) +
        takenOf services agreement registers rest := by
  rw [takenOf, turnsOf_of_passes rest passes, List.countP_cons, takenOf, Nat.add_comm]
  simp only [decide_eq_true_eq]

theorem takenOf_of_stops {id : Nat} (rest : List Nat)
    (stops : ¬TurnPasses services agreement id (objectOf registers id)) :
    takenOf services agreement registers (id :: rest) =
      if TakesKey services agreement id (objectOf registers id) then 1 else 0 := by
  rw [takenOf, turnsOf_of_stops rest stops, List.countP_singleton]
  simp only [decide_eq_true_eq]

theorem TurnEnds.loop_stops {id : Nat} {rest : List Nat} {world later : World} {fault : Fault}
    (ends : TurnEnds services agreement registers id world (.error fault) later) :
    LoopEnds services agreement registers (id :: rest) world (.error fault) later := by
  have stops : ¬TurnPasses services agreement id (objectOf registers id) := fun passes =>
    nomatch ends.returns.mpr passes
  refine ⟨⟨fun ended => (nomatch ended), fun all => absurd (all id (by simp)) stops⟩, ?_, ?_, ?_,
    fun ended => (nomatch ended), ends.database, fun other outside => ?_, fun ended => (nomatch ended)⟩
  · rw [turnsOf_of_stops rest stops, List.flatMap_singleton]
    exact ends.lookups
  · rw [turnsOf_of_stops rest stops, List.flatMap_singleton]
    exact ends.definitions
  · rw [takenOf_of_stops rest stops, ends.liTSReservedKeys]
    split
    · exact List.drop_one.symm
    · rfl
  · exact ends.others other fun same => outside (same ▸ List.mem_cons_self)

theorem TurnEnds.loop_goes {id : Nat} {rest : List Nat} {world later last : World} {outcome : Except Fault Unit}
    (notLater : id ∉ rest) (ends : TurnEnds services agreement registers id world (.ok ()) later)
    (loop : LoopEnds services agreement registers rest later outcome last) :
    LoopEnds services agreement registers (id :: rest) world outcome last := by
  have passes := ends.returns.mp rfl
  refine ⟨?_, ?_, ?_, ?_, fun ended => ?_, loop.database.trans ends.database, fun other outside => ?_,
    fun ended => List.forall_mem_cons.mpr ⟨?_, loop.own ended⟩⟩
  · rw [loop.returns, List.forall_mem_cons, and_iff_right passes]
  · rw [turnsOf_of_passes rest passes, List.flatMap_cons, loop.lookups, ends.lookups, List.append_assoc]
  · rw [turnsOf_of_passes rest passes, List.flatMap_cons, loop.definitions, ends.definitions,
      List.append_assoc]
  · rw [takenOf_of_passes rest passes, loop.liTSReservedKeys, ends.liTSReservedKeys]
    split
    · rw [List.drop_tail, Nat.add_comm]
    · rw [Nat.zero_add]
  · rw [takenOf_of_passes rest passes, loop.pending ended, ends.pending passes, ends.liTSReservedKeys]
    split
    · rw [List.append_assoc, ← takenKeys_append, List.drop_one]
      cases world.liTSReservedKeys <;> rfl
    · rw [List.append_nil, Nat.zero_add]
  · rw [List.mem_cons, not_or] at outside
    exact (loop.others other outside.2).trans (ends.others other outside.1)
  · exact (loop.others id notLater).trans ends.own

theorem loopEnds (services : Services) (agreement : Agreement) (enterable : Enterable registers)
    (keyed : ∀ id < registers.length, (objectOf registers id).key ≠ 0) {keys : List Nat} (nodup : keys.Nodup)
    {world : World} (fresh : ∀ id ∈ keys, Fresh registers id world) :
    ∃ outcome later, Program.forEach (registerTurn services agreement (tableOf services.hash registers).slots)
        keys world = (outcome, later) ∧ LoopEnds services agreement registers keys world outcome later := by
  induction keys generalizing world with
  | nil =>
      refine ⟨_, _, rfl, ?_⟩
      constructor <;> simp [turnsOf, takenOf]
  | cons id rest ih =>
      obtain ⟨notLater, restNodup⟩ := List.nodup_cons.mp nodup
      have freshNow := fresh id (by simp)
      obtain ⟨outcome, later, turn, ends⟩ :=
        turnEnds services agreement enterable (keyed id freshNow.inside) freshNow
      cases outcome with
      | error fault => exact ⟨_, _, Program.bind_of_error turn, ends.loop_stops⟩
      | ok _ =>
          have freshLater : ∀ other ∈ rest, Fresh registers other later := by
            intro other member
            have different : other ≠ id := fun same => notLater (same ▸ member)
            have before := fresh other (by simp [member])
            exact ⟨ends.now, before.inside, (ends.others other different).trans before.entered⟩
          obtain ⟨outcome, last, run, loop⟩ := ih restNodup freshLater
          exact ⟨outcome, last, (Program.bind_of_ok turn).trans run, ends.loop_goes notLater loop⟩

end Loop

end ServiceHost.Metering
