import ServiceHost.Metering.AgreementRun

/-!
The meters of the registers in `SubmitAgreement`: exactly when the tables are built and every
lookup in the table gives the meter that the register was entered with.
-/

namespace ServiceHost.Metering

open Library

structure MetersKept (services : Services) (agreement : Agreement) (run : Except Fault Unit × World) : Prop where
  builtBefore : ∃ table, getRegisters services.hash services.registersBefore = .ok table
  builtWithin : agreement.commodities ≠ [] →
    ∃ table, getRegisters services.hash services.registersWithin = .ok table
  lookups : ∀ entry ∈ run.2.lookups, entry.2 = some (objectOf services.newRegisters entry.1).key
  definitions : ∀ entry ∈ run.2.definitions, entry.2 = some (objectOf services.newRegisters entry.1).key
  defined : run.1 = .ok () → agreement.commodities ≠ [] → ∀ id < services.newRegisters.length,
    (objectOf run.2.registers id).state = Register.active →
      (id, some (objectOf services.newRegisters id).key) ∈ run.2.definitions

def RunReachesLoop (services : Services) (agreement : Agreement) : Prop :=
  SetupPasses services ∧ (∀ register < services.placeholderCount, ¬Broken services register) ∧
    LoopReached services agreement

structure MetersFound (services : Services) (agreement : Agreement) : Prop where
  tabularBefore : Tabular services.registersBefore
  tabularWithin : agreement.commodities ≠ [] → Tabular services.registersWithin
  kept : RunReachesLoop services agreement → ∀ id ∈ turnsReached services agreement,
    LookedUpAtEnd services agreement id (objectOf services.newRegisters id) →
      Kept services.hash agreement services.newRegisters id

section Lookups

variable {services : Services} {agreement : Agreement} {registers : List Register}

theorem getRegisters_isOk_iff {hash : List Printed → Nat} {meters : List Meter.Registers} :
    (∃ table, getRegisters hash meters = .ok table) ↔ Tabular meters :=
  ⟨fun ⟨_, built⟩ => (getRegisters_eq_ok_iff.mp built).1,
    fun tabular => ⟨_, getRegisters_eq_ok_iff.mpr ⟨tabular, rfl⟩⟩⟩

theorem meterAtEnd_eq_some_iff {id : Nat} :
    meterAtEnd services agreement registers id = some (objectOf registers id).key ↔
      Kept services.hash agreement registers id := by
  unfold meterAtEnd
  split <;> simp_all

theorem turnLookups_own_iff {id : Nat} :
    (∀ entry ∈ turnLookups services agreement registers id,
        entry.2 = some (objectOf registers entry.1).key) ↔
      (LookedUpAtEnd services agreement id (objectOf registers id) →
        Kept services.hash agreement registers id) := by
  have first : ∀ entry ∈ (if Activates agreement (objectOf registers id) then
      [(id, some (objectOf registers id).key)] else []),
        entry.2 = some (objectOf registers entry.1).key := by
    intro entry member
    split at member
    · rw [List.mem_singleton.mp member]
    · cases member
  rw [turnLookups, List.forall_mem_append, and_iff_right first]
  split
  · rename_i looked
    rw [List.forall_mem_singleton, forall_prop_of_true looked]
    exact meterAtEnd_eq_some_iff
  · rename_i unseen
    simp [unseen]

theorem turnDefinitions_own {id : Nat}
    (kept : LookedUpAtEnd services agreement id (objectOf registers id) →
      Kept services.hash agreement registers id) :
    ∀ entry ∈ turnDefinitions services agreement registers id,
      entry.2 = some (objectOf registers entry.1).key := by
  intro entry member
  unfold turnDefinitions at member
  split at member
  · rename_i defines
    rw [List.mem_singleton.mp member]
    exact meterAtEnd_eq_some_iff.mpr (kept ⟨defines.1, defines.2.1⟩)
  · cases member

theorem turnsOf_of_all {keys : List Nat}
    (all : ∀ id ∈ keys, TurnPasses services agreement id (objectOf registers id)) :
    turnsOf services agreement registers keys = keys := by
  induction keys with
  | nil => rfl
  | cons id rest ih =>
      obtain ⟨passes, others⟩ := List.forall_mem_cons.mp all
      rw [turnsOf_of_passes rest passes, ih others]

end Lookups

section Kept

variable {services : Services} {agreement : Agreement}

theorem defined_of_committed (commits : Commits services agreement) (commodities : agreement.commodities ≠ [])
    {id : Nat} (inside : id < services.newRegisters.length)
    (active : (afterOrders agreement (objectOf services.newRegisters id)).state = Register.active)
    (kept : ∀ id ∈ turnsReached services agreement,
      LookedUpAtEnd services agreement id (objectOf services.newRegisters id) →
        Kept services.hash agreement services.newRegisters id) :
    (id, some (objectOf services.newRegisters id).key) ∈ (turnsReached services agreement).flatMap
      (turnDefinitions services agreement services.newRegisters) := by
  obtain ⟨suits, all⟩ := commits.loop commodities
  have turn := mem_turns_iff.mpr inside
  have reached : turnsReached services agreement = services.turns := by
    rw [turnsReached, if_pos ⟨commits.opens, commodities, suits⟩, turnsOf_of_all all]
  have passes := all id turn
  have defines : Defines services agreement id (objectOf services.newRegisters id) :=
    ⟨passes.1, active, (passes.2 active).1⟩
  rw [reached] at kept ⊢
  refine List.mem_flatMap.mpr ⟨id, turn, ?_⟩
  rw [turnDefinitions, if_pos defines, List.mem_singleton,
    meterAtEnd_eq_some_iff.mpr (kept id turn ⟨defines.1, active⟩)]

/-- The meters are kept exactly when the registers of both tables can be entered, and no register
is hidden by its activation when it is looked up at the end of its turn. -/
theorem meters_are_kept_iff (services : Services) (agreement : Agreement) :
    MetersKept services agreement (submitAgreement services agreement World.initial) ↔
      MetersFound services agreement := by
  have ends := submitAgreement_ends services agreement
  generalize submitAgreement services agreement World.initial = run at ends
  have tables (lookups : run.2.lookups = []) (definitions : run.2.definitions = [])
      (fails : ∀ value, run.1 ≠ .ok value) (unreached : ¬RunReachesLoop services agreement) :
      MetersKept services agreement run ↔ MetersFound services agreement := by
    constructor
    · intro kept
      exact ⟨getRegisters_isOk_iff.mp kept.builtBefore,
        fun commodities => getRegisters_isOk_iff.mp (kept.builtWithin commodities),
        fun reached => absurd reached unreached⟩
    · intro found
      refine ⟨getRegisters_isOk_iff.mpr found.tabularBefore,
        fun commodities => getRegisters_isOk_iff.mpr (found.tabularWithin commodities), ?_, ?_,
        fun returned => absurd returned (fails ())⟩
      · simp [lookups]
      · simp [definitions]
  cases ends with
  | unprepared fault fails => exact tables rfl rfl (fun _ => nofun) fun reached => fails reached.1
  | unreserved fault keys setup listing inside broken =>
      exact tables rfl rfl (fun _ => nofun) fun reached => reached.2.1 _ inside broken
  | submitted outcome last keys world count setup listing length transaction bound passed stopped returns =>
      have lookups : (∀ entry ∈ world.lookups, entry.2 = some (objectOf services.newRegisters entry.1).key) ↔
          ∀ id ∈ turnsReached services agreement,
            LookedUpAtEnd services agreement id (objectOf services.newRegisters id) →
              Kept services.hash agreement services.newRegisters id := by
        rw [transaction.lookups]
        simp only [World.initial, List.nil_append, List.forall_mem_flatMap, turnLookups_own_iff]
      constructor
      · intro kept
        exact ⟨getRegisters_isOk_iff.mp kept.builtBefore,
          fun commodities => getRegisters_isOk_iff.mp (kept.builtWithin commodities),
          fun _ => lookups.mp kept.lookups⟩
      · intro found
        have notHidden : ∀ id ∈ turnsReached services agreement,
            LookedUpAtEnd services agreement id (objectOf services.newRegisters id) →
              Kept services.hash agreement services.newRegisters id := by
          intro id turn
          have reached : LoopReached services agreement := by
            by_contra unreached
            rw [turnsReached, if_neg unreached] at turn
            cases turn
          have unbroken : ∀ register < services.placeholderCount, ¬Broken services register := by
            intro register inside
            rw [← length] at inside
            exact (listing.at inside).not_broken
          exact found.kept ⟨setup, unbroken, reached⟩ id turn
        refine ⟨getRegisters_isOk_iff.mpr found.tabularBefore,
          fun commodities => getRegisters_isOk_iff.mpr (found.tabularWithin commodities),
          lookups.mpr notHidden, fun entry member => ?_, fun returned commodities id inside active => ?_⟩
        · have defined : entry ∈ world.definitions := member
          rw [transaction.definitions] at defined
          obtain ⟨id, turn, entered⟩ := List.mem_flatMap.mp defined
          exact turnDefinitions_own (notHidden id turn) entry entered
        · have committed := (returns.mp returned).1
          have isAfter := transaction.own committed commodities id inside
          have defined := defined_of_committed (transaction.returns.mp committed) commodities inside
            (isAfter ▸ active) notHidden
          have all := transaction.definitions
          change _ ∈ world.definitions
          rw [all]
          exact defined

def stateHash (text : List Printed) : Nat :=
  (text.map fun printed => match printed with
    | ⟨.state, state⟩ => Int.toNat state
    | _ => 0).sum

def differentialRegister : Register :=
  (numbered 1).set Register.Field.wayOfRegistration WayOfRegistrationType.differential

def inactiveRegister : Services where
  hash := stateHash
  probing := ⟨fun slots => slots, fun _ => .refl _⟩
  enumeration := ⟨fun slots => slots, fun _ => .refl _⟩
  measurePoints := 1
  registersBefore := [⟨1, [differentialRegister], by simp; decide⟩]
  registersWithin := [⟨1, [differentialRegister], by simp; decide⟩]
  timeSeries := fun _ => 0
  reservations := oneReservation
  retryCount := 5
  retryDelay := 100
  fails := fun _ => none

/-- After the register was activated, the table does not give its meter. -/
theorem activated_register_is_lost :
    ¬MetersKept inactiveRegister ⟨[⟨.consumption, ProductCodeType.consumptionAll, UtcTime.null⟩], false⟩
      (submitAgreement inactiveRegister
        ⟨[⟨.consumption, ProductCodeType.consumptionAll, UtcTime.null⟩], false⟩ World.initial) := by
  intro kept
  have lost : (0, none) ∈ (submitAgreement inactiveRegister
      ⟨[⟨.consumption, ProductCodeType.consumptionAll, UtcTime.null⟩], false⟩ World.initial).2.lookups := by
    decide
  cases kept.lookups _ lost

end Kept

end ServiceHost.Metering
