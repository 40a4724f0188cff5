import ServiceHost.Metering.AgreementLogicCore

/-!
What `GetRegisters` makes of the registers of a measure point, and what a lookup in the
table finds while the loop over the table activates registers.
-/

namespace ServiceHost.Metering

open Library

section Table

def registersOf (meters : List Meter.Registers) : List Register := meters.flatMap Meter.Registers.registers

def tableOf (hash : List Printed → Nat) (registers : List Register) : RegisterTable where
  slots := registers.mapIdx fun id register => ⟨hash register.hashed, id, register.key⟩
  registers := registers

structure Enterable (registers : List Register) : Prop where
  identified : ∀ register ∈ registers, register.meterID ≠ none
  different : registers.Pairwise fun first second => first.equals second = false

structure Tabular (meters : List Meter.Registers) : Prop where
  keys : ∀ meter ∈ meters, meter.key ≠ 0
  enterable : Enterable (registersOf meters)

instance (registers : List Register) : Decidable (Enterable registers) :=
  decidable_of_iff ((∀ register ∈ registers, register.meterID ≠ none) ∧
      registers.Pairwise fun first second => first.equals second = false)
    ⟨fun ⟨identified, different⟩ => ⟨identified, different⟩,
      fun enterable => ⟨enterable.identified, enterable.different⟩⟩

instance (meters : List Meter.Registers) : Decidable (Tabular meters) :=
  decidable_of_iff ((∀ meter ∈ meters, meter.key ≠ 0) ∧ Enterable (registersOf meters))
    ⟨fun ⟨keys, enterable⟩ => ⟨keys, enterable⟩, fun tabular => ⟨tabular.keys, tabular.enterable⟩⟩

variable {hash : List Printed → Nat} {registers : List Register}

theorem Enterable.append_singleton_iff {register : Register} :
    Enterable (registers ++ [register]) ↔ Enterable registers ∧ register.meterID ≠ none ∧
      ∀ entered ∈ registers, entered.equals register = false := by
  constructor
  · intro all
    obtain ⟨different, -, new⟩ := List.pairwise_append.mp all.different
    exact ⟨⟨fun other member => all.identified other (List.mem_append_left _ member), different⟩,
      all.identified register (by simp), fun entered member => new entered member register (by simp)⟩
  · rintro ⟨old, identified, new⟩
    refine ⟨fun other member => ?_, List.pairwise_append.mpr ⟨old.different, by simp, ?_⟩⟩
    · obtain inOld | rfl := List.mem_append.mp member |>.imp id List.mem_singleton.mp
      · exact old.identified other inOld
      · exact identified
    · intro entered member other isNew
      rw [List.mem_singleton.mp isNew]
      exact new entered member

theorem objectOf_getElem (registers : List Register) (id : Nat) (inside : id < registers.length) :
    objectOf registers id = registers[id] := by
  simp [objectOf, inside]

theorem tableOf_registers (hash : List Printed → Nat) (registers : List Register) :
    (tableOf hash registers).registers = registers := rfl

theorem mem_slots_iff {slot : Slot} : slot ∈ (tableOf hash registers).slots ↔
    slot.register < registers.length ∧ slot.code = hash (objectOf registers slot.register).hashed ∧
      slot.meter = (objectOf registers slot.register).key := by
  simp only [tableOf, List.mem_mapIdx]
  constructor
  · rintro ⟨id, inside, rfl⟩
    simp [objectOf_getElem registers id inside, inside]
  · rintro ⟨inside, code, meter⟩
    refine ⟨slot.register, inside, ?_⟩
    rw [← objectOf_getElem registers slot.register inside, ← code, ← meter]

theorem add_eq_ok_iff {register : Register} {table : RegisterTable} :
    (tableOf hash registers).add hash register.key register = .ok table ↔
      (register.meterID ≠ none ∧ ∀ entered ∈ registers, entered.equals register = false) ∧
        table = tableOf hash (registers ++ [register]) := by
  have grown : tableOf hash (registers ++ [register]) =
      ⟨(tableOf hash registers).slots ++ [⟨hash register.hashed, registers.length, register.key⟩],
        registers ++ [register]⟩ := by
    simp [tableOf, List.mapIdx_append]
  have taken : ((tableOf hash registers).slots.any fun slot => slot.code == hash register.hashed &&
      (objectOf registers slot.register).equals register) = true ↔
        ∃ entered ∈ registers, entered.equals register = true := by
    simp only [List.any_eq_true, Bool.and_eq_true, beq_iff_eq, mem_slots_iff]
    constructor
    · rintro ⟨slot, ⟨inside, -⟩, -, same⟩
      rw [objectOf_getElem registers _ inside] at same
      exact ⟨_, List.getElem_mem inside, same⟩
    · rintro ⟨entered, member, same⟩
      obtain ⟨id, inside, rfl⟩ := List.getElem_of_mem member
      refine ⟨⟨hash registers[id].hashed, id, registers[id].key⟩, ⟨inside, ?_⟩, ?_⟩
      · rw [objectOf_getElem registers id inside]
        exact ⟨rfl, rfl⟩
      · rw [objectOf_getElem registers id inside]
        exact ⟨congrArg hash (Register.hashed_eq_of_equals same), same⟩
  unfold RegisterTable.add Register.getHashCode
  cases identified : register.meterID with
  | none => simp
  | some meter =>
      simp only [ok_bind, ne_eq, reduceCtorEq, not_false_eq_true, true_and, tableOf_registers]
      by_cases duplicate : ∃ entered ∈ registers, entered.equals register = true
      · have refused : ¬∀ entered ∈ registers, entered.equals register = false := by
          obtain ⟨entered, member, same⟩ := duplicate
          intro different
          exact absurd ((different entered member).symm.trans same) Bool.false_ne_true
        simp only [taken.mpr duplicate, if_true, refused, false_and, iff_false]
        exact fun added => nomatch added
      · have fresh : ∀ entered ∈ registers, entered.equals register = false := fun entered member =>
          Bool.eq_false_iff.mpr fun same => duplicate ⟨entered, member, same⟩
        simp only [Bool.eq_false_iff.mpr fun any => duplicate (taken.mp any), Bool.false_eq_true, if_false,
          pure_eq_ok, Except.ok.injEq, grown]
        exact ⟨fun same => ⟨fresh, same.symm⟩, fun facts => facts.2.symm⟩

theorem addAll_eq_ok_iff {more : List Register} {key : Int} {table : RegisterTable}
    (own : ∀ register ∈ more, register.key = key) (entered : Enterable registers) :
    more.foldlM (fun table register => table.add hash key register) (tableOf hash registers) = .ok table ↔
      Enterable (registers ++ more) ∧ table = tableOf hash (registers ++ more) := by
  induction more generalizing registers with
  | nil => simp [entered, eq_comm]
  | cons register rest ih =>
      have ownKey : register.key = key := own register (by simp)
      rw [List.foldlM_cons, bind_eq_ok_iff, ← ownKey]
      constructor
      · rintro ⟨next, added, run⟩
        obtain ⟨fits, rfl⟩ := add_eq_ok_iff.mp added
        have grown := Enterable.append_singleton_iff.mpr ⟨entered, fits⟩
        rw [ownKey] at run
        have done := (ih (fun other member => own other (by simp [member])) grown).mp run
        simpa using done
      · rintro ⟨all, rfl⟩
        have split : registers ++ register :: rest = (registers ++ [register]) ++ rest := by simp
        rw [split] at all
        have grown : Enterable (registers ++ [register]) :=
          ⟨fun other member => all.identified other (List.mem_append_left _ member),
            (List.pairwise_append.mp all.different).1⟩
        refine ⟨_, add_eq_ok_iff.mpr ⟨(Enterable.append_singleton_iff.mp grown).2, rfl⟩, ?_⟩
        rw [ownKey]
        exact (ih (fun other member => own other (by simp [member])) grown).mpr ⟨all, by rw [split]⟩

theorem getRegisters_eq_ok_iff {meters : List Meter.Registers} {table : RegisterTable} :
    getRegisters hash meters = .ok table ↔ Tabular meters ∧ table = tableOf hash (registersOf meters) := by
  have fromAny : ∀ registers, Enterable registers →
      (meters.foldlM (addRegisters hash) (tableOf hash registers) = .ok table ↔
        (∀ meter ∈ meters, meter.key ≠ 0) ∧ Enterable (registers ++ registersOf meters) ∧
          table = tableOf hash (registers ++ registersOf meters)) := by
    induction meters with
    | nil => intro registers entered; simp [registersOf, entered, eq_comm]
    | cons meter rest ih =>
        intro registers entered
        have parts : registers ++ registersOf (meter :: rest) =
            (registers ++ meter.registers) ++ registersOf rest := by simp [registersOf]
        rw [List.foldlM_cons, bind_eq_ok_iff, parts]
        unfold addRegisters
        constructor
        · rintro ⟨next, added, run⟩
          split at added
          · cases added
          · rename_i hasKey
            obtain ⟨grown, rfl⟩ := (addAll_eq_ok_iff meter.own entered).mp added
            obtain ⟨keys, done⟩ := (ih _ grown).mp run
            exact ⟨by simpa using ⟨hasKey, keys⟩, done⟩
        · rintro ⟨keys, all, rfl⟩
          have hasKey : meter.key ≠ 0 := keys meter (by simp)
          have grown : Enterable (registers ++ meter.registers) :=
            ⟨fun other member => all.identified other (List.mem_append_left _ member),
              (List.pairwise_append.mp all.different).1⟩
          refine ⟨_, ?_, (ih _ grown).mpr ⟨fun other member => keys other (by simp [member]), all, rfl⟩⟩
          rw [if_neg hasKey]
          exact (addAll_eq_ok_iff meter.own entered).mpr ⟨grown, rfl⟩
  have start := fromAny [] ⟨by simp, by simp⟩
  rw [List.nil_append] at start
  rw [getRegisters]
  exact start.trans ⟨fun ⟨keys, enterable, same⟩ => ⟨⟨keys, enterable⟩, same⟩,
    fun ⟨tabular, same⟩ => ⟨tabular.keys, tabular.enterable, same⟩⟩

end Table

section Lookup

structure Current (registers current : List Register) : Prop where
  length : current.length = registers.length
  each : ∀ id < registers.length, objectOf current id = objectOf registers id ∨
    (objectOf registers id).state = Register.inactive ∧
      objectOf current id = (objectOf registers id).activated

def Finds (hash : List Printed → Nat) (registers current : List Register) (id : Nat) : Prop :=
  ∃ other < registers.length,
    hash (objectOf registers other).hashed = hash (objectOf current id).hashed ∧
      (other = id ∨ (objectOf current other).equals (objectOf current id) = true)

variable {hash : List Printed → Nat} {registers current : List Register} {id : Nat}

theorem Current.refl (registers : List Register) : Current registers registers :=
  ⟨rfl, fun _ _ => Or.inl rfl⟩

theorem Current.key (now : Current registers current) (inside : id < registers.length) :
    (objectOf current id).key = (objectOf registers id).key := by
  obtain same | ⟨-, same⟩ := now.each id inside
  · rw [same]
  · rw [same, Register.activated_key]

theorem Current.meterID (now : Current registers current) (inside : id < registers.length) :
    (objectOf current id).meterID = (objectOf registers id).meterID := by
  obtain same | ⟨-, same⟩ := now.each id inside
  · rw [same]
  · rw [same, Register.activated_meterID]

theorem objectOf_set_self (register : Register) (inside : id < current.length) :
    objectOf (current.set id register) id = register := by
  simp [objectOf, inside]

theorem objectOf_set_of_ne {other : Nat} (register : Register) (different : other ≠ id) :
    objectOf (current.set id register) other = objectOf current other := by
  simp [objectOf, List.getElem?_set_ne different.symm]

theorem Current.activate (now : Current registers current) (inside : id < registers.length)
    (inactive : (objectOf registers id).state = Register.inactive) :
    Current registers (current.set id (objectOf registers id).activated) := by
  refine ⟨by rw [List.length_set, now.length], fun other otherInside => ?_⟩
  by_cases same : other = id
  · subst same
    exact Or.inr ⟨inactive, objectOf_set_self _ (now.length ▸ inside)⟩
  · rw [objectOf_set_of_ne _ same]
    exact now.each other otherInside

theorem finds_of_unchanged (inside : id < registers.length)
    (unchanged : objectOf current id = objectOf registers id) : Finds hash registers current id :=
  ⟨id, inside, by rw [unchanged], Or.inl rfl⟩

theorem Enterable.equals_eq_false (enterable : Enterable registers) {first second : Nat}
    (firstInside : first < registers.length) (secondInside : second < registers.length)
    (different : first ≠ second) :
    (objectOf registers first).equals (objectOf registers second) = false := by
  rw [objectOf_getElem _ _ firstInside, objectOf_getElem _ _ secondInside]
  obtain before | after := Nat.lt_or_gt_of_ne different
  · exact List.pairwise_iff_getElem.mp enterable.different first second firstInside secondInside before
  · rw [Register.equals_comm]
    exact List.pairwise_iff_getElem.mp enterable.different second first secondInside firstInside after

theorem finds_activated_iff (enterable : Enterable registers) (now : Current registers current)
    (inside : id < registers.length) (inactive : (objectOf registers id).state = Register.inactive)
    (changed : objectOf current id = (objectOf registers id).activated) :
    Finds hash registers current id ↔
      hash (objectOf registers id).activated.hashed = hash (objectOf registers id).hashed ∨
        ∃ other < registers.length, (objectOf registers other).equals (objectOf registers id).activated = true := by
  rw [Finds, changed]
  constructor
  · rintro ⟨other, otherInside, code, found⟩
    by_cases same : other = id
    · subst same
      exact Or.inl code.symm
    · have equal := found.resolve_left same
      obtain entered | ⟨otherInactive, activated⟩ := now.each other otherInside
      · rw [entered] at equal
        exact Or.inr ⟨other, otherInside, equal⟩
      · -- Two registers that were activated differ as they did before.
        rw [activated] at equal
        have before := Register.equals_of_activated (otherInactive.trans inactive.symm) equal
        rw [enterable.equals_eq_false otherInside inside same] at before
        cases before
  · rintro (code | ⟨other, otherInside, equal⟩)
    · exact ⟨id, inside, code.symm, Or.inl rfl⟩
    · have active : (objectOf registers other).state = Register.active := by
        rw [Register.state_eq_of_equals equal, Register.activated_state]
      obtain entered | ⟨otherInactive, -⟩ := now.each other otherInside
      · refine ⟨other, otherInside, congrArg hash (Register.hashed_eq_of_equals equal), Or.inr ?_⟩
        rw [entered]
        exact equal
      · rw [active] at otherInactive
        exact absurd otherInactive (by decide)

theorem lookUp_run (services : Services) (enterable : Enterable registers) {world : World}
    (now : Current registers world.registers) (inside : id < registers.length) :
    ∃ meter, lookUp services (tableOf services.hash registers).slots id world =
        (.ok meter, { world with lookups := world.lookups ++ [(id, meter)] }) ∧
      (Finds services.hash registers world.registers id → meter = some (objectOf registers id).key) ∧
      (¬Finds services.hash registers world.registers id → meter = none) := by
  have named : (objectOf world.registers id).meterID ≠ none := by
    rw [now.meterID inside, objectOf_getElem _ _ inside]
    exact enterable.identified _ (List.getElem_mem inside)
  have code : (objectOf world.registers id).getHashCode services.hash =
      .ok (services.hash (objectOf world.registers id).hashed) := by
    unfold Register.getHashCode
    cases named' : (objectOf world.registers id).meterID with
    | none => exact absurd named' named
    | some meter => rfl
  have perm := services.probing.perm (tableOf services.hash registers).slots
  have hashed : orSystem ((objectOf world.registers id).getHashCode services.hash) world =
      (.ok (services.hash (objectOf world.registers id).hashed), world) := by
    rw [code]
    rfl
  refine ⟨(findSlot (services.probing.order (tableOf services.hash registers).slots) world.registers
    (services.hash (objectOf world.registers id).hashed) id).map Slot.meter, ?_, fun finds => ?_, fun lost => ?_⟩
  · rw [lookUp, Program.bind_of_ok (Program.read_run _ world), Program.bind_of_ok hashed]
    rfl
  · obtain ⟨other, otherInside, sameCode, found⟩ := finds
    have entered : (⟨services.hash (objectOf registers other).hashed, other, (objectOf registers other).key⟩ :
        Slot) ∈ services.probing.order (tableOf services.hash registers).slots :=
      perm.mem_iff.mpr (mem_slots_iff.mpr ⟨otherInside, rfl, rfl⟩)
    unfold findSlot
    cases search : List.find? _ (services.probing.order (tableOf services.hash registers).slots) with
    | none =>
        have missed := List.find?_eq_none.mp search _ entered
        simp only [sameCode, beq_self_eq_true, Bool.true_and, Bool.or_eq_true, beq_iff_eq] at missed
        exact absurd found missed
    | some slot =>
        have member := perm.mem_iff.mp (List.mem_of_find?_eq_some search)
        obtain ⟨slotInside, -, meter⟩ := mem_slots_iff.mp member
        have matched := List.find?_some search
        simp only [Bool.and_eq_true, Bool.or_eq_true, beq_iff_eq] at matched
        have ownKey : (objectOf registers slot.register).key = (objectOf registers id).key := by
          obtain same | equal := matched.2
          · rw [same]
          · rw [← now.key slotInside, ← now.key inside, Register.key_eq_of_equals equal]
        rw [Option.map_some, meter, ownKey]
  · have search : findSlot (services.probing.order (tableOf services.hash registers).slots) world.registers
        (services.hash (objectOf world.registers id).hashed) id = none := by
      refine List.find?_eq_none.mpr fun slot member matched => lost ?_
      obtain ⟨slotInside, slotCode, -⟩ := mem_slots_iff.mp (perm.mem_iff.mp member)
      simp only [Bool.and_eq_true, Bool.or_eq_true, beq_iff_eq] at matched
      exact ⟨slot.register, slotInside, slotCode.symm.trans matched.1, matched.2⟩
    rw [search]
    rfl

end Lookup

end ServiceHost.Metering
