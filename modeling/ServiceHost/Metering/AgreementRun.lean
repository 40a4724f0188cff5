import ServiceHost.Metering.AgreementTurn

/-!
How keys are reserved, and what a whole run of `SubmitAgreement` leaves: the keys that were
reserved, what the transaction makes of them, and the keys that are deleted in the end.
-/

namespace ServiceHost.Metering

open Library

section Reservation

variable {services : Services} {register : Nat}

def Retried (services : Services) (register turn : Nat) : Prop :=
  ∃ uniqueConstraint, services.reservations.attempt register turn = .error (.icc 1012 uniqueConstraint) ∧
    ¬(uniqueConstraint = true ∧ services.retryDelay < 0)

def Got (services : Services) (register : Nat) (key : Int) : Prop :=
  services.fails (.openConnectionForKey register) = none ∧
    ∃ turn < services.retryCount, (∀ earlier < turn, Retried services register earlier) ∧
      services.reservations.attempt register turn = .ok key

def Exhausted (services : Services) (register : Nat) : Prop :=
  services.fails (.openConnectionForKey register) = none ∧
    ∀ turn < services.retryCount, Retried services register turn

def Broken (services : Services) (register : Nat) : Prop :=
  ¬Exhausted services register ∧ ∀ key, ¬Got services register key

theorem Got.unique {key other : Int} (got : Got services register key) (gotOther : Got services register other) :
    key = other := by
  obtain ⟨-, turn, -, vain, ok⟩ := got
  obtain ⟨-, turn', -, vain', ok'⟩ := gotOther
  obtain before | rfl | after := Nat.lt_trichotomy turn turn'
  · obtain ⟨_, fault, -⟩ := vain' turn before
    cases ok.symm.trans fault
  · exact Except.ok.inj (ok.symm.trans ok')
  · obtain ⟨_, fault, -⟩ := vain turn' after
    cases ok'.symm.trans fault

theorem Got.not_exhausted {key : Int} (got : Got services register key) : ¬Exhausted services register := by
  rintro ⟨-, vain⟩
  obtain ⟨-, turn, inside, -, ok⟩ := got
  obtain ⟨_, fault, -⟩ := vain turn inside
  cases ok.symm.trans fault

theorem Got.register_unique {other : Nat} {key : Int} (got : Got services register key)
    (gotOther : Got services other key) : register = other := by
  obtain ⟨-, turn, -, -, ok⟩ := got
  obtain ⟨-, turn', -, -, ok'⟩ := gotOther
  exact services.reservations.distinct register turn other turn' key ok ok'

theorem Got.pos {key : Int} (got : Got services register key) : 0 < key := by
  obtain ⟨-, turn, -, -, ok⟩ := got
  exact services.reservations.positive register turn key ok

inductive Fetches (services : Services) (register : Nat) (world : World) : Except Fault Int × World → Prop
  | got (key : Int) (got : Got services register key) :
      Fetches services register world (.ok key, { world with reserved := world.reserved ++ [key] })
  | exhausted (vain : Exhausted services register) : Fetches services register world (.ok (-1), world)
  | broken (fault : Fault) (broken : Broken services register) :
      Fetches services register world (.error fault, world)

theorem broken_of_attempt {turn : Nat} {fault : Fault} (inside : turn < services.retryCount)
    (vain : ∀ earlier < turn, Retried services register earlier)
    (attempt : services.reservations.attempt register turn = .error fault)
    (last : ¬Retried services register turn) : Broken services register := by
  refine ⟨fun exhausted => last (exhausted.2 turn inside), fun key ⟨_, turn', _, vain', ok⟩ => ?_⟩
  obtain before | rfl | after := Nat.lt_trichotomy turn turn'
  · exact last (vain' turn before)
  · cases attempt.symm.trans ok
  · obtain ⟨_, fault, -⟩ := vain turn' after
    cases ok.symm.trans fault

theorem fetchFrom_run (opened : services.fails (.openConnectionForKey register) = none) (world : World)
    {left turn : Nat} (count : turn + left = services.retryCount)
    (vain : ∀ earlier < turn, Retried services register earlier) :
    Fetches services register world (fetchFrom services register left turn world) := by
  induction left generalizing turn with
  | zero =>
      refine .exhausted ⟨opened, fun turn' inside => vain turn' ?_⟩
      omega
  | succ left ih =>
      have inside : turn < services.retryCount := by omega
      rw [fetchFrom]
      cases attempt : services.reservations.attempt register turn with
      | ok key => exact .got key ⟨opened, turn, inside, vain, attempt⟩
      | error fault =>
          have breaks (last : ¬Retried services register turn) : Broken services register :=
            broken_of_attempt inside vain attempt last
          cases fault with
          | icc id uniqueConstraint =>
              by_cases generic : id = 1012
              · subst generic
                by_cases negative : uniqueConstraint = true ∧ services.retryDelay < 0
                · simp only [if_true, if_pos negative]
                  refine .broken _ (breaks ?_)
                  rintro ⟨_, fault, delay⟩
                  cases attempt.symm.trans fault
                  exact delay negative
                · simp only [if_true, if_neg negative]
                  have retried : Retried services register turn := ⟨_, attempt, negative⟩
                  refine ih (by omega) fun earlier before => ?_
                  obtain older | rfl := Nat.lt_succ_iff_lt_or_eq.mp before
                  · exact vain earlier older
                  · exact retried
              · simp only [if_neg generic]
                refine .broken _ (breaks ?_)
                rintro ⟨_, fault, -⟩
                cases attempt.symm.trans fault
                exact generic rfl
          | system exception =>
              exact .broken _ (breaks fun ⟨_, fault, _⟩ => nomatch attempt.symm.trans fault)
          | other => exact .broken _ (breaks fun ⟨_, fault, _⟩ => nomatch attempt.symm.trans fault)

theorem fetchNewKey_run (services : Services) (register : Nat) (world : World) :
    Fetches services register world (fetchNewKey services register world) := by
  unfold fetchNewKey
  cases opened : services.fails (.openConnectionForKey register) with
  | none =>
      rw [Program.bind_of_ok (by rw [call_run, opened])]
      exact fetchFrom_run opened world (Nat.zero_add _) fun _ before => absurd before (Nat.not_lt_zero _)
  | some fault =>
      rw [Program.bind_of_error (by rw [call_run, opened])]
      refine .broken fault ⟨fun exhausted => ?_, fun key got => ?_⟩
      · cases opened.symm.trans exhausted.1
      · cases opened.symm.trans got.1

def Listed (services : Services) (register : Nat) (key : Int) : Prop :=
  Got services register key ∨ Exhausted services register ∧ key = -1

def Listing (services : Services) (first : Nat) (keys : List Int) : Prop :=
  ∀ position (inside : position < keys.length), Listed services (first + position) keys[position]

def reservedOf (keys : List Int) : List Int := keys.filter fun key => 0 < key

theorem reservedOf_cons (key : Int) (keys : List Int) :
    reservedOf (key :: keys) = reservedOf [key] ++ reservedOf keys := List.filter_append [key] keys

theorem Listed.pos_iff {key : Int} (listed : Listed services register key) :
    0 < key ↔ Got services register key := by
  obtain got | ⟨exhausted, rfl⟩ := listed
  · exact ⟨fun _ => got, fun _ => got.pos⟩
  · exact ⟨fun positive => absurd positive (by decide), fun got => absurd exhausted got.not_exhausted⟩

theorem Listing.at {keys : List Int} (listing : Listing services 0 keys) {position : Nat}
    (inside : position < keys.length) : Listed services position keys[position] := by
  have listed := listing position inside
  rwa [Nat.zero_add] at listed

theorem Listed.not_broken {key : Int} (listed : Listed services register key) :
    ¬Broken services register := by
  rintro ⟨notExhausted, notGot⟩
  obtain got | ⟨exhausted, -⟩ := listed
  · exact notGot key got
  · exact notExhausted exhausted

theorem Listing.cons {first : Nat} {key : Int} {keys : List Int} (listed : Listed services first key)
    (listing : Listing services (first + 1) keys) : Listing services first (key :: keys) := by
  intro position inside
  cases position with
  | zero => exact listed
  | succ position =>
      have shown := listing position (Nat.lt_of_succ_lt_succ inside)
      rwa [Nat.add_right_comm, Nat.add_assoc] at shown

theorem Listing.mem_reservedOf_iff {first : Nat} {keys : List Int} (listing : Listing services first keys)
    {key : Int} : key ∈ reservedOf keys ↔ ∃ position < keys.length, Got services (first + position) key := by
  simp only [reservedOf, List.mem_filter, decide_eq_true_eq]
  constructor
  · rintro ⟨member, positive⟩
    obtain ⟨position, inside, rfl⟩ := List.getElem_of_mem member
    exact ⟨position, inside, (listing position inside).pos_iff.mp positive⟩
  · rintro ⟨position, inside, got⟩
    obtain shown | ⟨exhausted, -⟩ := listing position inside
    · rw [got.unique shown]
      exact ⟨List.getElem_mem inside, shown.pos⟩
    · exact absurd exhausted got.not_exhausted

theorem placeHoldersFrom_run (services : Services) (left first : Nat) (world : World) :
    ∃ keys outcome, placeHoldersFrom services left first world =
        (outcome, { world with reserved := world.reserved ++ reservedOf keys }) ∧
      Listing services first keys ∧
      (outcome = .ok keys ∧ keys.length = left ∨
        (∃ fault, outcome = .error fault) ∧ keys.length < left ∧ Broken services (first + keys.length)) := by
  induction left generalizing first world with
  | zero =>
      refine ⟨[], .ok [], ?_, fun position inside => absurd inside (Nat.not_lt_zero _), Or.inl ⟨rfl, rfl⟩⟩
      rw [reservedOf, List.filter_nil, List.append_nil]
      rfl
  | succ left ih =>
      have goes {key : Int} {next : World} (listed : Listed services first key)
          (fetched : fetchNewKey services first world = (.ok key, next))
          (reserved : next = { world with reserved := world.reserved ++ reservedOf [key] }) :
          ∃ keys outcome, placeHoldersFrom services (left + 1) first world =
              (outcome, { world with reserved := world.reserved ++ reservedOf keys }) ∧
            Listing services first keys ∧
            (outcome = .ok keys ∧ keys.length = left + 1 ∨
              (∃ fault, outcome = .error fault) ∧ keys.length < left + 1 ∧
                Broken services (first + keys.length)) := by
        obtain ⟨keys, outcome, run, listing, ends⟩ := ih (first + 1) next
        have collected : { next with reserved := next.reserved ++ reservedOf keys } =
            { world with reserved := world.reserved ++ reservedOf (key :: keys) } := by
          rw [reserved, reservedOf_cons key keys, ← List.append_assoc]
        rw [collected] at run
        rw [placeHoldersFrom, Program.bind_of_ok fetched]
        obtain ⟨rfl, length⟩ | ⟨⟨fault, rfl⟩, length, broken⟩ := ends
        · exact ⟨key :: keys, _, Program.bind_of_ok run, listing.cons listed, Or.inl ⟨rfl, by simp [length]⟩⟩
        · refine ⟨key :: keys, _, Program.bind_of_error run, listing.cons listed, Or.inr ⟨⟨fault, rfl⟩, ?_, ?_⟩⟩
          · simpa using length
          · rwa [List.length_cons, Nat.add_comm keys.length 1, ← Nat.add_assoc]
      cases fetch : fetchNewKey services first world with
      | mk fetched next =>
          have fetches := fetchNewKey_run services first world
          rw [fetch] at fetches
          cases fetches with
          | got key got =>
              refine goes (Or.inl got) fetch ?_
              rw [reservedOf, List.filter_cons, if_pos (decide_eq_true got.pos)]
              rfl
          | exhausted vain =>
              refine goes (Or.inr ⟨vain, rfl⟩) fetch ?_
              exact (congrArg (fun reserved => { world with reserved }) (List.append_nil _)).symm
          | broken fault broken =>
              refine ⟨[], .error fault, ?_, fun position inside => absurd inside (Nat.not_lt_zero _),
                Or.inr ⟨⟨fault, rfl⟩, Nat.succ_pos _, broken⟩⟩
              rw [placeHoldersFrom, Program.bind_of_error fetch]
              exact congrArg (fun reserved => (_, { world with reserved })) (List.append_nil _).symm

end Reservation

section Transaction

structure Opens (services : Services) : Prop where
  openTransaction : services.fails .openTransaction = none
  updateInstallation : services.fails .updateInstallation = none
  finishAgreement : services.fails .finishAgreement = none
  saveAgreement : services.fails .saveAgreement = none

structure Suits (services : Services) (agreement : Agreement) : Prop where
  getTransformers : services.fails .getTransformers = none
  getNewRegisters : services.fails .getNewRegisters = none
  tabular : Tabular services.registersWithin
  commodityMatch : commodityMatch agreement (registersOf services.registersWithin) = true

def LoopReached (services : Services) (agreement : Agreement) : Prop :=
  Opens services ∧ agreement.commodities ≠ [] ∧ Suits services agreement

instance (services : Services) : Decidable (Opens services) :=
  decidable_of_iff (services.fails .openTransaction = none ∧ services.fails .updateInstallation = none ∧
      services.fails .finishAgreement = none ∧ services.fails .saveAgreement = none)
    ⟨fun ⟨opened, updated, finished, saved⟩ => ⟨opened, updated, finished, saved⟩,
      fun ⟨opened, updated, finished, saved⟩ => ⟨opened, updated, finished, saved⟩⟩

instance (services : Services) (agreement : Agreement) : Decidable (Suits services agreement) :=
  decidable_of_iff (services.fails .getTransformers = none ∧ services.fails .getNewRegisters = none ∧
      Tabular services.registersWithin ∧
        commodityMatch agreement (registersOf services.registersWithin) = true)
    ⟨fun ⟨got, gotNew, tabular, fits⟩ => ⟨got, gotNew, tabular, fits⟩,
      fun ⟨got, gotNew, tabular, fits⟩ => ⟨got, gotNew, tabular, fits⟩⟩

instance (services : Services) (agreement : Agreement) : Decidable (LoopReached services agreement) :=
  inferInstanceAs (Decidable (_ ∧ _ ∧ _))

abbrev Services.newRegisters (services : Services) : List Register := registersOf services.registersWithin

def Services.turns (services : Services) : List Nat :=
  keysOf services (tableOf services.hash services.newRegisters).slots

structure Commits (services : Services) (agreement : Agreement) : Prop where
  opens : Opens services
  loop : agreement.commodities ≠ [] → Suits services agreement ∧
    ∀ id ∈ services.turns, TurnPasses services agreement id (objectOf services.newRegisters id)
  commit : services.fails .commit = none

def turnsReached (services : Services) (agreement : Agreement) : List Nat :=
  if LoopReached services agreement then
    turnsOf services agreement services.newRegisters services.turns
  else []

def keysTaken (services : Services) (agreement : Agreement) : Nat :=
  (turnsReached services agreement).countP fun id =>
    TakesKey services agreement id (objectOf services.newRegisters id)

theorem turns_perm (services : Services) : services.turns.Perm (List.range services.newRegisters.length) := by
  have entries : (tableOf services.hash services.newRegisters).slots.map Slot.register =
      List.range services.newRegisters.length := by
    refine List.ext_getElem (by simp [tableOf]) fun id inside _ => ?_
    simp [tableOf]
  exact ((services.enumeration.perm _).map Slot.register).trans (entries ▸ List.Perm.refl _)

theorem mem_turns_iff {services : Services} {id : Nat} :
    id ∈ services.turns ↔ id < services.newRegisters.length := by
  rw [(turns_perm services).mem_iff, List.mem_range]

structure TransactionEnds (services : Services) (agreement : Agreement) (world : World)
    (outcome : Except Fault Unit) (later : World) : Prop where
  returns : outcome = .ok () ↔ Commits services agreement
  lookups : later.lookups = world.lookups ++
    (turnsReached services agreement).flatMap (turnLookups services agreement services.newRegisters)
  definitions : later.definitions = world.definitions ++
    (turnsReached services agreement).flatMap (turnDefinitions services agreement services.newRegisters)
  liTSReservedKeys : later.liTSReservedKeys =
    world.liTSReservedKeys.drop (keysTaken services agreement)
  committed : outcome = .ok () → later.created = world.created ++
    (List.range (keysTaken services agreement)).map fun taken => world.liTSReservedKeys.getD taken 0
  rolledBack : outcome ≠ .ok () → later.created = world.created
  database : (later.reserved, later.deleted) = (world.reserved, world.deleted)
  own : outcome = .ok () → agreement.commodities ≠ [] → ∀ id < services.newRegisters.length,
    objectOf later.registers id = afterOrders agreement (objectOf services.newRegisters id)

variable {services : Services} {agreement : Agreement} {world later : World}

theorem transactionEnds_of_unreached {fault : Fault} (unreached : ¬LoopReached services agreement)
    (fails : ¬Commits services agreement)
    (same : later = { world with registers := later.registers, pending := later.pending }) :
    TransactionEnds services agreement world (.error fault) later := by
  have none : turnsReached services agreement = [] := if_neg unreached
  have zero : keysTaken services agreement = 0 := by rw [keysTaken, none, List.countP_nil]
  refine ⟨⟨fun ended => (nomatch ended), fun commits => absurd commits fails⟩, ?_, ?_, ?_,
    fun ended => (nomatch ended), fun _ => ?_, ?_, fun ended => (nomatch ended)⟩
  · rw [same, none, List.flatMap_nil, List.append_nil]
  · rw [same, none, List.flatMap_nil, List.append_nil]
  · rw [same, zero, List.drop_zero]
  · rw [same]
  · rw [same]

theorem registers_keyed {meters : List Meter.Registers} (tabular : Tabular meters) (id : Nat)
    (inside : id < (registersOf meters).length) : (objectOf (registersOf meters) id).key ≠ 0 := by
  rw [objectOf_getElem _ _ inside]
  obtain ⟨meter, member, own⟩ := List.mem_flatMap.mp (List.getElem_mem inside)
  rw [meter.own _ own]
  exact tabular.keys meter member

theorem updateRegisters_run (services : Services) (agreement : Agreement) (world : World) :
    ∃ outcome later, updateRegisters services agreement world = (outcome, later) ∧
      (Suits services agreement ∧ LoopEnds services agreement services.newRegisters services.turns
          { world with registers := services.newRegisters } outcome later ∨
        ¬Suits services agreement ∧ (∃ fault, outcome = .error fault) ∧
          later = { world with registers := later.registers }) := by
  unfold updateRegisters
  cases transformers : services.fails .getTransformers with
  | some fault =>
      refine ⟨_, _, Program.bind_of_error (by rw [call_run, transformers]), Or.inr ⟨fun suits => ?_, ⟨_, rfl⟩, rfl⟩⟩
      cases transformers.symm.trans suits.getTransformers
  | none =>
      rw [Program.bind_of_ok (by rw [call_run, transformers])]
      cases newRegisters : services.fails .getNewRegisters with
      | some fault =>
          refine ⟨_, _, Program.bind_of_error (by rw [call_run, newRegisters]),
            Or.inr ⟨fun suits => ?_, ⟨_, rfl⟩, rfl⟩⟩
          cases newRegisters.symm.trans suits.getNewRegisters
      | none =>
          rw [Program.bind_of_ok (by rw [call_run, newRegisters])]
          cases built : getRegisters services.hash services.registersWithin with
          | error exception =>
              have untabular : ¬Tabular services.registersWithin := fun tabular =>
                nomatch built.symm.trans (getRegisters_eq_ok_iff.mpr ⟨tabular, rfl⟩)
              exact ⟨_, _, Program.bind_of_error (orSystem_run _ world),
                Or.inr ⟨fun suits => untabular suits.tabular, ⟨_, rfl⟩, rfl⟩⟩
          | ok table =>
              obtain ⟨tabular, rfl⟩ := getRegisters_eq_ok_iff.mp built
              rw [Program.bind_of_ok (orSystem_run _ world), Program.bind_of_ok (Program.change_run _ world)]
              by_cases fits : commodityMatch agreement (registersOf services.registersWithin) = true
              · rw [tableOf_registers, if_pos fits]
                have fresh : ∀ id ∈ services.turns, Fresh services.newRegisters id
                    { world with registers := services.newRegisters } := fun id turn =>
                  ⟨Current.refl _, mem_turns_iff.mp turn, rfl⟩
                obtain ⟨outcome, later, run, ends⟩ := loopEnds services agreement tabular.enterable
                  (registers_keyed tabular) ((turns_perm services).nodup_iff.mpr List.nodup_range) fresh
                exact ⟨outcome, later, run, Or.inl ⟨⟨transformers, newRegisters, tabular, fits⟩, ends⟩⟩
              · rw [tableOf_registers, if_neg fits]
                exact ⟨_, _, rfl, Or.inr ⟨fun suits => fits suits.commodityMatch, ⟨_, rfl⟩, rfl⟩⟩

theorem commit_run (services : Services) (world : World) :
    (do
      services.call .commit
      Program.change fun world => { world with created := world.created ++ world.pending, pending := [] } :
        Program World Fault Unit) world =
      match services.fails .commit with
      | none => (.ok (), { world with created := world.created ++ world.pending, pending := [] })
      | some fault => (.error fault, world) := by
  cases commits : services.fails .commit with
  | none =>
      rw [Program.bind_of_ok (by rw [call_run, commits])]
      rfl
  | some fault => rw [Program.bind_of_error (by rw [call_run, commits])]

theorem transactionEnds_of_loop (opens : Opens services) (commodities : agreement.commodities ≠ [])
    (suits : Suits services agreement) {outcome : Except Fault Unit} (empty : world.pending = [])
    (loop : LoopEnds services agreement services.newRegisters services.turns
      { world with registers := services.newRegisters } outcome later) :
    (∀ fault, outcome = .error fault → TransactionEnds services agreement world (.error fault) later) ∧
      (∀ fault, outcome = .ok () → services.fails .commit = some fault →
        TransactionEnds services agreement world (.error fault) later) ∧
      (outcome = .ok () → services.fails .commit = none → TransactionEnds services agreement world (.ok ())
        { later with created := later.created ++ later.pending, pending := [] }) := by
  have reached : turnsReached services agreement =
      turnsOf services agreement services.newRegisters services.turns := if_pos ⟨opens, commodities, suits⟩
  have taken : keysTaken services agreement =
      takenOf services agreement services.newRegisters services.turns := by
    rw [keysTaken, reached, takenOf]
  have reserved : later.reserved = world.reserved := congrArg (·.1) loop.database
  have created : later.created = world.created := congrArg (·.2.1) loop.database
  have deleted : later.deleted = world.deleted := congrArg (·.2.2) loop.database
  have fails (fault : Fault) (uncommitted : ¬Commits services agreement) :
      TransactionEnds services agreement world (.error fault) later :=
    ⟨⟨fun ended => (by cases ended), fun commits => absurd commits uncommitted⟩, by rw [reached]; exact loop.lookups,
      by rw [reached]; exact loop.definitions, by rw [taken]; exact loop.liTSReservedKeys,
      fun ended => (by cases ended), fun _ => created, by rw [reserved, deleted], fun ended => (by cases ended)⟩
  refine ⟨fun fault failed => fails fault fun commits => ?_, fun fault _ failed => fails fault fun commits => ?_,
    fun returned commits => ⟨⟨fun _ => ⟨opens, fun _ => ⟨suits, loop.returns.mp returned⟩, commits⟩, fun _ => rfl⟩,
      by rw [reached]; exact loop.lookups, by rw [reached]; exact loop.definitions,
      by rw [taken]; exact loop.liTSReservedKeys, fun _ => ?_, fun failed => absurd rfl failed,
      by rw [reserved, deleted], fun _ _ id inside => loop.own returned id (mem_turns_iff.mpr inside)⟩⟩
  · have returned := loop.returns.mpr (commits.loop commodities).2
    cases failed.symm.trans returned
  · cases failed.symm.trans commits.commit
  · rw [taken, created, loop.pending returned]
    simp only [empty, List.nil_append]

theorem transactionEnds_of_nothing (opens : Opens services) (none : agreement.commodities = [])
    (empty : world.pending = []) (commits : services.fails .commit = Option.none) :
    TransactionEnds services agreement world (.ok ())
      { world with created := world.created ++ world.pending, pending := [] } := by
  have unreached : turnsReached services agreement = [] := if_neg fun reached => reached.2.1 none
  have zero : keysTaken services agreement = 0 := by rw [keysTaken, unreached, List.countP_nil]
  refine ⟨⟨fun _ => ⟨opens, fun commodities => absurd none commodities, commits⟩, fun _ => rfl⟩, ?_, ?_, ?_,
    fun _ => ?_, fun failed => absurd rfl failed, rfl, fun _ commodities => absurd none commodities⟩
  · rw [unreached, List.flatMap_nil, List.append_nil]
  · rw [unreached, List.flatMap_nil, List.append_nil]
  · rw [zero, List.drop_zero]
  · rw [zero, empty]
    rfl

theorem transactionBody_run (agreement : Agreement) (opened : services.fails .openTransaction = none)
    (empty : world.pending = []) :
    ∃ outcome later, transactionBody services agreement world = (outcome, later) ∧
      TransactionEnds services agreement world outcome later := by
  have early {fault : Fault} (failed : ¬Opens services) :
      TransactionEnds services agreement world (.error fault) world :=
    transactionEnds_of_unreached (fun reached => failed reached.1) (fun commits => failed commits.opens) rfl
  unfold transactionBody
  cases updated : services.fails .updateInstallation with
  | some fault =>
      exact ⟨_, _, Program.bind_of_error (by rw [call_run, updated]),
        early fun opens => nomatch updated.symm.trans opens.updateInstallation⟩
  | none =>
      rw [Program.bind_of_ok (by rw [call_run, updated])]
      cases finished : services.fails .finishAgreement with
      | some fault =>
          exact ⟨_, _, Program.bind_of_error (by rw [call_run, finished]),
            early fun opens => nomatch finished.symm.trans opens.finishAgreement⟩
      | none =>
          rw [Program.bind_of_ok (by rw [call_run, finished])]
          cases saved : services.fails .saveAgreement with
          | some fault =>
              exact ⟨_, _, Program.bind_of_error (by rw [call_run, saved]),
                early fun opens => nomatch saved.symm.trans opens.saveAgreement⟩
          | none =>
              have opens : Opens services := ⟨opened, updated, finished, saved⟩
              rw [Program.bind_of_ok (by rw [call_run, saved])]
              by_cases some : agreement.commodities.length > 0
              · have commodities := List.ne_nil_of_length_pos some
                rw [if_pos some]
                obtain ⟨outcome, later, run, ⟨suits, loop⟩ | ⟨unsuited, ⟨fault, rfl⟩, same⟩⟩ :=
                  updateRegisters_run services agreement world
                · obtain ⟨fails, uncommitted, committed⟩ :=
                    transactionEnds_of_loop opens commodities suits empty loop
                  cases outcome with
                  | error fault => exact ⟨_, _, Program.bind_of_error run, fails fault rfl⟩
                  | ok _ =>
                      have last := commit_run services later
                      rw [Program.bind_of_ok run]
                      cases commits : services.fails .commit with
                      | none =>
                          rw [commits] at last
                          exact ⟨_, _, last, committed rfl commits⟩
                      | some fault =>
                          rw [commits] at last
                          exact ⟨_, _, last, uncommitted fault rfl commits⟩
                · refine ⟨_, _, Program.bind_of_error run, transactionEnds_of_unreached ?_ ?_ ?_⟩
                  · exact fun reached => unsuited reached.2.2
                  · exact fun commits => unsuited (commits.loop commodities).1
                  · rw [same]
              · have none : agreement.commodities = [] :=
                  List.eq_nil_of_length_eq_zero (Nat.eq_zero_of_not_pos some)
                have unreached : ¬LoopReached services agreement := fun reached => reached.2.1 none
                have last := commit_run services world
                rw [if_neg some]
                cases commits : services.fails .commit with
                | some fault =>
                    rw [commits] at last
                    refine ⟨_, _, last, transactionEnds_of_unreached unreached (fun committed => ?_) rfl⟩
                    cases commits.symm.trans committed.commit
                | none =>
                    rw [commits] at last
                    exact ⟨_, _, last, transactionEnds_of_nothing opens none empty commits⟩

theorem inTransaction_run (services : Services) (agreement : Agreement) (empty : world.pending = []) :
    ∃ outcome later, inTransaction services agreement world = (outcome, later) ∧
      TransactionEnds services agreement world outcome later := by
  unfold inTransaction
  cases opened : services.fails .openTransaction with
  | some fault =>
      refine ⟨_, _, Program.bind_of_error (by rw [call_run, opened]), transactionEnds_of_unreached ?_ ?_ rfl⟩
      · exact fun reached => nomatch opened.symm.trans reached.1.openTransaction
      · exact fun commits => nomatch opened.symm.trans commits.opens.openTransaction
  | none =>
      rw [Program.bind_of_ok (by rw [call_run, opened])]
      obtain ⟨outcome, later, run, ends⟩ := transactionBody_run agreement opened empty
      cases outcome with
      | ok _ => exact ⟨_, _, Program.handle_of_ok run, ends⟩
      | error fault =>
          refine ⟨_, _, Program.handle_of_error run, ?_⟩
          exact ⟨ends.returns, ends.lookups, ends.definitions, ends.liTSReservedKeys, ends.committed,
            ends.rolledBack, ends.database, ends.own⟩

end Transaction

section Submit

structure SetupPasses (services : Services) : Prop where
  openConnection : services.fails .openConnection = none
  getByID : services.fails .getByID = none
  measurePoints : services.measurePoints ≠ 0
  getRegisters : services.fails .getRegisters = none
  tabular : Tabular services.registersBefore

def Services.placeholderCount (services : Services) : Nat := (registersOf services.registersBefore).length

variable {services : Services} {agreement : Agreement}

theorem deleteKeys_run (services : Services) (turn : Nat) (keys : List Int) (world : World) :
    ∃ outcome count, deleteKeys services turn keys world =
        (outcome, { world with deleted := world.deleted ++ keys.take count }) ∧ count ≤ keys.length ∧
      (∀ position < count, services.fails (.deleteByTSKey (turn + position)) = none) ∧
      (count < keys.length → services.fails (.deleteByTSKey (turn + count)) ≠ none) ∧
      (outcome = .ok () ↔ count = keys.length) := by
  induction keys generalizing turn world with
  | nil =>
      refine ⟨.ok (), 0, ?_, Nat.le_refl _, fun _ before => absurd before (Nat.not_lt_zero _),
        fun before => absurd before (Nat.not_lt_zero _), by simp⟩
      rw [List.take_nil, List.append_nil]
      rfl
  | cons key rest ih =>
      rw [deleteKeys]
      cases deletes : services.fails (.deleteByTSKey turn) with
      | some fault =>
          refine ⟨.error fault, 0, ?_, Nat.zero_le _, fun _ before => absurd before (Nat.not_lt_zero _),
            fun _ passes => (nomatch deletes.symm.trans passes), by simp⟩
          rw [Program.bind_of_error (by rw [call_run, deletes]), List.take_zero, List.append_nil]
      | none =>
          obtain ⟨outcome, count, run, bound, passed, stopped, returns⟩ :=
            ih (turn + 1) { world with deleted := world.deleted ++ [key] }
          rw [Program.bind_of_ok (by rw [call_run, deletes]), Program.bind_of_ok (Program.change_run _ world)]
          refine ⟨outcome, count + 1, ?_, Nat.succ_le_succ bound, fun position before => ?_, fun before => ?_, ?_⟩
          · rw [run, List.take_succ_cons, List.append_assoc]
            rfl
          · cases position with
            | zero => exact deletes
            | succ position =>
                rw [← Nat.add_assoc, Nat.add_right_comm]
                exact passed position (Nat.lt_of_succ_lt_succ before)
          · rw [← Nat.add_assoc, Nat.add_right_comm]
            exact stopped (Nat.lt_of_succ_lt_succ before)
          · rw [returns, List.length_cons, Nat.add_right_cancel_iff]

inductive SubmitEnds (services : Services) (agreement : Agreement) : Except Fault Unit × World → Prop
  | unprepared (fault : Fault) (fails : ¬SetupPasses services) :
      SubmitEnds services agreement (.error fault, World.initial)
  | unreserved (fault : Fault) (keys : List Int) (setup : SetupPasses services)
      (listing : Listing services 0 keys) (inside : keys.length < services.placeholderCount)
      (broken : Broken services keys.length) :
      SubmitEnds services agreement (.error fault, { World.initial with reserved := reservedOf keys })
  | submitted (outcome last : Except Fault Unit) (keys : List Int) (world : World) (count : Nat)
      (setup : SetupPasses services) (listing : Listing services 0 keys)
      (length : keys.length = services.placeholderCount)
      (transaction : TransactionEnds services agreement
        { World.initial with reserved := reservedOf keys, liTSReservedKeys := keys } outcome world)
      (bound : count ≤ world.liTSReservedKeys.length)
      (passed : ∀ position < count, services.fails (.deleteByTSKey position) = none)
      (stopped : count < world.liTSReservedKeys.length → services.fails (.deleteByTSKey count) ≠ none)
      (returns : last = .ok () ↔ outcome = .ok () ∧ count = world.liTSReservedKeys.length) :
      SubmitEnds services agreement
        (last, { world with deleted := world.deleted ++ world.liTSReservedKeys.take count })

theorem ensure_run (services : Services) (agreement : Agreement) {world : World} (empty : world.pending = []) :
    ∃ outcome last later count, Program.ensure (inTransaction services agreement) (do
        let left ← Program.read fun world => world.liTSReservedKeys
        deleteKeys services 0 left) world =
          (last, { later with deleted := later.deleted ++ later.liTSReservedKeys.take count }) ∧
      TransactionEnds services agreement world outcome later ∧ count ≤ later.liTSReservedKeys.length ∧
      (∀ position < count, services.fails (.deleteByTSKey position) = none) ∧
      (count < later.liTSReservedKeys.length → services.fails (.deleteByTSKey count) ≠ none) ∧
      (last = .ok () ↔ outcome = .ok () ∧ count = later.liTSReservedKeys.length) := by
  obtain ⟨outcome, later, run, ends⟩ := inTransaction_run services agreement empty
  obtain ⟨cleaned, count, deletes, bound, passed, stopped, returns⟩ :=
    deleteKeys_run services 0 later.liTSReservedKeys later
  simp only [Nat.zero_add] at passed stopped
  have cleanup := ((@Program.bind_of_ok _ _ _ _ _ (deleteKeys services 0))
    (Program.read_run (fun world => world.liTSReservedKeys) later)).trans deletes
  cases cleaned with
  | ok _ =>
      refine ⟨outcome, outcome, later, count, Program.ensure_of_ok run cleanup, ends, bound, passed, stopped, ?_⟩
      rw [and_iff_left (returns.mp rfl)]
  | error fault =>
      refine ⟨outcome, .error fault, later, count, Program.ensure_of_error run cleanup, ends, bound, passed,
        stopped, ⟨fun ended => (nomatch ended), fun all => nomatch returns.mpr all.2⟩⟩

theorem submitAgreement_ends (services : Services) (agreement : Agreement) :
    SubmitEnds services agreement (submitAgreement services agreement World.initial) := by
  unfold submitAgreement
  cases opened : services.fails .openConnection with
  | some fault =>
      rw [Program.bind_of_error (by rw [call_run, opened])]
      exact .unprepared fault fun setup => nomatch opened.symm.trans setup.openConnection
  | none =>
      rw [Program.bind_of_ok (by rw [call_run, opened])]
      cases got : services.fails .getByID with
      | some fault =>
          rw [Program.bind_of_error (by rw [call_run, got])]
          exact .unprepared fault fun setup => nomatch got.symm.trans setup.getByID
      | none =>
          rw [Program.bind_of_ok (by rw [call_run, got])]
          by_cases points : services.measurePoints = 0
          · rw [if_pos points]
            exact .unprepared _ fun setup => setup.measurePoints points
          · rw [if_neg points]
            cases read : services.fails .getRegisters with
            | some fault =>
                rw [Program.bind_of_error (by rw [call_run, read])]
                exact .unprepared fault fun setup => nomatch read.symm.trans setup.getRegisters
            | none =>
                rw [Program.bind_of_ok (by rw [call_run, read])]
                cases built : getRegisters services.hash services.registersBefore with
                | error exception =>
                    rw [Program.bind_of_error (orSystem_run _ _)]
                    exact .unprepared _ fun setup =>
                      nomatch built.symm.trans (getRegisters_eq_ok_iff.mpr ⟨setup.tabular, rfl⟩)
                | ok table =>
                    obtain ⟨tabular, rfl⟩ := getRegisters_eq_ok_iff.mp built
                    have setup : SetupPasses services := ⟨opened, got, points, read, tabular⟩
                    have count : (tableOf services.hash (registersOf services.registersBefore)).slots.length =
                        services.placeholderCount := by simp [tableOf, Services.placeholderCount]
                    rw [Program.bind_of_ok (orSystem_run _ _), count, getPlaceHolderTSkeys]
                    obtain ⟨keys, outcome, run, listing, ⟨rfl, length⟩ | ⟨⟨fault, rfl⟩, inside, broken⟩⟩ :=
                      placeHoldersFrom_run services services.placeholderCount 0 World.initial
                    · rw [Program.bind_of_ok run, Program.bind_of_ok (Program.change_run _ _)]
                      have idle : ({ World.initial with reserved := reservedOf keys, liTSReservedKeys := keys } :
                          World).pending = [] := rfl
                      obtain ⟨outcome, last, later, count, ensured, ends, bound, passed, stopped, returns⟩ :=
                        ensure_run services agreement idle
                      refine ensured ▸ ?_
                      exact .submitted outcome last keys later count setup listing length ends bound passed stopped
                        returns
                    · rw [Program.bind_of_error run]
                      rw [Nat.zero_add] at broken
                      exact .unreserved fault keys setup listing inside broken

def numbered (number : Int) : Register :=
  (((Record.new Register.fields).set Register.Field.key (1 : Int)).set Register.Field.meterID (some "M")).set
    Register.Field.registerNumber number

def oneReservation : Reservations where
  attempt := fun register _ => if register = 0 then .ok 1 else .error (.icc 1000 false)
  positive := by
    intro register turn key got
    split at got
    · cases got
      decide
    · cases got
  distinct := by
    intro register turn other turn' key got gotOther
    split at got <;> split at gotOther
    · simp_all
    all_goals simp_all

end Submit

end ServiceHost.Metering
