import Mathlib.Data.Nat.Find
import Mathlib.Data.Nat.ModEq
import Mathlib.Data.List.Basic
import ServiceHost.DataExchange.ExportFailoverCore

/-!
When the loop over the machines tries each of them once. A full round is recognised by the name
of the machine that it began with.
-/

namespace ServiceHost.DataExchange.ExportFailover

section Round

variable (machines : Machines) (configuration : Configuration) (index : Nat)

def place (turn : Nat) : Nat := (index + turn) % machines.count

def Machine.available (machine : Machine) : Bool :=
  (!configuration.checkMachineLogon ||
    (machine.connect.isNone && (!configuration.checkServiceStatus || machine.isRunning))) && machine.enqueue.isNone

def Available (turn : Nat) : Prop := (machines.entry (place machines index turn)).available configuration = true

def nameAt (turn : Nat) : String := (machines.entry (place machines index turn)).name

variable {machines configuration index}

theorem count_pos : 0 < machines.count := Nat.succ_pos _

theorem place_lt (turn : Nat) : place machines index turn < machines.count := Nat.mod_lt _ count_pos

theorem place_zero (inside : index < machines.count) : place machines index 0 = index := Nat.mod_eq_of_lt inside

theorem place_succ (turn : Nat) :
    place machines index (turn + 1) = (place machines index turn + 1) % machines.count := by
  unfold place
  rw [Nat.mod_add_mod, Nat.add_assoc]

theorem place_count (inside : index < machines.count) : place machines index machines.count = index := by
  unfold place
  rw [Nat.add_mod_right, Nat.mod_eq_of_lt inside]

theorem exists_place (inside : index < machines.count) {position : Nat} (isPlace : position < machines.count) :
    ∃ turn < machines.count, place machines index turn = position := by
  by_cases behind : index ≤ position
  · refine ⟨position - index, by omega, ?_⟩
    rw [place, Nat.add_sub_cancel' behind, Nat.mod_eq_of_lt isPlace]
  · refine ⟨machines.count - index + position, by omega, ?_⟩
    have wraps : index + (machines.count - index + position) = position + machines.count := by omega
    rw [place, wraps, Nat.add_mod_right, Nat.mod_eq_of_lt isPlace]

theorem place_injective {first second : Nat} (firstInside : first < machines.count)
    (secondInside : second < machines.count) (same : place machines index first = place machines index second) :
    first = second := by
  have congruent : first ≡ second [MOD machines.count] := Nat.ModEq.add_left_cancel' index same
  rw [Nat.ModEq, Nat.mod_eq_of_lt firstInside, Nat.mod_eq_of_lt secondInside] at congruent
  exact congruent

end Round

section Settings

variable {machines : Machines}

open SettingsFactory

structure Points (machines : Machines) (position : Nat) (factory : SettingsFactory) : Prop where
  current : factory.position machines = position
  cached : factory.currentSettings = some (machines.entry position).name

theorem Points.getSettings {position : Nat} {factory : SettingsFactory} (points : Points machines position factory) :
    factory.getSettings machines = ((machines.entry position).name, factory) := by
  unfold SettingsFactory.getSettings
  rw [points.cached]

theorem getSettings_setExportIndex (index : Nat) (within : index ≤ machines.count) :
    (setExportIndex index).getSettings machines =
      ((machines.entry (index % machines.count)).name,
        ⟨if machines.count > 1 then index % machines.count else index,
          some (machines.entry (index % machines.count)).name⟩) := by
  by_cases several : machines.count > 1
  · by_cases wraps : machines.count ≤ index
    · have zero : index % machines.count = 0 := by rw [Nat.le_antisymm within wraps, Nat.mod_self]
      simp [SettingsFactory.getSettings, setExportIndex, several, wraps, zero]
    · have same : index % machines.count = index := Nat.mod_eq_of_lt (Nat.lt_of_not_le wraps)
      simp [SettingsFactory.getSettings, setExportIndex, several, wraps, same]
  · have one : machines.count = 1 := Nat.le_antisymm (Nat.le_of_not_lt several) (Nat.succ_pos _)
    simp [SettingsFactory.getSettings, setExportIndex, one, Nat.mod_one, Machines.entry, Machines.entries]

theorem points_setExportIndex (index : Nat) (within : index ≤ machines.count) :
    Points machines (index % machines.count) ((setExportIndex index).getSettings machines).2 := by
  rw [getSettings_setExportIndex index within]
  refine ⟨?_, rfl⟩
  unfold SettingsFactory.position
  split
  · rfl
  · rename_i one
    have count : machines.count = 1 := Nat.le_antisymm (Nat.le_of_not_lt one) (Nat.succ_pos _)
    rw [count, Nat.mod_one]

end Settings

section Run

variable {machines : Machines} {configuration : Configuration} {index : Nat}

structure GoesOn (machines : Machines) (index turns : Nat) (loop : Loop) : Prop where
  points : Points machines (place machines index turns) loop.factory
  enqueued : loop.enqueued = false
  tried : loop.tried = (List.range turns).map (place machines index)
  sent : loop.sent = []
  inside : loop.factory.exportIndex < machines.count

structure Sent (machines : Machines) (index turns : Nat) (loop : Loop) : Prop where
  enqueued : loop.enqueued = true
  retVal : loop.retVal = 0
  sent : loop.sent = [place machines index turns]
  inside : loop.factory.exportIndex < machines.count

structure GivenUp (machines : Machines) (index turns : Nat) (loop : Loop) : Prop where
  enqueued : loop.enqueued = true
  retVal : loop.retVal ≠ 0
  sent : loop.sent = []
  tried : loop.tried = (List.range (turns + 1)).map (place machines index)
  inside : loop.factory.exportIndex < machines.count ↔ machines.count > 1

theorem goesOn_start (inside : index < machines.count) :
    GoesOn machines index 0 (start machines index).2 ∧ (start machines index).1 = nameAt machines index 0 := by
  have points := points_setExportIndex index (Nat.le_of_lt inside)
  have settings := getSettings_setExportIndex index (Nat.le_of_lt inside)
  refine ⟨⟨points, rfl, rfl, rfl, ?_⟩, congrArg Prod.fst settings⟩
  unfold start
  rw [settings, Nat.mod_eq_of_lt inside, ite_self]
  exact inside

theorem next_cases {turns : Nat} {loop : Loop} {exitCode : Int} {machineName : String} (failure : exitCode ≠ 0)
    (goesOn : GoesOn machines index turns loop) (isName : machineName = nameAt machines index 0) :
    let tried := { loop with tried := loop.tried ++ [place machines index turns] }
    (nameAt machines index (turns + 1) = nameAt machines index 0 ∧
      GivenUp machines index turns (tried.next machines machineName exitCode)) ∨
    (nameAt machines index (turns + 1) ≠ nameAt machines index 0 ∧
      GoesOn machines index (turns + 1) (tried.next machines machineName exitCode)) := by
  intro tried
  have triedAll : tried.tried = (List.range (turns + 1)).map (place machines index) := by
    rw [List.range_succ, List.map_append, ← goesOn.tried]
    rfl
  have position : loop.factory.position machines = place machines index turns := goesOn.points.current
  have following : (loop.factory.exportIndex + 1) % machines.count = place machines index (turns + 1) := by
    rw [place_succ, ← position]
    unfold SettingsFactory.position
    split
    · rfl
    · rename_i one
      have count : machines.count = 1 := Nat.le_antisymm (Nat.le_of_not_lt one) (Nat.succ_pos _)
      rw [count, Nat.mod_one, Nat.mod_one]
  have points := points_setExportIndex (loop.factory.exportIndex + 1) goesOn.inside
  have settings := getSettings_setExportIndex (loop.factory.exportIndex + 1) goesOn.inside
  rw [following] at points settings
  have factory : tried.factory.incrementExportMachineIndex =
      SettingsFactory.setExportIndex (loop.factory.exportIndex + 1) := rfl
  by_cases same : nameAt machines index (turns + 1) = nameAt machines index 0
  · left
    have ends : machineName = ((SettingsFactory.setExportIndex (loop.factory.exportIndex + 1)).getSettings machines).1 := by
      rw [settings, isName, ← same]
      rfl
    refine ⟨same, ?_⟩
    unfold Loop.next
    rw [factory, if_pos ends]
    refine ⟨rfl, failure, goesOn.sent, triedAll, ?_⟩
    rw [settings]
    dsimp only
    split
    · rename_i several
      exact iff_of_true (place_lt _) several
    · rename_i one
      have count : machines.count = 1 := Nat.le_antisymm (Nat.le_of_not_lt one) (Nat.succ_pos _)
      exact iff_of_false (by omega) one
  · right
    have stays : ¬machineName = ((SettingsFactory.setExportIndex (loop.factory.exportIndex + 1)).getSettings machines).1 := by
      rw [settings, isName]
      exact fun equal => same equal.symm
    have several : machines.count > 1 := by
      by_contra one
      have count : machines.count = 1 := Nat.le_antisymm (Nat.le_of_not_lt one) (Nat.succ_pos _)
      refine same ?_
      unfold nameAt place
      rw [count, Nat.mod_one, Nat.mod_one]
    refine ⟨same, ?_⟩
    unfold Loop.next
    rw [factory, if_neg stays]
    refine ⟨points, goesOn.enqueued, triedAll, goesOn.sent, ?_⟩
    rw [settings]
    dsimp only
    rw [if_pos several]
    exact place_lt _

def Machine.refusal (configuration : Configuration) (machine : Machine) : Option Int :=
  let checked :=
    if configuration.checkMachineLogon then
      match machine.connect with
      | some exception => some exception.hresult
      | none => if configuration.checkServiceStatus && !machine.isRunning then some 1 else none
    else none
  checked.or (machine.enqueue.map ComException.hresult)

theorem Machine.refusal_cases (configuration : Configuration) (machine : Machine) :
    (machine.available configuration = true ∧ machine.refusal configuration = none) ∨
      ∃ exitCode, exitCode ≠ 0 ∧ machine.available configuration = false ∧
        machine.refusal configuration = some exitCode := by
  have nonzero (exception : ComException) : exception.hresult ≠ 0 := ne_of_lt exception.failure
  obtain ⟨checkMachineLogon, checkServiceStatus⟩ := configuration
  obtain ⟨name, connect, isRunning, enqueue⟩ := machine
  cases checkMachineLogon <;> cases connect <;> cases checkServiceStatus <;> cases isRunning <;> cases enqueue <;>
    simp [available, refusal, nonzero]

theorem GoesOn.turn_eq {turns : Nat} {loop : Loop} (goesOn : GoesOn machines index turns loop)
    (configuration : Configuration) (machineName : String) : loop.turn machines configuration machineName =
      match (machines.entry (place machines index turns)).refusal configuration with
      | some exitCode =>
          { loop with tried := loop.tried ++ [place machines index turns] }.next machines machineName exitCode
      | none =>
          { loop with
            tried := loop.tried ++ [place machines index turns], enqueued := true, retVal := 0,
            sent := loop.sent ++ [place machines index turns] } := by
  have position : loop.factory.position machines = place machines index turns := goesOn.points.current
  unfold Loop.turn Machine.refusal
  rw [if_neg (Bool.eq_false_iff.mp goesOn.enqueued), goesOn.points.getSettings]
  dsimp only
  rw [position]
  generalize machines.entry (place machines index turns) = machine
  obtain ⟨checkMachineLogon, checkServiceStatus⟩ := configuration
  obtain ⟨name, connect, isRunning, enqueue⟩ := machine
  cases checkMachineLogon <;> cases connect <;> cases checkServiceStatus <;> cases isRunning <;> cases enqueue <;> rfl

theorem turn_cases {turns : Nat} {loop : Loop} {machineName : String} (goesOn : GoesOn machines index turns loop)
    (isName : machineName = nameAt machines index 0) :
    (Available machines configuration index turns ∧
      Sent machines index turns (loop.turn machines configuration machineName)) ∨
    (¬Available machines configuration index turns ∧ nameAt machines index (turns + 1) = nameAt machines index 0 ∧
      GivenUp machines index turns (loop.turn machines configuration machineName)) ∨
    (¬Available machines configuration index turns ∧ nameAt machines index (turns + 1) ≠ nameAt machines index 0 ∧
      GoesOn machines index (turns + 1) (loop.turn machines configuration machineName)) := by
  have turn := goesOn.turn_eq configuration machineName
  obtain ⟨available, takes⟩ | ⟨exitCode, failure, refuses, refusal⟩ :=
    (machines.entry (place machines index turns)).refusal_cases configuration
  · rw [takes] at turn
    rw [turn]
    exact Or.inl ⟨available, rfl, rfl, by rw [goesOn.sent]; rfl, goesOn.inside⟩
  · rw [refusal] at turn
    rw [turn]
    have unavailable : ¬Available machines configuration index turns := Bool.eq_false_iff.mp refuses
    exact Or.inr ((next_cases failure goesOn isName).imp (fun ends => ⟨unavailable, ends⟩) fun goes => ⟨unavailable, goes⟩)

def Stops (machines : Machines) (configuration : Configuration) (index turn : Nat) : Prop :=
  Available machines configuration index turn ∨ nameAt machines index (turn + 1) = nameAt machines index 0

theorem exists_stops (inside : index < machines.count) : ∃ turn < machines.count, Stops machines configuration index turn := by
  refine ⟨machines.count - 1, Nat.sub_lt count_pos Nat.one_pos, Or.inr ?_⟩
  unfold nameAt
  rw [Nat.sub_add_cancel count_pos, place_count inside, place_zero inside]

theorem goesOn_connector (inside : index < machines.count) {turns : Nat}
    (earlier : ∀ turn < turns, ¬Stops machines configuration index turn) :
    GoesOn machines index turns (connector machines configuration index turns) := by
  obtain ⟨goesOn, name⟩ := goesOn_start inside
  induction turns with
  | zero => exact goesOn
  | succ turns ih =>
      have before := ih fun turn less => earlier turn (Nat.lt_succ_of_lt less)
      have running := earlier turns (Nat.lt_succ_self turns)
      obtain ⟨available, -⟩ | ⟨-, same, -⟩ | ⟨-, -, next⟩ := turn_cases before name
      · exact absurd (Or.inl available) running
      · exact absurd (Or.inr same) running
      · exact next

theorem connector_ended {turns : Nat} (ended : (connector machines configuration index turns).enqueued = true)
    (more : Nat) : connector machines configuration index (turns + more) = connector machines configuration index turns := by
  induction more with
  | zero => rfl
  | succ more ih =>
      have unfolded : connector machines configuration index (turns + (more + 1)) =
          (connector machines configuration index (turns + more)).turn machines configuration
            (start machines index).1 := rfl
      rw [unfolded, ih]
      unfold Loop.turn
      rw [if_pos ended]

theorem connector_cases (inside : index < machines.count) : ∃ last < machines.count,
    (∀ turn < last, ¬Stops machines configuration index turn) ∧
      ((Available machines configuration index last ∧
          Sent machines index last (connector machines configuration index (last + 1))) ∨
        (¬Available machines configuration index last ∧ nameAt machines index (last + 1) = nameAt machines index 0 ∧
          GivenUp machines index last (connector machines configuration index (last + 1)))) := by
  classical
  obtain ⟨bound, within, stops⟩ := @exists_stops machines configuration index inside
  let stopping : ∃ turn, Stops machines configuration index turn := ⟨bound, stops⟩
  have earlier : ∀ turn < Nat.find stopping, ¬Stops machines configuration index turn := fun turn less =>
    Nat.find_min stopping less
  refine ⟨Nat.find stopping, Nat.lt_of_le_of_lt (Nat.find_min' stopping stops) within, earlier, ?_⟩
  obtain ⟨available, sent⟩ | ⟨refused, same, givenUp⟩ | ⟨refused, other, -⟩ :=
    turn_cases (goesOn_connector inside earlier) (goesOn_start inside).2
  · exact Or.inl ⟨available, sent⟩
  · exact Or.inr ⟨refused, same, givenUp⟩
  · exact absurd (Nat.find_spec stopping) (not_or.mpr ⟨refused, other⟩)

end Run

section Failover

variable (machines : Machines) (configuration : Configuration)

structure Outcome (index : Nat) (loop : Loop) : Prop where
  ended : loop.enqueued = true
  enqueued : (∃ turn < machines.count, Available machines configuration index turn) →
    ∃ turn < machines.count, Available machines configuration index turn ∧
      (∀ earlier < turn, ¬Available machines configuration index earlier) ∧
      loop.sent = [place machines index turn] ∧ loop.retVal = 0
  failed : (∀ turn < machines.count, ¬Available machines configuration index turn) →
    loop.sent = [] ∧ loop.retVal ≠ 0 ∧ ∀ position < machines.count, position ∈ loop.tried

structure TriesEachOnce (index : Nat) : Prop where
  outcome : ∃ turns, Outcome machines configuration index (connector machines configuration index turns)
  inside : ∀ turns, (connector machines configuration index turns).factory.exportIndex < machines.count

def FirstNameLate (index : Nat) : Prop :=
  (∃ turn < machines.count, Available machines configuration index turn ∧
    ∀ earlier, 0 < earlier → earlier ≤ turn → nameAt machines index earlier ≠ nameAt machines index 0) ∨
  ((∀ turn < machines.count, ¬Available machines configuration index turn) ∧ machines.count > 1 ∧
    ∀ turn < machines.count, nameAt machines index turn = nameAt machines index 0 → turn = 0)

variable {machines configuration} {index : Nat}

theorem inside_of_goesOn_or_ended (inside : index < machines.count) {last : Nat}
    (earlier : ∀ turn < last, ¬Stops machines configuration index turn)
    (ended : (connector machines configuration index (last + 1)).enqueued = true)
    (final : (connector machines configuration index (last + 1)).factory.exportIndex < machines.count) (turns : Nat) :
    (connector machines configuration index turns).factory.exportIndex < machines.count := by
  by_cases before : turns ≤ last
  · exact (goesOn_connector inside fun turn less => earlier turn (Nat.lt_of_lt_of_le less before)).inside
  · obtain ⟨more, rfl⟩ := Nat.exists_eq_add_of_lt (Nat.lt_of_not_le before)
    have same := connector_ended ended more
    rw [show last + 1 + more = last + more + 1 by omega] at same
    rw [same]
    exact final

theorem connector_unique {turns other : Nat} (ended : (connector machines configuration index turns).enqueued = true)
    (otherEnded : (connector machines configuration index other).enqueued = true) :
    connector machines configuration index turns = connector machines configuration index other := by
  obtain less | less := Nat.le_total turns other
  · obtain ⟨more, rfl⟩ := Nat.exists_eq_add_of_le less
    exact (connector_ended ended more).symm
  · obtain ⟨more, rfl⟩ := Nat.exists_eq_add_of_le less
    exact connector_ended otherEnded more

/-- The loop tries every entry once exactly when the name that it began with does not come too early. -/
theorem failover_tries_each_once_iff (machines : Machines) (configuration : Configuration) (index : Fin machines.count) :
    TriesEachOnce machines configuration index ↔ FirstNameLate machines configuration index := by
  obtain ⟨last, within, earlier, ends⟩ := @connector_cases machines configuration index index.isLt
  have refusedBefore : ∀ turn < last, ¬Available machines configuration index turn := fun turn less available =>
    earlier turn less (Or.inl available)
  have otherBefore : ∀ turn, 0 < turn → turn ≤ last → nameAt machines index turn ≠ nameAt machines index 0 := by
    intro turn positive reached same
    refine earlier (turn - 1) (by omega) (Or.inr ?_)
    rw [Nat.sub_add_cancel positive]
    exact same
  obtain ⟨available, sent⟩ | ⟨refused, same, givenUp⟩ := ends
  · refine iff_of_true ⟨⟨last + 1, sent.enqueued, fun _ => ?_, fun none => absurd available (none last within)⟩, ?_⟩ ?_
    · exact ⟨last, within, available, refusedBefore, sent.sent, sent.retVal⟩
    · exact inside_of_goesOn_or_ended index.isLt earlier sent.enqueued sent.inside
    · exact Or.inl ⟨last, within, available, otherBefore⟩
  · constructor
    · rintro ⟨⟨turns, outcome⟩, inside⟩
      right
      have final : connector machines configuration index turns = connector machines configuration index (last + 1) :=
        connector_unique outcome.ended givenUp.enqueued
      rw [final] at outcome
      have none : ∀ turn < machines.count, ¬Available machines configuration index turn := by
        intro turn less available
        obtain ⟨found, -, -, -, sent, -⟩ := outcome.enqueued ⟨turn, less, available⟩
        rw [givenUp.sent] at sent
        cases sent
      refine ⟨none, givenUp.inside.mp (inside (last + 1)), fun turn less again => ?_⟩
      -- all entries have been tried, so that the loop has gone round once
      obtain ⟨-, -, all⟩ := outcome.failed none
      have reached : turn ≤ last := by
        have tried := all (place machines index turn) (place_lt turn)
        rw [givenUp.tried] at tried
        obtain ⟨other, inRange, isPlace⟩ := List.mem_map.mp tried
        have bound := List.mem_range.mp inRange
        have equal := place_injective (by omega) less isPlace
        omega
      by_contra positive
      exact otherBefore turn (Nat.pos_of_ne_zero positive) reached again
    · rintro (⟨turn, less, available, other⟩ | ⟨none, several, once⟩)
      · -- the entry that takes the message would have been reached
        by_cases reached : turn ≤ last
        · obtain equal | before := Nat.eq_or_lt_of_le reached
          · exact absurd (equal ▸ available) refused
          · exact absurd available (refusedBefore turn before)
        · exact absurd same (other (last + 1) (Nat.succ_pos last) (by omega))
      · have round : last + 1 = machines.count := by
          by_contra short
          exact absurd (once (last + 1) (by omega) same) (Nat.succ_ne_zero last)
        refine ⟨⟨last + 1, givenUp.enqueued, fun ⟨turn, less, available⟩ => absurd available (none turn less), fun _ => ?_⟩, ?_⟩
        · refine ⟨givenUp.sent, givenUp.retVal, fun position isPlace => ?_⟩
          obtain ⟨turn, less, found⟩ := exists_place index.isLt isPlace
          rw [givenUp.tried]
          exact List.mem_map.mpr ⟨turn, List.mem_range.mpr (by omega), found⟩
        · exact inside_of_goesOn_or_ended index.isLt earlier givenUp.enqueued (givenUp.inside.mpr several)

def unavailable : ComException := ⟨-2147023174, by decide⟩

def down (name : String) : Machine := ⟨name, some unavailable, false, none⟩

def repeated : Machines := ⟨down "a", [down "b", down "a", ⟨"c", none, true, none⟩]⟩

/-- The machine behind a repeated name is not tried. -/
theorem repeated_name_ends_failover : ¬TriesEachOnce repeated ⟨true, true⟩ 0 := by
  rintro ⟨⟨turns, outcome⟩, -⟩
  have ended : (connector repeated ⟨true, true⟩ 0 2).enqueued = true := by decide
  rw [connector_unique outcome.ended ended] at outcome
  have up : Available repeated ⟨true, true⟩ 0 3 := by
    unfold Available
    decide
  obtain ⟨turn, -, -, -, sent, -⟩ := outcome.enqueued ⟨3, by decide, up⟩
  have nothing : (connector repeated ⟨true, true⟩ 0 2).sent = [] := by decide
  rw [nothing] at sent
  cases sent

end Failover

end ServiceHost.DataExchange.ExportFailover
