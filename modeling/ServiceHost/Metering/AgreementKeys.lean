import Mathlib.Data.List.GetD
import ServiceHost.Metering.AgreementRun

/-!
The keys that `SubmitAgreement` reserves: exactly when each of them is the key of a series
that was made, or is deleted, and no series is made with another key.
-/

namespace ServiceHost.Metering

open Library

section Lists

variable {services : Services} {keys : List Int} {position : Nat} {key : Int}

theorem Listing.getElem_of_got (listing : Listing services 0 keys) (inside : position < keys.length)
    (got : Got services position key) : keys[position] = key := by
  obtain shown | ⟨exhausted, -⟩ := listing.at inside
  · exact shown.unique got
  · exact absurd exhausted got.not_exhausted

theorem Listing.eq_of_getElem (listing : Listing services 0 keys) {other : Nat} (inside : other < keys.length)
    (got : Got services position key) (same : keys[other] = key) : other = position := by
  have listed := listing.at inside
  rw [same] at listed
  exact (listed.pos_iff.mp got.pos).register_unique got

theorem Listing.mem_taken_iff (listing : Listing services 0 keys) (inside : position < keys.length)
    (got : Got services position key) (taken : Nat) :
    key ∈ (List.range taken).map (fun turn => keys.getD turn 0) ↔ position < taken := by
  simp only [List.mem_map, List.mem_range]
  constructor
  · rintro ⟨turn, before, same⟩
    by_cases turnInside : turn < keys.length
    · rw [List.getD_eq_getElem _ _ turnInside] at same
      exact listing.eq_of_getElem turnInside got same ▸ before
    · rw [List.getD_eq_default _ _ (Nat.le_of_not_lt turnInside)] at same
      exact absurd same got.pos.ne
  · intro before
    exact ⟨position, before, by rw [List.getD_eq_getElem _ _ inside, listing.getElem_of_got inside got]⟩

theorem Listing.mem_deleted_iff (listing : Listing services 0 keys) (inside : position < keys.length)
    (got : Got services position key) (taken count : Nat) :
    key ∈ (keys.drop taken).take count ↔ taken ≤ position ∧ position - taken < count := by
  rw [List.mem_take_iff_getElem]
  constructor
  · rintro ⟨turn, turnInside, same⟩
    rw [List.length_drop] at turnInside
    rw [List.getElem_drop] at same
    have isPosition := listing.eq_of_getElem (by omega) got same
    omega
  · rintro ⟨late, reached⟩
    refine ⟨position - taken, by rw [List.length_drop]; omega, ?_⟩
    rw [List.getElem_drop, ← listing.getElem_of_got inside got]
    congr 1
    omega

theorem Listing.getD_mem_reservedOf_iff (listing : Listing services 0 keys) {turn : Nat} :
    keys.getD turn 0 ∈ reservedOf keys ↔ turn < keys.length ∧ ∃ key, Got services turn key := by
  constructor
  · intro member
    obtain ⟨-, positive⟩ := List.mem_filter.mp member
    rw [decide_eq_true_eq] at positive
    by_cases inside : turn < keys.length
    · rw [List.getD_eq_getElem _ _ inside] at positive
      exact ⟨inside, _, (listing.at inside).pos_iff.mp positive⟩
    · rw [List.getD_eq_default _ _ (Nat.le_of_not_lt inside)] at positive
      exact absurd positive (lt_irrefl 0)
  · rintro ⟨inside, key, got⟩
    refine List.mem_filter.mpr ⟨?_, ?_⟩
    · rw [List.getD_eq_getElem _ _ inside]
      exact List.getElem_mem inside
    · rw [List.getD_eq_getElem _ _ inside, listing.getElem_of_got inside got, decide_eq_true_eq]
      exact got.pos

end Lists

section Kept

structure KeysKept (world : World) : Prop where
  reserved : ∀ key ∈ world.reserved, key ∈ world.created ∨ key ∈ world.deleted
  created : ∀ key ∈ world.created, key ∈ world.reserved

def NothingBeforeBroken (services : Services) : Prop :=
  ∀ broken < services.placeholderCount, Broken services broken →
    (∀ earlier < broken, ¬Broken services earlier) → ∀ earlier < broken, Exhausted services earlier

structure KeysAccounted (services : Services) (agreement : Agreement) : Prop where
  committed : Commits services agreement → ∀ register < keysTaken services agreement,
    register < services.placeholderCount ∧ ∃ key, Got services register key
  rolledBack : ¬Commits services agreement → ∀ register < keysTaken services agreement,
    register < services.placeholderCount → Exhausted services register
  deleted : ∀ register < services.placeholderCount, keysTaken services agreement ≤ register →
    (∃ key, Got services register key) → ∀ turn ≤ register - keysTaken services agreement,
      services.fails (.deleteByTSKey turn) = none

variable {services : Services} {agreement : Agreement}

theorem keysKept_of_submitted {outcome : Except Fault Unit} {keys : List Int} {world : World} {count : Nat}
    (listing : Listing services 0 keys) (length : keys.length = services.placeholderCount)
    (transaction : TransactionEnds services agreement
      { World.initial with reserved := reservedOf keys, liTSReservedKeys := keys } outcome world)
    (bound : count ≤ world.liTSReservedKeys.length)
    (passed : ∀ position < count, services.fails (.deleteByTSKey position) = none)
    (stopped : count < world.liTSReservedKeys.length → services.fails (.deleteByTSKey count) ≠ none) :
    KeysKept { world with deleted := world.deleted ++ world.liTSReservedKeys.take count } ↔
      KeysAccounted services agreement := by
  have reserved : world.reserved = reservedOf keys := congrArg (·.1) transaction.database
  have nothingDeleted : world.deleted = [] := congrArg (·.2) transaction.database
  have left : world.liTSReservedKeys = keys.drop (keysTaken services agreement) := transaction.liTSReservedKeys
  have lists : { world with deleted := world.deleted ++ world.liTSReservedKeys.take count } =
      { world with
        reserved := reservedOf keys
        deleted := (keys.drop (keysTaken services agreement)).take count } := by
    rw [← reserved, nothingDeleted, left, List.nil_append]
  rw [lists]
  rw [left, List.length_drop] at bound stopped
  have deletes {register : Nat} (inside : register < keys.length)
      (late : keysTaken services agreement ≤ register) : register - keysTaken services agreement < count ↔
        ∀ turn ≤ register - keysTaken services agreement, services.fails (.deleteByTSKey turn) = none := by
    constructor
    · exact fun reached turn before => passed turn (by omega)
    · intro all
      by_contra short
      exact stopped (by omega) (all count (by omega))
  have deletedOf {register : Nat} {key : Int} (inside : register < keys.length)
      (late : keysTaken services agreement ≤ register) (got : Got services register key) :
      key ∈ (keys.drop (keysTaken services agreement)).take count ↔
        ∀ turn ≤ register - keysTaken services agreement, services.fails (.deleteByTSKey turn) = none := by
    rw [listing.mem_deleted_iff inside got, and_iff_right late, deletes inside late]
  have fromListing {key : Int} (member : key ∈ reservedOf keys) :
      ∃ register < keys.length, Got services register key := by
    obtain ⟨register, inside, got⟩ := listing.mem_reservedOf_iff.mp member
    exact ⟨register, inside, by rwa [Nat.zero_add] at got⟩
  have intoListing {register : Nat} {key : Int} (inside : register < keys.length)
      (got : Got services register key) : key ∈ reservedOf keys :=
    listing.mem_reservedOf_iff.mpr ⟨register, inside, by rwa [Nat.zero_add]⟩
  by_cases commits : Commits services agreement
  · have created : world.created = (List.range (keysTaken services agreement)).map fun taken => keys.getD taken 0 :=
      (transaction.committed (transaction.returns.mpr commits)).trans (List.nil_append _)
    constructor
    · intro kept
      refine ⟨fun _ register before => ?_, fun rolledBack => absurd commits rolledBack,
        fun register inside late got => ?_⟩
      · rw [← length]
        refine listing.getD_mem_reservedOf_iff.mp (kept.created _ ?_)
        rw [created]
        exact List.mem_map.mpr ⟨register, List.mem_range.mpr before, rfl⟩
      · rw [← length] at inside
        obtain ⟨key, got⟩ := got
        obtain used | deleted := kept.reserved key (intoListing inside got)
        · rw [created, listing.mem_taken_iff inside got] at used
          omega
        · exact (deletedOf inside late got).mp deleted
    · intro accounted
      refine ⟨fun key member => ?_, fun key member => ?_⟩
      · obtain ⟨register, inside, got⟩ := fromListing member
        by_cases early : register < keysTaken services agreement
        · refine Or.inl ?_
          rw [created]
          exact (listing.mem_taken_iff inside got _).mpr early
        · have late := Nat.le_of_not_lt early
          exact Or.inr ((deletedOf inside late got).mpr
            (accounted.deleted register (length ▸ inside) late ⟨key, got⟩))
      · rw [created] at member
        obtain ⟨register, taken, rfl⟩ := List.mem_map.mp member
        have reservedKey := accounted.committed commits register (List.mem_range.mp taken)
        rw [← length] at reservedKey
        exact listing.getD_mem_reservedOf_iff.mpr reservedKey
  · have created : world.created = [] :=
      transaction.rolledBack fun returned => commits (transaction.returns.mp returned)
    constructor
    · intro kept
      have deletedKey {register : Nat} {key : Int} (inside : register < keys.length)
          (got : Got services register key) : key ∈ (keys.drop (keysTaken services agreement)).take count := by
        obtain used | deleted := kept.reserved key (intoListing inside got)
        · rw [created] at used
          cases used
        · exact deleted
      refine ⟨fun committed => absurd committed commits, fun _ register before inside => ?_,
        fun register inside late got => ?_⟩
      · rw [← length] at inside
        obtain got | ⟨exhausted, -⟩ := listing.at inside
        · have deleted := (listing.mem_deleted_iff inside got _ _).mp (deletedKey inside got)
          omega
        · exact exhausted
      · rw [← length] at inside
        obtain ⟨key, got⟩ := got
        exact (deletedOf inside late got).mp (deletedKey inside got)
    · intro accounted
      refine ⟨fun key member => Or.inr ?_, fun key member => ?_⟩
      · obtain ⟨register, inside, got⟩ := fromListing member
        have late : keysTaken services agreement ≤ register := by
          by_contra early
          exact got.not_exhausted
            (accounted.rolledBack commits register (Nat.lt_of_not_le early) (length ▸ inside))
        exact (deletedOf inside late got).mpr (accounted.deleted register (length ▸ inside) late ⟨key, got⟩)
      · rw [created] at member
        cases member

/-- The keys are kept exactly when no reservation breaks after a key was reserved, and the keys
that the transaction takes and those that it leaves are accounted for. -/
theorem keys_are_kept_iff (services : Services) (agreement : Agreement) :
    KeysKept (submitAgreement services agreement World.initial).2 ↔
      (SetupPasses services → NothingBeforeBroken services ∧
        ((∀ register < services.placeholderCount, ¬Broken services register) →
          KeysAccounted services agreement)) := by
  have ends := submitAgreement_ends services agreement
  generalize submitAgreement services agreement World.initial = run at ends
  cases ends with
  | unprepared fault fails =>
      refine ⟨fun _ setup => absurd setup fails, fun _ => ⟨fun _ member => ?_, fun _ member => ?_⟩⟩
      · cases member
      · cases member
  | unreserved fault keys setup listing inside broken =>
      rw [forall_prop_of_true setup]
      have before : ∀ earlier < keys.length, ¬Broken services earlier := fun earlier before =>
        (listing.at before).not_broken
      constructor
      · intro kept
        refine ⟨fun other otherInside otherBroken first earlier isEarlier => ?_,
          fun unbroken => absurd broken (unbroken _ inside)⟩
        have same : other = keys.length := by
          obtain less | same | more := Nat.lt_trichotomy other keys.length
          · exact absurd otherBroken (before other less)
          · exact same
          · exact absurd broken (first _ more)
        subst same
        obtain got | ⟨exhausted, -⟩ := listing.at isEarlier
        · have reserved := listing.mem_reservedOf_iff.mpr ⟨earlier, isEarlier, by rwa [Nat.zero_add]⟩
          obtain made | deleted := kept.reserved _ reserved
          · cases made
          · cases deleted
        · exact exhausted
      · rintro ⟨nothing, -⟩
        refine ⟨fun key member => ?_, fun _ member => ?_⟩
        · obtain ⟨earlier, isEarlier, got⟩ := listing.mem_reservedOf_iff.mp member
          rw [Nat.zero_add] at got
          exact absurd (nothing keys.length inside broken before earlier isEarlier) got.not_exhausted
        · cases member
  | submitted outcome last keys world count setup listing length transaction bound passed stopped returns =>
      rw [forall_prop_of_true setup, keysKept_of_submitted listing length transaction bound passed stopped]
      have unbroken : ∀ register < services.placeholderCount, ¬Broken services register := by
        intro register inside
        rw [← length] at inside
        exact (listing.at inside).not_broken
      rw [forall_prop_of_true unbroken]
      exact ⟨fun accounted => ⟨fun broken inside isBroken => absurd isBroken (unbroken broken inside), accounted⟩,
        fun both => both.2⟩

def twoRegisters : Services where
  hash := fun _ => 0
  probing := ⟨fun slots => slots, fun _ => .refl _⟩
  enumeration := ⟨fun slots => slots, fun _ => .refl _⟩
  measurePoints := 1
  registersBefore := [⟨1, [numbered 1, numbered 2], by simp; decide⟩]
  registersWithin := []
  timeSeries := fun _ => 0
  reservations := oneReservation
  retryCount := 5
  retryDelay := 100
  fails := fun _ => none

theorem key_of_first_register_leaks :
    ¬KeysKept (submitAgreement twoRegisters ⟨[], false⟩ World.initial).2 := by
  intro kept
  have reserved : (1 : Int) ∈ (submitAgreement twoRegisters ⟨[], false⟩ World.initial).2.reserved := by
    decide
  obtain made | deleted := kept.reserved 1 reserved
  · revert made
    decide
  · revert deleted
    decide

end Kept

end ServiceHost.Metering
