import Mathlib.Tactic.Ring
import ServiceHost.DataExchange.NpAuctionRequesterCore
import ServiceHost.Library.MaximalRuns

/-!
When the requests for auctions cover exactly the days without trade periods. A period of one day stays open
until another date joins it, and a date that follows a gap then fills the gap.
-/

namespace ServiceHost.DataExchange.AuctionRequester

open Library

section Numbers

abbrev DayPeriod := Nat × Option Nat

def joinDay (number : Nat) (periods : List DayPeriod) : List DayPeriod :=
  match periods.getLast? with
  | none => [(number, none)]
  | some (first, none) => periods.dropLast ++ [(first, some (number + 1))]
  | some (first, some stop) =>
      if stop < number then periods ++ [(number, none)] else periods.dropLast ++ [(first, some (number + 1))]

def joinedDays (asked : Nat → Bool) : Nat → List DayPeriod
  | 0 => []
  | number + 1 => if asked number then joinDay number (joinedDays asked number) else joinedDays asked number

def closeDays (periods : List DayPeriod) : List DayPeriod :=
  match periods.getLast? with
  | some (first, none) => periods.dropLast ++ [(first, some (first + 1))]
  | _ => periods

def closed (run : Nat × Nat) : DayPeriod := (run.1, some run.2)

def leaveOpen (runs : List (Nat × Nat)) : List DayPeriod :=
  match runs.getLast? with
  | none => []
  | some (first, stop) => runs.dropLast.map closed ++ [(first, if stop = first + 1 then none else some stop)]

def LoneBefore (asked : Nat → Bool) (bound : Nat) : Prop :=
  ∃ number later, number < later ∧ later < bound ∧ asked number = true ∧ asked later = true ∧
    asked (number + 1) = false ∧ ∀ before, before + 1 = number → asked before = false

def Swallows (asked : Nat → Bool) (periods : List DayPeriod) : Prop :=
  ∃ number first stop, (first, some stop) ∈ periods ∧ first ≤ number ∧ number < stop ∧ asked number = false

variable {asked : Nat → Bool} {bound : Nat} {runs : List (Nat × Nat)} {periods : List DayPeriod} {first stop : Nat}

theorem joinDay_open (number : Nat) :
    joinDay number (periods ++ [(first, none)]) = periods ++ [(first, some (number + 1))] := by
  unfold joinDay
  rw [List.getLast?_concat, List.dropLast_concat]

theorem joinDay_closed (number : Nat) :
    joinDay number (periods ++ [(first, some stop)]) =
      if stop < number then periods ++ [(first, some stop)] ++ [(number, none)]
      else periods ++ [(first, some (number + 1))] := by
  unfold joinDay
  rw [List.getLast?_concat, List.dropLast_concat]

theorem leaveOpen_concat (runs : List (Nat × Nat)) (first stop : Nat) :
    leaveOpen (runs ++ [(first, stop)]) =
      runs.map closed ++ [(first, if stop = first + 1 then none else some stop)] := by
  unfold leaveOpen
  rw [List.getLast?_concat, List.dropLast_concat]

theorem closeDays_leaveOpen (runs : List (Nat × Nat)) : closeDays (leaveOpen runs) = runs.map closed := by
  rcases List.eq_nil_or_concat runs with rfl | ⟨before, ⟨first, stop⟩, rfl⟩
  · rfl
  · rw [List.concat_eq_append, leaveOpen_concat, List.map_append]
    unfold closeDays
    rw [List.getLast?_concat, List.dropLast_concat]
    by_cases single : stop = first + 1
    · rw [if_pos single, single]
      rfl
    · rw [if_neg single]
      rfl

theorem mem_joinDay {number : Nat} (member : (first, some stop) ∈ periods) (below : stop ≤ number) :
    ∃ later, stop ≤ later ∧ (first, some later) ∈ joinDay number periods := by
  rcases List.eq_nil_or_concat periods with rfl | ⟨before, ⟨lastFirst, lastStop⟩, rfl⟩
  · cases member
  · rw [List.concat_eq_append] at member ⊢
    have kept : ∀ last : DayPeriod, (first, some stop) ∈ before → (first, some stop) ∈ before ++ [last] :=
      fun last inside => List.mem_append_left _ inside
    cases lastStop with
    | none =>
        rw [joinDay_open]
        rcases List.mem_append.mp member with inside | isLast
        · exact ⟨stop, Nat.le_refl _, kept _ inside⟩
        · cases List.mem_singleton.mp isLast
    | some lastStop =>
        rw [joinDay_closed]
        split
        · exact ⟨stop, Nat.le_refl _, List.mem_append_left _ member⟩
        · rcases List.mem_append.mp member with inside | isLast
          · exact ⟨stop, Nat.le_refl _, kept _ inside⟩
          · cases List.mem_singleton.mp isLast
            exact ⟨number + 1, Nat.le_succ_of_le below, List.mem_append_right _ (List.mem_singleton_self _)⟩

theorem joinDay_inside {number : Nat} (inside : ∀ first stop, (first, some stop) ∈ periods → stop ≤ number) :
    ∀ first stop, (first, some stop) ∈ joinDay number periods → stop ≤ number + 1 := by
  intro first stop member
  rcases List.eq_nil_or_concat periods with rfl | ⟨before, ⟨lastFirst, lastStop⟩, rfl⟩
  · cases List.mem_singleton.mp member
  · rw [List.concat_eq_append] at member inside
    have earlier : (first, some stop) ∈ before → stop ≤ number + 1 := fun here =>
      Nat.le_succ_of_le (inside first stop (List.mem_append_left _ here))
    have grown : (first, some stop) ∈ before ++ [(lastFirst, some (number + 1))] → stop ≤ number + 1 := by
      intro here
      rcases List.mem_append.mp here with present | isLast
      · exact earlier present
      · cases List.mem_singleton.mp isLast
        exact Nat.le_refl _
    cases lastStop with
    | none =>
        rw [joinDay_open] at member
        exact grown member
    | some lastStop =>
        rw [joinDay_closed] at member
        split at member
        · rcases List.mem_append.mp member with present | isLast
          · exact Nat.le_succ_of_le (inside first stop present)
          · cases List.mem_singleton.mp isLast
        · exact grown member

theorem joinedDays_inside (asked : Nat → Bool) (bound : Nat) :
    ∀ first stop, (first, some stop) ∈ joinedDays asked bound → stop ≤ bound := by
  induction bound with
  | zero => exact fun _ _ member => nomatch member
  | succ bound ih =>
      rw [joinedDays]
      split
      · exact joinDay_inside ih
      · exact fun first stop member => Nat.le_succ_of_le (ih first stop member)

theorem joinDay_begun {number : Nat} (begun : ∀ first stop, (first, stop) ∈ periods → first < number) :
    ∀ first stop, (first, stop) ∈ joinDay number periods → first < number + 1 := by
  intro first stop member
  rcases List.eq_nil_or_concat periods with rfl | ⟨before, ⟨lastFirst, lastStop⟩, rfl⟩
  · cases List.mem_singleton.mp member
    exact Nat.lt_succ_self _
  · rw [List.concat_eq_append] at member begun
    have grown : (first, stop) ∈ before ++ [(lastFirst, some (number + 1))] → first < number + 1 := by
      intro here
      rcases List.mem_append.mp here with present | isLast
      · exact Nat.lt_succ_of_lt (begun first stop (List.mem_append_left _ present))
      · cases List.mem_singleton.mp isLast
        exact Nat.lt_succ_of_lt (begun _ _ (List.mem_append_right _ (List.mem_singleton_self _)))
    cases lastStop with
    | none =>
        rw [joinDay_open] at member
        exact grown member
    | some lastStop =>
        rw [joinDay_closed] at member
        split at member
        · rcases List.mem_append.mp member with present | isLast
          · exact Nat.lt_succ_of_lt (begun first stop present)
          · cases List.mem_singleton.mp isLast
            exact Nat.lt_succ_self _
        · exact grown member

theorem joinedDays_begun (asked : Nat → Bool) (bound : Nat) :
    ∀ first stop, (first, stop) ∈ joinedDays asked bound → first < bound := by
  induction bound with
  | zero => exact fun _ _ member => nomatch member
  | succ bound ih =>
      rw [joinedDays]
      split
      · exact joinDay_begun ih
      · exact fun first stop member => Nat.lt_succ_of_lt (ih first stop member)

theorem lone_is_last (areRuns : AreRuns asked bound (runs ++ [(first, stop)])) (noLone : ¬LoneBefore asked bound)
    {number : Nat} (below : number + 1 < bound) (isAsked : asked number = true) (noNext : asked (number + 1) = false)
    (noBefore : ∀ before, before + 1 = number → asked before = false) : first = number ∧ stop = number + 1 := by
  obtain ⟨run, member, lower, upper⟩ := (areRuns.asks number (by omega)).mp isAsked
  have within : ∀ inside, run.1 ≤ inside → inside < run.2 → inside < bound → asked inside = true :=
    fun inside begun goesOn less => (areRuns.asks inside less).mpr ⟨run, member, begun, goesOn⟩
  have ends : run.2 = number + 1 := by
    by_contra other
    have next := within (number + 1) (by omega) (by omega) below
    rw [noNext] at next
    cases next
  have begins : run.1 = number := by
    by_contra other
    have before := within (number - 1) (by omega) (by omega) (by omega)
    rw [noBefore (number - 1) (by omega)] at before
    cases before
  rcases List.mem_append.mp member with earlier | isLast
  · exfalso
    have lastMember : (first, stop) ∈ runs ++ [(first, stop)] := List.mem_append_right _ (List.mem_singleton_self _)
    have after := (List.pairwise_append.mp areRuns.apart).2.2 run earlier _ (List.mem_singleton_self _)
    have positive := areRuns.positive _ lastMember
    have inside := areRuns.inside _ lastMember
    dsimp only at after positive inside
    have later : asked first = true :=
      (areRuns.asks first (by omega)).mpr ⟨_, lastMember, Nat.le_refl _, positive⟩
    exact noLone ⟨number, first, by omega, by omega, isAsked, later, noNext, noBefore⟩
  · rw [List.mem_singleton.mp isLast] at ends begins
    exact ⟨begins, ends⟩

theorem LoneBefore.succ (lone : LoneBefore asked bound) : LoneBefore asked (bound + 1) := by
  obtain ⟨number, later, less, below, rest⟩ := lone
  exact ⟨number, later, less, Nat.lt_succ_of_lt below, rest⟩

theorem Swallows.join {number : Nat} (swallows : Swallows asked periods)
    (inside : ∀ first stop, (first, some stop) ∈ periods → stop ≤ number) :
    Swallows asked (joinDay number periods) := by
  obtain ⟨day, first, stop, member, lower, upper, isNot⟩ := swallows
  obtain ⟨later, grows, present⟩ := mem_joinDay member (inside first stop member)
  exact ⟨day, first, later, present, lower, Nat.lt_of_lt_of_le upper grows, isNot⟩

theorem joinDay_cases (areRuns : AreRuns asked bound runs) (noLone : ¬LoneBefore asked bound)
    (isAsked : asked bound = true) :
    (¬LoneBefore asked (bound + 1) ∧ joinDay bound (leaveOpen runs) = leaveOpen (extendRuns bound runs)) ∨
      (LoneBefore asked (bound + 1) ∧ Swallows asked (joinDay bound (leaveOpen runs))) := by
  rcases List.eq_nil_or_concat runs with rfl | ⟨before, ⟨first, stop⟩, rfl⟩
  · left
    have opened : leaveOpen [(bound, bound + 1)] = [(bound, none)] := by
      rw [← List.nil_append [(bound, bound + 1)], leaveOpen_concat, if_pos rfl]
      rfl
    refine ⟨?_, opened.symm⟩
    rintro ⟨number, later, less, below, isAskedToo, -⟩
    obtain ⟨run, member, -⟩ := (areRuns.asks number (by omega)).mp isAskedToo
    cases member
  · rw [List.concat_eq_append] at areRuns ⊢
    have lastMember : (first, stop) ∈ before ++ [(first, stop)] := List.mem_append_right _ (List.mem_singleton_self _)
    have positive := areRuns.positive _ lastMember
    have inside := areRuns.inside _ lastMember
    dsimp only at positive inside
    have keeps : ¬(stop = first + 1 ∧ stop ≠ bound) → ¬LoneBefore asked (bound + 1) := by
      rintro notSingle ⟨number, later, less, below, isAskedToo, laterAsked, noNext, noBefore⟩
      rcases Nat.lt_succ_iff_lt_or_eq.mp below with earlier | rfl
      · exact noLone ⟨number, later, less, earlier, isAskedToo, laterAsked, noNext, noBefore⟩
      · have apart : number + 1 ≠ later := by
          rintro rfl
          rw [noNext] at laterAsked
          cases laterAsked
        obtain ⟨rfl, rfl⟩ := lone_is_last areRuns noLone (by omega) isAskedToo noNext noBefore
        exact notSingle ⟨rfl, apart⟩
    rw [leaveOpen_concat, extendRuns_concat]
    by_cases single : stop = first + 1
    · rw [if_pos single, joinDay_open]
      by_cases touches : stop = bound
      · left
        refine ⟨keeps fun wrong => wrong.2 touches, ?_⟩
        rw [if_pos touches, leaveOpen_concat, if_neg (by omega)]
      · right
        have noNext : asked stop = false := areRuns.not_after lastMember (by dsimp only; omega)
        have isFirst : asked first = true := (areRuns.asks first (by omega)).mpr ⟨_, lastMember, Nat.le_refl _, positive⟩
        rw [single] at noNext
        refine ⟨⟨first, bound, by omega, Nat.lt_succ_self _, isFirst, isAsked, noNext, fun number isBefore =>
          areRuns.not_before lastMember isBefore⟩, ?_⟩
        exact ⟨first + 1, first, bound + 1, List.mem_append_right _ (List.mem_singleton_self _), by omega, by omega,
          noNext⟩
    · left
      refine ⟨keeps fun wrong => single wrong.1, ?_⟩
      rw [if_neg single, joinDay_closed]
      by_cases touches : stop = bound
      · rw [if_neg (by omega), if_pos touches, leaveOpen_concat, if_neg (by omega)]
      · have split : before ++ [(first, stop), (bound, bound + 1)] =
            before ++ [(first, stop)] ++ [(bound, bound + 1)] := by
          rw [List.append_assoc]
          rfl
        rw [if_pos (by omega), if_neg touches, split, leaveOpen_concat, if_pos rfl, List.map_append]
        rfl

theorem joinedDays_cases (asked : Nat → Bool) (bound : Nat) :
    (¬LoneBefore asked bound ∧ joinedDays asked bound = leaveOpen (maximalRuns asked bound)) ∨
      (LoneBefore asked bound ∧ Swallows asked (joinedDays asked bound)) := by
  induction bound with
  | zero => exact Or.inl ⟨fun ⟨_, _, _, below, _⟩ => (nomatch below), rfl⟩
  | succ bound ih =>
      rw [joinedDays, maximalRuns]
      by_cases isAsked : asked bound = true
      · rw [if_pos isAsked, if_pos isAsked]
        rcases ih with ⟨noLone, same⟩ | ⟨lone, swallows⟩
        · rw [same]
          exact joinDay_cases (maximalRuns_areRuns asked bound) noLone isAsked
        · exact Or.inr ⟨lone.succ, swallows.join (joinedDays_inside asked bound)⟩
      · rw [if_neg isAsked, if_neg isAsked]
        refine ih.imp (fun good => ⟨?_, good.2⟩) (fun bad => ⟨bad.1.succ, bad.2⟩)
        rintro ⟨number, later, less, below, isAskedToo, laterAsked, rest⟩
        rcases Nat.lt_succ_iff_lt_or_eq.mp below with earlier | rfl
        · exact good.1 ⟨number, later, less, earlier, isAskedToo, laterAsked, rest⟩
        · exact isAsked laterAsked

theorem maximalRuns_all (bound : Nat) : maximalRuns (fun _ => true) (bound + 1) = [(0, bound + 1)] := by
  induction bound with
  | zero => rfl
  | succ bound ih =>
      rw [maximalRuns, if_pos rfl, ih]
      exact (extendRuns_concat (bound + 1) [] 0 (bound + 1)).trans (if_pos rfl)

theorem Swallows.close (swallows : Swallows asked periods) : Swallows asked (closeDays periods) := by
  obtain ⟨day, first, stop, member, rest⟩ := swallows
  refine ⟨day, first, stop, ?_, rest⟩
  rcases List.eq_nil_or_concat periods with rfl | ⟨before, ⟨lastFirst, lastStop⟩, rfl⟩
  · cases member
  · rw [List.concat_eq_append] at member ⊢
    unfold closeDays
    rw [List.getLast?_concat, List.dropLast_concat]
    cases lastStop with
    | none =>
        rcases List.mem_append.mp member with inside | isLast
        · exact List.mem_append_left _ inside
        · cases List.mem_singleton.mp isLast
    | some lastStop => exact member

end Numbers

section Times

def gateClosing (start : UtcTime) (number : Nat) : UtcTime := .ofTicks (start.ticks + ((number : Int) - 1) * increment)

structure Dates (start : UtcTime) (days : Nat) : Prop where
  lower : increment < start.ticks
  upper : start.ticks + days * increment ≤ DateTime.maxValue.ticks

def SteadyOffset (npCal : RegionalCalendar) (start : UtcTime) (days : Nat) : Prop :=
  ∃ offset, ∀ t : UtcTime, start.ticks - increment ≤ t.ticks → t.ticks ≤ start.ticks + days * increment →
    npCal.diffUtc t = .ok offset

def toPeriod (start : UtcTime) : DayPeriod → TimePeriod
  | (first, none) => ⟨gateClosing start first, .null⟩
  | (first, some stop) => ⟨gateClosing start first, gateClosing start stop⟩

variable {start : UtcTime} {days number other : Nat} {periods : List DayPeriod}

theorem gateClosing_ticks (dates : Dates start days) (within : number ≤ days + 1) :
    (gateClosing start number).ticks = start.ticks + ((number : Int) - 1) * increment := by
  have lower := dates.lower
  have upper := dates.upper
  apply UtcTime.ofTicks_ticks
  · simp only [increment, Utc.day, Utc.hour, Utc.minute, Utc.second] at lower ⊢
    omega
  · simp only [increment, DateTime.maxValue, Utc.day, Utc.hour, Utc.minute, Utc.second] at lower upper ⊢
    omega

theorem gateClosing_ordinary (dates : Dates start days) (within : number ≤ days + 1) :
    (gateClosing start number).Ordinary := by
  have lower := dates.lower
  have upper := dates.upper
  rw [UtcTime.ordinary_iff, gateClosing_ticks dates within]
  simp only [increment, DateTime.maxValue, Utc.maxValue, Utc.minValue, Utc.day, Utc.hour, Utc.minute,
    Utc.second] at lower upper ⊢
  refine ⟨?_, ?_, ?_⟩ <;> omega

theorem gateClosing_lt_iff (dates : Dates start days) (within : number ≤ days + 1) (otherWithin : other ≤ days + 1) :
    gateClosing start number < gateClosing start other ↔ number < other := by
  rw [UtcTime.lt_iff, gateClosing_ticks dates within, gateClosing_ticks dates otherWithin]
  simp only [increment, Utc.day, Utc.hour, Utc.minute, Utc.second]
  omega

theorem gateClosing_le_iff (dates : Dates start days) (within : number ≤ days + 1) (otherWithin : other ≤ days + 1) :
    gateClosing start number ≤ gateClosing start other ↔ number ≤ other := by
  rw [← not_lt, ← not_lt, gateClosing_lt_iff dates otherWithin within]

theorem gateClosing_one : gateClosing start 1 = start := by
  unfold gateClosing
  rw [Nat.cast_one, Int.sub_self, Int.zero_mul, Int.add_zero]
  exact UtcTime.ofTicks_eq start

theorem gateClosing_add (dates : Dates start days) (within : number ≤ days) :
    (gateClosing start number).add increment = .ok (gateClosing start (number + 1)) := by
  rw [(gateClosing_ordinary dates (Nat.le_succ_of_le within)).add_eq,
    gateClosing_ticks dates (Nat.le_succ_of_le within)]
  unfold gateClosing
  congr 2
  push_cast
  ring

theorem gateClosing_sub (dates : Dates start days) (within : number ≤ days) :
    (gateClosing start (number + 1)).sub increment = .ok (gateClosing start number) := by
  rw [(gateClosing_ordinary dates (Nat.succ_le_succ within)).sub_eq,
    gateClosing_ticks dates (Nat.succ_le_succ within)]
  unfold gateClosing
  congr 2
  push_cast
  ring

theorem gateClosing_difference (dates : Dates start days) {stop : Nat} (within : number < days) (inside : stop ≤ number) :
    ∃ span, (gateClosing start (number + 1)).difference (gateClosing start stop) = .ok span ∧
      (span > increment ↔ stop < number) := by
  have lower := dates.lower
  have upper := dates.upper
  have date := gateClosing_ordinary dates (Nat.succ_le_succ (Nat.le_of_lt within))
  have ended := gateClosing_ordinary dates (Nat.le_succ_of_le (Nat.le_of_lt (Nat.lt_of_le_of_lt inside within)))
  have dateTicks := gateClosing_ticks dates (Nat.succ_le_succ (Nat.le_of_lt within))
  have endedTicks := gateClosing_ticks dates (Nat.le_succ_of_le (Nat.le_of_lt (Nat.lt_of_le_of_lt inside within)))
  refine ⟨((number : Int) + 1 - stop) * increment, ?_, ?_⟩
  · have notNull : ¬((gateClosing start (number + 1)).ticks = Utc.null ∨ (gateClosing start stop).ticks = Utc.null) :=
      not_or.mpr ⟨UtcTime.ne_null_iff.mp date.notNull, UtcTime.ne_null_iff.mp ended.notNull⟩
    unfold UtcTime.difference
    rw [if_neg notNull, dateTicks, endedTicks]
    have span : start.ticks + (((number + 1 : Nat) : Int) - 1) * increment - (start.ticks + ((stop : Int) - 1) * increment) =
        ((number : Int) + 1 - stop) * increment := by
      push_cast
      ring
    rw [span]
    simp only [increment, DateTime.maxValue, Utc.day, Utc.hour, Utc.minute, Utc.second] at lower upper ⊢
    rw [long_eq (by omega) (by omega)]
    rfl
  · simp only [increment, Utc.day, Utc.hour, Utc.minute, Utc.second]
    omega

theorem setLastUntil_concat (before : List TimePeriod) (last : TimePeriod) (untilTime : UtcTime) :
    setLastUntil (before ++ [last]) untilTime = before ++ [{ last with untilTime }] := by
  unfold setLastUntil
  rw [List.getLast?_concat, List.dropLast_concat]

theorem addDate_eq (dates : Dates start days) (within : number < days)
    (inside : ∀ first stop, (first, some stop) ∈ periods → stop ≤ number) :
    addDate (periods.map (toPeriod start)) (gateClosing start (number + 1)) =
      .ok ((joinDay number periods).map (toPeriod start)) := by
  have began := gateClosing_sub dates (Nat.le_of_lt within)
  unfold addDate
  rcases List.eq_nil_or_concat periods with rfl | ⟨before, ⟨first, stop⟩, rfl⟩
  · rw [List.map_nil, List.getLast?_nil]
    simp only [pure_eq_ok, ok_bind, if_true, began]
    rfl
  · rw [List.concat_eq_append] at inside ⊢
    rw [List.map_append, List.map_singleton, List.getLast?_concat]
    cases stop with
    | none =>
        have isOpen : (toPeriod start (first, none)).untilTime.isNull = true := rfl
        rw [joinDay_open]
        simp only [isOpen, if_true, pure_eq_ok, ok_bind, Bool.false_eq_true, if_false]
        rw [setLastUntil_concat, List.map_append]
        rfl
    | some stop =>
        have below := inside first stop (List.mem_append_right _ (List.mem_singleton_self _))
        have ordinary := gateClosing_ordinary dates (Nat.le_succ_of_le (Nat.le_of_lt (Nat.lt_of_le_of_lt below within)))
        have isClosed : (gateClosing start stop).isNull = false :=
          decide_eq_false (UtcTime.ne_null_iff.mp ordinary.notNull)
        obtain ⟨span, difference, far⟩ := gateClosing_difference dates within below
        have untilTime : (toPeriod start (first, some stop)).untilTime = gateClosing start stop := rfl
        rw [joinDay_closed]
        simp only [untilTime, isClosed, Bool.false_eq_true, if_false, difference, ok_bind, pure_eq_ok,
          decide_eq_true_eq, far]
        by_cases gap : stop < number
        · rw [if_pos gap, if_pos gap, began, ok_bind, List.map_append, List.map_append]
          rfl
        · rw [if_neg gap, if_neg gap, setLastUntil_concat, List.map_append]
          rfl

end Times

section Periods

variable (tradePeriod : UtcTime → Bool) (force : Bool) (start : UtcTime) (days : Nat)

def asked (number : Nat) : Bool := !(tradePeriod (gateClosing start (number + 1)) && !force)

variable {tradePeriod force start days}

theorem loop_run (dates : Dates start days) {number : Nat} (within : number ≤ days) :
    (periodStep tradePeriod force (gateClosing start (days + 1)))^[number] (.loop start []) =
      .loop (gateClosing start (number + 1)) ((joinedDays (asked tradePeriod force start) number).map (toPeriod start)) := by
  induction number with
  | zero => rw [gateClosing_one]; rfl
  | succ number ih =>
      have less : gateClosing start (number + 1) < gateClosing start (days + 1) :=
        (gateClosing_lt_iff dates (by omega) (by omega)).mpr (by omega)
      have compared := UtcTime.less_of_ne_null
        (gateClosing_ordinary dates (show number + 1 ≤ days + 1 by omega)).notNull
        (gateClosing_ordinary dates (Nat.le_refl (days + 1))).notNull
      rw [Function.iterate_succ_apply', ih (Nat.le_of_succ_le within), periodStep, compared, decide_eq_true less,
        joinedDays]
      have turned := addDate_eq dates (Nat.lt_of_succ_le within) (joinedDays_inside (asked tradePeriod force start) number)
      have next := gateClosing_add dates (show number + 1 ≤ days by omega)
      simp only [ok_bind, if_true]
      cases isAsked : tradePeriod (gateClosing start (number + 1)) && !force with
      | true =>
          have skipped : asked tradePeriod force start number = false := congrArg (! ·) isAsked
          simp only [if_true, pure_eq_ok, ok_bind, next, skipped, Bool.false_eq_true, if_false]
          rfl
      | false =>
          have taken : asked tradePeriod force start number = true := congrArg (! ·) isAsked
          simp only [Bool.false_eq_true, if_false, turned, ok_bind, next, taken, if_true, pure_eq_ok]
          rfl

theorem loop_comes (dates : Dates start days) :
    Comes (periodStep tradePeriod force (gateClosing start (days + 1))) (.loop start [])
      (.ended (.ok ((joinedDays (asked tradePeriod force start) days).map (toPeriod start)))) := by
  refine ⟨days + 1, ?_⟩
  have notNull := (gateClosing_ordinary dates (Nat.le_refl (days + 1))).notNull
  rw [Function.iterate_succ_apply', loop_run dates (Nat.le_refl days), periodStep,
    UtcTime.less_of_ne_null notNull notNull, decide_eq_false (lt_irrefl _)]
  rfl

theorem add_steady {npCal : RegionalCalendar} (dates : Dates start days) (steady : SteadyOffset npCal start days)
    {first count : Nat} (within : first + count ≤ days + 1) (room : 0 < count ∨ 0 < first) :
    npCal.add (gateClosing start first) increment count = .ok (gateClosing start (first + count)) := by
  obtain ⟨offset, same⟩ := steady
  have lower := dates.lower
  have upper := dates.upper
  have ordinary := gateClosing_ordinary dates (show first ≤ days + 1 by omega)
  have ordinaryEnd := gateClosing_ordinary dates within
  have ticks := gateClosing_ticks dates (show first ≤ days + 1 by omega)
  have ticksEnd := gateClosing_ticks dates within
  have moved : (gateClosing start first).ticks + count * increment = (gateClosing start (first + count)).ticks := by
    rw [ticks, ticksEnd]
    push_cast
    ring
  have offsetAt : ∀ span, (0 ≤ span ∧ span ≤ Utc.hour) → ∀ number ≤ days + 1, (span = 0 ∨ 0 < number) →
      ∃ probe, (gateClosing start number).sub span = .ok probe ∧ npCal.diffUtc probe = .ok offset := by
    intro span short number inside notFirst
    have numberTicks := gateClosing_ticks dates inside
    refine ⟨_, (gateClosing_ordinary dates inside).sub_eq span, ?_⟩
    simp only [increment, DateTime.maxValue, Utc.day, Utc.hour, Utc.minute, Utc.second] at lower upper numberTicks short same
    have kept : (UtcTime.ofTicks ((gateClosing start number).ticks - span)).ticks =
        (gateClosing start number).ticks - span := UtcTime.ofTicks_ticks (by omega) (by omega)
    apply same
    · omega
    · omega
  have fits : long (count * increment) = count * increment := by
    simp only [increment, DateTime.maxValue, Utc.day, Utc.hour, Utc.minute, Utc.second] at lower upper ⊢
    exact long_eq (by omega) (by omega)
  have isDay : ¬increment = Utc.year ∧ ¬increment = Utc.month := by decide
  have ending : (gateClosing start first).add (count * increment) = .ok (gateClosing start (first + count)) := by
    rw [ordinary.add_eq, moved, UtcTime.ofTicks_eq]
  have done : (gateClosing start (first + count)).add (offset - offset) = .ok (gateClosing start (first + count)) := by
    rw [ordinaryEnd.add_eq, Int.sub_self, Int.add_zero, UtcTime.ofTicks_eq]
  have hour : 0 ≤ Utc.hour ∧ Utc.hour ≤ Utc.hour := by decide
  have none : (0 : Int) ≤ 0 ∧ 0 ≤ Utc.hour := by decide
  have days : increment = Utc.week ∨ increment = Utc.day := Or.inr rfl
  unfold RegionalCalendar.add
  simp only [fits, isDay.1, isDay.2, if_false, if_pos days]
  rcases Nat.eq_zero_or_pos count with rfl | positive
  · obtain ⟨probe, begun, offsetBegun⟩ := offsetAt Utc.hour hour first (by omega) (Or.inr (by omega))
    obtain ⟨later, ended, offsetEnded⟩ := offsetAt 0 none (first + 0) within (Or.inl rfl)
    have backward : ¬((0 : Nat) : Int) * increment > 0 := by decide
    simp only [backward, if_false, begun, ok_bind, offsetBegun, ending, ended, offsetEnded, done]
  · obtain ⟨probe, begun, offsetBegun⟩ := offsetAt 0 none first (by omega) (Or.inl rfl)
    obtain ⟨later, ended, offsetEnded⟩ := offsetAt Utc.hour hour (first + count) within (Or.inr (by omega))
    have forward : (count : Int) * increment > 0 := by
      simp only [increment, Utc.day, Utc.hour, Utc.minute, Utc.second]
      omega
    simp only [forward, if_true, begun, ok_bind, offsetBegun, ending, ended, offsetEnded, done]

theorem closeLast_eq {npCal : RegionalCalendar} (dates : Dates start days) (steady : SteadyOffset npCal start days)
    {periods : List DayPeriod} (inside : ∀ first stop, (first, some stop) ∈ periods → stop ≤ days)
    (begun : ∀ first stop, (first, stop) ∈ periods → first < days) :
    closeLast npCal (periods.map (toPeriod start)) = .ok ((closeDays periods).map (toPeriod start)) := by
  unfold closeLast closeDays
  rcases List.eq_nil_or_concat periods with rfl | ⟨before, ⟨first, stop⟩, rfl⟩
  · rfl
  · rw [List.concat_eq_append] at inside begun ⊢
    rw [List.map_append, List.map_singleton, List.getLast?_concat, List.getLast?_concat, List.dropLast_concat]
    have isLast : (first, stop) ∈ before ++ [(first, stop)] := List.mem_append_right _ (List.mem_singleton_self _)
    cases stop with
    | none =>
        have below := begun first none isLast
        have ending := add_steady dates steady (show first + 1 ≤ days + 1 by omega) (Or.inl Nat.one_pos)
        have isOpen : (toPeriod start (first, none)).untilTime = .null := rfl
        have from_ : (toPeriod start (first, none)).fromTime = gateClosing start first := rfl
        simp only [isOpen, if_true, from_]
        rw [Nat.cast_one] at ending
        rw [ending, ok_bind, setLastUntil_concat, List.map_append]
        rfl
    | some stop =>
        have below := inside first stop isLast
        have ordinary := gateClosing_ordinary dates (Nat.le_succ_of_le below)
        have isClosed : ¬(toPeriod start (first, some stop)).untilTime = .null := ordinary.notNull
        simp only [if_neg isClosed, List.map_append]
        rfl

end Periods

section Requests

def deliveryDate (start : UtcTime) (number : Nat) : UtcTime := gateClosing start (number + 1)

def gateClosingDay (start : UtcTime) (number : Nat) : TimePeriod :=
  ⟨gateClosing start number, gateClosing start (number + 1)⟩

structure CoversExactly (missing : Nat → Prop) (start : UtcTime) (days : Nat) (periods : List TimePeriod) : Prop where
  disjoint : periods.Pairwise fun one another => ∀ t, ¬(one.Covers t ∧ another.Covers t)
  nonempty : ∀ period ∈ periods, period.fromTime < period.untilTime
  union : ∀ t, (∃ period ∈ periods, period.Covers t) ↔
    ∃ number < days, missing number ∧ (gateClosingDay start number).Covers t
  maximal : ∀ period ∈ periods, ∃ first stop, first < stop ∧ stop ≤ days ∧
    period = ⟨gateClosing start first, gateClosing start stop⟩ ∧
    (∀ number, first ≤ number → number < stop → missing number) ∧
    (∀ before, before + 1 = first → ¬missing before) ∧ (stop < days → ¬missing stop)

def RequestsExactly (tradePeriod : UtcTime → Bool) (force : Bool) (start : UtcTime) (days : Nat)
    (periods : List TimePeriod) : Prop :=
  (force = false → CoversExactly (fun number => tradePeriod (deliveryDate start number) = false) start days periods) ∧
    (force = true → periods = [⟨gateClosing start 0, gateClosing start days⟩])

variable {start : UtcTime} {days : Nat}

theorem covers_iff (dates : Dates start days) {first stop : Nat} (less : first < stop) (within : stop ≤ days + 1)
    (t : UtcTime) :
    (⟨gateClosing start first, gateClosing start stop⟩ : TimePeriod).Covers t ↔
      ∃ number, first ≤ number ∧ number < stop ∧ (gateClosingDay start number).Covers t := by
  constructor
  · rintro ⟨lower, upper⟩
    have stopTicks := gateClosing_ticks dates within
    have firstTicks := gateClosing_ticks dates (show first ≤ days + 1 by omega)
    rw [UtcTime.le_iff] at lower
    rw [UtcTime.lt_iff] at upper
    dsimp only at lower upper
    simp only [increment, Utc.day, Utc.hour, Utc.minute, Utc.second] at firstTicks stopTicks
    obtain ⟨number, isNumber⟩ : ∃ number : Nat, (number : Int) = (t.ticks - start.ticks) / 864000000000 + 1 :=
      ⟨((t.ticks - start.ticks) / 864000000000 + 1).toNat, Int.toNat_of_nonneg (by omega)⟩
    have begun : first ≤ number := by omega
    have goesOn : number < stop := by omega
    have numberTicks := gateClosing_ticks dates (show number ≤ days + 1 by omega)
    have nextTicks := gateClosing_ticks dates (show number + 1 ≤ days + 1 by omega)
    simp only [increment, Utc.day, Utc.hour, Utc.minute, Utc.second] at numberTicks nextTicks
    refine ⟨number, begun, goesOn, ?_, ?_⟩
    · rw [UtcTime.le_iff]
      dsimp only [gateClosingDay]
      omega
    · rw [UtcTime.lt_iff]
      dsimp only [gateClosingDay]
      push_cast at nextTicks
      omega
  · rintro ⟨number, begun, goesOn, lower, upper⟩
    have firstLe := (gateClosing_le_iff dates (show first ≤ days + 1 by omega) (show number ≤ days + 1 by omega)).mpr begun
    have stopLe := (gateClosing_le_iff dates (show number + 1 ≤ days + 1 by omega) within).mpr goesOn
    exact ⟨firstLe.trans lower, upper.trans_le stopLe⟩

theorem covers_day_iff (dates : Dates start days) {number other : Nat} (within : number ≤ days) (otherWithin : other ≤ days) :
    (gateClosingDay start number).Covers (gateClosing start other) ↔ other = number := by
  unfold TimePeriod.Covers gateClosingDay
  rw [gateClosing_le_iff dates (by omega) (by omega), gateClosing_lt_iff dates (by omega) (by omega)]
  omega

variable {missing : Nat → Bool}

theorem coversExactly_of_areRuns (dates : Dates start days) {runs : List (Nat × Nat)} (areRuns : AreRuns missing days runs) :
    CoversExactly (fun number => missing number = true) start days ((runs.map closed).map (toPeriod start)) := by
  have same : (runs.map closed).map (toPeriod start) =
      runs.map fun run => (⟨gateClosing start run.1, gateClosing start run.2⟩ : TimePeriod) := List.map_map ..
  rw [same]
  refine ⟨?_, ?_, ?_, ?_⟩
  · refine List.pairwise_map.mpr (areRuns.apart.imp_of_mem fun {one another} member present apart t both => ?_)
    have inside := areRuns.inside another present
    have positive := areRuns.positive another present
    have order := (gateClosing_lt_iff dates (show one.2 ≤ days + 1 by omega) (show another.1 ≤ days + 1 by omega)).mpr apart
    exact absurd (both.1.2.trans order) (not_lt.mpr both.2.1)
  · intro period member
    obtain ⟨run, present, rfl⟩ := List.mem_map.mp member
    have inside := areRuns.inside run present
    have positive := areRuns.positive run present
    exact (gateClosing_lt_iff dates (by omega) (by omega)).mpr positive
  · intro t
    simp only [List.mem_map, exists_exists_and_eq_and]
    constructor
    · rintro ⟨run, member, covers⟩
      have inside := areRuns.inside run member
      obtain ⟨number, begun, goesOn, here⟩ :=
        (covers_iff dates (areRuns.positive run member) (Nat.le_succ_of_le inside) t).mp covers
      exact ⟨number, by omega, (areRuns.asks number (by omega)).mpr ⟨run, member, begun, goesOn⟩, here⟩
    · rintro ⟨number, less, isMissing, here⟩
      obtain ⟨run, member, begun, goesOn⟩ := (areRuns.asks number less).mp isMissing
      have inside := areRuns.inside run member
      exact ⟨run, member, (covers_iff dates (areRuns.positive run member) (Nat.le_succ_of_le inside) t).mpr
        ⟨number, begun, goesOn, here⟩⟩
  · intro period member
    obtain ⟨run, present, rfl⟩ := List.mem_map.mp member
    have inside := areRuns.inside run present
    refine ⟨run.1, run.2, areRuns.positive run present, inside, rfl, ?_, ?_, ?_⟩
    · exact fun number begun goesOn => (areRuns.asks number (by omega)).mpr ⟨run, present, begun, goesOn⟩
    · intro before isBefore isMissing
      rw [areRuns.not_before present isBefore] at isMissing
      cases isMissing
    · intro below isMissing
      rw [areRuns.not_after present below] at isMissing
      cases isMissing

theorem not_coversExactly_of_swallows (dates : Dates start days) {periods : List DayPeriod}
    (swallows : Swallows missing periods) (inside : ∀ first stop, (first, some stop) ∈ periods → stop ≤ days) :
    ¬CoversExactly (fun number => missing number = true) start days (periods.map (toPeriod start)) := by
  intro exactly
  obtain ⟨day, first, stop, member, begun, goesOn, isNot⟩ := swallows
  have within := inside first stop member
  have covers : (toPeriod start (first, some stop)).Covers (gateClosing start day) :=
    ⟨(gateClosing_le_iff dates (by omega) (by omega)).mpr begun, (gateClosing_lt_iff dates (by omega) (by omega)).mpr goesOn⟩
  obtain ⟨number, less, isMissing, here⟩ := (exactly.union _).mp ⟨_, List.mem_map_of_mem member, covers⟩
  rw [(covers_day_iff dates (by omega) (by omega)).mp here, isMissing] at isNot
  cases isNot

end Requests

section Command

variable {npCal : RegionalCalendar} {tradePeriod : UtcTime → Bool} {force : Bool} {start : UtcTime} {days : Nat}

theorem closeDays_inside {periods : List DayPeriod} (inside : ∀ first stop, (first, some stop) ∈ periods → stop ≤ days)
    (begun : ∀ first stop, (first, stop) ∈ periods → first < days) :
    ∀ first stop, (first, some stop) ∈ closeDays periods → stop ≤ days := by
  intro first stop member
  rcases List.eq_nil_or_concat periods with rfl | ⟨before, ⟨lastFirst, lastStop⟩, rfl⟩
  · cases member
  · rw [List.concat_eq_append] at inside begun member
    unfold closeDays at member
    rw [List.getLast?_concat, List.dropLast_concat] at member
    cases lastStop with
    | none =>
        rcases List.mem_append.mp member with present | isLast
        · exact inside first stop (List.mem_append_left _ present)
        · cases List.mem_singleton.mp isLast
          exact begun first none (List.mem_append_right _ (List.mem_singleton_self _))
    | some lastStop => exact inside first stop member

theorem periodsReturn_iff (dates : Dates start days) (steady : SteadyOffset npCal start days) (periods : List TimePeriod) :
    PeriodsReturn npCal tradePeriod force start days periods ↔
      periods = (closeDays (joinedDays (asked tradePeriod force start) days)).map (toPeriod start) := by
  have ending := add_steady dates steady (show 1 + days ≤ days + 1 by omega) (Or.inr Nat.one_pos)
  rw [gateClosing_one, Nat.add_comm 1 days] at ending
  have looped := @loop_comes tradePeriod force start days dates
  have closing := closeLast_eq dates steady (joinedDays_inside (asked tradePeriod force start) days)
    (joinedDays_begun (asked tradePeriod force start) days)
  constructor
  · rintro ⟨endTime, found, ends, comes, closes⟩
    cases ending.symm.trans ends
    have same := comes.unique looped rfl rfl
    cases same
    exact Except.ok.inj (closes.symm.trans closing)
  · rintro rfl
    exact ⟨_, _, ending, looped, closing⟩

theorem asked_force (tradePeriod : UtcTime → Bool) (start : UtcTime) : asked tradePeriod true start = fun _ => true := by
  funext number
  exact congrArg (! ·) (Bool.and_false _)

theorem asked_noForce (tradePeriod : UtcTime → Bool) (start : UtcTime) :
    asked tradePeriod false start = fun number => !tradePeriod (deliveryDate start number) := by
  funext number
  exact congrArg (! ·) (Bool.and_true _)

theorem requestsExactly_force (dates : Dates start days) :
    (closeDays (joinedDays (fun _ => true) days)).map (toPeriod start) =
        [⟨gateClosing start 0, gateClosing start days⟩] ↔ 0 < days := by
  have noLone : ¬LoneBefore (fun _ => true) days := by
    rintro ⟨_, _, _, _, _, _, noNext, _⟩
    cases noNext
  obtain ⟨-, same⟩ | ⟨lone, -⟩ := joinedDays_cases (fun _ => true) days
  · rw [same, closeDays_leaveOpen]
    cases days with
    | zero => exact iff_of_false (fun wrong => nomatch wrong) (Nat.lt_irrefl 0)
    | succ days =>
        rw [maximalRuns_all]
        exact iff_of_true rfl (Nat.succ_pos days)
  · exact absurd lone noLone

theorem requestsExactly_noForce (dates : Dates start days) :
    CoversExactly (fun number => tradePeriod (deliveryDate start number) = false) start days
        ((closeDays (joinedDays (fun number => !tradePeriod (deliveryDate start number)) days)).map (toPeriod start)) ↔
      ¬LoneBefore (fun number => !tradePeriod (deliveryDate start number)) days := by
  have isMissing : (fun number => tradePeriod (deliveryDate start number) = false) =
      fun number => (!tradePeriod (deliveryDate start number)) = true := by
    funext number
    rw [Bool.not_eq_true']
  rw [isMissing]
  obtain ⟨noLone, same⟩ | ⟨lone, swallows⟩ :=
    joinedDays_cases (fun number => !tradePeriod (deliveryDate start number)) days
  · rw [same, closeDays_leaveOpen]
    exact iff_of_true (coversExactly_of_areRuns dates (maximalRuns_areRuns _ days)) noLone
  · exact iff_of_false (not_coversExactly_of_swallows dates swallows.close
      (closeDays_inside (joinedDays_inside _ days) (joinedDays_begun _ days))) (not_not_intro lone)

/-- The requests cover exactly the days before the missing dates, each run of them by one period, exactly if no
missing date stands alone before a later missing one; with force they are one period if there are dates at all. -/
theorem newAuctions_exact_iff (dates : Dates start days) (steady : SteadyOffset npCal start days) :
    ∃ periods, (∀ other, PeriodsReturn npCal tradePeriod force start days other ↔ other = periods) ∧
      (RequestsExactly tradePeriod force start days periods ↔
        (force = false ∧ ¬LoneBefore (fun number => !tradePeriod (deliveryDate start number)) days) ∨
          (force = true ∧ 0 < days)) := by
  refine ⟨_, periodsReturn_iff dates steady, ?_⟩
  unfold RequestsExactly
  cases force with
  | false =>
      simp only [forall_const, reduceCtorEq, IsEmpty.forall_iff, and_true, true_and, false_and, or_false]
      rw [asked_noForce]
      exact requestsExactly_noForce dates
  | true =>
      simp only [forall_const, reduceCtorEq, IsEmpty.forall_iff, true_and, false_and, false_or]
      rw [asked_force]
      exact requestsExactly_force dates

def startOf2024 : UtcTime := .ofTicks 638396640000000000

theorem startOf2024_dates : Dates startOf2024 3 := ⟨by decide, by decide⟩

theorem utc_steady : SteadyOffset .utcCalendar startOf2024 3 := ⟨0, fun _ _ _ => rfl⟩

theorem newAuctions_exact_iff_empty :
    ∃ periods, (∀ other, PeriodsReturn .utcCalendar (fun _ => false) false startOf2024 3 other ↔ other = periods) ∧
      (RequestsExactly (fun _ => false) false startOf2024 3 periods ↔
        (false = false ∧ ¬LoneBefore (fun number => !(fun _ => false) (deliveryDate startOf2024 number)) 3) ∨
          (false = true ∧ 0 < 3)) :=
  newAuctions_exact_iff startOf2024_dates utc_steady

/-- The second of three dates has its trade period: the period of the first one is drawn out over it. -/
theorem lone_date_swallows_gap :
    ∃ periods, PeriodsReturn .utcCalendar (fun date => date = deliveryDate startOf2024 1) false startOf2024 3 periods ∧
      ¬RequestsExactly (fun date => date = deliveryDate startOf2024 1) false startOf2024 3 periods := by
  refine ⟨_, (periodsReturn_iff startOf2024_dates utc_steady _).mpr rfl, fun exactly => ?_⟩
  have covers := exactly.1 rfl
  rw [asked_noForce] at covers
  have lone : LoneBefore
      (fun number => !decide (deliveryDate startOf2024 number = deliveryDate startOf2024 1)) 3 :=
    ⟨0, 2, by decide, by decide, by decide, by decide, by decide, fun before isBefore => by omega⟩
  exact absurd lone ((@requestsExactly_noForce (fun date => date = deliveryDate startOf2024 1) _ _ startOf2024_dates).mp
    covers)

end Command

end ServiceHost.DataExchange.AuctionRequester
