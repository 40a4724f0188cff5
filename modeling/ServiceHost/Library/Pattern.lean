import Mathlib.Data.List.Basic

/-!
Regular expressions that are matched by backtracking, with the groups that a match
captures. The first way of matching in the order of the search is the one that counts:
the longest run first, and the first alternative first.
-/

namespace ServiceHost.Library

variable {C G R : Type}

inductive Pattern (C G : Type)
  | empty
  | one (test : C → Bool)
  | many (test : C → Bool)
  | seq (first second : Pattern C G)
  | either (first second : Pattern C G)
  | group (name : G) (body : Pattern C G)

abbrev Captures (C G : Type) := List (G × List C)

namespace Pattern

def some (test : C → Bool) : Pattern C G := seq (one test) (many test)

def optional (test : C → Bool) : Pattern C G := either (one test) empty

def all : List (Pattern C G) → Pattern C G
  | [] => empty
  | first :: rest => seq first (all rest)

def oneOf (first : Pattern C G) : List (Pattern C G) → Pattern C G
  | [] => first
  | next :: rest => either first (oneOf next rest)

def literal [DecidableEq C] (text : List C) : Pattern C G := all (text.map fun c => one fun other => other = c)

def runMany (test : C → Bool) (next : List C → Option R) : List C → Option R
  | [] => next []
  | c :: text =>
      if test c then
        match runMany test next text with
        | Option.some result => Option.some result
        | none => next (c :: text)
      else next (c :: text)

/-- Matches a pattern at the start of a text, and goes on with the rest of the text. -/
def run : Pattern C G → (List C → Captures C G → Option R) → List C → Captures C G → Option R
  | empty, next, text, captures => next text captures
  | one _, _, [], _ => none
  | one test, next, c :: text, captures => if test c then next text captures else none
  | many test, next, text, captures => runMany test (fun rest => next rest captures) text
  | seq first second, next, text, captures => first.run (second.run next) text captures
  | either first second, next, text, captures =>
      match first.run next text captures with
      | Option.some result => Option.some result
      | none => second.run next text captures
  | group name body, next, text, captures =>
      body.run (fun rest inner => next rest ((name, text.take (text.length - rest.length)) :: inner)) text captures

def find (pattern : Pattern C G) : List C → Option (Captures C G)
  | [] => pattern.run (fun _ captures => Option.some captures) [] []
  | c :: text =>
      match pattern.run (fun _ captures => Option.some captures) (c :: text) [] with
      | Option.some captures => Option.some captures
      | none => pattern.find text

inductive Reads : Pattern C G → List C → Captures C G → Captures C G → Prop
  | empty {captures} : Reads empty [] captures captures
  | one {test c captures} (passes : test c = true) : Reads (one test) [c] captures captures
  | many {test used captures} (pass : ∀ c ∈ used, test c = true) : Reads (many test) used captures captures
  | seq {first second used more captures between after} (firstReads : Reads first used captures between)
      (secondReads : Reads second more between after) : Reads (seq first second) (used ++ more) captures after
  | left {first second used captures after} (reads : Reads first used captures after) :
      Reads (either first second) used captures after
  | right {first second used captures after} (reads : Reads second used captures after) :
      Reads (either first second) used captures after
  | group {name body used captures after} (reads : Reads body used captures after) :
      Reads (group name body) used captures ((name, used) :: after)

section Run

variable {next : List C → Captures C G → Option R} {test : C → Bool}

theorem runMany_sound {goOn : List C → Option R} {text : List C} {result : R}
    (found : runMany test goOn text = Option.some result) :
    ∃ used rest, text = used ++ rest ∧ (∀ c ∈ used, test c = true) ∧ goOn rest = Option.some result := by
  induction text with
  | nil => exact ⟨[], [], rfl, by simp, found⟩
  | cons c text ih =>
      rw [runMany] at found
      split at found
      · rename_i passes
        split at found
        · rename_i longer
          obtain ⟨used, rest, split, pass, ends⟩ := ih (longer.trans found)
          refine ⟨c :: used, rest, by rw [split]; rfl, ?_, ends⟩
          intro other member
          rcases List.mem_cons.mp member with rfl | later
          · exact passes
          · exact pass other later
        · exact ⟨[], c :: text, rfl, by simp, found⟩
      · exact ⟨[], c :: text, rfl, by simp, found⟩

theorem runMany_longest {goOn : List C → Option R} {used rest : List C} {result : R}
    (pass : ∀ c ∈ used, test c = true) (ends : goOn rest = Option.some result)
    (longest : ∀ more rest', rest = more ++ rest' → more ≠ [] → goOn rest' = none) :
    runMany test goOn (used ++ rest) = Option.some result := by
  induction used with
  | nil =>
      cases rest with
      | nil => exact ends
      | cons c rest =>
          rw [List.nil_append, runMany]
          split
          · split
            · rename_i found
              obtain ⟨more, rest', split, _, goes⟩ := runMany_sound found
              have stops := longest (c :: more) rest' (by rw [split]; rfl) (by simp)
              rw [stops] at goes
              cases goes
            · exact ends
          · exact ends
  | cons c used ih =>
      have later := ih fun other member => pass other (List.mem_cons_of_mem c member)
      rw [List.cons_append, runMany, if_pos (pass c List.mem_cons_self), later]

theorem run_sound {pattern : Pattern C G} {text : List C} {captures : Captures C G} {result : R}
    (found : pattern.run next text captures = Option.some result) :
    ∃ used rest after, text = used ++ rest ∧ Reads pattern used captures after ∧
      next rest after = Option.some result := by
  induction pattern generalizing next text captures with
  | empty => exact ⟨[], text, captures, rfl, .empty, found⟩
  | one test =>
      cases text with
      | nil => cases found
      | cons c text =>
          rw [run] at found
          split at found
          · rename_i passes
            exact ⟨[c], text, captures, rfl, .one passes, found⟩
          · cases found
  | many test =>
      obtain ⟨used, rest, split, pass, ends⟩ := runMany_sound found
      exact ⟨used, rest, captures, split, .many pass, ends⟩
  | seq first second firstIh secondIh =>
      obtain ⟨used, middle, between, split, firstReads, goes⟩ := firstIh found
      obtain ⟨more, rest, after, restSplit, secondReads, ends⟩ := secondIh goes
      exact ⟨used ++ more, rest, after, by rw [split, restSplit, List.append_assoc], .seq firstReads secondReads, ends⟩
  | either first second firstIh secondIh =>
      rw [run] at found
      split at found
      · rename_i firstFound
        obtain ⟨used, rest, after, split, reads, ends⟩ := firstIh (firstFound.trans found)
        exact ⟨used, rest, after, split, .left reads, ends⟩
      · obtain ⟨used, rest, after, split, reads, ends⟩ := secondIh found
        exact ⟨used, rest, after, split, .right reads, ends⟩
  | group name body ih =>
      obtain ⟨used, rest, after, split, reads, ends⟩ := ih found
      refine ⟨used, rest, (name, used) :: after, split, .group reads, ?_⟩
      rw [split, List.length_append, Nat.add_sub_cancel, List.take_left] at ends
      exact ends

theorem run_complete {pattern : Pattern C G} {used rest : List C} {captures after : Captures C G}
    (reads : Reads pattern used captures after) (goes : (next rest after).isSome = true) :
    (pattern.run next (used ++ rest) captures).isSome = true := by
  induction reads generalizing next rest with
  | empty => exact goes
  | one passes =>
      rw [List.singleton_append, run, if_pos passes]
      exact goes
  | @many test used captures pass =>
      rw [run]
      induction used with
      | nil =>
          cases rest with
          | nil => exact goes
          | cons c rest =>
              rw [List.nil_append, runMany]
              split
              · split
                · rfl
                · exact goes
              · exact goes
      | cons c used ih =>
          rw [List.cons_append, runMany, if_pos (pass c List.mem_cons_self)]
          split
          · rfl
          · rename_i shorter
            have longer := ih fun other member => pass other (List.mem_cons_of_mem c member)
            rw [shorter] at longer
            cases longer
  | seq _ _ firstIh secondIh =>
      rw [List.append_assoc, run]
      exact firstIh (secondIh goes)
  | left _ ih =>
      have found := ih goes
      rw [run]
      split
      · rfl
      · rename_i missed
        rw [missed] at found
        cases found
  | right _ ih =>
      rw [run]
      split
      · rfl
      · exact ih goes
  | group _ ih =>
      rw [run]
      apply ih
      rw [List.length_append, Nat.add_sub_cancel, List.take_left]
      exact goes

theorem run_group_some {name : G} {second : Pattern C G} {used rest : List C} {captures : Captures C G} {result : R}
    (nonempty : used ≠ []) (pass : ∀ c ∈ used, test c = true)
    (ends : second.run next rest ((name, used) :: captures) = Option.some result)
    (longest : ∀ more rest', rest = more ++ rest' → more ≠ [] →
      second.run next rest' ((name, used ++ more) :: captures) = none) :
    (seq (group name (some test)) second).run next (used ++ rest) captures = Option.some result := by
  cases used with
  | nil => exact absurd rfl nonempty
  | cons c used =>
      rw [List.cons_append, some, run, run, run, run, if_pos (pass c List.mem_cons_self), run]
      apply runMany_longest fun other member => pass other (List.mem_cons_of_mem c member)
      · have captured : (c :: (used ++ rest)).take ((c :: (used ++ rest)).length - rest.length) = c :: used := by
          rw [← List.cons_append, List.length_append, Nat.add_sub_cancel, List.take_left]
        rw [captured]
        exact ends
      · intro more rest' split notEmpty
        have captured : (c :: (used ++ rest)).take ((c :: (used ++ rest)).length - rest'.length) =
            c :: used ++ more := by
          rw [split, ← List.append_assoc, ← List.cons_append, List.length_append, Nat.add_sub_cancel, List.take_left,
            List.cons_append]
        rw [captured]
        exact longest more rest' split notEmpty

end Run

section Reads

variable {used : List C} {captures after : Captures C G} {test : C → Bool}

@[simp] theorem reads_empty_iff : Reads (empty : Pattern C G) used captures after ↔ used = [] ∧ after = captures := by
  constructor
  · intro reads
    cases reads with
    | empty => exact ⟨rfl, rfl⟩
  · rintro ⟨rfl, rfl⟩
    exact .empty

@[simp] theorem reads_one_iff : Reads (one test : Pattern C G) used captures after ↔
    ∃ c, used = [c] ∧ test c = true ∧ after = captures := by
  constructor
  · intro reads
    cases reads with
    | one passes => exact ⟨_, rfl, passes, rfl⟩
  · rintro ⟨c, rfl, passes, rfl⟩
    exact .one passes

@[simp] theorem reads_many_iff : Reads (many test : Pattern C G) used captures after ↔
    (∀ c ∈ used, test c = true) ∧ after = captures := by
  constructor
  · intro reads
    cases reads with
    | many pass => exact ⟨pass, rfl⟩
  · rintro ⟨pass, rfl⟩
    exact .many pass

@[simp] theorem reads_seq_iff {first second : Pattern C G} : Reads (seq first second) used captures after ↔
    ∃ start rest between, used = start ++ rest ∧ Reads first start captures between ∧ Reads second rest between after := by
  constructor
  · intro reads
    cases reads with
    | seq firstReads secondReads => exact ⟨_, _, _, rfl, firstReads, secondReads⟩
  · rintro ⟨start, rest, between, rfl, firstReads, secondReads⟩
    exact .seq firstReads secondReads

@[simp] theorem reads_either_iff {first second : Pattern C G} : Reads (either first second) used captures after ↔
    Reads first used captures after ∨ Reads second used captures after := by
  constructor
  · intro reads
    cases reads with
    | left firstReads => exact Or.inl firstReads
    | right secondReads => exact Or.inr secondReads
  · rintro (firstReads | secondReads)
    · exact .left firstReads
    · exact .right secondReads

@[simp] theorem reads_group_iff {name : G} {body : Pattern C G} : Reads (group name body) used captures after ↔
    ∃ inner, after = (name, used) :: inner ∧ Reads body used captures inner := by
  constructor
  · intro reads
    cases reads with
    | group bodyReads => exact ⟨_, rfl, bodyReads⟩
  · rintro ⟨inner, rfl, reads⟩
    exact .group reads

@[simp] theorem reads_some_iff : Reads (some test : Pattern C G) used captures after ↔
    used ≠ [] ∧ (∀ c ∈ used, test c = true) ∧ after = captures := by
  rw [some, reads_seq_iff]
  constructor
  · rintro ⟨start, rest, between, rfl, first, others⟩
    obtain ⟨c, rfl, passes, rfl⟩ := reads_one_iff.mp first
    obtain ⟨pass, rfl⟩ := reads_many_iff.mp others
    refine ⟨by simp, ?_, rfl⟩
    intro other member
    rcases List.mem_cons.mp member with rfl | later
    · exact passes
    · exact pass other later
  · rintro ⟨nonempty, pass, rfl⟩
    cases used with
    | nil => exact absurd rfl nonempty
    | cons c rest =>
        exact ⟨[c], rest, _, rfl, .one (pass c List.mem_cons_self),
          .many fun other member => pass other (List.mem_cons_of_mem c member)⟩

@[simp] theorem reads_optional_iff : Reads (optional test : Pattern C G) used captures after ↔
    (used = [] ∨ ∃ c, used = [c] ∧ test c = true) ∧ after = captures := by
  rw [optional, reads_either_iff, reads_one_iff, reads_empty_iff]
  constructor
  · rintro (⟨c, rfl, passes, rfl⟩ | ⟨rfl, rfl⟩)
    · exact ⟨Or.inr ⟨c, rfl, passes⟩, rfl⟩
    · exact ⟨Or.inl rfl, rfl⟩
  · rintro ⟨rfl | ⟨c, rfl, passes⟩, rfl⟩
    · exact Or.inr ⟨rfl, rfl⟩
    · exact Or.inl ⟨c, rfl, passes, rfl⟩

@[simp] theorem reads_all_nil_iff : Reads (all [] : Pattern C G) used captures after ↔ used = [] ∧ after = captures :=
  reads_empty_iff

@[simp] theorem reads_all_cons_iff {first : Pattern C G} {more : List (Pattern C G)} :
    Reads (all (first :: more)) used captures after ↔
      ∃ start rest between, used = start ++ rest ∧ Reads first start captures between ∧
        Reads (all more) rest between after :=
  reads_seq_iff

@[simp] theorem reads_literal_iff [DecidableEq C] {text : List C} :
    Reads (literal text : Pattern C G) used captures after ↔ used = text ∧ after = captures := by
  unfold literal
  induction text generalizing used captures with
  | nil => simp
  | cons c text ih =>
      rw [List.map_cons, reads_all_cons_iff]
      constructor
      · rintro ⟨start, rest, between, rfl, first, others⟩
        obtain ⟨other, rfl, same, rfl⟩ := reads_one_iff.mp first
        obtain ⟨rfl, rfl⟩ := ih.mp others
        exact ⟨by rw [decide_eq_true_eq.mp same]; rfl, rfl⟩
      · rintro ⟨rfl, rfl⟩
        exact ⟨[c], text, _, rfl, .one (by simp), ih.mpr ⟨rfl, rfl⟩⟩

end Reads

end Pattern

theorem append_cons_inj_of_notMem_left {a b u v : List C} {x y : C} (notLeft : x ∉ b) (notRight : y ∉ a)
    (same : a ++ x :: u = b ++ y :: v) : a = b ∧ x = y ∧ u = v := by
  rcases List.append_eq_append_iff.mp same with ⟨between, split, tail⟩ | ⟨between, split, tail⟩
  · cases between with
    | nil =>
        injection tail with first rest
        exact ⟨by rw [split, List.append_nil], first, rest⟩
    | cons c between =>
        injection tail with first rest
        rw [split, first] at notLeft
        exact absurd (List.mem_append_right a List.mem_cons_self) notLeft
  · cases between with
    | nil =>
        injection tail with first rest
        exact ⟨by rw [split, List.append_nil], first.symm, rest.symm⟩
    | cons c between =>
        injection tail with first rest
        rw [split, first] at notRight
        exact absurd (List.mem_append_right b List.mem_cons_self) notRight

theorem append_cons_inj_of_notMem_right {a b u v : List C} {x y : C} (notLeft : x ∉ v) (notRight : y ∉ u)
    (same : a ++ x :: u = b ++ y :: v) : a = b ∧ x = y ∧ u = v := by
  have reversed := congrArg List.reverse same
  simp only [List.reverse_append, List.reverse_cons, List.append_assoc, List.singleton_append] at reversed
  obtain ⟨tails, first, starts⟩ := append_cons_inj_of_notMem_left (by rwa [List.mem_reverse])
    (by rwa [List.mem_reverse]) reversed
  exact ⟨List.reverse_injective starts, first, List.reverse_injective tails⟩

end ServiceHost.Library
