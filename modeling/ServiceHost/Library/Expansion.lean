import Mathlib.Data.Fintype.Order
import Mathlib.Data.Set.Finite.List
import Mathlib.Logic.Relation
import ServiceHost.Library.References

/-!
The full recursive expansion of a text: a reference to a known name stands for the expansion of
its text, and one to an unknown name for itself. There is one wherever the references that a
text reaches form no cycle, and replacing references by their texts does not change it.
-/

namespace ServiceHost.Library

section Expansion

variable {N C : Type}

inductive Expansion (env : N → Option (List (Piece N C))) : List (Piece N C) → List (Piece N C) → Prop
  | nil : Expansion env [] []
  | character {c : C} {text expanded : List (Piece N C)} (rest : Expansion env text expanded) :
      Expansion env (.character c :: text) (.character c :: expanded)
  | unknown {name : N} {text expanded : List (Piece N C)} (unknown : env name = none) (rest : Expansion env text expanded) :
      Expansion env (.reference name :: text) (.reference name :: expanded)
  | known {name : N} {value inner text expanded : List (Piece N C)} (known : env name = some value)
      (inside : Expansion env value inner) (rest : Expansion env text expanded) :
      Expansion env (.reference name :: text) (inner ++ expanded)

variable {env : N → Option (List (Piece N C))} {text expanded : List (Piece N C)}

namespace Expansion

theorem append {other otherExpanded : List (Piece N C)} (first : Expansion env text expanded)
    (second : Expansion env other otherExpanded) : Expansion env (text ++ other) (expanded ++ otherExpanded) := by
  induction first with
  | nil => exact second
  | character _ ih => exact .character ih
  | unknown unknown _ ih => exact .unknown unknown ih
  | known known inside _ _ ih =>
      rw [List.append_assoc]
      exact .known known inside ih

theorem unique {other : List (Piece N C)} (first : Expansion env text expanded) (second : Expansion env text other) :
    expanded = other := by
  induction first generalizing other with
  | nil => cases second; rfl
  | character _ ih =>
      cases second with
      | character rest => rw [ih rest]
  | unknown unknown _ ih =>
      cases second with
      | unknown _ rest => rw [ih rest]
      | known known _ _ => rw [unknown] at known; cases known
  | known known _ _ insideIh ih =>
      cases second with
      | unknown unknown _ => rw [known] at unknown; cases unknown
      | known again inside rest =>
          obtain rfl := Option.some.inj (known.symm.trans again)
          rw [insideIh inside, ih rest]

theorem of_settled (settled : ∀ name ∈ references text, env name = none) : Expansion env text text := by
  induction text with
  | nil => exact .nil
  | cons piece text ih =>
      have rest : Expansion env text text := ih fun name member => settled name (mem_references.mpr
        (List.mem_cons_of_mem _ (mem_references.mp member)))
      cases piece with
      | character c => exact .character rest
      | reference name => exact .unknown (settled name (mem_references.mpr List.mem_cons_self)) rest

theorem settled (expansion : Expansion env text expanded) : ∀ name ∈ references expanded, env name = none := by
  induction expansion with
  | nil => exact fun name member => absurd member List.not_mem_nil
  | character _ ih =>
      intro name member
      rcases List.mem_cons.mp (mem_references.mp member) with no | later
      · cases no
      · exact ih name (mem_references.mpr later)
  | unknown unknown _ ih =>
      intro name member
      rcases List.mem_cons.mp (mem_references.mp member) with here | later
      · rw [Piece.reference.inj here]
        exact unknown
      · exact ih name (mem_references.mpr later)
  | known _ _ _ insideIh ih =>
      intro name member
      rcases List.mem_append.mp (mem_references.mp member) with inside | later
      · exact insideIh name (mem_references.mpr inside)
      · exact ih name (mem_references.mpr later)

theorem applyAll {f : N → List (Piece N C)} (some : ∀ name, f name = [.reference name] ∨ env name = .some (f name))
    (expansion : Expansion env text expanded) : Expansion env (applyAll f text) expanded := by
  induction expansion with
  | nil => exact .nil
  | character _ ih => exact .character ih
  | @unknown name _ _ unknown _ ih =>
      rcases some name with same | replaced
      · rw [applyAll_cons, Piece.replaced, same]
        exact .unknown unknown ih
      · rw [unknown] at replaced
        cases replaced
  | @known name _ _ _ _ known inside _ _ ih =>
      rw [applyAll_cons, Piece.replaced]
      rcases some name with same | replaced
      · rw [same]
        exact .known known inside ih
      · obtain rfl := Option.some.inj (known.symm.trans replaced)
        exact inside.append ih

theorem substitute (expansion : Expansion env text expanded) : Expansion env (substitute env text) expanded := by
  refine expansion.applyAll fun name => ?_
  cases env name with
  | none => exact .inl rfl
  | some value => exact .inr rfl

theorem substitute_iterate (expansion : Expansion env text expanded) (passes : Nat) :
    Expansion env ((Library.substitute env)^[passes] text) expanded := by
  induction passes generalizing text with
  | zero => exact expansion
  | succ passes ih => exact ih expansion.substitute

end Expansion

theorem substitute_append (first second : List (Piece N C)) :
    substitute env (first ++ second) = substitute env first ++ substitute env second := applyAll_append _ _ _

theorem iterate_substitute_append (passes : Nat) (first second : List (Piece N C)) :
    (substitute env)^[passes] (first ++ second) = (substitute env)^[passes] first ++ (substitute env)^[passes] second := by
  induction passes generalizing first second with
  | zero => rfl
  | succ passes ih => rw [Function.iterate_succ_apply, substitute_append, ih]; rfl

theorem Expansion.reached (expansion : Expansion env text expanded) :
    ∃ passes, (Library.substitute env)^[passes] text = expanded := by
  have stays {settled : List (Piece N C)} (none : ∀ name ∈ references settled, env name = none) (passes : Nat) :
      (Library.substitute env)^[passes] settled = settled := Function.iterate_fixed (substitute_settled none) passes
  induction expansion with
  | nil => exact ⟨0, rfl⟩
  | @character c text expanded _ ih =>
      obtain ⟨passes, reached⟩ := ih
      have alone : (Library.substitute env)^[passes] [Piece.character c] = [.character c] :=
        stays (fun name member => absurd member List.not_mem_nil) passes
      exact ⟨passes, by rw [← List.singleton_append, iterate_substitute_append, alone, reached]; rfl⟩
  | @unknown name text expanded unknown _ ih =>
      obtain ⟨passes, reached⟩ := ih
      have alone : (Library.substitute env)^[passes] [Piece.reference name] = [.reference name] := by
        refine stays (fun other member => ?_) passes
        rw [Piece.reference.inj (List.mem_singleton.mp (mem_references.mp member))]
        exact unknown
      exact ⟨passes, by rw [← List.singleton_append, iterate_substitute_append, alone, reached]; rfl⟩
  | @known name value inner text expanded known inside rest insideIh ih =>
      obtain ⟨insidePasses, insideReached⟩ := insideIh
      obtain ⟨passes, reached⟩ := ih
      have first : Library.substitute env [Piece.reference name] = value := by
        rw [Library.substitute, applyAll_cons, Piece.replaced, known]
        exact List.append_nil value
      refine ⟨passes + (insidePasses + 1), ?_⟩
      have front : (Library.substitute env)^[passes + (insidePasses + 1)] [Piece.reference name] = inner := by
        rw [Function.iterate_add_apply, Function.iterate_succ_apply, first, insideReached, stays inside.settled]
      have behind : (Library.substitute env)^[passes + (insidePasses + 1)] text = expanded := by
        rw [Nat.add_comm, Function.iterate_add_apply, reached, stays rest.settled]
      rw [← List.singleton_append, iterate_substitute_append, front, behind]

theorem Expansion.of_fixed (expansion : Expansion env text expanded) (fixed : Library.substitute env text = text) :
    text = expanded := by
  obtain ⟨passes, reached⟩ := expansion.reached
  rw [← reached, Function.iterate_fixed fixed]

section WithoutCycles

def Mentions (env : N → Option (List (Piece N C))) (other name : N) : Prop :=
  ∃ value, env name = some value ∧ other ∈ references value

inductive Reaches (env : N → Option (List (Piece N C))) (text : List (Piece N C)) : N → Prop
  | direct {name : N} (member : name ∈ references text) : Reaches env text name
  | mentioned {other name : N} (reaches : Reaches env text name) (mentions : Mentions env other name) : Reaches env text other

def WithoutCycles (env : N → Option (List (Piece N C))) (text : List (Piece N C)) : Prop :=
  ∀ name, Reaches env text name → ¬Relation.TransGen (Mentions env) name name

theorem exists_expansion_of_names {value : List (Piece N C)}
    (each : ∀ name ∈ references value, ∀ inner, env name = some inner → ∃ out, Expansion env inner out) :
    ∃ out, Expansion env value out := by
  induction value with
  | nil => exact ⟨[], .nil⟩
  | cons piece value ih =>
      obtain ⟨out, rest⟩ := ih fun name member => each name (mem_references.mpr
        (List.mem_cons_of_mem _ (mem_references.mp member)))
      cases piece with
      | character c => exact ⟨_, .character rest⟩
      | reference name =>
          cases known : env name with
          | none => exact ⟨_, .unknown known rest⟩
          | some inner =>
              obtain ⟨innerOut, inside⟩ := each name (mem_references.mpr List.mem_cons_self) inner known
              exact ⟨_, .known known inside rest⟩

theorem exists_expansion (names : List N) (finite : ∀ name, env name ≠ none → name ∈ names) (acyclic : WithoutCycles env text) :
    ∃ expanded, Expansion env text expanded := by
  let Known := { name : N // name ∈ names ∧ Reaches env text name }
  let below (first second : Known) : Prop := Relation.TransGen (Mentions env) first.1 second.1
  have : Finite Known := Set.Finite.subset (List.finite_toSet names) fun _ member => member.1
  have : IsTrans Known below := ⟨fun _ _ _ first second => first.trans second⟩
  have : Std.Irrefl below := ⟨fun name cycle => acyclic name.1 name.2.2 cycle⟩
  have wellFounded : WellFounded below := Finite.wellFounded_of_trans_of_irrefl below
  have each : ∀ name : Known, ∀ value, env name.1 = some value → ∃ out, Expansion env value out := by
    intro name
    induction name using wellFounded.induction with
    | _ name ih =>
        intro value known
        refine exists_expansion_of_names fun other member inner otherKnown => ?_
        have mentions : Mentions env other name.1 := ⟨value, known, member⟩
        have inNames : other ∈ names := finite other (by rw [otherKnown]; exact Option.some_ne_none _)
        exact ih ⟨other, inNames, .mentioned name.2.2 mentions⟩ (.single mentions) inner otherKnown
  refine exists_expansion_of_names fun name member inner known => ?_
  have inNames : name ∈ names := finite name (by rw [known]; exact Option.some_ne_none _)
  exact each ⟨name, inNames, .direct member⟩ inner known

end WithoutCycles

section Leftmost

/-- Going through a text from the left, with the texts of known names in their places, up to an unknown name
or to the end, and the number of known names on the way. -/
inductive LeftmostEnds (env : N → Option (List (Piece N C))) : List (Piece N C) → Nat → Bool → Prop
  | nil : LeftmostEnds env [] 0 false
  | character {c : C} {text : List (Piece N C)} {count : Nat} {met : Bool} (rest : LeftmostEnds env text count met) :
      LeftmostEnds env (.character c :: text) count met
  | unknown {name : N} {text : List (Piece N C)} (unknown : env name = none) :
      LeftmostEnds env (.reference name :: text) 0 true
  | inside {name : N} {value text : List (Piece N C)} {count : Nat} (known : env name = some value)
      (inside : LeftmostEnds env value count true) : LeftmostEnds env (.reference name :: text) (count + 1) true
  | through {name : N} {value text : List (Piece N C)} {count others : Nat} {met : Bool} (known : env name = some value)
      (inside : LeftmostEnds env value count false) (rest : LeftmostEnds env text others met) :
      LeftmostEnds env (.reference name :: text) (count + others + 1) met

namespace LeftmostEnds

variable {other : List (Piece N C)} {count others : Nat} {met : Bool} {f : N → List (Piece N C)}

theorem append_met (first : LeftmostEnds env text count true) : LeftmostEnds env (text ++ other) count true := by
  generalize isMet : true = met at first
  induction first with
  | nil => cases isMet
  | character _ ih => exact .character (ih isMet)
  | unknown unknown => exact .unknown unknown
  | inside known inside _ => exact .inside known inside
  | through known inside _ _ ih => exact .through known inside (ih isMet)

theorem append (first : LeftmostEnds env text count false) (second : LeftmostEnds env other others met) :
    LeftmostEnds env (text ++ other) (count + others) met := by
  generalize notMet : false = passed at first
  induction first with
  | nil => rwa [Nat.zero_add]
  | character _ ih => exact .character (ih notMet)
  | unknown => cases notMet
  | inside => cases notMet
  | through known inside _ _ ih =>
      have joined := LeftmostEnds.through known inside (ih notMet)
      rwa [← Nat.add_assoc, Nat.add_right_comm] at joined

theorem applyAll (each : ∀ name, f name = [.reference name] ∨ env name = some (f name))
    (ends : LeftmostEnds env text count met) : ∃ fewer, LeftmostEnds env (applyAll f text) fewer met ∧ fewer ≤ count ∧
      ∀ name, (references text).head? = some name → env name = some (f name) → fewer < count := by
  induction ends with
  | nil => exact ⟨0, .nil, Nat.le_refl _, fun name first => by cases first⟩
  | character _ ih =>
      obtain ⟨fewer, ends, le, lt⟩ := ih
      exact ⟨fewer, .character ends, le, lt⟩
  | @unknown name text unknown =>
      have same : f name = [.reference name] := (each name).resolve_right fun known => by rw [unknown] at known; cases known
      refine ⟨0, ?_, Nat.le_refl _, fun other first known => ?_⟩
      · rw [applyAll_cons, Piece.replaced, same]
        exact .unknown unknown
      · obtain rfl : name = other := Option.some.inj first
        rw [unknown] at known
        cases known
  | @inside name value text count known inside _ =>
      by_cases replaced : env name = some (f name)
      · obtain rfl := Option.some.inj (known.symm.trans replaced)
        refine ⟨count, ?_, Nat.le_succ _, fun _ _ _ => Nat.lt_succ_self _⟩
        rw [applyAll_cons, Piece.replaced]
        exact inside.append_met
      · refine ⟨count + 1, ?_, Nat.le_refl _, fun other first known => ?_⟩
        · rw [applyAll_cons, Piece.replaced, (each name).resolve_right replaced]
          exact .inside known inside
        · obtain rfl : name = other := Option.some.inj first
          exact absurd known replaced
  | @through name value text count others met known inside _ _ ih =>
      obtain ⟨fewer, ends, le, _⟩ := ih
      by_cases replaced : env name = some (f name)
      · obtain rfl := Option.some.inj (known.symm.trans replaced)
        refine ⟨count + fewer, ?_, by omega, fun _ _ _ => by omega⟩
        rw [applyAll_cons, Piece.replaced]
        exact inside.append ends
      · refine ⟨count + fewer + 1, ?_, by omega, fun other first known => ?_⟩
        · rw [applyAll_cons, Piece.replaced, (each name).resolve_right replaced]
          exact .through known inside ends
        · obtain rfl : name = other := Option.some.inj first
          exact absurd known replaced

end LeftmostEnds

end Leftmost

end Expansion

end ServiceHost.Library
