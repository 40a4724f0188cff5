import Mathlib.Data.List.Basic
import Mathlib.Logic.Function.Iterate

/-!
Texts with references to names. An environment gives some names a text, which may
hold references again; substituting replaces the references to known names, once.
Where references go down in a rank, repeating it ends in a text that has none left.
-/

namespace ServiceHost.Library

inductive Piece (N C : Type)
  | character (c : C)
  | reference (name : N)
deriving DecidableEq, Repr

section References

variable {N C : Type}

/-- The pieces that a function of the names puts in the place of a piece. -/
def Piece.replaced (f : N → List (Piece N C)) : Piece N C → List (Piece N C)
  | .character c => [.character c]
  | .reference name => f name

def applyAll (f : N → List (Piece N C)) (text : List (Piece N C)) : List (Piece N C) :=
  text.flatMap (Piece.replaced f)

def references (text : List (Piece N C)) : List N :=
  text.filterMap fun piece =>
    match piece with
    | .character _ => none
    | .reference name => some name

def substitute (env : N → Option (List (Piece N C))) (text : List (Piece N C)) : List (Piece N C) :=
  applyAll (fun name => (env name).getD [.reference name]) text

/-- Substituting again and again leads to a text that does not change any more. -/
def ExpandsTo (env : N → Option (List (Piece N C))) (text expanded : List (Piece N C)) : Prop :=
  ∃ passes, (substitute env)^[passes] text = expanded ∧ substitute env expanded = expanded

/-- The text of a name refers to names of lower rank only, as far as they are known. -/
def Ranked (rank : N → Nat) (env : N → Option (List (Piece N C))) : Prop :=
  ∀ name text, env name = some text → ∀ other ∈ references text, env other ≠ none → rank other < rank name

def Solves (env : N → Option (List (Piece N C))) (f : N → List (Piece N C)) : Prop :=
  ∀ name, f name = match env name with
    | some text => applyAll f text
    | none => [.reference name]

section Apply

variable {f g : N → List (Piece N C)}

theorem applyAll_cons (f : N → List (Piece N C)) (piece : Piece N C) (text : List (Piece N C)) :
    applyAll f (piece :: text) = piece.replaced f ++ applyAll f text := rfl

theorem applyAll_append (f : N → List (Piece N C)) (first second : List (Piece N C)) :
    applyAll f (first ++ second) = applyAll f first ++ applyAll f second :=
  List.flatMap_append

theorem mem_references {text : List (Piece N C)} {name : N} : name ∈ references text ↔ .reference name ∈ text := by
  simp only [references, List.mem_filterMap]
  constructor
  · rintro ⟨piece, member, same⟩
    cases piece with
    | character c => cases same
    | reference other =>
        cases same
        exact member
  · intro member
    exact ⟨_, member, rfl⟩

theorem applyAll_congr {text : List (Piece N C)} (same : ∀ name ∈ references text, f name = g name) :
    applyAll f text = applyAll g text := by
  simp only [mem_references] at same
  induction text with
  | nil => rfl
  | cons piece text ih =>
      have rest : applyAll f text = applyAll g text := ih fun name member => same name (List.mem_cons_of_mem _ member)
      rw [applyAll_cons, applyAll_cons, rest]
      cases piece with
      | character c => rfl
      | reference name => rw [Piece.replaced, Piece.replaced, same name List.mem_cons_self]

theorem applyAll_references (text : List (Piece N C)) : applyAll (fun name => [.reference name]) text = text := by
  induction text with
  | nil => rfl
  | cons piece text ih =>
      rw [applyAll_cons, ih]
      cases piece with
      | character c => rfl
      | reference name => rfl

theorem applyAll_self {text : List (Piece N C)} (same : ∀ name ∈ references text, f name = [.reference name]) :
    applyAll f text = text := by
  rw [applyAll_congr same, applyAll_references]

theorem applyAll_applyAll (f g : N → List (Piece N C)) (text : List (Piece N C)) :
    applyAll f (applyAll g text) = applyAll (fun name => applyAll f (g name)) text := by
  induction text with
  | nil => rfl
  | cons piece text ih =>
      rw [applyAll_cons, applyAll_append, ih, applyAll_cons]
      cases piece with
      | character c => rfl
      | reference name => rfl

theorem mem_references_applyAll {text : List (Piece N C)} {name : N} :
    name ∈ references (applyAll f text) ↔ ∃ other ∈ references text, name ∈ references (f other) := by
  simp only [mem_references, applyAll, List.mem_flatMap]
  constructor
  · rintro ⟨piece, member, inside⟩
    cases piece with
    | character c => cases List.mem_singleton.mp inside
    | reference other => exact ⟨other, member, inside⟩
  · rintro ⟨other, member, inside⟩
    exact ⟨_, member, inside⟩

theorem applyAll_ne_nil {text : List (Piece N C)} (present : text ≠ []) (filled : ∀ name ∈ references text, f name ≠ []) :
    applyAll f text ≠ [] := by
  cases text with
  | nil => exact absurd rfl present
  | cons piece text =>
      rw [applyAll_cons]
      apply List.append_ne_nil_of_left_ne_nil
      cases piece with
      | character c => exact List.cons_ne_nil _ _
      | reference name => exact filled name (mem_references.mpr List.mem_cons_self)

end Apply

section Ranks

variable {env : N → Option (List (Piece N C))} {rank : N → Nat} {f : N → List (Piece N C)} {text expanded : List (Piece N C)}

/-- A bound on the ranks of the known names that a text refers to. -/
def RefersBelow (rank : N → Nat) (env : N → Option (List (Piece N C))) (bound : Nat) (text : List (Piece N C)) : Prop :=
  ∀ name ∈ references text, env name ≠ none → rank name < bound

theorem Ranked.extend {wide : N → Option (List (Piece N C))} (ranked : Ranked rank env)
    (each : ∀ name text, wide name = some text → env name = some text ∨ references text = []) :
    ∃ wideRank, Ranked wideRank wide := by
  refine ⟨fun name => match env name with
    | some _ => rank name + 1
    | none => 0, ?_⟩
  intro name text value other member _
  rcases each name text value with known | plain
  · simp only [known]
    cases otherKnown : env other with
    | none => exact Nat.succ_pos _
    | some otherText =>
        have lower : rank other < rank name :=
          ranked name text known other member (by rw [otherKnown]; exact Option.some_ne_none _)
        exact Nat.succ_lt_succ lower
  · rw [plain] at member
    exact absurd member List.not_mem_nil

theorem Ranked.of_settled (settled : ∀ name text, env name = some text → ∀ other ∈ references text, env other = none) :
    Ranked rank env :=
  fun name text value other member known => absurd (settled name text value other member) known

theorem exists_rank_bound (rank : N → Nat) (names : List N) : ∃ bound, ∀ name ∈ names, rank name < bound := by
  induction names with
  | nil => exact ⟨0, fun name member => absurd member List.not_mem_nil⟩
  | cons first names ih =>
      obtain ⟨bound, below⟩ := ih
      refine ⟨max bound (rank first + 1), fun name member => ?_⟩
      rcases List.mem_cons.mp member with rfl | member
      · exact Nat.lt_of_lt_of_le (Nat.lt_succ_self _) (Nat.le_max_right _ _)
      · exact Nat.lt_of_lt_of_le (below name member) (Nat.le_max_left _ _)

theorem exists_refersBelow (rank : N → Nat) (env : N → Option (List (Piece N C))) (text : List (Piece N C)) :
    ∃ bound, RefersBelow rank env bound text := by
  obtain ⟨bound, below⟩ := exists_rank_bound rank (references text)
  exact ⟨bound, fun name member _ => below name member⟩

theorem RefersBelow.substitute {bound : Nat} (ranked : Ranked rank env) (below : RefersBelow rank env (bound + 1) text) :
    RefersBelow rank env bound (substitute env text) := by
  intro name member known
  obtain ⟨other, present, inside⟩ := mem_references_applyAll.mp member
  cases value : env other with
  | none =>
      rw [value] at inside
      obtain rfl : name = other := by simpa [references] using inside
      exact absurd value known
  | some replacement =>
      rw [value] at inside
      have lower : rank name < rank other := ranked other replacement value name inside known
      have bounded : rank other < bound + 1 := below other present (by rw [value]; exact Option.some_ne_none _)
      omega

theorem substitute_settled (settled : ∀ name ∈ references text, env name = none) : substitute env text = text :=
  applyAll_self fun name member => by rw [settled name member]; rfl

theorem RefersBelow.settled (below : RefersBelow rank env 0 text) : ∀ name ∈ references text, env name = none := by
  intro name member
  by_contra known
  exact absurd (below name member known) (Nat.not_lt_zero _)

theorem settled_of_substitute (ranked : Ranked rank env) (fixed : substitute env text = text) :
    ∀ name ∈ references text, env name = none := by
  obtain ⟨bound, below⟩ := exists_refersBelow rank env text
  induction bound with
  | zero => exact below.settled
  | succ bound ih =>
      have lower : RefersBelow rank env bound (substitute env text) := below.substitute ranked
      rw [fixed] at lower
      exact ih lower

theorem iterate_settled {bound : Nat} (ranked : Ranked rank env) (below : RefersBelow rank env bound text) :
    ∀ name ∈ references ((substitute env)^[bound] text), env name = none := by
  induction bound generalizing text with
  | zero => exact below.settled
  | succ bound ih =>
      rw [Function.iterate_succ_apply]
      exact ih (below.substitute ranked)

theorem iterate_beyond {bound passes : Nat} (ranked : Ranked rank env) (below : RefersBelow rank env bound text)
    (enough : bound ≤ passes) : (substitute env)^[passes] text = (substitute env)^[bound] text := by
  obtain ⟨more, rfl⟩ := Nat.exists_eq_add_of_le enough
  induction more with
  | zero => rfl
  | succ more ih =>
      rw [← Nat.add_assoc, Function.iterate_succ_apply', ih (Nat.le_add_right _ _)]
      exact substitute_settled (iterate_settled ranked below)

theorem iterate_applyAll (passes : Nat) (text : List (Piece N C)) :
    (substitute env)^[passes] text = applyAll (fun name => (substitute env)^[passes] [.reference name]) text := by
  induction passes generalizing text with
  | zero => exact (applyAll_references text).symm
  | succ passes ih =>
      have inner : ∀ name, (substitute env)^[passes + 1] [Piece.reference name] =
          applyAll (fun name => (substitute env)^[passes] [.reference name]) ((env name).getD [.reference name]) := by
        intro name
        rw [Function.iterate_succ_apply, ← ih]
        exact congrArg _ (List.append_nil _)
      simp only [inner]
      rw [Function.iterate_succ_apply, ih, substitute, applyAll_applyAll]

theorem exists_solves (ranked : Ranked rank env) : ∃ f, Solves env f := by
  refine ⟨fun name => (substitute env)^[rank name + 1] [.reference name], fun name => ?_⟩
  have unfolded : (substitute env)^[rank name + 1] [Piece.reference name] =
      (substitute env)^[rank name] ((env name).getD [.reference name]) := by
    rw [Function.iterate_succ_apply]
    exact congrArg _ (List.append_nil _)
  cases value : env name with
  | none =>
      have unchanged : substitute env [Piece.reference name] = [.reference name] := by
        apply substitute_settled
        intro other member
        obtain rfl : other = name := by simpa [references] using member
        exact value
      exact Function.iterate_fixed unchanged _
  | some replacement =>
      have below : ∀ other ∈ references replacement, RefersBelow rank env (rank name) [Piece.reference other] := by
        intro other member found present known
        obtain rfl : found = other := by simpa [references] using present
        exact ranked name replacement value found member known
      simp only [unfolded, value, Option.getD_some]
      rw [iterate_applyAll]
      apply applyAll_congr
      intro other member
      by_cases known : env other = none
      · have unchanged : substitute env [Piece.reference other] = [.reference other] := by
          apply substitute_settled
          intro found present
          obtain rfl : found = other := by simpa [references] using present
          exact known
        rw [Function.iterate_fixed unchanged, Function.iterate_fixed unchanged]
      · have lower : rank other < rank name := ranked name replacement value other member known
        refine iterate_beyond ranked (fun found present _ => ?_) lower
        obtain rfl : found = other := by simpa [references] using present
        exact Nat.lt_succ_self _

section Solved

variable (solves : Solves env f)
include solves

theorem Solves.of_unknown {name : N} (unknown : env name = none) : f name = [.reference name] := by
  rw [solves name, unknown]

theorem Solves.of_known {name : N} (known : env name = some text) : f name = applyAll f text := by
  rw [solves name, known]

theorem Solves.substitute (text : List (Piece N C)) : applyAll f (substitute env text) = applyAll f text := by
  rw [Library.substitute, applyAll_applyAll]
  apply applyAll_congr
  intro name member
  cases known : env name with
  | none =>
      rw [solves.of_unknown known]
      exact (List.append_nil _).trans (solves.of_unknown known)
  | some replacement => exact (solves.of_known known).symm

theorem Solves.settled (settled : ∀ name ∈ references text, env name = none) : applyAll f text = text :=
  applyAll_self fun name member => solves.of_unknown (settled name member)

theorem Solves.iterate (passes : Nat) (text : List (Piece N C)) :
    applyAll f ((Library.substitute env)^[passes] text) = applyAll f text := by
  induction passes generalizing text with
  | zero => rfl
  | succ passes ih => rw [Function.iterate_succ_apply, ih, solves.substitute]

theorem Solves.expandsTo_iff (ranked : Ranked rank env) : ExpandsTo env text expanded ↔ expanded = applyAll f text := by
  constructor
  · rintro ⟨passes, reached, fixed⟩
    rw [← solves.iterate passes text, reached, solves.settled (settled_of_substitute ranked fixed)]
  · intro same
    obtain ⟨bound, below⟩ := exists_refersBelow rank env text
    have settled := iterate_settled ranked below
    refine ⟨bound, ?_, ?_⟩
    · rw [same, ← solves.iterate bound text, solves.settled settled]
    · rw [same, ← solves.iterate bound text, solves.settled settled, substitute_settled settled]

theorem Solves.references_unknown (ranked : Ranked rank env) :
    ∀ name ∈ references (applyAll f text), env name = none := by
  have expands : ExpandsTo env text (applyAll f text) := (solves.expandsTo_iff ranked).mpr rfl
  obtain ⟨_, _, fixed⟩ := expands
  exact settled_of_substitute ranked fixed

theorem Solves.ne_nil (ranked : Ranked rank env) (filled : ∀ name text, env name = some text → text ≠ []) (name : N) :
    f name ≠ [] := by
  induction rising : rank name using Nat.strongRecOn generalizing name with
  | _ level ih =>
      cases known : env name with
      | none =>
          rw [solves.of_unknown known]
          exact List.cons_ne_nil _ _
      | some replacement =>
          rw [solves.of_known known]
          apply applyAll_ne_nil (filled name replacement known)
          intro other member
          by_cases unknown : env other = none
          · rw [solves.of_unknown unknown]
            exact List.cons_ne_nil _ _
          · exact ih (rank other) (rising ▸ ranked name replacement known other member unknown) other rfl

end Solved

theorem ExpandsTo.congr {other : N → Option (List (Piece N C))}
    (closed : ∀ name replacement, env name = some replacement → ∀ found ∈ references replacement, env found = other found)
    (agree : ∀ name ∈ references text, env name = other name) (expands : ExpandsTo env text expanded) :
    ExpandsTo other text expanded := by
  obtain ⟨passes, reached, fixed⟩ := expands
  have same : ∀ current : List (Piece N C), (∀ name ∈ references current, env name = other name) →
      substitute env current = substitute other current := by
    intro current agrees
    exact applyAll_congr fun name member => by rw [agrees name member]
  have next : ∀ current : List (Piece N C), (∀ name ∈ references current, env name = other name) →
      ∀ name ∈ references (substitute env current), env name = other name := by
    intro current agrees name member
    obtain ⟨source, present, inside⟩ := mem_references_applyAll.mp member
    cases value : env source with
    | none =>
        rw [value] at inside
        obtain rfl : name = source := by simpa [references] using inside
        exact agrees name present
    | some replacement =>
        rw [value] at inside
        exact closed source replacement value name inside
  suffices general : ∀ current : List (Piece N C), (∀ name ∈ references current, env name = other name) →
      (substitute other)^[passes] current = (substitute env)^[passes] current ∧
        ∀ name ∈ references ((substitute env)^[passes] current), env name = other name by
    obtain ⟨iterated, agrees⟩ := general text agree
    rw [reached] at iterated agrees
    exact ⟨passes, iterated, by rw [← same expanded agrees, fixed]⟩
  clear reached
  induction passes with
  | zero => exact fun current agrees => ⟨rfl, agrees⟩
  | succ passes ih =>
      intro current agrees
      rw [Function.iterate_succ_apply, Function.iterate_succ_apply, ← same current agrees]
      exact ih _ (next current agrees)

end Ranks

end References

end ServiceHost.Library
