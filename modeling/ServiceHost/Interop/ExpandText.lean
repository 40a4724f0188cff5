import ServiceHost.Interop.ExpandTextCore
import Mathlib.Data.Set.Finite.List
import Mathlib.Order.Preorder.Finite

/-!
When `expand` ends, and when it returns the full recursive expansion. The passes have to come to
rest, none of them may make a reference of percent signs of different origin, and a result that
fills the buffer is given up although it fits.
-/

namespace ServiceHost.EnvironmentText

open Library

section Pieces

variable {environ : Variables} {text : Characters}

theorem known_of_mem {pending : Option Characters} {key : Characters}
    (member : key ∈ references (readPieces environ pending text)) : valueOf environ key ≠ none := by
  rw [mem_references] at member
  fun_induction readPieces environ pending text with
  | case1 => cases member
  | case2 name =>
      rcases List.mem_cons.mp member with no | inName
      · cases no
      · obtain ⟨c, _, no⟩ := List.mem_map.mp inName
        cases no
  | case3 rest ih => exact ih member
  | case4 c rest other ih =>
      rcases List.mem_cons.mp member with no | later
      · cases no
      · exact ih later
  | case5 name rest known ih =>
      rcases List.mem_cons.mp member with here | later
      · rw [Piece.reference.inj here]
        exact Option.isSome_iff_ne_none.mp known
      · exact ih later
  | case6 name rest unknown ih =>
      rcases List.mem_cons.mp member with no | later
      · cases no
      · rcases List.mem_append.mp later with inName | further
        · obtain ⟨c, _, no⟩ := List.mem_map.mp inName
          cases no
        · exact ih further
  | case7 name c rest other ih => exact ih member

def pendingText : Option Characters → Characters
  | none => []
  | some name => '%' :: name

theorem readPieces_plain {pending : Option Characters} (none : references (readPieces environ pending text) = []) :
    readPieces environ pending text = (pendingText pending ++ text).map .character := by
  fun_induction readPieces environ pending text with
  | case1 => rfl
  | case2 name => rw [List.append_nil]; rfl
  | case3 rest ih => exact ih none
  | case4 c rest other ih => exact congrArg (Piece.character c :: ·) (ih none)
  | case5 name rest known ih => cases none
  | case6 name rest unknown ih =>
      have behind : references (readPieces environ (some []) rest) = [] := by
        rw [List.eq_nil_iff_forall_not_mem] at none ⊢
        intro key member
        exact none key (mem_references.mpr (List.mem_cons_of_mem _ (List.mem_append_right _ (mem_references.mp member))))
      rw [ih behind]
      simp [pendingText]
  | case7 name c rest other ih =>
      rw [ih none]
      simp [pendingText]

theorem pieces_of_noPercent (plain : '%' ∉ text) : pieces environ text = text.map .character := by
  rw [pieces]
  induction text with
  | nil => rfl
  | cons c text ih =>
      rw [List.mem_cons, not_or] at plain
      rw [readPieces, if_neg (Ne.symm plain.1), ih plain.2]
      rfl

theorem flatMap_characters (characters : Characters) :
    (characters.map Piece.character).flatMap (pieceText environ) = characters := by
  induction characters with
  | nil => rfl
  | cons c characters ih => exact congrArg (c :: ·) ih

theorem pass_of_noPercent (plain : '%' ∉ text) : expandEnvironmentStrings environ text = text := by
  rw [expandEnvironmentStrings, pieces_of_noPercent plain, flatMap_characters]

end Pieces

section Rest

variable (environ : Variables) (leftover : Leftover)

def next (s : Characters) : Characters := (callExpand environ leftover s).1

def ComesToRest (s : Characters) : Prop :=
  ∃ passes, '%' ∉ (next environ leftover)^[passes] s ∨
    next environ leftover ((next environ leftover)^[passes] s) = (next environ leftover)^[passes] s

def isTaken (s : Characters) : Prop := (expandEnvironmentStrings environ s).length + 1 < bufferSize

instance (s : Characters) : Decidable (isTaken environ s) := inferInstanceAs (Decidable (_ < _))

variable {environ leftover} {s text : Characters} {depth : Nat}

theorem next_length : (next environ leftover s).length < bufferSize := by
  rw [next, callExpand]
  dsimp only
  split
  · rename_i fits
    exact fits
  · exact leftover.short s

theorem expand_plain (plain : '%' ∉ s) : expand environ leftover (depth + 1) s = some (.ok s) := by
  rw [expand, if_neg plain]

theorem taken_eq {buffer : Characters} :
    (if 0 < (callExpand environ leftover s).2 ∧ (callExpand environ leftover s).2 < bufferSize then buffer else s) =
      if isTaken environ s then buffer else s := by
  have positive : 0 < (callExpand environ leftover s).2 := Nat.succ_pos _
  simp only [positive, true_and]
  rfl

theorem expand_rest (percent : '%' ∈ s) (rest : next environ leftover s = s ∨ '%' ∉ next environ leftover s) :
    expand environ leftover (depth + 1) s = some (.ok (if isTaken environ s then next environ leftover s else s)) := by
  have stops : ((decide (s ≠ (callExpand environ leftover s).1) &&
      decide ('%' ∈ (callExpand environ leftover s).1)) : Bool) = false := by
    rcases rest with same | plain
    · have unchanged : ¬s ≠ (callExpand environ leftover s).1 := not_not_intro same.symm
      rw [decide_eq_false unchanged, Bool.false_and]
    · have noPercent : '%' ∉ (callExpand environ leftover s).1 := plain
      rw [decide_eq_false noPercent, Bool.and_false]
  rw [expand, if_pos percent]
  dsimp only
  rw [stops, if_neg Bool.false_ne_true, taken_eq]
  rfl

theorem expand_again (percent : '%' ∈ s) (changes : next environ leftover s ≠ s) (again : '%' ∈ next environ leftover s) :
    expand environ leftover (depth + 1) s =
      (expand environ leftover depth (next environ leftover s)).map fun exp => do
        let buffer ← copyToBuffer (← exp)
        return if isTaken environ s then buffer else s := by
  have goes : ((decide (s ≠ (callExpand environ leftover s).1) &&
      decide ('%' ∈ (callExpand environ leftover s).1)) : Bool) = true := by
    rw [Bool.and_eq_true, decide_eq_true_eq, decide_eq_true_eq]
    exact ⟨Ne.symm changes, again⟩
  rw [expand, if_pos percent]
  dsimp only
  rw [goes, if_pos rfl]
  simp only [taken_eq]
  rfl

theorem expand_ok {result : Except BufferOverrun Characters} (returns : expand environ leftover depth s = some result) :
    ∃ text, result = .ok text ∧ (text = s ∨ text.length < bufferSize) := by
  induction depth generalizing s result with
  | zero => cases returns
  | succ depth ih =>
      by_cases percent : '%' ∈ s
      · by_cases rest : next environ leftover s = s ∨ '%' ∉ next environ leftover s
        · rw [expand_rest percent rest] at returns
          refine ⟨_, (Option.some.inj returns).symm, ?_⟩
          split
          · exact .inr next_length
          · exact .inl rfl
        · rw [not_or, not_not] at rest
          rw [expand_again percent rest.1 rest.2, Option.map_eq_some_iff] at returns
          obtain ⟨exp, inner, rfl⟩ := returns
          obtain ⟨text, rfl, short⟩ := ih inner
          have fits : text.length < bufferSize := by
            rcases short with rfl | short
            · exact next_length
            · exact short
          refine ⟨if isTaken environ s then text else s, ?_, ?_⟩
          · show (do let buffer ← copyToBuffer text; return if isTaken environ s then buffer else s) = _
            rw [copyToBuffer, if_pos fits]
            rfl
          · split
            · exact .inr fits
            · exact .inl rfl
      · rw [expand_plain percent] at returns
        exact ⟨s, (Option.some.inj returns).symm, .inl rfl⟩

theorem expand_again_ok (percent : '%' ∈ s) (changes : next environ leftover s ≠ s)
    (again : '%' ∈ next environ leftover s) (inner : expand environ leftover depth (next environ leftover s) = some (.ok text)) :
    expand environ leftover (depth + 1) s = some (.ok (if isTaken environ s then text else s)) := by
  obtain ⟨other, same, short⟩ := expand_ok inner
  obtain rfl := Except.ok.inj same
  have fits : text.length < bufferSize := by
    rcases short with rfl | short
    · exact next_length
    · exact short
  rw [expand_again percent changes again, inner, Option.map_some]
  show some (do let buffer ← copyToBuffer text; return if isTaken environ s then buffer else s) = _
  rw [copyToBuffer, if_pos fits]
  rfl

theorem ComesToRest.of_next (rest : ComesToRest environ leftover (next environ leftover s)) :
    ComesToRest environ leftover s := by
  obtain ⟨passes, rests⟩ := rest
  exact ⟨passes + 1, rests⟩

theorem comesToRest_of_returns {result : Except BufferOverrun Characters}
    (returns : expand environ leftover depth s = some result) : ComesToRest environ leftover s := by
  induction depth generalizing s result with
  | zero => cases returns
  | succ depth ih =>
      by_cases percent : '%' ∈ s
      · by_cases rest : next environ leftover s = s ∨ '%' ∉ next environ leftover s
        · rcases rest with same | plain
          · exact ⟨0, .inr same⟩
          · exact ⟨1, .inl plain⟩
        · rw [not_or, not_not] at rest
          rw [expand_again percent rest.1 rest.2, Option.map_eq_some_iff] at returns
          obtain ⟨exp, inner, _⟩ := returns
          exact (ih inner).of_next
      · exact ⟨0, .inl percent⟩

theorem returns_of_rest {passes : Nat} (rests : '%' ∉ (next environ leftover)^[passes] s ∨
    next environ leftover ((next environ leftover)^[passes] s) = (next environ leftover)^[passes] s) :
    ∃ depth text, expand environ leftover depth s = some (.ok text) := by
  induction passes generalizing s with
  | zero =>
      by_cases percent : '%' ∈ s
      · rcases rests with plain | same
        · exact absurd percent plain
        · exact ⟨1, _, expand_rest percent (.inl same)⟩
      · exact ⟨1, s, expand_plain percent⟩
  | succ passes ih =>
      by_cases percent : '%' ∈ s
      · by_cases rest : next environ leftover s = s ∨ '%' ∉ next environ leftover s
        · exact ⟨1, _, expand_rest percent rest⟩
        · rw [not_or, not_not] at rest
          obtain ⟨depth, text, inner⟩ := ih rests
          exact ⟨depth + 1, _, expand_again_ok percent rest.1 rest.2 inner⟩
      · exact ⟨1, s, expand_plain percent⟩

theorem finite_char : Finite Char :=
  Finite.of_injective (fun c : Char => (⟨c.val.toNat, c.val.toNat_lt⟩ : Fin (2 ^ 32))) fun _ _ same =>
    Char.ext (UInt32.toNat_inj.mp (Fin.mk.inj same))

def Circles (environ : Variables) (leftover : Leftover) (s : Characters) : Prop :=
  '%' ∈ s ∧ ∃ passes more, next environ leftover ((next environ leftover)^[passes] s) ≠ (next environ leftover)^[passes] s ∧
    (next environ leftover)^[more + 1] ((next environ leftover)^[passes] s) = (next environ leftover)^[passes] s

theorem next_of_noPercent (short : s.length < bufferSize) (plain : '%' ∉ s) : next environ leftover s = s := by
  rw [next, callExpand]
  dsimp only
  rw [pass_of_noPercent plain]
  exact if_pos short

theorem comesToRest_iff : ComesToRest environ leftover s ↔ ¬Circles environ leftover s := by
  constructor
  · rintro ⟨last, rests⟩ ⟨percent, passes, more, changes, back⟩
    have fixed : next environ leftover ((next environ leftover)^[last] s) = (next environ leftover)^[last] s := by
      rcases rests with plain | fixed
      · cases last with
        | zero => exact absurd percent plain
        | succ last =>
            rw [Function.iterate_succ_apply'] at plain ⊢
            exact next_of_noPercent next_length plain
      · exact fixed
    have round : (next environ leftover)^[(more + 1) * last] ((next environ leftover)^[passes] s) =
        (next environ leftover)^[passes] s := by
      rw [Function.iterate_mul]
      exact Function.iterate_fixed back last
    have reached : (next environ leftover)^[(more + 1) * last + passes] s = (next environ leftover)^[last] s := by
      obtain ⟨rest, split⟩ := Nat.exists_eq_add_of_le' (show last ≤ (more + 1) * last + passes by
        rw [Nat.succ_mul]
        omega)
      rw [split, Function.iterate_add_apply, Function.iterate_fixed fixed]
    rw [Function.iterate_add_apply, round] at reached
    rw [reached] at changes
    exact changes fixed
  · intro straight
    by_contra never
    have going (passes : Nat) : '%' ∈ (next environ leftover)^[passes] s ∧
        next environ leftover ((next environ leftover)^[passes] s) ≠ (next environ leftover)^[passes] s :=
      ⟨not_not.mp fun plain => never ⟨passes, .inl plain⟩, fun fixed => never ⟨passes, .inr fixed⟩⟩
    have : Finite Char := finite_char
    have inBuffer (passes : Nat) : (next environ leftover)^[passes + 1] s ∈ {text : Characters | text.length < bufferSize} := by
      rw [Function.iterate_succ_apply']
      exact next_length
    obtain ⟨earlier, later, order, same⟩ :=
      Set.Finite.exists_lt_map_eq_of_forall_mem inBuffer (List.finite_length_lt Char bufferSize)
    obtain ⟨more, rfl⟩ := Nat.exists_eq_add_of_lt order
    refine straight ⟨(going 0).1, earlier + 1, more, (going _).2, ?_⟩
    rw [← Function.iterate_add_apply, show more + 1 + (earlier + 1) = earlier + more + 1 + 1 by omega]
    exact same.symm

theorem expand_ends_iff : (∃ depth text, expand environ leftover depth s = some (.ok text)) ↔ ComesToRest environ leftover s :=
  ⟨fun ⟨_, _, returns⟩ => comesToRest_of_returns returns, fun ⟨_, rests⟩ => returns_of_rest rests⟩

theorem expand_original (long : ¬isTaken environ s) (returns : expand environ leftover depth s = some (.ok text)) :
    text = s := by
  cases depth with
  | zero => cases returns
  | succ depth =>
      by_cases percent : '%' ∈ s
      · by_cases rest : next environ leftover s = s ∨ '%' ∉ next environ leftover s
        · rw [expand_rest percent rest, if_neg long] at returns
          exact (Except.ok.inj (Option.some.inj returns)).symm
        · rw [not_or, not_not] at rest
          have inner := returns
          rw [expand_again percent rest.1 rest.2, Option.map_eq_some_iff] at inner
          obtain ⟨exp, inner, _⟩ := inner
          obtain ⟨other, rfl, _⟩ := expand_ok inner
          rw [expand_again_ok percent rest.1 rest.2 inner, if_neg long] at returns
          exact (Except.ok.inj (Option.some.inj returns)).symm
      · rw [expand_plain percent] at returns
        exact (Except.ok.inj (Option.some.inj returns)).symm

end Rest

section Fitting

variable (environ : Variables)

abbrev passed (passes : Nat) (s : Characters) : Characters := (expandEnvironmentStrings environ)^[passes] s

def AllFit (s : Characters) : Prop := ∀ passes, (passed environ (passes + 1) s).length + 1 ≤ bufferSize

def NoneFills (s : Characters) : Prop := ∀ passes, passed environ (passes + 1) s ≠ passed environ passes s →
  (passed environ (passes + 1) s).length + 1 ≠ bufferSize

variable {environ} {leftover : Leftover} {s text : Characters} {depth : Nat}

theorem AllFit.next (fits : AllFit environ s) : next environ leftover s = expandEnvironmentStrings environ s :=
  if_pos (fits 0)

theorem AllFit.pass (fits : AllFit environ s) : AllFit environ (expandEnvironmentStrings environ s) :=
  fun passes => fits (passes + 1)

theorem NoneFills.pass (none : NoneFills environ s) : NoneFills environ (expandEnvironmentStrings environ s) :=
  fun passes => none (passes + 1)

theorem expand_passed (fits : AllFit environ s) (none : NoneFills environ s) {passes : Nat}
    (rests : '%' ∉ passed environ passes s ∨
      expandEnvironmentStrings environ (passed environ passes s) = passed environ passes s) :
    ∃ depth, expand environ leftover depth s = some (.ok (passed environ passes s)) := by
  induction passes generalizing s with
  | zero =>
      by_cases percent : '%' ∈ s
      · rcases rests with plain | same
        · exact absurd percent plain
        · have still : next environ leftover s = s := fits.next.trans same
          refine ⟨1, (expand_rest percent (.inl still)).trans ?_⟩
          rw [still, ite_self]
          rfl
      · exact ⟨1, expand_plain percent⟩
  | succ passes ih =>
      by_cases fixed : expandEnvironmentStrings environ s = s
      · have same : passed environ (passes + 1) s = s := Function.iterate_fixed fixed _
        rw [same]
        by_cases percent : '%' ∈ s
        · have still : next environ leftover s = s := fits.next.trans fixed
          refine ⟨1, (expand_rest percent (.inl still)).trans ?_⟩
          rw [still, ite_self]
        · exact ⟨1, expand_plain percent⟩
      · have percent : '%' ∈ s := by
          by_contra plain
          exact fixed (pass_of_noPercent plain)
        have taken : isTaken environ s := Nat.lt_of_le_of_ne (fits 0) (none 0 fixed)
        by_cases again : '%' ∈ expandEnvironmentStrings environ s
        · obtain ⟨depth, inner⟩ := ih fits.pass none.pass rests
          rw [← @AllFit.next environ leftover s fits] at inner again fixed
          refine ⟨depth + 1, (expand_again_ok percent fixed again inner).trans ?_⟩
          rw [if_pos taken, fits.next]
          rfl
        · have same : passed environ (passes + 1) s = expandEnvironmentStrings environ s :=
            Function.iterate_fixed (pass_of_noPercent again) passes
          have plain : '%' ∉ next environ leftover s := by
            rw [fits.next]
            exact again
          refine ⟨1, (expand_rest percent (.inr plain)).trans ?_⟩
          rw [if_pos taken, same, fits.next]

theorem expand_filled (fits : AllFit environ s) {passes : Nat}
    (changes : passed environ (passes + 1) s ≠ passed environ passes s)
    (fills : (passed environ (passes + 1) s).length + 1 = bufferSize)
    (returns : expand environ leftover depth s = some (.ok text)) : expandEnvironmentStrings environ text ≠ text := by
  induction passes generalizing s depth text with
  | zero =>
      have long : ¬isTaken environ s := by
        rw [isTaken]
        exact Nat.not_lt_of_le (Nat.le_of_eq fills.symm)
      rw [expand_original long returns]
      exact changes
  | succ passes ih =>
      have fixed : expandEnvironmentStrings environ s ≠ s := by
        intro same
        apply changes
        rw [passed, passed, Function.iterate_fixed same, Function.iterate_fixed same]
      have percent : '%' ∈ s := by
        by_contra plain
        exact fixed (pass_of_noPercent plain)
      have again : '%' ∈ expandEnvironmentStrings environ s := by
        by_contra plain
        apply changes
        have still (passes : Nat) : passed environ (passes + 1) s = expandEnvironmentStrings environ s :=
          Function.iterate_fixed (pass_of_noPercent plain) passes
        rw [still, still]
      cases depth with
      | zero => cases returns
      | succ depth =>
          have same : next environ leftover s = expandEnvironmentStrings environ s := fits.next
          have nextChanges : next environ leftover s ≠ s := same ▸ fixed
          have nextAgain : '%' ∈ next environ leftover s := same ▸ again
          have inner := returns
          rw [expand_again percent nextChanges nextAgain, Option.map_eq_some_iff] at inner
          obtain ⟨exp, inner, _⟩ := inner
          obtain ⟨other, rfl, _⟩ := expand_ok inner
          rw [expand_again_ok percent nextChanges nextAgain inner] at returns
          have result := Except.ok.inj (Option.some.inj returns)
          by_cases taken : isTaken environ s
          · rw [if_pos taken] at result
            rw [← result]
            rw [same] at inner
            exact ih fits.pass changes fills inner
          · rw [if_neg taken] at result
            rw [← result]
            exact fixed

end Fitting

section Meaning

variable (environ : Variables)

def definitions (key : Characters) : Option (List (Piece Characters Char)) := (valueOf environ key).map (pieces environ)

def FullExpansion (s text : Characters) : Prop := Expansion (definitions environ) (pieces environ s) (text.map .character)

def Unglued (s : Characters) : Prop := ∀ passes, pieces environ (passed environ (passes + 1) s) =
  substitute (definitions environ) (pieces environ (passed environ passes s))

structure Expands (leftover : Leftover) (s : Characters) : Prop where
  ends : ∃ depth text, expand environ leftover depth s = some (.ok text)
  expansion : WithoutCycles (definitions environ) (pieces environ s) → AllFit environ s →
    ∃ depth text, FullExpansion environ s text ∧ expand environ leftover depth s = some (.ok text)
  original : bufferSize < (expandEnvironmentStrings environ s).length + 1 →
    ∃ depth, expand environ leftover depth s = some (.ok s)

variable {environ} {leftover : Leftover} {s : Characters}

theorem definitions_known {key text : Characters} (member : key ∈ references (pieces environ text)) :
    definitions environ key ≠ none := by
  rw [definitions, Ne, Option.map_eq_none_iff]
  exact known_of_mem member

theorem characters_of_settled {text : Characters}
    (settled : ∀ key ∈ references (pieces environ text), definitions environ key = none) :
    pieces environ text = text.map .character := by
  apply readPieces_plain
  rw [List.eq_nil_iff_forall_not_mem]
  exact fun key member => definitions_known member (settled key member)

theorem Unglued.iterate (unglued : Unglued environ s) (passes : Nat) : pieces environ (passed environ passes s) =
    (substitute (definitions environ))^[passes] (pieces environ s) := by
  induction passes with
  | zero => rfl
  | succ passes ih => rw [unglued, ih, Function.iterate_succ_apply']

theorem Unglued.expanded (unglued : Unglued environ s) {expanded : List (Piece Characters Char)}
    (expansion : Expansion (definitions environ) (pieces environ s) expanded) {passes : Nat}
    (rests : '%' ∉ passed environ passes s ∨
      expandEnvironmentStrings environ (passed environ passes s) = passed environ passes s) :
    expanded = (passed environ passes s).map .character := by
  have here : Expansion (definitions environ) (pieces environ (passed environ passes s)) expanded := by
    rw [unglued.iterate]
    exact expansion.substitute_iterate passes
  rcases rests with plain | same
  · rw [pieces_of_noPercent plain] at here
    have settled : ∀ key ∈ references ((passed environ passes s).map Piece.character), definitions environ key = none := by
      intro key member
      obtain ⟨c, _, no⟩ := List.mem_map.mp (mem_references.mp member)
      cases no
    exact here.unique (.of_settled settled)
  · have fixed := unglued passes
    rw [passed, Function.iterate_succ_apply', same] at fixed
    have itself := here.of_fixed fixed.symm
    rw [← itself]
    apply characters_of_settled
    rw [itself]
    exact here.settled

theorem exists_fullExpansion (acyclic : WithoutCycles (definitions environ) (pieces environ s)) :
    ∃ expanded, Expansion (definitions environ) (pieces environ s) expanded := by
  refine exists_expansion (environ.map fun entry => VariableName.key entry.1) (fun key known => ?_) acyclic
  rw [definitions, Ne, Option.map_eq_none_iff, valueOf, Option.map_eq_none_iff, List.find?_eq_none] at known
  push Not at known
  obtain ⟨entry, member, same⟩ := known
  exact List.mem_map.mpr ⟨entry, member, of_decide_eq_true same⟩

theorem AllFit.iterate (fits : AllFit environ s) (passes : Nat) :
    (EnvironmentText.next environ leftover)^[passes] s = passed environ passes s := by
  induction passes generalizing s with
  | zero => rfl
  | succ passes ih =>
      have first : EnvironmentText.next environ leftover s = expandEnvironmentStrings environ s := fits.next
      rw [Function.iterate_succ_apply, first, ih fits.pass]
      rfl

theorem AllFit.rests (fits : AllFit environ s) (rest : ComesToRest environ leftover s) : ∃ passes,
    '%' ∉ passed environ passes s ∨
      expandEnvironmentStrings environ (passed environ passes s) = passed environ passes s := by
  obtain ⟨passes, rests⟩ := rest
  have further := @AllFit.iterate environ leftover s fits (passes + 1)
  rw [Function.iterate_succ_apply', fits.iterate] at further
  rw [fits.iterate, further] at rests
  refine ⟨passes, rests.imp_right fun same => ?_⟩
  rwa [passed, Function.iterate_succ_apply'] at same

theorem Unglued.rests (unglued : Unglued environ s) {expanded : List (Piece Characters Char)}
    (expansion : Expansion (definitions environ) (pieces environ s) expanded) :
    ∃ passes, expandEnvironmentStrings environ (passed environ passes s) = passed environ passes s := by
  obtain ⟨passes, reached⟩ := expansion.reached
  refine ⟨passes, ?_⟩
  rw [← unglued.iterate] at reached
  have settled := expansion.settled
  rw [← reached] at settled
  rw [expandEnvironmentStrings, characters_of_settled settled, flatMap_characters]

/-- `expand` ends, and keeps a text whose expansion does not fit, exactly when no pass leads back to a text
that one has changed. Without cycles, it returns the full expansion exactly when no result fills the buffer, as long
as the passes make no references of their own. -/
theorem expand_expands_iff (environ : Variables) (leftover : Leftover) (s : Characters) :
    ((∃ depth text, expand environ leftover depth s = some (.ok text)) ∧
        (bufferSize < (expandEnvironmentStrings environ s).length + 1 →
          ∃ depth, expand environ leftover depth s = some (.ok s)) ↔
      ¬Circles environ leftover s) ∧
    (WithoutCycles (definitions environ) (pieces environ s) → AllFit environ s → Unglued environ s →
      (Expands environ leftover s ↔ NoneFills environ s)) ∧
    (¬(WithoutCycles (definitions environ) (pieces environ s) ∧ AllFit environ s) →
      (Expands environ leftover s ↔ ¬Circles environ leftover s)) := by
  have original (rest : ComesToRest environ leftover s)
      (long : bufferSize < (expandEnvironmentStrings environ s).length + 1) :
      ∃ depth, expand environ leftover depth s = some (.ok s) := by
    obtain ⟨depth, text, returns⟩ := expand_ends_iff.mpr rest
    have same := expand_original (Nat.lt_asymm long) returns
    exact ⟨depth, same ▸ returns⟩
  rw [← comesToRest_iff]
  refine ⟨⟨fun holds => expand_ends_iff.mp holds.1, fun rest => ⟨expand_ends_iff.mpr rest, original rest⟩⟩,
    fun acyclic fits unglued => ?_, fun other => ⟨fun expands => expand_ends_iff.mp expands.ends, fun rest =>
      ⟨expand_ends_iff.mpr rest, fun acyclic fits => absurd ⟨acyclic, fits⟩ other, original rest⟩⟩⟩
  constructor
  · intro expands passes changes fills
    obtain ⟨depth, text, expansion, returns⟩ := expands.expansion acyclic fits
    obtain ⟨last, rests⟩ := fits.rests (expand_ends_iff.mp expands.ends)
    have same : text = passed environ last s := by
      have characters := unglued.expanded expansion rests
      exact List.map_injective_iff.mpr (fun _ _ => Piece.character.inj) characters
    have moves := expand_filled fits changes fills returns
    rcases rests with plain | fixed
    · rw [same] at moves
      exact moves (pass_of_noPercent plain)
    · rw [same] at moves
      exact moves fixed
  · intro none
    obtain ⟨expanded, expansion⟩ := exists_fullExpansion acyclic
    obtain ⟨passes, rests⟩ := unglued.rests expansion
    obtain ⟨depth, returns⟩ := @expand_passed environ leftover s fits none passes (.inr rests)
    have rest : ComesToRest environ leftover s := expand_ends_iff.mp ⟨depth, _, returns⟩
    refine ⟨expand_ends_iff.mpr rest, fun _ _ => ?_, original rest⟩
    rw [unglued.expanded expansion (.inr rests)] at expansion
    exact ⟨depth, _, expansion, returns⟩

end Meaning

section Sample

def emptied : Leftover := ⟨fun _ => [], fun _ => Nat.succ_pos _⟩

def mutualVariables : Variables := [(['A'], ['%', 'B', '%']), (['B'], ['%', 'A', '%'])]

theorem next_mutual : next mutualVariables emptied ['%', 'A', '%'] = ['%', 'B', '%'] ∧
    next mutualVariables emptied ['%', 'B', '%'] = ['%', 'A', '%'] := ⟨rfl, rfl⟩

/-- Variables that mention each other are expanded without an end. -/
theorem mutual_variables_never_end : ¬∀ environ leftover s, Expands environ leftover s := by
  intro expands
  obtain ⟨passes, rests⟩ := expand_ends_iff.mp (expands mutualVariables emptied ['%', 'A', '%']).ends
  have either : ∀ passes, (next mutualVariables emptied)^[passes] ['%', 'A', '%'] = ['%', 'A', '%'] ∨
      (next mutualVariables emptied)^[passes] ['%', 'A', '%'] = ['%', 'B', '%'] := by
    intro passes
    induction passes with
    | zero => exact .inl rfl
    | succ passes ih =>
        rw [Function.iterate_succ_apply']
        rcases ih with first | second
        · rw [first]
          exact .inr next_mutual.1
        · rw [second]
          exact .inl next_mutual.2
  rcases either passes with here | here
  · rw [here, next_mutual.1] at rests
    revert rests
    decide
  · rw [here, next_mutual.2] at rests
    revert rests
    decide

end Sample

end ServiceHost.EnvironmentText
