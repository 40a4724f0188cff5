import Mathlib.Data.List.Basic

/-!
Taking the last place out of a list where another list stands in it.
-/

namespace ServiceHost.Library

variable {D : Type} [DecidableEq D]

def removeLast? (value : List D) : List D → Option (List D)
  | [] => none
  | item :: rest =>
      match removeLast? value rest with
      | some kept => some (item :: kept)
      | none => if value.isPrefixOf (item :: rest) then some ((item :: rest).drop value.length) else none

def removeLast (value list : List D) : List D := (removeLast? value list).getD list

variable {value list kept : List D}

theorem removeLast?_some (found : removeLast? value list = some kept) :
    ∃ before after, list = before ++ (value ++ after) ∧ kept = before ++ after := by
  induction list generalizing kept with
  | nil => cases found
  | cons item rest ih =>
      rw [removeLast?] at found
      cases later : removeLast? value rest with
      | some inner =>
          rw [later] at found
          cases found
          obtain ⟨before, after, rfl, rfl⟩ := ih later
          exact ⟨item :: before, after, rfl, rfl⟩
      | none =>
          rw [later] at found
          dsimp only at found
          split at found
          · rename_i here
            cases found
            obtain ⟨after, same⟩ := List.isPrefixOf_iff_prefix.mp here
            refine ⟨[], after, same.symm, ?_⟩
            rw [← same, List.drop_left]
            rfl
          · cases found

theorem removeLast?_none (nonempty : value ≠ []) (missing : removeLast? value list = none) :
    ¬value <:+: list := by
  induction list with
  | nil => exact fun inside => nonempty (List.infix_nil.mp inside)
  | cons item rest ih =>
      rw [removeLast?] at missing
      cases later : removeLast? value rest with
      | some inner =>
          rw [later] at missing
          cases missing
      | none =>
          rw [later] at missing
          dsimp only at missing
          split at missing
          · cases missing
          · rename_i elsewhere
            rw [List.infix_cons_iff]
            rintro (here | inside)
            · exact elsewhere (List.isPrefixOf_iff_prefix.mpr here)
            · exact ih later inside

theorem removeLast_eq_nil_iff (nonempty : value ≠ []) : removeLast value list = [] ↔ list = [] ∨ list = value := by
  unfold removeLast
  cases found : removeLast? value list with
  | some kept =>
      obtain ⟨before, after, rfl, rfl⟩ := removeLast?_some found
      rw [Option.getD_some, List.append_eq_nil_iff]
      constructor
      · rintro ⟨rfl, rfl⟩
        exact Or.inr (List.append_nil value)
      · rintro (none | all)
        · exact absurd (List.append_eq_nil_iff.mp (List.append_eq_nil_iff.mp none).2).1 nonempty
        · have lengths := congrArg List.length all
          simp only [List.length_append] at lengths
          exact ⟨List.length_eq_zero_iff.mp (by omega), List.length_eq_zero_iff.mp (by omega)⟩
  | none =>
      have elsewhere := removeLast?_none nonempty found
      rw [Option.getD_none]
      exact ⟨Or.inl, fun either => either.resolve_right fun all => elsewhere (all ▸ List.infix_rfl)⟩

theorem perm_of_removeLast {item : D} (member : item ∈ list) : List.Perm list (item :: removeLast [item] list) := by
  unfold removeLast
  cases found : removeLast? [item] list with
  | some kept =>
      obtain ⟨before, after, rfl, rfl⟩ := removeLast?_some found
      exact List.perm_middle
  | none =>
      refine absurd ?_ (removeLast?_none (List.cons_ne_nil item []) found)
      obtain ⟨before, after, split⟩ := List.append_of_mem member
      exact ⟨before, after, by rw [split, List.append_assoc]; rfl⟩

theorem foldl_removeLast_of_perm {items : List D} (same : List.Perm list items) :
    items.foldl (fun left item => removeLast [item] left) list = [] := by
  induction items generalizing list with
  | nil => exact List.perm_nil.mp same
  | cons item rest ih =>
      have member : item ∈ list := same.mem_iff.mpr List.mem_cons_self
      exact ih ((perm_of_removeLast member).symm.trans same).cons_inv

end ServiceHost.Library
