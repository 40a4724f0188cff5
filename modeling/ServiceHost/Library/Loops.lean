import Mathlib.Data.List.Induction
import ServiceHost.Library.Outcome

/-!
Loops over the indices of a list, upwards and downwards, in the exception monad.
A loop whose body only looks at the item of its index is a fold over the items; a
loop downwards that may replace or remove the item of its index rebuilds the list.
-/

namespace ServiceHost.Library

variable {S E A : Type}

def ascending (body : Nat → S → Except E S) : Nat → S → Except E S
  | 0, state => pure state
  | count + 1, state => do body count (← ascending body count state)

/-- The body for the indices below the count, from the last one down to zero. -/
def descending (body : Nat → S → Except E S) : Nat → S → Except E S
  | 0, state => pure state
  | count + 1, state => do descending body count (← body count state)

theorem ascending_extends {B : Type} (view : List B → S) {body : Nat → S → Except E S} {step : A → List B}
    (items : List A) (list : List B) (adds : ∀ front item back list, items = front ++ item :: back →
      body front.length (view list) = .ok (view (list ++ step item))) :
    ascending body items.length (view list) = .ok (view (list ++ items.flatMap step)) := by
  induction items using List.reverseRecOn with
  | nil => simp [ascending]
  | append_singleton front item ih =>
      have earlier : ascending body front.length (view list) = .ok (view (list ++ front.flatMap step)) := by
        apply ih
        intro before other after list same
        exact adds before other (after ++ [item]) list (by simp [same])
      have last := adds front item [] (list ++ front.flatMap step) rfl
      simp [ascending, earlier, last]

theorem ascending_appends {B : Type} (view : List B → S) {body : Nat → S → Except E S} {step : A → Except E B}
    (items : List A) (list : List B) (adds : ∀ front item back list, items = front ++ item :: back →
      body front.length (view list) = (fun result => view (list ++ [result])) <$> step item) :
    ascending body items.length (view list) = (fun results => view (list ++ results)) <$> items.mapM step := by
  induction items using List.reverseRecOn with
  | nil => simp [ascending]
  | append_singleton front item ih =>
      have earlier : ascending body front.length (view list) =
          (fun results => view (list ++ results)) <$> front.mapM step := by
        apply ih
        intro before other after list same
        exact adds before other (after ++ [item]) list (by simp [same])
      have last := fun list => adds front item [] list rfl
      simp only [List.length_append, List.length_singleton, ascending, earlier, List.mapM_append, List.mapM_cons,
        List.mapM_nil]
      cases front.mapM step with
      | error _ => rfl
      | ok results =>
          simp only [map_ok, ok_bind, last]
          cases step item with
          | error _ => rfl
          | ok result => simp

theorem mapM_returns {B : Type} {step : A → Except E B} {items : List A}
    (returns : ∀ item ∈ items, ∃ result, step item = .ok result) : ∃ results, items.mapM step = .ok results := by
  induction items with
  | nil => exact ⟨[], rfl⟩
  | cons item items ih =>
      obtain ⟨result, run⟩ := returns item List.mem_cons_self
      obtain ⟨results, others⟩ := ih fun other member => returns other (List.mem_cons_of_mem item member)
      exact ⟨result :: results, by simp [run, others]⟩

theorem mapM_raises {B : Type} {step : A → Except E B} {items : List A} {results : List B}
    (returns : items.mapM step = .ok results) : ∀ item ∈ items, ∃ result, step item = .ok result := by
  induction items generalizing results with
  | nil =>
      intro item member
      cases member
  | cons first items ih =>
      simp only [List.mapM_cons, bind_eq_ok_iff] at returns
      obtain ⟨result, run, others, rest, _⟩ := returns
      intro item member
      rcases List.mem_cons.mp member with rfl | later
      · exact ⟨result, run⟩
      · exact ih rest item later

theorem mapM_length {B : Type} {step : A → Except E B} {items : List A} {results : List B}
    (returns : items.mapM step = .ok results) : results.length = items.length := by
  induction items generalizing results with
  | nil =>
      cases returns
      rfl
  | cons first items ih =>
      simp only [List.mapM_cons, bind_eq_ok_iff] at returns
      obtain ⟨result, _, others, rest, same⟩ := returns
      cases same
      simp [ih rest]

theorem descending_eq_foldrM {body : Nat → S → Except E S} {step : A → S → Except E S} (items : List A)
    (state : S) (reads : ∀ front item back state, items = front ++ item :: back →
      body front.length state = step item state) :
    descending body items.length state = items.foldrM step state := by
  induction items using List.reverseRecOn generalizing state with
  | nil => rfl
  | append_singleton front item ih =>
      have last : body front.length state = step item state := reads front item [] state rfl
      have earlier : ∀ state, descending body front.length state = front.foldrM step state := by
        intro state
        apply ih
        intro before other after state same
        exact reads before other (after ++ [item]) state (by simp [same])
      simp [descending, last, earlier]

/-- The items that a step makes of the items, the last one first. -/
def rebuild (step : A → Except E (Option A)) : List A → Except E (List A)
  | [] => pure []
  | item :: rest => do
      let rest ← rebuild step rest
      return (← step item).toList ++ rest

theorem rebuild_append (step : A → Except E (Option A)) (front back : List A) :
    rebuild step (front ++ back) = do
      let back ← rebuild step back
      return (← rebuild step front) ++ back := by
  induction front with
  | nil => simp [rebuild, bind_ok]
  | cons item front ih =>
      simp only [List.cons_append, rebuild, ih]
      cases rebuild step back with
      | error _ => rfl
      | ok back =>
          cases rebuild step front with
          | error _ => rfl
          | ok front =>
              cases step item with
              | error _ => rfl
              | ok replacement => simp

theorem descending_eq_rebuild (view : List A → S) {body : Nat → S → Except E S}
    {step : A → Except E (Option A)} (items : List A)
    (replaces : ∀ front item back rest, items = front ++ item :: back →
      body front.length (view (front ++ item :: rest)) =
        (fun replacement => view (front ++ (replacement.toList ++ rest))) <$> step item) :
    descending body items.length (view items) = view <$> rebuild step items := by
  suffices general : ∀ front back rest, items = front ++ back →
      descending body front.length (view (front ++ rest)) =
        (fun rebuilt => view (rebuilt ++ rest)) <$> rebuild step front by
    have whole := general items [] [] (by simp)
    simpa using whole
  intro front
  induction front using List.reverseRecOn with
  | nil => exact fun _ _ _ => rfl
  | append_singleton front item ih =>
      intro back rest same
      have split : items = front ++ item :: back := by simpa using same
      have last := replaces front item back rest split
      have earlier := fun rest => ih (item :: back) rest split
      simp only [List.length_append, List.length_singleton, descending, List.append_assoc,
        List.singleton_append, last, rebuild_append]
      cases run : step item with
      | error exception => simp [rebuild, run]
      | ok replacement =>
          simp only [map_ok, ok_bind, earlier, rebuild, run, pure_eq_ok]
          cases rebuild step front with
          | error _ => rfl
          | ok _ => simp

theorem rebuild_returns {step : A → Except E (Option A)} {replace : A → Option A} {items : List A}
    (returns : ∀ item ∈ items, step item = .ok (replace item)) :
    rebuild step items = .ok (items.filterMap replace) := by
  induction items with
  | nil => rfl
  | cons item rest ih =>
      have first := returns item List.mem_cons_self
      have others := ih fun other member => returns other (List.mem_cons_of_mem item member)
      simp only [rebuild, others, first, ok_bind, pure_eq_ok, List.filterMap_cons]
      cases replace item with
      | none => rfl
      | some _ => rfl

theorem rebuild_raises {step : A → Except E (Option A)} {items rebuilt : List A}
    (returns : rebuild step items = .ok rebuilt) : ∀ item ∈ items, ∃ replacement, step item = .ok replacement := by
  induction items generalizing rebuilt with
  | nil =>
      intro item member
      cases member
  | cons first rest ih =>
      simp only [rebuild, bind_eq_ok_iff] at returns
      obtain ⟨rebuiltRest, others, replacement, run, _⟩ := returns
      intro item member
      rcases List.mem_cons.mp member with same | later
      · exact ⟨replacement, same ▸ run⟩
      · exact ih others item later

/-- What a step makes of an item, nothing when it raises an exception. -/
def replacement (step : A → Except E (Option A)) (item : A) : Option A := (step item).toOption.join

theorem replacement_eq {step : A → Except E (Option A)} {item : A} {replaced : Option A}
    (run : step item = .ok replaced) : replacement step item = replaced := by
  simp [replacement, run, Except.toOption]

theorem replacement_some {step : A → Except E (Option A)} {item replaced : A}
    (same : replacement step item = some replaced) : step item = .ok (some replaced) := by
  cases run : step item with
  | error exception => simp [replacement, run, Except.toOption] at same
  | ok result =>
      rw [replacement_eq run] at same
      rw [same]

theorem rebuild_eq_ok_iff {step : A → Except E (Option A)} {items rebuilt : List A} :
    rebuild step items = .ok rebuilt ↔
      (∀ item ∈ items, ∃ replaced, step item = .ok replaced) ∧ items.filterMap (replacement step) = rebuilt := by
  have rebuilds (returns : ∀ item ∈ items, ∃ replaced, step item = .ok replaced) :
      rebuild step items = .ok (items.filterMap (replacement step)) := by
    apply rebuild_returns
    intro item member
    obtain ⟨replaced, run⟩ := returns item member
    rw [replacement_eq run, run]
  constructor
  · intro run
    have returns := rebuild_raises run
    rw [rebuilds returns, Except.ok.injEq] at run
    exact ⟨returns, run⟩
  · rintro ⟨returns, same⟩
    rw [rebuilds returns, same]

theorem filterMap_shows_iff {B : Type} {replace : A → Option A} {picks : A → Bool} (shows : A → B)
    (picked : ∀ item replaced, replace item = some replaced → picks replaced = picks item) (items : List A) :
    ((items.filterMap replace).filter picks).map shows = (items.filter picks).map shows ↔
      ∀ item ∈ items, picks item = true → ∃ replaced, replace item = some replaced ∧ shows replaced = shows item := by
  have shorter (items : List A) : ((items.filterMap replace).filter picks).length ≤ (items.filter picks).length := by
    induction items with
    | nil => simp
    | cons item items ih =>
        cases run : replace item with
        | none =>
            rw [List.filterMap_cons_none run, List.filter_cons]
            split
            · simp only [List.length_cons]
              omega
            · exact ih
        | some replaced =>
            rw [List.filterMap_cons_some run, List.filter_cons, List.filter_cons, picked item replaced run]
            split
            · simpa using ih
            · exact ih
  induction items with
  | nil => simp
  | cons item items ih =>
      rw [List.forall_mem_cons]
      cases run : replace item with
      | none =>
          rw [List.filterMap_cons_none run, List.filter_cons]
          cases pick : picks item with
          | false => simpa using ih
          | true =>
              simp only [if_true, List.map_cons, reduceCtorEq, false_and, exists_false, imp_false, not_true_eq_false,
                iff_false]
              intro same
              have lengths := congrArg List.length same
              have bound := shorter items
              simp only [List.length_map, List.length_cons] at lengths
              omega
      | some replaced =>
          rw [List.filterMap_cons_some run, List.filter_cons, List.filter_cons, picked item replaced run]
          cases pick : picks item with
          | false => simpa using ih
          | true => simp [ih]

section History

def HasFault (Fault : List A → A → Prop) (items : List A) : Prop :=
  ∃ front item back, items = front ++ item :: back ∧ Fault front item

theorem hasFault_nil (Fault : List A → A → Prop) : ¬HasFault Fault [] := by
  rintro ⟨front, item, back, same, _⟩
  exact absurd same.symm (List.append_ne_nil_of_right_ne_nil front (List.cons_ne_nil item back))

theorem hasFault_append_singleton (Fault : List A → A → Prop) (front : List A) (item : A) :
    HasFault Fault (front ++ [item]) ↔ HasFault Fault front ∨ Fault front item := by
  constructor
  · rintro ⟨before, fault, behind, same, isFault⟩
    induction behind using List.reverseRecOn with
    | nil =>
        have both := List.append_inj' same rfl
        cases both.2
        exact Or.inr (both.1 ▸ isFault)
    | append_singleton behind last _ =>
        rw [← List.cons_append, ← List.append_assoc] at same
        have both := List.append_inj' same rfl
        exact Or.inl ⟨before, fault, behind, both.1, isFault⟩
  · rintro (⟨before, fault, behind, same, isFault⟩ | isFault)
    · exact ⟨before, fault, behind ++ [item], by rw [same, List.append_assoc, List.cons_append], isFault⟩
    · exact ⟨front, item, [], rfl, isFault⟩

/-- What one step preserves: it raises an exception at a fault, and keeps the invariant elsewhere. -/
structure KeepsHistory (Fault : List A → A → Prop) (Inv : List A → S → Prop) (step : S → A → Except E S) : Prop where
  raises : ∀ front item state, Inv front state → Fault front item → ∃ exception, step state item = .error exception
  keeps : ∀ front item state, Inv front state → ¬Fault front item →
    ∃ next, step state item = .ok next ∧ Inv (front ++ [item]) next

theorem KeepsHistory.foldlM {Fault : List A → A → Prop} {Inv : List A → S → Prop} {step : S → A → Except E S}
    (history : KeepsHistory Fault Inv step) {state : S} (begins : Inv [] state) (items : List A) :
    (HasFault Fault items → ∃ exception, items.foldlM step state = .error exception) ∧
      (¬HasFault Fault items → ∃ next, items.foldlM step state = .ok next ∧ Inv items next) := by
  induction items using List.reverseRecOn with
  | nil =>
      constructor
      · intro fault
        exact absurd fault (hasFault_nil Fault)
      · intro _
        exact ⟨state, rfl, begins⟩
  | append_singleton front item ih =>
      rw [hasFault_append_singleton, List.foldlM_append]
      by_cases earlier : HasFault Fault front
      · obtain ⟨exception, raised⟩ := ih.1 earlier
        constructor
        · intro _
          exact ⟨exception, by rw [raised]; rfl⟩
        · intro noFault
          exact absurd (Or.inl earlier) noFault
      · obtain ⟨next, run, kept⟩ := ih.2 earlier
        rw [run]
        change (_ → ∃ exception, [item].foldlM step next = .error exception) ∧
          (_ → ∃ last, [item].foldlM step next = .ok last ∧ _)
        simp only [List.foldlM_cons, List.foldlM_nil, bind_pure]
        constructor
        · rintro (fault | fault)
          · exact absurd fault earlier
          · exact history.raises front item next kept fault
        · intro noFault
          exact history.keeps front item next kept fun fault => noFault (Or.inr fault)

theorem foldlM_agrees_iff {f g : S → A → Except E S} (items : List A) (state : S) :
    (∀ done left, items = done ++ left → done.foldlM f state = done.foldlM g state) ↔
      ¬HasFault (fun done item => ∃ reached, done.foldlM g state = .ok reached ∧ f reached item ≠ g reached item)
        items := by
  constructor
  · rintro agree ⟨done, item, left, split, reached, run, differ⟩
    have before := agree done (item :: left) split
    have after := agree (done ++ [item]) left (by rw [split, List.append_assoc, List.singleton_append])
    rw [List.foldlM_append, List.foldlM_append, before, run] at after
    simp only [ok_bind, List.foldlM_cons, List.foldlM_nil, bind_pure] at after
    exact differ after
  · intro sound done
    induction done using List.reverseRecOn with
    | nil =>
        intro _ _
        rfl
    | append_singleton done item ih =>
        intro left split
        rw [List.append_assoc, List.singleton_append] at split
        rw [List.foldlM_append, List.foldlM_append, ih (item :: left) split]
        cases run : done.foldlM g state with
        | error _ => rfl
        | ok reached =>
            have same : f reached item = g reached item := by
              by_contra differ
              exact sound ⟨done, item, left, split, reached, run, differ⟩
            simp only [ok_bind, List.foldlM_cons, List.foldlM_nil, same]

end History

end ServiceHost.Library
