import ServiceHost.DataExchange.NpAuctionRequesterCore

/-!
When the requests for contracts of several operators are those of each operator alone. A filter
of the options is used up by the first operators, and what the database has for a later operator
then takes its place.
-/

namespace ServiceHost.DataExchange.AuctionRequester

open Library EcpAmqpLogic

variable {requester : Requester} {database : ContractDatabase} {force : Bool} {date : DateTime}

section Turn

variable (database force date)

def Handled (opunKey : Int) : Prop := force = true ∨ database.alreadyReceived date opunKey = false

instance (opunKey : Int) : Decidable (Handled database force date opunKey) := inferInstanceAs (Decidable (_ ∨ _))

def Makes (filters : Filters) (opunKey : Int) : Prop :=
  Handled database force date opunKey ∧
    (filters.portfolioIds = none → database.portfolioIds date opunKey ≠ []) ∧
    database.auctionIds date opunKey ≠ [] ∧
    (filters.areas = none → database.areas date opunKey ≠ [])

instance (filters : Filters) (opunKey : Int) : Decidable (Makes database force date filters opunKey) :=
  inferInstanceAs (Decidable (_ ∧ _ ∧ _ ∧ _))

variable (requester) in
theorem contractTurn_eq (filters : Filters) (opunKey : Int) :
    contractTurn requester database force date filters opunKey =
      (if Makes database force date filters opunKey then
          (database.auctionIds date opunKey).map fun id =>
            requester.message opunKey (requester.getRoutingParameters "GetContract")
              (contractCommand (filters.portfolioIds.getD (database.portfolioIds date opunKey))
                (filters.areas.getD (database.areas date opunKey)) id)
        else [],
        ⟨if Handled database force date opunKey then none else filters.portfolioIds,
          if Makes database force date filters opunKey then none else filters.areas⟩) := by
  unfold contractTurn
  by_cases handled : Handled database force date opunKey
  · have goesOn : (!force && database.alreadyReceived date opunKey) = false := by
      rcases handled with forced | new
      · rw [forced]
        rfl
      · rw [new, Bool.and_false]
    rw [goesOn, if_neg Bool.false_ne_true, if_pos handled]
    by_cases noPortfolios : filters.portfolioIds = none ∧ database.portfolioIds date opunKey = []
    · have no : ¬Makes database force date filters opunKey := fun makes => makes.2.1 noPortfolios.1 noPortfolios.2
      rw [if_pos noPortfolios, if_neg no, if_neg no, ← noPortfolios.1]
    · rw [if_neg noPortfolios]
      by_cases noAuctions : database.auctionIds date opunKey = []
      · have no : ¬Makes database force date filters opunKey := fun makes => makes.2.2.1 noAuctions
        rw [if_pos noAuctions, if_neg no, if_neg no]
      · rw [if_neg noAuctions]
        by_cases noAreas : filters.areas = none ∧ database.areas date opunKey = []
        · have no : ¬Makes database force date filters opunKey := fun makes => makes.2.2.2 noAreas.1 noAreas.2
          rw [if_pos noAreas, if_neg no, if_neg no]
        · have makes : Makes database force date filters opunKey :=
            ⟨handled, fun none empty => noPortfolios ⟨none, empty⟩, noAuctions, fun none empty => noAreas ⟨none, empty⟩⟩
          rw [if_neg noAreas, if_pos makes, if_pos makes]
  · obtain ⟨notForced, received⟩ := not_or.mp handled
    have passed : (!force && database.alreadyReceived date opunKey) = true := by
      rw [Bool.eq_false_iff.mpr notForced, (Bool.not_eq_false _).mp received]
      rfl
    have no : ¬Makes database force date filters opunKey := fun makes => handled makes.1
    rw [if_pos passed, if_neg handled, if_neg no, if_neg no]

end Turn

section Filters

def Filters.Within (filters given : Filters) : Prop :=
  (filters.portfolioIds = none ∨ filters.portfolioIds = given.portfolioIds) ∧
    (filters.areas = none ∨ filters.areas = given.areas)

variable {filters given : Filters} {opunKey : Int}

theorem Filters.Within.turn (within : filters.Within given) :
    (contractTurn requester database force date filters opunKey).2.Within given := by
  rw [contractTurn_eq]
  refine ⟨?_, ?_⟩
  · dsimp only
    split
    · exact Or.inl rfl
    · exact within.1
  · dsimp only
    split
    · exact Or.inl rfl
    · exact within.2

theorem Makes.of_within (within : filters.Within given) (makes : Makes database force date filters opunKey) :
    Makes database force date given opunKey := by
  obtain ⟨handled, portfolios, auctions, areas⟩ := makes
  refine ⟨handled, fun none => portfolios ?_, auctions, fun none => areas ?_⟩
  · exact within.1.elim id fun same => same.trans none
  · exact within.2.elim id fun same => same.trans none

theorem contractTurn_length_le (within : filters.Within given) :
    (contractTurn requester database force date filters opunKey).1.length ≤
      (contractTurn requester database force date given opunKey).1.length := by
  rw [contractTurn_eq, contractTurn_eq]
  dsimp only
  by_cases makes : Makes database force date filters opunKey
  · rw [if_pos makes, if_pos (makes.of_within within), List.length_map, List.length_map]
  · rw [if_neg makes]
    exact Nat.zero_le _

def SameText (found given : List String) : Prop := found ≠ [] ∧ ",".intercalate found = ",".intercalate given

theorem usedUp_iff {given : Option (List String)} {found : List String} {usedUp : Prop} [Decidable usedUp]
    (known : given = none → found ≠ []) :
    ((((if usedUp then none else given) = none → found ≠ []) ∧
        ",".intercalate ((if usedUp then none else given).getD found) = ",".intercalate (given.getD found)) ↔
      ∀ texts, given = some texts → usedUp → SameText found texts) := by
  cases given with
  | none =>
      rw [ite_self]
      exact iff_of_true ⟨fun _ => known rfl, rfl⟩ fun _ given => nomatch given
  | some texts =>
      by_cases lost : usedUp
      · rw [if_pos lost]
        constructor
        · rintro ⟨some, same⟩ _ ⟨⟩ _
          exact ⟨some rfl, same⟩
        · intro same
          obtain ⟨some, text⟩ := same texts rfl lost
          exact ⟨fun _ => some, text⟩
      · rw [if_neg lost]
        exact iff_of_true ⟨fun none => (nomatch none), rfl⟩ fun _ _ now => absurd now lost

theorem contractCommand_inj {portfolioIds areas portfolioIds' areas' : List String} {id : String} :
    contractCommand portfolioIds areas id = contractCommand portfolioIds' areas' id ↔
      ",".intercalate portfolioIds = ",".intercalate portfolioIds' ∧ ",".intercalate areas = ",".intercalate areas' := by
  unfold contractCommand
  simp only [NordPoolRequestCommand.mk.injEq, List.cons.injEq, Prod.mk.injEq, true_and, and_true]

theorem contractTurn_eq_iff (makes : Makes database force date given opunKey) :
    (contractTurn requester database force date filters opunKey).1 =
        (contractTurn requester database force date given opunKey).1 ↔
      ((filters.portfolioIds = none → database.portfolioIds date opunKey ≠ []) ∧
          ",".intercalate (filters.portfolioIds.getD (database.portfolioIds date opunKey)) =
            ",".intercalate (given.portfolioIds.getD (database.portfolioIds date opunKey))) ∧
        (filters.areas = none → database.areas date opunKey ≠ []) ∧
          ",".intercalate (filters.areas.getD (database.areas date opunKey)) =
            ",".intercalate (given.areas.getD (database.areas date opunKey)) := by
  obtain ⟨id, asked⟩ := List.exists_mem_of_ne_nil _ makes.2.2.1
  rw [contractTurn_eq, contractTurn_eq]
  dsimp only
  rw [if_pos makes]
  constructor
  · intro same
    by_cases now : Makes database force date filters opunKey
    · rw [if_pos now] at same
      have data := congrArg DataExchangeExportMessage.messageData (List.map_inj_left.mp same id asked)
      obtain ⟨portfolios, areas⟩ := contractCommand_inj.mp data
      exact ⟨⟨now.2.1, portfolios⟩, now.2.2.2, areas⟩
    · rw [if_neg now] at same
      exact absurd (List.map_eq_nil_iff.mp same.symm) makes.2.2.1
  · rintro ⟨⟨portfolios, samePortfolios⟩, areas, sameAreas⟩
    have now : Makes database force date filters opunKey := ⟨makes.1, portfolios, makes.2.2.1, areas⟩
    rw [if_pos now]
    exact List.map_inj_left.mpr fun id _ => congrArg _ (contractCommand_inj.mpr ⟨samePortfolios, sameAreas⟩)

end Filters

section Operators

variable (requester database force date)

def contractsOf : Filters → List Int → List DataExchangeExportMessage
  | _, [] => []
  | filters, opunKey :: keys =>
      (contractTurn requester database force date filters opunKey).1 ++
        contractsOf (contractTurn requester database force date filters opunKey).2 keys

theorem contractLoop_eq (filters : Filters) (operators : List String) :
    contractLoop requester database force date filters operators =
      (operators.mapM toInt32).map (contractsOf requester database force date filters) := by
  induction operators generalizing filters with
  | nil => rfl
  | cons oper operators ih =>
      rw [contractLoop, List.mapM_cons]
      cases toInt32 oper with
      | error exception => rfl
      | ok opunKey =>
          simp only [ok_bind]
          rw [ih]
          cases operators.mapM toInt32 with
          | error exception => rfl
          | ok keys => rfl

def Filters.after (given : Filters) (before : List Int) : Filters where
  portfolioIds := if ∃ opunKey ∈ before, Handled database force date opunKey then none else given.portfolioIds
  areas := if ∃ opunKey ∈ before, Makes database force date given opunKey then none else given.areas

def KeepsFilters (given : Filters) (before : List Int) (opunKey : Int) : Prop :=
  Makes database force date given opunKey →
    (∀ portfolioIds, given.portfolioIds = some portfolioIds →
        (∃ earlier ∈ before, Handled database force date earlier) →
        SameText (database.portfolioIds date opunKey) portfolioIds) ∧
      ∀ areas, given.areas = some areas →
        (∃ earlier ∈ before, Makes database force date given earlier) →
        SameText (database.areas date opunKey) areas

def FiltersKept (given : Filters) (keys : List Int) : Prop :=
  ∀ before opunKey after, keys = before ++ opunKey :: after →
    KeepsFilters database force date given before opunKey

variable {requester database force date} {given : Filters}

theorem Filters.after_within (before : List Int) : (given.after database force date before).Within given := by
  constructor
  · unfold Filters.after
    dsimp only
    split
    · exact Or.inl rfl
    · exact Or.inr rfl
  · unfold Filters.after
    dsimp only
    split
    · exact Or.inl rfl
    · exact Or.inr rfl

theorem contractTurn_after_iff (before : List Int) (opunKey : Int) :
    (contractTurn requester database force date (given.after database force date before) opunKey).1 =
        (contractTurn requester database force date given opunKey).1 ↔
      KeepsFilters database force date given before opunKey := by
  by_cases makes : Makes database force date given opunKey
  · rw [contractTurn_eq_iff makes]
    exact (and_congr (usedUp_iff makes.2.1) (usedUp_iff makes.2.2.2)).trans
      ⟨fun kept _ => kept, fun kept => kept makes⟩
  · have none : ¬Makes database force date (given.after database force date before) opunKey :=
      fun now => makes (now.of_within (Filters.after_within before))
    rw [contractTurn_eq, contractTurn_eq]
    dsimp only
    rw [if_neg makes, if_neg none]
    exact iff_of_true rfl fun now => absurd now makes

theorem contractTurn_after (before : List Int) (opunKey : Int)
    (kept : KeepsFilters database force date given before opunKey) :
    (contractTurn requester database force date (given.after database force date before) opunKey).2 =
      given.after database force date (before ++ [opunKey]) := by
  have makes : Makes database force date (given.after database force date before) opunKey ↔
      Makes database force date given opunKey := by
    refine ⟨Makes.of_within (Filters.after_within before), fun alone => ?_⟩
    have same : (contractTurn requester database force date (given.after database force date before) opunKey).1 = _ :=
      (contractTurn_after_iff before opunKey).mpr kept
    obtain ⟨⟨portfolios, -⟩, areas, -⟩ := (contractTurn_eq_iff alone).mp same
    exact ⟨alone.1, portfolios, alone.2.2.1, areas⟩
  have handledOne : (∃ earlier ∈ before ++ [opunKey], Handled database force date earlier) ↔
      (∃ earlier ∈ before, Handled database force date earlier) ∨ Handled database force date opunKey := by
    simp only [List.mem_append, List.mem_singleton, or_and_right, exists_or, exists_eq_left]
  have makesOne : (∃ earlier ∈ before ++ [opunKey], Makes database force date given earlier) ↔
      (∃ earlier ∈ before, Makes database force date given earlier) ∨ Makes database force date given opunKey := by
    simp only [List.mem_append, List.mem_singleton, or_and_right, exists_or, exists_eq_left]
  rw [contractTurn_eq]
  unfold Filters.after at makes ⊢
  simp only [makes, handledOne, makesOne]
  by_cases handled : Handled database force date opunKey <;>
    by_cases made : Makes database force date given opunKey <;>
      simp [handled, made]

theorem contractsOf_length_le {filters : Filters} (within : filters.Within given) (keys : List Int) :
    (contractsOf requester database force date filters keys).length ≤
      (keys.flatMap fun opunKey => contractsOf requester database force date given [opunKey]).length := by
  induction keys generalizing filters with
  | nil => exact Nat.le_refl _
  | cons opunKey keys ih =>
      rw [List.flatMap_cons, contractsOf, List.length_append, List.length_append]
      have first : contractsOf requester database force date given [opunKey] =
          (contractTurn requester database force date given opunKey).1 := List.append_nil _
      rw [first]
      exact Nat.add_le_add (contractTurn_length_le within) (ih within.turn)

theorem contractsOf_after_iff (before keys : List Int) :
    contractsOf requester database force date (given.after database force date before) keys =
        (keys.flatMap fun opunKey => contractsOf requester database force date given [opunKey]) ↔
      ∀ front opunKey back, keys = front ++ opunKey :: back →
        KeepsFilters database force date given (before ++ front) opunKey := by
  induction keys generalizing before with
  | nil =>
      refine iff_of_true rfl fun front opunKey back split => ?_
      exact absurd split.symm (List.append_ne_nil_of_right_ne_nil _ (List.cons_ne_nil _ _))
  | cons opunKey keys ih =>
      have first : contractsOf requester database force date given [opunKey] =
          (contractTurn requester database force date given opunKey).1 := List.append_nil _
      rw [List.flatMap_cons, contractsOf, first]
      have within : (given.after database force date before).Within given := Filters.after_within before
      constructor
      · intro same front later back split
        have shorter : (contractTurn requester database force date
            (given.after database force date before) opunKey).1.length ≤ _ := contractTurn_length_le within
        have restShorter : (contractsOf requester database force date (contractTurn requester database force date
            (given.after database force date before) opunKey).2 keys).length ≤ _ :=
          contractsOf_length_le within.turn keys
        have lengths := congrArg List.length same
        rw [List.length_append, List.length_append] at lengths
        obtain ⟨turnSame, restSame⟩ := List.append_inj same (by omega)
        have kept := (contractTurn_after_iff before opunKey).mp turnSame
        cases front with
        | nil =>
            cases split
            rwa [List.append_nil]
        | cons _ front =>
            cases split
            rw [contractTurn_after before opunKey kept] at restSame
            have laterKept := (ih _).mp restSame front later back rfl
            rwa [List.append_assoc, List.singleton_append] at laterKept
      · intro kept
        have now := kept [] opunKey keys rfl
        rw [List.append_nil] at now
        rw [(contractTurn_after_iff before opunKey).mpr now, contractTurn_after before opunKey now, (ih _).mpr]
        intro front later back split
        have laterKept := kept (opunKey :: front) later back (congrArg (opunKey :: ·) split)
        rwa [List.append_assoc, List.singleton_append]

end Operators

section Commands

variable (requester database)

def Concatenates (options : ContractOptions) (operators : List String) : Prop :=
  createGetContractsCommands requester database { options with operators := some operators } =
    (operators.mapM fun oper =>
      createGetContractsCommands requester database { options with operators := some [oper] }).map List.flatten

instance (options : ContractOptions) (operators : List String) :
    Decidable (Concatenates requester database options operators) :=
  inferInstanceAs (Decidable (_ = _))

theorem mapM_silent (operators : List String) :
    (operators.mapM fun _ => (Except.ok [] : Except RuleException (List DataExchangeExportMessage))).map
      List.flatten = .ok [] := by
  induction operators with
  | nil => rfl
  | cons oper operators ih =>
      rw [List.mapM_cons, ok_bind]
      obtain ⟨rest, returns, empty⟩ := map_eq_ok_iff.mp ih
      rw [returns]
      exact congrArg Except.ok empty

theorem mapM_contracts (given : Filters) (force : Bool) (date : DateTime) (operators : List String) :
    (operators.mapM fun oper => contractLoop requester database force date given [oper]).map List.flatten =
      (operators.mapM toInt32).map fun keys =>
        keys.flatMap fun opunKey => contractsOf requester database force date given [opunKey] := by
  induction operators with
  | nil => rfl
  | cons oper operators ih =>
      rw [List.mapM_cons, List.mapM_cons, contractLoop_eq, List.mapM_cons]
      cases toInt32 oper with
      | error exception => rfl
      | ok opunKey =>
          simp only [ok_bind, List.mapM_nil, pure_eq_ok]
          cases keys : operators.mapM toInt32 with
          | error exception =>
              rw [keys] at ih
              cases rest : operators.mapM fun oper => contractLoop requester database force date given [oper] with
              | error other =>
                  rw [rest] at ih
                  exact ih
              | ok lists =>
                  rw [rest] at ih
                  cases ih
          | ok keys' =>
              rw [keys] at ih
              obtain ⟨lists, returns, same⟩ := map_eq_ok_iff.mp ih
              rw [returns]
              exact congrArg (fun later => Except.ok (contractsOf requester database force date given [opunKey] ++ later)) same

/-- The requests for several operators are those for each of them alone exactly if each operator
that gets requests alone still finds the filters, or the database has the same in their place. -/
theorem createGetContractsCommands_concatenates_iff (options : ContractOptions) (operators : List String) :
    Concatenates requester database options operators ↔
      options.help = true ∨ ∀ date keys, options.date = some date → operators.mapM toInt32 = .ok keys →
        FiltersKept database options.force date ⟨options.portfolioIds, options.areas⟩ keys := by
  unfold Concatenates createGetContractsCommands
  by_cases help : options.help = true
  · simp only [help, if_true, true_or, iff_true]
    exact (mapM_silent operators).symm
  · simp only [help, Bool.false_eq_true, if_false, false_or]
    cases options.date with
    | none => exact iff_of_true (mapM_silent operators).symm fun date keys known => nomatch known
    | some date =>
        simp only [Requester.operatorsOf]
        rw [mapM_contracts, contractLoop_eq]
        cases operators.mapM toInt32 with
        | error exception => exact iff_of_true rfl fun _ _ _ returns => nomatch returns
        | ok keys =>
            have unused : Filters.after database options.force date ⟨options.portfolioIds, options.areas⟩ [] =
                ⟨options.portfolioIds, options.areas⟩ := by
              unfold Filters.after
              simp only [List.not_mem_nil, false_and, exists_false, if_false]
            have start := @contractsOf_after_iff requester database options.force date
              ⟨options.portfolioIds, options.areas⟩ [] keys
            rw [unused] at start
            refine Iff.trans (iff_of_eq (Except.ok.injEq _ _)) (start.trans ⟨fun kept _ _ sameDate sameKeys => ?_, fun kept => ?_⟩)
            · cases sameDate
              cases sameKeys
              exact kept
            · exact kept date keys rfl rfl

def sampleDatabase : ContractDatabase where
  messageStatus _ _ := []
  portfolioIds _ opunKey := if opunKey = 1 then ["P1"] else ["P2"]
  auctionIds _ _ := ["A"]
  areas _ _ := ["NO1"]
  today := ⟨0⟩

def sampleRequester : Requester := ⟨9, none, "", none, "1"⟩

/-- `-o 1,2 -p P1`: the second operator is asked for its own portfolio. -/
theorem second_operator_loses_filter :
    ¬Concatenates sampleRequester sampleDatabase ⟨none, some ⟨0⟩, some ["P1"], none, false, false, false⟩ ["1", "2"] := by
  decide

end Commands

end ServiceHost.DataExchange.AuctionRequester
