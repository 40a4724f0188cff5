import ServiceHost.DataExchange.EcpAmqpLogicCore

/-!
What becomes of a list of rules. An entry without a comma ends the call when its field is a
regular expression, as a trailing semicolon does; an entry of the state rules must be well
formed, and its key new.
-/

namespace ServiceHost.DataExchange

open Library

section Splitting

variable {A : Type} [BEq A] [LawfulBEq A]

theorem one_lt_length_splitOn_iff (separator : A) (items : List A) :
    1 < (items.splitOn separator).length ↔ separator ∈ items := by
  induction items with
  | nil => simp [List.splitOn_nil]
  | cons item items ih =>
      have some_part : 0 < (items.splitOn separator).length := List.length_pos_of_ne_nil (List.splitOnP_ne_nil _ _)
      rw [List.splitOn, List.splitOnP_cons_eq_if_modifyHead, List.mem_cons]
      split
      next same =>
          have separates : separator = item := (eq_of_beq same).symm
          simp only [separates, List.length_cons, true_or, iff_true]
          simp only [List.splitOn] at some_part
          rw [← separates]
          omega
      next other =>
          have differs : separator ≠ item := fun same => other (by rw [same]; exact beq_self_eq_true item)
          rw [List.length_modifyHead, List.splitOn] at *
          rw [ih]
          simp [differs]

end Splitting

namespace EcpAmqpLogic

def pattern (entry : String) : String := (split ',' entry).headD ""

def setting (entry : String) : Option String := (split ',' entry)[1]?

theorem split_ne_nil (separator : Char) (text : String) : split separator text ≠ [] := by
  simp [split, List.splitOn, List.splitOnP_ne_nil]

theorem item_zero (entry : String) (logic : EcpAmqpLogic) : item (split ',' entry) 0 logic = (.ok (pattern entry), logic) := by
  cases fields : split ',' entry with
  | nil => exact absurd fields (split_ne_nil ',' entry)
  | cons field fields => simp [item, pattern, fields]

theorem setting_isSome_iff (entry : String) : (setting entry).isSome ↔ ',' ∈ entry.toList := by
  rw [← one_lt_length_splitOn_iff, setting, split]
  simp

theorem item_one_of_some {entry field : String} (given : setting entry = some field) (logic : EcpAmqpLogic) :
    item (split ',' entry) 1 logic = (.ok field, logic) := by
  simp only [setting] at given
  simp [item, given]

theorem item_one_of_none {entry : String} (missing : setting entry = none) (logic : EcpAmqpLogic) :
    item (split ',' entry) 1 logic = (.error .indexOutOfRange, logic) := by
  simp only [setting] at missing
  simp [item, missing]

def entries : Option String → List String
  | none => []
  | some description => if description = "" then [] else split ';' description

section Rules

variable (runtime : Runtime)

def Passes (entry : String) : Prop := ',' ∈ entry.toList ∨ runtime.invalidPattern (pattern entry) ≠ none

instance (entry : String) : Decidable (Passes runtime entry) := by
  unfold Passes
  infer_instance

def ruleOutcome (entry : String) : Except RuleException Unit :=
  if Passes runtime entry then .ok () else .error .indexOutOfRange

theorem ruleOutcome_eq_ok_iff (entry : String) : ruleOutcome runtime entry = .ok () ↔ Passes runtime entry := by
  rw [ruleOutcome]
  split
  next passes => simp [passes]
  next fails => simp [fails]

def queryPriority (entry : String) : Option QueryPriority :=
  if runtime.invalidPattern (pattern entry) = none then
    ((setting entry).map (DataExchangeQueuePriority.fromString runtime.toUpperInvariant)).bind fun priority =>
      if priority ≠ DataExchangeQueuePriority.undefined then some ⟨pattern entry, priority⟩ else none
  else none

def queryProtocol (entry : String) : Option QueryProtocol :=
  if runtime.invalidPattern (pattern entry) = none then
    (setting entry).map fun protocol => ⟨pattern entry, protocol⟩
  else none

variable {runtime} (entry : String) (logic : EcpAmqpLogic)

section Turn

variable {add : String → String → Rules Unit} {recover : RuleException → String → Rules Unit}

def ruleTurn (add : String → String → Rules Unit) (recover : RuleException → String → Rules Unit)
    (runtime : Runtime) (entry : String) : Rules Unit :=
  catchArgument (do
      let query ← newRegex runtime (← item (split ',' entry) 0)
      add query (← item (split ',' entry) 1))
    recover

theorem ruleTurn_invalid {message : String} (invalid : runtime.invalidPattern (pattern entry) = some message) :
    ruleTurn add recover runtime entry logic = recover (.argument message) message logic := by
  have raises : newRegex runtime (pattern entry) logic = (.error (.argument message), logic) := by
    simp [newRegex, invalid]
  rw [ruleTurn, catchArgument, (@Program.handle_of_error _ _ _ _ _ logic (.argument message))]
  rw [Program.bind_of_ok (item_zero entry logic), Program.bind_of_error raises]

theorem ruleTurn_valid (valid : runtime.invalidPattern (pattern entry) = none) :
    ruleTurn add recover runtime entry logic =
      catchArgument (item (split ',' entry) 1 >>= add (pattern entry)) recover logic := by
  have returns : newRegex runtime (pattern entry) logic = (.ok (pattern entry), logic) := by
    simp [newRegex, valid]
  rw [ruleTurn, catchArgument, catchArgument, Program.handle, Program.handle]
  rw [Program.bind_of_ok (item_zero entry logic), Program.bind_of_ok returns]

theorem ruleTurn_missing (valid : runtime.invalidPattern (pattern entry) = none)
    (missing : setting entry = none) :
    ruleTurn add recover runtime entry logic = (.error .indexOutOfRange, logic) := by
  rw [ruleTurn_valid entry logic valid, catchArgument,
    Program.handle_of_error (Program.bind_of_error (item_one_of_none missing logic))]
  rfl

theorem ruleTurn_given {field : String} (valid : runtime.invalidPattern (pattern entry) = none)
    (given : setting entry = some field) (returns : (add (pattern entry) field logic).1 = .ok ()) :
    ruleTurn add recover runtime entry logic = add (pattern entry) field logic := by
  rw [ruleTurn_valid entry logic valid, catchArgument]
  cases run : add (pattern entry) field logic with
  | mk result later =>
      rw [run] at returns
      rw [(@Program.handle_of_ok _ _ _ _ _ later ())]
      · rw [← returns]
      · rw [Program.bind_of_ok (item_one_of_some given logic), run, ← returns]

theorem ruleTurn_spec {R : Type} (view : EcpAmqpLogic → List R) {rule : String → Option R}
    (added : ∀ field, setting entry = some field → runtime.invalidPattern (pattern entry) = none →
      (add (pattern entry) field logic).1 = .ok () ∧
        view (add (pattern entry) field logic).2 = view logic ++ (rule entry).toList)
    (recovered : ∀ exception message, (recover exception message logic).1 = .ok () ∧
      view (recover exception message logic).2 = view logic)
    (malformed : runtime.invalidPattern (pattern entry) ≠ none → rule entry = none) :
    (ruleTurn add recover runtime entry logic).1 = ruleOutcome runtime entry ∧
      ((ruleTurn add recover runtime entry logic).1 = .ok () →
        view (ruleTurn add recover runtime entry logic).2 = view logic ++ (rule entry).toList) := by
  have fields := setting_isSome_iff entry
  cases valid : runtime.invalidPattern (pattern entry) with
  | none =>
      cases given : setting entry with
      | none =>
          have fails : ¬Passes runtime entry := by
            rw [Passes, ← fields, given, valid]
            simp
          rw [ruleTurn_missing entry logic valid given, ruleOutcome, if_neg fails]
          simp
      | some field =>
          have passes : Passes runtime entry := Or.inl (fields.mp (by rw [given]; rfl))
          have ⟨returns, views⟩ := added field given valid
          rw [ruleTurn_given entry logic valid given returns, ruleOutcome, if_pos passes]
          exact ⟨returns, fun _ => views⟩
  | some message =>
      have invalid : runtime.invalidPattern (pattern entry) ≠ none := by simp [valid]
      have passes : Passes runtime entry := Or.inr invalid
      have ⟨returns, views⟩ := recovered (.argument message) message
      rw [ruleTurn_invalid entry logic valid, ruleOutcome, if_pos passes, malformed invalid]
      exact ⟨returns, fun _ => by simpa using views⟩

end Turn

theorem addQueryPriority_spec :
    (addQueryPriority runtime entry logic).1 = ruleOutcome runtime entry ∧
      ((addQueryPriority runtime entry logic).1 = .ok () →
        (addQueryPriority runtime entry logic).2.prioritizedQueries =
          logic.prioritizedQueries ++ (queryPriority runtime entry).toList) := by
  apply ruleTurn_spec entry logic EcpAmqpLogic.prioritizedQueries
  · intro field given valid
    simp only [queryPriority, valid, given, ↓reduceIte, Option.map_some, Option.bind_some]
    split
    next defined => simp
    next undefined => simp
  · intro exception message
    rw [Program.bind_of_ok (item_zero entry logic)]
    exact ⟨rfl, rfl⟩
  · intro invalid
    rw [queryPriority, if_neg invalid]

theorem addQueryProtocol_spec :
    (addQueryProtocol runtime entry logic).1 = ruleOutcome runtime entry ∧
      ((addQueryProtocol runtime entry logic).1 = .ok () →
        (addQueryProtocol runtime entry logic).2.protocolQueries =
          logic.protocolQueries ++ (queryProtocol runtime entry).toList) := by
  apply ruleTurn_spec entry logic EcpAmqpLogic.protocolQueries
  · intro field given valid
    simp only [queryProtocol, valid, given, ↓reduceIte, Option.map_some]
    exact ⟨rfl, rfl⟩
  · intro exception message
    rw [Program.bind_of_ok (item_zero entry logic)]
    exact ⟨rfl, rfl⟩
  · intro invalid
    rw [queryProtocol, if_neg invalid]

end Rules

section States

def stateRule (entry : String) : Option (String × Int) :=
  (setting entry).bind fun code => (toInt32 code).toOption.map fun value => (pattern entry, value)

theorem stateRule_key {entry key : String} {value : Int} (rule : stateRule entry = some (key, value)) :
    key = pattern entry := by
  simp only [stateRule, Option.bind_eq_some_iff, Option.map_eq_some_iff, Prod.mk.injEq] at rule
  obtain ⟨_, _, _, _, same, _⟩ := rule
  exact same.symm

variable (entry : String) (logic : EcpAmqpLogic)

theorem addState_none (malformed : stateRule entry = none) : (addState entry logic).1 ≠ .ok () := by
  rw [addState, Program.bind_of_ok (item_zero entry logic)]
  cases given : setting entry with
  | none =>
      rw [Program.bind_of_error (item_one_of_none given logic)]
      simp
  | some code =>
      rw [Program.bind_of_ok (item_one_of_some given logic)]
      cases number : toInt32 code with
      | ok value => simp [stateRule, given, number, Except.toOption] at malformed
      | error exception =>
          rw [Program.bind_of_error (Program.ofExcept_run (.error exception) logic)]
          simp

theorem addState_some {key : String} {value : Int} (rule : stateRule entry = some (key, value)) :
    addState entry logic =
      match logic.states.add key value with
      | .ok states => (.ok (), { logic with states })
      | .error exception => (.error exception, logic) := by
  have named := stateRule_key rule
  simp only [stateRule, Option.bind_eq_some_iff, Option.map_eq_some_iff, Prod.mk.injEq] at rule
  obtain ⟨code, given, number, parsed, _, rfl⟩ := rule
  have returns : toInt32 code = .ok number := by
    cases result : toInt32 code with
    | ok value =>
        rw [result] at parsed
        cases parsed
        rfl
    | error exception =>
        rw [result] at parsed
        cases parsed
  rw [addState, Program.bind_of_ok (item_zero entry logic), Program.bind_of_ok (item_one_of_some given logic),
    returns, Program.bind_of_ok (Program.ofExcept_run (.ok number) logic),
    Program.bind_of_ok (Program.read_run EcpAmqpLogic.states logic), ← named]
  cases logic.states.add key number with
  | ok states => rfl
  | error exception => rfl

theorem StateTable.add_of_fresh {table : StateTable} {key : String} (fresh : key ∉ table.keys) (value : Int) :
    ∃ added, table.add key value = .ok added ∧ added.entries = table.entries ++ [(key, value)] := by
  rw [StateTable.add, dif_pos fresh]
  exact ⟨_, rfl, rfl⟩

theorem StateTable.add_of_known {table : StateTable} {key : String} (known : key ∈ table.keys) (value : Int) :
    ∃ exception, table.add key value = .error exception := by
  rw [StateTable.add, dif_neg (not_not_intro known)]
  exact ⟨_, rfl⟩

theorem addState_returns_iff :
    (addState entry logic).1 = .ok () ↔ (stateRule entry).isSome ∧ pattern entry ∉ logic.states.keys := by
  cases rule : stateRule entry with
  | none => simp [addState_none entry logic rule]
  | some rest =>
      obtain ⟨key, value⟩ := rest
      rw [addState_some entry logic rule, ← stateRule_key rule, Option.isSome_some, eq_self, true_and]
      by_cases known : key ∈ logic.states.keys
      · obtain ⟨exception, raised⟩ := StateTable.add_of_known known value
        simp [raised, known]
      · obtain ⟨added, same, _⟩ := StateTable.add_of_fresh known value
        simp [same, known]

theorem addState_states (returns : (addState entry logic).1 = .ok ()) :
    (addState entry logic).2.states.entries = logic.states.entries ++ (stateRule entry).toList := by
  obtain ⟨wellFormed, fresh⟩ := (addState_returns_iff entry logic).mp returns
  obtain ⟨⟨key, value⟩, rule⟩ := Option.isSome_iff_exists.mp wellFormed
  rw [← stateRule_key rule] at fresh
  obtain ⟨added, same, grown⟩ := StateTable.add_of_fresh fresh value
  rw [addState_some entry logic rule, same, rule]
  exact grown

theorem addState_keys (returns : (addState entry logic).1 = .ok ()) :
    (addState entry logic).2.states.keys = logic.states.keys ++ [pattern entry] := by
  obtain ⟨wellFormed, _⟩ := (addState_returns_iff entry logic).mp returns
  obtain ⟨⟨key, value⟩, rule⟩ := Option.isSome_iff_exists.mp wellFormed
  rw [StateTable.keys, addState_states entry logic returns, rule, stateRule_key rule]
  simp [StateTable.keys]

theorem addStates_return_iff (items : List String) (logic : EcpAmqpLogic) :
    (Program.forEach addState items logic).1 = .ok () ↔
      (∀ entry ∈ items, (stateRule entry).isSome) ∧ (logic.states.keys ++ items.map pattern).Nodup := by
  induction items generalizing logic with
  | nil => simpa [Program.forEach, StateTable.keys] using logic.states.distinct
  | cons entry items ih =>
      have turn := addState_returns_iff entry logic
      have keys := addState_keys entry logic
      rw [Program.forEach, List.forall_mem_cons, List.map_cons]
      cases run : addState entry logic with
      | mk result later =>
          rw [run] at turn keys
          cases result with
          | ok value =>
              obtain ⟨wellFormed, _⟩ := turn.mp rfl
              rw [Program.bind_of_ok run, ih, keys rfl, List.append_assoc]
              simp [wellFormed]
          | error exception =>
              rw [Program.bind_of_error run]
              constructor
              · intro returns
                cases returns
              · rintro ⟨⟨wellFormed, _⟩, distinct⟩
                have fresh : pattern entry ∉ logic.states.keys := by
                  intro known
                  exact (List.nodup_append.mp distinct).2.2 _ known _ (by simp) rfl
                exact absurd (turn.mpr ⟨wellFormed, fresh⟩) (by simp)

end States

section Initialize

variable (runtime : Runtime) (description : Option String) (logic : EcpAmqpLogic)

theorem initializePriorityList_eq :
    initializePriorityList runtime description logic =
      Program.forEach (addQueryPriority runtime) (entries description) { logic with prioritizedQueries := [] } := by
  cases description with
  | none => rfl
  | some text =>
      by_cases empty : text = ""
      · subst empty
        rfl
      · simp only [initializePriorityList, entries, empty, ↓reduceIte]
        rfl

theorem initializeProtocolRules_eq :
    initializeProtocolRules runtime description logic =
      Program.forEach (addQueryProtocol runtime) (entries description) { logic with protocolQueries := [] } := by
  cases description with
  | none => rfl
  | some text =>
      by_cases empty : text = ""
      · subst empty
        rfl
      · simp only [initializeProtocolRules, entries, empty, ↓reduceIte]
        rfl

theorem initializeStateRules_eq :
    initializeStateRules description logic =
      Program.forEach addState (entries description) { logic with states := .empty } := by
  cases description with
  | none => rfl
  | some text =>
      by_cases empty : text = ""
      · subst empty
        rfl
      · simp only [initializeStateRules, entries, empty, ↓reduceIte]
        rfl

def Replaced {R : Type} (run : Except RuleException Unit × EcpAmqpLogic) (table : EcpAmqpLogic → List R)
    (rules : List R) : Prop :=
  run.1 = .ok () ∧ table run.2 = rules

def ReplacedKeys (run : Except RuleException Unit × EcpAmqpLogic) (keys : List String) : Prop :=
  run.1 = .ok () ∧ ∀ key, key ∈ run.2.states.keys ↔ key ∈ keys

theorem priorityList_replaced_iff :
    Replaced (initializePriorityList runtime description logic) EcpAmqpLogic.prioritizedQueries
        ((entries description).filterMap (queryPriority runtime)) ↔
      ∀ entry ∈ entries description, Passes runtime entry := by
  have loop := Program.forEach_returns_iff (fun entry logic => ((@addQueryPriority_spec runtime) entry logic).1)
    (entries description) { logic with prioritizedQueries := [] }
  simp only [ruleOutcome_eq_ok_iff] at loop
  rw [Replaced, initializePriorityList_eq, ← loop]
  constructor
  · exact And.left
  · intro returns
    exact ⟨returns, Program.forEach_collects EcpAmqpLogic.prioritizedQueries
      (fun entry logic => ((@addQueryPriority_spec runtime) entry logic).2) _ _ returns⟩

theorem protocolRules_replaced_iff :
    Replaced (initializeProtocolRules runtime description logic) EcpAmqpLogic.protocolQueries
        ((entries description).filterMap (queryProtocol runtime)) ↔
      ∀ entry ∈ entries description, Passes runtime entry := by
  have loop := Program.forEach_returns_iff (fun entry logic => ((@addQueryProtocol_spec runtime) entry logic).1)
    (entries description) { logic with protocolQueries := [] }
  simp only [ruleOutcome_eq_ok_iff] at loop
  rw [Replaced, initializeProtocolRules_eq, ← loop]
  constructor
  · exact And.left
  · intro returns
    exact ⟨returns, Program.forEach_collects EcpAmqpLogic.protocolQueries
      (fun entry logic => ((@addQueryProtocol_spec runtime) entry logic).2) _ _ returns⟩

theorem stateRules_replaced_iff :
    ReplacedKeys (initializeStateRules description logic)
        (((entries description).filterMap stateRule).map Prod.fst) ↔
      (∀ entry ∈ entries description, (stateRule entry).isSome) ∧ ((entries description).map pattern).Nodup := by
  have loop := addStates_return_iff (entries description) { logic with states := .empty }
  have fresh : StateTable.empty.keys = [] := rfl
  simp only [fresh, List.nil_append] at loop
  rw [ReplacedKeys, initializeStateRules_eq, ← loop]
  constructor
  · exact And.left
  · intro returns
    have collected := Program.forEach_collects (fun logic : EcpAmqpLogic => logic.states.entries) addState_states
      _ _ returns
    simp only [StateTable.keys, collected]
    exact ⟨returns, fun key => by simp [StateTable.empty]⟩

/-- What each list of rules is replaced by, and for which texts. -/
theorem rule_lists_replaced_iff :
    (Replaced (initializePriorityList runtime description logic) EcpAmqpLogic.prioritizedQueries
        ((entries description).filterMap (queryPriority runtime)) ↔
      ∀ entry ∈ entries description, ',' ∈ entry.toList ∨ runtime.invalidPattern (pattern entry) ≠ none) ∧
    (Replaced (initializeProtocolRules runtime description logic) EcpAmqpLogic.protocolQueries
        ((entries description).filterMap (queryProtocol runtime)) ↔
      ∀ entry ∈ entries description, ',' ∈ entry.toList ∨ runtime.invalidPattern (pattern entry) ≠ none) ∧
    (ReplacedKeys (initializeStateRules description logic)
        (((entries description).filterMap stateRule).map Prod.fst) ↔
      (∀ entry ∈ entries description, (stateRule entry).isSome) ∧ ((entries description).map pattern).Nodup) :=
  ⟨priorityList_replaced_iff runtime description logic, protocolRules_replaced_iff runtime description logic,
    stateRules_replaced_iff description logic⟩

def anyPattern : Runtime := ⟨fun _ => none, Char.toUpper⟩

def noRules : EcpAmqpLogic := ⟨[], [], .empty, []⟩

theorem entries_trailing : entries (some "A40,High;") = ["A40,High", ""] := by decide

theorem rule_lists_not_always_replaced :
    ¬∀ (runtime : Runtime) (description : Option String) (logic : EcpAmqpLogic),
      Replaced (initializePriorityList runtime description logic) EcpAmqpLogic.prioritizedQueries
          ((entries description).filterMap (queryPriority runtime)) ∧
        Replaced (initializeProtocolRules runtime description logic) EcpAmqpLogic.protocolQueries
          ((entries description).filterMap (queryProtocol runtime)) ∧
        ReplacedKeys (initializeStateRules description logic)
          (((entries description).filterMap stateRule).map Prod.fst) := by
  intro always
  have replaced := (always anyPattern (some "A40,High;") noRules).1
  rw [priorityList_replaced_iff, entries_trailing] at replaced
  have passes := replaced "" (by simp)
  simp [Passes, anyPattern] at passes

end Initialize

end EcpAmqpLogic

end ServiceHost.DataExchange
