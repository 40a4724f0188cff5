import ServiceHost.Data.MessageLogQueryBuilderCore

/-!
The query of the message log read by position. A filter appends its placeholders in the order in
which it has created their parameters, so that the values find their own places, unless the
parameters for two dates have been created and no kind of date is asked for.
-/

namespace ServiceHost.Data

open Library Placeholders

namespace MessageLogQueryBuilder

abbrev QueryPart := Part Char QueryValue

def isNameChar (c : Char) : Bool := c.isAlphanum || c = '_' || c = '$' || c = '#'

section Names

theorem naming : Naming parameterName ':' isNameChar := by
  refine ⟨by decide, fun number => ?_⟩
  have digits : ∀ c ∈ Nat.toDigits 10 number, isNameChar c = true := by
    intro c member
    have isDigit := Nat.isDigit_of_mem_toDigits (by decide) (by decide) member
    simp [isNameChar, Char.isAlphanum, isDigit]
  unfold parameterName
  split
  · refine ⟨'0' :: Nat.toDigits 10 number, rfl, List.cons_ne_nil _ _, fun c member => ?_⟩
    rcases List.mem_cons.mp member with rfl | behind
    · decide
    · exact digits c behind
  · exact ⟨Nat.toDigits 10 number, rfl, Nat.toDigits_ne_nil, digits⟩

theorem parameterName_injective : Function.Injective parameterName := by
  have number (n : Nat) : Nat.ofDigitChars 10 (parameterName n).tail 0 = n := by
    unfold parameterName
    split
    · rw [List.tail_cons, Nat.ofDigitChars_cons]
      exact Nat.ofDigitChars_ten_toDigits
    · exact Nat.ofDigitChars_ten_toDigits
  intro first second same
  rw [← number first, same, number]

theorem decimalText_unmarked (number : Int) : ':' ∉ decimalText number := by
  have digits (n : Nat) : ':' ∉ Nat.toDigits 10 n := by
    intro member
    have isDigit := Nat.isDigit_of_mem_toDigits (by decide) (by decide) member
    revert isDigit
    decide
  cases number with
  | ofNat n => exact digits n
  | negSucc n =>
      rw [decimalText, List.mem_cons, not_or]
      exact ⟨by decide, digits (n + 1)⟩

theorem joined_unmarked (numbers : List Int) : ':' ∉ joined numbers := by
  induction numbers with
  | nil => exact List.not_mem_nil
  | cons number rest ih =>
      cases rest with
      | nil => exact decimalText_unmarked number
      | cons next rest =>
          rw [joined, List.mem_append, List.mem_append, not_or, not_or]
          exact ⟨⟨decimalText_unmarked number, by decide⟩, ih⟩

end Names

section Programs

def numberedParameters : Nat → List QueryValue → List DbParameter
  | _, [] => []
  | number, value :: values => ⟨parameterName number, value⟩ :: numberedParameters (number + 1) values

theorem numberedParameters_append (number : Nat) (front rest : List QueryValue) :
    numberedParameters number (front ++ rest) =
      numberedParameters number front ++ numberedParameters (number + front.length) rest := by
  induction front generalizing number with
  | nil => rfl
  | cons value front ih =>
      rw [List.cons_append, numberedParameters, ih, numberedParameters, List.length_cons, Nat.add_assoc, Nat.add_comm 1]
      rfl

theorem numberedParameters_names (number : Nat) (values : List QueryValue) :
    (numberedParameters number values).map DbParameter.parameterName =
      (List.range' number values.length).map parameterName := by
  induction values generalizing number with
  | nil => rfl
  | cons value values ih =>
      rw [numberedParameters, List.map_cons, ih, List.length_cons, List.range'_succ, List.map_cons]

theorem numberedParameters_values (number : Nat) (values : List QueryValue) :
    (numberedParameters number values).map DbParameter.value = values := by
  induction values generalizing number with
  | nil => rfl
  | cons value values ih => rw [numberedParameters, List.map_cons, ih]

def withParts (query : Query) (parts : List QueryPart) : Query :=
  { query with
    «where» := query.«where» ++ written parameterName (query.sqlParameters.length + 1) parts
    sqlParameters := query.sqlParameters ++ numberedParameters (query.sqlParameters.length + 1) (valuesOf parts) }

theorem length_numberedParameters (number : Nat) (values : List QueryValue) :
    (numberedParameters number values).length = values.length := by
  rw [← List.length_map DbParameter.value, numberedParameters_values]

theorem withParts_append (query : Query) (front rest : List QueryPart) :
    withParts query (front ++ rest) = withParts (withParts query front) rest := by
  have length : (query.sqlParameters ++ numberedParameters (query.sqlParameters.length + 1) (valuesOf front)).length + 1 =
      query.sqlParameters.length + 1 + (valuesOf front).length := by
    rw [List.length_append, length_numberedParameters]
    omega
  rw [withParts, written_append, valuesOf_append, numberedParameters_append]
  unfold withParts
  dsimp only
  rw [length, List.append_assoc, List.append_assoc]

structure Appends (program : Program Query SystemException Unit) (parts : List QueryPart) : Prop where
  run : ∀ query, program query = (.ok (), withParts query parts)
  clause : Clause ':' isNameChar parts

variable {program next : Program Query SystemException Unit} {own more : List QueryPart}

theorem appends_nothing : Appends (pure ()) [] := by
  refine ⟨fun query => ?_, Clause.nil⟩
  rw [Program.pure_run, withParts, written, valuesOf, numberedParameters, List.append_nil, List.append_nil]

theorem Appends.andThen (first : Appends program own) (second : Appends next more) :
    Appends (do program; next) (own ++ more) := by
  refine ⟨fun query => ?_, first.clause.append second.clause⟩
  rw [Program.bind_of_ok (first.run query), second.run, withParts_append]

theorem createParameters_run (values : List QueryValue) (query : Query) :
    createParameters values query = (.ok (numberedParameters (query.sqlParameters.length + 1) values),
      { query with
        sqlParameters := query.sqlParameters ++ numberedParameters (query.sqlParameters.length + 1) values }) := by
  induction values generalizing query with
  | nil =>
      rw [createParameters, Program.pure_run, numberedParameters, List.append_nil]
  | cons value values ih =>
      let created : Query :=
        { query with
          sqlParameters := query.sqlParameters ++ [⟨parameterName (query.sqlParameters.length + 1), value⟩] }
      have first : createParameter value query =
          (.ok ⟨parameterName (query.sqlParameters.length + 1), value⟩, created) := rfl
      have length : created.sqlParameters.length = query.sqlParameters.length + 1 := List.length_append
      rw [createParameters, Program.bind_of_ok first, Program.bind_of_ok (ih created), Program.pure_run, length,
        numberedParameters]
      show (_, { query with sqlParameters := query.sqlParameters ++ [_] ++ _ }) = _
      rw [List.append_assoc]
      rfl

def comparisons (value : QueryValue) (texts : List String) (closing : String) : List QueryPart :=
  texts.flatMap (fun text => [.text (sql text), .value value]) ++ [.text (sql closing)]

theorem written_comparisons (number : Nat) (value : QueryValue) (texts : List String) (closing : String) :
    written parameterName number (comparisons value texts closing) =
      comparisonText (texts.zip (numberedParameters number (texts.map fun _ => value))) ++ sql closing := by
  induction texts generalizing number with
  | nil => exact List.append_nil _
  | cons text texts ih =>
      have behind := ih (number + 1)
      rw [List.map_cons, numberedParameters, List.zip_cons_cons, comparisonText, List.append_assoc, List.append_assoc,
        ← behind]
      rfl

theorem valuesOf_comparisons (value : QueryValue) (texts : List String) (closing : String) :
    valuesOf (comparisons value texts closing) = texts.map fun _ => value := by
  induction texts with
  | nil => rfl
  | cons text texts ih => exact congrArg (value :: ·) ih

def Plain (text : String) : Bool :=
  (sql text).all (fun c => c != ':') && (sql text).head?.all fun c => !isNameChar c

theorem unmarked_of_plain {text : String} (plain : Plain text = true) : ':' ∉ sql text := by
  intro member
  rw [Plain, Bool.and_eq_true] at plain
  have other := List.all_eq_true.mp plain.1 ':' member
  exact absurd other (by decide)

theorem head_of_plain {text : String} (plain : Plain text = true) {c : Char} (first : (sql text).head? = some c) :
    isNameChar c = false := by
  rw [Plain, Bool.and_eq_true, first] at plain
  exact Bool.not_eq_true' _ ▸ plain.2

theorem unmarked_ofList {characters : List Char} (unmarked : (characters.all fun c => c != ':') = true) :
    ':' ∉ sql (String.ofList characters) := by
  rw [sql, String.toList_ofList]
  intro member
  have other := List.all_eq_true.mp unmarked ':' member
  exact absurd other (by decide)

theorem plain_ofList {characters : List Char}
    (plain : ((characters.all fun c => c != ':') && characters.head?.all fun c => !isNameChar c) = true) :
    Plain (String.ofList characters) = true := by
  rw [Plain, sql, String.toList_ofList]
  exact plain

theorem plain_append {c : Char} {characters : List Char} {second : String}
    (plain : (((c :: characters).all fun c => c != ':') && !isNameChar c) = true) (behind : ':' ∉ sql second) :
    Plain (String.ofList (c :: characters) ++ second) = true := by
  rw [Bool.and_eq_true] at plain
  have others : (sql second).all (fun c => c != ':') = true := by
    rw [List.all_eq_true]
    intro other member
    rw [bne_iff_ne]
    rintro rfl
    exact behind member
  rw [Plain, sql, String.toList_append, String.toList_ofList, List.all_append, plain.1, ← sql, others]
  exact plain.2

theorem clause_text {text : String} {rest : List QueryPart} (plain : Plain text = true)
    (clause : Clause ':' isNameChar rest) : Clause ':' isNameChar (.text (sql text) :: rest) := by
  refine ⟨⟨unmarked_of_plain plain, clause.apart⟩, fun c first => ?_⟩
  cases characters : sql text with
  | nil =>
      rw [characters] at first
      exact clause.first c first
  | cons other characters' =>
      rw [characters] at first
      have same : other = c := Option.some.inj first
      exact head_of_plain plain (by rw [characters, ← same]; rfl)

theorem clause_comparisons {value : QueryValue} {texts : List String} {closing : String}
    (plain : (closing :: texts).all Plain = true) : Clause ':' isNameChar (comparisons value texts closing) := by
  rw [List.all_cons, Bool.and_eq_true] at plain
  obtain ⟨last, each⟩ := plain
  induction texts with
  | nil => exact clause_text last Clause.nil
  | cons text texts ih =>
      rw [List.all_cons, Bool.and_eq_true] at each
      have behind := ih each.2
      exact clause_text each.1 ⟨⟨behind.first, behind.apart⟩, fun _ first => nomatch first⟩

def Filter.parts (filter : Filter) : List QueryPart :=
  match filter.value with
  | none => []
  | some value => comparisons value filter.texts filter.closing

theorem appends_filter {filter : Filter} (plain : (filter.closing :: filter.texts).all Plain = true) :
    Appends filter.apply filter.parts := by
  unfold Filter.apply Filter.parts
  cases filter.value with
  | none => exact appends_nothing
  | some value =>
      refine ⟨fun query => ?_, clause_comparisons plain⟩
      dsimp only
      rw [Program.bind_of_ok (createParameters_run _ query), withParts, written_comparisons, valuesOf_comparisons]
      rfl

theorem appends_forEach {filters : List Filter}
    (plain : ∀ filter ∈ filters, (filter.closing :: filter.texts).all Plain = true) :
    Appends (Program.forEach Filter.apply filters) (filters.flatMap Filter.parts) := by
  induction filters with
  | nil => exact appends_nothing
  | cons filter filters ih =>
      exact (appends_filter (plain filter List.mem_cons_self)).andThen
        (ih fun other member => plain other (List.mem_cons_of_mem filter member))

end Programs

section Statement

variable (culture : QueryCulture) (parameters : MessageLogQueryParameters)

theorem laterFilters_plain : ∀ filter ∈ laterFilters culture parameters, (filter.closing :: filter.texts).all Plain = true := by
  intro filter member
  simp only [laterFilters, List.mem_cons, List.not_mem_nil, or_false] at member
  rcases member with rfl | rfl | rfl | rfl | rfl | rfl | rfl | rfl | rfl | rfl | rfl | rfl | rfl | rfl
  all_goals
    dsimp only [measurePointFilter, messageReferenceFilter, transactionReferenceFilter, componentCodeFilter,
      productCodeFilter, actorTypeFilter, actorNameFilter, senderNameFilter, receiverNameFilter,
      exchangeMethodNameFilter, routingAddressFilter, externalReferenceFilter, fileNameFilter, globalReferenceFilter]
    simp only [List.all_cons, List.all_nil, Bool.and_true, Bool.and_eq_true]
    and_intros
    all_goals first
      | with_reducible refine plain_append ?_ (unmarked_ofList ?_)
      | with_reducible refine plain_ofList ?_
    all_goals rfl

def NoKindOfDate : Prop :=
  parameters.startTime ≠ DateTime.minValue ∧
    ¬(parameters.createdDate = true ∨ parameters.transferDate = true ∨ parameters.transactionPeriod = true)

def dateParts : List QueryPart :=
  let start : QueryValue := .dateTime parameters.startTime
  let endOfDay : QueryValue := .dateTime ⟨parameters.endTime.ticks + Utc.day⟩
  if parameters.startTime = DateTime.minValue then []
  else if parameters.createdDate then
    [.text (sql " and mh.date_created >= "), .value start, .text (sql " and mh.date_created <= "), .value endOfDay]
  else if parameters.transferDate then
    [.text (sql " and ((mh.direct = 0 and mh.transfer_date >= "), .value start,
      .text (sql " and mh.transfer_date <= "), .value endOfDay, .text (sql ")"), .text (sql " or "),
      .text (sql " (mh.direct = 1 and nvl(mh.transfer_date, mh.date_created) >= "), .value start,
      .text (sql " and nvl(mh.transfer_date, mh.date_created) <= "), .value endOfDay, .text (sql "))")]
  else if parameters.transactionPeriod then
    [.text (sql " and (mh.end_date > "), .value start, .text (sql " and mh.start_date < "), .value endOfDay, .text (sql ")")]
  else []

theorem dateParts_clause : Clause ':' isNameChar (dateParts parameters) := by
  have value {bound : QueryValue} {rest : List QueryPart} (behind : Clause ':' isNameChar rest) :
      Clause ':' isNameChar (.value bound :: rest) := ⟨⟨behind.first, behind.apart⟩, fun _ first => nomatch first⟩
  unfold dateParts
  dsimp only
  split
  · exact Clause.nil
  · split
    · exact clause_text (plain_ofList rfl) (value (clause_text (plain_ofList rfl) (value Clause.nil)))
    · split
      · refine clause_text (plain_ofList rfl) (value (clause_text (plain_ofList rfl) (value ?_)))
        refine clause_text (plain_ofList rfl) (clause_text (plain_ofList rfl) (clause_text (plain_ofList rfl) ?_))
        exact value (clause_text (plain_ofList rfl) (value (clause_text (plain_ofList rfl) Clause.nil)))
      · split
        · refine clause_text (plain_ofList rfl) (value (clause_text (plain_ofList rfl) (value ?_)))
          exact clause_text (plain_ofList rfl) Clause.nil
        · exact Clause.nil

section Dates

variable {parameters}

theorem addFullDay_ok {next : DateTime} (added : addFullDay parameters.endTime = .ok next) :
    next = ⟨parameters.endTime.ticks + Utc.day⟩ := by
  unfold addFullDay DateTime.ofTicks at added
  split at added
  · exact (Except.ok.inj added).symm
  · cases added

def withParameter (query : Query) (value : QueryValue) : Query :=
  { query with sqlParameters := query.sqlParameters ++ [⟨parameterName (query.sqlParameters.length + 1), value⟩] }

theorem createParameter_run (query : Query) (value : QueryValue) : createParameter value query =
    (.ok ⟨parameterName (query.sqlParameters.length + 1), value⟩, withParameter query value) := rfl

theorem length_withParameter (query : Query) (value : QueryValue) :
    (withParameter query value).sqlParameters.length = query.sqlParameters.length + 1 := List.length_append

theorem dateFilter_open (started : parameters.startTime ≠ DateTime.minValue) {next : DateTime}
    (added : addFullDay parameters.endTime = .ok next) (query : Query) :
    dateFilter parameters query =
      let start_param : DbParameter := ⟨parameterName (query.sqlParameters.length + 1), .dateTime parameters.startTime⟩
      let end_param : DbParameter := ⟨parameterName (query.sqlParameters.length + 1 + 1), .dateTime next⟩
      let query := withParameter (withParameter query (.dateTime parameters.startTime)) (.dateTime next)
      if parameters.createdDate then
        (.ok (), append (append query (sql " and mh.date_created >= " ++ start_param.parameterName))
          (sql " and mh.date_created <= " ++ end_param.parameterName))
      else if parameters.transferDate then
        let start_param2 : DbParameter :=
          ⟨parameterName (query.sqlParameters.length + 1), .dateTime parameters.startTime⟩
        let end_param2 : DbParameter := ⟨parameterName (query.sqlParameters.length + 1 + 1), .dateTime next⟩
        let query := withParameter (withParameter query (.dateTime parameters.startTime)) (.dateTime next)
        let query := append query (sql " and ((mh.direct = 0 and mh.transfer_date >= " ++ start_param.parameterName)
        let query := append query (sql " and mh.transfer_date <= " ++ end_param.parameterName ++ sql ")")
        let query := append query (sql " or ")
        let query := append query (sql " (mh.direct = 1 and nvl(mh.transfer_date, mh.date_created) >= " ++
          start_param2.parameterName)
        (.ok (), append query (sql " and nvl(mh.transfer_date, mh.date_created) <= " ++ end_param2.parameterName ++
          sql "))"))
      else if parameters.transactionPeriod then
        (.ok (), append query (sql " and (mh.end_date > " ++ start_param.parameterName ++ sql " and mh.start_date < " ++
          end_param.parameterName ++ sql ")"))
      else (.ok (), query) := by
  have day (query : Query) : (Program.ofExcept (addFullDay parameters.endTime) : Program Query SystemException DateTime)
      query = (.ok next, query) := by rw [Program.ofExcept_run, added]
  unfold dateFilter
  rw [if_pos started, Program.bind_of_ok (createParameter_run _ _), Program.bind_of_ok (day _),
    Program.bind_of_ok (createParameter_run _ _), length_withParameter]
  dsimp only
  split
  · rfl
  · split
    · rw [Program.bind_of_ok (createParameter_run _ _), Program.bind_of_ok (day _),
        Program.bind_of_ok (createParameter_run _ _)]
      simp only [length_withParameter]
      rfl
    · split <;> rfl

theorem dateFilter_run (known : ¬NoKindOfDate parameters) {query : Query}
    (returns : parameters.startTime = DateTime.minValue ∨ ∃ next, addFullDay parameters.endTime = .ok next) :
    dateFilter parameters query = (.ok (), withParts query (dateParts parameters)) := by
  by_cases started : parameters.startTime = DateTime.minValue
  · unfold dateFilter dateParts
    dsimp only
    rw [if_neg (not_not.mpr started), if_pos started]
    exact appends_nothing.run query
  · obtain ⟨next, added⟩ := returns.resolve_left started
    obtain rfl := addFullDay_ok added
    have kind : parameters.createdDate = true ∨ parameters.transferDate = true ∨ parameters.transactionPeriod = true := by
      by_contra none
      exact known ⟨started, none⟩
    rw [dateFilter_open started added]
    unfold dateParts
    dsimp only
    rw [if_neg started]
    split
    · simp only [withParts, withParameter, append, written, valuesOf, numberedParameters, List.append_assoc,
        List.append_nil, List.length_append, List.length_singleton, List.singleton_append]
    · split
      · simp only [withParts, withParameter, append, written, valuesOf, numberedParameters, List.append_assoc,
          List.append_nil, List.length_append, List.length_singleton, List.singleton_append]
        rfl
      · rename_i notCreated notTransfer
        have period : parameters.transactionPeriod = true :=
          (kind.resolve_left notCreated).resolve_left notTransfer
        rw [if_pos period, if_pos period]
        simp only [withParts, withParameter, append, written, valuesOf, numberedParameters, List.append_assoc,
          List.append_nil, List.length_append, List.length_singleton, List.singleton_append]

end Dates

structure Unbound (query : Query) : Prop where
  select : ':' ∉ query.select
  «from» : ':' ∉ query.«from»
  «where» : ':' ∉ query.«where»
  parameters : query.sqlParameters = []

theorem notMem_append {front rest : SqlText} (first : ':' ∉ front) (behind : ':' ∉ rest) : ':' ∉ front ++ rest := by
  rw [List.mem_append, not_or]
  exact ⟨first, behind⟩

theorem Unbound.append {query : Query} (unbound : Unbound query) {text : SqlText} (plain : ':' ∉ text) :
    Unbound (MessageLogQueryBuilder.append query text) :=
  ⟨unbound.select, unbound.«from», notMem_append unbound.«where» plain, unbound.parameters⟩

theorem Unbound.numberFilter {query : Query} (unbound : Unbound query) {condition : String}
    (plain : ':' ∉ sql condition) (numbers : List Int) :
    Unbound (MessageLogQueryBuilder.numberFilter condition numbers query) := by
  unfold MessageLogQueryBuilder.numberFilter
  split
  · exact unbound.append (notMem_append (notMem_append plain (joined_unmarked numbers)) (by decide))
  · exact unbound

theorem conditions_unbound (parameters : MessageLogQueryParameters) (fetchTransactions : Bool) :
    Unbound (conditions parameters fetchTransactions) := by
  have select : ':' ∉ selectText := by
    simp only [selectText, sql, String.toList_append, List.mem_append, not_or]
    and_intros
    all_goals exact unmarked_ofList rfl
  have «from» : ':' ∉ fromText := by
    simp only [fromText, sql, String.toList_append, List.mem_append, not_or]
    exact ⟨unmarked_ofList rfl, unmarked_ofList rfl⟩
  have «where» : ':' ∉ whereText := by
    simp only [whereText, sql, String.toList_append, List.mem_append, not_or]
    and_intros
    all_goals exact unmarked_ofList rfl
  have start : Unbound ⟨selectText, fromText, whereText, false, []⟩ := by
    constructor <;> dsimp only
    · exact select
    · exact «from»
    · exact «where»
  have details : ∀ {query}, Unbound query → Unbound (fetchDetails fetchTransactions query) := by
    intro query unbound
    unfold fetchDetails
    split
    · exact ⟨notMem_append unbound.select (unmarked_ofList rfl), notMem_append unbound.«from» (unmarked_ofList rfl),
        notMem_append unbound.«where» (unmarked_ofList rfl), unbound.parameters⟩
    · exact unbound
  have direction : ∀ {query}, Unbound query → Unbound (directionFilter parameters query) := by
    intro query unbound
    unfold directionFilter
    split
    · exact unbound.append (unmarked_ofList rfl)
    · split
      · exact unbound.append (unmarked_ofList rfl)
      · split
        · exact unbound.append (unmarked_ofList rfl)
        · exact unbound
  have ack : ∀ {query}, Unbound query → Unbound (ackFilter parameters query) := by
    intro query unbound
    unfold ackFilter
    split
    · exact unbound.append (notMem_append (notMem_append (unmarked_ofList rfl) (joined_unmarked excludedAckFiles))
        (unmarked_ofList rfl))
    · exact unbound
  have handled : ∀ {query}, Unbound query → Unbound (handledFilter parameters query) := by
    intro query unbound
    unfold handledFilter
    split
    · exact unbound.append (unmarked_ofList rfl)
    · exact unbound
  have joins : ∀ {query}, Unbound query → Unbound (joinDetails parameters fetchTransactions query) := by
    intro query unbound
    unfold joinDetails
    split
    · dsimp only
      split
      · exact ⟨unbound.select, notMem_append unbound.«from» (unmarked_ofList rfl),
          notMem_append unbound.«where» (unmarked_ofList rfl), unbound.parameters⟩
      · exact ⟨unbound.select, unbound.«from», unbound.«where», unbound.parameters⟩
    · exact unbound
  exact (((joins (handled (ack (direction (details start))))).numberFilter (unmarked_ofList rfl) _).numberFilter
    (unmarked_ofList rfl) _).numberFilter (unmarked_ofList rfl) _

section Bound

def statementParts (fetchTransactions : Bool) : List QueryPart :=
  let query := conditions parameters fetchTransactions
  let select := if query.distinctRequired then query.select.take 7 ++ sql "distinct " ++ query.select.drop 7 else query.select
  .text (select ++ sql " " ++ query.«from» ++ sql " " ++ query.«where») ::
    (dateParts parameters ++ (laterFilters culture parameters).flatMap Filter.parts ++ [.text (sql " order by sort_date desc")])

structure BindsOwn (fetchTransactions : Bool) (text : SqlText) (parameters' : List DbParameter) : Prop where
  placeholders : placeholders ':' isNameChar text = parameters'.map DbParameter.parameterName
  once : (parameters'.map DbParameter.parameterName).Nodup
  own : bindByPosition ':' isNameChar text (parameters'.map DbParameter.value) =
    some (spelled (statementParts culture parameters fetchTransactions))

theorem laterFilters_appends : Appends (Program.forEach Filter.apply (laterFilters culture parameters))
    ((laterFilters culture parameters).flatMap Filter.parts) :=
  appends_forEach (laterFilters_plain culture parameters)

theorem dateFilter_error (started : parameters.startTime ≠ DateTime.minValue) {exception : SystemException}
    (overflow : addFullDay parameters.endTime = .error exception) (query : Query) :
    (filters culture parameters query).1 = .error exception := by
  have failed : dateFilter parameters query =
      (.error exception, withParameter query (.dateTime parameters.startTime)) := by
    unfold dateFilter
    rw [if_pos started, Program.bind_of_ok (createParameter_run _ _)]
    exact Program.bind_of_error (by rw [Program.ofExcept_run, overflow])
  rw [filters, Program.bind_of_error failed]

theorem dateParts_unknown (unknown : NoKindOfDate parameters) : dateParts parameters = [] := by
  obtain ⟨started, none⟩ := unknown
  rw [not_or, not_or] at none
  unfold dateParts
  dsimp only
  rw [if_neg started, if_neg none.1, if_neg none.2.1, if_neg none.2.2]

theorem filters_unknown (unknown : NoKindOfDate parameters) {next : DateTime}
    (added : addFullDay parameters.endTime = .ok next) (query : Query) :
    filters culture parameters query = (.ok (),
      withParts (withParameter (withParameter query (.dateTime parameters.startTime)) (.dateTime next))
        (dateParts parameters ++ (laterFilters culture parameters).flatMap Filter.parts)) := by
  obtain ⟨started, none⟩ := unknown
  rw [not_or, not_or] at none
  have dates : dateFilter parameters query = (.ok (),
      withParameter (withParameter query (.dateTime parameters.startTime)) (.dateTime next)) := by
    rw [dateFilter_open started added]
    dsimp only
    rw [if_neg none.1, if_neg none.2.1, if_neg none.2.2]
  rw [filters, Program.bind_of_ok dates, (laterFilters_appends culture parameters).run,
    dateParts_unknown parameters ⟨started, by rw [not_or, not_or]; exact none⟩, List.nil_append]

theorem filters_run (known : ¬NoKindOfDate parameters) (query : Query)
    (returns : parameters.startTime = DateTime.minValue ∨ ∃ next, addFullDay parameters.endTime = .ok next) :
    filters culture parameters query =
      (.ok (), withParts query (dateParts parameters ++ (laterFilters culture parameters).flatMap Filter.parts)) := by
  rw [filters, Program.bind_of_ok (dateFilter_run known returns), (laterFilters_appends culture parameters).run,
    withParts_append]

theorem statementText_withParts (fetchTransactions : Bool) (earlier : List DbParameter) :
    statementText (withParts { conditions parameters fetchTransactions with sqlParameters := earlier }
      (dateParts parameters ++ (laterFilters culture parameters).flatMap Filter.parts)) =
        written parameterName (earlier.length + 1) (statementParts culture parameters fetchTransactions) := by
  unfold statementText withParts statementParts
  simp only [written, written_append, List.append_assoc, List.append_nil]

theorem statementParts_clause (fetchTransactions : Bool) :
    Apart ':' isNameChar (statementParts culture parameters fetchTransactions) := by
  have unbound := conditions_unbound parameters fetchTransactions
  refine ⟨?_, ?_⟩
  · have select : ':' ∉ (if (conditions parameters fetchTransactions).distinctRequired then
        (conditions parameters fetchTransactions).select.take 7 ++ sql "distinct " ++
          (conditions parameters fetchTransactions).select.drop 7
        else (conditions parameters fetchTransactions).select) := by
      split
      · refine notMem_append (notMem_append ?_ (unmarked_ofList rfl)) ?_
        · exact fun member => unbound.select (List.mem_of_mem_take member)
        · exact fun member => unbound.select (List.mem_of_mem_drop member)
      · exact unbound.select
    exact notMem_append (notMem_append (notMem_append (notMem_append select (unmarked_ofList rfl)) unbound.«from»)
      (unmarked_ofList rfl)) unbound.«where»
  · exact (((dateParts_clause parameters).append (laterFilters_appends culture parameters).clause).append
      (clause_text (plain_ofList rfl) Clause.nil)).apart

theorem valuesOf_statementParts (fetchTransactions : Bool) : valuesOf (statementParts culture parameters fetchTransactions) =
    valuesOf (dateParts parameters ++ (laterFilters culture parameters).flatMap Filter.parts) := by
  rw [statementParts, valuesOf, valuesOf_append (dateParts parameters ++ _)]
  exact List.append_nil _

theorem bindsOwn_numbered (fetchTransactions : Bool) :
    BindsOwn culture parameters fetchTransactions
      (written parameterName 1 (statementParts culture parameters fetchTransactions))
      (numberedParameters 1 (valuesOf (statementParts culture parameters fetchTransactions))) := by
  refine ⟨?_, ?_, ?_⟩
  · rw [placeholders_written naming (statementParts_clause culture parameters fetchTransactions),
      numberedParameters_names]
  · rw [numberedParameters_names]
    exact List.Nodup.map parameterName_injective List.nodup_range'
  · rw [numberedParameters_values]
    exact bindByPosition_written naming (statementParts_clause culture parameters fetchTransactions) 1

variable (fetchTransactions : Bool) (builder : MessageLogQueryBuilder)

theorem sqlStatement_known (known : ¬NoKindOfDate parameters)
    (returns : parameters.startTime = DateTime.minValue ∨ ∃ next, addFullDay parameters.endTime = .ok next) :
    sqlStatement culture { builder with parameters := some parameters, fetchTransactions := fetchTransactions } =
      (.ok (some (written parameterName 1 (statementParts culture parameters fetchTransactions))),
        ⟨some parameters, numberedParameters 1 (valuesOf (statementParts culture parameters fetchTransactions)),
          fetchTransactions⟩) := by
  have none := (conditions_unbound parameters fetchTransactions).parameters
  have text := statementText_withParts culture parameters fetchTransactions []
  rw [← none] at text
  unfold sqlStatement
  dsimp only
  rw [filters_run culture parameters known _ returns]
  dsimp only
  rw [text, none, valuesOf_statementParts, withParts, none]
  rfl

theorem sqlStatement_unknown (unknown : NoKindOfDate parameters) {next : DateTime}
    (added : addFullDay parameters.endTime = .ok next) : ∃ text later,
    sqlStatement culture { builder with parameters := some parameters, fetchTransactions := fetchTransactions } =
      (.ok (some text), later) ∧
      (placeholders ':' isNameChar text).length + 2 = later.sqlParameters.length := by
  have none := (conditions_unbound parameters fetchTransactions).parameters
  let query := conditions parameters fetchTransactions
  let created := withParameter (withParameter query (.dateTime parameters.startTime)) (.dateTime next)
  have text := statementText_withParts culture parameters fetchTransactions created.sqlParameters
  have count : created.sqlParameters.length = 2 := by
    rw [length_withParameter, length_withParameter, none]
    rfl
  refine ⟨_, _, by
    unfold sqlStatement
    dsimp only
    rw [filters_unknown culture parameters unknown added]
    rfl, ?_⟩
  have length : (withParts created (dateParts parameters ++ (laterFilters culture parameters).flatMap Filter.parts)).sqlParameters.length =
      2 + (valuesOf (statementParts culture parameters fetchTransactions)).length := by
    rw [valuesOf_statementParts, withParts]
    dsimp only
    rw [List.length_append, length_numberedParameters, count]
  rw [length]
  have same : statementText (withParts created (dateParts parameters ++ (laterFilters culture parameters).flatMap Filter.parts)) =
      written parameterName (created.sqlParameters.length + 1) (statementParts culture parameters fetchTransactions) := text
  rw [same, placeholders_written naming (statementParts_clause culture parameters fetchTransactions), List.length_map,
    List.length_range', Nat.add_comm]

theorem sqlStatement_error (started : parameters.startTime ≠ DateTime.minValue) {exception : SystemException}
    (overflow : addFullDay parameters.endTime = .error exception) :
    (sqlStatement culture { builder with parameters := some parameters, fetchTransactions := fetchTransactions }).1 =
      .error exception := by
  have failed := dateFilter_error culture parameters started overflow (conditions parameters fetchTransactions)
  unfold sqlStatement
  dsimp only
  rw [failed]
  rfl

theorem length_of_bindsOwn {text : SqlText} {bound : List DbParameter}
    (own : BindsOwn culture parameters fetchTransactions text bound) :
    (placeholders ':' isNameChar text).length = bound.length := by
  rw [own.placeholders, List.length_map]

structure BindsAlways (uses : List (Option MessageLogQueryParameters × Bool)) : Prop where
  statement : ∀ text later, sqlStatement culture
    { uses.foldl (use culture) new with parameters := some parameters, fetchTransactions := fetchTransactions } =
      (.ok (some text), later) → BindsOwn culture parameters fetchTransactions text later.sqlParameters
  messageHeaders : ∀ text bound, messageHeadersCommand culture parameters = .ok (some text, bound) →
    BindsOwn culture parameters true text bound

/-- The statement is bound to its own values unless there is a start time, no kind of date is asked for and the
day behind the end is a date. -/
theorem bindsAlways_iff (uses : List (Option MessageLogQueryParameters × Bool)) :
    BindsAlways culture parameters fetchTransactions uses ↔
      ¬NoKindOfDate parameters ∨ ∀ next, addFullDay parameters.endTime ≠ .ok next := by
  let builder := uses.foldl (use culture) new
  constructor
  · intro always
    by_contra neither
    rw [not_or, not_not, not_forall] at neither
    obtain ⟨unknown, next, added⟩ := neither
    obtain ⟨text, later, ran, count⟩ :=
      sqlStatement_unknown culture parameters fetchTransactions builder unknown (not_not.mp added)
    have length := length_of_bindsOwn _ _ _ (always.statement text later ran)
    omega
  · intro condition
    have own (fetch : Bool) (builder : MessageLogQueryBuilder) (text : SqlText) (later : MessageLogQueryBuilder)
        (ran : sqlStatement culture { builder with parameters := some parameters, fetchTransactions := fetch } =
          (.ok (some text), later)) : BindsOwn culture parameters fetch text later.sqlParameters := by
      have returns : parameters.startTime = DateTime.minValue ∨ ∃ next, addFullDay parameters.endTime = .ok next := by
        by_cases started : parameters.startTime = DateTime.minValue
        · exact .inl started
        · cases added : addFullDay parameters.endTime with
          | ok next => exact .inr ⟨next, rfl⟩
          | error exception =>
              have failed := sqlStatement_error culture parameters fetch builder started added
              rw [ran] at failed
              cases failed
      have known : ¬NoKindOfDate parameters := by
        rcases condition with known | never
        · exact known
        · intro unknown
          obtain ⟨next, added⟩ := returns.resolve_left unknown.1
          exact never next added
      rw [sqlStatement_known culture parameters fetch builder known returns] at ran
      obtain ⟨sameText, sameLater⟩ := Prod.mk.inj ran
      rw [← Option.some.inj (Except.ok.inj sameText), ← sameLater]
      exact bindsOwn_numbered culture parameters fetch
    refine ⟨own fetchTransactions builder, fun text bound command => ?_⟩
    unfold messageHeadersCommand at command
    dsimp only at command
    obtain ⟨found, answered, same⟩ := map_eq_ok_iff.mp command
    obtain ⟨rfl, rfl⟩ := Prod.mk.inj same
    exact own true new text _ (Prod.ext answered rfl)

end Bound

end Statement

section Unasked

def anyDate : MessageLogQueryParameters where
  «import» := true
  «export» := true
  startTime := ⟨638396640000000000⟩
  endTime := ⟨638402688000000000⟩
  createdDate := false
  transactionPeriod := false
  transferDate := false
  measurePointName := none
  messageReference := some "R1"
  transactionReference := none
  senderName := none
  receiverName := none
  componentCode := none
  productCode := none
  exchangeMethodName := none
  actorType := -1
  actorName := none
  includeAck := true
  includeHandled := true
  routingAddress := none
  externalReference := none
  fileName := none
  globalReference := none
  transactionStatus := []
  protocolType := []
  messageStatus := []

def asciiCulture : QueryCulture := ⟨String.toUpper, fun text => text.toList.getLast? = some '%'⟩

/-- The one placeholder of this statement is the third parameter. -/
theorem anyDate_binds_start : ¬BindsAlways asciiCulture anyDate true [] := by
  intro always
  have unknown : NoKindOfDate anyDate := ⟨by decide, by decide⟩
  obtain ⟨text, later, ran, count⟩ := sqlStatement_unknown asciiCulture anyDate true new unknown
    (show addFullDay anyDate.endTime = .ok ⟨638403552000000000⟩ by decide)
  have length := length_of_bindsOwn _ _ _ (always.statement text later ran)
  omega

end Unasked

end MessageLogQueryBuilder

end ServiceHost.Data
