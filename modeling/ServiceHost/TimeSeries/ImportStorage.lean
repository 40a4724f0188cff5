import ServiceHost.TimeSeries.ImportConservation
import ServiceHost.TimeSeries.ImportStorageCore
import Mathlib.Data.List.TakeWhile

/-!
The statuses of an import that is stored in transactions which may be tried again. Each
fragment is stored in the transaction of one age. What an attempt adds to the statuses
is never taken back, so every point has one status exactly when no attempt that was
rolled back had stored anything.
-/

namespace ServiceHost

open Library

namespace TimeSeriesInfo

theorem removeDoubleSlashes_cons (rest : List Char) :
    removeDoubleSlashes ('/' :: rest) =
      if (removeDoubleSlashes rest).head? = some '/' then removeDoubleSlashes rest
      else '/' :: removeDoubleSlashes rest := by
  simp [removeDoubleSlashes]

theorem removeDoubleSlashes_head (name : List Char) : (removeDoubleSlashes name).head? = name.head? := by
  cases name with
  | nil => rfl
  | cons c rest =>
      simp only [removeDoubleSlashes]
      split
      · rename_i double
        rw [double.2, double.1]
        rfl
      · rfl

theorem removeDoubleSlashes_idem (name : List Char) :
    removeDoubleSlashes (removeDoubleSlashes name) = removeDoubleSlashes name := by
  induction name with
  | nil => rfl
  | cons c rest ih =>
      simp only [removeDoubleSlashes]
      split
      · exact ih
      · rename_i single
        rw [removeDoubleSlashes]
        simp only [ih]
        rw [if_neg single]

theorem withLeadingSlash_head (name : List Char) : (withLeadingSlash name).head? = some '/' := by
  unfold withLeadingSlash
  split
  · assumption
  · rfl

theorem exists_lastSlash {name : List Char} (slash : '/' ∈ name) :
    ∃ filename tscode, name = filename ++ '/' :: tscode ∧
      (name.reverse.takeWhile fun c => c ≠ '/').reverse = tscode ∧
      name.take (name.length - tscode.length - 1) = filename := by
  have split := List.takeWhile_append_dropWhile (p := fun c => decide (c ≠ '/')) (l := name.reverse)
  have found : '/' ∈ name.reverse := List.mem_reverse.mpr slash
  cases rest : name.reverse.dropWhile fun c => decide (c ≠ '/') with
  | nil =>
      have all := List.dropWhile_eq_nil_iff.mp rest '/' found
      simp at all
  | cons c before =>
      have last : c = '/' := by
        have inside : name.reverse.dropWhile (fun c => decide (c ≠ '/')) ≠ [] := by
          rw [rest]
          exact List.cons_ne_nil _ _
        have head := List.head_dropWhile_not (fun c => decide (c ≠ '/')) inside
        simp only [rest, List.head_cons] at head
        simpa using head
      subst last
      rw [rest] at split
      have whole : name = before.reverse ++ '/' :: (name.reverse.takeWhile fun c => decide (c ≠ '/')).reverse := by
        have reversed := congrArg List.reverse split
        rw [List.reverse_reverse, List.reverse_append, List.reverse_cons, List.append_assoc] at reversed
        exact reversed.symm
      refine ⟨before.reverse, _, whole, rfl, ?_⟩
      generalize (name.reverse.takeWhile fun c => decide (c ≠ '/')).reverse = tscode at whole
      subst whole
      have length : (before.reverse ++ '/' :: tscode).length - tscode.length - 1 = before.reverse.length := by
        simp only [List.length_append, List.length_cons]
        omega
      rw [length, List.take_left]

theorem fullName_ofFullName (info : TimeSeriesInfo) : (ofFullName info.fullName).fullName = info.fullName := by
  have first : (removeDoubleSlashes (withLeadingSlash info.filename ++ '/' :: info.tscode)).head? = some '/' := by
    rw [removeDoubleSlashes_head, List.head?_append, withLeadingSlash_head]
    rfl
  have once := removeDoubleSlashes_idem (withLeadingSlash info.filename ++ '/' :: info.tscode)
  unfold ofFullName
  simp only [fullName, String.toList_ofList]
  generalize removeDoubleSlashes (withLeadingSlash info.filename ++ '/' :: info.tscode) = name at first once ⊢
  have led : withLeadingSlash name = name := if_pos first
  obtain ⟨filename, tscode, whole, code, file⟩ := exists_lastSlash (List.mem_of_mem_head? first)
  rw [led, once, code, file]
  congr 1
  cases filename with
  | nil =>
      rw [whole]
      simp only [List.nil_append] at whole
      rw [whole] at once
      simp only [withLeadingSlash, List.head?_nil, reduceCtorEq, ↓reduceIte, List.cons_append, List.nil_append]
      rw [removeDoubleSlashes_cons, if_pos, once]
      rw [once, ← whole, first]
  | cons c rest =>
      have head : (c :: rest).head? = some '/' := by
        rw [whole] at first
        simpa using first
      rw [withLeadingSlash, if_pos head, ← whole, once]

end TimeSeriesInfo

namespace TimeSeriesAge

theorem addRows_name {calendar : RegionalCalendar} {rows : List AgeRow} {age result : TimeSeriesAge} {name : String}
    (run : addRows calendar rows age = .ok result)
    (named : ∀ row ∈ rows, (⟨row.filename.toList, row.tscode.toList⟩ : TimeSeriesInfo).fullName = name)
    (start : rows = [] → age.timeSeriesName = some name) : result.timeSeriesName = some name := by
  induction rows generalizing age with
  | nil =>
      cases run
      exact start rfl
  | cons row rest ih =>
      obtain ⟨fromTime, _, run⟩ := bind_eq_ok_iff.mp run
      obtain ⟨untilTime, _, run⟩ := bind_eq_ok_iff.mp run
      obtain ⟨ageTime, _, run⟩ := bind_eq_ok_iff.mp run
      obtain ⟨next, added, run⟩ := bind_eq_ok_iff.mp run
      obtain ⟨segments, _, same⟩ := bind_eq_ok_iff.mp added
      cases same
      refine ih run (fun other member => named other (List.mem_cons_of_mem _ member)) fun _ => ?_
      exact congrArg some (named row List.mem_cons_self)

end TimeSeriesAge

def AgeTable.NamesRows (table : AgeTable) : Prop :=
  ∀ name rows, table.fetch name = .ok rows → ∀ row ∈ rows,
    (⟨row.filename.toList, row.tscode.toList⟩ : TimeSeriesInfo).fullName = name

def StoreOutcome.exception {D : Type} : StoreOutcome D → Option TransactionException
  | .raised exception => some exception
  | _ => none

namespace ImportExport

variable {D : Type}

section Received

structure Matched (importExport : ImportExport D) : Prop where
  named : ∀ age ∈ importExport.ages, age.timeSeriesName ≠ none
  distinct : (importExport.ages.map TimeSeriesAge.timeSeriesName).Nodup
  owned : ∀ fragment ∈ importExport.relevantData,
    fragment.name ∈ importExport.ages.map TimeSeriesAge.timeSeriesName
  filled : ∀ fragment ∈ importExport.relevantData, fragment.tvqs ≠ []

theorem getTimeSeriesAge_name {table : AgeTable} (rowsNamed : table.NamesRows) {info : TimeSeriesInfo}
    {age : TimeSeriesAge} (found : getTimeSeriesAge table info.fullName [] = .ok age) :
    age.timeSeriesName = some info.fullName := by
  obtain ⟨noAge, looked, found⟩ := bind_eq_ok_iff.mp found
  cases looked
  obtain ⟨rows, fetched, found⟩ := bind_eq_ok_iff.mp found
  split at found
  · cases found
    exact congrArg some info.fullName_ofFullName
  · rename_i some_
    rw [TimeSeriesAge.ofRows, if_neg some_] at found
    refine TimeSeriesAge.addRows_name found (rowsNamed _ _ fetched) fun empty => ?_
    simp [empty] at some_

def NamesSeries (mapping : Mapping D) : Prop :=
  mapping.internalName = some ExternalReference.importDefinitionIgnore ∨
    ∃ info : TimeSeriesInfo, mapping.internalName = some info.fullName

theorem addMappings_names {calendar : RegionalCalendar} {rows : List (ImportDefinitionRow D)} {digits decimals : Int}
    {mappings result : List (Mapping D)} (run : addMappings calendar rows digits decimals mappings = .ok result)
    (named : ∀ mapping ∈ mappings, NamesSeries mapping) : ∀ mapping ∈ result, NamesSeries mapping := by
  induction rows generalizing digits decimals mappings with
  | nil =>
      cases run
      exact named
  | cons row rest ih =>
      obtain ⟨fromTime, _, run⟩ := bind_eq_ok_iff.mp run
      obtain ⟨untilTime, _, run⟩ := bind_eq_ok_iff.mp run
      refine ih run fun mapping member => ?_
      rcases List.mem_append.mp member with old | new
      · exact named mapping old
      · rw [List.mem_singleton.mp new, NamesSeries]
        by_cases ignored : row.timsKey = -1
        · simp [ignored]
        · exact Or.inr ⟨_, by rw [if_neg ignored]⟩

theorem fetchImportDefinitions_names {calendar : RegionalCalendar} {rows : List (ImportDefinitionRow D)}
    {extRef : ExternalReference D} (run : fetchImportDefinitions calendar rows = .ok extRef) :
    ∀ mapping ∈ extRef.mappings, NamesSeries mapping := by
  obtain ⟨mappings, added, same⟩ := bind_eq_ok_iff.mp run
  cases same
  exact addMappings_names added (by simp)

variable [DoubleArithmetic D] {table : AgeTable} {sourceTime : UtcTime} {replacePeriod : Option TimePeriod}
  {mappings : List (Mapping D)} {ts : TimeSeries D} {part : Received D}

theorem Contribution.matched (rowsNamed : table.NamesRows) (namesSeries : ∀ mapping ∈ mappings, NamesSeries mapping)
    (contribution : Contribution table sourceTime replacePeriod mappings [] ts part) :
    part.relevantData = [] ∧ part.ages = [] ∨
      ∃ name updated, ts.name = some name ∧ part.ages = [updated] ∧ updated.timeSeriesName = some name ∧
        ∀ fragment ∈ part.relevantData, fragment.name = some name ∧ fragment.tvqs ≠ [] := by
  cases contribution with
  | missing unnamed => exact Or.inl ⟨rfl, rfl⟩
  | ignored named => exact Or.inl ⟨rfl, rfl⟩
  | received named notIgnored mapped converted found replaced judged aged =>
      rename_i name mapping internalSeries age updated internalPeriod fragments trimmed
      have internal : mapping.internalName = some name := by simpa using List.find?_some mapped
      have full : ∃ info : TimeSeriesInfo, name = info.fullName := by
        rcases namesSeries mapping (List.mem_of_find?_eq_some mapped) with ignored | ⟨info, same⟩
        · exact absurd (Option.some.inj (internal.symm.trans ignored)) notIgnored
        · exact ⟨info, Option.some.inj (internal.symm.trans same)⟩
      obtain ⟨info, rfl⟩ := full
      obtain ⟨sameName, _, _⟩ := (converts_convertValues mapping).result ts internalSeries converted
      refine Or.inr ⟨info.fullName, updated, named, rfl, ?_, fun fragment member => ⟨?_, ?_⟩⟩
      · exact (updatedAge_name aged).trans (getTimeSeriesAge_name rowsNamed found)
      · exact (mem_newerData judged (sameName.trans named) member).1
      · obtain ⟨kept, _⟩ := List.mem_filter.mp member
        have held := (trimOldData_ok judged).1.inhabited fragment.content (List.mem_map_of_mem kept)
        intro empty
        exact held (List.map_eq_nil_iff.mp empty)

theorem contributions_names {array : List (TimeSeries D)} {parts : List (Received D)} (rowsNamed : table.NamesRows)
    (namesSeries : ∀ mapping ∈ mappings, NamesSeries mapping)
    (all : List.Forall₂ (Contribution table sourceTime replacePeriod mappings []) array parts) :
    List.Sublist ((parts.flatMap Received.ages).map TimeSeriesAge.timeSeriesName) (array.map TimeSeries.name) := by
  induction all with
  | nil => exact List.Sublist.refl _
  | cons contribution _ ih =>
      rw [List.flatMap_cons, List.map_append, List.map_cons]
      rcases contribution.matched rowsNamed namesSeries with ⟨_, none_⟩ | ⟨name, updated, named, one, aged, _⟩
      · rw [none_]
        exact ih.cons _
      · rw [one, named]
        simp only [List.map_cons, List.map_nil, aged, List.singleton_append]
        exact ih.cons_cons _

variable {definitions : List (ImportDefinitionRow D)} {sourceTs : TimeSeries D} {importExport : ImportExport D}

theorem receiveDefined_matched (rowsNamed : table.NamesRows)
    (received : receiveDefined table definitions sourceTs sourceTime replacePeriod = .ok importExport) :
    Matched importExport := by
  obtain ⟨extRef, fetched, run⟩ := bind_eq_ok_iff.mp received
  obtain ⟨array, parts, contributions, collected⟩ := receiveTimeSeries_ok run
  have namesSeries := fetchImportDefinitions_names fetched
  have names := contributions_names rowsNamed namesSeries contributions.all
  have ages : importExport.ages = parts.flatMap Received.ages := collected.ages.trans (List.nil_append _)
  have relevantData : importExport.relevantData = parts.flatMap Received.relevantData :=
    collected.relevantData.trans (List.nil_append _)
  constructor
  · intro age member
    rw [ages] at member
    obtain ⟨part, found, inside⟩ := List.mem_flatMap.mp member
    obtain ⟨ts, _, contribution, _⟩ := contribution_of_part contributions found
    rcases contribution.matched rowsNamed namesSeries with ⟨_, none_⟩ | ⟨name, updated, _, one, aged, _⟩
    · rw [none_] at inside
      contradiction
    · rw [one, List.mem_singleton] at inside
      rw [inside, aged]
      exact Option.some_ne_none name
  · rw [ages]
    have keys := contributions.grouped.keys
    rw [List.map_map] at keys
    exact names.nodup keys
  · intro fragment member
    rw [relevantData] at member
    obtain ⟨part, found, inside⟩ := List.mem_flatMap.mp member
    obtain ⟨ts, _, contribution, _⟩ := contribution_of_part contributions found
    rcases contribution.matched rowsNamed namesSeries with ⟨none_, _⟩ | ⟨name, updated, _, one, aged, data⟩
    · rw [none_] at inside
      contradiction
    · have there : updated ∈ importExport.ages := by
        rw [ages]
        exact List.mem_flatMap.mpr ⟨part, found, by rw [one]; exact List.mem_singleton_self _⟩
      rw [(data fragment inside).1, ← aged]
      exact List.mem_map_of_mem there
  · intro fragment member
    rw [relevantData] at member
    obtain ⟨part, found, inside⟩ := List.mem_flatMap.mp member
    obtain ⟨ts, _, contribution, _⟩ := contribution_of_part contributions found
    rcases contribution.matched rowsNamed namesSeries with ⟨none_, _⟩ | ⟨_, _, _, _, _, data⟩
    · rw [none_] at inside
      contradiction
    · exact (data fragment inside).2

end Received

section Runs

variable {importExport : ImportExport D} {age : TimeSeriesAge} {name : String}

def answers (ts : TimeSeries D) : StoreOutcome D → List (TvqStorageStatus D)
  | .answered answer => ts.tvqs.map fun tvq => ⟨tvq, (answer tvq).1, (answer tvq).2⟩
  | .storageException status message innerMessage => statusOf ts status (storageMessage message innerMessage)
  | .raised _ => []

def fragmentsOf (importExport : ImportExport D) (age : TimeSeriesAge) : List (TimeSeries D) :=
  importExport.relevantData.filter fun fragment => fragment.name = age.timeSeriesName

def periodsOf (importExport : ImportExport D) (age : TimeSeriesAge) : List ReplacePeriod :=
  importExport.relevantReplacePeriods.filter fun period => period.timeSeriesName = age.timeSeriesName

def ended : Option TransactionException → Except TransactionException Unit
  | none => .ok ()
  | some exception => .error exception

def exceptionOf (importExport : ImportExport D) (age : TimeSeriesAge) (attempt : Attempt D) :
    Option TransactionException :=
  ((((attempt.opens).or ((periodsOf importExport age).findSome? attempt.deletes)).or
    ((fragmentsOf importExport age).findSome? fun fragment => (attempt.stores fragment).exception)).or
      attempt.storesAge).or attempt.commits

def storedFirst (stores : TimeSeries D → StoreOutcome D) (fragments : List (TimeSeries D)) : List (TvqStorageStatus D) :=
  (fragments.takeWhile fun fragment => (stores fragment).exception.isNone).flatMap fun fragment =>
    answers fragment (stores fragment)

def addedBy (importExport : ImportExport D) (age : TimeSeriesAge) (attempt : Attempt D) : List (TvqStorageStatus D) :=
  if ((attempt.opens).or ((periodsOf importExport age).findSome? attempt.deletes)).isSome then []
  else storedFirst attempt.stores (fragmentsOf importExport age)

def StoresNothing (importExport : ImportExport D) (age : TimeSeriesAge) (attempt : Attempt D) : Prop :=
  attempt.opens ≠ none ∨ (∃ period ∈ periodsOf importExport age, attempt.deletes period ≠ none) ∨
    ∀ fragment, (fragmentsOf importExport age).head? = some fragment → (attempt.stores fragment).exception ≠ none

theorem storeTimeSeries_run (ts : TimeSeries D) (outcome : StoreOutcome D) (status : List (TvqStorageStatus D)) :
    storeTimeSeries ts outcome status = (ended outcome.exception, status ++ answers ts outcome) := by
  cases outcome with
  | answered answer => rfl
  | storageException status message innerMessage => rfl
  | raised exception =>
      simp only [answers, List.append_nil]
      rfl

theorem call_run (failure : Option TransactionException) (status : List (TvqStorageStatus D)) :
    (Program.call failure : StatusProgram D Unit) status = (ended failure, status) := by
  cases failure <;> rfl

theorem isNamed_run (named : age.timeSeriesName = some name) (timeSeriesName : Option String)
    (status : List (TvqStorageStatus D)) :
    isNamed age timeSeriesName status = (.ok (decide (timeSeriesName = age.timeSeriesName)), status) := by
  rw [isNamed, named]
  rfl

theorem deleteEach_run (named : age.timeSeriesName = some name) (deletes : ReplacePeriod → Option TransactionException)
    (periods : List ReplacePeriod) (status : List (TvqStorageStatus D)) :
    (deleteEach age deletes periods : StatusProgram D Unit) status =
      (ended ((periods.filter fun period => period.timeSeriesName = age.timeSeriesName).findSome? deletes), status) := by
  induction periods with
  | nil => rfl
  | cons period rest ih =>
      refine (Program.bind_of_ok (isNamed_run named period.timeSeriesName status)).trans ?_
      by_cases own : period.timeSeriesName = age.timeSeriesName
      · simp only [own, decide_true, ↓reduceIte, List.filter_cons_of_pos, List.findSome?_cons]
        cases deletion : deletes period with
        | none => exact (Program.bind_of_ok (by rw [call_run]; rfl)).trans ih
        | some exception => exact Program.bind_of_error (by rw [call_run]; rfl)
      · rw [List.filter_cons_of_neg (by simpa using own)]
        simp only [own, decide_false, Bool.false_eq_true, ↓reduceIte]
        exact ih

theorem storeEach_run (named : age.timeSeriesName = some name) (stores : TimeSeries D → StoreOutcome D)
    (fragments : List (TimeSeries D)) (status : List (TvqStorageStatus D)) :
    storeEach age stores fragments status =
      (ended ((fragments.filter fun fragment => fragment.name = age.timeSeriesName).findSome? fun fragment =>
        (stores fragment).exception),
        status ++ storedFirst stores (fragments.filter fun fragment => fragment.name = age.timeSeriesName)) := by
  induction fragments generalizing status with
  | nil => simp [storeEach, storedFirst, ended]
  | cons fragment rest ih =>
      refine (Program.bind_of_ok (isNamed_run named fragment.name status)).trans ?_
      by_cases own : fragment.name = age.timeSeriesName
      · have run := storeTimeSeries_run fragment (stores fragment) status
        simp only [own, decide_true, ↓reduceIte, List.filter_cons_of_pos, List.findSome?_cons, storedFirst,
          List.takeWhile_cons]
        cases raised : (stores fragment).exception with
        | none =>
            rw [raised] at run
            refine (Program.bind_of_ok run).trans ((ih _).trans ?_)
            simp [storedFirst]
        | some exception =>
            have nothing : answers fragment (stores fragment) = [] := by
              cases outcome : stores fragment with
              | raised exception => rfl
              | answered answer => simp [outcome, StoreOutcome.exception] at raised
              | storageException status message innerMessage => simp [outcome, StoreOutcome.exception] at raised
            rw [raised, nothing] at run
            exact Program.bind_of_error run
      · rw [List.filter_cons_of_neg (by simpa using own)]
        simp only [own, decide_false, Bool.false_eq_true, ↓reduceIte]
        exact ih status

theorem answers_times {ts : TimeSeries D} {outcome : StoreOutcome D} (stored : outcome.exception = none) :
    (answers ts outcome).map (fun status => status.tvq.limitTime) = ts.times := by
  cases outcome with
  | answered answer => simp [answers, TimeSeries.tvqs, TimeSeries.times]
  | storageException status message innerMessage => exact statusOf_times ts _ _
  | raised exception => contradiction

theorem transaction_run (named : age.timeSeriesName = some name) (importExport : ImportExport D) (attempt : Attempt D)
    (status : List (TvqStorageStatus D)) : transaction importExport age attempt status =
      (ended (exceptionOf importExport age attempt), status ++ addedBy importExport age attempt) := by
  have deletions : deleteEach age attempt.deletes importExport.relevantReplacePeriods status =
      (ended ((periodsOf importExport age).findSome? attempt.deletes), status) := deleteEach_run named ..
  have stores : storeEach age attempt.stores importExport.relevantData status =
      (ended ((fragmentsOf importExport age).findSome? fun fragment => (attempt.stores fragment).exception),
        status ++ storedFirst attempt.stores (fragmentsOf importExport age)) := storeEach_run named ..
  have opening := call_run attempt.opens status
  unfold transaction exceptionOf addedBy
  cases opened : attempt.opens with
  | some exception =>
      rw [opened] at opening
      simpa [ended] using Program.bind_of_error opening
  | none =>
      rw [opened] at opening
      refine (Program.bind_of_ok opening).trans ?_
      simp only [Option.none_or]
      cases deleted : (periodsOf importExport age).findSome? attempt.deletes with
      | some exception =>
          rw [deleted] at deletions
          simpa [ended] using Program.bind_of_error deletions
      | none =>
          rw [deleted] at deletions
          refine (Program.bind_of_ok deletions).trans ?_
          simp only [Option.none_or, Option.isSome_none, Bool.false_eq_true, ↓reduceIte]
          generalize storedFirst attempt.stores (fragmentsOf importExport age) = added at stores ⊢
          cases stored : (fragmentsOf importExport age).findSome? fun fragment => (attempt.stores fragment).exception with
          | some exception =>
              rw [stored] at stores
              exact Program.bind_of_error stores
          | none =>
              rw [stored] at stores
              refine (Program.bind_of_ok stores).trans ?_
              simp only [Option.none_or]
              have aging := call_run attempt.storesAge (status ++ added)
              cases aged : attempt.storesAge with
              | some exception =>
                  rw [aged] at aging
                  exact Program.bind_of_error aging
              | none =>
                  rw [aged] at aging
                  exact (Program.bind_of_ok aging).trans (call_run attempt.commits (status ++ added))

theorem answers_ne_nil {ts : TimeSeries D} {outcome : StoreOutcome D} (filled : ts.tvqs ≠ [])
    (stored : outcome.exception = none) : answers ts outcome ≠ [] := by
  cases outcome with
  | answered answer => simpa [answers] using filled
  | storageException status message innerMessage => simpa [answers, statusOf] using filled
  | raised exception => contradiction

theorem addedBy_eq_nil_iff (matched : Matched importExport) (attempt : Attempt D) :
    addedBy importExport age attempt = [] ↔ StoresNothing importExport age attempt := by
  unfold addedBy StoresNothing
  cases opened : attempt.opens with
  | some exception => simp
  | none =>
      cases deleted : (periodsOf importExport age).findSome? attempt.deletes with
      | some exception =>
          obtain ⟨period, member, raised⟩ := List.exists_of_findSome?_eq_some deleted
          have some_ : attempt.deletes period ≠ none := by simp [raised]
          exact iff_of_true (by simp) (Or.inr (Or.inl ⟨period, member, some_⟩))
      | none =>
          have none_ := List.findSome?_eq_none_iff.mp deleted
          have noDeletion : ¬ ∃ period ∈ periodsOf importExport age, attempt.deletes period ≠ none := by
            rintro ⟨period, member, raised⟩
            exact raised (none_ period member)
          simp only [Option.none_or, Option.isSome_none, Bool.false_eq_true, ↓reduceIte, ne_eq, not_true_eq_false,
            false_or, noDeletion, storedFirst]
          cases fragments : fragmentsOf importExport age with
          | nil => simp
          | cons fragment rest =>
              have member : fragment ∈ importExport.relevantData := by
                have inside : fragment ∈ fragmentsOf importExport age := by simp [fragments]
                exact (List.mem_filter.mp inside).1
              simp only [List.takeWhile_cons, List.head?_cons, Option.some.injEq, forall_eq']
              cases stored : (attempt.stores fragment).exception with
              | none => simp [answers_ne_nil (matched.filled fragment member) stored]
              | some exception => simp

theorem addedBy_committed {attempt : Attempt D} (committed : exceptionOf importExport age attempt = none) :
    (∀ fragment ∈ fragmentsOf importExport age, (attempt.stores fragment).exception = none) ∧
      addedBy importExport age attempt =
        (fragmentsOf importExport age).flatMap fun fragment => answers fragment (attempt.stores fragment) := by
  simp only [exceptionOf, Option.or_eq_none_iff] at committed
  obtain ⟨⟨⟨⟨opened, deleted⟩, stored⟩, _⟩, _⟩ := committed
  have all := List.findSome?_eq_none_iff.mp stored
  refine ⟨all, ?_⟩
  have whole : ((fragmentsOf importExport age).takeWhile fun fragment => (attempt.stores fragment).exception.isNone) =
      fragmentsOf importExport age := by
    rw [List.takeWhile_eq_self_iff]
    intro fragment member
    simp [all fragment member]
  simp [addedBy, storedFirst, opened, deleted, whole]

structure Attempts (D : Type) where
  aborted : List (Attempt D)
  committed : Attempt D

def Attempts.list (attempts : Attempts D) : List (Attempt D) := attempts.aborted ++ [attempts.committed]

structure Retried (importExport : ImportExport D) (age : TimeSeriesAge) (attempts : Attempts D) : Prop where
  aborted : ∀ attempt ∈ attempts.aborted, exceptionOf importExport age attempt = some .serialization
  committed : exceptionOf importExport age attempts.committed = none

def addedByAll (importExport : ImportExport D) (age : TimeSeriesAge) (attempts : Attempts D) :
    List (TvqStorageStatus D) :=
  attempts.aborted.flatMap (addedBy importExport age) ++ addedBy importExport age attempts.committed

theorem storeAge_aborted (named : age.timeSeriesName = some name) {aborted : List (Attempt D)}
    (serialization : ∀ attempt ∈ aborted, exceptionOf importExport age attempt = some .serialization)
    (rest : List (Attempt D)) (status : List (TvqStorageStatus D)) :
    storeAge importExport age (aborted ++ rest) status =
      storeAge importExport age rest (status ++ aborted.flatMap (addedBy importExport age)) := by
  induction aborted generalizing status with
  | nil => simp
  | cons attempt later ih =>
      obtain ⟨first, others⟩ := List.forall_mem_cons.mp serialization
      have run := transaction_run named importExport attempt status
      rw [first] at run
      have raised : (do transaction importExport age attempt; return true : StatusProgram D Bool) status =
          (.error .serialization, status ++ addedBy importExport age attempt) := Program.bind_of_error run
      rw [List.cons_append, storeAge, Program.handle_of_error raised]
      simp only [ih others, List.flatMap_cons, List.append_assoc]

theorem storeAge_run (named : age.timeSeriesName = some name) {attempts : Attempts D}
    (retried : Retried importExport age attempts) (status : List (TvqStorageStatus D)) :
    storeAge importExport age attempts.list status = (.ok true, status ++ addedByAll importExport age attempts) := by
  rw [Attempts.list, storeAge_aborted named retried.aborted, addedByAll, ← List.append_assoc]
  generalize status ++ attempts.aborted.flatMap (addedBy importExport age) = before
  have run := transaction_run named importExport attempts.committed before
  rw [retried.committed] at run
  have returned : (do transaction importExport age attempts.committed; return true : StatusProgram D Bool) before =
      (.ok true, before ++ addedBy importExport age attempts.committed) := Program.bind_of_ok run
  rw [storeAge, Program.handle_of_ok returned]

theorem storeAges_run {ages : List TimeSeriesAge} {attempts : TimeSeriesAge → Attempts D}
    (named : ∀ age ∈ ages, age.timeSeriesName ≠ none)
    (retried : ∀ age ∈ ages, Retried importExport age (attempts age)) (status : List (TvqStorageStatus D)) :
    storeAges importExport (fun age => (attempts age).list) ages status =
      (.ok true, status ++ ages.flatMap fun age => addedByAll importExport age (attempts age)) := by
  induction ages generalizing status with
  | nil => simp [storeAges]
  | cons age rest ih =>
      obtain ⟨first, others⟩ := List.forall_mem_cons.mp named
      obtain ⟨firstRetried, othersRetried⟩ := List.forall_mem_cons.mp retried
      obtain ⟨name, isNamed⟩ := Option.ne_none_iff_exists'.mp first
      refine (Program.bind_of_ok (storeAge_run isNamed firstRetried status)).trans ?_
      rw [if_pos rfl, ih others othersRetried]
      simp

theorem fragmentsOf_perm (matched : Matched importExport) :
    (importExport.ages.flatMap (fragmentsOf importExport)).Perm importExport.relevantData := by
  have whole := flatMap_filter_perm matched.distinct matched.owned
  rwa [List.flatMap_map] at whole

theorem committed_times (matched : Matched importExport) {attempts : TimeSeriesAge → Attempts D}
    (retried : ∀ age ∈ importExport.ages, Retried importExport age (attempts age)) :
    ((importExport.ages.flatMap fun age => addedBy importExport age (attempts age).committed).map
      fun status => status.tvq.limitTime).Perm (importExport.relevantData.flatMap TimeSeries.times) := by
  have each : ((importExport.ages.flatMap fun age => addedBy importExport age (attempts age).committed).map
      fun status => status.tvq.limitTime) =
      (importExport.ages.flatMap (fragmentsOf importExport)).flatMap TimeSeries.times := by
    rw [List.map_flatMap, List.flatMap_assoc]
    refine List.flatMap_congr fun age member => ?_
    obtain ⟨stored, added⟩ := addedBy_committed (retried age member).committed
    rw [added, List.map_flatMap]
    exact List.flatMap_congr fun fragment inside => answers_times (stored fragment inside)
  rw [each]
  exact (fragmentsOf_perm matched).flatMap_right _

end Runs

section Import

variable [DoubleArithmetic D] {table : AgeTable} {definitions : List (ImportDefinitionRow D)}
  {sourceTs : TimeSeries D} {sourceTime : UtcTime} {replacePeriod : Option TimePeriod} {importExport : ImportExport D}

structure OneStatusPerPoint (sourceTs : TimeSeries D) (importExport : ImportExport D)
    (attempts : TimeSeriesAge → Attempts D) (statuses : List (TvqStorageStatus D)) : Prop where
  each : (statuses.map fun status => status.tvq.limitTime).Perm sourceTs.times
  committed : ∀ age ∈ importExport.ages, ∀ fragment ∈ fragmentsOf importExport age, ∀ status ∈ statuses,
    status.tvq.limitTime ∈ fragment.times → status ∈ answers fragment ((attempts age).committed.stores fragment)

theorem importTimeSeries_run (matched : Matched importExport)
    (received : receiveDefined table definitions sourceTs sourceTime replacePeriod = .ok importExport)
    {attempts : TimeSeriesAge → Attempts D}
    (retried : ∀ age ∈ importExport.ages, Retried importExport age (attempts age)) :
    importTimeSeries table definitions sourceTs sourceTime replacePeriod (fun age => (attempts age).list) =
      .ok (some (importExport.status ++
        importExport.ages.flatMap fun age => addedByAll importExport age (attempts age))) := by
  simp only [importTimeSeries, received, storeAges_run matched.named retried]
  rfl

theorem receiveDefined_times (received : receiveDefined table definitions sourceTs sourceTime replacePeriod = .ok importExport) :
    (importExport.status.map (fun status => status.tvq.limitTime) ++
      importExport.relevantData.flatMap TimeSeries.times).Perm sourceTs.times := by
  obtain ⟨extRef, _, run⟩ := bind_eq_ok_iff.mp received
  exact (receiveTimeSeries_conserves run).2.1

theorem statuses_times (matched : Matched importExport)
    (received : receiveDefined table definitions sourceTs sourceTime replacePeriod = .ok importExport)
    {attempts : TimeSeriesAge → Attempts D}
    (retried : ∀ age ∈ importExport.ages, Retried importExport age (attempts age)) :
    ((importExport.status ++ importExport.ages.flatMap fun age => addedByAll importExport age (attempts age)).map
      fun status => status.tvq.limitTime).Perm
        ((importExport.ages.flatMap fun age => (attempts age).aborted.flatMap (addedBy importExport age)).map
          (fun status => status.tvq.limitTime) ++ sourceTs.times) := by
  have parts := (List.flatMap_append_perm importExport.ages
    (fun age => (attempts age).aborted.flatMap (addedBy importExport age))
    fun age => addedBy importExport age (attempts age).committed).symm
  have times := parts.map fun status => status.tvq.limitTime
  rw [List.map_append] at times
  have stored := committed_times matched retried
  have conserved := receiveDefined_times received
  rw [List.map_append]
  refine (times.append_left _).trans ?_
  rw [← List.append_assoc]
  refine (List.perm_append_comm.append_right _).trans ?_
  rw [List.append_assoc]
  exact ((stored.append_left _).trans conserved).append_left _

/-- Every point has one status, that of the transaction that was committed, exactly when
no attempt that was rolled back had stored a fragment. -/
theorem importTimeSeries_oneStatus_iff (rowsNamed : table.NamesRows)
    (received : receiveDefined table definitions sourceTs sourceTime replacePeriod = .ok importExport)
    {attempts : TimeSeriesAge → Attempts D}
    (retried : ∀ age ∈ importExport.ages, Retried importExport age (attempts age)) :
    (∃ statuses, importTimeSeries table definitions sourceTs sourceTime replacePeriod
        (fun age => (attempts age).list) = .ok (some statuses) ∧
      OneStatusPerPoint sourceTs importExport attempts statuses) ↔
    ∀ age ∈ importExport.ages, ∀ attempt ∈ (attempts age).aborted, StoresNothing importExport age attempt := by
  have matched := receiveDefined_matched rowsNamed received
  have run := importTimeSeries_run matched received retried
  have times := statuses_times matched received retried
  constructor
  · rintro ⟨statuses, returned, one⟩ age member attempt aborted
    rw [run] at returned
    cases returned
    have lengths := times.symm.trans one.each |>.length_eq
    have nothing : (importExport.ages.flatMap fun age =>
        (attempts age).aborted.flatMap (addedBy importExport age)) = [] := by
      rw [← List.length_eq_zero_iff]
      simp only [List.length_append, List.length_map] at lengths
      omega
    rw [List.flatMap_eq_nil_iff] at nothing
    have own := List.flatMap_eq_nil_iff.mp (nothing age member) attempt aborted
    exact (addedBy_eq_nil_iff matched attempt).mp own
  · intro early
    have nothing : ∀ age ∈ importExport.ages, (attempts age).aborted.flatMap (addedBy importExport age) = [] := by
      intro age member
      rw [List.flatMap_eq_nil_iff]
      intro attempt aborted
      exact (addedBy_eq_nil_iff matched attempt).mpr (early age member attempt aborted)
    rw [List.flatMap_eq_nil_iff.mpr nothing, List.map_nil, List.nil_append] at times
    refine ⟨_, run, times, fun age member fragment inside status found at_ => ?_⟩
    obtain ⟨stored, added⟩ := addedBy_committed (retried age member).committed
    rw [← answers_times (stored fragment inside)] at at_
    obtain ⟨own, answered, sameTime⟩ := List.mem_map.mp at_
    have returned : own ∈ importExport.status ++
        importExport.ages.flatMap fun age => addedByAll importExport age (attempts age) := by
      refine List.mem_append_right _ (List.mem_flatMap.mpr ⟨age, member, List.mem_append_right _ ?_⟩)
      rw [added]
      exact List.mem_flatMap.mpr ⟨fragment, inside, answered⟩
    have distinct : sourceTs.times.Nodup := (List.pairwise_map.mpr sourceTs.points.sorted).imp ne_of_lt
    rw [← List.inj_on_of_nodup_map (times.nodup_iff.mpr distinct) returned found sameTime]
    exact answered

section Samples

def sampleDefinition : ImportDefinitionRow Int where
  timsKey := 1
  filename := "/"
  tscode := "A"
  rval1 := none
  rval2 := none
  valftime := RegionalCalendar.codeUnits "00000101000000000"
  valttime := RegionalCalendar.codeUnits "99991231235959000"
  factor := 1
  offset := 0

def sampleSeries : TimeSeries Int := seriesOf .hour [pointAt Utc.hour 1]

def sampleAttempt (opens commits : Option TransactionException) : Attempt Int where
  opens := opens
  deletes _ := none
  stores _ := .answered fun _ => (.stored, "Stored.")
  storesAge := none
  commits := commits

theorem noRows_namesRows : noRows.NamesRows := by
  intro name rows fetched row member
  cases fetched
  contradiction

theorem sampleAttempt_exception (importExport : ImportExport Int) (age : TimeSeriesAge)
    (opens commits : Option TransactionException) :
    exceptionOf importExport age (sampleAttempt opens commits) = opens.or commits := by
  have deletions : (periodsOf importExport age).findSome? (sampleAttempt opens commits).deletes = none :=
    List.findSome?_eq_none_iff.mpr fun _ _ => rfl
  have stores : ((fragmentsOf importExport age).findSome? fun fragment =>
      ((sampleAttempt opens commits).stores fragment).exception) = none :=
    List.findSome?_eq_none_iff.mpr fun _ _ => rfl
  rw [exceptionOf, deletions, stores]
  simp [sampleAttempt]

theorem sampleAttempt_retried (importExport : ImportExport Int) (age : TimeSeriesAge)
    {opens commits : Option TransactionException} (serialization : opens.or commits = some .serialization) :
    Retried importExport age ⟨[sampleAttempt opens commits], sampleAttempt none none⟩ := by
  constructor
  · intro attempt aborted
    rw [List.mem_singleton.mp aborted, sampleAttempt_exception, serialization]
  · exact sampleAttempt_exception importExport age none none

theorem importTimeSeries_oneStatus_iff_opening :
    let attempts : TimeSeriesAge → Attempts Int := fun _ =>
      ⟨[sampleAttempt (some .serialization) none], sampleAttempt none none⟩
    ∃ importExport, receiveDefined noRows [sampleDefinition] sampleSeries (.ofTicks (4 * Utc.hour)) none =
        .ok importExport ∧
      ∃ statuses, importTimeSeries noRows [sampleDefinition] sampleSeries (.ofTicks (4 * Utc.hour)) none
          (fun age => (attempts age).list) = .ok (some statuses) ∧
        OneStatusPerPoint sampleSeries importExport attempts statuses := by
  intro attempts
  obtain ⟨importExport, received⟩ := exists_ok (show (receiveDefined noRows [sampleDefinition] sampleSeries
    (.ofTicks (4 * Utc.hour)) none).toOption.isSome = true by decide)
  have retried : ∀ age ∈ importExport.ages, Retried importExport age (attempts age) :=
    fun age _ => sampleAttempt_retried importExport age rfl
  refine ⟨importExport, received, (importTimeSeries_oneStatus_iff noRows_namesRows received retried).mpr ?_⟩
  intro age _ attempt aborted
  rw [List.mem_singleton.mp aborted]
  exact Or.inl (Option.some_ne_none _)

/-- The point has two statuses when the first attempt fails by its commit. -/
theorem importTimeSeries_twoStatuses :
    ¬ ∀ (table : AgeTable) (definitions : List (ImportDefinitionRow Int)) (sourceTs : TimeSeries Int)
      (sourceTime : UtcTime) (replacePeriod : Option TimePeriod) (importExport : ImportExport Int)
      (attempts : TimeSeriesAge → Attempts Int), table.NamesRows →
      receiveDefined table definitions sourceTs sourceTime replacePeriod = .ok importExport →
      (∀ age ∈ importExport.ages, Retried importExport age (attempts age)) →
      ∃ statuses, importTimeSeries table definitions sourceTs sourceTime replacePeriod
          (fun age => (attempts age).list) = .ok (some statuses) ∧
        OneStatusPerPoint sourceTs importExport attempts statuses := by
  intro one
  let attempts : TimeSeriesAge → Attempts Int := fun _ =>
    ⟨[sampleAttempt none (some .serialization)], sampleAttempt none none⟩
  obtain ⟨importExport, received⟩ := exists_ok (show (receiveDefined noRows [sampleDefinition] sampleSeries
    (.ofTicks (4 * Utc.hour)) none).toOption.isSome = true by decide)
  have retried : ∀ age ∈ importExport.ages, Retried importExport age (attempts age) :=
    fun age _ => sampleAttempt_retried importExport age rfl
  obtain ⟨statuses, returned, told⟩ := one noRows [sampleDefinition] sampleSeries (.ofTicks (4 * Utc.hour)) none
    importExport attempts noRows_namesRows received retried
  have twice : (importTimeSeries noRows [sampleDefinition] sampleSeries (.ofTicks (4 * Utc.hour)) none
      (fun age => (attempts age).list)).toOption.map (fun statuses => statuses.map List.length) = some (some 2) := by
    decide
  rw [returned] at twice
  have length : statuses.length = 2 := Option.some.inj (Option.some.inj twice)
  have single := told.each.length_eq
  rw [List.length_map, length] at single
  contradiction

end Samples

end Import

end ImportExport

end ServiceHost
