import Mathlib.Data.List.Induction
import ServiceHost.DataExchange.IccpReportCore
import ServiceHost.Library.Outcome

/-!
What a message has collected after the values of a report. A series is made with the unit of
the first point that maps to its reference, and later points replace the time and the value
only.
-/

namespace ServiceHost.DataExchange.Iccp

open Library

structure Report where
  reference : String
  unit : String
  time : Int
  value : String
deriving DecidableEq, Repr

def Report.series (report : Report) : TimeSeries := ⟨report.reference, report.time, report.unit, [report.value]⟩

section Values

variable (logic : IccpLogic) (call : ReportValue)

def mapping : Option (String × String) := (logic.findReference call).toOption.join

def reportOf : Option Report :=
  if call.pointValue.hasTimeStamp = true then
    (mapping logic call).map fun mapped =>
      ⟨mapped.1, mapped.2, call.pointValue.milliseconds, (valueAsString call.pointValue.value).toOption.getD ""⟩
  else none

def InRange (milliseconds : Int) : Prop := -62135596800000 ≤ milliseconds ∧ milliseconds ≤ 253402300799999

instance (milliseconds : Int) : Decidable (InRange milliseconds) := by
  unfold InRange
  infer_instance

def IsNumber : PointValueType → Bool
  | .discrete _ | .real _ => true
  | .notImplemented _ => false

structure Accepted : Prop where
  domain : call.dataSetName = "" ∨ call.domainName ≠ none
  time : mapping logic call ≠ none → InRange call.pointValue.milliseconds
  value : mapping logic call ≠ none → IsNumber call.pointValue.value = true

theorem findReference_returns_iff :
    (∃ found, logic.findReference call = .ok found) ↔ call.dataSetName = "" ∨ call.domainName ≠ none := by
  unfold IccpLogic.findReference
  by_cases dynamic : call.dataSetName = ""
  · simp [dynamic]
  · cases domain : call.domainName with
    | none => simp [dynamic, IccpLogic.getPointValueMapping]
    | some domainName =>
        simp only [dynamic, ↓reduceIte, IccpLogic.getPointValueMapping, ok_bind, false_or, ne_eq, reduceCtorEq,
          not_false_eq_true, iff_true]
        split
        · exact ⟨_, rfl⟩
        · split <;> exact ⟨_, rfl⟩

variable {logic call}

theorem valueAsString_of_number {value : PointValueType} (number : IsNumber value = true) :
    valueAsString value = .ok ((valueAsString value).toOption.getD "") := by
  cases value with
  | discrete value => rfl
  | real text => rfl
  | notImplemented type => cases number

theorem isNumber_of_valueAsString {value : PointValueType} {text : String} (returns : valueAsString value = .ok text) :
    IsNumber value = true := by
  cases value with
  | discrete value => rfl
  | real text => rfl
  | notImplemented type => cases returns

theorem mapping_of_found {found : Option (String × String)} (returns : logic.findReference call = .ok found) :
    mapping logic call = found := by
  rw [mapping, returns]
  rfl

end Values

section Series

def addReport (timeSeries : List TimeSeries) (report : Report) : List TimeSeries :=
  match timeSeries.find? fun t => t.tsReference = report.reference with
  | none => timeSeries ++ [report.series]
  | some _ => updateSeries report.reference
      (fun ts => { ts with timeStamp := report.time, values := ts.values.modifyHead fun _ => report.value }) timeSeries

theorem updateSeries_updateSeries {reference : String} {first second : TimeSeries → TimeSeries}
    (kept : ∀ series, (first series).tsReference = series.tsReference) (timeSeries : List TimeSeries) :
    updateSeries reference second (updateSeries reference first timeSeries) =
      updateSeries reference (fun series => second (first series)) timeSeries := by
  induction timeSeries with
  | nil => rfl
  | cons series rest ih =>
      by_cases same : series.tsReference = reference
      · simp [updateSeries, same, kept]
      · simp [updateSeries, same, ih]

theorem map_tsReference_updateSeries {reference : String} {update : TimeSeries → TimeSeries}
    (kept : ∀ series, (update series).tsReference = series.tsReference) (timeSeries : List TimeSeries) :
    (updateSeries reference update timeSeries).map TimeSeries.tsReference = timeSeries.map TimeSeries.tsReference := by
  induction timeSeries with
  | nil => rfl
  | cons series rest ih =>
      by_cases same : series.tsReference = reference
      · simp [updateSeries, same, kept]
      · simp [updateSeries, same, ih]

theorem mem_updateSeries {reference : String} {update : TimeSeries → TimeSeries} {timeSeries : List TimeSeries}
    (distinct : (timeSeries.map TimeSeries.tsReference).Nodup) (series : TimeSeries) :
    series ∈ updateSeries reference update timeSeries ↔
      (∃ old ∈ timeSeries, old.tsReference = reference ∧ series = update old) ∨
        series ∈ timeSeries ∧ series.tsReference ≠ reference := by
  induction timeSeries with
  | nil => simp [updateSeries]
  | cons first rest ih =>
      rw [List.map_cons, List.nodup_cons] at distinct
      obtain ⟨fresh, later⟩ := distinct
      by_cases same : first.tsReference = reference
      · have others : ∀ other ∈ rest, other.tsReference ≠ reference := by
          intro other member shared
          exact fresh (List.mem_map.mpr ⟨other, member, shared.trans same.symm⟩)
        simp only [updateSeries, same, ↓reduceIte, List.mem_cons]
        constructor
        · rintro (changed | member)
          · exact .inl ⟨first, .inl rfl, same, changed⟩
          · exact .inr ⟨.inr member, others series member⟩
        · rintro (⟨old, old_eq | member, shared, changed⟩ | ⟨rfl | member, differs⟩)
          · rw [old_eq] at changed
            exact .inl changed
          · exact absurd shared (others old member)
          · exact absurd same differs
          · exact .inr member
      · simp only [updateSeries, same, ↓reduceIte, List.mem_cons, ih later]
        constructor
        · rintro (rfl | ⟨old, member, shared, changed⟩ | ⟨member, differs⟩)
          · exact .inr ⟨.inl rfl, same⟩
          · exact .inl ⟨old, .inr member, shared, changed⟩
          · exact .inr ⟨.inr member, differs⟩
        · rintro (⟨old, rfl | member, shared, changed⟩ | ⟨rfl | member, differs⟩)
          · exact absurd shared same
          · exact .inr (.inl ⟨old, member, shared, changed⟩)
          · exact .inl rfl
          · exact .inr (.inr ⟨member, differs⟩)

variable (reports : List Report) (reference : String)

def ofReference : List Report := reports.filter fun report => report.reference = reference

def collected : Option TimeSeries :=
  match (ofReference reports reference).head?, (ofReference reports reference).getLast? with
  | some first, some last => some ⟨reference, last.time, first.unit, [last.value]⟩
  | _, _ => none

theorem collected_tsReference {series : TimeSeries} (found : collected reports reference = some series) :
    series.tsReference = reference := by
  unfold collected at found
  split at found
  · cases found
    rfl
  · cases found

theorem collected_nil : collected [] reference = none := rfl

theorem collected_snoc_other {report : Report} (other : report.reference ≠ reference) :
    collected (reports ++ [report]) reference = collected reports reference := by
  simp [collected, ofReference, List.filter_append, other]

theorem collected_snoc_same (report : Report) :
    collected (reports ++ [report]) report.reference =
      match collected reports report.reference with
      | none => some report.series
      | some old => some { old with timeStamp := report.time, values := [report.value] } := by
  have snoc : ofReference (reports ++ [report]) report.reference = ofReference reports report.reference ++ [report] := by
    simp [ofReference, List.filter_append]
  unfold collected
  rw [snoc]
  cases earlier : ofReference reports report.reference with
  | nil => rfl
  | cons first rest =>
      obtain ⟨last, ends⟩ := Option.isSome_iff_exists.mp (List.getLast?_isSome.mpr (List.cons_ne_nil first rest))
      rw [List.getLast?_append, ends]
      rfl

structure Collects (timeSeries : List TimeSeries) : Prop where
  distinct : (timeSeries.map TimeSeries.tsReference).Nodup
  exact : ∀ series, series ∈ timeSeries ↔ collected reports series.tsReference = some series

variable {reports} {timeSeries : List TimeSeries}

theorem Collects.find_none (collects : Collects reports timeSeries) {report : Report}
    (missing : timeSeries.find? (fun t => t.tsReference = report.reference) = none) :
    collected reports report.reference = none := by
  cases found : collected reports report.reference with
  | none => rfl
  | some series =>
      have named := collected_tsReference _ _ found
      have member := (collects.exact series).mpr (by rw [named]; exact found)
      have absent := List.find?_eq_none.mp missing series member
      simp [named] at absent

theorem Collects.append (collects : Collects reports timeSeries) (report : Report)
    (missing : timeSeries.find? (fun t => t.tsReference = report.reference) = none) :
    Collects (reports ++ [report]) (timeSeries ++ [report.series]) := by
  have nothing := collects.find_none missing
  have absent : ∀ series ∈ timeSeries, series.tsReference ≠ report.reference := by
    intro series member
    simpa using List.find?_eq_none.mp missing series member
  constructor
  · rw [List.map_append, List.nodup_append]
    refine ⟨collects.distinct, by simp, ?_⟩
    intro reference known other added
    obtain ⟨series, member, rfl⟩ := List.mem_map.mp known
    have isNew : other = report.reference := by simpa [Report.series] using added
    rw [isNew]
    exact absent series member
  · intro series
    rw [List.mem_append, List.mem_singleton]
    by_cases same : report.reference = series.tsReference
    · rw [← same, collected_snoc_same, nothing, Option.some.injEq]
      constructor
      · rintro (member | isNew)
        · exact absurd same.symm (absent series member)
        · exact isNew.symm
      · exact fun isNew => .inr isNew.symm
    · rw [collected_snoc_other _ _ same, ← collects.exact series]
      constructor
      · rintro (member | isNew)
        · exact member
        · exact absurd (by rw [isNew]; rfl) same
      · exact .inl

theorem Collects.update (collects : Collects reports timeSeries) (report : Report) {old : TimeSeries}
    (found : timeSeries.find? (fun t => t.tsReference = report.reference) = some old) :
    Collects (reports ++ [report])
      (updateSeries report.reference
        (fun ts => { ts with timeStamp := report.time, values := ts.values.modifyHead fun _ => report.value })
        timeSeries) := by
  have member := List.mem_of_find?_eq_some found
  have named : old.tsReference = report.reference := by simpa using List.find?_some found
  have before := (collects.exact old).mp member
  rw [named] at before
  have single : ∀ {series : TimeSeries}, collected reports report.reference = some series →
      series.values.modifyHead (fun _ => report.value) = [report.value] := by
    intro series is
    unfold collected at is
    split at is
    · cases is
      rfl
    · cases is
  constructor
  · have kept := @map_tsReference_updateSeries report.reference
      (fun ts => { ts with timeStamp := report.time, values := ts.values.modifyHead fun _ => report.value })
      (fun _ => rfl) timeSeries
    rw [kept]
    exact collects.distinct
  · intro series
    rw [mem_updateSeries collects.distinct]
    by_cases same : report.reference = series.tsReference
    · rw [← same, collected_snoc_same, before, Option.some.injEq]
      constructor
      · rintro (⟨other, otherMember, shared, changed⟩ | ⟨_, differs⟩)
        · have others := (collects.exact other).mp otherMember
          rw [shared, before] at others
          cases others
          rw [changed, single before]
        · exact absurd rfl differs
      · intro changed
        refine .inl ⟨old, member, named, ?_⟩
        rw [← changed, single before]
    · rw [collected_snoc_other _ _ same, ← collects.exact series]
      constructor
      · rintro (⟨other, _, shared, changed⟩ | ⟨kept, _⟩)
        · rw [changed] at same
          exact absurd shared.symm same
        · exact kept
      · exact fun kept => .inr ⟨kept, Ne.symm same⟩

theorem Collects.addReport (collects : Collects reports timeSeries) (report : Report) :
    Collects (reports ++ [report]) (Iccp.addReport timeSeries report) := by
  unfold Iccp.addReport
  split
  next missing => exact collects.append report missing
  next old found => exact collects.update report found

theorem collects_foldl (reports : List Report) : Collects reports (reports.foldl Iccp.addReport []) := by
  induction reports using List.reverseRecOn with
  | nil => exact ⟨List.nodup_nil, fun series => by simp [collected_nil]⟩
  | append_singleton reports report ih =>
      rw [List.foldl_append]
      exact ih.addReport report

end Series

section Runs

variable {logic : IccpLogic} {call : ReportValue} {message : TimeSeriesContract}

theorem addMessageValue_untimed (untimed : call.pointValue.hasTimeStamp = false) (message : TimeSeriesContract) :
    addMessageValue logic call (some message) = (.ok (), some message) := by
  rw [addMessageValue, Program.bind_of_ok (Program.read_run id (some message))]
  simp [untimed]

theorem addMessageValue_found {found : Option (String × String)} (timed : call.pointValue.hasTimeStamp = true)
    (returns : logic.findReference call = .ok found) (message : TimeSeriesContract) :
    addMessageValue logic call (some message) =
      (match found with
        | none => pure ()
        | some (externalReference, valueUnit) => do
            let time ← Program.ofExcept (fromUnixTimeMilliseconds call.pointValue.milliseconds)
            match message.timeSeries.find? fun t => t.tsReference = externalReference with
            | none => do
                let value ← Program.ofExcept (valueAsString call.pointValue.value)
                changeSeries fun timeSeries => timeSeries ++ [⟨externalReference, time, valueUnit, [value]⟩]
            | some _ => do
                changeSeries (updateSeries externalReference fun ts => { ts with timeStamp := time })
                let value ← Program.ofExcept (valueAsString call.pointValue.value)
                changeSeries (updateSeries externalReference fun ts =>
                  { ts with values := ts.values.modifyHead fun _ => value }) : MessageProgram Unit)
        (some message) := by
  rw [addMessageValue, Program.bind_of_ok (Program.read_run id (some message))]
  simp only [timed, Bool.true_eq_false, ↓reduceIte, id_eq]
  rw [Program.bind_of_ok (Program.ofExcept_run _ _ |>.trans (by rw [returns]))]
  cases found <;> rfl

theorem fromUnixTimeMilliseconds_inRange {milliseconds : Int} (inRange : InRange milliseconds) :
    fromUnixTimeMilliseconds milliseconds = .ok milliseconds := if_pos inRange

theorem addMessageValue_outOfRange {mapped : String × String} (timed : call.pointValue.hasTimeStamp = true)
    (returns : logic.findReference call = .ok (some mapped)) (outside : ¬InRange call.pointValue.milliseconds)
    (message : TimeSeriesContract) :
    (addMessageValue logic call (some message)).1 = .error (.other "ArgumentOutOfRangeException") := by
  have raises : fromUnixTimeMilliseconds call.pointValue.milliseconds =
      .error (.other "ArgumentOutOfRangeException") := if_neg outside
  rw [addMessageValue_found timed returns]
  simp only [raises]
  rw [Program.bind_of_error (Program.ofExcept_run _ _)]

theorem addMessageValue_noNumber {mapped : String × String} (timed : call.pointValue.hasTimeStamp = true)
    (returns : logic.findReference call = .ok (some mapped)) (inRange : InRange call.pointValue.milliseconds)
    {exception : SystemException} (raises : valueAsString call.pointValue.value = .error exception)
    (message : TimeSeriesContract) : (addMessageValue logic call (some message)).1 = .error exception := by
  rw [addMessageValue_found timed returns]
  simp only [raises, fromUnixTimeMilliseconds_inRange inRange]
  rw [Program.bind_of_ok (Program.ofExcept_run _ _)]
  cases message.timeSeries.find? fun t => t.tsReference = mapped.1 with
  | none =>
      dsimp only
      rw [Program.bind_of_error (Program.ofExcept_run _ _)]
  | some old =>
      simp only [changeSeries]
      rw [Program.bind_of_ok (Program.change_run _ _), Program.bind_of_error (Program.ofExcept_run _ _)]

theorem addMessageValue_mapped {report : Report} (accepted : Accepted logic call)
    (reports : reportOf logic call = some report) (message : TimeSeriesContract) :
    addMessageValue logic call (some message) =
      (.ok (), some { message with timeSeries := addReport message.timeSeries report }) := by
  unfold reportOf at reports
  split at reports
  next timed =>
    obtain ⟨mapped, found, rfl⟩ := Option.map_eq_some_iff.mp reports
    obtain ⟨other, returns⟩ := (findReference_returns_iff logic call).mpr accepted.domain
    have same : other = some mapped := (mapping_of_found returns).symm.trans found
    rw [same] at returns
    have inRange := accepted.time (by simp [found])
    have number := valueAsString_of_number (accepted.value (by simp [found]))
    rw [addMessageValue_found timed returns]
    simp only [fromUnixTimeMilliseconds_inRange inRange]
    rw [Program.bind_of_ok (Program.ofExcept_run _ _), number]
    simp only [addReport]
    cases old : message.timeSeries.find? fun t => t.tsReference = mapped.1 with
    | none =>
        dsimp only
        rw [Program.bind_of_ok (Program.ofExcept_run _ _)]
        rfl
    | some series =>
        simp only [changeSeries]
        rw [Program.bind_of_ok (Program.change_run _ _), Program.bind_of_ok (Program.ofExcept_run _ _),
          Program.change_run]
        simp only [Option.map_some]
        rw [(@updateSeries_updateSeries _ (fun ts => { ts with timeStamp := call.pointValue.milliseconds })) (fun _ => rfl)]
        rfl
  next => cases reports

theorem addMessageValue_unmapped (accepted : Accepted logic call) (nothing : reportOf logic call = none)
    (message : TimeSeriesContract) : addMessageValue logic call (some message) = (.ok (), some message) := by
  cases timed : call.pointValue.hasTimeStamp with
  | false => exact addMessageValue_untimed timed message
  | true =>
      obtain ⟨found, returns⟩ := (findReference_returns_iff logic call).mpr accepted.domain
      have unmapped : found = none := by
        rw [← mapping_of_found returns]
        simpa [reportOf, timed] using nothing
      rw [unmapped] at returns
      rw [addMessageValue_found timed returns]
      rfl

theorem addMessageValue_raised {exception : SystemException} (timed : call.pointValue.hasTimeStamp = true)
    (raises : logic.findReference call = .error exception) (message : TimeSeriesContract) :
    (addMessageValue logic call (some message)).1 = .error exception := by
  rw [addMessageValue, Program.bind_of_ok (Program.read_run id (some message))]
  simp only [timed, Bool.true_eq_false, ↓reduceIte, id_eq, raises]
  rw [Program.bind_of_error (Program.ofExcept_run _ _)]

theorem addMessageValue_returns_iff (message : TimeSeriesContract) :
    (addMessageValue logic call (some message)).1 = .ok () ↔
      (call.pointValue.hasTimeStamp = true → Accepted logic call) := by
  constructor
  · intro returned timed
    cases returns : logic.findReference call with
    | error exception =>
        rw [addMessageValue_raised timed returns] at returned
        cases returned
    | ok found =>
        have domain := (findReference_returns_iff logic call).mp ⟨found, returns⟩
        have mapped := mapping_of_found returns
        cases found with
        | none => exact ⟨domain, fun is => absurd mapped is, fun is => absurd mapped is⟩
        | some reference =>
            by_cases inRange : InRange call.pointValue.milliseconds
            · cases text : valueAsString call.pointValue.value with
              | ok value => exact ⟨domain, fun _ => inRange, fun _ => isNumber_of_valueAsString text⟩
              | error exception =>
                  rw [addMessageValue_noNumber timed returns inRange text] at returned
                  cases returned
            · rw [addMessageValue_outOfRange timed returns inRange] at returned
              cases returned
  · intro accepted
    cases timed : call.pointValue.hasTimeStamp with
    | false => rw [addMessageValue_untimed timed]
    | true =>
        cases reports : reportOf logic call with
        | none => rw [addMessageValue_unmapped (accepted timed) reports]
        | some report => rw [addMessageValue_mapped (accepted timed) reports]

def reportsOf (logic : IccpLogic) (calls : List ReportValue) : List Report := calls.filterMap (reportOf logic)

theorem reportOf_untimed (untimed : call.pointValue.hasTimeStamp = false) : reportOf logic call = none := by
  simp [reportOf, untimed]

theorem addMessageValue_returned (message : TimeSeriesContract)
    (returned : (addMessageValue logic call (some message)).1 = .ok ()) :
    addMessageValue logic call (some message) =
      (.ok (), some { message with timeSeries := (reportOf logic call).toList.foldl addReport message.timeSeries }) := by
  have accepted := (addMessageValue_returns_iff message).mp returned
  cases timed : call.pointValue.hasTimeStamp with
  | false =>
      rw [reportOf_untimed timed]
      exact addMessageValue_untimed timed message
  | true =>
      cases reports : reportOf logic call with
      | none => exact addMessageValue_unmapped (accepted timed) reports message
      | some report => exact addMessageValue_mapped (accepted timed) reports message

def addMessageValues (logic : IccpLogic) (calls : List ReportValue) : MessageProgram Unit :=
  Program.forEach (addMessageValue logic) calls

theorem addMessageValues_returns_iff (calls : List ReportValue) (message : TimeSeriesContract) :
    (addMessageValues logic calls (some message)).1 = .ok () ↔
      ∀ call ∈ calls, call.pointValue.hasTimeStamp = true → Accepted logic call := by
  induction calls generalizing message with
  | nil => simp [addMessageValues, Program.forEach]
  | cons call calls ih =>
      have turn := (@addMessageValue_returns_iff logic call) message
      rw [addMessageValues, Program.forEach, List.forall_mem_cons]
      cases run : addMessageValue logic call (some message) with
      | mk result later =>
          rw [run] at turn
          cases result with
          | ok value =>
              have next := (@addMessageValue_returned logic call) message (by rw [run])
              rw [run, Prod.mk.injEq] at next
              rw [Program.bind_of_ok run, ← turn, next.2]
              exact (ih _).trans (by simp)
          | error exception =>
              rw [Program.bind_of_error run, ← turn]
              simp

theorem addMessageValues_returned (calls : List ReportValue) (message : TimeSeriesContract)
    (returned : (addMessageValues logic calls (some message)).1 = .ok ()) :
    (addMessageValues logic calls (some message)).2 =
      some { message with timeSeries := (reportsOf logic calls).foldl addReport message.timeSeries } := by
  induction calls generalizing message with
  | nil => rfl
  | cons call calls ih =>
      rw [addMessageValues, Program.forEach] at returned ⊢
      cases run : addMessageValue logic call (some message) with
      | mk result later =>
          cases result with
          | error exception =>
              rw [Program.bind_of_error run] at returned
              cases returned
          | ok value =>
              have next := (@addMessageValue_returned logic call) message (by rw [run])
              rw [run, Prod.mk.injEq] at next
              rw [Program.bind_of_ok run, next.2] at returned ⊢
              have rest := ih _ returned
              rw [addMessageValues] at rest
              rw [rest, reportsOf, reportsOf, List.filterMap_cons]
              cases reportOf logic call <;> rfl

end Runs

section LastValues

variable (logic : IccpLogic) (calls : List ReportValue)

structure CarriesLastValues (outcome : Except SystemException Unit × Option TimeSeriesContract) : Prop where
  returns : outcome.1 = .ok ()
  message : ∃ message, outcome.2 = some message ∧ (message.timeSeries.map TimeSeries.tsReference).Nodup ∧
    ∀ series, series ∈ message.timeSeries ↔
      (ofReference (reportsOf logic calls) series.tsReference).getLast?.map Report.series = some series

def KeepsUnits : Prop :=
  ∀ reference first last, (ofReference (reportsOf logic calls) reference).head? = some first →
    (ofReference (reportsOf logic calls) reference).getLast? = some last → first.unit = last.unit

variable {logic calls}

theorem ofReference_reference {reports : List Report} {reference : String} {report : Report}
    (member : report ∈ ofReference reports reference) : report.reference = reference := by
  simpa using (List.mem_filter.mp member).2

theorem collected_of_ends {reports : List Report} {reference : String} {first last : Report}
    (starts : (ofReference reports reference).head? = some first)
    (ends : (ofReference reports reference).getLast? = some last) :
    collected reports reference = some ⟨reference, last.time, first.unit, [last.value]⟩ := by
  simp [collected, starts, ends]

theorem head_of_last {A : Type} {items : List A} {last : A} (ends : items.getLast? = some last) :
    ∃ first, items.head? = some first := by
  cases items with
  | nil => cases ends
  | cons first rest => exact ⟨first, rfl⟩

theorem collected_eq_last (keeps : KeepsUnits logic calls) (reference : String) :
    collected (reportsOf logic calls) reference =
      (ofReference (reportsOf logic calls) reference).getLast?.map Report.series := by
  cases ends : (ofReference (reportsOf logic calls) reference).getLast? with
  | none =>
      have empty := List.getLast?_eq_none_iff.mp ends
      simp [collected, empty]
  | some last =>
      obtain ⟨first, starts⟩ := head_of_last ends
      rw [collected_of_ends starts ends, Option.map_some, keeps reference first last starts ends, Report.series,
        ofReference_reference (List.mem_of_getLast? ends)]

/-- Exactly when a report message carries the last value of each mapped point. -/
theorem report_carries_last_values_iff (logic : IccpLogic) (docId origin : String) (calls : List ReportValue) :
    CarriesLastValues logic calls (addMessageValues logic calls (some (createNewMessage docId origin))) ↔
      (∀ call ∈ calls, call.pointValue.hasTimeStamp = true → Accepted logic call) ∧ KeepsUnits logic calls := by
  have collects := collects_foldl (reportsOf logic calls)
  constructor
  · rintro ⟨returns, message, is, _, exact_⟩
    refine ⟨(addMessageValues_returns_iff calls _).mp returns, ?_⟩
    rw [addMessageValues_returned calls _ returns, Option.some.injEq] at is
    subst is
    intro reference first last starts ends
    have found := collected_of_ends starts ends
    have named := collected_tsReference _ _ found
    have member := (collects.exact _).mpr (by rw [named]; exact found)
    have carried := (exact_ _).mp member
    rw [ends, Option.map_some, Option.some.injEq] at carried
    exact (congrArg TimeSeries.measureUnit carried).symm
  · rintro ⟨accepted, keeps⟩
    have returns := (addMessageValues_returns_iff calls (createNewMessage docId origin)).mpr accepted
    refine ⟨returns, _, addMessageValues_returned calls _ returns, collects.distinct, ?_⟩
    intro series
    rw [← collected_eq_last keeps]
    exact collects.exact series

def sharedVariable : ReportValue := ⟨none, "Lines", "Flow", ⟨true, 0, .discrete 1⟩⟩

theorem report_not_always_last_values :
    ¬∀ (logic : IccpLogic) (docId origin : String) (calls : List ReportValue),
      (∀ call ∈ calls, IsNumber call.pointValue.value = true) →
      CarriesLastValues logic calls (addMessageValues logic calls (some (createNewMessage docId origin))) := by
  intro always
  have carries := always (IccpLogic.addDataSetPoint none "Lines" "Flow" ⟨[], []⟩) "1" "SCADA" [sharedVariable]
    (by simp [sharedVariable, IsNumber])
  have accepted := (addMessageValues_returns_iff _ _).mp carries.returns sharedVariable (by simp) rfl
  rcases accepted.domain with dynamic | given
  · exact absurd dynamic (by decide)
  · exact given rfl

end LastValues

end ServiceHost.DataExchange.Iccp
