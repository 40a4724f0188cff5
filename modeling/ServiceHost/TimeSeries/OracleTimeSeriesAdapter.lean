import Mathlib.Algebra.Ring.Int.Defs
import ServiceHost.TimeSeries.OracleTimeSeriesAdapterCore
import ServiceHost.TimeSeries.TsWriteItems

/-!
The unit of the values that `Update` hands to the writer: the units are compared
and the factor between them is found, but the values go over as they came.
-/

namespace ServiceHost

open Library

variable {D F : Type}

inductive UnitConversion (F : Type)
  | unchanged
  | multiply (factor : F)
  | incompatible
deriving DecidableEq

def UnitData.conversion (units : UnitData F) (unit : Option String) (unmeKey : Int) : UnitConversion F :=
  match unit.bind fun unit => if unit = "" then none else units.isUnit unit with
  | none => .unchanged
  | some unitKey =>
      if unitKey = unmeKey then .unchanged
      else match units.isScalable unitKey unmeKey with
        | some factor => .multiply factor
        | none => .incompatible

namespace OracleTimeSeriesAdapter

def incompatibleMeasuringUnit : AdapterException :=
  .storage ("The time series measuring unit is not compatible with that of the " ++
    "corresponding database time series.") .incompatibleMeasuringUnit

theorem unitFactor_eq [One F] (adapter : OracleTimeSeriesAdapter D F) (unit : Option String) (row : TimeSeriesRow) :
    adapter.unitFactor unit row = match adapter.units.conversion unit row.unmeKey with
      | .unchanged => .ok 1
      | .multiply factor => .ok factor
      | .incompatible => .error incompatibleMeasuringUnit := by
  cases unit with
  | none => rfl
  | some unit =>
      by_cases empty : unit = ""
      · simp [unitFactor, UnitData.conversion, empty]
      · cases known : adapter.units.isUnit unit with
        | none => simp [unitFactor, UnitData.conversion, empty, known]
        | some unitKey =>
            by_cases same : unitKey = row.unmeKey
            · simp [unitFactor, UnitData.conversion, empty, known, same]
            · cases scalable : adapter.units.isScalable unitKey row.unmeKey with
              | some factor => simp [unitFactor, UnitData.conversion, empty, known, same, scalable]
              | none => simp [unitFactor, UnitData.conversion, empty, known, same, scalable, incompatibleMeasuringUnit]

section Arrays

variable (ts : TimeSeries D) (attributes : SeriesAttributes)

def pointOf (stepType : Int) (tvq : Tvq D) : TsPoint D where
  stepType
  timsKey := attributes.id
  vlcode := 0
  pdtime := tvq.time.toPdtime
  value := tvq.value
  quality := tvq.vq.quality.exposedQuality
  readKey := some 0
  reptKey := some 0
  reasKey := some 0
  rtp := UtcTime.null
  paraFlag := attributes.paraflag
  lcDate := attributes.lastCorrectedDate

def givenArrays : OptionalArrays := ⟨false, true, true⟩

theorem foldlM_fillPoint {stepType : Int} (steps : ts.resolution.steptype = .ok stepType) (tvqs : List (Tvq D)) :
    tvqs.foldlM (fillPoint ts attributes) emptyPoints =
      .ok (.ofPoints givenArrays (tvqs.map (pointOf attributes stepType))) := by
  suffices general : ∀ list, tvqs.foldlM (fillPoint ts attributes) (.ofPoints givenArrays list) =
      .ok (.ofPoints givenArrays (list ++ tvqs.map (pointOf attributes stepType))) from general []
  induction tvqs with
  | nil => simp
  | cons tvq tvqs ih =>
      intro list
      have filled : fillPoint ts attributes (.ofPoints givenArrays list) tvq =
          .ok (.ofPoints givenArrays (list ++ [pointOf attributes stepType tvq])) := by
        simp [fillPoint, steps, PointArrays.ofPoints, OptionalArrays.array, givenArrays, pointOf]
      rw [List.foldlM_cons, filled, ok_bind, ih]
      simp

end Arrays

section Property

variable [One F] [DoubleArithmetic D] (toDouble : F → D) (adapter : OracleTimeSeriesAdapter D F) (ts : TimeSeries D)
  (unit : Option String) (row : TimeSeriesRow)

def Delivers (convert : D → D) (state later : AdapterState D) : Prop :=
  ∃ added, later.arrays = state.arrays ++ added ∧
    (added.flatMap fun arguments => arguments.points.ts) = ts.tvqs.map (fun tvq => tvq.time.toPdtime) ∧
    (added.flatMap fun arguments => arguments.points.vs) = ts.tvqs.map (fun tvq => convert tvq.value) ∧
    (added.flatMap fun arguments => arguments.points.qs) = ts.tvqs.map fun tvq => tvq.vq.quality.exposedQuality

def KeepsUnit (state : AdapterState D)
    (finish : Except AdapterException (List (TvqStorageStatus D)) × AdapterState D) : Prop :=
  match adapter.units.conversion unit row.unmeKey with
  | .unchanged => Delivers ts id state finish.2
  | .multiply factor => Delivers ts (fun value => DoubleArithmetic.mul value (toDouble factor)) state finish.2
  | .incompatible =>
      (∃ message, finish.1 = .error (.storage message .incompatibleMeasuringUnit)) ∧
        finish.2.arrays = state.arrays ∧ finish.2.written = state.written

def Accepts : Prop :=
  (adapter.autoCommit = true → adapter.openTransaction = none) ∧ resolutionMatches ts row = true

structure Writable : Prop where
  lcdate : ∃ date, adapter.databaseCalendar.ofDatabaseString row.lcdate = .ok date
  lvdate : ∃ date, adapter.databaseCalendar.ofDatabaseString row.lvdate = .ok date
  first : ∀ tvq ∈ ts.tvqs.head?, ∃ text, adapter.databaseCalendar.toDatabaseString tvq.time = .ok text
  last : ∀ tvq ∈ ts.tvqs.getLast?, ∃ text, adapter.databaseCalendar.toDatabaseString tvq.time = .ok text
  steptype : ∃ stepType, ts.resolution.steptype = .ok stepType

def Convertible : Prop :=
  match adapter.units.conversion unit row.unmeKey with
  | .unchanged => ts.tvqs = [] ∨ Accepts adapter ts row ∧ Writable adapter ts row
  | .multiply factor => ts.tvqs = [] ∨ Accepts adapter ts row ∧ Writable adapter ts row ∧
      ∀ tvq ∈ ts.tvqs, DoubleArithmetic.mul tvq.value (toDouble factor) = tvq.value
  | .incompatible => Accepts adapter ts row

end Property

section Update

variable [One F] {adapter : OracleTimeSeriesAdapter D F} {ts : TimeSeries D} {unit : Option String} {row : TimeSeriesRow}
  {state : AdapterState D}

omit [One F] in
theorem writeArguments_eq_ok_iff {attributes : SeriesAttributes} {first last : Tvq D} (some_ : ts.tvqs ≠ []) (factor : F) :
    (∃ arguments, adapter.writeArguments ts attributes first last factor = .ok arguments) ↔
      (∃ text, adapter.databaseCalendar.toDatabaseString first.time = .ok text) ∧
        (∃ text, adapter.databaseCalendar.toDatabaseString last.time = .ok text) ∧
        ∃ stepType, ts.resolution.steptype = .ok stepType := by
  simp only [writeArguments, bind_eq_ok_iff]
  constructor
  · rintro ⟨_, start, startRun, finish, finishRun, points, filled, _⟩
    refine ⟨⟨start, startRun⟩, ⟨finish, finishRun⟩, ?_⟩
    cases present : ts.tvqs with
    | nil => exact absurd present some_
    | cons tvq tvqs =>
        rw [present, List.foldlM_cons, bind_eq_ok_iff] at filled
        obtain ⟨_, firstFilled, _⟩ := filled
        simp only [fillPoint, bind_eq_ok_iff] at firstFilled
        obtain ⟨stepType, steps, _⟩ := firstFilled
        exact ⟨stepType, steps⟩
  · rintro ⟨⟨start, startRun⟩, ⟨finish, finishRun⟩, stepType, steps⟩
    exact ⟨_, start, startRun, finish, finishRun, _, foldlM_fillPoint ts attributes steps ts.tvqs, rfl⟩

omit [One F] in
theorem writeArguments_points {attributes : SeriesAttributes} {first last : Tvq D} {factor : F} {stepType : Int}
    {arguments : WriteArguments D} (steps : ts.resolution.steptype = .ok stepType)
    (run : adapter.writeArguments ts attributes first last factor = .ok arguments) :
    arguments.points = .ofPoints givenArrays (ts.tvqs.map (pointOf attributes stepType)) := by
  simp only [writeArguments, bind_eq_ok_iff, foldlM_fillPoint ts attributes steps] at run
  obtain ⟨_, _, _, _, points, filled, same⟩ := run
  cases filled
  cases same
  rfl

omit [One F] in
theorem liftSystem_keeps {A V : Type} {view : AdapterState D → V} (outcome : Except SystemException A) :
    Program.Keeps view (liftSystem outcome) := Program.Keeps.ofExcept _

omit [One F] in
theorem writeItems_keeps (arguments : WriteArguments D) :
    Program.Keeps AdapterState.arrays (adapter.writeItems arguments) :=
  Program.Keeps.bind (liftSystem_keeps _) fun _ =>
    Program.Keeps.bind (Program.Keeps.change fun _ => rfl) fun _ => Program.Keeps.call _

omit [One F] in
theorem write_arrays {first last : Tvq D} (head : ts.tvqs.head? = some first) (tail : ts.tvqs.getLast? = some last)
    (factor : F) (state : AdapterState D) :
    (adapter.write ts factor state).2.arrays =
      state.arrays ++ (adapter.writeArguments ts state.attributes first last factor).toOption.toList := by
  simp only [write, head, tail]
  rw [Program.bind_of_ok (Program.read_run AdapterState.attributes state)]
  cases run : adapter.writeArguments ts state.attributes first last factor with
  | error exception =>
      rw [liftSystem, Program.bind_of_error (Program.ofExcept_run _ state)]
      simp [Except.toOption]
  | ok arguments =>
      rw [liftSystem, Program.bind_of_ok (Program.ofExcept_run _ state),
        Program.bind_of_ok (Program.change_run _ state), writeItems_keeps arguments _]
      rfl

omit [One F] in
theorem commit_keeps : Program.Keeps AdapterState.arrays adapter.commit := by
  rw [commit]
  split
  · exact Program.Keeps.bind (Program.Keeps.call _) fun _ => Program.Keeps.change fun _ => rfl
  · exact Program.Keeps.pure ()

omit [One F] in
theorem storeSeries_arrays (factor : F) (state : AdapterState D) :
    (adapter.storeSeries ts factor state).2.arrays = (adapter.write ts factor state).2.arrays := by
  rw [storeSeries, Program.Keeps.after_bind AdapterState.arrays,
    Program.Keeps.after_handle AdapterState.arrays, Program.Keeps.after_bind AdapterState.arrays]
  · exact fun _ => Program.Keeps.pure _
  · intro exception
    cases exception with
    | storage message status => exact Program.Keeps.raise _
    | icc message => exact Program.Keeps.pure _
    | database message => exact Program.Keeps.raise _
    | system exception => exact Program.Keeps.raise _
  · exact fun _ => Program.Keeps.bind commit_keeps fun _ => Program.Keeps.pure _

def attributesOf (row : TimeSeriesRow) (lastCorrectedDate lastValidatedDate : UtcTime) : SeriesAttributes :=
  ⟨row.timsKey, row.paraflag, lastCorrectedDate, lastValidatedDate⟩

omit [One F] in
theorem copyAttributes_run {lastCorrectedDate lastValidatedDate : UtcTime}
    (lcdate : adapter.databaseCalendar.ofDatabaseString row.lcdate = .ok lastCorrectedDate)
    (lvdate : adapter.databaseCalendar.ofDatabaseString row.lvdate = .ok lastValidatedDate) (state : AdapterState D) :
    adapter.copyAttributes row state =
      (.ok (), { state with attributes := attributesOf row lastCorrectedDate lastValidatedDate }) := by
  simp only [copyAttributes, lcdate, lvdate]
  rfl

omit [One F] in
theorem copyAttributes_keeps (row : TimeSeriesRow) :
    Program.Keeps AdapterState.arrays (adapter.copyAttributes row) :=
  Program.Keeps.bind (Program.Keeps.change fun _ => rfl) fun _ => Program.Keeps.bind (liftSystem_keeps _) fun _ =>
    Program.Keeps.bind (Program.Keeps.change fun _ => rfl) fun _ => Program.Keeps.bind (liftSystem_keeps _) fun _ =>
      Program.Keeps.change fun _ => rfl

omit [One F] in
theorem copyAttributes_reads {state later : AdapterState D} (run : adapter.copyAttributes row state = (.ok (), later)) :
    (∃ date, adapter.databaseCalendar.ofDatabaseString row.lcdate = .ok date) ∧
      ∃ date, adapter.databaseCalendar.ofDatabaseString row.lvdate = .ok date := by
  cases lcdate : adapter.databaseCalendar.ofDatabaseString row.lcdate with
  | error exception =>
      simp only [copyAttributes, lcdate] at run
      cases congrArg Prod.fst run
  | ok lastCorrectedDate =>
      cases lvdate : adapter.databaseCalendar.ofDatabaseString row.lvdate with
      | error exception =>
          simp only [copyAttributes, lcdate, lvdate] at run
          cases congrArg Prod.fst run
      | ok lastValidatedDate => exact ⟨⟨_, rfl⟩, ⟨_, rfl⟩⟩

theorem update_opens (opens : adapter.autoCommit = true → adapter.openTransaction = none) (state : AdapterState D) :
    adapter.update ts unit state = adapter.updateSeries ts unit state := by
  rw [update]
  cases commits : adapter.autoCommit with
  | false => rfl
  | true =>
      simp only [if_true, opens commits]
      rfl

theorem updateSeries_accepts (found : adapter.fetch ts.name = .ok (some row))
    (accepted : resolutionMatches ts row = true) (state : AdapterState D) :
    adapter.updateSeries ts unit state = (Program.ofExcept (adapter.unitFactor unit row) >>= fun factor =>
      adapter.copyAttributes row >>= fun _ => adapter.storeSeries ts factor) state := by
  rw [updateSeries, found, Program.bind_of_ok (Program.ofExcept_run _ state)]
  simp only [accepted, Bool.not_true, Bool.false_eq_true, if_false]

theorem update_run {factor : F} (found : adapter.fetch ts.name = .ok (some row)) (accepts : Accepts adapter ts row)
    (known : adapter.unitFactor unit row = .ok factor) (state : AdapterState D) :
    adapter.update ts unit state = (adapter.copyAttributes row >>= fun _ => adapter.storeSeries ts factor) state := by
  rw [update_opens accepts.1, updateSeries_accepts found accepts.2, known,
    Program.bind_of_ok (Program.ofExcept_run _ state)]

theorem update_incompatible (found : adapter.fetch ts.name = .ok (some row)) (accepts : Accepts adapter ts row)
    (incompatible : adapter.unitFactor unit row = .error incompatibleMeasuringUnit) (state : AdapterState D) :
    adapter.update ts unit state = (.error incompatibleMeasuringUnit, state) := by
  rw [update_opens accepts.1, updateSeries_accepts found accepts.2, incompatible,
    Program.bind_of_error (Program.ofExcept_run _ state)]

theorem update_refused (found : adapter.fetch ts.name = .ok (some row)) (refused : ¬Accepts adapter ts row)
    (state : AdapterState D) : (adapter.update ts unit state).2 = state ∧
      ∀ message, (adapter.update ts unit state).1 ≠ .error (.storage message .incompatibleMeasuringUnit) := by
  by_cases opens : adapter.autoCommit = true → adapter.openTransaction = none
  · have mismatch : resolutionMatches ts row = false := by
      cases same : resolutionMatches ts row with
      | false => rfl
      | true => exact absurd ⟨opens, same⟩ refused
    have run : adapter.update ts unit state =
        (.error (.storage "The time series resolution does not match the corresponding database time series."
          .invalidResolution), state) := by
      rw [update_opens opens, updateSeries, found, Program.bind_of_ok (Program.ofExcept_run _ state)]
      simp only [mismatch, Bool.not_false, if_true]
      rfl
    rw [run]
    exact ⟨rfl, fun _ same => by cases same⟩
  · obtain ⟨commits, failure⟩ := Classical.not_imp.mp opens
    obtain ⟨text, raised⟩ := Option.ne_none_iff_exists'.mp failure
    have run : adapter.update ts unit state = (.error (.database text), state) := by
      simp only [update, commits, if_true, raised]
      rfl
    rw [run]
    exact ⟨rfl, fun _ same => by cases same⟩

theorem update_arrays {factor : F} (found : adapter.fetch ts.name = .ok (some row))
    (known : adapter.unitFactor unit row = .ok factor) (some_ : ts.tvqs ≠ []) (state : AdapterState D) :
    (Accepts adapter ts row ∧ Writable adapter ts row → ∃ arguments attributes stepType,
      (adapter.update ts unit state).2.arrays = state.arrays ++ [arguments] ∧
        arguments.points = .ofPoints givenArrays (ts.tvqs.map (pointOf attributes stepType))) ∧
    (¬(Accepts adapter ts row ∧ Writable adapter ts row) → (adapter.update ts unit state).2.arrays = state.arrays) := by
  obtain ⟨first, head⟩ : ∃ first, ts.tvqs.head? = some first := ⟨_, List.head?_eq_some_head some_⟩
  obtain ⟨last, tail⟩ : ∃ last, ts.tvqs.getLast? = some last := ⟨_, List.getLast?_eq_some_getLast some_⟩
  constructor
  · rintro ⟨accepts, ⟨lastCorrectedDate, lcdate⟩, ⟨lastValidatedDate, lvdate⟩, firstText, lastText, stepType, steps⟩
    have put : ∃ arguments, adapter.writeArguments ts (attributesOf row lastCorrectedDate lastValidatedDate)
        first last factor = .ok arguments :=
      (writeArguments_eq_ok_iff some_ factor).mpr ⟨firstText first head, lastText last tail, stepType, steps⟩
    obtain ⟨arguments, run⟩ := put
    refine ⟨arguments, _, stepType, ?_, writeArguments_points steps run⟩
    rw [update_run found accepts known, Program.bind_of_ok (copyAttributes_run lcdate lvdate state),
      storeSeries_arrays, write_arrays head tail, run]
    rfl
  · intro refused
    by_cases accepts : Accepts adapter ts row
    · rw [update_run found accepts known]
      cases copied : adapter.copyAttributes row state with
      | mk outcome later =>
          have kept : later.arrays = state.arrays := by
            have keeps : (adapter.copyAttributes row state).2.arrays = state.arrays := copyAttributes_keeps row state
            rwa [copied] at keeps
          cases outcome with
          | error exception =>
              rw [Program.bind_of_error copied]
              exact kept
          | ok _ =>
              rw [Program.bind_of_ok copied, storeSeries_arrays, write_arrays head tail, kept]
              cases run : adapter.writeArguments ts later.attributes first last factor with
              | error exception => simp [Except.toOption]
              | ok arguments =>
                  obtain ⟨firstText, lastText, steps⟩ := (writeArguments_eq_ok_iff some_ factor).mp ⟨arguments, run⟩
                  obtain ⟨lcdate, lvdate⟩ := copyAttributes_reads copied
                  have writable : Writable adapter ts row := by
                    refine ⟨lcdate, lvdate, fun tvq member => ?_, fun tvq member => ?_, steps⟩
                    · obtain rfl : first = tvq := Option.some.inj (head.symm.trans member)
                      exact firstText
                    · obtain rfl : last = tvq := Option.some.inj (tail.symm.trans member)
                      exact lastText
                  exact absurd ⟨accepts, writable⟩ refused
    · rw [(update_refused found accepts state).1]

theorem update_empty (found : adapter.fetch ts.name = .ok (some row)) (empty : ts.tvqs = []) (state : AdapterState D) :
    (adapter.update ts unit state).2.arrays = state.arrays := by
  by_cases accepts : Accepts adapter ts row
  · cases known : adapter.unitFactor unit row with
    | error exception =>
        rw [update_opens accepts.1, updateSeries_accepts found accepts.2, known,
          Program.bind_of_error (Program.ofExcept_run _ state)]
    | ok factor =>
        have stores : Program.Keeps AdapterState.arrays (adapter.storeSeries ts factor) := by
          intro state
          rw [storeSeries_arrays, write, empty]
          rfl
        rw [update_run found accepts known, Program.Keeps.after_bind AdapterState.arrays (fun _ => stores),
          copyAttributes_keeps row state]
  · rw [(update_refused found accepts state).1]

section Delivers

variable {convert : D → D} {later : AdapterState D}

omit [One F]

theorem delivers_nothing (kept : later.arrays = state.arrays) : Delivers ts convert state later ↔ ts.tvqs = [] := by
  constructor
  · rintro ⟨added, extended, times, _⟩
    have none : added = [] := List.append_cancel_left (extended.symm.trans (kept.trans (List.append_nil _).symm))
    rw [none] at times
    exact List.map_eq_nil_iff.mp times.symm
  · intro empty
    refine ⟨[], by rw [kept, List.append_nil], ?_⟩
    rw [empty]
    exact ⟨rfl, rfl, rfl⟩

theorem delivers_points {arguments : WriteArguments D} {attributes : SeriesAttributes} {stepType : Int}
    (extended : later.arrays = state.arrays ++ [arguments])
    (points : arguments.points = .ofPoints givenArrays (ts.tvqs.map (pointOf attributes stepType))) :
    Delivers ts convert state later ↔ ∀ tvq ∈ ts.tvqs, convert tvq.value = tvq.value := by
  have values : arguments.points.vs = ts.tvqs.map fun tvq => tvq.value := by
    rw [points]
    exact List.map_map
  constructor
  · rintro ⟨added, others, _, same, _⟩
    have single : added = [arguments] := List.append_cancel_left (others.symm.trans extended)
    rw [single, List.flatMap_singleton, values] at same
    exact fun tvq member => (List.map_inj_left.mp same tvq member).symm
  · intro same
    refine ⟨[arguments], extended, ?_, ?_, ?_⟩
    · rw [List.flatMap_singleton, points]
      exact List.map_map
    · rw [List.flatMap_singleton, values]
      exact List.map_congr_left fun tvq member => (same tvq member).symm
    · rw [List.flatMap_singleton, points]
      exact List.map_map

end Delivers

theorem delivers_iff {factor : F} {convert : D → D} (found : adapter.fetch ts.name = .ok (some row))
    (known : adapter.unitFactor unit row = .ok factor) (state : AdapterState D) :
    Delivers ts convert state (adapter.update ts unit state).2 ↔
      ts.tvqs = [] ∨ Accepts adapter ts row ∧ Writable adapter ts row ∧
        ∀ tvq ∈ ts.tvqs, convert tvq.value = tvq.value := by
  by_cases empty : ts.tvqs = []
  · rw [delivers_nothing (update_empty found empty state)]
    simp [empty]
  · obtain ⟨hands, refuses⟩ := update_arrays found known empty state
    by_cases goes : Accepts adapter ts row ∧ Writable adapter ts row
    · obtain ⟨arguments, attributes, stepType, extended, points⟩ := hands goes
      rw [delivers_points extended points]
      simp [empty, goes.1, goes.2]
    · rw [delivers_nothing (refuses goes)]
      constructor
      · intro nothing
        exact absurd nothing empty
      · rintro (nothing | ⟨accepts, writable, _⟩)
        · exact nothing
        · exact absurd ⟨accepts, writable⟩ goes

end Update

/-- `Update` stores in the unit of the database exactly where there is nothing to convert. -/
theorem update_keepsUnit_iff [One F] [DoubleArithmetic D] (toDouble : F → D) (adapter : OracleTimeSeriesAdapter D F)
    (ts : TimeSeries D) (unit : Option String) (row : TimeSeriesRow) (state : AdapterState D)
    (found : adapter.fetch ts.name = .ok (some row)) :
    KeepsUnit toDouble adapter ts unit row state (adapter.update ts unit state) ↔
      Convertible toDouble adapter ts unit row := by
  have factor := unitFactor_eq adapter unit row
  rw [KeepsUnit, Convertible]
  cases conversion : adapter.units.conversion unit row.unmeKey with
  | unchanged =>
      rw [conversion] at factor
      simp only [delivers_iff found factor, id, implies_true, and_true]
  | multiply known =>
      rw [conversion] at factor
      exact delivers_iff found factor state
  | incompatible =>
      rw [conversion] at factor
      constructor
      · rintro ⟨⟨message, raised⟩, _⟩
        by_contra refused
        exact (update_refused found refused state).2 message raised
      · intro accepts
        rw [update_incompatible found accepts factor]
        exact ⟨⟨_, rfl⟩, rfl, rfl⟩

def energyUnits : UnitData Int where
  unmeaTp code := if code = "MWh" then some 1 else if code = "kWh" then some 2 else none
  unmeaRescaleTp fromUnitKey toUnitKey := if fromUnitKey = 1 ∧ toUnitKey = 2 then some 1000 else none

def hourlyRow (unmeKey : Int) : TimeSeriesRow := ⟨17, .hour, 0, unmeKey, 0, none, none⟩

def energyAdapter (row : TimeSeriesRow) : OracleTimeSeriesAdapter Int Int where
  autoCommit := true
  openTransaction := none
  commitTransaction := none
  timeser _ := .ok (some row)
  units := energyUnits
  pddbenv _ := none
  databaseCalendar := .utcCalendar
  currentNT := .utcCalendar
  writeValues _ := none

def hourlySeries (value : Int) : TimeSeries Int :=
  ⟨some "/plant/production", .hour,
    ⟨[(⟨.createFromPdtime 1577836800, .point⟩, ⟨value, ⟨0#32, 0#32⟩⟩)], List.pairwise_singleton _ _⟩⟩

def idle : AdapterState Int := ⟨⟨0, 0, .null, .null⟩, [], [], 0⟩

theorem update_keepsUnit_iff_sameUnit :
    KeepsUnit id (energyAdapter (hourlyRow 2)) (hourlySeries 5) (some "kWh") (hourlyRow 2) idle
      ((energyAdapter (hourlyRow 2)).update (hourlySeries 5) (some "kWh") idle) := by
  apply (update_keepsUnit_iff id (energyAdapter (hourlyRow 2)) (hourlySeries 5) (some "kWh") (hourlyRow 2) idle
    rfl).mpr
  change _ ∨ _
  refine Or.inr ⟨⟨fun _ => rfl, by decide⟩, ⟨⟨_, rfl⟩, ⟨_, rfl⟩, ?_, ?_, ⟨4, by decide⟩⟩⟩
  · rintro tvq ⟨⟩
    exact ⟨_, rfl⟩
  · rintro tvq ⟨⟩
    exact ⟨_, rfl⟩

/-- Five megawatt hours are handed over as five kilowatt hours. -/
theorem update_losesFactor :
    ((energyAdapter (hourlyRow 2)).update (hourlySeries 5) (some "MWh") idle).2.arrays.flatMap
        (fun arguments => arguments.points.vs) = [5] ∧
      ¬KeepsUnit id (energyAdapter (hourlyRow 2)) (hourlySeries 5) (some "MWh") (hourlyRow 2) idle
        ((energyAdapter (hourlyRow 2)).update (hourlySeries 5) (some "MWh") idle) := by
  have handed : ((energyAdapter (hourlyRow 2)).update (hourlySeries 5) (some "MWh") idle).2.arrays.flatMap
      (fun arguments => arguments.points.vs) = [5] := by decide +kernel
  refine ⟨handed, ?_⟩
  rintro ⟨added, extended, _, values, _⟩
  have others : idle.arrays ++ added = added := List.nil_append added
  rw [extended, others, values] at handed
  exact absurd handed (by decide)

end OracleTimeSeriesAdapter

end ServiceHost
