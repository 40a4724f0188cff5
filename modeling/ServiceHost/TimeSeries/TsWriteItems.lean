import Mathlib.Data.List.Perm.Basic
import ServiceHost.TimeSeries.TsWriteItemsCore

/-!
The parallel arrays seen as lists of points and of periods: what the two loops of
the constructor over the points make of the arrays is what they make of the points,
so the arrays stay parallel.
-/

namespace ServiceHost

open Library

section Arrays

variable {A B : Type} {front back rest : List A} {item : A}

theorem elementAt_map (f : A → B) {items : List A} (split : items = front ++ item :: back) :
    elementAt (items.map f) front.length = .ok (f item) := by
  simp [elementAt, split]

theorem itemAt_map (f : A → B) {items : List A} (split : items = front ++ item :: back) :
    itemAt (items.map f) front.length = .ok (f item) := by
  simp [itemAt, split]

theorem removeAt_map (f : A → B) :
    removeAt ((front ++ item :: rest).map f) front.length = .ok ((front ++ rest).map f) := by
  have erased := List.eraseIdx_append_of_length_le (l := front.map f) (k := front.length) (by simp)
    ((item :: rest).map f)
  simp_all [removeAt]

theorem setAt_map (f : A → B) (changed : A) :
    setAt ((front ++ item :: rest).map f) front.length (f changed) = .ok ((front ++ changed :: rest).map f) := by
  simp [setAt]

theorem map_pair {C : Type} {f : A → B} {g : A → C} {left right : List A} (first : left.map f = right.map f)
    (second : left.map g = right.map g) : (left.map fun item => (f item, g item)) = right.map fun item => (f item, g item) := by
  induction left generalizing right with
  | nil =>
      cases right with
      | nil => rfl
      | cons _ _ => cases first
  | cons item left ih =>
      cases right with
      | nil => cases first
      | cons other right =>
          simp only [List.map_cons, List.cons.injEq] at first second ⊢
          exact ⟨Prod.ext first.1 second.1, ih first.2 second.2⟩

end Arrays

structure TsPoint (D : Type) where
  stepType : Int
  timsKey : Int
  vlcode : Int
  pdtime : Int
  value : D
  quality : BitVec 32
  readKey : Option Int
  reptKey : Option Int
  reasKey : Option Int
  rtp : UtcTime
  paraFlag : Int
  lcDate : UtcTime
deriving DecidableEq

structure OptionalArrays where
  rtps : Bool
  paraFlags : Bool
  lcDates : Bool

structure DeletePeriod where
  timsKey : Int
  vlcode : Int
  fromDate17 : Option CodeUnits
  untilDate17 : Option CodeUnits
deriving DecidableEq

def OptionalArrays.array {A B : Type} (present : Bool) (f : A → B) (items : List A) : Option (List B) :=
  if present then some (items.map f) else none

open OptionalArrays (array)

variable {D : Type}

def PointArrays.ofPoints (optional : OptionalArrays) (points : List (TsPoint D)) : PointArrays D where
  stepTypes := points.map TsPoint.stepType
  timsKeys := points.map TsPoint.timsKey
  vlcodes := points.map TsPoint.vlcode
  ts := points.map TsPoint.pdtime
  vs := points.map TsPoint.value
  qs := points.map TsPoint.quality
  readKeys := points.map TsPoint.readKey
  reptKeys := points.map TsPoint.reptKey
  reasKeys := points.map TsPoint.reasKey
  rtps := array optional.rtps TsPoint.rtp points
  paraFlags := array optional.paraFlags TsPoint.paraFlag points
  lcDates := array optional.lcDates TsPoint.lcDate points

def PeriodArrays.ofPeriods (periods : List DeletePeriod) : PeriodArrays where
  timsKeys := periods.map DeletePeriod.timsKey
  vlcodes := periods.map DeletePeriod.vlcode
  fromDate17s := periods.map DeletePeriod.fromDate17
  untilDate17s := periods.map DeletePeriod.untilDate17

namespace TsPoint

def time (point : TsPoint D) : UtcTime := .createFromPdtime point.pdtime

def origPoint (point : TsPoint D) : List (TsPoint D) :=
  if point.paraFlag = 1 ∧ point.vlcode = 0 then [{ point with vlcode := originalValues }] else []

def protect (optional : OptionalArrays) (point : TsPoint D) : Except SystemException (Option (TsPoint D)) := do
  if point.vlcode ≠ 0 then return some point
  if point.lcDate.ticks = Utc.null then return some point
  if ← UtcTime.less point.lcDate point.time then return some point
  if optional.paraFlags then return none else throw .nullReference

def newFromDate (timsKey : Int) (fromDateDel untilDateDel : UtcTime) (point : TsPoint D)
    (newFromDateDel : UtcTime) : Except SystemException UtcTime := do
  if point.vlcode ≠ 0 then return newFromDateDel
  if point.timsKey ≠ timsKey then return newFromDateDel
  if ← UtcTime.greaterOrEqual point.time fromDateDel then
    if ← UtcTime.lessOrEqual point.time untilDateDel then
      if ← UtcTime.less point.time newFromDateDel then return point.time
  return newFromDateDel

end TsPoint

namespace DeletePeriod

def origPeriod (period : DeletePeriod) : List DeletePeriod :=
  if period.vlcode = 0 then [{ period with vlcode := originalValues }] else []

def shorten (calendar : RegionalCalendar) (reduced : List (TsPoint D)) (period : DeletePeriod) :
    Except SystemException (Option DeletePeriod) := do
  if period.vlcode ≠ 0 then return some period
  let fromDateDel ← calendar.ofDatabaseString period.fromDate17
  let untilDateDel ← calendar.ofDatabaseString period.untilDate17
  let newFromDateDel ← reduced.foldrM (TsPoint.newFromDate period.timsKey fromDateDel untilDateDel)
    (← calendar.addSeconds untilDateDel 1)
  if ← UtcTime.lessOrEqual newFromDateDel untilDateDel then
    return some { period with fromDate17 := some (← calendar.toDatabaseString newFromDateDel) }
  return none

end DeletePeriod

namespace PointArrays

variable {optional : OptionalArrays} {points front back rest : List (TsPoint D)} {point : TsPoint D}

structure Parallel (arrays : PointArrays D) (n : Nat) : Prop where
  stepTypes : arrays.stepTypes.length = n
  timsKeys : arrays.timsKeys.length = n
  vlcodes : arrays.vlcodes.length = n
  ts : arrays.ts.length = n
  vs : arrays.vs.length = n
  qs : arrays.qs.length = n
  readKeys : arrays.readKeys.length = n
  reptKeys : arrays.reptKeys.length = n
  reasKeys : arrays.reasKeys.length = n
  rtps : ∀ rtps, arrays.rtps = some rtps → rtps.length = n
  paraFlags : ∀ paraFlags, arrays.paraFlags = some paraFlags → paraFlags.length = n
  lcDates : ∀ lcDates, arrays.lcDates = some lcDates → lcDates.length = n

theorem elementOf_array {B : Type} {present : Bool} (f : TsPoint D → B) (there : present = true)
    (split : points = front ++ point :: back) : elementOf (array present f points) front.length = .ok (f point) := by
  simp [array, there, elementOf, elementAt_map f split]

theorem onOptionalList_add {B : Type} (present : Bool) (f : TsPoint D → B) (split : points = front ++ point :: back)
    (copy : TsPoint D) (kept : f copy = f point) (list : List (TsPoint D)) :
    onOptionalList (array present f list)
        (fun list => do return list ++ [← elementOf (array present f points) front.length]) =
      .ok (array present f (list ++ [copy])) := by
  cases present with
  | false => rfl
  | true =>
      rw [elementOf_array f rfl split]
      simp [onOptionalList, array, kept]

theorem appendOrigPoint_ofPoints (flags : optional.paraFlags = true) (split : points = front ++ point :: back)
    (list : List (TsPoint D)) :
    (ofPoints optional points).appendOrigPoint front.length (ofPoints optional list) =
      .ok (ofPoints optional (list ++ point.origPoint)) := by
  have reads : elementOf (ofPoints optional points).paraFlags front.length = .ok point.paraFlag :=
    elementOf_array TsPoint.paraFlag flags split
  have code : elementAt (ofPoints optional points).vlcodes front.length = .ok point.vlcode := elementAt_map _ split
  by_cases flagged : point.paraFlag = 1
  · by_cases value : point.vlcode = 0
    · have rtps := onOptionalList_add optional.rtps TsPoint.rtp split
        { point with vlcode := originalValues } rfl list
      have lcDates := onOptionalList_add optional.lcDates TsPoint.lcDate split
        { point with vlcode := originalValues } rfl list
      have paraFlags := elementOf_array TsPoint.paraFlag flags split
      simp only [appendOrigPoint, ofPoints, elementAt_map _ split, rtps, lcDates, paraFlags, flagged, value]
      simp [TsPoint.origPoint, flagged, value, flags, array, onList]
    · simp [appendOrigPoint, reads, flagged, code, TsPoint.origPoint, value]
  · simp [appendOrigPoint, reads, flagged, TsPoint.origPoint]

theorem removeAt_ofPoints (dates : optional.lcDates = true) :
    (ofPoints optional (front ++ point :: rest)).removeAt front.length =
      if optional.paraFlags then .ok (ofPoints optional (front ++ rest)) else .error .nullReference := by
  have rtps : onOptionalList (array optional.rtps TsPoint.rtp (front ++ point :: rest))
      (fun list => ServiceHost.removeAt list front.length) = .ok (array optional.rtps TsPoint.rtp (front ++ rest)) := by
    cases optional.rtps with
    | false => rfl
    | true => simp only [array, onOptionalList, removeAt_map, if_true, map_ok]
  simp only [removeAt, ofPoints, removeAt_map, ok_bind, rtps, dates]
  cases flags : optional.paraFlags with
  | false => simp [array, onList]
  | true => simp only [array, onList, removeAt_map, if_true, map_ok, ok_bind, pure_eq_ok]

theorem removeCorrected_ofPoints (dates : optional.lcDates = true) (split : points = front ++ point :: back) :
    (ofPoints optional points).removeCorrected front.length (ofPoints optional (front ++ point :: rest)) =
      (fun kept => ofPoints optional (front ++ (kept.toList ++ rest))) <$> point.protect optional := by
  have code : elementAt (ofPoints optional points).vlcodes front.length = .ok point.vlcode := elementAt_map _ split
  have date : elementOf (ofPoints optional points).lcDates front.length = .ok point.lcDate :=
    elementOf_array TsPoint.lcDate dates split
  have time : (ofPoints optional points).time front.length = .ok point.time := by
    simp only [PointArrays.time, ofPoints, elementAt_map _ split]
    rfl
  simp only [removeCorrected, TsPoint.protect, code, date, time, ok_bind, removeAt_ofPoints dates]
  by_cases value : point.vlcode = 0
  · by_cases noDate : point.lcDate.ticks = Utc.null
    · simp [value, noDate]
    · simp only [value, noDate, ne_eq, not_true_eq_false, if_false]
      cases UtcTime.less point.lcDate point.time with
      | error _ => rfl
      | ok later =>
          cases later with
          | true => rfl
          | false =>
              cases optional.paraFlags with
              | true => rfl
              | false => rfl
  · simp [value]

theorem newFromDate_ofPoints (split : points = front ++ point :: back) (timsKey : Int)
    (fromDateDel untilDateDel newFromDateDel : UtcTime) :
    (ofPoints optional points).newFromDate timsKey fromDateDel untilDateDel front.length newFromDateDel =
      point.newFromDate timsKey fromDateDel untilDateDel newFromDateDel := by
  simp only [newFromDate, TsPoint.newFromDate, ofPoints, itemAt_map _ split, ok_bind]
  rfl

end PointArrays

namespace PeriodArrays

variable {periods front back rest list : List DeletePeriod} {period : DeletePeriod}

theorem appendOrigPeriod_ofPeriods (split : periods = front ++ period :: back) (list : List DeletePeriod) :
    (ofPeriods periods).appendOrigPeriod front.length (ofPeriods list) =
      .ok (ofPeriods (list ++ period.origPeriod)) := by
  simp only [appendOrigPeriod, DeletePeriod.origPeriod, ofPeriods, elementAt_map _ split, ok_bind]
  by_cases value : period.vlcode = 0
  · simp [value]
  · simp [value]

theorem shorten_ofPeriods (calendar : RegionalCalendar) (optional : OptionalArrays) (reduced : List (TsPoint D))
    (split : periods = front ++ period :: back) :
    (ofPeriods periods).shorten calendar (PointArrays.ofPoints optional reduced) front.length
        (ofPeriods (front ++ period :: rest)) =
      (fun kept => ofPeriods (front ++ (kept.toList ++ rest))) <$> period.shorten calendar reduced := by
  have search (fromDateDel untilDateDel start : UtcTime) :
      descending ((PointArrays.ofPoints optional reduced).newFromDate period.timsKey fromDateDel untilDateDel)
          (PointArrays.ofPoints optional reduced).stepTypes.length start =
        reduced.foldrM (TsPoint.newFromDate period.timsKey fromDateDel untilDateDel) start := by
    have count : (PointArrays.ofPoints optional reduced).stepTypes.length = reduced.length := List.length_map _
    rw [count]
    exact descending_eq_foldrM reduced start fun _ _ _ state split =>
      PointArrays.newFromDate_ofPoints split period.timsKey fromDateDel untilDateDel state
  have removed : (ofPeriods (front ++ period :: rest)).removeAt front.length = .ok (ofPeriods (front ++ rest)) := by
    simp only [removeAt, ofPeriods, removeAt_map, ok_bind, pure_eq_ok]
  have moved (text : CodeUnits) : setAt (ofPeriods (front ++ period :: rest)).fromDate17s front.length (some text) =
      .ok (ofPeriods (front ++ { period with fromDate17 := some text } :: rest)).fromDate17s :=
    setAt_map DeletePeriod.fromDate17 { period with fromDate17 := some text }
  have timsKey : elementAt (ofPeriods periods).timsKeys front.length = .ok period.timsKey := elementAt_map _ split
  have vlcode : elementAt (ofPeriods periods).vlcodes front.length = .ok period.vlcode := elementAt_map _ split
  have fromDate : elementAt (ofPeriods periods).fromDate17s front.length = .ok period.fromDate17 := elementAt_map _ split
  have untilDate : elementAt (ofPeriods periods).untilDate17s front.length = .ok period.untilDate17 :=
    elementAt_map _ split
  simp only [shorten, DeletePeriod.shorten, timsKey, vlcode, fromDate, untilDate, search, removed, moved, ok_bind]
  by_cases value : period.vlcode = 0
  · simp only [value, ne_eq, not_true_eq_false, if_false, map_bind]
    refine bind_congr fun fromDateDel => bind_congr fun untilDateDel => bind_congr fun start =>
      bind_congr fun newFromDateDel => bind_congr fun within => ?_
    cases within with
    | false => rfl
    | true =>
        simp only [if_true, map_bind]
        exact bind_congr fun text => by simp [ofPeriods, value]
  · simp [value]

theorem ofPeriods_injective {left right : List DeletePeriod} (same : ofPeriods left = ofPeriods right) :
    left = right := by
  simp only [ofPeriods, mk.injEq] at same
  obtain ⟨timsKeys, vlcodes, fromDates, untilDates⟩ := same
  have fields := map_pair timsKeys (map_pair vlcodes (map_pair fromDates untilDates))
  refine List.map_injective_iff.mpr (fun period other equal => ?_) fields
  cases period
  cases other
  simp_all

end PeriodArrays

namespace TsWriteItemsFromArrays

def ofLists (optional : OptionalArrays) (points : List (TsPoint D)) (periods : List DeletePeriod)
    (tzDb : RegionalCalendar) : TsWriteItemsFromArrays D :=
  ⟨.ofPoints optional points, .ofPeriods periods, tzDb⟩

variable {optional : OptionalArrays} {points : List (TsPoint D)} {periods : List DeletePeriod} {tzDb : RegionalCalendar}

theorem append_ofLists (flags : optional.paraFlags = true) :
    (ofLists optional points periods tzDb).appendOrigSeriesPointsAndPeriods =
      .ok (ofLists optional (points ++ points.flatMap TsPoint.origPoint)
        (periods ++ periods.flatMap DeletePeriod.origPeriod) tzDb) := by
  have present : (PointArrays.ofPoints optional points).paraFlags.isNone = false := by
    simp [PointArrays.ofPoints, array, flags]
  have count : (PointArrays.ofPoints optional points).stepTypes.length = points.length := List.length_map _
  have periodCount : (PeriodArrays.ofPeriods periods).timsKeys.length = periods.length := List.length_map _
  have copies := ascending_extends (PointArrays.ofPoints optional) points points
    fun _ _ _ list split => PointArrays.appendOrigPoint_ofPoints flags split list
  have periodCopies := ascending_extends PeriodArrays.ofPeriods periods periods
    fun _ _ _ list split => PeriodArrays.appendOrigPeriod_ofPeriods split list
  simp only [appendOrigSeriesPointsAndPeriods, ofLists, present, count, periodCount, copies, periodCopies]
  rfl

theorem append_missing (flags : optional.paraFlags = false) :
    (ofLists optional points periods tzDb).appendOrigSeriesPointsAndPeriods =
      .ok (ofLists optional points periods tzDb) := by
  simp [appendOrigSeriesPointsAndPeriods, ofLists, PointArrays.ofPoints, array, flags]

theorem protect_ofLists (dates : optional.lcDates = true) :
    (ofLists optional points periods tzDb).removePointsProtectCorrectedValuesMode = do
      let reduced ← rebuild (TsPoint.protect optional) points
      let shortened ← rebuild (DeletePeriod.shorten tzDb reduced) periods
      return ofLists optional reduced shortened tzDb := by
  have present : (PointArrays.ofPoints optional points).lcDates.isNone = false := by
    simp [PointArrays.ofPoints, array, dates]
  have count : (PointArrays.ofPoints optional points).stepTypes.length = points.length := List.length_map _
  have periodCount : (PeriodArrays.ofPeriods periods).timsKeys.length = periods.length := List.length_map _
  have removed := descending_eq_rebuild (PointArrays.ofPoints optional) points
    fun _ _ _ _ split => PointArrays.removeCorrected_ofPoints dates split
  have shortened := fun reduced : List (TsPoint D) => descending_eq_rebuild PeriodArrays.ofPeriods periods
    fun _ _ _ _ split => PeriodArrays.shorten_ofPeriods tzDb optional reduced split
  simp only [removePointsProtectCorrectedValuesMode, ofLists, present, count, periodCount, removed]
  cases rebuild (TsPoint.protect optional) points with
  | error _ => rfl
  | ok reduced =>
      simp only [map_ok, ok_bind, shortened]
      cases rebuild (DeletePeriod.shorten tzDb reduced) periods with
      | error _ => rfl
      | ok _ => rfl

theorem protect_missing (dates : optional.lcDates = false) :
    (ofLists optional points periods tzDb).removePointsProtectCorrectedValuesMode =
      .ok (ofLists optional points periods tzDb) := by
  simp [removePointsProtectCorrectedValuesMode, ofLists, PointArrays.ofPoints, array, dates]

end TsWriteItemsFromArrays

def preparedPoints (optional : OptionalArrays) (appendOrigSeries : Bool) (points : List (TsPoint D)) :
    List (TsPoint D) :=
  if appendOrigSeries && optional.paraFlags then points ++ points.flatMap TsPoint.origPoint else points

def preparedPeriods (optional : OptionalArrays) (appendOrigSeries : Bool) (periods : List DeletePeriod) :
    List DeletePeriod :=
  if appendOrigSeries && optional.paraFlags then periods ++ periods.flatMap DeletePeriod.origPeriod else periods

theorem create_ofLists (optional : OptionalArrays) (points : List (TsPoint D)) (periods : List DeletePeriod)
    (tzDb : RegionalCalendar) (appendOrigSeries protectCorrectedValues : Bool) :
    TsWriteItemsFromArrays.create (.ofPoints optional points) (.ofPeriods periods) tzDb appendOrigSeries
        protectCorrectedValues =
      let prepared := TsWriteItemsFromArrays.ofLists optional (preparedPoints optional appendOrigSeries points)
        (preparedPeriods optional appendOrigSeries periods) tzDb
      if protectCorrectedValues then prepared.removePointsProtectCorrectedValuesMode else .ok prepared := by
  cases appendOrigSeries with
  | false => rfl
  | true =>
      have appended : (TsWriteItemsFromArrays.ofLists optional points periods tzDb).appendOrigSeriesPointsAndPeriods =
          .ok (TsWriteItemsFromArrays.ofLists optional (preparedPoints optional true points)
            (preparedPeriods optional true periods) tzDb) := by
        cases flags : optional.paraFlags with
        | false => simp [TsWriteItemsFromArrays.append_missing flags, preparedPoints, preparedPeriods, flags]
        | true => simp [TsWriteItemsFromArrays.append_ofLists flags, preparedPoints, preparedPeriods, flags]
      change ((TsWriteItemsFromArrays.ofLists optional points periods tzDb).appendOrigSeriesPointsAndPeriods >>= _) = _
      rw [appended]
      rfl

end ServiceHost
