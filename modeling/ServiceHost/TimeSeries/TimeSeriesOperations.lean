import Mathlib.Data.List.Forall2
import ServiceHost.TimeSeries.TimeSeriesCore

/-!
What the operations do to the points: a split sends each point to the series of
its name and keeps the order, and a calculation replaces values but no times.
-/

namespace ServiceHost

open Library

namespace TimeSeries

variable {D : Type}

def content (ts : TimeSeries D) : Option String × List (Entry D) := (ts.name, ts.points.entries)

@[simp] theorem setValue_name (ts : TimeSeries D) (tvq : Tvq D) (setModified : Bool) :
    (ts.setValue tvq setModified).name = ts.name := rfl

@[simp] theorem setValue_resolution (ts : TimeSeries D) (tvq : Tvq D) (setModified : Bool) :
    (ts.setValue tvq setModified).resolution = ts.resolution := rfl

theorem setValue_entries {ts : TimeSeries D} {tvq : Tvq D} (setModified : Bool)
    (below : ∀ entry ∈ ts.points.entries, entry.1 < tvq.limitTime) :
    (ts.setValue tvq setModified).points.entries =
      ts.points.entries ++ [(tvq.limitTime, (if setModified then tvq.setModified else tvq).vq)] := by
  have key : (if setModified then tvq.setModified else tvq).limitTime = tvq.limitTime := by
    split <;> rfl
  have appended : SortedEntries.put tvq.limitTime (if setModified then tvq.setModified else tvq).vq
      (ts.points.entries ++ []) = ts.points.entries ++ _ := SortedEntries.put_append _ below
  rw [List.append_nil] at appended
  simp only [setValue, SortedEntries.set, key]
  exact appended

end TimeSeries

namespace SplitterOperation

variable {D S : Type}

theorem setIn_content {source : TimeSeries D} {name : Option String} {tvq : Tvq D}
    {destinations : List (TimeSeries D)}
    (below : ∀ ts ∈ destinations, ∀ entry ∈ ts.points.entries, entry.1 < tvq.limitTime) :
    (setIn source name tvq destinations).map TimeSeries.content =
      place name (tvq.limitTime, tvq.vq) (destinations.map TimeSeries.content) := by
  induction destinations with
  | nil => rfl
  | cons ts rest ih =>
      have here := TimeSeries.setValue_entries false (below ts (by simp))
      simp only [Bool.false_eq_true, if_false] at here
      simp only [setIn, List.map_cons, place]
      by_cases same : ts.name = name
      · simp [same, TimeSeries.content, here]
      · have other : ¬ (TimeSeries.content ts).1 = name := same
        rw [if_neg same, if_neg other, List.map_cons, ih fun later member => below later (by simp [member])]

theorem setIn_resolution {source : TimeSeries D} {name : Option String} {tvq : Tvq D}
    {destinations : List (TimeSeries D)}
    (same : ∀ ts ∈ destinations, ts.resolution = source.resolution) :
    ∀ ts ∈ setIn source name tvq destinations, ts.resolution = source.resolution := by
  induction destinations with
  | nil =>
      intro ts member
      rw [List.mem_singleton.mp member]
      rfl
  | cons first rest ih =>
      intro ts member
      simp only [setIn] at member
      split at member
      · rcases List.mem_cons.mp member with head | tail
        · rw [head]
          exact same first (by simp)
        · exact same ts (by simp [tail])
      · rcases List.mem_cons.mp member with head | tail
        · exact head ▸ same first (by simp)
        · exact ih (fun other found => same other (by simp [found])) ts tail

variable {findDestinationName : S → Tvq D → Except SystemException (Option String × S)}
  {destination : Tvq D → Option String}

theorem runFrom_ok (keeps : List (Entry D) → S → Prop)
    (step : ∀ state entry rest, keeps (entry :: rest) state → ∃ next,
      findDestinationName state ⟨entry.1, entry.2⟩ = .ok (destination ⟨entry.1, entry.2⟩, next) ∧ keeps rest next)
    {source : TimeSeries D} {seen todo : List (Entry D)} (split : source.points.entries = seen ++ todo)
    {state : S} (kept : keeps todo state) {destinations : List (TimeSeries D)}
    (grouped : Grouped (fun entry : Entry D => destination ⟨entry.1, entry.2⟩) seen
      (destinations.map TimeSeries.content))
    (resolution : ∀ ts ∈ destinations, ts.resolution = source.resolution) :
    ∃ result final, runFrom findDestinationName source (todo.map fun entry => ⟨entry.1, entry.2⟩) state
        destinations = .ok (result, final) ∧ keeps [] final ∧
      Grouped (fun entry : Entry D => destination ⟨entry.1, entry.2⟩) source.points.entries
        (result.map TimeSeries.content) ∧
      ∀ ts ∈ result, ts.resolution = source.resolution := by
  induction todo generalizing seen state destinations with
  | nil =>
      rw [List.append_nil] at split
      exact ⟨destinations, state, rfl, kept, split ▸ grouped, resolution⟩
  | cons entry rest ih =>
      obtain ⟨next, found, nextKept⟩ := step state entry rest kept
      have sorted := source.points.sorted
      rw [split] at sorted
      have below : ∀ ts ∈ destinations, ∀ other ∈ ts.points.entries, other.1 < entry.1 := by
        intro ts member other inside
        have visited : other ∈ seen := grouped.perm.mem_iff.mp
          (List.mem_flatMap.mpr ⟨ts.content, List.mem_map_of_mem member, inside⟩)
        exact (List.pairwise_append.mp sorted).2.2 other visited entry (by simp)
      have placed := grouped.step entry
      have content : (setIn source (destination ⟨entry.1, entry.2⟩) ⟨entry.1, entry.2⟩ destinations).map
          TimeSeries.content = place (destination ⟨entry.1, entry.2⟩) entry
            (destinations.map TimeSeries.content) := setIn_content below
      rw [← content] at placed
      obtain ⟨result, final, run, finalKept, resultGrouped, resultResolution⟩ := ih
        (split.trans (by simp)) nextKept placed (setIn_resolution resolution)
      refine ⟨result, final, ?_, finalKept, resultGrouped, resultResolution⟩
      simp only [List.map_cons, runFrom, found, ok_bind, run]

theorem run_ok {keeps : S → Prop} {source : TimeSeries D}
    (step : ∀ state, keeps state → ∀ tvq ∈ source.tvqs, ∃ next,
      findDestinationName state tvq = .ok (destination tvq, next) ∧ keeps next)
    {state : S} (kept : keeps state) :
    ∃ result final, run findDestinationName source state = .ok (result, final) ∧ keeps final ∧
      Grouped (fun entry : Entry D => destination ⟨entry.1, entry.2⟩) source.points.entries
        (result.map TimeSeries.content) ∧
      ∀ ts ∈ result, ts.resolution = source.resolution := by
  have visit (state : S) (entry : Entry D) (rest : List (Entry D))
      (inside : keeps state ∧ ∀ other ∈ entry :: rest, other ∈ source.points.entries) : ∃ next,
      findDestinationName state ⟨entry.1, entry.2⟩ = .ok (destination ⟨entry.1, entry.2⟩, next) ∧
        keeps next ∧ ∀ other ∈ rest, other ∈ source.points.entries := by
    obtain ⟨next, found, nextKept⟩ := step state inside.1 ⟨entry.1, entry.2⟩
      (List.mem_map_of_mem (inside.2 entry List.mem_cons_self))
    exact ⟨next, found, nextKept, fun other member => inside.2 other (List.mem_cons_of_mem entry member)⟩
  have nothing : ∀ ts ∈ ([] : List (TimeSeries D)), ts.resolution = source.resolution := by simp
  obtain ⟨result, final, ran, finalKept, grouped, resolution⟩ := runFrom_ok
    (fun todo state => keeps state ∧ ∀ other ∈ todo, other ∈ source.points.entries) visit
    (List.nil_append source.points.entries).symm ⟨kept, fun _ member => member⟩
    (Grouped.nil _) nothing
  exact ⟨result, final, ran, finalKept.1, grouped, resolution⟩

theorem found_of_runFrom {source : TimeSeries D} {todo : List (Tvq D)} {state : S}
    {destinations : List (TimeSeries D)} {result : List (TimeSeries D) × S}
    (run : runFrom findDestinationName source todo state destinations = .ok result) :
    ∀ tvq ∈ todo, ∃ state found, findDestinationName state tvq = .ok found := by
  induction todo generalizing state destinations with
  | nil => simp
  | cons first rest ih =>
      obtain ⟨found, here, later⟩ := bind_eq_ok_iff.mp run
      intro tvq member
      rcases List.mem_cons.mp member with head | tail
      · exact ⟨state, found, head ▸ here⟩
      · exact ih later tvq tail

end SplitterOperation

section Calculation

variable {D : Type} {calculate : Tvq D → Except SystemException (Tvq D × Bool)}

def Stored (calculate : Tvq D → Except SystemException (Tvq D × Bool)) (entry stored : Entry D) : Prop :=
  ∃ calculated modified, calculate ⟨entry.1, entry.2⟩ = .ok (calculated, modified) ∧
    stored = (entry.1, (if modified then calculated.setModified else calculated).vq)

theorem setCalculated_ok
    (keepsTime : ∀ tvq calculated modified, calculate tvq = .ok (calculated, modified) →
      calculated.limitTime = tvq.limitTime)
    {todo : List (Entry D)} {result : TimeSeries D}
    (sorted : (result.points.entries ++ todo).Pairwise fun first second => first.1 < second.1)
    (returns : ∀ entry ∈ todo, ∃ calculated, calculate ⟨entry.1, entry.2⟩ = .ok calculated) :
    ∃ final stored, setCalculated calculate (todo.map fun entry => ⟨entry.1, entry.2⟩) result = .ok final ∧
      final.name = result.name ∧ final.resolution = result.resolution ∧
      final.points.entries = result.points.entries ++ stored ∧
      List.Forall₂ (Stored calculate) todo stored := by
  induction todo generalizing result with
  | nil => exact ⟨result, [], rfl, rfl, rfl, (List.append_nil _).symm, List.Forall₂.nil⟩
  | cons entry rest ih =>
      obtain ⟨⟨calculated, modified⟩, here⟩ := returns entry (by simp)
      have time := keepsTime _ _ _ here
      have below : ∀ other ∈ result.points.entries, other.1 < calculated.limitTime := by
        intro other member
        rw [time]
        exact (List.pairwise_append.mp sorted).2.2 other member entry (by simp)
      have entries := TimeSeries.setValue_entries modified below
      rw [time] at entries
      obtain ⟨final, stored, run, name, resolution, finalEntries, all⟩ := ih
        (show ((result.setValue calculated modified).points.entries ++ rest).Pairwise _ by
          rw [entries, List.append_assoc]
          have keys : (result.points.entries ++ entry :: rest).map Prod.fst =
              (result.points.entries ++ ([(entry.1, (if modified then calculated.setModified
                else calculated).vq)] ++ rest)).map Prod.fst := by simp
          rw [← List.pairwise_map (f := Prod.fst) (R := (· < ·))] at sorted ⊢
          exact keys ▸ sorted)
        (fun other member => returns other (by simp [member]))
      refine ⟨final, _ :: stored, ?_, name, resolution, ?_, List.Forall₂.cons ⟨calculated, modified, here, rfl⟩ all⟩
      · simp only [List.map_cons, setCalculated, here, ok_bind, run]
      · rw [finalEntries, entries, List.append_assoc]
        rfl

theorem returns_of_setCalculated {todo : List (Tvq D)} {result final : TimeSeries D}
    (run : setCalculated calculate todo result = .ok final) :
    ∀ tvq ∈ todo, ∃ calculated, calculate tvq = .ok calculated := by
  induction todo generalizing result with
  | nil => simp
  | cons first rest ih =>
      obtain ⟨found, here, later⟩ := bind_eq_ok_iff.mp run
      intro tvq member
      rcases List.mem_cons.mp member with head | tail
      · exact ⟨found, head ▸ here⟩
      · exact ih later tvq tail

end Calculation

section Conversion

variable {D : Type}

def Mapped (f : D → Except SystemException D) (entry mapped : Entry D) : Prop :=
  mapped.1 = entry.1 ∧ f entry.2.value = .ok mapped.2.value

theorem mapped_times {f : D → Except SystemException D} {ts out : TimeSeries D}
    (all : List.Forall₂ (Mapped f) ts.points.entries out.points.entries) : out.times = ts.times := by
  have keys : ∀ before after : List (Entry D), List.Forall₂ (Mapped f) before after →
      after.map Prod.fst = before.map Prod.fst := by
    intro before after mapped
    induction mapped with
    | nil => rfl
    | cons head _ ih => rw [List.map_cons, List.map_cons, ih, head.1]
  exact keys _ _ all

structure Converts (f : D → Except SystemException D)
    (run : TimeSeries D → Except SystemException (TimeSeries D)) : Prop where
  result : ∀ ts out, run ts = .ok out → out.name = ts.name ∧ out.resolution = ts.resolution ∧
    List.Forall₂ (Mapped f) ts.points.entries out.points.entries
  returns : ∀ ts : TimeSeries D, (∀ entry ∈ ts.points.entries, ∃ value, f entry.2.value = .ok value) →
    ∃ out, run ts = .ok out

theorem mem_of_forall₂ {A B : Type} {R : A → B → Prop} {first : List A} {second : List B}
    (all : List.Forall₂ R first second) :
    (∀ a ∈ first, ∃ b ∈ second, R a b) ∧ ∀ b ∈ second, ∃ a ∈ first, R a b := by
  induction all with
  | nil => simp
  | cons head tail ih =>
      constructor
      · intro a member
        rcases List.mem_cons.mp member with same | later
        · exact ⟨_, by simp, same ▸ head⟩
        · obtain ⟨b, found, related⟩ := ih.1 a later
          exact ⟨b, by simp [found], related⟩
      · intro b member
        rcases List.mem_cons.mp member with same | later
        · exact ⟨_, by simp, same ▸ head⟩
        · obtain ⟨a, found, related⟩ := ih.2 b later
          exact ⟨a, by simp [found], related⟩

theorem forall₂_trans {A B C : Type} {R : A → B → Prop} {Q : B → C → Prop} {T : A → C → Prop}
    (join : ∀ a b c, R a b → Q b c → T a c) {first : List A} {second : List B} {third : List C}
    (left : List.Forall₂ R first second) (right : List.Forall₂ Q second third) :
    List.Forall₂ T first third := by
  induction left generalizing third with
  | nil => exact List.forall₂_nil_left_iff.mpr (List.forall₂_nil_left_iff.mp right)
  | cons head _ ih =>
      obtain ⟨c, rest, next, tail, rfl⟩ := List.forall₂_cons_left_iff.mp right
      exact List.Forall₂.cons (join _ _ _ head next) (ih tail)

theorem Converts.skip : Converts (D := D) pure pure := by
  constructor
  · intro ts out same
    obtain rfl := Except.ok.inj same
    exact ⟨rfl, rfl, List.forall₂_same.mpr fun _ _ => ⟨rfl, rfl⟩⟩
  · intro ts _
    exact ⟨ts, rfl⟩

theorem Converts.comp {f g : D → Except SystemException D}
    {first second : TimeSeries D → Except SystemException (TimeSeries D)}
    (converts : Converts f first) (then_ : Converts g second) :
    Converts (fun value => f value >>= g) fun ts => first ts >>= second := by
  constructor
  · intro ts out run
    obtain ⟨middle, firstRun, secondRun⟩ := bind_eq_ok_iff.mp run
    obtain ⟨name, resolution, mapped⟩ := converts.result ts middle firstRun
    obtain ⟨outName, outResolution, outMapped⟩ := then_.result middle out secondRun
    refine ⟨outName.trans name, outResolution.trans resolution, ?_⟩
    exact forall₂_trans (fun entry between last here next =>
      ⟨next.1.trans here.1, by simp only [here.2, ok_bind, next.2]⟩) mapped outMapped
  · intro ts returns
    obtain ⟨middle, firstRun⟩ := converts.returns ts fun entry member => by
      obtain ⟨value, same⟩ := returns entry member
      obtain ⟨between, here, _⟩ := bind_eq_ok_iff.mp same
      exact ⟨between, here⟩
    obtain ⟨_, _, mapped⟩ := converts.result ts middle firstRun
    obtain ⟨out, secondRun⟩ := then_.returns middle fun entry member => by
      obtain ⟨source, found, _, value⟩ := (mem_of_forall₂ mapped).2 entry member
      obtain ⟨final, same⟩ := returns source found
      rw [value, ok_bind] at same
      exact ⟨final, same⟩
    exact ⟨out, by simp only [firstRun, ok_bind, secondRun]⟩

theorem Converts.of_calculate {f : D → Except SystemException D}
    {calculate : Tvq D → Except SystemException (Tvq D × Bool)}
    (keepsTime : ∀ tvq calculated modified, calculate tvq = .ok (calculated, modified) →
      calculated.limitTime = tvq.limitTime)
    (value : ∀ tvq, (fun calculated => calculated.1.value) <$> calculate tvq = f tvq.value) :
    Converts f fun ts => setCalculated calculate ts.tvqs ts.cloneEmpty := by
  have stored : ∀ ts : TimeSeries D, (∀ entry ∈ ts.points.entries, ∃ found,
      calculate ⟨entry.1, entry.2⟩ = .ok found) →
      ∃ out, setCalculated calculate ts.tvqs ts.cloneEmpty = .ok out ∧ out.name = ts.name ∧
        out.resolution = ts.resolution ∧ List.Forall₂ (Mapped f) ts.points.entries out.points.entries := by
    intro ts found
    obtain ⟨out, entries, run, name, resolution, same, all⟩ :=
      setCalculated_ok keepsTime (show (ts.cloneEmpty.points.entries ++ ts.points.entries).Pairwise _ from
        ts.points.sorted) found
    refine ⟨out, run, name, resolution, ?_⟩
    rw [same]
    refine all.imp ?_
    rintro entry _ ⟨calculated, modified, here, rfl⟩
    have converted := value ⟨entry.1, entry.2⟩
    rw [here] at converted
    refine ⟨rfl, converted.symm.trans ?_⟩
    cases modified <;> rfl
  constructor
  · intro ts out run
    obtain ⟨again, same, facts⟩ := stored ts fun entry member =>
      returns_of_setCalculated run _ (List.mem_map_of_mem member)
    rw [Except.ok.inj (run.symm.trans same)]
    exact facts
  · intro ts returns
    obtain ⟨out, run, _⟩ := stored ts fun entry member => by
      obtain ⟨found, same⟩ := returns entry member
      obtain ⟨calculated, here, _⟩ := map_eq_ok_iff.mp ((value ⟨entry.1, entry.2⟩).trans same)
      exact ⟨calculated, here⟩
    exact ⟨out, run⟩

variable [DoubleArithmetic D]

open DoubleArithmetic

def truncate (digits decimals : Int) (value : D) : Except SystemException D := do
  let value ←
    if digits > 0 then
      let limit : D := pow10 digits
      if ge value limit then do
        let removePart ← intDiv (toInt value) (toInt limit)
        pure (sub value (ofInt (int (removePart * toInt limit))))
      else pure value
    else pure value
  if decimals > 0 then do
    let newValue ← round value decimals
    pure (if ne newValue value then newValue else value)
  else pure value

theorem truncate_none {digits decimals : Int} (noDigits : ¬digits > 0) (noDecimals : ¬decimals > 0)
    (value : D) : truncate digits decimals value = .ok value := by
  simp [truncate, noDigits, noDecimals]

theorem TruncateOperator.calculate_value (digits decimals : Int) (tvq : Tvq D) :
    Tvq.value <$> TruncateOperator.calculate digits decimals tvq = truncate digits decimals tvq.value := by
  have rounds : ∀ tvq : Tvq D, Tvq.value <$> (if decimals > 0 then do
        let newValue ← round tvq.value decimals
        pure (if ne newValue tvq.value then tvq.withValue newValue else tvq)
      else pure tvq : Except SystemException (Tvq D)) =
      (if decimals > 0 then do
        let newValue ← round tvq.value decimals
        pure (if ne newValue tvq.value then newValue else tvq.value)
      else pure tvq.value) := by
    intro tvq
    split
    · cases round tvq.value decimals with
      | error exception => rfl
      | ok newValue =>
          simp only [ok_bind, pure_eq_ok, map_ok]
          split <;> rfl
    · rfl
  by_cases cut : digits > 0
  · by_cases large : ge tvq.value (pow10 digits : D) = true
    · simp only [TruncateOperator.calculate, truncate, cut, large, if_true]
      cases intDiv (toInt tvq.value) (toInt (pow10 digits : D)) with
      | error exception => rfl
      | ok removePart => exact rounds _
    · simp only [TruncateOperator.calculate, truncate, cut, large, if_true]
      exact rounds tvq
  · simp only [TruncateOperator.calculate, truncate, cut, if_false]
    exact rounds tvq

theorem TruncateOperator.calculate_limitTime {digits decimals : Int} {tvq calculated : Tvq D}
    (run : TruncateOperator.calculate digits decimals tvq = .ok calculated) :
    calculated.limitTime = tvq.limitTime := by
  have rounds : ∀ tvq : Tvq D, (if decimals > 0 then do
        let newValue ← round tvq.value decimals
        pure (if ne newValue tvq.value then tvq.withValue newValue else tvq)
      else pure tvq : Except SystemException (Tvq D)) = .ok calculated →
      calculated.limitTime = tvq.limitTime := by
    intro tvq rounded
    split at rounded
    · obtain ⟨newValue, _, same⟩ := bind_eq_ok_iff.mp rounded
      rw [← Except.ok.inj same]
      split <;> rfl
    · exact Except.ok.inj rounded ▸ rfl
  by_cases cut : digits > 0
  · by_cases large : ge tvq.value (pow10 digits : D) = true
    · simp only [TruncateOperator.calculate, cut, large, if_true] at run
      obtain ⟨removePart, _, rest⟩ := bind_eq_ok_iff.mp run
      exact rounds (tvq.withValue _) rest
    · simp only [TruncateOperator.calculate, cut, large, if_true] at run
      exact rounds tvq run
  · simp only [TruncateOperator.calculate, cut, if_false] at run
    exact rounds tvq run

end Conversion

end ServiceHost
