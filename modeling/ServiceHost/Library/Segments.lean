import Mathlib.Order.Lattice
import Mathlib.Order.Defs.LinearOrder
import Mathlib.Order.Basic
import Mathlib.Data.List.Pairwise
import Mathlib.Data.List.Perm.Basic

/-!
Lists of disjoint half-open segments over a linear order, each carrying one
value, read as a partial function of the axis. The operations are lookup, the
carving of one segment by the segments that win against it, and the merging of
two neighbours. Nothing here depends on what the axis or the values are.
-/

namespace ServiceHost.Library

structure Segment (T A : Type) where
  lo : T
  hi : T
  val : A
deriving DecidableEq, Repr

namespace Segment

variable {T A : Type} [LinearOrder T]

def Covers (segment : Segment T A) (time : T) : Prop :=
  segment.lo ≤ time ∧ time < segment.hi

instance (segment : Segment T A) (time : T) : Decidable (segment.Covers time) :=
  inferInstanceAs (Decidable (_ ∧ _))

/-- The part of a segment before `time`, if there is one. -/
def before (segment : Segment T A) (time : T) : List (Segment T A) :=
  if segment.lo < time then [{ segment with hi := time }] else []

end Segment

variable {T A : Type} [LinearOrder T]

structure Ordered (segments : List (Segment T A)) : Prop where
  positive : ∀ segment ∈ segments, segment.lo < segment.hi
  apart : segments.Pairwise fun first second => first.hi ≤ second.lo

/-- The value at a point: the first segment that covers it answers. -/
def lookup (segments : List (Segment T A)) (time : T) : Option A :=
  (segments.find? fun segment => segment.Covers time).map Segment.val

/-- What is left of a segment when every segment that wins against it is cut
out. The winners come in order, so a cut only leaves the part to its right for
the later ones. -/
def carve (wins : A → A → Bool) : List (Segment T A) → Segment T A → List (Segment T A)
  | [], segment => [segment]
  | other :: rest, segment =>
      if other.lo < segment.hi then
        if wins other.val segment.val && decide (segment.lo < other.hi) then
          segment.before other.lo ++
            (if other.hi < segment.hi then carve wins rest { segment with lo := other.hi } else [])
        else carve wins rest segment
      else [segment]

namespace Ordered

theorem nil : Ordered ([] : List (Segment T A)) :=
  ⟨by simp, List.Pairwise.nil⟩

theorem singleton {segment : Segment T A} (positive : segment.lo < segment.hi) :
    Ordered [segment] :=
  ⟨by simpa using positive, by simp⟩

theorem cons_iff {segment : Segment T A} {rest : List (Segment T A)} :
    Ordered (segment :: rest) ↔
      segment.lo < segment.hi ∧ (∀ other ∈ rest, segment.hi ≤ other.lo) ∧ Ordered rest := by
  constructor
  · rintro ⟨positive, apart⟩
    have parts := List.pairwise_cons.mp apart
    exact ⟨positive _ (by simp), parts.1, fun other member => positive other (by simp [member]), parts.2⟩
  · rintro ⟨positive, first, ordered⟩
    refine ⟨?_, List.pairwise_cons.mpr ⟨first, ordered.apart⟩⟩
    intro other member
    rcases List.mem_cons.mp member with same | later
    · exact same ▸ positive
    · exact ordered.positive other later

theorem append_iff {first second : List (Segment T A)} :
    Ordered (first ++ second) ↔
      Ordered first ∧ Ordered second ∧ ∀ a ∈ first, ∀ b ∈ second, a.hi ≤ b.lo := by
  constructor
  · rintro ⟨positive, apart⟩
    have parts := List.pairwise_append.mp apart
    exact ⟨⟨fun a member => positive a (by simp [member]), parts.1⟩,
      ⟨fun b member => positive b (by simp [member]), parts.2.1⟩, parts.2.2⟩
  · rintro ⟨firstOrdered, secondOrdered, cross⟩
    refine ⟨?_, List.pairwise_append.mpr ⟨firstOrdered.apart, secondOrdered.apart, cross⟩⟩
    intro segment member
    rcases List.mem_append.mp member with left | right
    · exact firstOrdered.positive segment left
    · exact secondOrdered.positive segment right

theorem eq_of_covers {segments : List (Segment T A)} (ordered : Ordered segments)
    {a b : Segment T A} (aMember : a ∈ segments) (bMember : b ∈ segments) {time : T}
    (aCovers : a.Covers time) (bCovers : b.Covers time) : a = b := by
  induction segments with
  | nil => simp at aMember
  | cons segment rest ih =>
      obtain ⟨_, first, tail⟩ := cons_iff.mp ordered
      have clash : ∀ other ∈ rest, segment.Covers time → ¬ other.Covers time :=
        fun other member covers otherCovers =>
          absurd (lt_of_lt_of_le covers.2 (first other member)) (not_lt.mpr otherCovers.1)
      rcases List.mem_cons.mp aMember with aSame | aLater
      · rcases List.mem_cons.mp bMember with bSame | bLater
        · rw [aSame, bSame]
        · exact absurd bCovers (clash b bLater (aSame ▸ aCovers))
      · rcases List.mem_cons.mp bMember with bSame | bLater
        · exact absurd aCovers (clash a aLater (bSame ▸ bCovers))
        · exact ih tail aLater bLater

end Ordered

theorem lookup_eq_none_iff {segments : List (Segment T A)} {time : T} :
    lookup segments time = none ↔ ∀ segment ∈ segments, ¬ segment.Covers time := by
  simp [lookup]

theorem lookup_eq_some_iff {segments : List (Segment T A)} (ordered : Ordered segments)
    {time : T} {value : A} :
    lookup segments time = some value ↔
      ∃ segment ∈ segments, segment.Covers time ∧ segment.val = value := by
  constructor
  · intro found
    obtain ⟨segment, first, same⟩ := Option.map_eq_some_iff.mp found
    exact ⟨segment, List.mem_of_find?_eq_some first,
      by simpa using List.find?_some first, same⟩
  · rintro ⟨segment, member, covers, same⟩
    cases first : segments.find? fun segment => segment.Covers time with
    | none =>
        have uncovered := List.find?_eq_none.mp first segment member
        simp [covers] at uncovered
    | some other =>
        have otherCovers : other.Covers time := by simpa using List.find?_some first
        have equal := ordered.eq_of_covers (List.mem_of_find?_eq_some first) member otherCovers covers
        simp [lookup, first, equal, same]

theorem lookup_map {B : Type} {items : List B} {toSegment : B → Segment T A} {test : B → Bool} {time : T}
    (same : ∀ item ∈ items, test item = decide ((toSegment item).Covers time)) :
    lookup (items.map toSegment) time = (items.find? test).map fun item => (toSegment item).val := by
  induction items with
  | nil => rfl
  | cons item rest ih =>
      have tail := ih fun other member => same other (by simp [member])
      have head := same item (by simp)
      simp only [lookup, List.map_cons, List.find?_cons, head] at tail ⊢
      cases decide ((toSegment item).Covers time) with
      | true => rfl
      | false => exact tail

theorem lookup_eq_of_mem_iff {first second : List (Segment T A)}
    (firstOrdered : Ordered first) (secondOrdered : Ordered second) {time : T}
    (same : ∀ value, (∃ segment ∈ first, segment.Covers time ∧ segment.val = value) ↔
      ∃ segment ∈ second, segment.Covers time ∧ segment.val = value) :
    lookup first time = lookup second time := by
  apply Option.ext
  intro value
  rw [lookup_eq_some_iff firstOrdered, lookup_eq_some_iff secondOrdered, same]

section Carve

variable (wins : A → A → Bool)

theorem mem_carve {cuts : List (Segment T A)} {segment piece : Segment T A}
    (ordered : Ordered cuts) (positive : segment.lo < segment.hi)
    (member : piece ∈ carve wins cuts segment) :
    piece.val = segment.val ∧ segment.lo ≤ piece.lo ∧ piece.lo < piece.hi ∧ piece.hi ≤ segment.hi := by
  induction cuts generalizing segment with
  | nil =>
      obtain rfl : piece = segment := by simpa [carve] using member
      exact ⟨rfl, le_refl _, positive, le_refl _⟩
  | cons other rest ih =>
      obtain ⟨otherPositive, _, tail⟩ := Ordered.cons_iff.mp ordered
      simp only [carve] at member
      split at member
      · rename_i starts
        split at member
        · rename_i cut
          simp only [Bool.and_eq_true, decide_eq_true_eq] at cut
          rcases List.mem_append.mp member with left | right
          · unfold Segment.before at left
            split at left
            · rename_i room
              obtain rfl := List.mem_singleton.mp left
              exact ⟨rfl, le_refl _, room, le_of_lt starts⟩
            · simp at left
          · split at right
            · rename_i room
              obtain ⟨value, lower, inner, upper⟩ := ih tail room right
              exact ⟨value, le_trans (le_of_lt cut.2) lower, inner, upper⟩
            · simp at right
        · exact ih tail positive member
      · obtain rfl := List.mem_singleton.mp member
        exact ⟨rfl, le_refl _, positive, le_refl _⟩

theorem ordered_carve {cuts : List (Segment T A)} {segment : Segment T A}
    (ordered : Ordered cuts) (positive : segment.lo < segment.hi) :
    Ordered (carve wins cuts segment) := by
  induction cuts generalizing segment with
  | nil => exact Ordered.singleton positive
  | cons other rest ih =>
      obtain ⟨otherPositive, _, tail⟩ := Ordered.cons_iff.mp ordered
      simp only [carve]
      split
      · split
        · rename_i cut
          refine Ordered.append_iff.mpr ⟨?_, ?_, ?_⟩
          · unfold Segment.before
            split
            · rename_i room
              exact Ordered.singleton room
            · exact Ordered.nil
          · split
            · rename_i room
              exact ih tail room
            · exact Ordered.nil
          · intro a aMember b bMember
            unfold Segment.before at aMember
            split at aMember
            · obtain rfl := List.mem_singleton.mp aMember
              split at bMember
              · rename_i room
                exact le_trans (le_of_lt otherPositive) (mem_carve wins tail room bMember).2.1
              · simp at bMember
            · simp at aMember
        · exact ih tail positive
      · exact Ordered.singleton positive

theorem covers_carve {cuts : List (Segment T A)} {segment : Segment T A}
    (ordered : Ordered cuts) (positive : segment.lo < segment.hi) (time : T) :
    (∃ piece ∈ carve wins cuts segment, piece.Covers time) ↔
      segment.Covers time ∧
        ¬ ∃ other ∈ cuts, wins other.val segment.val = true ∧ other.Covers time := by
  induction cuts generalizing segment with
  | nil => simp [carve]
  | cons other rest ih =>
      obtain ⟨otherPositive, first, tail⟩ := Ordered.cons_iff.mp ordered
      have later : ∀ next ∈ rest, next.Covers time → other.hi ≤ time :=
        fun next member covers => le_trans (first next member) covers.1
      simp only [carve]
      split
      · rename_i starts
        split
        · rename_i cut
          simp only [Bool.and_eq_true, decide_eq_true_eq] at cut
          have left : (∃ piece ∈ segment.before other.lo, piece.Covers time) ↔
              segment.lo ≤ time ∧ time < other.lo := by
            unfold Segment.before
            split
            · simp [Segment.Covers]
            · rename_i noRoom
              simp only [List.not_mem_nil, false_and, exists_false, false_iff, not_and, not_lt]
              exact fun lower => le_trans (not_lt.mp noRoom) lower
          have right : (∃ piece ∈ (if other.hi < segment.hi then
                carve wins rest { segment with lo := other.hi } else []), piece.Covers time) ↔
              (other.hi ≤ time ∧ time < segment.hi) ∧
                ¬ ∃ next ∈ rest, wins next.val segment.val = true ∧ next.Covers time := by
            split
            · rename_i room
              exact ih tail room
            · rename_i noRoom
              simp only [List.not_mem_nil, false_and, exists_false, false_iff]
              rintro ⟨⟨lower, upper⟩, _⟩
              exact noRoom (lt_of_le_of_lt lower upper)
          simp only [List.mem_append, or_and_right, exists_or, left, right]
          constructor
          · rintro (⟨lower, upper⟩ | ⟨⟨lower, upper⟩, none⟩)
            · refine ⟨⟨lower, lt_trans upper starts⟩, ?_⟩
              rintro ⟨next, member, won, covers⟩
              rcases List.mem_cons.mp member with same | restMember
              · exact absurd (same ▸ covers.1) (not_le.mpr upper)
              · exact absurd (later next restMember covers)
                  (not_le.mpr (lt_trans upper otherPositive))
            · refine ⟨⟨le_trans (le_of_lt cut.2) lower, upper⟩, ?_⟩
              rintro ⟨next, member, won, covers⟩
              rcases List.mem_cons.mp member with same | restMember
              · exact absurd (same ▸ covers.2) (not_lt.mpr lower)
              · exact none ⟨next, restMember, won, covers⟩
          · rintro ⟨⟨lower, upper⟩, none⟩
            have outside : ¬ other.Covers time := fun covers => none ⟨other, by simp, cut.1, covers⟩
            by_cases early : time < other.lo
            · exact Or.inl ⟨lower, early⟩
            · have late : other.hi ≤ time :=
                not_lt.mp fun upper => outside ⟨not_lt.mp early, upper⟩
              exact Or.inr ⟨⟨late, upper⟩, fun ⟨next, member, won, covers⟩ =>
                none ⟨next, by simp [member], won, covers⟩⟩
        · rename_i kept
          simp only [Bool.and_eq_true, decide_eq_true_eq, not_and, not_lt] at kept
          rw [ih tail positive]
          refine and_congr_right fun covers => not_congr ?_
          simp only [List.mem_cons, exists_eq_or_imp]
          constructor
          · exact Or.inr
          · rintro (⟨won, otherCovers⟩ | found)
            · exact absurd (le_trans (kept won) covers.1) (not_le.mpr otherCovers.2)
            · exact found
      · rename_i apart
        simp only [List.mem_singleton, exists_eq_left]
        refine ⟨fun covers => ⟨covers, ?_⟩, And.left⟩
        rintro ⟨next, member, _, nextCovers⟩
        have ended : segment.hi ≤ next.lo := by
          rcases List.mem_cons.mp member with same | restMember
          · exact same ▸ not_lt.mp apart
          · exact le_trans (not_lt.mp apart) (le_trans (le_of_lt otherPositive) (first next restMember))
        exact absurd (lt_of_lt_of_le covers.2 ended) (not_lt.mpr nextCovers.1)

theorem carve_append_of_before {before after : List (Segment T A)} {segment : Segment T A}
    (ordered : Ordered before) (positive : segment.lo < segment.hi)
    (ended : ∀ other ∈ before, other.hi ≤ segment.lo) :
    carve wins (before ++ after) segment = carve wins after segment := by
  induction before with
  | nil => rfl
  | cons other rest ih =>
      obtain ⟨otherPositive, _, tail⟩ := Ordered.cons_iff.mp ordered
      have done := ended other (by simp)
      have starts : other.lo < segment.hi := lt_trans otherPositive (lt_of_le_of_lt done positive)
      simp only [List.cons_append, carve, starts, if_true, not_lt.mpr done, decide_false,
        Bool.and_false, Bool.false_eq_true, if_false]
      exact ih tail fun next member => ended next (by simp [member])

theorem ordered_flatMap_carve {cuts segments : List (Segment T A)}
    (cutsOrdered : Ordered cuts) (ordered : Ordered segments) :
    Ordered (segments.flatMap (carve wins cuts)) := by
  induction segments with
  | nil => exact Ordered.nil
  | cons segment rest ih =>
      obtain ⟨positive, first, tail⟩ := Ordered.cons_iff.mp ordered
      rw [List.flatMap_cons, Ordered.append_iff]
      refine ⟨ordered_carve wins cutsOrdered positive, ih tail, ?_⟩
      intro a aMember b bMember
      obtain ⟨next, nextMember, piece⟩ := List.mem_flatMap.mp bMember
      have upper := (mem_carve wins cutsOrdered positive aMember).2.2.2
      have lower := (mem_carve wins cutsOrdered (tail.positive next nextMember) piece).2.1
      exact le_trans upper (le_trans (first next nextMember) lower)

theorem covers_flatMap_carve {cuts segments : List (Segment T A)}
    (cutsOrdered : Ordered cuts) (ordered : Ordered segments) (time : T) (value : A) :
    (∃ piece ∈ segments.flatMap (carve wins cuts), piece.Covers time ∧ piece.val = value) ↔
      ∃ segment ∈ segments, segment.Covers time ∧ segment.val = value ∧
        ¬ ∃ other ∈ cuts, wins other.val value = true ∧ other.Covers time := by
  constructor
  · rintro ⟨piece, member, covers, same⟩
    obtain ⟨segment, segmentMember, part⟩ := List.mem_flatMap.mp member
    have positive := ordered.positive segment segmentMember
    have kept : piece.val = segment.val := (mem_carve wins cutsOrdered positive part).1
    have survives := (covers_carve wins cutsOrdered positive time).mp ⟨piece, part, covers⟩
    rw [← kept, same] at survives
    exact ⟨segment, segmentMember, survives.1, kept ▸ same, survives.2⟩
  · rintro ⟨segment, member, covers, same, none⟩
    have positive := ordered.positive segment member
    obtain ⟨piece, part, pieceCovers⟩ :=
      (covers_carve wins cutsOrdered positive time).mpr ⟨covers, same ▸ none⟩
    exact ⟨piece, List.mem_flatMap.mpr ⟨segment, member, part⟩, pieceCovers,
      (mem_carve wins cutsOrdered positive part).1.trans same⟩

end Carve

end ServiceHost.Library
