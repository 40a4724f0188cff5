import Mathlib.Data.List.Pairwise
import ServiceHost.Library.Overlay

/-!
Lists in which no segment continues another one. One merging pass makes an ordered
list so unless three of its segments continue each other in a row, and after an
overlay this happens exactly around a new segment that nothing cuts.
-/

namespace ServiceHost.Library

variable {T A : Type} [LinearOrder T]

/-- The second segment continues the first one with the same value. -/
def Joinable (first second : Segment T A) : Prop := first.val = second.val ∧ first.hi = second.lo

def Canonical (segments : List (Segment T A)) : Prop :=
  ∀ first ∈ segments, ∀ second ∈ segments, ¬Joinable first second

theorem Ordered.eq_or_apart {segments : List (Segment T A)} (ordered : Ordered segments) {first second : Segment T A}
    (firstMember : first ∈ segments) (secondMember : second ∈ segments) :
    first = second ∨ first.hi ≤ second.lo ∨ second.hi ≤ first.lo := by
  induction segments with
  | nil => cases firstMember
  | cons segment rest ih =>
      obtain ⟨_, ended, tail⟩ := Ordered.cons_iff.mp ordered
      rcases List.mem_cons.mp firstMember with rfl | firstLater
      · rcases List.mem_cons.mp secondMember with rfl | secondLater
        · exact Or.inl rfl
        · exact Or.inr (Or.inl (ended second secondLater))
      · rcases List.mem_cons.mp secondMember with rfl | secondLater
        · exact Or.inr (Or.inr (ended first firstLater))
        · exact ih tail firstLater secondLater

theorem canonical_cons {first : Segment T A} {rest : List (Segment T A)} (ordered : Ordered (first :: rest))
    (next : ∀ second ∈ rest.head?, ¬Joinable first second) (canonical : Canonical rest) :
    Canonical (first :: rest) := by
  obtain ⟨positive, ended, tail⟩ := Ordered.cons_iff.mp ordered
  intro a aMember b bMember joined
  rcases List.mem_cons.mp aMember with rfl | aLater
  · rcases List.mem_cons.mp bMember with rfl | bLater
    · exact absurd joined.2 (ne_of_gt positive)
    · cases rest with
      | nil => cases bLater
      | cons second others =>
          obtain ⟨secondPositive, secondEnded, _⟩ := Ordered.cons_iff.mp tail
          rcases List.mem_cons.mp bLater with rfl | beyond
          · exact next b rfl joined
          · have before : a.hi < b.lo :=
              lt_of_lt_of_le (lt_of_le_of_lt (ended second (by simp)) secondPositive) (secondEnded b beyond)
            exact absurd joined.2 (ne_of_lt before)
  · rcases List.mem_cons.mp bMember with rfl | bLater
    · have after : b.lo < a.hi :=
        lt_trans positive (lt_of_le_of_lt (ended a aLater) (tail.positive a aLater))
      exact absurd joined.2 (ne_of_gt after)
    · exact canonical a aLater b bLater joined

section Merge

variable [DecidableEq A]

theorem mergeNeighbours_cons (first : Segment T A) (rest : List (Segment T A)) :
    ∃ merged others, mergeNeighbours (first :: rest) = merged :: others ∧
      merged.lo = first.lo ∧ merged.val = first.val := by
  cases rest with
  | nil => exact ⟨first, [], rfl, rfl, rfl⟩
  | cons second rest =>
      by_cases joined : first.val = second.val ∧ first.hi = second.lo
      · exact ⟨_, _, mergeNeighbours_joined rest joined, rfl, rfl⟩
      · exact ⟨_, _, mergeNeighbours_kept rest joined, rfl, rfl⟩

theorem canonical_mergeNeighbours {segments : List (Segment T A)} (ordered : Ordered segments)
    (pairs : ∀ a ∈ segments, ∀ b ∈ segments, ∀ c ∈ segments, Joinable a b → ¬Joinable b c) :
    Canonical (mergeNeighbours segments) := by
  have mergedOrdered := ordered_mergeNeighbours ordered
  fun_induction mergeNeighbours segments with
  | case1 first second rest joined ih =>
      obtain ⟨_, _, tail⟩ := Ordered.cons_iff.mp ordered
      obtain ⟨_, _, others⟩ := Ordered.cons_iff.mp tail
      obtain ⟨_, _, mergedTail⟩ := Ordered.cons_iff.mp mergedOrdered
      apply canonical_cons mergedOrdered
      · intro next head continued
        cases rest with
        | nil => cases head
        | cons third rest =>
            obtain ⟨merged, later, shape, low, value⟩ := mergeNeighbours_cons third rest
            rw [shape] at head
            obtain rfl := Option.some.inj head
            refine pairs first (by simp) second (by simp) third (by simp) joined ⟨?_, ?_⟩
            · exact joined.1.symm.trans (continued.1.trans value)
            · exact continued.2.trans low
      · apply ih others _ mergedTail
        intro a aMember b bMember c cMember
        exact pairs a (by simp [aMember]) b (by simp [bMember]) c (by simp [cMember])
  | case2 first second rest kept ih =>
      obtain ⟨_, _, tail⟩ := Ordered.cons_iff.mp ordered
      obtain ⟨_, _, mergedTail⟩ := Ordered.cons_iff.mp mergedOrdered
      apply canonical_cons mergedOrdered
      · intro next head continued
        obtain ⟨merged, later, shape, low, value⟩ := mergeNeighbours_cons second rest
        rw [shape] at head
        obtain rfl := Option.some.inj head
        exact kept ⟨continued.1.trans value, continued.2.trans low⟩
      · apply ih tail _ mergedTail
        intro a aMember b bMember c cMember
        exact pairs a (List.mem_cons_of_mem _ aMember) b (List.mem_cons_of_mem _ bMember)
          c (List.mem_cons_of_mem _ cMember)
  | case3 segments short =>
      cases segments with
      | nil =>
          intro a member
          cases member
      | cons first rest =>
          cases rest with
          | nil => exact canonical_cons ordered (by simp) (by intro a member; cases member)
          | cons second rest => exact absurd rfl (short first second rest)

end Merge

theorem carve_not_touching (wins : A → A → Bool) {cuts : List (Segment T A)} {segment first second : Segment T A}
    (ordered : Ordered cuts) (positive : segment.lo < segment.hi) (firstMember : first ∈ carve wins cuts segment)
    (secondMember : second ∈ carve wins cuts segment) : first.hi ≠ second.lo := by
  have pieces : Ordered (carve wins cuts segment) := ordered_carve wins ordered positive
  have symmetric : Std.Symm fun first second : Segment T A => first.hi ≠ second.lo ∧ second.hi ≠ first.lo :=
    ⟨fun a b sides => ⟨sides.2, sides.1⟩⟩
  have separated : (carve wins cuts segment).Pairwise fun first second =>
      first.hi ≠ second.lo ∧ second.hi ≠ first.lo := by
    apply List.Pairwise.imp_of_mem _ (carve_gaps wins ordered positive)
    rintro a b aMember bMember ⟨cut, member, ended, starts⟩
    have before : a.hi < b.lo := lt_of_le_of_lt ended (lt_of_lt_of_le (ordered.positive cut member) starts)
    have wide : a.lo < b.hi := lt_trans (pieces.positive a aMember) (lt_trans before (pieces.positive b bMember))
    exact ⟨ne_of_lt before, ne_of_gt wide⟩
  have itself : ∀ piece ∈ carve wins cuts segment, piece.hi ≠ piece.lo ∧ piece.hi ≠ piece.lo := by
    intro piece member
    have room := pieces.positive piece member
    exact ⟨ne_of_gt room, ne_of_gt room⟩
  exact (separated.forall_of_forall itself firstMember secondMember).1

section Overlay

variable [LinearOrder A] {segments : List (Segment T A)} {segment : Segment T A}

/-- A segment that nothing newer cuts lies between segments of its own value, or inside one. -/
structure Bridged (segments : List (Segment T A)) (segment : Segment T A) : Prop where
  left : ∃ left ∈ segments, left.val = segment.val ∧ left.lo < segment.lo ∧ segment.lo ≤ left.hi
  right : ∃ right ∈ segments, right.val = segment.val ∧ right.lo ≤ segment.hi ∧ segment.hi < right.hi
  whole : ∀ other ∈ segments, segment.val < other.val → other.hi ≤ segment.lo ∨ segment.hi ≤ other.lo

theorem mem_overlayOld (ordered : Ordered segments) (positive : segment.lo < segment.hi) {piece : Segment T A}
    (member : piece ∈ overlayOld segments segment) : ∃ source ∈ segments, piece.val = source.val ∧
      source.lo ≤ piece.lo ∧ piece.lo < piece.hi ∧ piece.hi ≤ source.hi ∧
        piece ∈ carve (fun cut value => value ≤ cut) (overlayNew segments segment) source := by
  obtain ⟨source, sourceMember, carved⟩ := List.mem_flatMap.mp member
  have newOrdered : Ordered (overlayNew segments segment) := ordered_carve _ ordered positive
  obtain ⟨value, lower, inner, upper⟩ := mem_carve _ newOrdered (ordered.positive source sourceMember) carved
  exact ⟨source, sourceMember, value, lower, inner, upper, carved⟩

theorem overlayOld_canonical (ordered : Ordered segments) (positive : segment.lo < segment.hi)
    (canonical : Canonical segments) : Canonical (overlayOld segments segment) := by
  intro a aMember b bMember joined
  have newOrdered : Ordered (overlayNew segments segment) := ordered_carve _ ordered positive
  obtain ⟨first, firstMember, firstValue, firstLower, aPositive, firstUpper, aCarved⟩ :=
    mem_overlayOld ordered positive aMember
  obtain ⟨second, secondMember, secondValue, secondLower, bPositive, secondUpper, bCarved⟩ :=
    mem_overlayOld ordered positive bMember
  have touch := joined.2
  rcases ordered.eq_or_apart firstMember secondMember with rfl | before | after
  · exact carve_not_touching _ newOrdered (ordered.positive first firstMember) aCarved bCarved touch
  · refine canonical first firstMember second secondMember ⟨?_, ?_⟩
    · rw [← firstValue, ← secondValue, joined.1]
    · apply le_antisymm before
      exact le_trans secondLower (touch ▸ firstUpper)
  · have wide : a.hi < b.hi := touch ▸ bPositive
    have order : b.hi ≤ a.lo := le_trans secondUpper (le_trans after firstLower)
    exact absurd (lt_of_lt_of_le wide order) (not_lt.mpr (le_of_lt aPositive))

theorem overlayNew_canonical (ordered : Ordered segments) (positive : segment.lo < segment.hi) :
    Canonical (overlayNew segments segment) := by
  intro a aMember b bMember joined
  exact carve_not_touching _ ordered positive aMember bMember joined.2

theorem overlayOld_outside (ordered : Ordered segments) (positive : segment.lo < segment.hi) {piece : Segment T A}
    (member : piece ∈ overlayOld segments segment) (value : piece.val = segment.val) :
    piece.hi ≤ segment.lo ∨ segment.hi ≤ piece.lo := by
  obtain ⟨_, _, _, _, room, _, _⟩ := mem_overlayOld ordered positive member
  apply apart_of_no_common room positive
  intro time pieceCovers segmentCovers
  obtain ⟨_, _, _, _, outside⟩ :=
    (covers_overlayOld ordered positive time piece.val).mp ⟨piece, member, pieceCovers, rfl⟩
  exact outside ⟨segmentCovers, le_of_eq value⟩

theorem mem_overlayNew (ordered : Ordered segments) (positive : segment.lo < segment.hi) {piece : Segment T A}
    (member : piece ∈ overlayNew segments segment) : piece.val = segment.val ∧
      segment.lo ≤ piece.lo ∧ piece.lo < piece.hi ∧ piece.hi ≤ segment.hi :=
  mem_carve _ ordered positive member

theorem joinable_old_new (ordered : Ordered segments) (positive : segment.lo < segment.hi) {old new : Segment T A}
    (oldMember : old ∈ overlayOld segments segment) (newMember : new ∈ overlayNew segments segment)
    (joined : Joinable old new) : new.lo = segment.lo ∧
      ∃ left ∈ segments, left.val = segment.val ∧ left.lo < segment.lo ∧ segment.lo ≤ left.hi := by
  obtain ⟨value, lower, room, upper⟩ := mem_overlayNew ordered positive newMember
  obtain ⟨source, sourceMember, sourceValue, sourceLower, oldPositive, sourceUpper, _⟩ :=
    mem_overlayOld ordered positive oldMember
  have touch := joined.2
  have same : old.val = segment.val := joined.1.trans value
  rcases overlayOld_outside ordered positive oldMember same with before | after
  · have start : new.lo = segment.lo := le_antisymm (touch ▸ before) lower
    refine ⟨start, source, sourceMember, sourceValue.symm.trans same, ?_, ?_⟩
    · exact lt_of_le_of_lt sourceLower (lt_of_lt_of_le oldPositive before)
    · rw [← start, ← touch]
      exact sourceUpper
  · have beyond : segment.hi < new.hi := lt_of_le_of_lt after (lt_trans oldPositive (touch ▸ room))
    exact absurd beyond (not_lt.mpr upper)

theorem joinable_new_old (ordered : Ordered segments) (positive : segment.lo < segment.hi) {old new : Segment T A}
    (oldMember : old ∈ overlayOld segments segment) (newMember : new ∈ overlayNew segments segment)
    (joined : Joinable new old) : new.hi = segment.hi ∧
      ∃ right ∈ segments, right.val = segment.val ∧ right.lo ≤ segment.hi ∧ segment.hi < right.hi := by
  obtain ⟨value, lower, room, upper⟩ := mem_overlayNew ordered positive newMember
  obtain ⟨source, sourceMember, sourceValue, sourceLower, oldPositive, sourceUpper, _⟩ :=
    mem_overlayOld ordered positive oldMember
  have touch := joined.2
  have same : old.val = segment.val := joined.1.symm.trans value
  rcases overlayOld_outside ordered positive oldMember same with before | after
  · have beyond : new.lo < segment.lo := lt_of_lt_of_le (lt_trans room (touch ▸ oldPositive)) before
    exact absurd beyond (not_lt.mpr lower)
  · have stop : new.hi = segment.hi := le_antisymm upper (touch ▸ after)
    refine ⟨stop, source, sourceMember, sourceValue.symm.trans same, ?_, ?_⟩
    · rw [← stop, touch]
      exact sourceLower
    · exact lt_of_le_of_lt after (lt_of_lt_of_le oldPositive sourceUpper)

theorem overlay_pairs (ordered : Ordered segments) (positive : segment.lo < segment.hi)
    (canonical : Canonical segments) (bridged : ¬Bridged segments segment) {result : List (Segment T A)}
    (members : ∀ piece, piece ∈ result ↔
      piece ∈ overlayOld segments segment ∨ piece ∈ overlayNew segments segment) :
    ∀ a ∈ result, ∀ b ∈ result, ∀ c ∈ result, Joinable a b → ¬Joinable b c := by
  intro a aMember b bMember c cMember joined continued
  have oldCanonical := overlayOld_canonical ordered positive canonical
  have newCanonical := overlayNew_canonical ordered positive
  rcases (members b).mp bMember with bOld | bNew
  · rcases (members a).mp aMember with aOld | aNew
    · exact oldCanonical a aOld b bOld joined
    · rcases (members c).mp cMember with cOld | cNew
      · exact oldCanonical b bOld c cOld continued
      · have start := (joinable_old_new ordered positive bOld cNew continued).1
        have stop := (joinable_new_old ordered positive bOld aNew joined).1
        obtain ⟨_, _, _, _, room, _, _⟩ := mem_overlayOld ordered positive bOld
        rw [← joined.2, stop, continued.2, start] at room
        exact absurd room (not_lt.mpr (le_of_lt positive))
  · rcases (members a).mp aMember with aOld | aNew
    · rcases (members c).mp cMember with cOld | cNew
      · obtain ⟨start, left⟩ := joinable_old_new ordered positive aOld bNew joined
        obtain ⟨stop, right⟩ := joinable_new_old ordered positive cOld bNew continued
        refine bridged ⟨left, right, ?_⟩
        intro other member newer
        apply apart_of_no_common (ordered.positive other member) positive
        intro time otherCovers segmentCovers
        have covers : b.Covers time := ⟨start ▸ segmentCovers.1, stop ▸ segmentCovers.2⟩
        have survives := ((covers_overlayNew ordered positive time).mp ⟨b, bNew, covers⟩).2
        exact survives ⟨other, member, newer, otherCovers⟩
      · exact newCanonical b bNew c cNew continued
    · exact newCanonical a aNew b bNew joined

end Overlay

end ServiceHost.Library
