import Mathlib.Data.List.Chain
import Mathlib.Order.Lattice
import Mathlib.Order.MinMax
import ServiceHost.Library.Segments

/-!
Laying a new segment over an ordered list so that the greater value wins at
every point, and merging neighbours that carry one value. Both are described by
what a lookup gives afterwards.
-/

namespace ServiceHost.Library

variable {T A : Type} [LinearOrder T]

theorem carve_gaps (wins : A → A → Bool) {cuts : List (Segment T A)} {segment : Segment T A}
    (ordered : Ordered cuts) (positive : segment.lo < segment.hi) :
    (carve wins cuts segment).Pairwise fun first second =>
      ∃ cut ∈ cuts, first.hi ≤ cut.lo ∧ cut.hi ≤ second.lo := by
  induction cuts generalizing segment with
  | nil => simp [carve]
  | cons other rest ih =>
      obtain ⟨_, _, tail⟩ := Ordered.cons_iff.mp ordered
      have wider : ∀ {first second : Segment T A},
          (∃ cut ∈ rest, first.hi ≤ cut.lo ∧ cut.hi ≤ second.lo) →
            ∃ cut ∈ other :: rest, first.hi ≤ cut.lo ∧ cut.hi ≤ second.lo :=
        fun found => found.imp fun _ => And.imp_left (List.mem_cons_of_mem _)
      simp only [carve]
      split
      · split
        · rename_i starts cut
          simp only [Bool.and_eq_true, decide_eq_true_eq] at cut
          refine List.pairwise_append.mpr ⟨?_, ?_, ?_⟩
          · unfold Segment.before
            split <;> simp
          · split
            · rename_i room
              exact (ih tail room).imp wider
            · exact List.Pairwise.nil
          · intro first firstMember second secondMember
            refine ⟨other, by simp, ?_, ?_⟩
            · unfold Segment.before at firstMember
              split at firstMember
              · rw [List.mem_singleton.mp firstMember]
              · simp at firstMember
            · split at secondMember
              · rename_i room
                exact (mem_carve wins tail room secondMember).2.1
              · simp at secondMember
        · exact (ih tail positive).imp wider
      · simp

theorem apart_of_no_common {first second : Segment T A} (firstPositive : first.lo < first.hi)
    (secondPositive : second.lo < second.hi)
    (none : ∀ time, first.Covers time → ¬ second.Covers time) :
    first.hi ≤ second.lo ∨ second.hi ≤ first.lo := by
  by_contra meets
  rw [not_or, not_le, not_le] at meets
  rcases le_total first.lo second.lo with lower | lower
  · exact none second.lo ⟨lower, meets.1⟩ ⟨le_refl _, secondPositive⟩
  · exact none first.lo ⟨le_refl _, firstPositive⟩ ⟨lower, meets.2⟩

theorem Ordered.of_sorted {segments : List (Segment T A)}
    (positive : ∀ segment ∈ segments, segment.lo < segment.hi)
    (sorted : segments.Pairwise fun first second => first.lo < second.lo)
    (apart : segments.Pairwise fun first second => first.hi ≤ second.lo ∨ second.hi ≤ first.lo) :
    Ordered segments := by
  refine ⟨positive, List.Pairwise.imp_of_mem ?_ (sorted.and apart)⟩
  rintro first second _ secondMember ⟨before, behind | ahead⟩
  · exact behind
  · exact absurd (lt_of_lt_of_le (positive second secondMember) ahead) (not_lt.mpr (le_of_lt before))

theorem Ordered.apart_of_perm {segments others : List (Segment T A)} (perm : segments.Perm others)
    (apart : others.Pairwise fun first second => first.hi ≤ second.lo ∨ second.hi ≤ first.lo) :
    segments.Pairwise fun first second => first.hi ≤ second.lo ∨ second.hi ≤ first.lo :=
  perm.symm.pairwise apart fun sides => sides.symm

/-- The greater of an earlier value, if there is one, and a new one. -/
def latest [LinearOrder A] : Option A → A → A
  | none, value => value
  | some earlier, value => max earlier value

section Overlay

variable [LinearOrder A] {segments : List (Segment T A)} {segment : Segment T A}

def overlayNew (segments : List (Segment T A)) (segment : Segment T A) : List (Segment T A) :=
  carve (fun cut value => value < cut) segments segment

def overlayOld (segments : List (Segment T A)) (segment : Segment T A) : List (Segment T A) :=
  segments.flatMap (carve (fun cut value => value ≤ cut) (overlayNew segments segment))

theorem covers_overlayNew (ordered : Ordered segments) (positive : segment.lo < segment.hi) (time : T) :
    (∃ piece ∈ overlayNew segments segment, piece.Covers time) ↔
      segment.Covers time ∧ ¬ ∃ old ∈ segments, segment.val < old.val ∧ old.Covers time := by
  unfold overlayNew
  simp only [covers_carve _ ordered positive, decide_eq_true_eq]

theorem val_overlayNew (ordered : Ordered segments) (positive : segment.lo < segment.hi)
    {piece : Segment T A} (member : piece ∈ overlayNew segments segment) : piece.val = segment.val :=
  (mem_carve _ ordered positive member).1

theorem covers_overlayOld (ordered : Ordered segments) (positive : segment.lo < segment.hi) (time : T)
    (value : A) :
    (∃ piece ∈ overlayOld segments segment, piece.Covers time ∧ piece.val = value) ↔
      ∃ old ∈ segments, old.Covers time ∧ old.val = value ∧ ¬ (segment.Covers time ∧ value ≤ segment.val) := by
  have newOrdered : Ordered (overlayNew segments segment) := ordered_carve _ ordered positive
  rw [overlayOld, covers_flatMap_carve _ newOrdered ordered]
  refine exists_congr fun old => and_congr_right fun member => and_congr_right fun covers =>
    and_congr_right fun same => not_congr ?_
  constructor
  · rintro ⟨piece, pieceMember, wins, pieceCovers⟩
    rw [val_overlayNew ordered positive pieceMember] at wins
    exact ⟨((covers_overlayNew ordered positive time).mp ⟨piece, pieceMember, pieceCovers⟩).1,
      by simpa using wins⟩
  · rintro ⟨segmentCovers, older⟩
    have alone : ¬ ∃ other ∈ segments, segment.val < other.val ∧ other.Covers time := by
      rintro ⟨other, otherMember, greater, otherCovers⟩
      obtain rfl := ordered.eq_of_covers otherMember member otherCovers covers
      exact absurd greater (not_lt.mpr (same ▸ older))
    obtain ⟨piece, pieceMember, pieceCovers⟩ :=
      (covers_overlayNew ordered positive time).mpr ⟨segmentCovers, alone⟩
    refine ⟨piece, pieceMember, ?_, pieceCovers⟩
    rw [val_overlayNew ordered positive pieceMember]
    simpa using older

theorem overlay_apart (ordered : Ordered segments) (positive : segment.lo < segment.hi) :
    ∀ old ∈ overlayOld segments segment, ∀ new ∈ overlayNew segments segment,
      old.hi ≤ new.lo ∨ new.hi ≤ old.lo := by
  have newOrdered : Ordered (overlayNew segments segment) := ordered_carve _ ordered positive
  have oldOrdered : Ordered (overlayOld segments segment) := ordered_flatMap_carve _ newOrdered ordered
  intro old oldMember new newMember
  refine apart_of_no_common (oldOrdered.positive old oldMember) (newOrdered.positive new newMember) ?_
  intro time oldCovers newCovers
  obtain ⟨segmentCovers, alone⟩ :=
    (covers_overlayNew ordered positive time).mp ⟨new, newMember, newCovers⟩
  obtain ⟨source, sourceMember, sourceCovers, same, outside⟩ :=
    (covers_overlayOld ordered positive time old.val).mp ⟨old, oldMember, oldCovers, rfl⟩
  refine outside ⟨segmentCovers, not_lt.mp fun greater => ?_⟩
  exact alone ⟨source, sourceMember, same ▸ greater, sourceCovers⟩

theorem lookup_overlay (ordered : Ordered segments) (positive : segment.lo < segment.hi)
    {result : List (Segment T A)} (resultOrdered : Ordered result)
    (members : ∀ piece, piece ∈ result ↔
      piece ∈ overlayOld segments segment ∨ piece ∈ overlayNew segments segment) (time : T) :
    lookup result time =
      if segment.Covers time then some (latest (lookup segments time) segment.val)
      else lookup segments time := by
  apply Option.ext
  intro value
  have parts : lookup result time = some value ↔
      (∃ old ∈ segments, old.Covers time ∧ old.val = value ∧
        ¬ (segment.Covers time ∧ value ≤ segment.val)) ∨
      (segment.Covers time ∧ (¬ ∃ old ∈ segments, segment.val < old.val ∧ old.Covers time) ∧
        segment.val = value) := by
    rw [lookup_eq_some_iff resultOrdered, ← covers_overlayOld ordered positive]
    constructor
    · rintro ⟨piece, member, covers, same⟩
      rcases (members piece).mp member with old | new
      · exact Or.inl ⟨piece, old, covers, same⟩
      · have found := (covers_overlayNew ordered positive time).mp ⟨piece, new, covers⟩
        exact Or.inr ⟨found.1, found.2, (val_overlayNew ordered positive new).symm.trans same⟩
    · rintro (⟨piece, old, covers, same⟩ | ⟨covers, alone, same⟩)
      · exact ⟨piece, (members piece).mpr (Or.inl old), covers, same⟩
      · obtain ⟨piece, new, pieceCovers⟩ :=
          (covers_overlayNew ordered positive time).mpr ⟨covers, alone⟩
        exact ⟨piece, (members piece).mpr (Or.inr new), pieceCovers,
          (val_overlayNew ordered positive new).trans same⟩
  rw [parts]
  by_cases covers : segment.Covers time
  · simp only [covers, if_true, true_and, not_le, Option.some.injEq]
    cases found : lookup segments time with
    | none =>
        have uncovered := lookup_eq_none_iff.mp found
        constructor
        · rintro (⟨old, member, oldCovers, _⟩ | ⟨_, same⟩)
          · exact absurd oldCovers (uncovered old member)
          · exact same
        · exact fun same => Or.inr ⟨fun ⟨old, member, _, oldCovers⟩ =>
            uncovered old member oldCovers, same⟩
    | some earlier =>
        obtain ⟨source, sourceMember, sourceCovers, sourceSame⟩ :=
          (lookup_eq_some_iff ordered).mp found
        have unique : ∀ old ∈ segments, old.Covers time → old.val = earlier :=
          fun old member oldCovers =>
            (ordered.eq_of_covers member sourceMember oldCovers sourceCovers) ▸ sourceSame
        change _ ↔ max earlier segment.val = value
        rcases le_or_gt earlier segment.val with older | newer
        · rw [max_eq_right older]
          constructor
          · rintro (⟨old, member, oldCovers, same, greater⟩ | ⟨_, same⟩)
            · rw [← same, unique old member oldCovers] at greater
              exact absurd greater (not_lt.mpr older)
            · exact same
          · refine fun same => Or.inr ⟨?_, same⟩
            rintro ⟨old, member, greater, oldCovers⟩
            rw [unique old member oldCovers] at greater
            exact absurd greater (not_lt.mpr older)
        · rw [max_eq_left (le_of_lt newer)]
          constructor
          · rintro (⟨old, member, oldCovers, same, _⟩ | ⟨alone, _⟩)
            · rw [← unique old member oldCovers, same]
            · exact absurd ⟨source, sourceMember, sourceSame ▸ newer, sourceCovers⟩ alone
          · intro same
            exact Or.inl ⟨source, sourceMember, sourceCovers, sourceSame.trans same, same ▸ newer⟩
  · simp only [covers, if_false, false_and, not_false_eq_true, and_true, or_false]
    exact (lookup_eq_some_iff ordered).symm

end Overlay

section Merge

variable [DecidableEq A]

/-- Joins two neighbours that touch and carry one value. A joined segment is not
looked at again, so one pass does not always join all that could be joined. -/
def mergeNeighbours : List (Segment T A) → List (Segment T A)
  | first :: second :: rest =>
      if first.val = second.val ∧ first.hi = second.lo then
        { first with hi := second.hi } :: mergeNeighbours rest
      else first :: mergeNeighbours (second :: rest)
  | segments => segments

theorem mergeNeighbours_joined {first second : Segment T A} (rest : List (Segment T A))
    (joined : first.val = second.val ∧ first.hi = second.lo) :
    mergeNeighbours (first :: second :: rest) = { first with hi := second.hi } :: mergeNeighbours rest := by
  rw [mergeNeighbours, if_pos joined]

theorem mergeNeighbours_kept {first second : Segment T A} (rest : List (Segment T A))
    (kept : ¬(first.val = second.val ∧ first.hi = second.lo)) :
    mergeNeighbours (first :: second :: rest) = first :: mergeNeighbours (second :: rest) := by
  rw [mergeNeighbours, if_neg kept]

theorem mem_mergeNeighbours {segments : List (Segment T A)} (ordered : Ordered segments)
    {merged : Segment T A} (member : merged ∈ mergeNeighbours segments) :
    (∃ segment ∈ segments, segment.lo = merged.lo) ∧ merged.lo < merged.hi ∧
      ∃ segment ∈ segments, segment.val = merged.val ∧ segment.hi = merged.hi := by
  fun_induction mergeNeighbours segments with
  | case1 first second rest joined ih =>
      obtain ⟨firstPositive, firstEnded, tail⟩ := Ordered.cons_iff.mp ordered
      obtain ⟨secondPositive, _, rest'⟩ := Ordered.cons_iff.mp tail
      rcases List.mem_cons.mp member with same | later
      · subst same
        refine ⟨⟨first, by simp, rfl⟩, ?_, second, by simp, joined.1.symm, rfl⟩
        exact lt_trans firstPositive (lt_of_le_of_lt (firstEnded second (by simp)) secondPositive)
      · obtain ⟨⟨low, lowMember, lowSame⟩, positive, high, highMember, highSame⟩ := ih rest' later
        exact ⟨⟨low, by simp [lowMember], lowSame⟩, positive, high, by simp [highMember], highSame⟩
  | case2 first second rest kept ih =>
      obtain ⟨firstPositive, _, tail⟩ := Ordered.cons_iff.mp ordered
      rcases List.mem_cons.mp member with same | later
      · exact ⟨⟨first, by simp, same ▸ rfl⟩, same ▸ firstPositive, first, by simp, same ▸ ⟨rfl, rfl⟩⟩
      · obtain ⟨⟨low, lowMember, lowSame⟩, positive, high, highMember, highSame⟩ := ih tail later
        exact ⟨⟨low, List.mem_cons_of_mem _ lowMember, lowSame⟩, positive, high,
          List.mem_cons_of_mem _ highMember, highSame⟩
  | case3 segments short =>
      exact ⟨⟨merged, member, rfl⟩, ordered.positive merged member, merged, member, rfl, rfl⟩

theorem ordered_mergeNeighbours {segments : List (Segment T A)} (ordered : Ordered segments) :
    Ordered (mergeNeighbours segments) := by
  fun_induction mergeNeighbours segments with
  | case1 first second rest joined ih =>
      obtain ⟨firstPositive, firstEnded, tail⟩ := Ordered.cons_iff.mp ordered
      obtain ⟨secondPositive, secondEnded, rest'⟩ := Ordered.cons_iff.mp tail
      refine Ordered.cons_iff.mpr ⟨?_, ?_, ih rest'⟩
      · exact lt_trans firstPositive (lt_of_le_of_lt (firstEnded second (by simp)) secondPositive)
      · intro other member
        obtain ⟨⟨low, lowMember, same⟩, _⟩ := mem_mergeNeighbours rest' member
        exact same ▸ secondEnded low lowMember
  | case2 first second rest kept ih =>
      obtain ⟨firstPositive, firstEnded, tail⟩ := Ordered.cons_iff.mp ordered
      refine Ordered.cons_iff.mpr ⟨firstPositive, ?_, ih tail⟩
      intro other member
      obtain ⟨⟨low, lowMember, same⟩, _⟩ := mem_mergeNeighbours tail member
      exact same ▸ firstEnded low lowMember
  | case3 segments short => exact ordered

theorem lookup_mergeNeighbours {segments : List (Segment T A)} (ordered : Ordered segments) (time : T) :
    lookup (mergeNeighbours segments) time = lookup segments time := by
  refine lookup_eq_of_mem_iff (ordered_mergeNeighbours ordered) ordered fun value => ?_
  fun_induction mergeNeighbours segments with
  | case1 first second rest joined ih =>
      obtain ⟨firstPositive, firstEnded, tail⟩ := Ordered.cons_iff.mp ordered
      obtain ⟨secondPositive, _, rest'⟩ := Ordered.cons_iff.mp tail
      simp only [List.mem_cons, exists_eq_or_imp, ih rest']
      rw [← or_assoc]
      refine or_congr_left ?_
      constructor
      · rintro ⟨⟨lower, upper⟩, same⟩
        by_cases early : time < first.hi
        · exact Or.inl ⟨⟨lower, early⟩, same⟩
        · exact Or.inr ⟨⟨joined.2 ▸ not_lt.mp early, upper⟩, joined.1 ▸ same⟩
      · rintro (⟨⟨lower, upper⟩, same⟩ | ⟨⟨lower, upper⟩, same⟩)
        · refine ⟨⟨lower, ?_⟩, same⟩
          exact lt_trans upper (lt_of_le_of_lt (firstEnded second (by simp)) secondPositive)
        · refine ⟨⟨?_, upper⟩, joined.1.trans same⟩
          exact le_trans (le_of_lt firstPositive) (joined.2 ▸ lower)
  | case2 first second rest kept ih =>
      obtain ⟨_, _, tail⟩ := Ordered.cons_iff.mp ordered
      simp only [List.mem_cons, exists_eq_or_imp] at ih ⊢
      rw [ih tail]
  | case3 segments short => rfl

end Merge

end ServiceHost.Library
