import ServiceHost.Configuration.StringExpanderCore
import ServiceHost.Library.Replacement

/-!
What expansion comes to. A string whose percent signs all belong to references is the
rendering of a text with references, and the loops over the string are those over its pieces.
-/

namespace ServiceHost.Configuration

open Library

section Scan

theorem findMeta_eq {text plain behind : Text} (found : findMeta text = some (plain, behind)) :
    text = plain ++ metaChar :: behind ∧ metaChar ∉ plain := by
  induction text generalizing plain with
  | nil => cases found
  | cons c rest ih =>
      rw [findMeta] at found
      by_cases isMeta : c = metaChar
      · rw [if_pos isMeta] at found
        cases found
        exact ⟨by rw [isMeta]; rfl, List.not_mem_nil⟩
      · rw [if_neg isMeta] at found
        obtain ⟨parts, inner, same⟩ := Option.map_eq_some_iff.mp found
        cases same
        obtain ⟨split, without⟩ := ih inner
        refine ⟨congrArg (c :: ·) split, ?_⟩
        rw [List.mem_cons, not_or]
        exact ⟨fun same => isMeta same.symm, without⟩

theorem findMeta_append {plain : Text} (without : metaChar ∉ plain) (behind : Text) :
    findMeta (plain ++ metaChar :: behind) = some (plain, behind) := by
  induction plain with
  | nil => exact if_pos rfl
  | cons c plain ih =>
      rw [List.mem_cons, not_or] at without
      rw [List.cons_append, findMeta, if_neg (Ne.symm without.1), ih without.2]
      rfl

theorem scan_fuel (find : Text → Option Text) {fuel other : Nat} (before rest : Text) (missedMapping : Nat)
    (enough : rest.length ≤ fuel) (otherEnough : rest.length ≤ other) :
    scan find fuel before rest missedMapping = scan find other before rest missedMapping := by
  induction fuel generalizing other before rest missedMapping with
  | zero =>
      cases List.length_eq_zero_iff.mp (Nat.le_zero.mp enough)
      cases other <;> rfl
  | succ fuel ih =>
      cases other with
      | zero =>
          cases List.length_eq_zero_iff.mp (Nat.le_zero.mp otherEnough)
          rfl
      | succ other =>
          rw [scan, scan]
          cases found : findMeta rest with
          | none => rfl
          | some parts =>
              obtain ⟨plain, behind⟩ := parts
              have split := (findMeta_eq found).1
              cases behind with
              | nil => rfl
              | cons first behind =>
                  cases behind with
                  | nil => rfl
                  | cons second behind =>
                      dsimp only
                      cases closed : findMeta (second :: behind) with
                      | none => rfl
                      | some inner =>
                          obtain ⟨name, after⟩ := inner
                          have innerSplit := congrArg List.length (findMeta_eq closed).1
                          have lengths := congrArg List.length split
                          simp only [List.length_append, List.length_cons] at lengths innerSplit
                          have shorter : after.length + 2 ≤ fuel ∧ after.length + 2 ≤ other := by omega
                          dsimp only
                          split
                          · cases find (first :: name) with
                            | some value => rfl
                            | none => exact ih _ _ _ (by omega) (by omega)
                          · exact ih _ _ _ (by rw [List.length_cons]; omega) (by rw [List.length_cons]; omega)

theorem scan_nil (find : Text → Option Text) (fuel : Nat) (before : Text) (missedMapping : Nat) :
    scan find fuel before [] missedMapping = .atEnd missedMapping := by
  cases fuel <;> rfl

theorem scan_character (find : Text → Option Text) (fuel : Nat) (before rest : Text) (missedMapping : Nat) {c : UInt8}
    (plain : c ≠ metaChar) : scan find (fuel + 1) before (c :: rest) missedMapping =
      scan find (fuel + 1) (before ++ [c]) rest missedMapping := by
  rw [scan, scan, findMeta, if_neg plain]
  cases findMeta rest with
  | none => rfl
  | some parts =>
      obtain ⟨plain, behind⟩ := parts
      simp only [Option.map_some, List.append_assoc, List.singleton_append]
      cases behind with
      | nil => rfl
      | cons first behind =>
          cases behind with
          | nil => rfl
          | cons second behind => rfl

theorem not_isKeyChar_metaChar : isKeyChar metaChar = false := by decide

theorem scan_reference (find : Text → Option Text) (fuel : Nat) (before rest : Text) (missedMapping : Nat) {name : Text}
    (named : name ≠ []) (valid : name.all isKeyChar = true) :
    scan find (fuel + 1) before (metaChar :: (name ++ metaChar :: rest)) missedMapping =
      match find name with
      | some value => .found before value rest missedMapping
      | none => scan find fuel (before ++ metaChar :: (name ++ [metaChar])) rest (missedMapping + 1) := by
  have without : metaChar ∉ name := by
    intro member
    cases not_isKeyChar_metaChar.symm.trans (List.all_eq_true.mp valid _ member)
  have opened : findMeta (metaChar :: (name ++ metaChar :: rest)) = some ([], name ++ metaChar :: rest) := if_pos rfl
  cases name with
  | nil => exact absurd rfl named
  | cons first name =>
      rw [List.mem_cons, not_or] at without
      have closed := findMeta_append without.2 rest
      -- between the two markers stands at least the first character, so the second one is found behind it
      obtain ⟨second, behind, shape⟩ : ∃ second behind, name ++ metaChar :: rest = second :: behind := by
        cases name with
        | nil => exact ⟨metaChar, rest, rfl⟩
        | cons second name => exact ⟨second, name ++ metaChar :: rest, rfl⟩
      rw [scan, opened, List.cons_append, shape]
      rw [shape] at closed
      cases found : find (first :: name) with
      | none => simp only [closed, valid, if_true, found, List.append_nil]
      | some value => simp only [closed, valid, if_true, found, List.append_nil]

end Scan

section Rendering

abbrev CfgText := PieceText Text UInt8

def renderPiece : Piece Text UInt8 → Text
  | .character c => [c]
  | .reference name => metaChar :: (name ++ [metaChar])

def render (text : CfgText) : Text := text.flatMap renderPiece

def IsSound : Piece Text UInt8 → Prop
  | .character c => c ≠ metaChar
  | .reference name => name ≠ [] ∧ name.all isKeyChar = true

instance : DecidablePred IsSound
  | .character c => inferInstanceAs (Decidable (c ≠ metaChar))
  | .reference name => inferInstanceAs (Decidable (name ≠ [] ∧ name.all isKeyChar = true))

theorem render_append (first second : CfgText) : render (first ++ second) = render first ++ render second :=
  List.flatMap_append

theorem render_reference (name : Text) (rest : CfgText) :
    render (.reference name :: rest) = metaChar :: (name ++ metaChar :: render rest) := by
  change metaChar :: (name ++ [metaChar]) ++ render rest = _
  rw [List.cons_append, List.append_assoc]
  rfl

theorem scan_render (env : Text → Option CfgText) {fuel : Nat} (before : CfgText) {rest : CfgText} (missed : Nat)
    (sound : ∀ piece ∈ rest, IsSound piece) (enough : (render rest).length ≤ fuel) :
    scan (fun key => (env key).map render) fuel (render before) (render rest) missed =
      match search env before rest missed with
      | .atEnd missed => .atEnd missed
      | .found front text behind missed => .found (render front) (render text) (render behind) missed := by
  induction rest generalizing fuel before missed with
  | nil => exact scan_nil _ fuel _ missed
  | cons piece rest ih =>
      have restSound : ∀ piece ∈ rest, IsSound piece := fun other member => sound other (List.mem_cons_of_mem _ member)
      have pieceSound := sound piece List.mem_cons_self
      cases piece with
      | character c =>
          have length : (render (.character c :: rest)).length = (render rest).length + 1 := rfl
          obtain ⟨fuel, rfl⟩ : ∃ less, fuel = less + 1 := ⟨fuel - 1, by omega⟩
          have further := ih (before ++ [.character c]) missed restSound (show _ ≤ fuel + 1 by omega)
          rw [render_append] at further
          exact (scan_character _ fuel _ _ missed pieceSound).trans further
      | reference name =>
          rw [render_reference] at enough ⊢
          have length : (metaChar :: (name ++ metaChar :: render rest)).length = name.length + (render rest).length + 2 := by
            rw [List.length_cons, List.length_append, List.length_cons]
            omega
          obtain ⟨fuel, rfl⟩ : ∃ less, fuel = less + 1 := ⟨fuel - 1, by omega⟩
          rw [scan_reference _ fuel _ _ missed pieceSound.1 pieceSound.2, search]
          cases value : env name with
          | some text => rfl
          | none =>
              have further := ih (before ++ [.reference name]) (missed + 1) restSound (show _ ≤ fuel by omega)
              rw [render_append] at further
              have last : render [.reference name] = metaChar :: (name ++ [metaChar]) := List.append_nil _
              rw [last] at further
              exact further

def rendered (result : Replacement Text UInt8) : Expansion := ⟨render result.text, result.changed, result.missed⟩

theorem expandFrom_render {env : Text → Option CfgText}
    (sound : ∀ name text, env name = some text → ∀ piece ∈ text, IsSound piece) (replacements : Nat) {before : CfgText}
    (rest : CfgText) (start : ∀ piece ∈ before ++ rest, IsSound piece) (changed : Bool) (missed : Nat) :
    expandFrom (fun key => (env key).map render) replacements (render before) (render rest) changed missed =
      rendered (replaceFrom env replacements before rest changed missed) := by
  induction replacements generalizing before rest changed missed with
  | zero =>
      rw [expandFrom, ← render_append]
      rfl
  | succ replacements ih =>
      have restSound : ∀ piece ∈ rest, IsSound piece := fun piece member => start piece (List.mem_append_right _ member)
      rw [expandFrom, replaceFrom, scan_render env before missed restSound (Nat.le_refl _)]
      cases searched : search env before rest missed with
      | atEnd missed =>
          dsimp only
          rw [← render_append]
          rfl
      | found front text behind missed =>
          dsimp only
          rw [← render_append]
          exact ih (text ++ behind) (search_pieces sound rest start searched) true missed

end Rendering

section Entries

abbrev CfgEntry := Text × CfgText

def renderEntries (entries : List CfgEntry) : List (Text × Text) := entries.map fun entry => (entry.1, render entry.2)

def refers (entry : CfgEntry) : Bool := !(references entry.2).isEmpty

theorem find_map {V W : Type} (change : V → W) (entries : List (Text × V)) (key : Text) :
    find (entries.map fun entry => (entry.1, change entry.2)) key = (find entries key).map change := by
  induction entries with
  | nil => rfl
  | cons entry entries ih =>
      by_cases same : entry.1 = key
      · simp only [find, List.map_cons, List.find?_cons, same, decide_true, Option.map_some]
      · have skips : ∀ {V : Type} (value : V) (others : List (Text × V)),
            find ((entry.1, value) :: others) key = find others key := by
          intro V value others
          simp only [find, List.find?_cons, same, decide_false]
        rw [List.map_cons, skips, ih]
        exact congrArg _ (skips entry.2 entries).symm

theorem find_eq_some {V : Type} {entries : List (Text × V)} {key : Text} {value : V} (found : find entries key = some value) :
    (key, value) ∈ entries := by
  obtain ⟨entry, first, same⟩ := Option.map_eq_some_iff.mp found
  have isKey : entry.1 = key := by simpa using List.find?_some first
  rw [← isKey, ← same]
  exact List.mem_of_find?_eq_some first

theorem find_isSome {V : Type} (entries : List (Text × V)) (key : Text) :
    (find entries key).isSome = decide (key ∈ entries.map Prod.fst) := by
  induction entries with
  | nil => rfl
  | cons entry entries ih =>
      by_cases same : entry.1 = key
      · simp [find, same]
      · have skips : find (entry :: entries) key = find entries key := by
          simp only [find, List.find?_cons, same, decide_false]
        rw [skips, ih, List.map_cons]
        simp only [List.mem_cons, Ne.symm same, false_or]

structure Fits (keys : List Text) (f : Text → CfgText) (potential : Text → Nat) (entries : List CfgEntry) : Prop where
  keysSame : entries.map Prod.fst = keys
  sound : ∀ entry ∈ entries, ∀ piece ∈ entry.2, IsSound piece
  meaning : ∀ entry ∈ entries, applyAll f entry.2 = f entry.1
  bounded : ∀ entry ∈ entries, weight (fun name => decide (name ∈ keys)) potential entry.2 ≤ potential entry.1

def isKey (keys : List Text) (name : Text) : Bool := decide (name ∈ keys)

variable {keys : List Text} {f : Text → CfgText} {potential : Text → Nat}

theorem Fits.isKnown {entries : List CfgEntry} (fits : Fits keys f potential entries) (name : Text) :
    isKey keys name = (find entries name).isSome := by
  rw [find_isSome, fits.keysSame]
  rfl

theorem Fits.env_bounded {entries : List CfgEntry} (fits : Fits keys f potential entries) :
    Bounded (isKey keys) potential (find entries) :=
  fun _ _ value => fits.bounded _ (find_eq_some value)

theorem Fits.env_meaning {entries : List CfgEntry} (fits : Fits keys f potential entries) :
    ∀ name text, find entries name = some text → applyAll f text = f name :=
  fun _ _ value => fits.meaning _ (find_eq_some value)

theorem Fits.env_sound {entries : List CfgEntry} (fits : Fits keys f potential entries) :
    ∀ name text, find entries name = some text → ∀ piece ∈ text, IsSound piece :=
  fun _ _ value => fits.sound _ (find_eq_some value)

theorem Fits.replace {front back : List CfgEntry} {entry : CfgEntry} {text : CfgText}
    (fits : Fits keys f potential (front ++ entry :: back)) (sound : ∀ piece ∈ text, IsSound piece)
    (meaning : applyAll f text = f entry.1) (bounded : weight (isKey keys) potential text ≤ potential entry.1) :
    Fits keys f potential (front ++ (entry.1, text) :: back) := by
  have others : ∀ other ∈ front ++ (entry.1, text) :: back, other = (entry.1, text) ∨ other ∈ front ++ entry :: back := by
    intro other member
    rcases List.mem_append.mp member with inFront | later
    · exact Or.inr (List.mem_append_left _ inFront)
    · rcases List.mem_cons.mp later with same | inBack
      · exact Or.inl same
      · exact Or.inr (List.mem_append_right _ (List.mem_cons_of_mem _ inBack))
  constructor
  · rw [← fits.keysSame, List.map_append, List.map_append]
    rfl
  · intro other member
    rcases others other member with rfl | old
    · exact sound
    · exact fits.sound other old
  · intro other member
    rcases others other member with rfl | old
    · exact meaning
    · exact fits.meaning other old
  · intro other member
    rcases others other member with rfl | old
    · exact bounded
    · exact fits.bounded other old

theorem Fits.lower {entries : List CfgEntry} {other : Text → Nat} (fits : Fits keys f potential entries)
    (bounded : ∀ entry ∈ entries, weight (isKey keys) other entry.2 ≤ other entry.1) : Fits keys f other entries :=
  ⟨fits.keysSame, fits.sound, fits.meaning, bounded⟩

end Entries

section Passes

variable {keys : List Text} {f : Text → CfgText} {potential : Text → Nat}

structure Turned (keys : List Text) (f : Text → CfgText) (potential : Text → Nat) (entry : CfgEntry)
    (result : Replacement Text UInt8) : Prop where
  sound : ∀ piece ∈ result.text, IsSound piece
  meaning : applyAll f result.text = f entry.1
  replaced : Replaced (isKey keys) potential 10 entry.2 result
  unchanged : result.changed = false →
    Settled (isKey keys) result.text ∧ result.missed = (references result.text).length

theorem Fits.turn {entries : List CfgEntry} (fits : Fits keys f potential entries) {entry : CfgEntry}
    (member : entry ∈ entries) :
    expandString (find (renderEntries entries)) (render entry.2) =
        rendered (replaceString (find entries) 10 entry.2) ∧
      Turned keys f potential entry (replaceString (find entries) 10 entry.2) := by
  have sound := fits.sound entry member
  have known := fits.isKnown
  constructor
  · have env : find (renderEntries entries) = fun key => (find entries key).map render := funext (find_map render entries)
    rw [env]
    exact @expandFrom_render (find entries) fits.env_sound 10 [] entry.2 sound false 0
  · constructor
    · exact @replaceFrom_pieces Text UInt8 (find entries) IsSound fits.env_sound 10 [] entry.2 sound false 0
    · have meaning := replaceFrom_meaning known fits.env_meaning 10 entry.2 settled_nil false
      exact meaning.trans (fits.meaning entry member)
    · exact replaceFrom_replaced known fits.env_bounded 10 entry.2 settled_nil false
    · intro same
      obtain ⟨text, settled, missed⟩ := replaceFrom_unchanged known 9 entry.2 settled_nil false same
      refine ⟨?_, ?_⟩
      · rw [show (replaceString (find entries) 10 entry.2).text = entry.2 from text]
        exact settled
      · rw [show (replaceString (find entries) 10 entry.2).text = entry.2 from text]
        exact missed

structure Complete (keys : List Text) (next : List CfgEntry) (counted : Nat) : Prop where
  settled : ∀ entry ∈ next, Settled (isKey keys) entry.2
  counted : counted = next.countP refers

structure Passed (keys : List Text) (f : Text → CfgText) (potential : Text → Nat) (passed next : List CfgEntry)
    (changeCount notExpanded : Nat) (pass : Pass) : Prop where
  entries : pass.entries = renderEntries (passed ++ next)
  fits : Fits keys f potential (passed ++ next)
  spent : ∀ entry ∈ next,
    Settled (isKey keys) entry.2 ∨ weight (isKey keys) potential entry.2 + 10 ≤ potential entry.1
  changes : changeCount ≤ pass.changeCount
  still : pass.changeCount = changeCount →
    ∃ counted, pass.notExpanded = notExpanded + counted ∧ Complete keys next counted
  last : (∀ key, potential key < 10) →
    ∃ counted, pass.notExpanded = notExpanded + counted ∧ Complete keys next counted

theorem missed_ne_zero_iff (entry : CfgEntry) : (references entry.2).length ≠ 0 ↔ refers entry = true := by
  rw [refers]
  cases references entry.2 with
  | nil => simp
  | cons name names => simp

theorem Complete.cons {keys : List Text} {next : List CfgEntry} {counted : Nat} (complete : Complete keys next counted)
    {entry : CfgEntry} (settled : Settled (isKey keys) entry.2) (notExpanded : Nat) :
    ∃ all, (if (references entry.2).length ≠ 0 then notExpanded + 1 else notExpanded) + counted = notExpanded + all ∧
      Complete keys (entry :: next) all := by
  refine ⟨(entry :: next).countP refers, ?_, ?_, rfl⟩
  · rw [complete.counted, List.countP_cons]
    by_cases refersTo : refers entry = true
    · rw [if_pos ((missed_ne_zero_iff entry).mpr refersTo), if_pos refersTo]
      omega
    · rw [if_neg (fun missed => refersTo ((missed_ne_zero_iff entry).mp missed)), if_neg refersTo]
      omega
  · intro other member
    rcases List.mem_cons.mp member with rfl | later
    · exact settled
    · exact complete.settled other later

theorem expandEntries_passed (passed todo : List CfgEntry) (changeCount notExpanded : Nat)
    (fits : Fits keys f potential (passed ++ todo)) :
    ∃ next, Passed keys f potential passed next changeCount notExpanded
      (expandEntries (renderEntries passed) (renderEntries todo) changeCount notExpanded) := by
  induction todo generalizing passed changeCount notExpanded with
  | nil =>
      refine ⟨[], ?_, fits, ?_, Nat.le_refl _, ?_, ?_⟩
      · rw [List.append_nil]
        rfl
      · intro entry member
        cases member
      · intro _
        exact ⟨0, rfl, fun entry member => absurd member List.not_mem_nil, rfl⟩
      · intro _
        exact ⟨0, rfl, fun entry member => absurd member List.not_mem_nil, rfl⟩
  | cons entry todo ih =>
      have member : entry ∈ passed ++ entry :: todo := List.mem_append_right _ List.mem_cons_self
      obtain ⟨expanded, turned⟩ := fits.turn member
      generalize replaceString (find (passed ++ entry :: todo)) 10 entry.2 = result at expanded turned
      have lighter : weight (isKey keys) potential result.text ≤ potential entry.1 :=
        Nat.le_trans turned.replaced.lighter (fits.bounded entry member)
      have further := fits.replace turned.sound turned.meaning lighter
      rw [← List.singleton_append, ← List.append_assoc] at further
      obtain ⟨next, rest⟩ := ih (passed ++ [(entry.1, result.text)])
        (if result.changed then changeCount + 1 else changeCount)
        (if result.missed ≠ 0 then notExpanded + 1 else notExpanded) further
      have turn : expandEntries (renderEntries passed) (renderEntries (entry :: todo)) changeCount notExpanded =
          expandEntries (renderEntries (passed ++ [(entry.1, result.text)])) (renderEntries todo)
            (if result.changed then changeCount + 1 else changeCount)
            (if result.missed ≠ 0 then notExpanded + 1 else notExpanded) := by
        have whole : renderEntries passed ++ (entry.1, render entry.2) :: renderEntries todo =
            renderEntries (passed ++ entry :: todo) := by
          rw [renderEntries, renderEntries, renderEntries, List.map_append]
          rfl
        change expandEntries (renderEntries passed) ((entry.1, render entry.2) :: renderEntries todo) _ _ = _
        rw [expandEntries, whole, expanded]
        simp only [rendered, renderEntries, List.map_append, List.map_cons, List.map_nil]
        rfl
      rw [turn]
      refine ⟨(entry.1, result.text) :: next, ?_, ?_, ?_, ?_, ?_, ?_⟩
      · rw [rest.entries, List.append_assoc, List.singleton_append]
      · have restFits := rest.fits
        rw [List.append_assoc, List.singleton_append] at restFits
        exact restFits
      · intro other later
        rcases List.mem_cons.mp later with rfl | inNext
        · rcases turned.replaced.complete with complete | spent
          · exact Or.inl complete.1
          · exact Or.inr (Nat.le_trans spent (fits.bounded entry member))
        · exact rest.spent other inNext
      · refine Nat.le_trans ?_ rest.changes
        split
        · exact Nat.le_succ _
        · exact Nat.le_refl _
      · intro still
        have changes := rest.changes
        have notChanged : result.changed = false := by
          cases changed : result.changed with
          | false => rfl
          | true =>
              rw [still, changed] at changes
              exact absurd changes (Nat.not_succ_le_self _)
        obtain ⟨counted, count, complete⟩ := rest.still (by rw [notChanged]; rw [notChanged] at still; exact still)
        obtain ⟨settled, missed⟩ := turned.unchanged notChanged
        rw [count, missed]
        exact @Complete.cons keys next counted complete (entry.1, result.text) settled notExpanded
      · intro small
        obtain ⟨counted, count, complete⟩ := rest.last small
        have finished : Settled (isKey keys) result.text ∧ result.missed = (references result.text).length := by
          rcases turned.replaced.complete with finished | spent
          · exact finished
          · have bound := fits.bounded entry member
            have below := small entry.1
            change weight (isKey keys) potential entry.2 ≤ _ at bound
            omega
        rw [count, finished.2]
        exact @Complete.cons keys next counted complete (entry.1, result.text) finished.1 notExpanded

theorem expandPasses_complete (retries : Nat) (entries : List CfgEntry) (potential : Text → Nat)
    (fits : Fits keys f potential entries) (enough : ∀ key, potential key < 10 * (retries + 1)) :
    ∃ next, (∃ lower, Fits keys f lower next) ∧ (∀ entry ∈ next, Settled (isKey keys) entry.2) ∧
      expandPasses (retries + 1) (renderEntries entries) = (renderEntries next, next.countP refers) := by
  induction retries generalizing entries potential with
  | zero =>
      obtain ⟨next, passed⟩ := expandEntries_passed [] entries 0 0 fits
      obtain ⟨counted, count, complete⟩ := passed.last enough
      refine ⟨next, ⟨potential, passed.fits⟩, complete.settled, ?_⟩
      rw [expandPasses, if_neg (fun both => both.2 rfl)]
      rw [show (expandEntries [] (renderEntries entries) 0 0).entries = renderEntries next from passed.entries,
        show (expandEntries [] (renderEntries entries) 0 0).notExpanded = 0 + counted from count, Nat.zero_add,
        complete.counted]
  | succ retries ih =>
      obtain ⟨next, passed⟩ := expandEntries_passed [] entries 0 0 fits
      rw [expandPasses]
      by_cases changed : (expandEntries [] (renderEntries entries) 0 0).changeCount ≠ 0 ∧ retries + 1 ≠ 0
      · have lower : Fits keys f (fun key => potential key - 10) next := by
          apply passed.fits.lower
          intro entry member
          have less := @weight_mono Text UInt8 (isKey keys) potential (fun key => potential key - 10)
            (fun key => Nat.sub_le _ _) entry.2
          rcases passed.spent entry member with settled | spent
          · rw [weight_settled settled]
            exact Nat.zero_le _
          · omega
        have room : ∀ key, potential key - 10 < 10 * (retries + 1) := by
          intro key
          have bound := enough key
          omega
        obtain ⟨last, fitsLast, settled, run⟩ := ih next _ lower room
        refine ⟨last, fitsLast, settled, ?_⟩
        rw [if_pos changed]
        rw [show (expandEntries [] (renderEntries entries) 0 0).entries = renderEntries next from passed.entries]
        exact run
      · have still : (expandEntries [] (renderEntries entries) 0 0).changeCount = 0 := by
          by_contra some
          exact changed ⟨some, Nat.succ_ne_zero _⟩
        obtain ⟨counted, count, complete⟩ := passed.still still
        refine ⟨next, ⟨potential, passed.fits⟩, complete.settled, ?_⟩
        rw [if_neg changed]
        rw [show (expandEntries [] (renderEntries entries) 0 0).entries = renderEntries next from passed.entries,
          show (expandEntries [] (renderEntries entries) 0 0).notExpanded = 0 + counted from count, Nat.zero_add,
          complete.counted]

end Passes

section References

structure Refers (name x : Text) : Prop where
  named : name ≠ []
  valid : name.all isKeyChar = true
  inside : ∃ before behind, x = before ++ metaChar :: (name ++ metaChar :: behind)

def startsName (rest : Text) : Bool :=
  match findMeta rest with
  | some (name, _) => !name.isEmpty && name.all isKeyChar
  | none => false

def hasReference : Text → Bool
  | [] => false
  | c :: rest => (c = metaChar && startsName rest) || hasReference rest

theorem startsName_iff (rest : Text) : startsName rest = true ↔
    ∃ name behind, rest = name ++ metaChar :: behind ∧ name ≠ [] ∧ name.all isKeyChar = true := by
  rw [startsName]
  constructor
  · intro starts
    cases found : findMeta rest with
    | none =>
        rw [found] at starts
        cases starts
    | some parts =>
        obtain ⟨name, behind⟩ := parts
        rw [found] at starts
        obtain ⟨named, valid⟩ := (Bool.and_eq_true _ _).mp starts
        refine ⟨name, behind, (findMeta_eq found).1, ?_, valid⟩
        rintro rfl
        cases named
  · rintro ⟨name, behind, rfl, named, valid⟩
    have without : metaChar ∉ name := by
      intro member
      cases not_isKeyChar_metaChar.symm.trans (List.all_eq_true.mp valid _ member)
    rw [findMeta_append without]
    cases name with
    | nil => exact absurd rfl named
    | cons c name => exact valid

theorem hasReference_iff (x : Text) : hasReference x = true ↔ ∃ name, Refers name x := by
  induction x with
  | nil =>
      constructor
      · intro has
        cases has
      · rintro ⟨name, refersTo⟩
        obtain ⟨before, behind, same⟩ := refersTo.inside
        exact absurd same.symm (List.append_ne_nil_of_right_ne_nil _ (List.cons_ne_nil _ _))
  | cons c rest ih =>
      rw [hasReference, Bool.or_eq_true, Bool.and_eq_true, startsName_iff, ih]
      constructor
      · rintro (⟨isMeta, name, behind, rfl, named, valid⟩ | ⟨name, refersTo⟩)
        · exact ⟨name, named, valid, [], behind, by rw [of_decide_eq_true isMeta]; rfl⟩
        · obtain ⟨before, behind, same⟩ := refersTo.inside
          exact ⟨name, refersTo.named, refersTo.valid, c :: before, behind, by rw [same]; rfl⟩
      · rintro ⟨name, named, valid, before, behind, same⟩
        cases before with
        | nil =>
            obtain ⟨isMeta, restSame⟩ := List.cons.inj same
            exact Or.inl ⟨decide_eq_true isMeta, name, behind, restSame, named, valid⟩
        | cons first before =>
            exact Or.inr ⟨name, named, valid, before, behind, (List.cons.inj same).2⟩

theorem metaChar_render {text : CfgText} (sound : ∀ piece ∈ text, IsSound piece) (none : references text = []) :
    metaChar ∉ render text := by
  intro member
  obtain ⟨piece, present, inside⟩ := List.mem_flatMap.mp member
  cases piece with
  | character c => exact sound _ present (List.mem_singleton.mp inside).symm
  | reference name =>
      have named := mem_references.mpr present
      rw [none] at named
      cases named

theorem hasReference_render {text : CfgText} (sound : ∀ piece ∈ text, IsSound piece) (key : Text) :
    hasReference (render text) = refers (key, text) := by
  rw [Bool.eq_iff_iff, hasReference_iff, refers]
  constructor
  · rintro ⟨name, refersTo⟩
    cases none : references text with
    | nil =>
        obtain ⟨before, behind, same⟩ := refersTo.inside
        refine absurd ?_ (metaChar_render sound none)
        rw [same]
        exact List.mem_append_right _ List.mem_cons_self
    | cons first names => rfl
  · intro some
    cases present : references text with
    | nil =>
        rw [present] at some
        cases some
    | cons name names =>
        have member : Piece.reference name ∈ text := mem_references.mp (by rw [present]; exact List.mem_cons_self)
        obtain ⟨named, valid⟩ := sound _ member
        obtain ⟨front, back, split⟩ := List.append_of_mem member
        exact ⟨name, named, valid, render front, render back, by rw [split, render_append, render_reference]⟩

end References

section Names

def scannedNames : Nat → Text → List Text
  | 0, _ => []
  | fuel + 1, rest =>
      match findMeta rest with
      | some (_, first :: second :: behind) =>
          match findMeta (second :: behind) with
          | some (name, after) =>
              if (first :: name).all isKeyChar then (first :: name) :: scannedNames fuel after
              else scannedNames fuel (metaChar :: after)
          | none => []
      | _ => []

def names (x : Text) : List Text := scannedNames x.length x

theorem scan_names {find : Text → Option Text} {fuel : Nat} {before rest : Text} {missedMapping missed : Nat}
    (ended : scan find fuel before rest missedMapping = .atEnd missed) :
    (∀ name ∈ scannedNames fuel rest, find name = none) ∧ missed = missedMapping + (scannedNames fuel rest).length := by
  induction fuel generalizing before rest missedMapping with
  | zero =>
      cases ended
      exact ⟨fun name member => absurd member List.not_mem_nil, rfl⟩
  | succ fuel ih =>
      have nothing : missedMapping = missed →
          (∀ name ∈ ([] : List Text), find name = none) ∧ missed = missedMapping + ([] : List Text).length := by
        rintro rfl
        exact ⟨fun name member => absurd member List.not_mem_nil, rfl⟩
      rw [scan] at ended
      rw [scannedNames]
      cases found : findMeta rest with
      | none =>
          rw [found] at ended
          exact nothing (ScanResult.atEnd.inj ended)
      | some parts =>
          obtain ⟨plain, behind⟩ := parts
          rw [found] at ended
          cases behind with
          | nil => exact nothing (ScanResult.atEnd.inj ended)
          | cons first behind =>
              cases behind with
              | nil => exact nothing (ScanResult.atEnd.inj ended)
              | cons second behind =>
                  dsimp only at ended ⊢
                  cases closed : findMeta (second :: behind) with
                  | none =>
                      rw [closed] at ended
                      exact nothing (ScanResult.atEnd.inj ended)
                  | some inner =>
                      obtain ⟨name, after⟩ := inner
                      rw [closed] at ended
                      dsimp only at ended ⊢
                      by_cases valid : (first :: name).all isKeyChar = true
                      · rw [if_pos valid] at ended ⊢
                        cases value : find (first :: name) with
                        | some value =>
                            rw [value] at ended
                            cases ended
                        | none =>
                            rw [value] at ended
                            obtain ⟨unknown, count⟩ := ih ended
                            refine ⟨?_, by rw [count, List.length_cons]; omega⟩
                            intro other member
                            rcases List.mem_cons.mp member with rfl | later
                            · exact value
                            · exact unknown other later
                      · rw [if_neg valid] at ended ⊢
                        exact ih ended

theorem expandFrom_changed (find : Text → Option Text) (replacements : Nat) (before rest : Text) (missed : Nat) :
    (expandFrom find replacements before rest true missed).changed = true := by
  induction replacements generalizing before rest missed with
  | zero => rfl
  | succ replacements ih =>
      rw [expandFrom]
      cases scan find rest.length before rest missed with
      | atEnd missed => rfl
      | found front value behind missed => exact ih front (value ++ behind) missed

theorem expandString_unchanged {find : Text → Option Text} {x : Text} (unchanged : (expandString find x).changed = false) :
    (expandString find x).x = x ∧ (∀ name ∈ names x, find name = none) ∧
      (expandString find x).missedMapping = (names x).length := by
  rw [expandString, expandFrom] at unchanged ⊢
  cases scanned : scan find x.length [] x 0 with
  | atEnd missed =>
      obtain ⟨unknown, count⟩ := scan_names scanned
      rw [Nat.zero_add] at count
      exact ⟨rfl, unknown, count⟩
  | found front value behind missed =>
      rw [scanned] at unchanged
      cases (expandFrom_changed find 9 front (value ++ behind) missed).symm.trans unchanged

def hasDouble : Text → Bool
  | first :: second :: rest => (first = metaChar && second = metaChar) || hasDouble (second :: rest)
  | _ => false

theorem hasDouble_append {front rest : Text} (single : hasDouble (front ++ rest) = false) : hasDouble rest = false := by
  induction front with
  | nil => exact single
  | cons c front ih =>
      apply ih
      cases tail : front ++ rest with
      | nil => rfl
      | cons second others =>
          rw [List.cons_append, tail, hasDouble, Bool.or_eq_false_iff] at single
          exact single.2

theorem hasReference_append {plain : Text} (without : metaChar ∉ plain) (rest : Text) :
    hasReference (plain ++ rest) = hasReference rest := by
  induction plain with
  | nil => rfl
  | cons c plain ih =>
      rw [List.mem_cons, not_or] at without
      rw [List.cons_append, hasReference, ih without.2, decide_eq_false (Ne.symm without.1), Bool.false_and, Bool.false_or]

theorem findMeta_none {text : Text} (none : findMeta text = none) : metaChar ∉ text := by
  induction text with
  | nil => exact List.not_mem_nil
  | cons c rest ih =>
      rw [findMeta] at none
      by_cases isMeta : c = metaChar
      · rw [if_pos isMeta] at none
        cases none
      · rw [if_neg isMeta, Option.map_eq_none_iff] at none
        rw [List.mem_cons, not_or]
        exact ⟨fun same => isMeta same.symm, ih none⟩

theorem hasReference_none {text : Text} (without : metaChar ∉ text) : hasReference text = false := by
  have all := hasReference_append without []
  rw [List.append_nil] at all
  exact all

theorem scannedNames_iff {fuel : Nat} {rest : Text} (enough : rest.length ≤ fuel) (single : hasDouble rest = false) :
    (scannedNames fuel rest).isEmpty = !hasReference rest := by
  induction fuel generalizing rest with
  | zero =>
      cases List.length_eq_zero_iff.mp (Nat.le_zero.mp enough)
      rfl
  | succ fuel ih =>
      rw [scannedNames]
      cases found : findMeta rest with
      | none =>
          rw [hasReference_none (findMeta_none found)]
          rfl
      | some parts =>
          obtain ⟨plain, behind⟩ := parts
          obtain ⟨split, without⟩ := findMeta_eq found
          rw [split] at single enough
          have tail := hasDouble_append single
          rw [split, hasReference_append without, hasReference]
          cases behind with
          | nil => rfl
          | cons first behind =>
              have notMeta : first ≠ metaChar := by
                intro same
                rw [same, hasDouble] at tail
                cases tail
              cases behind with
              | nil =>
                  have alone : startsName [first] = false := by
                    rw [startsName, findMeta, if_neg notMeta]
                    rfl
                  rw [alone, hasReference_none (by rw [List.mem_singleton]; exact notMeta.symm)]
                  rfl
              | cons second behind =>
                  dsimp only
                  cases closed : findMeta (second :: behind) with
                  | none =>
                      have starts : startsName (first :: second :: behind) = false := by
                        rw [startsName, findMeta, if_neg notMeta, closed]
                        rfl
                      have none : metaChar ∉ first :: second :: behind := by
                        rw [List.mem_cons, not_or]
                        exact ⟨notMeta.symm, findMeta_none closed⟩
                      rw [starts, hasReference_none none]
                      rfl
                  | some inner =>
                      obtain ⟨name, after⟩ := inner
                      obtain ⟨innerSplit, innerWithout⟩ := findMeta_eq closed
                      have starts : startsName (first :: second :: behind) = (first :: name).all isKeyChar := by
                        rw [startsName, findMeta, if_neg notMeta, closed]
                        rfl
                      have keyWithout : metaChar ∉ first :: name := by
                        rw [List.mem_cons, not_or]
                        exact ⟨notMeta.symm, innerWithout⟩
                      have later : hasReference (first :: second :: behind) = hasReference (metaChar :: after) := by
                        rw [innerSplit, ← List.cons_append, hasReference_append keyWithout]
                      dsimp only
                      rw [starts, later]
                      by_cases valid : (first :: name).all isKeyChar = true
                      · rw [if_pos valid, valid]
                        rfl
                      · have lengths := congrArg List.length innerSplit
                        simp only [List.length_append, List.length_cons] at lengths enough
                        have shorter : (metaChar :: after).length ≤ fuel := by
                          rw [List.length_cons]
                          omega
                        have afterSingle : hasDouble (metaChar :: after) = false := by
                          have inner := @hasDouble_append [metaChar] _ tail
                          rw [innerSplit, ← List.cons_append] at inner
                          exact hasDouble_append inner
                        rw [if_neg valid, eq_false_of_ne_true valid, Bool.and_false, Bool.false_or]
                        exact ih shorter afterSingle

end Names

section Still

theorem expandEntries_still (passed todo : List (Text × Text)) (changeCount notExpanded : Nat) :
    changeCount ≤ (expandEntries passed todo changeCount notExpanded).changeCount ∧
      ((expandEntries passed todo changeCount notExpanded).changeCount = changeCount →
        (expandEntries passed todo changeCount notExpanded).entries = passed ++ todo ∧
          (expandEntries passed todo changeCount notExpanded).notExpanded =
            notExpanded + todo.countP fun entry => !(names entry.2).isEmpty) := by
  induction todo generalizing passed changeCount notExpanded with
  | nil =>
      refine ⟨Nat.le_refl _, fun _ => ⟨?_, rfl⟩⟩
      rw [List.append_nil]
      rfl
  | cons entry todo ih =>
      rw [expandEntries]
      generalize expanded : expandString (find (passed ++ entry :: todo)) entry.2 = expansion
      cases changed : expansion.changed with
      | true =>
          rw [if_pos rfl]
          have further := (ih (passed ++ [(entry.1, expansion.x)]) (changeCount + 1)
            (if expansion.missedMapping ≠ 0 then notExpanded + 1 else notExpanded)).1
          refine ⟨Nat.le_trans (Nat.le_succ _) further, fun still => ?_⟩
          rw [still] at further
          exact absurd further (Nat.not_succ_le_self _)
      | false =>
          rw [if_neg Bool.false_ne_true]
          obtain ⟨same, _, missed⟩ := expandString_unchanged (by rw [expanded]; exact changed)
          rw [expanded] at same missed
          obtain ⟨le, rest⟩ := ih (passed ++ [(entry.1, expansion.x)]) changeCount
            (if expansion.missedMapping ≠ 0 then notExpanded + 1 else notExpanded)
          refine ⟨le, fun still => ?_⟩
          obtain ⟨entries, count⟩ := rest still
          constructor
          · rw [entries, same, List.append_assoc]
            rfl
          · rw [count, missed, List.countP_cons]
            cases names entry.2 with
            | nil =>
                rw [if_neg (fun some => some rfl), if_neg (fun some => (by cases some))]
                rfl
            | cons name others =>
                have counts : (name :: others).length ≠ 0 := Nat.succ_ne_zero _
                rw [if_pos counts, if_pos (show (!(name :: others).isEmpty) = true from rfl)]
                omega

def afterPasses (passes : Nat) (entries : List (Text × Text)) : List (Text × Text) :=
  (fun entries => (expandEntries [] entries 0 0).entries)^[passes] entries

def Settles (m : CfgMap) : Prop :=
  ∃ passes < maxExpandCount, (expandEntries [] (afterPasses passes m.entries) 0 0).changeCount = 0

theorem expandPasses_still {passes : Nat} (retries : Nat) (entries : List (Text × Text)) (before : passes < retries)
    (still : (expandEntries [] (afterPasses passes entries) 0 0).changeCount = 0) :
    (expandPasses retries entries).2 = (expandPasses retries entries).1.countP fun entry => !(names entry.2).isEmpty := by
  induction retries generalizing passes entries with
  | zero => exact absurd before (Nat.not_lt_zero _)
  | succ retries ih =>
      rw [expandPasses]
      by_cases changed : (expandEntries [] entries 0 0).changeCount ≠ 0 ∧ retries ≠ 0
      · rw [if_pos changed]
        cases passes with
        | zero => exact absurd still changed.1
        | succ passes =>
            apply ih _ (Nat.lt_of_succ_lt_succ before)
            rw [afterPasses, Function.iterate_succ_apply] at still
            exact still
      · have unchanged : (expandEntries [] entries 0 0).changeCount = 0 := by
          cases passes with
          | zero => exact still
          | succ passes =>
              by_contra some
              exact changed ⟨some, by omega⟩
        obtain ⟨same, count⟩ := (expandEntries_still [] entries 0 0).2 unchanged
        rw [if_neg changed]
        dsimp only
        rw [count, same, Nat.zero_add, List.nil_append]

end Still

section Expansion

structure Counts (m : CfgMap) : Prop where
  counted : (expandMap m).2 = (expandMap m).1.entries.countP fun entry => hasReference entry.2
  unreferenced : (expandMap m).2 = 0 → ∀ entry ∈ (expandMap m).1.entries, ∀ key ∈ m.keys, ¬Refers key entry.2

structure Expands (m : CfgMap) (texts : List CfgEntry) : Prop where
  counts : Counts m
  expanded : ∀ entry ∈ texts, ∃ expanded, ExpandsTo (find texts) entry.2 expanded ∧
    (entry.1, render expanded) ∈ (expandMap m).1.entries

theorem Counts.of_counted {m : CfgMap}
    (counted : (expandMap m).2 = (expandMap m).1.entries.countP fun entry => hasReference entry.2) : Counts m := by
  refine ⟨counted, ?_⟩
  intro zero entry member key _ refersTo
  rw [counted, List.countP_eq_zero] at zero
  exact zero entry member ((hasReference_iff _).mpr ⟨key, refersTo⟩)

theorem Settles.counts {m : CfgMap} (settles : Settles m)
    (single : ∀ entry ∈ (expandMap m).1.entries, hasDouble entry.2 = false) : Counts m := by
  obtain ⟨passes, below, still⟩ := settles
  have number : (expandMap m).2 = (expandMap m).1.entries.countP fun entry => !(names entry.2).isEmpty :=
    expandPasses_still maxExpandCount m.entries below still
  apply Counts.of_counted
  rw [number]
  apply List.countP_congr
  intro entry member
  rw [names, scannedNames_iff (Nat.le_refl _) (single entry member), Bool.not_not]

theorem isKey_eq {entries : List CfgEntry} {keys : List Text} (same : entries.map Prod.fst = keys) (name : Text) :
    isKey keys name = (find entries name).isSome := by
  rw [find_isSome, same]
  rfl

theorem expands_of_bounded (m : CfgMap) (texts : List CfgEntry) (written : m.entries = renderEntries texts)
    (sound : ∀ entry ∈ texts, ∀ piece ∈ entry.2, IsSound piece) (cost : Text → Nat)
    (bounded : ∀ entry ∈ texts, weight (isKey m.keys) cost entry.2 ≤ cost entry.1) (few : ∀ name, cost name ≤ 99) :
    Expands m texts := by
  have keys : texts.map Prod.fst = m.keys := by
    rw [SortedEntries.keys, written, renderEntries, List.map_map]
    rfl
  have distinct : (texts.map Prod.fst).Nodup := by
    rw [keys]
    exact (List.pairwise_map.mpr m.sorted).imp fun less => ne_of_lt less
  have known := isKey_eq keys
  have envBounded : Bounded (isKey m.keys) cost (find texts) :=
    fun name text value => bounded _ (find_eq_some value)
  have ranked := envBounded.ranked known
  obtain ⟨f, solves⟩ := exists_solves ranked
  have fits : Fits m.keys f cost texts := by
    refine ⟨keys, sound, ?_, bounded⟩
    intro entry member
    exact (solves.of_known (find_of_nodup distinct member)).symm
  obtain ⟨next, ⟨lower, nextFits⟩, settled, run⟩ := expandPasses_complete 9 texts cost fits (by
    intro key
    have bound := few key
    omega)
  rw [← written] at run
  have entries : (expandMap m).1.entries = renderEntries next := congrArg Prod.fst run
  have number : (expandMap m).2 = next.countP refers := congrArg Prod.snd run
  have counted : (expandMap m).2 = (expandMap m).1.entries.countP fun entry => hasReference entry.2 := by
    rw [number, entries, renderEntries, List.countP_map]
    apply List.countP_congr
    intro entry member
    rw [Function.comp_apply, hasReference_render (nextFits.sound entry member) entry.1]
  constructor
  · exact Counts.of_counted counted
  · intro entry member
    refine ⟨applyAll f entry.2, (solves.expandsTo_iff ranked).mpr rfl, ?_⟩
    have isNext : entry.1 ∈ next.map Prod.fst := by
      rw [nextFits.keysSame, ← keys]
      exact List.mem_map_of_mem member
    obtain ⟨other, present, same⟩ := List.mem_map.mp isNext
    have unknown : ∀ name ∈ references other.2, find texts name = none := by
      intro name inside
      have isUnknown := settled other present name inside
      rw [known] at isUnknown
      exact Option.not_isSome_iff_eq_none.mp (by rw [isUnknown]; exact Bool.false_ne_true)
    have final : other.2 = applyAll f entry.2 := by
      rw [← solves.settled unknown, nextFits.meaning other present, same]
      exact solves.of_known (find_of_nodup distinct member)
    rw [entries]
    refine List.mem_map.mpr ⟨other, present, ?_⟩
    rw [same, final]

/-- Expansion ends; its number is right for a map that settles; and a map that is written as texts
whose references need few replacements is expanded, whatever the order of its keys. -/
theorem expandMap_expands :
    (∀ find before rest missedMapping fuel, rest.length ≤ fuel →
      scan find fuel before rest missedMapping = scan find rest.length before rest missedMapping) ∧
    (∀ m, Settles m → (∀ entry ∈ (expandMap m).1.entries, hasDouble entry.2 = false) → Counts m) ∧
    ∀ m texts, m.entries = renderEntries texts → (∀ entry ∈ texts, ∀ piece ∈ entry.2, IsSound piece) →
      (∃ cost, (∀ entry ∈ texts, weight (isKey m.keys) cost entry.2 ≤ cost entry.1) ∧ ∀ name, cost name ≤ 99) →
      Expands m texts := by
  refine ⟨?_, fun m settles single => settles.counts single, ?_⟩
  · intro find before rest missedMapping fuel enough
    exact scan_fuel find before rest missedMapping enough (Nat.le_refl _)
  · intro m texts written sound few
    obtain ⟨cost, bounded, small⟩ := few
    exact expands_of_bounded m texts written sound cost bounded small

def alphaBeta : CfgMap :=
  (SortedEntries.empty.set (ascii "A") (ascii "Alpha")).set (ascii "B") (ascii "%A%Beta")

def alphaBetaTexts : List CfgEntry :=
  [(ascii "A", (ascii "Alpha").map .character), (ascii "B", .reference (ascii "A") :: (ascii "Beta").map .character)]

theorem expandMap_alphaBeta : Expands alphaBeta alphaBetaTexts := by
  apply expandMap_expands.2.2
  · decide
  · decide
  · refine ⟨fun name => if name = ascii "B" then 1 else 0, by decide, ?_⟩
    intro name
    dsimp only
    split <;> decide

/-- A reference to itself is not counted, and the replacement after the hundredth is not made. -/
theorem expandMap_cycle :
    ¬Counts (SortedEntries.empty.set (ascii "A") (ascii "%A%")) ∧
      ¬Counts ((SortedEntries.empty.set (ascii "A") (List.replicate 101 (ascii "%B%")).flatten).set
        (ascii "B") (ascii "b")) := by
  constructor
  · intro counts
    have counted := counts.counted
    revert counted
    decide +kernel
  · intro counts
    have counted := counts.counted
    revert counted
    decide +kernel

end Expansion

end ServiceHost.Configuration
