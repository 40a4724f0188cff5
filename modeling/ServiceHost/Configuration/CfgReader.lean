import Mathlib.Data.List.Dedup
import ServiceHost.Configuration.CfgReaderCore

/-!
What an expanded configuration is delivered as. A parameter is counted for each row, and the
map has one entry for each name, so that slots stay empty where names are the same.
-/

namespace ServiceHost.Configuration

open Library

section Map

theorem keys_nodup (m : CfgMap) : m.keys.Nodup := by
  have sorted := List.pairwise_map.mpr m.sorted
  exact sorted.imp fun less => ne_of_lt less

theorem mem_keys_put (key value other : Text) (entries : List (Text × Text)) :
    other ∈ (SortedEntries.put key value entries).map Prod.fst ↔ other = key ∨ other ∈ entries.map Prod.fst := by
  induction entries with
  | nil => rw [SortedEntries.put, List.map_singleton, List.mem_singleton, List.map_nil]; simp
  | cons entry entries ih =>
      rw [SortedEntries.put]
      split
      · rw [List.map_cons, List.mem_cons]
      · split
        · rename_i same
          rw [List.map_cons, List.map_cons, List.mem_cons, List.mem_cons, same]
          exact ⟨Or.inr, fun either => either.elim Or.inl id⟩
        · rw [List.map_cons, List.map_cons, List.mem_cons, List.mem_cons, ih]
          exact or_left_comm

theorem mem_keys_insert (m : CfgMap) (key value other : Text) :
    other ∈ (insert m key value).1.keys ↔ other = key ∨ other ∈ m.keys := by
  rw [insert]
  cases known : m.contains key with
  | false => exact mem_keys_put key value other m.entries
  | true =>
      have member : key ∈ m.keys := by
        obtain ⟨entry, present, same⟩ := List.any_eq_true.mp known
        have isKey : entry.1 = key := by simpa using same
        exact isKey ▸ List.mem_map_of_mem present
      refine ⟨Or.inr, ?_⟩
      rintro (same | present)
      · exact same ▸ member
      · exact present

theorem mem_keys_foldl (rows : List (Text × Text)) (m : CfgMap) (other : Text) :
    other ∈ (rows.foldl (fun m row => (insert m row.1 row.2).1) m).keys ↔ other ∈ m.keys ∨ other ∈ rows.map Prod.fst := by
  induction rows generalizing m with
  | nil => simp
  | cons row rows ih =>
      rw [List.foldl_cons, ih, mem_keys_insert, List.map_cons, List.mem_cons]
      exact ⟨fun either => either.elim (fun first => first.elim (Or.inr ∘ Or.inl) Or.inl) (Or.inr ∘ Or.inr),
        fun either => either.elim (Or.inl ∘ Or.inr) fun later => later.elim (Or.inl ∘ Or.inl) Or.inr⟩

def parameterNames (rows : List (Text × Text)) : List Text :=
  ascii "USERNAME" :: ascii "COMPUTERNAME" :: rows.map Prod.fst

theorem nameValueMap_count (userName cName : Text) (rows : List (Text × Text)) :
    (nameValueMap userName cName rows).2 = (parameterNames rows).length := by
  have second : (insert (insert SortedEntries.empty (ascii "USERNAME") userName).1 (ascii "COMPUTERNAME") cName).2 =
      true := rfl
  rw [parameterNames, List.length_cons, List.length_cons, List.length_map]
  rfl

theorem mem_keys_nameValueMap (userName cName : Text) (rows : List (Text × Text)) (name : Text) :
    name ∈ (nameValueMap userName cName rows).1.keys ↔ name ∈ parameterNames rows := by
  change name ∈ (rows.foldl (fun m row => (insert m row.1 row.2).1)
    (insert (insert SortedEntries.empty (ascii "USERNAME") userName).1 (ascii "COMPUTERNAME") cName).1).keys ↔ _
  rw [mem_keys_foldl, mem_keys_insert, mem_keys_insert, parameterNames, List.mem_cons, List.mem_cons]
  have nothing : name ∉ (SortedEntries.empty : CfgMap).keys := List.not_mem_nil
  constructor
  · rintro ((isComputer | isUser | absurdity) | isRow)
    · exact Or.inr (Or.inl isComputer)
    · exact Or.inl isUser
    · exact absurd absurdity nothing
    · exact Or.inr (Or.inr isRow)
  · rintro (isUser | isComputer | isRow)
    · exact Or.inl (Or.inr (Or.inl isUser))
    · exact Or.inl (Or.inl isComputer)
    · exact Or.inr isRow

theorem expandMap_keys (m : CfgMap) : (expandMap m).1.keys = m.keys := expandPasses_keys maxExpandCount m.entries

theorem keys_length (userName cName : Text) (rows : List (Text × Text)) :
    (expandMap (nameValueMap userName cName rows).1).1.keys.length = (parameterNames rows).dedup.length := by
  rw [expandMap_keys]
  apply List.Perm.length_eq
  rw [List.perm_ext_iff_of_nodup (keys_nodup _) (List.nodup_dedup _)]
  intro name
  rw [mem_keys_nameValueMap, List.mem_dedup]

end Map

section Arrays

theorem foldl_set (values : List Text) (front back : SafeArray) (enough : values.length ≤ back.length) :
    (values.zipIdx front.length).foldl (fun array entry => array.set entry.2 (some entry.1)) (front ++ back) =
      front ++ values.map some ++ back.drop values.length := by
  induction values generalizing front back with
  | nil => simp
  | cons value values ih =>
      cases back with
      | nil => cases enough
      | cons slot back =>
          have placed : (front ++ slot :: back).set front.length (some value) = (front ++ [some value]) ++ back := by
            rw [List.set_append_right _ _ (Nat.le_refl _), Nat.sub_self, List.set_cons_zero, List.append_assoc]
            rfl
          have length : (front ++ [some value]).length = front.length + 1 := List.length_append
          rw [List.zipIdx_cons, List.foldl_cons, placed, ← length, ih _ _ (Nat.le_of_succ_le_succ enough),
            List.map_cons, List.length_cons, List.drop_succ_cons, List.append_assoc, List.append_assoc, List.append_assoc]
          rfl

theorem put_createSafeArray {values : List Text} {count : Nat} (enough : values.length ≤ count) :
    put values (createSafeArray count) = values.map some ++ createSafeArray (count - values.length) := by
  have placed := foldl_set values [] (createSafeArray count) (by rw [createSafeArray, List.length_replicate]; exact enough)
  rw [List.nil_append, List.nil_append, createSafeArray, List.drop_replicate] at placed
  exact placed

theorem put_length (values : List Text) (array : SafeArray) : (put values array).length = array.length := by
  rw [put]
  generalize values.zipIdx = entries
  induction entries generalizing array with
  | nil => rfl
  | cons entry entries ih => rw [List.foldl_cons, ih, List.length_set]

end Arrays

section Delivery

structure Pairs (userName cName : Text) (rows : List (Text × Text)) (names values : SafeArray) (count : Int) : Prop where
  counted : count = (parameterNames rows).dedup.length
  nameSlots : names.length = (parameterNames rows).dedup.length
  valueSlots : values.length = (parameterNames rows).dedup.length
  paired : ∃ pairs : List (Text × Text), names = pairs.map (fun pair => some pair.1) ∧
    values = pairs.map (fun pair => some pair.2) ∧ (pairs.map Prod.fst).Nodup ∧
    (∀ name, name ∈ pairs.map Prod.fst ↔ name ∈ parameterNames rows) ∧
    ∀ pair ∈ pairs, find (expandMap (nameValueMap userName cName rows).1).1.entries pair.1 = some pair.2

structure Delivers (userName cName : Text) (rows : List (Text × Text)) (reply : HResult × Outputs) : Prop where
  success : succeeded reply.1 ↔ reply.2.pname ≠ none ∧ reply.2.pvalue ≠ none ∧ reply.2.bResult ≠ none
  arrays : ∀ names values count, reply.2.pname = some names → reply.2.pvalue = some values →
    reply.2.bResult = some count → Pairs userName cName rows names values count

def produced (userName cName : Text) (rows : List (Text × Text)) : Outputs :=
  let map := nameValueMap userName cName rows
  { pname := some (put (expandMap map.1).1.keys (createSafeArray map.2))
    pvalue := some (put (expandMap map.1).1.values (createSafeArray map.2))
    bResult := some map.2 }

variable {userName cName : Text} {rows : List (Text × Text)}

theorem pairs_produced_iff :
    (∀ names values count, (produced userName cName rows).pname = some names →
      (produced userName cName rows).pvalue = some values → (produced userName cName rows).bResult = some count →
      Pairs userName cName rows names values count) ↔ (parameterNames rows).Nodup := by
  have slots : (nameValueMap userName cName rows).2 = (parameterNames rows).length := nameValueMap_count _ _ _
  have keys := @keys_length userName cName rows
  constructor
  · intro delivered
    have pairs := delivered _ _ _ rfl rfl rfl
    have lengths := pairs.nameSlots
    rw [put_length, createSafeArray, List.length_replicate, slots] at lengths
    rw [← List.dedup_eq_self]
    exact (List.dedup_sublist _).eq_of_length lengths.symm
  · intro distinct names values count namesSame valuesSame countSame
    have whole : (parameterNames rows).dedup = parameterNames rows := List.dedup_eq_self.mpr distinct
    rw [whole, ← slots] at keys
    have filled : ∀ strings : List Text, strings.length = (nameValueMap userName cName rows).2 →
        put strings (createSafeArray (nameValueMap userName cName rows).2) = strings.map some := by
      intro strings length
      rw [put_createSafeArray (Nat.le_of_eq length), length, Nat.sub_self]
      exact List.append_nil _
    have sameLength : (expandMap (nameValueMap userName cName rows).1).1.values.length =
        (nameValueMap userName cName rows).2 := by
      rw [← keys, SortedEntries.values, SortedEntries.keys, List.length_map, List.length_map]
    cases Option.some.inj namesSame
    cases Option.some.inj valuesSame
    cases Option.some.inj countSame
    constructor
    · rw [whole, slots]
    · rw [put_length, createSafeArray, List.length_replicate, whole, slots]
    · rw [put_length, createSafeArray, List.length_replicate, whole, slots]
    · have distinctKeys := keys_nodup (expandMap (nameValueMap userName cName rows).1).1
      refine ⟨(expandMap (nameValueMap userName cName rows).1).1.entries, ?_, ?_, distinctKeys, ?_, ?_⟩
      · rw [filled _ keys, SortedEntries.keys, List.map_map]
        rfl
      · rw [filled _ sameLength, SortedEntries.values, List.map_map]
        rfl
      · intro name
        change name ∈ (expandMap (nameValueMap userName cName rows).1).1.keys ↔ _
        rw [expandMap_keys, mem_keys_nameValueMap]
      · intro pair member
        exact find_of_nodup distinctKeys member

theorem delivers_produced_iff :
    Delivers userName cName rows (ofBool true, produced userName cName rows) ↔ (parameterNames rows).Nodup := by
  rw [← @pairs_produced_iff userName cName rows]
  constructor
  · intro delivers
    exact delivers.arrays
  · intro arrays
    have success : succeeded (ofBool true) := by decide
    refine ⟨iff_of_true success ⟨?_, ?_, ?_⟩, arrays⟩
    · exact Option.some_ne_none _
    · exact Option.some_ne_none _
    · exact Option.some_ne_none _

theorem refuses : ¬succeeded eInvalidArg := by decide

theorem not_delivers_late : ¬Delivers userName cName rows (eInvalidArg, produced userName cName rows) := by
  intro delivers
  exact refuses (delivers.success.mpr ⟨Option.some_ne_none _, Option.some_ne_none _, Option.some_ne_none _⟩)

theorem not_delivers_missing {result : HResult} {outputs : Outputs} (success : succeeded result)
    (missing : outputs.pname = none) : ¬Delivers userName cName rows (result, outputs) := by
  intro delivers
  exact (delivers.success.mp success).1 missing

theorem delivers_refused {outputs : Outputs} (missing : outputs.pname = none) :
    Delivers userName cName rows (eInvalidArg, outputs) := by
  constructor
  · constructor
    · intro success
      exact absurd success refuses
    · intro present
      exact absurd missing present.1
  · intro names values count same
    rw [missing] at same
    cases same

end Delivery

section Callers

variable (session : Session) (osUser computerName : Option Text)

structure IsDeliverable : Prop where
  produced : ∀ rows, session.connected = true → session.rows = some rows → session.comError = none →
    session.ends = true ∧ (parameterNames rows).Nodup
  missing : session.connected = false ∨ (session.rows ≠ none ∧ session.comError ≠ none) → session.ends = false

def IsOpen : Prop := session.attaches = true ∧ session.reopens = true

def Session.given : List (Text × Text) := session.rows.getD []

def replyFor : Option (HResult × Outputs) :=
  (getExpandedConfigurationInternal session osUser computerName Outputs.untouched).map fun result =>
    (ofBool result.1, result.2)

theorem replyFor_disconnected (connected : session.connected = false) :
    replyFor session osUser computerName = some (sOk, Outputs.untouched) := by
  rw [replyFor, getExpandedConfigurationInternal, connected]
  rfl

theorem replyFor_thrown (connected : session.connected = true) (rows : session.rows = none) :
    replyFor session osUser computerName = none := by
  rw [replyFor, getExpandedConfigurationInternal, connected, rows]
  rfl

theorem replyFor_comError (connected : session.connected = true) {rows : List (Text × Text)}
    (given : session.rows = some rows) {error : HResult} (comError : session.comError = some error) :
    replyFor session osUser computerName = some (ofBool (error = sOk), Outputs.untouched) := by
  rw [replyFor, getExpandedConfigurationInternal, connected, given, comError]
  rfl

theorem replyFor_produced (connected : session.connected = true) {rows : List (Text × Text)}
    (given : session.rows = some rows) (comError : session.comError = none) :
    replyFor session osUser computerName = some (ofBool true, produced (osUser.getD []) (computerName.getD []) rows) := by
  rw [replyFor, getExpandedConfigurationInternal, connected, given, comError]
  rfl

theorem succeeded_ofBool (value : Bool) : succeeded (ofBool value) := by cases value <;> decide

variable {session}

theorem inSession_closed (body : Option (HResult × Outputs)) (closed : ¬IsOpen session) (outputs : Outputs) :
    inSession session body outputs = (eInvalidArg, outputs) := by
  unfold inSession
  cases attaches : session.attaches with
  | false => rfl
  | true =>
      cases reopens : session.reopens with
      | false => rfl
      | true => exact absurd ⟨attaches, reopens⟩ closed

theorem inSession_thrown (isOpen : IsOpen session) (outputs : Outputs) :
    inSession session none outputs = (eInvalidArg, outputs) := by
  rw [inSession, isOpen.1, isOpen.2]
  rfl

theorem inSession_some (isOpen : IsOpen session) (reply : HResult × Outputs) (outputs : Outputs) :
    inSession session (some reply) outputs = if session.ends then reply else (eInvalidArg, reply.2) := by
  rw [inSession, isOpen.1, isOpen.2]
  rfl

theorem delivers_missing_iff (isOpen : IsOpen session) {reply : HResult × Outputs} (success : succeeded reply.1)
    (missing : reply.2.pname = none) (rows : List (Text × Text)) (outputs : Outputs) :
    Delivers (osUser.getD []) (computerName.getD []) rows (inSession session (some reply) outputs) ↔ session.ends = false := by
  rw [inSession_some isOpen]
  cases ends : session.ends with
  | false => exact iff_of_true (delivers_refused missing) rfl
  | true => exact iff_of_false (not_delivers_missing success missing) Bool.noConfusion

theorem delivers_inSession_iff (isOpen : IsOpen session) :
    Delivers (osUser.getD []) (computerName.getD []) session.given
        (inSession session (replyFor session osUser computerName) Outputs.untouched) ↔ IsDeliverable session := by
  cases connected : session.connected with
  | false =>
      rw [replyFor_disconnected session osUser computerName connected,
        delivers_missing_iff osUser computerName isOpen (by decide) rfl]
      constructor
      · intro ends
        refine ⟨?_, fun _ => ends⟩
        intro rows other
        cases connected.symm.trans other
      · intro deliverable
        exact deliverable.missing (Or.inl connected)
  | true =>
      cases given : session.rows with
      | none =>
          rw [replyFor_thrown session osUser computerName connected given, inSession_thrown isOpen]
          refine iff_of_true (delivers_refused rfl) ⟨?_, ?_⟩
          · intro rows _ other
            cases given.symm.trans other
          · rintro (disconnected | ⟨present, _⟩)
            · cases connected.symm.trans disconnected
            · exact absurd given present
      | some rows =>
          cases comError : session.comError with
          | some error =>
              rw [replyFor_comError session osUser computerName connected given comError,
                delivers_missing_iff osUser computerName isOpen (succeeded_ofBool _) rfl]
              constructor
              · intro ends
                refine ⟨?_, fun _ => ends⟩
                intro _ _ _ other
                cases comError.symm.trans other
              · intro deliverable
                apply deliverable.missing
                exact Or.inr ⟨by rw [given]; exact Option.some_ne_none _, by rw [comError]; exact Option.some_ne_none _⟩
          | none =>
              have isGiven : session.given = rows := by rw [Session.given, given]; rfl
              have never : ¬(session.connected = false ∨ (session.rows ≠ none ∧ session.comError ≠ none)) := by
                rintro (disconnected | ⟨_, raised⟩)
                · cases connected.symm.trans disconnected
                · exact raised comError
              rw [replyFor_produced session osUser computerName connected given comError, inSession_some isOpen, isGiven]
              cases ends : session.ends with
              | false =>
                  refine iff_of_false not_delivers_late ?_
                  intro deliverable
                  cases ends.symm.trans (deliverable.produced rows connected given comError).1
              | true =>
                  rw [if_pos rfl, delivers_produced_iff]
                  constructor
                  · intro distinct
                    refine ⟨?_, fun missing => absurd missing never⟩
                    intro other _ otherGiven _
                    cases given.symm.trans otherGiven
                    exact ⟨ends, distinct⟩
                  · intro deliverable
                    exact (deliverable.produced rows connected given comError).2

variable (session)

/-- The result tells of the arrays, and the arrays of the names, exactly for a session that makes
them of different names and ends, or fails. A role needs a user for its session to be such. -/
theorem getExpandedConfiguration_delivers_iff (roleUser : Option Text) :
    (Delivers (osUser.getD []) (computerName.getD []) session.given
        (getExpandedConfiguration session osUser computerName Outputs.untouched) ↔
      (IsOpen session → IsDeliverable session)) ∧
    (Delivers (roleUser.getD []) (computerName.getD []) session.given
        (getExpandedConfigurationByRole session roleUser computerName Outputs.untouched) ↔
      (IsOpen session → ∀ user, roleUser = some user →
        if user = [] then session.ends = false else IsDeliverable session)) := by
  by_cases isOpen : IsOpen session
  · constructor
    · have delivers := @delivers_inSession_iff session osUser computerName isOpen
      exact delivers.trans ⟨fun deliverable _ => deliverable, fun deliverable => deliverable isOpen⟩
    · cases roleUser with
      | none =>
          have refused := inSession_thrown isOpen Outputs.untouched
          refine iff_of_true ?_ ?_
          · change Delivers _ _ _ (inSession session none Outputs.untouched)
            rw [refused]
            exact delivers_refused rfl
          · intro _ user same
            cases same
      | some user =>
          cases user with
          | nil =>
              have delivers := @delivers_missing_iff session (some []) computerName isOpen
                (sOk, { Outputs.untouched with bResult := some (-3) }) (by decide) rfl session.given Outputs.untouched
              refine delivers.trans ⟨?_, ?_⟩
              · intro ends _ user same
                cases same
                exact ends
              · intro ends
                exact ends isOpen [] rfl
          | cons first rest =>
              have delivers := @delivers_inSession_iff session (some (first :: rest)) computerName isOpen
              refine delivers.trans ⟨?_, ?_⟩
              · intro deliverable _ user same
                cases same
                exact deliverable
              · intro deliverable
                exact deliverable isOpen (first :: rest) rfl
  · constructor
    · rw [getExpandedConfiguration, inSession_closed _ isOpen]
      exact iff_of_true (delivers_refused rfl) fun absurdity => absurd absurdity isOpen
    · unfold getExpandedConfigurationByRole
      rw [inSession_closed _ isOpen]
      exact iff_of_true (delivers_refused rfl) fun absurdity => absurd absurdity isOpen

/-- Two rows of one name leave a slot empty, and a session that is not connected succeeds. -/
theorem delivers_twice :
    let twice : Session := ⟨true, true, true, some [(ascii "A", ascii "1"), (ascii "A", ascii "2")], none, true⟩
    let disconnected : Session := ⟨true, true, false, none, none, true⟩
    ¬Delivers (ascii "U") (ascii "C") twice.given
        (getExpandedConfiguration twice (some (ascii "U")) (some (ascii "C")) Outputs.untouched) ∧
      ¬Delivers (ascii "U") (ascii "C") disconnected.given
        (getExpandedConfiguration disconnected (some (ascii "U")) (some (ascii "C")) Outputs.untouched) := by
  constructor
  · intro delivers
    have distinct := delivers_produced_iff.mp delivers
    revert distinct
    decide
  · intro delivers
    exact not_delivers_missing (succeeded_ofBool false) rfl delivers

end Callers

end ServiceHost.Configuration
