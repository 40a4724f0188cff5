import ServiceHost.DataExchange.ExportPeekCore
import ServiceHost.DataExchange.Queue

/-!
What a peek by external reference finds. The first messages that come before a match do
not matter as long as they can be read; without a match the last of them is returned.
-/

namespace ServiceHost.DataExchange.ExportPeek

open Library

def HeadHas (queues : PriorityQueues) (externalReference : Option String) (priority : DataExchangeQueuePriority)
    (message : DataExchangeMessage) (internalMessageId : String) : Prop :=
  (queues priority).head? = some (internalMessageId, .message message) ∧
    message.externalReference = externalReference

def HeadCorrupt (queues : PriorityQueues) (priority : DataExchangeQueuePriority) : Prop :=
  ∃ internalMessageId, (queues priority).head? = some (internalMessageId, .corrupt)

def SomeHeadHas (queues : PriorityQueues) (externalReference : Option String)
    (priorities : List DataExchangeQueuePriority) (message : DataExchangeMessage) (internalMessageId : String) : Prop :=
  ∃ priority ∈ priorities, HeadHas queues externalReference priority message internalMessageId

def FindsHead (queues : PriorityQueues) (priorities : List DataExchangeQueuePriority)
    (externalReference : Option String) (outcome : Except SystemException Peeked) : Prop :=
  ∃ message internalMessageId, outcome = .ok (message, internalMessageId) ∧
    ((∃ found id, SomeHeadHas queues externalReference priorities found id) →
      ∃ found id, SomeHeadHas queues externalReference priorities found id ∧
        message = some found ∧ internalMessageId = some id) ∧
    ((¬∃ found id, SomeHeadHas queues externalReference priorities found id) → message = none)

def Passed (queues : PriorityQueues) (externalReference : Option String) :
    List DataExchangeQueuePriority → DataExchangeQueuePriority → Prop
  | [], _ => False
  | priority :: priorities, passed =>
      (¬∃ found id, HeadHas queues externalReference priority found id) ∧
        (passed = priority ∨ Passed queues externalReference priorities passed)

section Peek

variable {queues : PriorityQueues} {externalReference : Option String} {priority : DataExchangeQueuePriority}

theorem peekForPriority_cases (queues : PriorityQueues) (externalReference : Option String)
    (priority : DataExchangeQueuePriority) :
    (∃ found id, HeadHas queues externalReference priority found id ∧
        peekForPriority queues priority = .ok (some found, some id)) ∨
      (HeadCorrupt queues priority ∧ ∃ exception, peekForPriority queues priority = .error exception) ∨
      ((¬∃ found id, HeadHas queues externalReference priority found id) ∧ ¬HeadCorrupt queues priority ∧
        ∃ peeked : Peeked, peekForPriority queues priority = .ok peeked ∧ (peeked.1 = none ↔ queues priority = []) ∧
          ∀ message, peeked.1 = some message → externalReference ≠ message.externalReference) := by
  unfold HeadHas HeadCorrupt peekForPriority
  cases content : queues priority with
  | nil =>
      refine Or.inr (Or.inr ⟨by simp, by simp, (none, none), rfl, by simp, ?_⟩)
      intro message impossible
      cases impossible
  | cons first rest =>
      obtain ⟨id, item⟩ := first
      cases item with
      | corrupt => exact Or.inr (Or.inl ⟨⟨id, rfl⟩, _, rfl⟩)
      | message message =>
          by_cases same : message.externalReference = externalReference
          · exact Or.inl ⟨message, id, ⟨rfl, same⟩, rfl⟩
          · refine Or.inr (Or.inr ⟨?_, by simp, (some message, some id), rfl, by simp, ?_⟩)
            · rintro ⟨found, other, head, matched⟩
              simp only [List.head?_cons, Option.some.injEq, Prod.mk.injEq, QueueItem.message.injEq] at head
              rw [← head.2] at matched
              exact same matched
            · intro found is
              cases is
              exact Ne.symm same

theorem not_corrupt_of_has {found : DataExchangeMessage} {id : String}
    (has : HeadHas queues externalReference priority found id) : ¬HeadCorrupt queues priority := by
  rintro ⟨other, corrupt⟩
  rw [has.1] at corrupt
  cases corrupt

theorem peekEach_cons {priorities : List DataExchangeQueuePriority} {before peeked : Peeked}
    (looked : peekForPriority queues priority = .ok peeked) :
    peekEach queues externalReference (priority :: priorities) before =
      if peeked.1.any fun message => externalReference = message.externalReference then .ok peeked
      else peekEach queues externalReference priorities peeked := by
  rw [peekEach, looked]
  rfl

theorem peekEach_raises {priorities : List DataExchangeQueuePriority} {before : Peeked} {exception : SystemException}
    (looked : peekForPriority queues priority = .error exception) :
    peekEach queues externalReference (priority :: priorities) before = .error exception := by
  rw [peekEach, looked]
  rfl

end Peek

theorem someHeadHas_cons {queues : PriorityQueues} {externalReference : Option String}
    {priority : DataExchangeQueuePriority} {priorities : List DataExchangeQueuePriority}
    (misses : ¬∃ found id, HeadHas queues externalReference priority found id) :
    SomeHeadHas queues externalReference (priority :: priorities) =
      SomeHeadHas queues externalReference priorities := by
  funext found id
  simp only [SomeHeadHas, List.mem_cons, exists_eq_or_imp, eq_iff_iff, or_iff_right_iff_imp]
  intro has
  exact absurd ⟨found, id, has⟩ misses

def Suits (queues : PriorityQueues) (externalReference : Option String)
    (priorities : List DataExchangeQueuePriority) (before : Peeked) : Prop :=
  (∀ priority, Passed queues externalReference priorities priority → ¬HeadCorrupt queues priority) ∧
    ((∃ found id, SomeHeadHas queues externalReference priorities found id) ∨
      match priorities.getLast? with
      | none => before.1 = none
      | some last => queues last = [])

theorem suits_cons {queues : PriorityQueues} {externalReference : Option String}
    {priority : DataExchangeQueuePriority} {priorities : List DataExchangeQueuePriority} {before peeked : Peeked}
    (misses : ¬∃ found id, HeadHas queues externalReference priority found id)
    (readable : ¬HeadCorrupt queues priority) (empty : peeked.1 = none ↔ queues priority = []) :
    Suits queues externalReference (priority :: priorities) before ↔
      Suits queues externalReference priorities peeked := by
  have passed : (∀ other, Passed queues externalReference (priority :: priorities) other → ¬HeadCorrupt queues other) ↔
      ∀ other, Passed queues externalReference priorities other → ¬HeadCorrupt queues other := by
    constructor
    · intro passable other inside
      exact passable other ⟨misses, Or.inr inside⟩
    · rintro passable other ⟨_, rfl | inside⟩
      · exact readable
      · exact passable other inside
  unfold Suits
  rw [passed, someHeadHas_cons misses]
  cases priorities with
  | nil => rw [List.getLast?_singleton, List.getLast?_nil, empty]
  | cons next rest =>
      obtain ⟨last, there⟩ : ∃ last, (next :: rest).getLast? = some last :=
        ⟨_, List.getLast?_eq_some_getLast (List.cons_ne_nil next rest)⟩
      rw [List.getLast?_cons_cons, there]

theorem findsHead_peekEach (queues : PriorityQueues) (externalReference : Option String)
    (priorities : List DataExchangeQueuePriority) (before : Peeked) :
    FindsHead queues priorities externalReference (peekEach queues externalReference priorities before) ↔
      Suits queues externalReference priorities before := by
  induction priorities generalizing before with
  | nil =>
      obtain ⟨message, id⟩ := before
      simp [FindsHead, Suits, SomeHeadHas, peekEach, Passed]
  | cons priority priorities ih =>
      rcases peekForPriority_cases queues externalReference priority with
        ⟨found, id, has, looked⟩ | ⟨corrupt, exception, looked⟩ | ⟨misses, readable, peeked, looked, empty, differs⟩
      · have stops : (some found).any (fun message : DataExchangeMessage =>
            externalReference = message.externalReference) = true := by simp [has.2]
        have matched : SomeHeadHas queues externalReference (priority :: priorities) found id :=
          ⟨priority, List.mem_cons_self, has⟩
        rw [peekEach_cons looked, if_pos stops]
        constructor
        · intro _
          refine ⟨?_, Or.inl ⟨found, id, matched⟩⟩
          rintro passed ⟨missed, _⟩
          exact absurd ⟨found, id, has⟩ missed
        · intro _
          exact ⟨some found, some id, rfl, fun _ => ⟨found, id, matched, rfl, rfl⟩,
            fun none_ => absurd ⟨found, id, matched⟩ none_⟩
      · rw [peekEach_raises looked]
        constructor
        · rintro ⟨_, _, impossible, _⟩
          cases impossible
        · rintro ⟨passable, _⟩
          have missed : ¬∃ found id, HeadHas queues externalReference priority found id := by
            rintro ⟨found, id, has⟩
            exact not_corrupt_of_has has corrupt
          exact absurd corrupt (passable priority ⟨missed, Or.inl rfl⟩)
      · have goesOn : ¬peeked.1.any (fun message => externalReference = message.externalReference) = true := by
          obtain ⟨message, id⟩ := peeked
          cases message with
          | none => simp
          | some message => simpa using differs message rfl
        rw [peekEach_cons looked, if_neg goesOn, suits_cons misses readable empty, ← ih peeked]
        unfold FindsHead
        rw [someHeadHas_cons misses]

/-- The first message with the reference is found, or its absence reported, exactly when every
first message that is passed on the way can be read, and either some first message has the
reference or the last queue is empty. -/
theorem peekExportMessageByExternalReference_findsHead_iff (queues : PriorityQueues)
    (priorities : List DataExchangeQueuePriority) (externalReference : Option String) (moduleName : String) :
    FindsHead queues priorities externalReference
        (peekExportMessageByExternalReference queues priorities externalReference (some moduleName)) ↔
      (∀ priority, Passed queues externalReference priorities priority → ¬HeadCorrupt queues priority) ∧
        ((∃ found id, SomeHeadHas queues externalReference priorities found id) ∨
          ∀ last, priorities.getLast? = some last → queues last = []) := by
  unfold peekExportMessageByExternalReference
  rw [findsHead_peekEach, Suits]
  cases priorities.getLast? with
  | none => simp
  | some last => simp

def oneLowMessage : PriorityQueues
  | .low => [("a\\1", .message valuesMessage)]
  | _ => []

theorem peekExportMessageByExternalReference_other : ¬ FindsHead oneLowMessage orderedPriorities (some "other")
    (peekExportMessageByExternalReference oneLowMessage orderedPriorities (some "other") (some "STANDARDWS")) := by
  have returned : peekExportMessageByExternalReference oneLowMessage orderedPriorities (some "other")
      (some "STANDARDWS") = .ok (some valuesMessage, some "a\\1") := rfl
  rintro ⟨message, id, ran, _, absent⟩
  have none_ : message = none := by
    apply absent
    rintro ⟨found, other, priority, _, head, same⟩
    cases priority with
    | high => cases head
    | normal => cases head
    | low =>
        cases head
        revert same
        decide
  rw [returned, none_] at ran
  cases ran

end ServiceHost.DataExchange.ExportPeek
