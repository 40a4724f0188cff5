import ServiceHost.DataExchange.GetExportCore
import ServiceHost.DataExchange.StandardWs
import Mathlib.Data.List.Nodup

/-!
An undisturbed `GetExport` answers the first message that can be read and removes those
before it, unless one of them fails in a way that the loop does not know: a message
without a claim ticket, or with a ticket that its handler refuses.
-/

namespace ServiceHost.DataExchange.StandardWs

open Library

variable {kind : TransactionKind} {call : Nat} {storeFailure : ClaimTicket → Option SystemException} {world : PullWorld}

section Order

theorem liesIn_iff {priority : DataExchangeQueuePriority} {internalId : Nat} :
    world.liesIn priority internalId ↔
      ∃ entry, world.entries[internalId]? = some entry ∧ entry.priority = priority ∧ entry.place = .queued := by
  simp [PullWorld.liesIn, Option.any_eq_true]

theorem mem_queueOrder {priority : DataExchangeQueuePriority} {internalId : Nat} :
    internalId ∈ world.queueOrder priority ↔ world.liesIn priority internalId := by
  simp only [PullWorld.queueOrder, List.mem_filter, List.mem_range, and_iff_right_iff_imp, liesIn_iff]
  rintro ⟨entry, found, _⟩
  exact (List.getElem?_eq_some_iff.mp found).1

theorem liesIn_unique {priority other : DataExchangeQueuePriority} {internalId : Nat}
    (first : world.liesIn priority internalId) (second : world.liesIn other internalId) : priority = other := by
  obtain ⟨entry, found, rfl, _⟩ := liesIn_iff.mp first
  obtain ⟨entry', found', rfl, _⟩ := liesIn_iff.mp second
  rw [found] at found'
  cases found'
  rfl

theorem exportOrder_nodup (world : PullWorld) : world.exportOrder.Nodup := by
  refine List.nodup_flatMap.mpr ⟨fun priority _ => List.nodup_range.filter _, ?_⟩
  have distinct : orderedPriorities.Nodup := by decide
  refine distinct.imp fun {priority other} different => ?_
  intro internalId first second
  exact different (liesIn_unique (mem_queueOrder.mp first) (mem_queueOrder.mp second))

theorem queueOrder_head (priority : DataExchangeQueuePriority) :
    (world.queueOrder priority).head? =
      world.entries.findIdx? fun entry => entry.priority = priority ∧ entry.place = .queued := by
  rw [PullWorld.queueOrder, List.head?_filter]
  cases found : world.entries.findIdx? fun entry => entry.priority = priority ∧ entry.place = .queued with
  | none =>
      rw [List.findIdx?_eq_none_iff] at found
      rw [List.find?_eq_none]
      intro internalId _ lies
      obtain ⟨entry, there, at_⟩ := liesIn_iff.mp lies
      simpa [at_] using found entry (List.mem_of_getElem? there)
  | some internalId =>
      obtain ⟨inside, at_, before⟩ := List.findIdx?_eq_some_iff_getElem.mp found
      rw [List.find?_range_eq_some]
      refine ⟨?_, List.mem_range.mpr inside, ?_⟩
      · exact liesIn_iff.mpr ⟨_, List.getElem?_eq_getElem inside, by simpa using at_⟩
      · intro earlier less
        have other := before earlier less
        simp only [Bool.not_eq_true', Bool.eq_false_iff]
        intro lies
        obtain ⟨entry, there, at_⟩ := liesIn_iff.mp lies
        rw [List.getElem?_eq_getElem (by omega)] at there
        cases there
        simp [at_] at other

theorem peekForPriority_head (priority : DataExchangeQueuePriority) :
    world.peekForPriority priority = (world.queueOrder priority).head?.bind fun internalId =>
      world.entries[internalId]?.bind fun entry => some (internalId, entry.item) := by
  rw [queueOrder_head]
  rfl

end Order

section Steps

def peeked (internalId : Nat) : QueueItem → GetPhase
  | .corrupt => .begin_ internalId
  | .message message => .getMessageData internalId message

theorem peek_comes_none (priorities : List DataExchangeQueuePriority)
    (empty : priorities.flatMap world.queueOrder = []) :
    Comes (exportStep kind call storeFailure) (.peek priorities, world) (.answered true none, world) := by
  induction priorities with
  | nil => exact .head .refl
  | cons priority priorities ih =>
      rw [List.flatMap_cons, List.append_eq_nil_iff] at empty
      apply Comes.head
      simpa [exportStep, getStep, contentFailure, peekForPriority_head, empty.1] using ih empty.2

theorem peek_comes_first (priorities : List DataExchangeQueuePriority) {internalId : Nat} {rest : List Nat}
    (order : priorities.flatMap world.queueOrder = internalId :: rest) {entry : QueueEntry}
    (found : world.entries[internalId]? = some entry) :
    Comes (exportStep kind call storeFailure) (.peek priorities, world) (peeked internalId entry.item, world) := by
  induction priorities with
  | nil => cases order
  | cons priority priorities ih =>
      rw [List.flatMap_cons] at order
      apply Comes.head
      cases queue : world.queueOrder priority with
      | nil =>
          rw [queue, List.nil_append] at order
          simpa [exportStep, getStep, contentFailure, peekForPriority_head, queue] using ih order
      | cons first later =>
          rw [queue, List.cons_append, List.cons.injEq] at order
          cases order.1
          cases item : entry.item with
          | corrupt =>
              simpa [exportStep, getStep, contentFailure, peekForPriority_head, queue, found, item, peeked] using .refl
          | message message =>
              simpa [exportStep, getStep, contentFailure, peekForPriority_head, queue, found, item, peeked] using .refl

def PullWorld.receive (world : PullWorld) (call internalId : Nat) (entry : QueueEntry) : PullWorld :=
  { world with entries := world.entries.set internalId { entry with place := .received call } }

theorem remove_comes (priorities : List DataExchangeQueuePriority) {internalId : Nat} {entry : QueueEntry}
    (found : world.entries[internalId]? = some entry) (queued : entry.place = .queued)
    (member : entry.priority ∈ priorities) :
    Comes (exportStep kind call storeFailure) (.remove internalId priorities, world)
      (.commit, world.receive call internalId entry) := by
  induction priorities with
  | nil => cases member
  | cons priority priorities ih =>
      apply Comes.head
      by_cases same : entry.priority = priority
      · simpa [exportStep, getStep, contentFailure, PullWorld.receiveById, found, queued, same, PullWorld.receive]
          using .refl
      · have later : entry.priority ∈ priorities := (List.mem_cons.mp member).resolve_left same
        simpa [exportStep, getStep, contentFailure, PullWorld.receiveById, found, same] using ih later

theorem settle_receive {internalId : Nat} {entry : QueueEntry} (found : world.entries[internalId]? = some entry)
    (untouched : ∀ entry ∈ world.entries, entry.place ≠ .received call) :
    (world.receive call internalId entry).settle call (.removed call) = world.remove call [internalId] := by
  have entries : ((world.receive call internalId entry).settle call (.removed call)).entries =
      (world.remove call [internalId]).entries := by
    apply List.ext_getElem?
    intro index
    simp only [PullWorld.settle, PullWorld.receive, PullWorld.remove, List.getElem?_map, List.getElem?_mapIdx,
      List.getElem?_set, List.mem_singleton]
    by_cases same : internalId = index
    · subst same
      obtain ⟨inside, rfl⟩ := List.getElem?_eq_some_iff.mp found
      simp [inside]
    · cases other : world.entries[index]? with
      | none => simp [same]
      | some entry =>
          have elsewhere := untouched entry (List.mem_of_getElem? other)
          simp [same, elsewhere, Ne.symm same]
  calc (world.receive call internalId entry).settle call (.removed call)
    _ = { world with entries := ((world.receive call internalId entry).settle call (.removed call)).entries } := rfl
    _ = world.remove call [internalId] := by rw [entries]; rfl

theorem discard_comes {internalId : Nat} {entry : QueueEntry} (found : world.entries[internalId]? = some entry)
    (queued : entry.place = .queued) (untouched : ∀ entry ∈ world.entries, entry.place ≠ .received call) :
    Comes (exportStep kind call storeFailure) (.begin_ internalId, world)
      (.wait, world.remove call [internalId]) := by
  have known : entry.priority ∈ orderedPriorities := by cases entry.priority <;> decide
  have settled := settle_receive found untouched
  apply Comes.head
  apply Comes.trans (remove_comes orderedPriorities found queued known)
  apply Comes.head
  cases kind with
  | msmq =>
      apply Comes.head
      simpa [exportStep, getStep, contentFailure, PullWorld.commit, PullWorld.dispose, settled] using .refl
  | msdtc =>
      apply Comes.head
      simpa [exportStep, getStep, contentFailure, PullWorld.commit, PullWorld.dispose, settled] using .refl

end Steps

section Removal

theorem remove_getElem? (internalIds : List Nat) (internalId : Nat) :
    (world.remove call internalIds).entries[internalId]? = world.entries[internalId]?.map fun entry =>
      if internalId ∈ internalIds then { entry with place := .removed call } else entry := by
  simp [PullWorld.remove]

theorem remove_item {internalIds : List Nat} {internalId : Nat} :
    (world.remove call internalIds).entries[internalId]?.map QueueEntry.item =
      world.entries[internalId]?.map QueueEntry.item := by
  rw [remove_getElem?, Option.map_map]
  congr 1
  funext entry
  dsimp only [Function.comp]
  split <;> rfl

theorem liesIn_remove (priority : DataExchangeQueuePriority) (internalIds : List Nat) (internalId : Nat) :
    (world.remove call internalIds).liesIn priority internalId =
      (world.liesIn priority internalId && decide (internalId ∉ internalIds)) := by
  rw [PullWorld.liesIn, PullWorld.liesIn, remove_getElem?]
  by_cases member : internalId ∈ internalIds
  · cases world.entries[internalId]? <;> simp [member]
  · cases world.entries[internalId]? <;> simp [member]

theorem exportOrder_remove (internalIds : List Nat) :
    (world.remove call internalIds).exportOrder = world.exportOrder.filter fun id => id ∉ internalIds := by
  rw [PullWorld.exportOrder, PullWorld.exportOrder, List.filter_flatMap]
  congr 1
  funext priority
  rw [PullWorld.queueOrder, PullWorld.queueOrder, List.filter_filter]
  have length : (world.remove call internalIds).entries.length = world.entries.length := by simp [PullWorld.remove]
  rw [length]
  congr 1
  funext internalId
  rw [liesIn_remove, Bool.and_comm]

theorem exportOrder_remove_first {internalId : Nat} {rest : List Nat} (order : world.exportOrder = internalId :: rest) :
    (world.remove call [internalId]).exportOrder = rest := by
  have distinct := exportOrder_nodup world
  rw [order, List.nodup_cons] at distinct
  rw [exportOrder_remove, order, List.filter_cons_of_neg (by simp)]
  refine List.filter_eq_self.mpr fun other member => ?_
  have different : other ≠ internalId := fun same => distinct.1 (same ▸ member)
  simpa using different

theorem usable_remove {internalIds : List Nat} {internalId : Nat} :
    (world.remove call internalIds).usable storeFailure internalId = world.usable storeFailure internalId := by
  have same := @remove_item call world internalIds internalId
  unfold PullWorld.usable
  cases before : world.entries[internalId]? with
  | none =>
      rw [before, Option.map_none, Option.map_eq_none_iff] at same
      rw [same]
      rfl
  | some entry =>
      rw [before, Option.map_some] at same
      obtain ⟨removed, found, item⟩ := Option.map_eq_some_iff.mp same
      rw [found]
      simp only [Option.bind_eq_bind, Option.bind_some, item]
      rfl

theorem stuck_remove {internalIds : List Nat} {internalId : Nat} :
    (world.remove call internalIds).Stuck storeFailure internalId ↔ world.Stuck storeFailure internalId := by
  have bound (world : PullWorld) : world.Stuck storeFailure internalId ↔
      ∃ message exception, world.entries[internalId]?.map QueueEntry.item = some (.message message) ∧
        message.getMessageData world.payloads (message.claimTicket.bind storeFailure) = .error exception ∧
        exception ≠ .claimHandler := by
    unfold PullWorld.Stuck
    cases world.entries[internalId]? <;> simp
  rw [bound, bound, remove_item]
  rfl

theorem remove_remove (first second : List Nat) :
    (world.remove call first).remove call second = world.remove call (first ++ second) := by
  have entries : ((world.remove call first).remove call second).entries =
      (world.remove call (first ++ second)).entries := by
    apply List.ext_getElem?
    intro internalId
    simp only [remove_getElem?, Option.map_map]
    congr 1
    funext entry
    by_cases member : internalId ∈ first <;> by_cases later : internalId ∈ second <;> simp [member, later]
  calc (world.remove call first).remove call second
    _ = { world with entries := ((world.remove call first).remove call second).entries } := rfl
    _ = world.remove call (first ++ second) := by rw [entries]; rfl

theorem remove_nil : world.remove call [] = world := by
  have entries : (world.remove call []).entries = world.entries := by
    apply List.ext_getElem?
    intro internalId
    simp [remove_getElem?]
  calc world.remove call []
    _ = { world with entries := (world.remove call []).entries } := rfl
    _ = world := by rw [entries]

end Removal

section Answers

variable {internalId : Nat} {rest : List Nat}

theorem exportOrder_first (order : world.exportOrder = internalId :: rest) :
    ∃ entry, world.entries[internalId]? = some entry ∧ entry.place = .queued := by
  have member : internalId ∈ world.exportOrder := by
    rw [order]
    exact List.mem_cons_self ..
  obtain ⟨priority, _, lies⟩ := List.mem_flatMap.mp member
  obtain ⟨entry, found, _, queued⟩ := liesIn_iff.mp (mem_queueOrder.mp lies)
  exact ⟨entry, found, queued⟩

theorem wait_comes (order : world.exportOrder = internalId :: rest) {entry : QueueEntry}
    (found : world.entries[internalId]? = some entry) :
    Comes (exportStep kind call storeFailure) (.wait, world) (peeked internalId entry.item, world) :=
  .head (peek_comes_first orderedPriorities order found)

theorem wait_comes_usable (order : world.exportOrder = internalId :: rest) {message : DataExchangeMessage}
    (usable : world.usable storeFailure internalId = some message) :
    Comes (exportStep kind call storeFailure) (.wait, world) (.answered true (some message), world) := by
  obtain ⟨entry, found, _⟩ := exportOrder_first order
  apply Comes.trans (wait_comes order found)
  cases item : entry.item with
  | corrupt => simp [PullWorld.usable, found, item] at usable
  | message message' =>
      simp only [PullWorld.usable, found, item, Option.bind_eq_bind, Option.bind_some] at usable
      split at usable
      · rename_i payload read
        cases usable
        apply Comes.head
        apply Comes.head
        simpa [peeked, exportStep, getStep, contentFailure, read] using .refl
      · cases usable

theorem wait_comes_stuck (order : world.exportOrder = internalId :: rest)
    (stuck : world.Stuck storeFailure internalId) :
    Comes (exportStep kind call storeFailure) (.wait, world) (.answered false none, world) := by
  obtain ⟨entry, found, message, exception, item, failed, unknown⟩ := stuck
  apply Comes.trans (wait_comes order found)
  apply Comes.head
  rw [item]
  cases exception with
  | claimHandler => exact absurd rfl unknown
  | _ => simpa [peeked, exportStep, getStep, contentFailure, failed] using .refl

theorem wait_comes_discarded (order : world.exportOrder = internalId :: rest)
    (unusable : world.usable storeFailure internalId = none) (known : ¬ world.Stuck storeFailure internalId)
    (untouched : ∀ entry ∈ world.entries, entry.place ≠ .received call) :
    Comes (exportStep kind call storeFailure) (.wait, world) (.wait, world.remove call [internalId]) := by
  obtain ⟨entry, found, queued⟩ := exportOrder_first order
  apply Comes.trans (wait_comes order found)
  cases item : entry.item with
  | corrupt => exact discard_comes found queued untouched
  | message message =>
      simp only [PullWorld.usable, found, item, Option.bind_eq_bind, Option.bind_some] at unusable
      split at unusable
      · cases unusable
      · rename_i exception failed
        have claim : exception = .claimHandler := by
          by_contra other
          exact known ⟨entry, found, message, exception, item, failed, other⟩
        subst claim
        apply Comes.head
        have discarded : Comes (exportStep kind call storeFailure) (.begin_ internalId, world)
            (.wait, world.remove call [internalId]) := discard_comes found queued untouched
        simpa [peeked, exportStep, getStep, contentFailure, failed] using discarded

def GetsFirstUsable (kind : TransactionKind) (call : Nat) (storeFailure : ClaimTicket → Option SystemException)
    (world : PullWorld) : Prop :=
  Comes (exportStep kind call storeFailure) (.wait, world)
    (.answered true (world.firstUsable storeFailure), world.remove call (world.unusableBefore storeFailure))

theorem untouched_remove {internalIds : List Nat} (untouched : ∀ entry ∈ world.entries, entry.place ≠ .received call) :
    ∀ entry ∈ (world.remove call internalIds).entries, entry.place ≠ .received call := by
  intro entry member
  obtain ⟨internalId, found⟩ := List.mem_iff_getElem?.mp member
  rw [remove_getElem?, Option.map_eq_some_iff] at found
  obtain ⟨before, there, rfl⟩ := found
  split
  · simp
  · exact untouched before (List.mem_of_getElem? there)

theorem remaining (call : Nat) (order : world.exportOrder = internalId :: rest)
    (unusable : world.usable storeFailure internalId = none) :
    (world.remove call [internalId]).firstUsable storeFailure = world.firstUsable storeFailure ∧
      internalId :: (world.remove call [internalId]).unusableBefore storeFailure =
        world.unusableBefore storeFailure := by
  have same : (world.remove call [internalId]).usable storeFailure = world.usable storeFailure :=
    funext fun other => usable_remove
  have later : (world.remove call [internalId]).exportOrder = rest := exportOrder_remove_first order
  constructor
  · simp only [PullWorld.firstUsable, later, order, same, List.findSome?_cons, unusable]
  · rw [PullWorld.unusableBefore, PullWorld.unusableBefore, later, order, same, List.takeWhile_cons_of_pos]
    simp [unusable]

theorem get_comes (untouched : ∀ entry ∈ world.entries, entry.place ≠ .received call)
    (known : ∀ id ∈ world.unusableBefore storeFailure, ¬ world.Stuck storeFailure id) :
    GetsFirstUsable kind call storeFailure world := by
  induction order : world.exportOrder generalizing world with
  | nil =>
      have empty : world.firstUsable storeFailure = none ∧ world.unusableBefore storeFailure = [] := by
        simp [PullWorld.firstUsable, PullWorld.unusableBefore, order]
      rw [GetsFirstUsable, empty.1, empty.2, remove_nil]
      exact .head (peek_comes_none orderedPriorities order)
  | cons internalId rest ih =>
      cases usable : world.usable storeFailure internalId with
      | some message =>
          have first : world.firstUsable storeFailure = some message ∧ world.unusableBefore storeFailure = [] := by
            simp [PullWorld.firstUsable, PullWorld.unusableBefore, order, usable]
          rw [GetsFirstUsable, first.1, first.2, remove_nil]
          exact wait_comes_usable order usable
      | none =>
          obtain ⟨answer, before⟩ := remaining call order usable
          have later := ih (untouched_remove untouched) (fun id member stuck =>
            known id (before ▸ List.mem_cons_of_mem _ member) (stuck_remove.mp stuck))
            (exportOrder_remove_first order)
          rw [GetsFirstUsable, answer, remove_remove, List.singleton_append, before] at later
          have notStuck := known internalId (before ▸ List.mem_cons_self ..)
          exact (wait_comes_discarded order usable notStuck untouched).trans later

theorem get_comes_error (kind : TransactionKind) (untouched : ∀ entry ∈ world.entries, entry.place ≠ .received call) {stuckId : Nat}
    (member : stuckId ∈ world.unusableBefore storeFailure) (stuck : world.Stuck storeFailure stuckId) :
    ∃ later, Comes (exportStep kind call storeFailure) (.wait, world) (.answered false none, later) := by
  induction order : world.exportOrder generalizing world with
  | nil => simp [PullWorld.unusableBefore, order] at member
  | cons internalId rest ih =>
      by_cases firstStuck : world.Stuck storeFailure internalId
      · exact ⟨world, wait_comes_stuck order firstStuck⟩
      · cases usable : world.usable storeFailure internalId with
        | some message => simp [PullWorld.unusableBefore, order, usable] at member
        | none =>
            obtain ⟨_, before⟩ := remaining call order usable
            have later : stuckId ∈ (world.remove call [internalId]).unusableBefore storeFailure := by
              rw [← before] at member
              refine (List.mem_cons.mp member).resolve_left fun same => ?_
              exact firstStuck (same ▸ stuck)
            obtain ⟨last, comes⟩ := ih (untouched_remove untouched) later (stuck_remove.mpr stuck)
              (exportOrder_remove_first order)
            exact ⟨last, (wait_comes_discarded order usable firstStuck untouched).trans comes⟩

/-- The call does its work if and only if no message before the first usable one is stuck. -/
theorem getExport_getsFirstUsable_iff (kind : TransactionKind) (call : Nat)
    (storeFailure : ClaimTicket → Option SystemException) (world : PullWorld)
    (untouched : ∀ entry ∈ world.entries, entry.place ≠ .received call) :
    GetsFirstUsable kind call storeFailure world ↔
      ∀ internalId ∈ world.unusableBefore storeFailure, ¬ world.Stuck storeFailure internalId := by
  constructor
  · intro gets internalId member stuck
    obtain ⟨later, comes⟩ := get_comes_error kind untouched member stuck
    have same := gets.unique comes rfl rfl
    simp at same
  · exact get_comes untouched

def corruptWorld : PullWorld where
  entries := [⟨.low, .message valuesMessage, .queued⟩, ⟨.normal, .corrupt, .queued⟩]
  payloads := Function.update (fun _ => none) valuesTicket (some "1.5")
  calls := fun _ => .idle

theorem getExport_getsFirstUsable_iff_corrupt : GetsFirstUsable .msmq 0 (fun _ => none) corruptWorld := by
  refine (getExport_getsFirstUsable_iff .msmq 0 (fun _ => none) corruptWorld (by decide)).mpr ?_
  have before : corruptWorld.unusableBefore (fun _ => none) = [1] := by decide
  rw [before]
  rintro internalId member ⟨entry, found, message, _, item, _⟩
  cases List.mem_singleton.mp member
  cases found
  cases item

def ticketlessWorld : PullWorld where
  entries := [⟨.normal, .message { valuesMessage with claimTicket := none }, .queued⟩]
  payloads := fun _ => none
  calls := fun _ => .idle

/-- A message without a claim ticket is answered with an internal error, at every call. -/
theorem getExport_ticketless : ¬ ∀ kind call storeFailure world,
    (∀ entry ∈ world.entries, entry.place ≠ .received call) → GetsFirstUsable kind call storeFailure world := by
  intro gets
  have stuck : ticketlessWorld.Stuck (fun _ => none) 0 := ⟨_, rfl, _, .nullReference, rfl, rfl, by decide⟩
  have before : ticketlessWorld.unusableBefore (fun _ => none) = [0] := by decide
  have untouched : ∀ entry ∈ ticketlessWorld.entries, entry.place ≠ .received 0 := by decide
  obtain ⟨later, comes⟩ := get_comes_error .msmq untouched (before ▸ List.mem_singleton.mpr rfl) stuck
  have same := (gets .msmq 0 (fun _ => none) ticketlessWorld untouched).unique comes rfl rfl
  simp at same

end Answers

end ServiceHost.DataExchange.StandardWs
