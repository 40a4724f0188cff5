import ServiceHost.DataExchange.MsmqPeek

/-!
`MsmqDataExchangeQueue`: `Remove`, and `GetAll`, which removes what cannot be read.
-/

namespace ServiceHost.DataExchange.MsmqPeek

open Library

variable {T : Type}

inductive QueueTransaction
  | msmq
  | msdtc
  | unexpected
deriving DecidableEq

/-- `ReceiveById` of a message that a queue may have, with what is left of the queue. -/
def receiveById (removal : String → Reading) (internalMessageId : String) (messages : List (QueuedMessage T)) :
    Except QueueException (List (QueuedMessage T)) :=
  match removal internalMessageId with
  | .failed code => .error (.messageQueue code)
  | .missing => .error .invalidOperation
  | .found =>
      if messages.any fun message => message.id = internalMessageId then
        .ok (messages.eraseP fun message => message.id = internalMessageId)
      else .error .invalidOperation

/-- The loop of `Remove` over the queues, which ends where the message was removed. -/
def removeFrom (transaction : QueueTransaction) (removal : String → Reading) (internalMessageId : String) :
    List (MessageQueue T) → Except QueueException Unit × List (MessageQueue T)
  | [] => (.ok (), [])
  | queue :: queues =>
      if transaction = .unexpected then (.error .argument, queue :: queues)
      else
        match receiveById removal internalMessageId queue.messages with
        | .ok messages => (.ok (), { queue with messages } :: queues)
        | .error .invalidOperation =>
            let (result, queues) := removeFrom transaction removal internalMessageId queues
            (result, queue :: queues)
        | .error exception => (.error exception, queue :: queues)

def remove (transaction : QueueTransaction) (removal : String → Reading) (internalMessageId : String) : Queueing T Unit :=
  removeFrom transaction removal internalMessageId

section GetAll

variable (surroundings : Surroundings) (transaction : QueueTransaction) (removal : String → Reading)

/-- The loop of `GetAll` over the messages of a queue. -/
def getMessages : List (QueuedMessage T) → List (String × T) → Queueing T (List (String × T))
  | [], dataExchangeMessages => pure dataExchangeMessages
  | message :: allMessages, dataExchangeMessages =>
      match getMessageBody message with
      | .ok body => do
          let dataExchangeMessages ← Program.ofExcept (addMessage dataExchangeMessages message.id body)
          getMessages allMessages dataExchangeMessages
      | .error (.invalidMessageBody _) => do
          remove transaction removal message.id
          getMessages allMessages dataExchangeMessages
      | .error exception => Program.raise exception

/-- `GetAllMessages` -/
def getAllMessages (priority : Nat) : Queueing T (List (QueuedMessage T)) := fun queues =>
  match queues[priority]? with
  | none => (.ok [], queues)
  | some queue =>
      match surroundings.listing queue.path with
      | some code => (.error (.messageQueue code), queues)
      | none => (.ok queue.messages, queues)

def getAllFrom : List Nat → List (String × T) → Queueing T (List (String × T))
  | [], dataExchangeMessages => pure dataExchangeMessages
  | priority :: orderedPriorities, dataExchangeMessages => do
      let allMessages ← getAllMessages surroundings priority
      let dataExchangeMessages ← getMessages transaction removal allMessages dataExchangeMessages
      getAllFrom orderedPriorities dataExchangeMessages

def getAll : Queueing T (List (String × T)) := fun queues =>
  getAllFrom surroundings transaction removal (List.range queues.length) [] queues

end GetAll

section Remove

def allOf (queues : List (MessageQueue T)) : List (QueuedMessage T) := queues.flatMap MessageQueue.messages

def ids (queues : List (MessageQueue T)) : List String := (allOf queues).map QueuedMessage.id

/-- The queues without some messages. -/
def without (removed : List String) (queues : List (MessageQueue T)) : List (MessageQueue T) :=
  queues.map fun queue => { queue with messages := queue.messages.filter fun message => message.id ∉ removed }

theorem filter_self {messages : List (QueuedMessage T)} {id : String} (other : id ∉ messages.map QueuedMessage.id) :
    (messages.filter fun message => message.id ∉ [id]) = messages := by
  refine List.filter_eq_self.mpr fun message member => ?_
  have different : message.id ≠ id := fun same => other (same ▸ List.mem_map_of_mem member)
  simpa using different

theorem without_self {queues : List (MessageQueue T)} {id : String} (other : id ∉ ids queues) : without [id] queues = queues := by
  refine (List.map_congr_left fun queue member => ?_).trans (List.map_id queues)
  have absent : id ∉ queue.messages.map QueuedMessage.id := by
    intro inside
    obtain ⟨message, here, same⟩ := List.mem_map.mp inside
    exact other (List.mem_map.mpr ⟨message, List.mem_flatMap.mpr ⟨queue, member, here⟩, same⟩)
  rw [filter_self absent]
  rfl

theorem without_nil (queues : List (MessageQueue T)) : without [] queues = queues := by
  refine (List.map_congr_left fun queue _ => ?_).trans (List.map_id queues)
  simp

theorem allOf_without (removed : List String) (queues : List (MessageQueue T)) :
    allOf (without removed queues) = (allOf queues).filter fun message => message.id ∉ removed := by
  rw [allOf, allOf, without, List.flatMap_map, List.filter_flatMap]

theorem nodup_without {queues : List (MessageQueue T)} (distinct : (ids queues).Nodup) (removed : List String) :
    (ids (without removed queues)).Nodup := by
  rw [ids, allOf_without]
  exact distinct.sublist (List.filter_sublist.map QueuedMessage.id)

theorem without_without (id : String) (removed : List String) (queues : List (MessageQueue T)) :
    without [id] (without removed queues) = without (id :: removed) queues := by
  rw [without, without, List.map_map]
  refine List.map_congr_left fun queue _ => ?_
  simp [List.filter_filter]

theorem eraseP_eq_filter {messages : List (QueuedMessage T)} {id : String} (distinct : (messages.map QueuedMessage.id).Nodup) :
    (messages.eraseP fun message => message.id = id) = messages.filter fun message => message.id ∉ [id] := by
  induction messages with
  | nil => rfl
  | cons message messages ih =>
      rw [List.map_cons, List.nodup_cons] at distinct
      by_cases same : message.id = id
      · rw [List.eraseP_cons_of_pos (by simpa using same), List.filter_cons_of_neg (by simpa using same),
          filter_self (same ▸ distinct.1)]
      · rw [List.eraseP_cons_of_neg (by simpa using same), List.filter_cons_of_pos (by simpa using same), ih distinct.2]

variable {transaction : QueueTransaction} {removal : String → Reading}

theorem removeFrom_missing {id : String} (missing : removal id = .missing) (queues : List (MessageQueue T)) :
    (removeFrom transaction removal id queues).2 = queues := by
  induction queues with
  | nil => rfl
  | cons queue queues ih =>
      unfold removeFrom receiveById
      rw [missing]
      split
      · rfl
      · exact congrArg (queue :: ·) ih

/-- `Remove` takes the message that is meant out of the queues, or nothing. -/
theorem removeFrom_state {queues : List (MessageQueue T)} (distinct : (ids queues).Nodup) (id : String) :
    (removeFrom transaction removal id queues).2 = queues ∨ (removeFrom transaction removal id queues).2 = without [id] queues := by
  induction queues with
  | nil => exact .inl rfl
  | cons queue queues ih =>
      rw [ids, allOf, List.flatMap_cons, List.map_append, List.nodup_append'] at distinct
      obtain ⟨inFirst, inRest, apart⟩ := distinct
      unfold removeFrom receiveById
      split
      · exact .inl rfl
      · cases reading : removal id with
        | failed code => exact .inl rfl
        | missing => exact .inl (congrArg (queue :: ·) (removeFrom_missing reading queues))
        | found =>
            dsimp only
            by_cases present : queue.messages.any fun message => message.id = id
            · rw [if_pos present]
              have member : id ∈ queue.messages.map QueuedMessage.id := by
                obtain ⟨message, member, same⟩ := List.any_eq_true.mp present
                exact List.mem_map.mpr ⟨message, member, of_decide_eq_true same⟩
              refine .inr ?_
              dsimp only
              rw [eraseP_eq_filter inFirst, without, List.map_cons]
              exact congrArg _ (without_self fun inside => apart member inside).symm
            · rw [if_neg present]
              have absent : id ∉ queue.messages.map QueuedMessage.id := by
                intro member
                obtain ⟨message, member, same⟩ := List.mem_map.mp member
                exact present (List.any_eq_true.mpr ⟨message, member, decide_eq_true same⟩)
              rcases ih inRest with same | same
              · exact .inl (congrArg (queue :: ·) same)
              · have head : without [id] (queue :: queues) = queue :: without [id] queues := by
                  rw [without, List.map_cons, filter_self absent]
                  rfl
                rw [head]
                exact .inr (congrArg (queue :: ·) same)

end Remove

section GetAll

variable {surroundings : Surroundings} {transaction : QueueTransaction} {removal : String → Reading}

def bodyOf (message : QueuedMessage T) : Option (String × T) := message.body.map (message.id, ·)

/-- The messages that can be read. -/
def readable (messages : List (QueuedMessage T)) : List (String × T) := messages.filterMap bodyOf

/-- No message that can be read has one of some ids. -/
def Unreadable (messages : List (QueuedMessage T)) (removed : List String) : Prop :=
  ∀ message ∈ messages, message.id ∈ removed → message.body = none

theorem readable_filter {messages : List (QueuedMessage T)} {removed : List String} (unreadable : Unreadable messages removed) :
    readable (messages.filter fun message => message.id ∉ removed) = readable messages := by
  induction messages with
  | nil => rfl
  | cons message messages ih =>
      have rest := ih fun other member => unreadable other (List.mem_cons_of_mem _ member)
      unfold readable at rest ⊢
      by_cases inside : message.id ∈ removed
      · have nothing : bodyOf message = none := by rw [bodyOf, unreadable message List.mem_cons_self inside]; rfl
        rw [List.filter_cons_of_neg (by simpa using inside), List.filterMap_cons_none nothing, rest]
      · rw [List.filter_cons_of_pos (by simpa using inside), List.filterMap_cons, List.filterMap_cons, rest]

theorem addMessage_ok {messages result : List (String × T)} {id : String} {body : T}
    (added : addMessage messages id body = .ok result) : result = messages ++ [(id, body)] := by
  unfold addMessage at added
  split at added
  · cases added
  · exact (Except.ok.inj added).symm

variable {queues : List (MessageQueue T)}

theorem unreadable_cons {message : QueuedMessage T} {removed : List String} (distinct : (ids queues).Nodup)
    (member : message ∈ allOf queues) (corrupt : message.body = none) (unreadable : Unreadable (allOf queues) removed) :
    Unreadable (allOf queues) (message.id :: removed) := by
  intro other inside named
  rcases List.mem_cons.mp named with same | before
  · rw [List.inj_on_of_nodup_map distinct inside member same, corrupt]
  · exact unreadable other inside before

/-- What was removed so far cannot be read, and what is returned is what can be read. -/
structure Reads (queues : List (MessageQueue T)) (expected : List (String × T))
    (outcome : Except QueueException (List (String × T)) × List (MessageQueue T)) : Prop where
  state : ∃ removed, Unreadable (allOf queues) removed ∧ outcome.2 = without removed queues
  returns : ∀ result, outcome.1 = .ok result → result = expected

theorem reads_error {expected : List (String × T)} {removed : List String} (unreadable : Unreadable (allOf queues) removed)
    (exception : QueueException) : Reads queues expected (.error exception, without removed queues) :=
  ⟨⟨removed, unreadable, rfl⟩, fun _ same => by cases same⟩

theorem getMessages_reads (distinct : (ids queues).Nodup) {allMessages : List (QueuedMessage T)}
    (listed : ∀ message ∈ allMessages, message ∈ allOf queues) {removed : List String}
    (unreadable : Unreadable (allOf queues) removed) (messages : List (String × T)) :
    Reads queues (messages ++ readable allMessages) (getMessages transaction removal allMessages messages (without removed queues)) := by
  induction allMessages generalizing messages removed with
  | nil =>
      refine ⟨⟨removed, unreadable, rfl⟩, fun result same => ?_⟩
      rw [← Except.ok.inj same, readable, List.filterMap_nil, List.append_nil]
  | cons message allMessages ih =>
      have others : ∀ other ∈ allMessages, other ∈ allOf queues := fun other member => listed other (List.mem_cons_of_mem _ member)
      unfold getMessages getMessageBody
      cases body : message.body with
      | none =>
          have nothing : bodyOf message = none := by rw [bodyOf, body]; rfl
          have left : ∃ removed', Unreadable (allOf queues) removed' ∧
              (remove transaction removal message.id (without removed queues)).2 = without removed' queues := by
            rcases @removeFrom_state _ transaction removal _ (nodup_without distinct removed) message.id with same | same
            · exact ⟨removed, unreadable, same⟩
            · rw [without_without] at same
              exact ⟨_, unreadable_cons distinct (listed message List.mem_cons_self) body unreadable, same⟩
          obtain ⟨removed', unreadable', state⟩ := left
          rw [readable, List.filterMap_cons_none nothing]
          cases run : remove transaction removal message.id (without removed queues) with
          | mk outcome later =>
              rw [run] at state
              obtain rfl : later = without removed' queues := state
              cases outcome with
              | error exception =>
                  dsimp only
                  rw [Program.bind_of_error run]
                  exact reads_error unreadable' exception
              | ok _ =>
                  dsimp only
                  rw [Program.bind_of_ok run]
                  exact ih others unreadable' messages
      | some value =>
          have something : bodyOf message = some (message.id, value) := by rw [bodyOf, body]; rfl
          rw [readable, List.filterMap_cons_some something]
          dsimp only
          cases added : addMessage messages message.id value with
          | error exception => exact reads_error unreadable exception
          | ok result =>
              have rest := ih others unreadable result
              rw [addMessage_ok added, List.append_assoc] at rest
              rw [addMessage_ok added]
              exact rest

theorem getAllMessages_reads (removed : List String) (priority : Nat) :
    (∃ exception, getAllMessages surroundings priority (without removed queues) = (.error exception, without removed queues)) ∨
      getAllMessages surroundings priority (without removed queues) =
        (.ok ((queues[priority]?.elim [] MessageQueue.messages).filter fun message => message.id ∉ removed),
          without removed queues) := by
  have read : (without removed queues)[priority]? = queues[priority]?.map fun queue =>
      { queue with messages := queue.messages.filter fun message => message.id ∉ removed } := List.getElem?_map
  unfold getAllMessages
  rw [read]
  cases queues[priority]? with
  | none => exact .inr rfl
  | some queue =>
      dsimp only [Option.map_some]
      cases surroundings.listing queue.path with
      | some code => exact .inl ⟨_, rfl⟩
      | none => exact .inr rfl

theorem mem_allOf {priority : Nat} {message : QueuedMessage T}
    (member : message ∈ queues[priority]?.elim [] MessageQueue.messages) : message ∈ allOf queues := by
  cases found : queues[priority]? with
  | none =>
      rw [found] at member
      cases member
  | some queue =>
      rw [found] at member
      exact List.mem_flatMap.mpr ⟨queue, List.mem_of_getElem? found, member⟩

theorem getAllFrom_reads (distinct : (ids queues).Nodup) (priorities : List Nat) {removed : List String}
    (unreadable : Unreadable (allOf queues) removed) (messages : List (String × T)) :
    Reads queues (messages ++ priorities.flatMap fun priority => readable (queues[priority]?.elim [] MessageQueue.messages))
      (getAllFrom surroundings transaction removal priorities messages (without removed queues)) := by
  induction priorities generalizing messages removed with
  | nil =>
      refine ⟨⟨removed, unreadable, rfl⟩, fun result same => ?_⟩
      rw [← Except.ok.inj same, List.flatMap_nil, List.append_nil]
  | cons priority priorities ih =>
      unfold getAllFrom
      rw [List.flatMap_cons]
      rcases @getAllMessages_reads _ surroundings queues removed priority with ⟨exception, listed⟩ | listed
      · rw [Program.bind_of_error listed]
        exact reads_error unreadable exception
      · have kept : Unreadable (queues[priority]?.elim [] MessageQueue.messages) removed := fun message member =>
          unreadable message (mem_allOf member)
        have inner := @getMessages_reads _ transaction removal _ distinct
          ((queues[priority]?.elim [] MessageQueue.messages).filter fun message => message.id ∉ removed)
          (fun message member => mem_allOf (List.mem_of_mem_filter member)) _ unreadable messages
        rw [readable_filter kept] at inner
        rw [Program.bind_of_ok listed]
        obtain ⟨⟨removed', unreadable', state⟩, returns⟩ := inner
        cases run : getMessages transaction removal
            ((queues[priority]?.elim [] MessageQueue.messages).filter fun message => message.id ∉ removed) messages
            (without removed queues) with
        | mk outcome later =>
            rw [run] at state returns
            obtain rfl : later = without removed' queues := state
            cases outcome with
            | error exception =>
                rw [Program.bind_of_error run]
                exact reads_error unreadable' exception
            | ok result =>
                rw [Program.bind_of_ok run, ← List.append_assoc, ← returns result rfl]
                exact ih unreadable' result

theorem flatMap_range (queues : List (MessageQueue T)) :
    (List.range queues.length).flatMap (fun priority => readable (queues[priority]?.elim [] MessageQueue.messages)) =
      readable (allOf queues) := by
  have each : (List.range queues.length).map (fun priority => queues[priority]?.elim [] MessageQueue.messages) =
      queues.map MessageQueue.messages := by
    apply List.ext_getElem (by simp)
    intro i inside _
    have bound : i < queues.length := by simpa using inside
    simp [bound]
  rw [readable, allOf, List.filterMap_flatMap, ← List.flatMap_map, each, List.flatMap_map]
  rfl

/-- Whatever fails on the way, `GetAll` takes no message out of the queues that can be read. If it returns, it returns
all of these, in the order of the priorities. -/
theorem getAll_reads (surroundings : Surroundings) (transaction : QueueTransaction) (removal : String → Reading)
    (queues : List (MessageQueue T)) (distinct : (ids queues).Nodup) :
    (∃ removed, (∀ message ∈ allOf queues, message.id ∈ removed → message.body = none) ∧
      (getAll surroundings transaction removal queues).2 = without removed queues) ∧
    readable (allOf (getAll surroundings transaction removal queues).2) = readable (allOf queues) ∧
    ∀ result, (getAll surroundings transaction removal queues).1 = .ok result → result = readable (allOf queues) := by
  have nothing : without [] queues = queues := without_nil queues
  have run := @getAllFrom_reads _ surroundings transaction removal _ distinct (List.range queues.length) []
    (fun _ _ inside => by cases inside) []
  rw [nothing, List.nil_append, flatMap_range] at run
  obtain ⟨⟨removed, unreadable, state⟩, returns⟩ := run
  have same : (getAll surroundings transaction removal queues).2 = without removed queues := state
  refine ⟨⟨removed, unreadable, same⟩, ?_, returns⟩
  rw [same, allOf_without, readable_filter unreadable]

theorem getAll_reads_corrupt :
    readable (allOf (getAll .quiet .msmq (fun _ => .found) [⟨"q", [⟨"a", some 1⟩, ⟨"b", none⟩]⟩, ⟨"r", [⟨"c", some 2⟩]⟩]).2) =
      readable (allOf [⟨"q", [⟨"a", some 1⟩, ⟨"b", none⟩]⟩, ⟨"r", [⟨"c", some 2⟩]⟩]) :=
  (getAll_reads .quiet .msmq (fun _ => .found) [⟨"q", [⟨"a", some 1⟩, ⟨"b", none⟩]⟩, ⟨"r", [⟨"c", some 2⟩]⟩] (by decide)).2.1

end GetAll

end ServiceHost.DataExchange.MsmqPeek
