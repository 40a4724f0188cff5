import ServiceHost.DataExchange.MsmqPeekCore

/-!
When `Peek` gives what `Dequeue` would get. The ids are listed before the bodies are read, and the handler
around a reading takes the errors the wrong way round.
-/

namespace ServiceHost.DataExchange.MsmqPeek

open Library

variable {T : Type}

section Dequeue

variable (path : String) (maxNumberOfItems : Nat)

theorem dequeueFrom_quiet (messages : List (String × T)) (taken : List T) :
    dequeueFrom none path maxNumberOfItems (messages.map fun message => ⟨message.1, some message.2⟩) taken =
      (.ok (taken ++ (messages.take (maxNumberOfItems - taken.length)).map Prod.snd),
        (messages.drop (maxNumberOfItems - taken.length)).map fun message => ⟨message.1, some message.2⟩) := by
  induction messages generalizing taken with
  | nil =>
      rw [List.map_nil, dequeueFrom, List.take_nil, List.drop_nil, List.map_nil, List.map_nil, List.append_nil]
      exact ite_self _
  | cons message messages ih =>
      rw [List.map_cons, dequeueFrom]
      by_cases full : taken.length ≥ maxNumberOfItems
      · rw [if_pos full, Nat.sub_eq_zero_of_le full, List.take_zero, List.drop_zero, List.map_nil, List.append_nil]
        rfl
      · have more : maxNumberOfItems - taken.length = maxNumberOfItems - (taken ++ [message.2]).length + 1 := by
          rw [List.length_append, List.length_singleton]
          omega
        rw [if_neg full, more, List.take_succ_cons, List.drop_succ_cons]
        have rest := ih (taken ++ [message.2])
        rw [List.append_assoc] at rest
        exact rest

theorem dequeueQueues_quiet (queues : List (ReadableQueue T)) (taken : List T) :
    (dequeueQueues .quiet maxNumberOfItems (queues.map ReadableQueue.queue) taken).1 =
      .ok (taken ++ ((queues.flatMap ReadableQueue.messages).take (maxNumberOfItems - taken.length)).map Prod.snd) := by
  induction queues generalizing taken with
  | nil =>
      rw [List.map_nil, dequeueQueues, List.flatMap_nil, List.take_nil, List.map_nil, List.append_nil]
  | cons queue queues ih =>
      rw [List.map_cons, dequeueQueues]
      by_cases full : taken.length ≥ maxNumberOfItems
      · rw [if_pos full, Nat.sub_eq_zero_of_le full, List.take_zero, List.map_nil, List.append_nil]
      · have first : dequeueFrom (Surroundings.quiet.receiving queue.queue.path) queue.queue.path maxNumberOfItems
            queue.queue.messages taken =
              (.ok (taken ++ (queue.messages.take (maxNumberOfItems - taken.length)).map Prod.snd),
                (queue.messages.drop (maxNumberOfItems - taken.length)).map fun message =>
                  ⟨message.1, some message.2⟩) :=
          dequeueFrom_quiet queue.path maxNumberOfItems queue.messages taken
        have left : maxNumberOfItems -
            (taken ++ (queue.messages.take (maxNumberOfItems - taken.length)).map Prod.snd).length =
              maxNumberOfItems - taken.length - queue.messages.length := by
          rw [List.length_append, List.length_map, List.length_take]
          omega
        have rest := ih (taken ++ (queue.messages.take (maxNumberOfItems - taken.length)).map Prod.snd)
        rw [left, List.append_assoc, ← List.map_append, ← List.take_append] at rest
        rw [if_neg full, List.flatMap_cons, first]
        exact rest

end Dequeue

section Answers

inductive Answer (T : Type)
  | message (messageId : String) (body : T)
  | missing
  | notFound (path : String)
  | failed (path : String) (code : MessageQueueErrorCode)
  | notListed (path : String) (code : MessageQueueErrorCode)

def Answer.IsMessage : Answer T → Prop
  | message .. => True
  | _ => False

variable (surroundings : Surroundings)

def answerOf (path : String) (message : String × T) : Answer T :=
  match surroundings.reading message.1 with
  | .found => .message message.1 message.2
  | .missing => .missing
  | .failed code => if code = .messageNotFound then .notFound path else .failed path code

def answersOf (queue : ReadableQueue T) : List (Answer T) :=
  match surroundings.listing queue.path with
  | some code => [.notListed queue.path code]
  | none => queue.messages.map (answerOf surroundings queue.path)

def seen : Nat → List (Answer T) → Except QueueException (List (String × T))
  | 0, _ => .ok []
  | _ + 1, [] => .ok []
  | count + 1, .message messageId body :: answers => (seen count answers).map ((messageId, body) :: ·)
  | count + 1, .missing :: answers => seen (count + 1) answers
  | count + 1, .notFound _ :: answers => seen (count + 1) answers
  | _ + 1, .failed path code :: _ => .error (.operationFailed .peekById path code)
  | _ + 1, .notListed path code :: _ => .error (.operationFailed .listing path code)

def told (maxNumberOfItems : Nat) : List (Answer T) → List (String × T) → Except QueueException (List (String × T))
  | [], messages => .ok messages
  | answer :: answers, messages =>
      if messages.length ≥ maxNumberOfItems then .ok messages
      else
        match answer with
        | .message messageId body => told maxNumberOfItems answers (messages ++ [(messageId, body)])
        | .missing => .error .invalidOperation
        | .notFound path => .error (.operationFailed .peekById path .messageNotFound)
        | .failed _ _ => told maxNumberOfItems answers messages
        | .notListed _ code => .error (.messageQueue code)

variable {surroundings} {maxNumberOfItems : Nat}

theorem told_full {messages : List (String × T)} (full : messages.length ≥ maxNumberOfItems)
    (answers : List (Answer T)) : told maxNumberOfItems answers messages = .ok messages := by
  cases answers with
  | nil => rfl
  | cons answer answers => cases answer <;> rw [told, if_pos full]

theorem told_append (first second : List (Answer T)) (messages : List (String × T)) :
    told maxNumberOfItems (first ++ second) messages =
      told maxNumberOfItems first messages >>= told maxNumberOfItems second := by
  induction first generalizing messages with
  | nil => rfl
  | cons answer first ih =>
      by_cases full : messages.length ≥ maxNumberOfItems
      · rw [told_full full, told_full full, ok_bind, told_full full]
      · rw [List.cons_append]
        cases answer with
        | message messageId body =>
            simp only [told, if_neg full]
            exact ih _
        | missing =>
            simp only [told, if_neg full]
            rfl
        | notFound path =>
            simp only [told, if_neg full]
            rfl
        | failed path code =>
            simp only [told, if_neg full]
            exact ih _
        | notListed path code =>
            simp only [told, if_neg full]
            rfl

end Answers

section Peek

variable {surroundings : Surroundings} {maxNumberOfItems : Nat}

theorem find?_queued {messages : List (String × T)} {message : String × T}
    (distinct : (messages.map Prod.fst).Nodup) (member : message ∈ messages) :
    ((messages.map fun message => (⟨message.1, some message.2⟩ : QueuedMessage T)).find?
      fun queued => queued.id = message.1) = some ⟨message.1, some message.2⟩ := by
  induction messages with
  | nil => cases member
  | cons first messages ih =>
      obtain ⟨notLater, laterDistinct⟩ := List.nodup_cons.mp distinct
      rw [List.map_cons]
      rcases List.mem_cons.mp member with rfl | later
      · exact List.find?_cons_of_pos (decide_eq_true rfl)
      · have other : first.1 ≠ message.1 := fun same => notLater (same ▸ List.mem_map_of_mem later)
        rw [List.find?_cons_of_neg (by simpa using other)]
        exact ih laterDistinct later

theorem peekIds_eq (queue : ReadableQueue T) (distinct : (queue.messages.map Prod.fst).Nodup)
    (listed : List (String × T)) (sublist : listed.Sublist queue.messages) (messages : List (String × T))
    (fresh : ∀ message ∈ listed, message.1 ∉ messages.map Prod.fst) :
    peekIds surroundings maxNumberOfItems queue.queue (listed.map Prod.fst) messages =
      told maxNumberOfItems (listed.map (answerOf surroundings queue.path)) messages := by
  induction listed generalizing messages with
  | nil => rfl
  | cons message listed ih =>
      have listedDistinct := distinct.sublist (sublist.map Prod.fst)
      obtain ⟨notLater, -⟩ := List.nodup_cons.mp listedDistinct
      have rest := (List.sublist_cons_self message listed).trans sublist
      have laterFresh : ∀ later ∈ listed, later.1 ∉ messages.map Prod.fst := fun later member =>
        fresh later (List.mem_cons_of_mem _ member)
      rw [List.map_cons, List.map_cons, peekIds]
      by_cases full : messages.length ≥ maxNumberOfItems
      · rw [if_pos full, told_full full]
      · rw [if_neg full]
        unfold peekById answerOf
        cases surroundings.reading message.1 with
        | found =>
            rw [told, if_neg full]
            have here : queue.queue.messages.find? (fun queued => queued.id = message.1) =
                some ⟨message.1, some message.2⟩ :=
              find?_queued distinct (sublist.subset List.mem_cons_self)
            have added : addMessage messages message.1 message.2 = .ok (messages ++ [message]) :=
              if_neg (fresh message List.mem_cons_self)
            simp only [here, getMessageBody, ok_bind, added]
            apply ih rest
            intro later member inside
            rw [List.map_append, List.mem_append] at inside
            rcases inside with earlier | same
            · exact laterFresh later member earlier
            · rw [List.map_singleton, List.mem_singleton] at same
              exact notLater (same ▸ List.mem_map_of_mem member)
        | missing =>
            rw [told, if_neg full]
            rfl
        | failed code =>
            simp only [error_bind]
            by_cases notFound : code = .messageNotFound
            · rw [if_pos notFound, if_pos notFound, notFound, told, if_neg full]
              rfl
            · rw [if_neg notFound, if_neg notFound, told, if_neg full]
              exact ih rest messages laterFresh

theorem told_subset {answers : List (Answer T)} {messages result : List (String × T)}
    (returns : told maxNumberOfItems answers messages = .ok result) :
    ∀ message ∈ result, message ∈ messages ∨ Answer.message message.1 message.2 ∈ answers := by
  induction answers generalizing messages with
  | nil =>
      cases returns
      exact fun message member => Or.inl member
  | cons answer answers ih =>
      by_cases full : messages.length ≥ maxNumberOfItems
      · rw [told_full full] at returns
        cases returns
        exact fun message member => Or.inl member
      · intro message member
        cases answer with
        | message messageId body =>
            simp only [told, if_neg full] at returns
            rcases ih returns message member with earlier | later
            · rcases List.mem_append.mp earlier with before | same
              · exact Or.inl before
              · cases List.mem_singleton.mp same
                exact Or.inr List.mem_cons_self
            · exact Or.inr (List.mem_cons_of_mem _ later)
        | missing => simp only [told, if_neg full, reduceCtorEq] at returns
        | notFound path => simp only [told, if_neg full, reduceCtorEq] at returns
        | failed path code =>
            simp only [told, if_neg full] at returns
            exact (ih returns message member).imp id (List.mem_cons_of_mem _)
        | notListed path code => simp only [told, if_neg full, reduceCtorEq] at returns

theorem mem_answersOf {queue : ReadableQueue T} {message : String × T}
    (member : Answer.message message.1 message.2 ∈ answersOf surroundings queue) : message ∈ queue.messages := by
  unfold answersOf at member
  cases listing : surroundings.listing queue.path with
  | some code =>
      rw [listing] at member
      cases List.mem_singleton.mp member
  | none =>
      rw [listing] at member
      obtain ⟨stored, here, same⟩ := List.mem_map.mp member
      unfold answerOf at same
      split at same
      · obtain ⟨sameId, sameBody⟩ := Answer.message.inj same
        exact Prod.ext sameId sameBody ▸ here
      · cases same
      · split at same <;> cases same

theorem peekQueues_eq (queues : List (ReadableQueue T)) (messages : List (String × T))
    (distinct : ((queues.flatMap ReadableQueue.messages).map Prod.fst).Nodup)
    (fresh : ∀ message ∈ queues.flatMap ReadableQueue.messages, message.1 ∉ messages.map Prod.fst) :
    peekQueues surroundings maxNumberOfItems (queues.map ReadableQueue.queue) messages =
      told maxNumberOfItems (queues.flatMap (answersOf surroundings)) messages := by
  induction queues generalizing messages with
  | nil => rfl
  | cons queue queues ih =>
      rw [List.flatMap_cons, List.map_append] at distinct
      obtain ⟨queueDistinct, laterDistinct, apart⟩ := List.nodup_append.mp distinct
      rw [List.map_cons, List.flatMap_cons, told_append, peekQueues]
      by_cases full : messages.length ≥ maxNumberOfItems
      · rw [if_pos full, told_full full, ok_bind, told_full full]
      · rw [if_neg full]
        have queueFresh : ∀ message ∈ queue.messages, message.1 ∉ messages.map Prod.fst := fun message member =>
          fresh message (List.mem_append_left _ member)
        have peeked : (getMessageIds surroundings queue.queue >>= fun messageIds =>
            peekIds surroundings maxNumberOfItems queue.queue messageIds messages) =
              told maxNumberOfItems (answersOf surroundings queue) messages := by
          unfold getMessageIds answersOf
          have path : queue.queue.path = queue.path := rfl
          rw [path]
          cases surroundings.listing queue.path with
          | some code => simp only [told, if_neg full, error_bind]
          | none =>
              have ids : queue.queue.messages.map QueuedMessage.id = queue.messages.map Prod.fst := List.map_map ..
              simp only [ok_bind, ids]
              exact peekIds_eq queue queueDistinct queue.messages (List.Sublist.refl _) messages queueFresh
        rw [← peeked]
        cases listed : getMessageIds surroundings queue.queue with
        | error exception => rfl
        | ok messageIds =>
            rw [listed] at peeked
            simp only [ok_bind] at peeked ⊢
            cases taken : peekIds surroundings maxNumberOfItems queue.queue messageIds messages with
            | error exception => rfl
            | ok result =>
                rw [taken] at peeked
                simp only [ok_bind]
                apply ih result laterDistinct
                intro message member inside
                obtain ⟨earlier, known, same⟩ := List.mem_map.mp inside
                rcases told_subset peeked.symm earlier known with before | here
                · exact fresh message (List.mem_append_right _ member) (same ▸ List.mem_map_of_mem before)
                · exact apart _ (List.mem_map_of_mem (mem_answersOf here)) _ (List.mem_map_of_mem member) same

end Peek

section Sees

variable {maxNumberOfItems : Nat}

theorem told_failed {answers : List (Answer T)} {messages : List (String × T)} {call : FailedCall} {path : String}
    {code : MessageQueueErrorCode}
    (fails : told maxNumberOfItems answers messages = .error (.operationFailed call path code)) :
    code = .messageNotFound := by
  induction answers generalizing messages with
  | nil => cases fails
  | cons answer answers ih =>
      by_cases full : messages.length ≥ maxNumberOfItems
      · rw [told_full full] at fails
        cases fails
      · cases answer with
        | message messageId body =>
            simp only [told, if_neg full] at fails
            exact ih fails
        | missing => simp only [told, if_neg full, Except.error.injEq, reduceCtorEq] at fails
        | notFound path =>
            simp only [told, if_neg full] at fails
            cases fails
            rfl
        | failed path code =>
            simp only [told, if_neg full] at fails
            exact ih fails
        | notListed path code => simp only [told, if_neg full, Except.error.injEq, reduceCtorEq] at fails

def Answer.Coded : Answer T → Prop
  | failed _ code => code ≠ .messageNotFound
  | _ => True

theorem answersOf_coded {surroundings : Surroundings} {queue : ReadableQueue T} :
    ∀ answer ∈ answersOf surroundings queue, answer.Coded := by
  intro answer member
  unfold answersOf at member
  split at member
  · cases List.mem_singleton.mp member
    trivial
  · obtain ⟨message, -, rfl⟩ := List.mem_map.mp member
    unfold answerOf
    split
    · trivial
    · trivial
    · split
      · trivial
      · assumption

theorem seen_error {answers : List (Answer T)} (coded : ∀ answer ∈ answers, answer.Coded) {count : Nat}
    {exception : QueueException} (fails : seen count answers = .error exception) :
    ∃ path code, exception = .operationFailed .listing path code ∨
      exception = .operationFailed .peekById path code ∧ code ≠ .messageNotFound := by
  induction answers generalizing count with
  | nil => cases count <;> cases fails
  | cons answer answers ih =>
      have later : ∀ answer ∈ answers, answer.Coded := fun answer member => coded answer (List.mem_cons_of_mem _ member)
      cases count with
      | zero => cases fails
      | succ count =>
          cases answer with
          | message messageId body =>
              rw [seen] at fails
              cases rest : seen count answers with
              | ok messages =>
                  rw [rest] at fails
                  cases fails
              | error other =>
                  rw [rest] at fails
                  cases fails
                  exact ih later rest
          | missing => exact ih later fails
          | notFound path => exact ih later fails
          | failed path code =>
              cases fails
              exact ⟨path, code, Or.inr ⟨rfl, coded _ List.mem_cons_self⟩⟩
          | notListed path code =>
              cases fails
              exact ⟨path, code, Or.inl rfl⟩

theorem map_append_error_iff {outcome : Except QueueException (List (String × T))} {messages : List (String × T)}
    {exception : QueueException} : .error exception = outcome.map (messages ++ ·) ↔ outcome = .error exception := by
  cases outcome with
  | ok found => exact iff_of_false (fun same => nomatch same) fun same => nomatch same
  | error other => exact ⟨fun same => by cases same; rfl, fun same => by cases same; rfl⟩

theorem told_eq_seen_iff {answers : List (Answer T)} (coded : ∀ answer ∈ answers, answer.Coded)
    (messages : List (String × T)) :
    told maxNumberOfItems answers messages =
        (seen (maxNumberOfItems - messages.length) answers).map (messages ++ ·) ↔
      ∀ answer ∈ answers.take (maxNumberOfItems - messages.length), answer.IsMessage := by
  induction answers generalizing messages with
  | nil =>
      have empty : seen (maxNumberOfItems - messages.length) ([] : List (Answer T)) = .ok [] := by
        cases maxNumberOfItems - messages.length <;> rfl
      rw [empty, List.take_nil]
      exact iff_of_true (congrArg Except.ok (List.append_nil _).symm) fun _ member => nomatch member
  | cons answer answers ih =>
      have later : ∀ answer ∈ answers, answer.Coded := fun answer member => coded answer (List.mem_cons_of_mem _ member)
      by_cases full : messages.length ≥ maxNumberOfItems
      · rw [told_full full, Nat.sub_eq_zero_of_le full]
        exact iff_of_true (congrArg Except.ok (List.append_nil _).symm) fun _ member => nomatch member
      · obtain ⟨count, more⟩ : ∃ count, maxNumberOfItems - messages.length = count + 1 :=
          ⟨maxNumberOfItems - messages.length - 1, by omega⟩
        rw [more, List.take_succ_cons, List.forall_mem_cons]
        cases answer with
        | message messageId body =>
            have length : maxNumberOfItems - (messages ++ [(messageId, body)]).length = count := by
              rw [List.length_append, List.length_singleton]
              omega
            have rest := ih later (messages ++ [(messageId, body)])
            rw [length] at rest
            have composed : ((seen count answers).map ((messageId, body) :: ·)).map (messages ++ ·) =
                (seen count answers).map (messages ++ [(messageId, body)] ++ ·) := by
              cases seen count answers with
              | error exception => rfl
              | ok found => exact congrArg Except.ok (List.append_cons ..)
            simp only [told, if_neg full, seen]
            rw [composed, rest]
            exact (and_iff_right trivial).symm
        | missing =>
            simp only [told, if_neg full, map_append_error_iff]
            refine iff_of_false (fun fails => ?_) fun all => all.1
            obtain ⟨path, code, wrong | ⟨wrong, -⟩⟩ := seen_error coded fails <;> cases wrong
        | notFound path =>
            simp only [told, if_neg full, map_append_error_iff]
            refine iff_of_false (fun fails => ?_) fun all => all.1
            obtain ⟨path, code, wrong | ⟨wrong, other⟩⟩ := seen_error coded fails
            · cases wrong
            · cases wrong
              exact other rfl
        | failed path code =>
            simp only [told, if_neg full, seen]
            refine iff_of_false (fun fails => ?_) fun all => all.1
            exact coded _ List.mem_cons_self (told_failed fails)
        | notListed path code =>
            simp only [told, if_neg full, map_append_error_iff, seen]
            exact iff_of_false (fun fails => by cases fails) fun all => all.1

end Sees

section Content

variable (content : Content T) (surroundings : Surroundings) (maxNumberOfItems : Nat)

def Content.answers : List (Answer T) := content.queues.flatMap (answersOf surroundings)

theorem peek_eq : peek surroundings maxNumberOfItems content.messageQueues =
    (told maxNumberOfItems (content.answers surroundings) [], content.messageQueues) := by
  have run := @peekQueues_eq T surroundings maxNumberOfItems content.queues [] content.distinct
    fun _ _ member => nomatch member
  exact congrArg (·, content.messageQueues) run

theorem Content.answers_quiet : content.answers .quiet = content.messages.map fun message => .message message.1 message.2 := by
  unfold Content.answers Content.messages
  rw [List.map_flatMap]
  rfl

theorem seen_messages (count : Nat) (messages : List (String × T)) :
    seen count (messages.map fun message => .message message.1 message.2) = .ok (messages.take count) := by
  induction messages generalizing count with
  | nil => cases count <;> rfl
  | cons message messages ih =>
      cases count with
      | zero => rfl
      | succ count =>
          rw [List.map_cons, seen, ih]
          rfl

structure PeekSees : Prop where
  undisturbed : peek .quiet maxNumberOfItems content.messageQueues =
    (.ok (content.messages.take maxNumberOfItems), content.messageQueues)
  sameAsDequeue : (dequeue .quiet maxNumberOfItems content.messageQueues).1 =
    .ok ((content.messages.take maxNumberOfItems).map Prod.snd)
  disturbed : peek surroundings maxNumberOfItems content.messageQueues =
    (seen maxNumberOfItems (content.answers surroundings), content.messageQueues)

theorem peek_seen_iff : peek surroundings maxNumberOfItems content.messageQueues =
      (seen maxNumberOfItems (content.answers surroundings), content.messageQueues) ↔
    ∀ answer ∈ (content.answers surroundings).take maxNumberOfItems, answer.IsMessage := by
  have coded : ∀ answer ∈ content.answers surroundings, answer.Coded := by
    intro answer member
    obtain ⟨queue, -, inside⟩ := List.mem_flatMap.mp member
    exact answersOf_coded answer inside
  have compared := @told_eq_seen_iff T maxNumberOfItems _ coded []
  have plain : (seen maxNumberOfItems (content.answers surroundings)).map (([] : List (String × T)) ++ ·) =
      seen maxNumberOfItems (content.answers surroundings) := by
    cases seen maxNumberOfItems (content.answers surroundings) <;> rfl
  rw [List.length_nil, Nat.sub_zero, plain] at compared
  rw [peek_eq, Prod.mk.injEq, and_iff_left rfl]
  exact compared

/-- Peeking sees what it should exactly if nothing disturbs it before it has its messages: no listing fails,
and no listed message is removed or cannot be read. -/
theorem peek_sees_iff : PeekSees content surroundings maxNumberOfItems ↔
    ∀ answer ∈ (content.answers surroundings).take maxNumberOfItems, answer.IsMessage := by
  refine ⟨fun sees => (peek_seen_iff ..).mp sees.disturbed, fun messages => ⟨?_, ?_, (peek_seen_iff ..).mpr messages⟩⟩
  · have quiet : ∀ answer ∈ (content.answers .quiet).take maxNumberOfItems, answer.IsMessage := by
      intro answer member
      rw [content.answers_quiet] at member
      obtain ⟨message, -, rfl⟩ := List.mem_map.mp (List.mem_of_mem_take member)
      trivial
    rw [(peek_seen_iff ..).mpr quiet, content.answers_quiet, seen_messages]
  · have run := dequeueQueues_quiet maxNumberOfItems content.queues []
    rw [List.nil_append] at run
    exact run

end Content

def sampleContent : Content Nat := ⟨[⟨"import", [("1", 10), ("2", 20)]⟩], by decide⟩

def sampleSurroundings : Surroundings where
  listing _ := none
  receiving _ := none
  reading messageId := if messageId = "1" then .missing else .found

/-- The peek fails in place of returning the second message. -/
theorem removed_message_fails_peek : ¬PeekSees sampleContent sampleSurroundings 2 := by
  intro sees
  have disturbed := congrArg Prod.fst sees.disturbed
  revert disturbed
  decide

end ServiceHost.DataExchange.MsmqPeek
