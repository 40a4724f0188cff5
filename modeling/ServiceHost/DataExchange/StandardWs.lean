import ServiceHost.DataExchange.StandardWsCore
import ServiceHost.Library.Runs

/-!
Acknowledgements of exports under any interleaving of calls. A call only touches the
message that it acknowledges, whatever happens. Its answer is the truth as long as the
message is still there when the call looks for it, and what follows the commit returns.
-/

namespace ServiceHost.DataExchange.StandardWs

open Library

def PullWorld.Has (world : PullWorld) (place : EntryPlace) : Prop := ∃ entry ∈ world.entries, entry.place = place

instance (world : PullWorld) (place : EntryPlace) : Decidable (world.Has place) := by
  unfold PullWorld.Has
  infer_instance

inductive PullWorld.Moves (world : PullWorld) (call : Nat) (target : Nat → Prop) : PullWorld → Prop
  | keeps {later : PullWorld} (same : later.entries = world.entries) : Moves world call target later
  | receives {later : PullWorld} {internalId : Nat} {entry : QueueEntry} (aimed : target internalId)
      (found : world.entries[internalId]? = some entry) (queued : entry.place = .queued)
      (set : later.entries = world.entries.set internalId { entry with place := .received call }) :
      Moves world call target later
  | settles {later : PullWorld} {place : EntryPlace} (done : place = .queued ∨ place = .removed call)
      (mapped : later.entries = (world.settle call place).entries) : Moves world call target later

section Moves

variable {world later : PullWorld} {call : Nat} {target : Nat → Prop}

theorem PullWorld.Moves.entry (moves : world.Moves call target later) {internalId : Nat} {entry : QueueEntry}
    (found : world.entries[internalId]? = some entry) :
    ∃ place, later.entries[internalId]? = some { entry with place } := by
  cases moves with
  | keeps same => exact ⟨entry.place, by rw [same, found]⟩
  | @receives received moved aimed there queued set =>
      rw [set, List.getElem?_set]
      by_cases same : received = internalId
      · subst same
        rw [there] at found
        cases found
        have inside := (List.getElem?_eq_some_iff.mp there).1
        exact ⟨.received call, by simp [inside]⟩
      · exact ⟨entry.place, by simp [same, found]⟩
  | @settles place done mapped =>
      rw [mapped]
      by_cases received : entry.place = .received call
      · exact ⟨place, by simp [PullWorld.settle, found, received]⟩
      · exact ⟨entry.place, by simp [PullWorld.settle, found, received]⟩

theorem PullWorld.Moves.back (moves : world.Moves call target later) {internalId : Nat} {entry : QueueEntry}
    (found : later.entries[internalId]? = some entry) :
    ∃ before, world.entries[internalId]? = some before ∧ before.priority = entry.priority ∧
      before.item = entry.item ∧
      (before.place = entry.place ∨
        before.place = .queued ∧ entry.place = .received call ∧ target internalId ∨
        before.place = .received call ∧ (entry.place = .queued ∨ entry.place = .removed call)) := by
  cases moves with
  | keeps same => exact ⟨entry, by rw [← same, found], rfl, rfl, Or.inl rfl⟩
  | @receives received moved aimed there queued set =>
      rw [set, List.getElem?_set] at found
      by_cases same : received = internalId
      · subst same
        have inside := (List.getElem?_eq_some_iff.mp there).1
        simp only [↓reduceIte, inside, Option.some.injEq] at found
        subst found
        exact ⟨moved, there, rfl, rfl, Or.inr (Or.inl ⟨queued, rfl, aimed⟩)⟩
      · simp only [same, ↓reduceIte] at found
        exact ⟨entry, found, rfl, rfl, Or.inl rfl⟩
  | @settles place done mapped =>
      simp only [mapped, PullWorld.settle, List.getElem?_map, Option.map_eq_some_iff] at found
      obtain ⟨before, there, moved⟩ := found
      refine ⟨before, there, ?_⟩
      split at moved
      · rename_i received
        subst moved
        exact ⟨rfl, rfl, Or.inr (Or.inr ⟨received, done⟩)⟩
      · subst moved
        exact ⟨rfl, rfl, Or.inl rfl⟩

theorem PullWorld.Moves.has_other (moves : world.Moves call target later) {place : EntryPlace}
    (notQueued : place ≠ .queued) (notReceived : place ≠ .received call) (notRemoved : place ≠ .removed call) :
    later.Has place ↔ world.Has place := by
  constructor
  · rintro ⟨entry, member, at_⟩
    obtain ⟨internalId, found⟩ := List.mem_iff_getElem?.mp member
    obtain ⟨before, there, _, _, same | ⟨_, received, _⟩ | ⟨_, queued | removed⟩⟩ := moves.back found
    · exact ⟨before, List.mem_of_getElem? there, same.trans at_⟩
    · exact absurd (at_.symm.trans received) notReceived
    · exact absurd (at_.symm.trans queued) notQueued
    · exact absurd (at_.symm.trans removed) notRemoved
  · rintro ⟨entry, member, at_⟩
    obtain ⟨internalId, found⟩ := List.mem_iff_getElem?.mp member
    obtain ⟨after, there⟩ := moves.entry found
    obtain ⟨before, found', _, _, same | ⟨queued, _, _⟩ | ⟨received, _⟩⟩ := moves.back there
    · rw [found] at found'
      cases found'
      exact ⟨_, List.mem_of_getElem? there, same.symm.trans at_⟩
    · rw [found] at found'
      cases found'
      exact absurd (at_.symm.trans queued) notQueued
    · rw [found] at found'
      cases found'
      exact absurd (at_.symm.trans received) notReceived

end Moves

section Places

variable (world : PullWorld) (call : Nat)

theorem has_settled (place : EntryPlace) : (world.settle call place).Has place ↔
    world.Has place ∨ world.Has (.received call) := by
  constructor
  · rintro ⟨entry, member, at_⟩
    simp only [PullWorld.settle, List.mem_map] at member
    obtain ⟨before, there, rfl⟩ := member
    split at at_
    · rename_i received
      exact Or.inr ⟨before, there, received⟩
    · exact Or.inl ⟨before, there, at_⟩
  · rintro (⟨entry, member, at_⟩ | ⟨entry, member, received⟩)
    · refine ⟨_, List.mem_map.mpr ⟨entry, member, rfl⟩, ?_⟩
      split
      · rfl
      · exact at_
    · exact ⟨_, List.mem_map.mpr ⟨entry, member, rfl⟩, by simp [received]⟩

theorem has_removed_queued : (world.settle call .queued).Has (.removed call) ↔ world.Has (.removed call) := by
  constructor
  · rintro ⟨entry, member, at_⟩
    simp only [PullWorld.settle, List.mem_map] at member
    obtain ⟨before, there, rfl⟩ := member
    split at at_
    · contradiction
    · exact ⟨before, there, at_⟩
  · rintro ⟨entry, member, at_⟩
    exact ⟨_, List.mem_map.mpr ⟨entry, member, rfl⟩, by simp [at_]⟩

end Places

section Steps

variable {world later : PullWorld} {call : Nat} {kind : TransactionKind} {failure : Option SystemException}

theorem peekForPriority_some {priority : DataExchangeQueuePriority} {internalId : Nat} {item : QueueItem}
    (peeked : world.peekForPriority priority = some (internalId, item)) :
    ∃ entry, world.entries[internalId]? = some entry ∧ entry.item = item := by
  simp only [PullWorld.peekForPriority, Option.bind_eq_bind, Option.bind_eq_some_iff, Option.pure_def,
    Option.some.injEq, Prod.mk.injEq] at peeked
  obtain ⟨_, _, entry, found, rfl, rfl⟩ := peeked
  exact ⟨entry, found, rfl⟩

theorem receiveById_ok {internalId : Nat} {priority : DataExchangeQueuePriority}
    (ran : world.receiveById call internalId priority failure = .ok later) :
    ∃ entry, world.entries[internalId]? = some entry ∧ entry.place = .queued ∧
      later = { world with entries := world.entries.set internalId { entry with place := .received call } } := by
  unfold PullWorld.receiveById at ran
  split at ran
  · contradiction
  · rename_i entry found
    split at ran
    · rename_i there
      cases ran
      exact ⟨entry, found, there.2, rfl⟩
    · contradiction
  · contradiction

theorem commit_ok {status : TransactionStatus} (ran : world.commit kind call failure = .ok (status, later)) :
    failure = none ∧ (status = .committed ∧ later = world.settle call (.removed call) ∨
      status = .complete ∧ later = world) := by
  unfold PullWorld.commit at ran
  split at ran
  · contradiction
  · cases ran
    exact ⟨rfl, Or.inl ⟨rfl, rfl⟩⟩
  · cases ran
    exact ⟨rfl, Or.inr ⟨rfl, rfl⟩⟩

theorem dispose_moves (target : Nat → Prop) (status : TransactionStatus) :
    world.Moves call target (world.dispose call status failure).2 := by
  unfold PullWorld.dispose
  split
  · exact .settles (Or.inl rfl) rfl
  · exact .settles (Or.inr rfl) rfl
  · exact .settles (Or.inl rfl) rfl
  · exact .keeps rfl

theorem dispose_calls (status : TransactionStatus) : (world.dispose call status failure).2.calls = world.calls := by
  unfold PullWorld.dispose
  split <;> rfl

def AckPhase.target : AckPhase → Nat → Prop
  | .remove internalId _ _, id => id = internalId
  | _, _ => False

theorem ackStep_moves (externalReference : Option String) (phase : AckPhase) :
    world.Moves call phase.target (ackStep kind call failure externalReference world phase).2 ∧
      (ackStep kind call failure externalReference world phase).2.calls = world.calls := by
  cases phase with
  | peek priorities =>
      cases priorities with
      | nil => exact ⟨.keeps rfl, rfl⟩
      | cons priority priorities =>
          simp only [ackStep]
          split
          · exact ⟨.keeps rfl, rfl⟩
          · exact ⟨.keeps rfl, rfl⟩
          · exact ⟨.keeps rfl, rfl⟩
          · split <;> exact ⟨.keeps rfl, rfl⟩
  | begin_ internalId message => cases failure <;> exact ⟨.keeps rfl, rfl⟩
  | remove internalId message priorities =>
      cases priorities with
      | nil => exact ⟨.keeps rfl, rfl⟩
      | cons priority priorities =>
          simp only [ackStep]
          split
          · rename_i ran
            obtain ⟨entry, found, queued, rfl⟩ := receiveById_ok ran
            exact ⟨.receives rfl found queued rfl, rfl⟩
          · exact ⟨.keeps rfl, rfl⟩
          · exact ⟨.keeps rfl, rfl⟩
  | commit message =>
      simp only [ackStep]
      split
      · rename_i ran
        obtain ⟨_, ⟨_, rfl⟩ | ⟨_, rfl⟩⟩ := commit_ok ran
        · exact ⟨.settles (Or.inr rfl) rfl, rfl⟩
        · exact ⟨.keeps rfl, rfl⟩
      · exact ⟨.keeps rfl, rfl⟩
  | deleteMessageData message status =>
      simp only [ackStep]
      split <;> exact ⟨.keeps rfl, rfl⟩
  | setStatus status => exact ⟨.keeps rfl, rfl⟩
  | dispose status requestOk => exact ⟨dispose_moves _ status, dispose_calls status⟩
  | answered requestOk => exact ⟨.keeps rfl, rfl⟩

def GetPhase.target : GetPhase → Nat → Prop
  | .remove internalId _, id => id = internalId
  | _, _ => False

theorem getStep_moves (phase : GetPhase) :
    world.Moves call phase.target (getStep kind call failure world phase).2 ∧
      (getStep kind call failure world phase).2.calls = world.calls := by
  cases phase with
  | wait => cases failure <;> exact ⟨.keeps rfl, rfl⟩
  | peek priorities =>
      cases priorities with
      | nil => exact ⟨.keeps rfl, rfl⟩
      | cons priority priorities =>
          simp only [getStep]
          split <;> exact ⟨.keeps rfl, rfl⟩
  | getMessageData internalId message =>
      simp only [getStep]
      split <;> exact ⟨.keeps rfl, rfl⟩
  | getExportObject message =>
      simp only [getStep]
      split <;> exact ⟨.keeps rfl, rfl⟩
  | begin_ internalId => cases failure <;> exact ⟨.keeps rfl, rfl⟩
  | remove internalId priorities =>
      cases priorities with
      | nil => exact ⟨.keeps rfl, rfl⟩
      | cons priority priorities =>
          simp only [getStep]
          split
          · rename_i ran
            obtain ⟨entry, found, queued, rfl⟩ := receiveById_ok ran
            exact ⟨.receives rfl found queued rfl, rfl⟩
          · exact ⟨.keeps rfl, rfl⟩
          · exact ⟨.keeps rfl, rfl⟩
  | commit =>
      simp only [getStep]
      split
      · rename_i ran
        obtain ⟨_, ⟨_, rfl⟩ | ⟨_, rfl⟩⟩ := commit_ok ran
        · exact ⟨.settles (Or.inr rfl) rfl, rfl⟩
        · exact ⟨.keeps rfl, rfl⟩
      · exact ⟨.keeps rfl, rfl⟩
  | dispose status raised =>
      have moves := @dispose_moves world call failure (GetPhase.dispose status raised).target status
      have calls := @dispose_calls world call failure status
      simp only [getStep]
      split
      · rename_i disposed
        rw [disposed] at moves calls
        exact ⟨moves, calls⟩
      · rename_i disposed
        rw [disposed] at moves calls
        exact ⟨moves, calls⟩
  | answered requestOk exportMessage => exact ⟨.keeps rfl, rfl⟩

end Steps

section Safety

def QueueEntry.Undeliverable (entry : QueueEntry) : Prop :=
  ∀ message, entry.item = .message message → message.version ≠ 0

def ClientCall.Concerns (entry : QueueEntry) : ClientCall → Prop
  | .idle => False
  | .sendExportAck externalReference _ => entry.externalReference = externalReference
  | .getExport _ => entry.Undeliverable

def AckPhase.Known (world : PullWorld) (externalReference : Option String) : AckPhase → Prop
  | .begin_ internalId message | .remove internalId message _ =>
      ∃ entry, world.entries[internalId]? = some entry ∧ entry.item = .message message ∧
        message.externalReference = externalReference
  | _ => True

def GetPhase.Known (world : PullWorld) : GetPhase → Prop
  | .getMessageData internalId message =>
      ∃ entry, world.entries[internalId]? = some entry ∧ entry.item = .message message
  | .begin_ internalId | .remove internalId _ =>
      ∃ entry, world.entries[internalId]? = some entry ∧ entry.Undeliverable
  | _ => True

def ClientCall.Known (world : PullWorld) : ClientCall → Prop
  | .idle => True
  | .sendExportAck externalReference phase => phase.Known world externalReference
  | .getExport phase => phase.Known world

structure Safe (world : PullWorld) : Prop where
  distinct : ∀ {first second : Nat} {entry other : QueueEntry} {reference : String},
    world.entries[first]? = some entry → world.entries[second]? = some other →
      entry.externalReference = some reference → other.externalReference = some reference → first = second
  touched : ∀ entry ∈ world.entries, ∀ call,
    entry.place = .received call ∨ entry.place = .removed call → (world.calls call).Concerns entry
  known : ∀ call, (world.calls call).Known world

def Fresh (world : PullWorld) : PullEvent → Prop
  | .enqueue priority item _ => ∀ entry ∈ world.entries, entry.externalReference.isSome →
      entry.externalReference ≠ (QueueEntry.mk priority item .queued).externalReference
  | .sendExportAck call _ => world.calls call = .idle
  | .getExport call _ => world.calls call = .idle
  | _ => True

instance (world : PullWorld) (event : PullEvent) : Decidable (Fresh world event) := by
  cases event <;> unfold Fresh <;> infer_instance

variable {world later : PullWorld} {call : Nat} {target : Nat → Prop}

theorem externalReference_congr {entry other : QueueEntry} (same : entry.item = other.item) :
    entry.externalReference = other.externalReference := by
  simp [QueueEntry.externalReference, same]

theorem ClientCall.Concerns.congr {state : ClientCall} {entry other : QueueEntry} (same : entry.item = other.item)
    (concerns : state.Concerns entry) : state.Concerns other := by
  cases state with
  | idle => exact concerns
  | sendExportAck externalReference phase => exact (externalReference_congr same).symm.trans concerns
  | getExport phase => exact fun message item => concerns message (same.trans item)

theorem ClientCall.Known.mono {state : ClientCall} (known : state.Known world)
    (kept : ∀ {internalId : Nat} {entry : QueueEntry}, world.entries[internalId]? = some entry →
      ∃ after, later.entries[internalId]? = some after ∧ after.item = entry.item) : state.Known later := by
  have acknowledges {internalId : Nat} {message : DataExchangeMessage} {externalReference : Option String}
      (there : ∃ entry, world.entries[internalId]? = some entry ∧ entry.item = .message message ∧
        message.externalReference = externalReference) :
      ∃ entry, later.entries[internalId]? = some entry ∧ entry.item = .message message ∧
        message.externalReference = externalReference := by
    obtain ⟨entry, found, item, reference⟩ := there
    obtain ⟨after, found', same⟩ := kept found
    exact ⟨after, found', same.trans item, reference⟩
  have discards {internalId : Nat}
      (there : ∃ entry, world.entries[internalId]? = some entry ∧ entry.Undeliverable) :
      ∃ entry, later.entries[internalId]? = some entry ∧ entry.Undeliverable := by
    obtain ⟨entry, found, undeliverable⟩ := there
    obtain ⟨after, found', same⟩ := kept found
    exact ⟨after, found', fun message item => undeliverable message (same.symm.trans item)⟩
  cases state with
  | idle => trivial
  | sendExportAck externalReference phase =>
      cases phase with
      | begin_ internalId message => exact acknowledges known
      | remove internalId message priorities => exact acknowledges known
      | _ => trivial
  | getExport phase =>
      cases phase with
      | getMessageData internalId message =>
          obtain ⟨entry, found, item⟩ := known
          obtain ⟨after, found', same⟩ := kept found
          exact ⟨after, found', same.trans item⟩
      | begin_ internalId => exact discards known
      | remove internalId priorities => exact discards known
      | _ => trivial

theorem PullWorld.Moves.kept (moves : world.Moves call target later) {internalId : Nat} {entry : QueueEntry}
    (found : world.entries[internalId]? = some entry) :
    ∃ after, later.entries[internalId]? = some after ∧ after.item = entry.item := by
  obtain ⟨place, after⟩ := moves.entry found
  exact ⟨_, after, rfl⟩

theorem Safe.moved (safe : Safe world) (moves : world.Moves call target later) (sameCalls : later.calls = world.calls)
    {state : ClientCall} (aims : ∀ {internalId : Nat} {entry : QueueEntry}, target internalId →
      world.entries[internalId]? = some entry → state.Concerns entry)
    (still : ∀ entry, (world.calls call).Concerns entry → state.Concerns entry)
    (known : state.Known later) : Safe (later.setCall call state) := by
  constructor
  · intro first second entry other reference found found' same same'
    obtain ⟨before, there, _, item, _⟩ := moves.back found
    obtain ⟨before', there', _, item', _⟩ := moves.back found'
    rw [← externalReference_congr item] at same
    rw [← externalReference_congr item'] at same'
    exact safe.distinct there there' same same'
  · intro entry member toucher touches
    obtain ⟨internalId, found⟩ := List.mem_iff_getElem?.mp member
    obtain ⟨before, there, _, item, moved⟩ := moves.back found
    have memberBefore := List.mem_of_getElem? there
    by_cases own : toucher = call
    · subst own
      simp only [PullWorld.setCall, Function.update_self]
      apply ClientCall.Concerns.congr item
      rcases moved with same | ⟨_, _, aimed⟩ | ⟨received, _⟩
      · exact still before (safe.touched before memberBefore toucher (by rwa [same]))
      · exact aims aimed there
      · exact still before (safe.touched before memberBefore toucher (Or.inl received))
    · simp only [PullWorld.setCall, ne_eq, own, not_false_eq_true, Function.update_of_ne, sameCalls]
      have same : before.place = entry.place := by
        rcases moved with same | ⟨_, received, _⟩ | ⟨_, queued | removed⟩
        · exact same
        · simp only [received, EntryPlace.received.injEq, reduceCtorEq, or_false] at touches
          exact absurd touches.symm own
        · simp [queued] at touches
        · simp only [removed, reduceCtorEq, EntryPlace.removed.injEq, false_or] at touches
          exact absurd touches.symm own
      exact (safe.touched before memberBefore toucher (by rwa [same])).congr item
  · intro other
    by_cases own : other = call
    · subst own
      simp only [PullWorld.setCall, Function.update_self]
      exact known.mono fun found => ⟨_, found, rfl⟩
    · simp only [PullWorld.setCall, ne_eq, own, not_false_eq_true, Function.update_of_ne, sameCalls]
      exact ((safe.known other).mono moves.kept).mono fun found => ⟨_, found, rfl⟩

theorem getElem?_enqueued {entries : List QueueEntry} {new entry : QueueEntry} {index : Nat}
    (found : (entries ++ [new])[index]? = some entry) :
    entries[index]? = some entry ∨ index = entries.length ∧ entry = new := by
  rw [List.getElem?_append] at found
  split at found
  · exact Or.inl found
  · rename_i outside
    rw [List.getElem?_singleton] at found
    split at found
    · cases found
      exact Or.inr ⟨by omega, rfl⟩
    · contradiction

theorem ackStep_known {kind : TransactionKind} {failure : Option SystemException}
    {externalReference : Option String} {phase : AckPhase} (known : phase.Known world externalReference) :
    (ackStep kind call failure externalReference world phase).1.Known
      (ackStep kind call failure externalReference world phase).2 externalReference := by
  cases phase with
  | peek priorities =>
      cases priorities with
      | nil => trivial
      | cons priority priorities =>
          simp only [ackStep]
          split
          · trivial
          · trivial
          · trivial
          · rename_i peeked
            split
            · rename_i matched
              obtain ⟨entry, found, item⟩ := peekForPriority_some peeked
              exact ⟨entry, found, item, matched⟩
            · trivial
  | begin_ internalId message =>
      cases failure with
      | none => exact known
      | some exception => trivial
  | remove internalId message priorities =>
      cases priorities with
      | nil => trivial
      | cons priority priorities =>
          simp only [ackStep]
          split
          · trivial
          · exact known
          · trivial
  | commit message =>
      simp only [ackStep]
      split <;> trivial
  | deleteMessageData message status =>
      simp only [ackStep]
      split <;> trivial
  | _ => trivial

theorem getStep_known {kind : TransactionKind} {failure : Option SystemException} {phase : GetPhase}
    (known : phase.Known world) :
    (getStep kind call failure world phase).1.Known (getStep kind call failure world phase).2 := by
  cases phase with
  | wait => cases failure <;> trivial
  | peek priorities =>
      cases priorities with
      | nil => trivial
      | cons priority priorities =>
          simp only [getStep]
          split
          · trivial
          · trivial
          · rename_i peeked
            obtain ⟨entry, found, item⟩ := peekForPriority_some peeked
            refine ⟨entry, found, fun message readable => ?_⟩
            rw [item] at readable
            contradiction
          · rename_i peeked
            exact peekForPriority_some peeked
  | getMessageData internalId message =>
      simp only [getStep]
      split
      · trivial
      · rename_i raised
        obtain ⟨entry, found, item⟩ := known
        refine ⟨entry, found, fun other readable inline => ?_⟩
        rw [item] at readable
        cases readable
        simp [DataExchangeMessage.getMessageData, inline] at raised
      · trivial
  | getExportObject message =>
      simp only [getStep]
      split <;> trivial
  | begin_ internalId =>
      cases failure with
      | none => exact known
      | some exception => trivial
  | remove internalId priorities =>
      cases priorities with
      | nil => trivial
      | cons priority priorities =>
          simp only [getStep]
          split
          · trivial
          · exact known
          · trivial
  | commit =>
      simp only [getStep]
      split <;> trivial
  | dispose status raised =>
      simp only [getStep]
      split
      · cases raised <;> trivial
      · trivial
  | answered requestOk exportMessage => trivial

theorem Safe.step (kind : TransactionKind) (safe : Safe world) {event : PullEvent} (fresh : Fresh world event) :
    Safe (pullStep kind world event) := by
  have starts {call : Nat} (idle : world.calls call = .idle) {state : ClientCall} (known : state.Known world) :
      Safe (world.setCall call state) := by
    refine @Safe.moved _ _ call (fun _ => False) safe (.keeps rfl) rfl _ False.elim (fun entry concerned => ?_) known
    simp [idle, ClientCall.Concerns] at concerned
  cases event with
  | enqueue priority item payload =>
      constructor
      · intro first second entry other reference found found' same same'
        rcases getElem?_enqueued found with old | ⟨last, new⟩
        · rcases getElem?_enqueued found' with old' | ⟨last', new'⟩
          · exact safe.distinct old old' same same'
          · have different := fresh entry (List.mem_of_getElem? old) (by simp [same])
            rw [new'] at same'
            exact absurd (same.trans same'.symm) different
        · rcases getElem?_enqueued found' with old' | ⟨last', new'⟩
          · have different := fresh other (List.mem_of_getElem? old') (by simp [same'])
            rw [new] at same
            exact absurd (same'.trans same.symm) different
          · exact last.trans last'.symm
      · intro entry member call touches
        rcases List.mem_append.mp member with old | new
        · exact safe.touched entry old call touches
        · rw [List.mem_singleton.mp new] at touches
          simp at touches
      · intro call
        refine (safe.known call).mono fun {internalId entry} found => ?_
        have inside := (List.getElem?_eq_some_iff.mp found).1
        exact ⟨entry, (List.getElem?_append_left inside).trans found, rfl⟩
  | sendExportAck call externalReference =>
      refine starts fresh ?_
      split <;> trivial
  | getExport call maxWaitTimeInSeconds =>
      refine starts fresh ?_
      split <;> trivial
  | advance call failure =>
      have known := safe.known call
      simp only [pullStep]
      cases calls : world.calls call with
      | idle => exact safe
      | sendExportAck externalReference phase =>
          rw [calls] at known
          obtain ⟨moves, sameCalls⟩ := @ackStep_moves world call kind failure externalReference phase
          refine safe.moved moves sameCalls ?_ ?_ (ackStep_known known)
          · intro internalId entry aimed found
            cases phase with
            | remove target message priorities =>
                obtain ⟨there, found', item, reference⟩ := known
                cases aimed
                rw [found] at found'
                cases found'
                simpa [ClientCall.Concerns, QueueEntry.externalReference, item] using reference
            | _ => exact False.elim aimed
          · intro entry concerned
            rwa [calls] at concerned
      | getExport phase =>
          rw [calls] at known
          obtain ⟨moves, sameCalls⟩ := @getStep_moves world call kind failure phase
          refine safe.moved moves sameCalls ?_ ?_ (getStep_known known)
          · intro internalId entry aimed found
            cases phase with
            | remove target priorities =>
                obtain ⟨there, found', undeliverable⟩ := known
                cases aimed
                rw [found] at found'
                cases found'
                exact undeliverable
            | _ => exact False.elim aimed
          · intro entry concerned
            rwa [calls] at concerned
  | timeout call =>
      simp only [pullStep]
      split
      · rename_i calls
        refine @Safe.moved _ _ call (fun _ => False) safe (.keeps rfl) rfl _ False.elim (fun entry concerned => ?_) trivial
        rwa [calls] at concerned
      · exact safe

end Safety

section Answers

def Removes (world : PullWorld) (call : Nat) : TransactionStatus → Prop
  | .committed => world.Has (.removed call)
  | .complete => world.Has (.received call) ∧ ¬ world.Has (.removed call)
  | _ => False

def AckPhase.Accurate (world : PullWorld) (call : Nat) : AckPhase → Prop
  | .peek _ | .begin_ _ _ | .remove _ _ _ => ¬ world.Has (.received call) ∧ ¬ world.Has (.removed call)
  | .commit _ => ¬ world.Has (.removed call)
  | .deleteMessageData _ status | .setStatus status | .dispose status true => Removes world call status
  | .dispose status false => status = .pending ∧ ¬ world.Has (.removed call)
  | .answered requestOk => requestOk = true ↔ world.Has (.removed call)

def Truthful (world : PullWorld) : Prop :=
  ∀ call externalReference phase, world.calls call = .sendExportAck externalReference phase →
    phase.Accurate world call

def Undisturbed (world : PullWorld) : PullEvent → Prop
  | .advance call failure =>
      match world.calls call with
      | .sendExportAck _ (.commit _) => failure = none → world.Has (.received call)
      | .sendExportAck _ (.deleteMessageData message _) => message.deleteException failure = none
      | .sendExportAck _ (.dispose .complete _) => failure = none
      | _ => True
  | _ => True

instance (world : PullWorld) (event : PullEvent) : Decidable (Undisturbed world event) := by
  unfold Undisturbed
  split
  · split <;> infer_instance
  · infer_instance

variable {world later : PullWorld} {call other : Nat}

theorem AckPhase.Accurate.congr {phase : AckPhase} (accurate : phase.Accurate world call)
    (received : later.Has (.received call) ↔ world.Has (.received call))
    (removed : later.Has (.removed call) ↔ world.Has (.removed call)) : phase.Accurate later call := by
  have removes {status : TransactionStatus} (before : Removes world call status) : Removes later call status := by
    cases status with
    | committed => exact removed.mpr before
    | complete => exact ⟨received.mpr before.1, fun after => before.2 (removed.mp after)⟩
    | _ => exact before
  have untouched (before : ¬ world.Has (.received call) ∧ ¬ world.Has (.removed call)) :
      ¬ later.Has (.received call) ∧ ¬ later.Has (.removed call) :=
    ⟨fun after => before.1 (received.mp after), fun after => before.2 (removed.mp after)⟩
  cases phase with
  | peek priorities => exact untouched accurate
  | begin_ internalId message => exact untouched accurate
  | remove internalId message priorities => exact untouched accurate
  | commit message => exact fun after => accurate (removed.mp after)
  | deleteMessageData message status => exact removes accurate
  | setStatus status => exact removes accurate
  | dispose status requestOk =>
      cases requestOk with
      | true => exact removes accurate
      | false => exact ⟨accurate.1, fun after => accurate.2 (removed.mp after)⟩
  | answered requestOk => exact Iff.trans accurate removed.symm

theorem ackStep_accurate {kind : TransactionKind} {failure : Option SystemException}
    {externalReference : Option String} {phase : AckPhase}
    (calls : world.calls call = .sendExportAck externalReference phase) (accurate : phase.Accurate world call)
    (undisturbed : Undisturbed world (.advance call failure)) :
    (ackStep kind call failure externalReference world phase).1.Accurate
      (ackStep kind call failure externalReference world phase).2 call := by
  simp only [Undisturbed, calls] at undisturbed
  cases phase with
  | peek priorities =>
      have unanswered : AckPhase.Accurate world call (.answered false) := by
        simpa [AckPhase.Accurate] using accurate.2
      cases priorities with
      | nil => exact unanswered
      | cons priority priorities =>
          simp only [ackStep]
          split
          · exact unanswered
          · exact accurate
          · exact unanswered
          · split <;> exact accurate
  | begin_ internalId message =>
      cases failure with
      | none => exact accurate
      | some exception => simpa [ackStep, AckPhase.Accurate] using accurate.2
  | remove internalId message priorities =>
      cases priorities with
      | nil => exact accurate.2
      | cons priority priorities =>
          simp only [ackStep]
          split
          · rename_i after ran
            obtain ⟨entry, found, queued, rfl⟩ := receiveById_ok ran
            rintro ⟨entry', member, removed⟩
            rcases List.mem_or_eq_of_mem_set member with old | new
            · exact accurate.2 ⟨entry', old, removed⟩
            · simp [new] at removed
          · exact accurate
          · exact ⟨rfl, accurate.2⟩
  | commit message =>
      simp only [ackStep]
      split
      · rename_i ran
        obtain ⟨returned, ⟨rfl, rfl⟩ | ⟨rfl, rfl⟩⟩ := commit_ok ran
        · exact (has_settled world call (.removed call)).mpr (Or.inr (undisturbed returned))
        · exact ⟨undisturbed returned, accurate⟩
      · exact ⟨rfl, accurate⟩
  | deleteMessageData message status =>
      simp only [ackStep]
      split
      · exact accurate.congr Iff.rfl Iff.rfl
      · rename_i raised
        rw [undisturbed] at raised
        contradiction
  | setStatus status => exact accurate
  | dispose status requestOk =>
      cases requestOk with
      | true =>
          cases status with
          | committed => exact ⟨fun _ => accurate, fun _ => rfl⟩
          | complete =>
              cases undisturbed
              exact ⟨fun _ => (has_settled world call (.removed call)).mpr (Or.inr accurate.1), fun _ => rfl⟩
          | _ => exact accurate.elim
      | false =>
          obtain ⟨rfl, remains⟩ := accurate
          have stays : ¬ (world.settle call .queued).Has (.removed call) :=
            fun after => remains ((has_removed_queued world call).mp after)
          exact iff_of_false (by simp) stays
  | answered requestOk => exact accurate

theorem Truthful.step (kind : TransactionKind) (truthful : Truthful world) (safe : Safe world) {event : PullEvent}
    (fresh : Fresh world event) (undisturbed : Undisturbed world event) : Truthful (pullStep kind world event) := by
  have moved {later : PullWorld} {call : Nat} {target : Nat → Prop} {state : ClientCall}
      (moves : world.Moves call target later) (sameCalls : later.calls = world.calls)
      (own : ∀ externalReference phase, state = .sendExportAck externalReference phase → phase.Accurate later call) :
      Truthful (later.setCall call state) := by
    intro other externalReference phase calls
    by_cases same : other = call
    · subst same
      simp only [PullWorld.setCall, Function.update_self] at calls
      exact (own externalReference phase calls).congr Iff.rfl Iff.rfl
    · simp only [PullWorld.setCall, ne_eq, same, not_false_eq_true, Function.update_of_ne, sameCalls] at calls
      exact (truthful other externalReference phase calls).congr
        (moves.has_other (by simp) (by simpa using same) (by simp))
        (moves.has_other (by simp) (by simp) (by simpa using same))
  cases event with
  | enqueue priority item payload =>
      have same {place : EntryPlace} (touched : place ≠ .queued) :
          (pullStep kind world (.enqueue priority item payload)).Has place ↔ world.Has place := by
        constructor
        · rintro ⟨entry, member, at_⟩
          rcases List.mem_append.mp member with old | new
          · exact ⟨entry, old, at_⟩
          · rw [List.mem_singleton.mp new] at at_
            exact absurd at_.symm touched
        · rintro ⟨entry, member, at_⟩
          exact ⟨entry, List.mem_append_left _ member, at_⟩
      intro call externalReference phase calls
      exact (truthful call externalReference phase calls).congr (same (by simp)) (same (by simp))
  | sendExportAck call externalReference =>
      have untouched (place : EntryPlace) (touches : place = .received call ∨ place = .removed call) :
          ¬ world.Has place := by
        rintro ⟨entry, member, rfl⟩
        have concerns := safe.touched entry member call touches
        rw [show world.calls call = .idle from fresh] at concerns
        exact concerns
      refine @moved world call (fun _ => False) _ (.keeps rfl) rfl fun reference phase eq => ?_
      cases eq
      split
      · exact iff_of_false (by simp) (untouched _ (Or.inr rfl))
      · exact ⟨untouched _ (Or.inl rfl), untouched _ (Or.inr rfl)⟩
  | getExport call maxWaitTimeInSeconds =>
      exact @moved world call (fun _ => False) _ (.keeps rfl) rfl (by simp)
  | advance call failure =>
      simp only [pullStep]
      cases calls : world.calls call with
      | idle => exact truthful
      | sendExportAck externalReference phase =>
          obtain ⟨moves, sameCalls⟩ := @ackStep_moves world call kind failure externalReference phase
          refine moved moves sameCalls fun reference next eq => ?_
          cases eq
          exact ackStep_accurate calls (truthful call externalReference phase calls) undisturbed
      | getExport phase =>
          obtain ⟨moves, sameCalls⟩ := @getStep_moves world call kind failure phase
          exact moved moves sameCalls (by simp)
  | timeout call =>
      simp only [pullStep]
      split
      · exact @moved world call (fun _ => False) _ (.keeps rfl) rfl (by simp)
      · exact truthful

end Answers

section Runs

structure Started (world : PullWorld) : Prop where
  idle : ∀ call, world.calls call = .idle
  queued : ∀ entry ∈ world.entries, entry.place = .queued
  distinct : ∀ {first second : Nat} {entry other : QueueEntry} {reference : String},
    world.entries[first]? = some entry → world.entries[second]? = some other →
      entry.externalReference = some reference → other.externalReference = some reference → first = second

structure ExactAcknowledgements (world : PullWorld) : Prop where
  answers : ∀ call externalReference requestOk,
    world.calls call = .sendExportAck externalReference (.answered requestOk) →
      (requestOk = true ↔ ∃ entry ∈ world.entries,
        entry.place = .removed call ∧ entry.externalReference = externalReference)
  others : ∀ call, ∀ entry ∈ world.entries, entry.place = .removed call → (world.calls call).Concerns entry
  once : ∀ first second reference, world.calls first = .sendExportAck (some reference) (.answered true) →
    world.calls second = .sendExportAck (some reference) (.answered true) → first = second

variable {world : PullWorld}

theorem Started.safe (started : Started world) : Safe world where
  distinct := started.distinct
  touched entry member call touches := by
    rw [started.queued entry member] at touches
    simp at touches
  known call := by
    rw [started.idle call]
    trivial

theorem Started.truthful (started : Started world) : Truthful world := by
  intro call externalReference phase calls
  rw [started.idle call] at calls
  contradiction

theorem exact_of_truthful (safe : Safe world) (truthful : Truthful world) : ExactAcknowledgements world := by
  have answers (call : Nat) (externalReference : Option String) (requestOk : Bool)
      (calls : world.calls call = .sendExportAck externalReference (.answered requestOk)) :
      requestOk = true ↔ ∃ entry ∈ world.entries,
        entry.place = .removed call ∧ entry.externalReference = externalReference := by
    have accurate : requestOk = true ↔ world.Has (.removed call) := truthful call externalReference _ calls
    constructor
    · intro ok
      obtain ⟨entry, member, removed⟩ := accurate.mp ok
      have concerns := safe.touched entry member call (Or.inr removed)
      rw [calls] at concerns
      exact ⟨entry, member, removed, concerns⟩
    · rintro ⟨entry, member, removed, _⟩
      exact accurate.mpr ⟨entry, member, removed⟩
  refine ⟨answers, fun call entry member removed => safe.touched entry member call (Or.inr removed), ?_⟩
  intro first second reference ok ok'
  obtain ⟨entry, member, removed, same⟩ := (answers first _ true ok).mp rfl
  obtain ⟨other, member', removed', same'⟩ := (answers second _ true ok').mp rfl
  obtain ⟨index, found⟩ := List.mem_iff_getElem?.mp member
  obtain ⟨index', found'⟩ := List.mem_iff_getElem?.mp member'
  cases safe.distinct found found' same same'
  rw [found] at found'
  cases found'
  rw [removed] at removed'
  exact EntryPlace.removed.inj removed'

/-- Acknowledgements are exact in every run in which a commit finds the message received
and what follows it returns. -/
theorem sendExportAck_exact (kind : TransactionKind) (started : Started world) {events : List PullEvent}
    (permitted : Permits (pullStep kind) (fun world event => Fresh world event ∧ Undisturbed world event) world
      events) : ExactAcknowledgements (finalState (pullStep kind) world events) := by
  have kept := @finalState_invariant _ _ (pullStep kind) _ (fun world => Safe world ∧ Truthful world)
    (fun state event holds allowed =>
      ⟨holds.1.step kind allowed.1, holds.2.step kind holds.1 allowed.1 allowed.2⟩)
    events world ⟨started.safe, started.truthful⟩ permitted
  exact exact_of_truthful kept.1 kept.2

def pullWorld : PullWorld where
  entries := [⟨.normal, .message valuesMessage, .queued⟩]
  payloads := Function.update (fun _ => none) valuesTicket (some "1.5")
  calls := fun _ => .idle

theorem pullWorld_started : Started pullWorld where
  idle _ := rfl
  queued := by decide
  distinct {first second entry other reference} found found' _ _ := by
    have inside := (List.getElem?_eq_some_iff.mp found).1
    have inside' := (List.getElem?_eq_some_iff.mp found').1
    simp only [pullWorld, List.length_singleton] at inside inside'
    omega

def acknowledgement (call : Nat) : List PullEvent :=
  .sendExportAck call (some "values") :: List.replicate 9 (.advance call none)

theorem sendExportAck_exact_values :
    ExactAcknowledgements (finalState (pullStep .msmq) pullWorld (acknowledgement 0)) :=
  sendExportAck_exact .msmq pullWorld_started (by decide)

/-- Two calls see the message; the second one removes nothing and is told that all is well. -/
theorem sendExportAck_twice : ¬ ∀ world events, Started world → Permits (pullStep .msmq) Fresh world events →
    ExactAcknowledgements (finalState (pullStep .msmq) world events) := by
  intro exact_
  let events : List PullEvent :=
    [.sendExportAck 0 (some "values"), .sendExportAck 1 (some "values")] ++
      (List.replicate 9 [.advance 0 none, .advance 1 none]).flatten ++ List.replicate 2 (.advance 1 none)
  have once := (exact_ pullWorld events pullWorld_started (by decide)).once 0 1 "values" (by decide) (by decide)
  contradiction

end Runs

end ServiceHost.DataExchange.StandardWs
