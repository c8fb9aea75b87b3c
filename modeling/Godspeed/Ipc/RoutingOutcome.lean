import Godspeed.Ipc.Routing

/-!
# What each routing operation can do

One outcome judgment per operation of the table, with every guard and the
exact table it leaves, and one theorem saying that the operation always lands
in it.  Proofs about a machine built on the table split an operation by its
outcome and never unfold it.

* `EnqueueOutcome` covers the three enqueue paths of the source.
* `DequeueOutcome`, `ReplyOutcome` and `CallOutcome` are the three receive
  paths; `Released` says what a successful one leaves in the entry.
* `KillOutcome` is `kill_endpoint`, `takeCallWaiter_eq_some` and
  `takeCallWaiter_eq_none` are the two ends of the drain loop.
-/

namespace Godspeed.Ipc

open Option

variable {α : Type*} {capGen : Option Nat}

namespace EndpointState

variable {entry entry' : EndpointState α} {msg : α}

@[simp] lemma checkLive_some {generation : Nat} :
    entry.checkLive (some generation) ↔
      entry.liveness = .alive ∧ generation = entry.generation := by
  simp [checkLive]

lemma alive_of_checkLive (h : entry.checkLive capGen) : entry.liveness = .alive := by
  simp only [checkLive, Bool.and_eq_true, decide_eq_true_eq] at h
  exact h.1

lemma offer_eq (sender : Option Slot) : entry.offer msg sender = match entry.queue.enqueue msg with
      | some queue =>
        ({ entry with blockedReceiver := none, queue := queue }, .ok entry.blockedReceiver)
      | none => (offer.recordSender entry msg sender, .error .queueFull) := by
  unfold offer
  split
  next slot hslot =>
    cases entry.queue.enqueue msg <;> simp [hslot]
  cases entry.queue.enqueue msg with
  | none => rfl
  | some queue =>
    simp_all

/-- The entry a successful dequeue leaves: `rest` is the queue without the
message taken, and a sender that was parked has its message moved behind it. -/
structure Released (entry : EndpointState α) (rest : List α) (entry' : EndpointState α) :
    Prop where
  generation : entry'.generation = entry.generation
  liveness : entry'.liveness = entry.liveness
  blockedReceiver : entry'.blockedReceiver = entry.blockedReceiver
  blockedSender : entry'.blockedSender = none
  pendingSend : entry'.pendingSend = none
  messages : entry'.queue.messages = rest ++ entry.pendingSend.toList

lemma Released.of_queue {queue : MessageQueue α} {rest : List α}
    (h : Released { entry with queue := queue } rest entry') : Released entry rest entry' :=
  ⟨h.generation, h.liveness, h.blockedReceiver, h.blockedSender, h.pendingSend, h.messages⟩

lemma releaseSender_spec (entry : EndpointState α)
    (hroom : entry.queue.messages.length < queueDepth) :
    Released entry entry.queue.messages entry.releaseSender.1 ∧
      entry.releaseSender.2 = entry.blockedSender := by
  have hpaired := entry.paired
  unfold releaseSender
  split
  next slot hslot =>
    rw [hslot] at hpaired
    split
    next pending hpend =>
      obtain ⟨queue, hqueue⟩ := isSome_iff_exists.mp
        (MessageQueue.enqueue_isSome_of_lt pending hroom)
      refine ⟨⟨rfl, rfl, rfl, rfl, rfl, ?_⟩, hslot.symm⟩
      simp [hqueue, hpend, MessageQueue.enqueue_eq_some hqueue]
    next hpend =>
      exact absurd hpaired (by simp [hpend])
  next hslot =>
    have hpend : entry.pendingSend = none := by
      rw [hslot] at hpaired
      exact isSome_eq_false_iff.mp hpaired.symm |> isNone_iff_eq_none.mp
    exact ⟨⟨rfl, rfl, rfl, hslot, hpend, by simp [hpend]⟩, hslot.symm⟩

end EndpointState

namespace RoutingTable

open EndpointState MessageQueue

/-- No entry of this id is alive at the generation asked for. -/
def Unreachable (table : RoutingTable α) (endpoint : Nat) (capGen : Option Nat) : Prop :=
  ∀ entry, table.lookup endpoint = some entry → entry.checkLive capGen = false

variable {table : RoutingTable α} {endpoint : Nat}

lemma unreachable_of_lookup (h : table.lookup endpoint = none) :
    table.Unreachable endpoint capGen := by
  intro entry hentry
  rw [h] at hentry
  cases hentry

lemma unreachable_of_checkLive {entry : EndpointState α}
    (h : table.lookup endpoint = some entry) (hlive : entry.checkLive capGen = false) :
    table.Unreachable endpoint capGen := by
  intro entry' hentry
  rw [h] at hentry
  cases hentry
  exact hlive

/-- The outcomes of `enqueue`. -/
inductive EnqueueOutcome (table : RoutingTable α) (endpoint : Nat) (msg : α)
    (capGen : Option Nat) (sender : Option Slot) :
    RoutingTable α × Except IpcError (Option Slot) → Prop
  | dead (hdead : table.Unreachable endpoint capGen) :
      EnqueueOutcome table endpoint msg capGen sender (table, .error .endpointDead)
  | queued (entry : EndpointState α) (queue : MessageQueue α)
      (hlookup : table.lookup endpoint = some entry) (hlive : entry.checkLive capGen = true)
      (hqueue : queue.messages = entry.queue.messages ++ [msg]) :
      EnqueueOutcome table endpoint msg capGen sender
        (table.write endpoint { entry with blockedReceiver := none, queue := queue },
          .ok entry.blockedReceiver)
  | full (entry : EndpointState α) (hlookup : table.lookup endpoint = some entry)
      (hlive : entry.checkLive capGen = true) (hfull : entry.queue.enqueue msg = none) :
      EnqueueOutcome table endpoint msg capGen sender
        (table.write endpoint (offer.recordSender entry msg sender), .error .queueFull)

lemma enqueue_outcome (table : RoutingTable α) (endpoint : Nat) (msg : α)
    (capGen : Option Nat) (sender : Option Slot) :
    EnqueueOutcome table endpoint msg capGen sender (table.enqueue endpoint msg capGen sender) := by
  unfold enqueue
  cases hlook : table.lookup endpoint with
  | none => exact .dead (unreachable_of_lookup hlook)
  | some entry =>
    cases hlive : entry.checkLive capGen with
    | false =>
      simpa [hlive] using EnqueueOutcome.dead (unreachable_of_checkLive hlook hlive)
    | true =>
      simp only [hlive, offer_eq]
      cases hqueue : entry.queue.enqueue msg with
      | none => exact .full entry hlook hlive hqueue
      | some queue =>
        exact .queued entry queue hlook hlive (enqueue_eq_some hqueue)

/-- The outcomes of `dequeue`. -/
inductive DequeueOutcome (table : RoutingTable α) (endpoint capGen : Nat)
    (receiver : Option Slot) : RoutingTable α × Except IpcError (α × Option Slot) → Prop
  | dead (hdead : table.Unreachable endpoint (some capGen)) :
      DequeueOutcome table endpoint capGen receiver (table, .error .endpointDead)
  | taken (entry entry' : EndpointState α) (msg : α) (rest : List α)
      (hlookup : table.lookup endpoint = some entry)
      (hlive : entry.checkLive (some capGen) = true)
      (hqueue : entry.queue.messages = msg :: rest) (hreleased : Released entry rest entry') :
      DequeueOutcome table endpoint capGen receiver
        (table.write endpoint entry', .ok (msg, entry.blockedSender))
  | registered (entry : EndpointState α) (slot : Slot) (hreceiver : receiver = some slot)
      (hlookup : table.lookup endpoint = some entry)
      (hlive : entry.checkLive (some capGen) = true) (hempty : entry.queue.messages = []) :
      DequeueOutcome table endpoint capGen receiver
        (table.write endpoint { entry with blockedReceiver := some slot }, .error .queueEmpty)
  | unregistered (entry : EndpointState α) (hreceiver : receiver = none)
      (hlookup : table.lookup endpoint = some entry)
      (hlive : entry.checkLive (some capGen) = true) (hempty : entry.queue.messages = []) :
      DequeueOutcome table endpoint capGen receiver (table, .error .queueEmpty)

lemma dequeue_outcome (table : RoutingTable α) (endpoint capGen : Nat) (receiver : Option Slot) :
    DequeueOutcome table endpoint capGen receiver (table.dequeue endpoint capGen receiver) := by
  unfold dequeue
  cases hlook : table.lookup endpoint with
  | none => exact .dead (unreachable_of_lookup hlook)
  | some entry =>
    cases hlive : entry.checkLive (some capGen) with
    | false =>
      simpa [hlive] using DequeueOutcome.dead (unreachable_of_checkLive hlook hlive)
    | true =>
      simp only [hlive]
      cases hqueue : entry.queue.dequeue with
      | none =>
        have hempty := dequeue_eq_none_iff.mp hqueue
        cases receiver with
        | none => exact .unregistered entry rfl hlook hlive hempty
        | some slot => exact .registered entry slot rfl hlook hlive hempty
      | some got =>
        obtain ⟨msg, queue⟩ := got
        obtain ⟨hrel, hsender⟩ := releaseSender_spec { entry with queue := queue }
          (length_lt_of_dequeue hqueue)
        simp only [hsender]
        exact .taken entry _ msg queue.messages hlook hlive (dequeue_eq_some hqueue) hrel.of_queue

/-- The outcomes of `dequeue_reply_locked`. -/
inductive ReplyOutcome (table : RoutingTable α) (endpoint capGen : Nat) (accepts : α → Bool) :
    RoutingTable α × Except IpcError (α × Option Slot) → Prop
  | dead (hdead : table.Unreachable endpoint (some capGen)) :
      ReplyOutcome table endpoint capGen accepts (table, .error .endpointDead)
  | taken (entry entry' : EndpointState α) (msg : α)
      (hlookup : table.lookup endpoint = some entry)
      (hlive : entry.checkLive (some capGen) = true)
      (hfind : entry.queue.messages.find? accepts = some msg)
      (hreleased : Released entry (entry.queue.messages.eraseP accepts) entry') :
      ReplyOutcome table endpoint capGen accepts
        (table.write endpoint entry', .ok (msg, entry.blockedSender))
  | empty (entry : EndpointState α) (hlookup : table.lookup endpoint = some entry)
      (hlive : entry.checkLive (some capGen) = true)
      (hfind : entry.queue.messages.find? accepts = none) :
      ReplyOutcome table endpoint capGen accepts (table, .error .queueEmpty)

lemma dequeueReply_outcome (table : RoutingTable α) (endpoint capGen : Nat) (accepts : α → Bool) :
    ReplyOutcome table endpoint capGen accepts (table.dequeueReply endpoint capGen accepts) := by
  unfold dequeueReply
  cases hlook : table.lookup endpoint with
  | none => exact .dead (unreachable_of_lookup hlook)
  | some entry =>
    cases hlive : entry.checkLive (some capGen) with
    | false =>
      simpa [hlive] using ReplyOutcome.dead (unreachable_of_checkLive hlook hlive)
    | true =>
      simp only [hlive]
      cases hqueue : entry.queue.dequeueMatching accepts with
      | none =>
        exact .empty entry hlook hlive (dequeueMatching_eq_none_iff.mp hqueue)
      | some got =>
        obtain ⟨msg, queue⟩ := got
        obtain ⟨hrel, hsender⟩ := releaseSender_spec { entry with queue := queue }
          (length_lt_of_dequeueMatching hqueue)
        obtain ⟨hfind, herase⟩ := dequeueMatching_eq_some hqueue
        simp only [hsender]
        exact .taken entry _ msg hlook hlive hfind (herase ▸ hrel.of_queue)

/-- The outcomes of `kill_endpoint` when it does not panic. -/
inductive KillOutcome (table : RoutingTable α) (endpoint : Nat) :
    RoutingTable α × Option Slot × Option Slot → Prop
  | absent (hlookup : table.lookup endpoint = none) :
      KillOutcome table endpoint (table, none, none)
  | killed (entry entry' : EndpointState α) (hlookup : table.lookup endpoint = some entry)
      (hdead : entry'.liveness = .dead) (hgeneration : entry'.generation = entry.generation + 1)
      (hqueue : entry'.queue.messages = []) (hreceiver : entry'.blockedReceiver = none)
      (hsender : entry'.blockedSender = none) (hpending : entry'.pendingSend = none) :
      KillOutcome table endpoint
        (table.write endpoint entry', entry.blockedReceiver, entry.blockedSender)

lemma killEndpoint_outcome {result : RoutingTable α × Option Slot × Option Slot}
    (h : table.killEndpoint endpoint = some result) : KillOutcome table endpoint result := by
  unfold killEndpoint at h
  cases hlook : table.lookup endpoint with
  | none =>
    simp only [hlook] at h
    cases h
    exact .absent hlook
  | some entry =>
    simp only [hlook, kill, map_map, map_eq_some_iff] at h
    obtain ⟨generation, hbump, rfl⟩ := h
    exact .killed entry _ hlook rfl (Capability.Generation.bump_eq_some hbump) rfl rfl rfl rfl

end RoutingTable

namespace Routing

open EndpointState

/-- The outcomes of `call_dequeue`. -/
inductive CallOutcome (routing : Routing α) (recvEp recvGen target : Nat) (accepts : α → Bool)
    (caller : Slot) : Routing α × Except IpcError (α × Option Slot) → Prop
  | ownDead (hdead : routing.table.Unreachable recvEp (some recvGen)) :
      CallOutcome routing recvEp recvGen target accepts caller
        (routing.setCallAwait caller 0, .error .endpointDead)
  | replied (entry entry' : EndpointState α) (msg : α)
      (hlookup : routing.table.lookup recvEp = some entry)
      (hlive : entry.checkLive (some recvGen) = true)
      (hfind : entry.queue.messages.find? accepts = some msg)
      (hreleased : Released entry (entry.queue.messages.eraseP accepts) entry') :
      CallOutcome routing recvEp recvGen target accepts caller
        ({ routing with table := routing.table.write recvEp entry' }.setCallAwait caller 0,
          .ok (msg, entry.blockedSender))
  | targetDead (entry : EndpointState α) (hlookup : routing.table.lookup recvEp = some entry)
      (hlive : entry.checkLive (some recvGen) = true)
      (hfind : entry.queue.messages.find? accepts = none)
      (htarget : routing.table.Unreachable target none) :
      CallOutcome routing recvEp recvGen target accepts caller
        (routing.setCallAwait caller 0, .error .replyDead)
  | registered (entry : EndpointState α) (hlookup : routing.table.lookup recvEp = some entry)
      (hlive : entry.checkLive (some recvGen) = true)
      (hfind : entry.queue.messages.find? accepts = none) (targetEntry : EndpointState α)
      (htarget : routing.table.lookup target = some targetEntry)
      (halive : targetEntry.liveness = .alive) :
      CallOutcome routing recvEp recvGen target accepts caller
        ({ routing with
            table := routing.table.write recvEp { entry with blockedReceiver := some caller }
            }.setCallAwait caller target,
          .error .queueEmpty)

lemma callDequeue_outcome (routing : Routing α) (recvEp recvGen target : Nat)
    (accepts : α → Bool) (caller : Slot) :
    CallOutcome routing recvEp recvGen target accepts caller
      (routing.callDequeue recvEp recvGen target accepts caller) := by
  unfold callDequeue
  have hreply := RoutingTable.dequeueReply_outcome routing.table recvEp recvGen accepts
  generalize routing.table.dequeueReply recvEp recvGen accepts = result at hreply
  cases hreply with
  | dead hdead => exact .ownDead hdead
  | taken entry entry' msg hlook hlive hfind hrel =>
    exact .replied entry entry' msg hlook hlive hfind hrel
  | empty entry hlook hlive hfind =>
    simp only [hlook]
    cases htarget : routing.table.lookup target with
    | none =>
      exact .targetDead entry hlook hlive hfind (RoutingTable.unreachable_of_lookup htarget)
    | some targetEntry =>
      by_cases halive : targetEntry.liveness = .alive
      · simp only [halive]
        exact .registered entry hlook hlive hfind targetEntry htarget halive
      · simp only [halive]
        exact .targetDead entry hlook hlive hfind
          (RoutingTable.unreachable_of_checkLive htarget (by simpa [checkLive] using halive))

section Drain

variable {routing routing' : Routing α} {deadEp : Nat} {slot : Slot}

lemma takeCallWaiter_eq_some (h : routing.takeCallWaiter deadEp = some (slot, routing')) :
    routing.callAwait slot = deadEp ∧ routing' = routing.setCallAwait slot 0 := by
  simp only [takeCallWaiter, map_eq_some_iff] at h
  obtain ⟨found, hfound, rfl, rfl⟩ := h
  exact ⟨by simpa using List.find?_some hfound, rfl⟩

lemma takeCallWaiter_eq_none (h : routing.takeCallWaiter deadEp = none) (slot : Slot) :
    routing.callAwait slot ≠ deadEp := by
  simp only [takeCallWaiter, map_eq_none_iff, List.find?_eq_none] at h
  simpa using h slot (List.mem_finRange slot)

end Drain

end Routing

end Godspeed.Ipc
