import Godspeed.Authority.Unwind
import Godspeed.Lib.Census
import Mathlib.Algebra.Order.Group.Multiset

/-!
# Capability transfer

Where the capabilities are: in the slots of the tables, and in the messages that
stand in a queue or wait with a parked sender.  `State.places` is the census of
all these places.  A capability is counted as the receiver will hold it, since a
delegated one loses GRANT on arrival.

The operations of this module move capabilities between places or destroy them;
what an operation destroys is `Op.gone`: what a receive reports as dropped, what
a removal was asked to drop, and at a death the table of the task and the
messages to its endpoints.  `places_step` says that nothing else happens to them,
as long as no parked sender is overwritten.
-/

namespace Godspeed.Authority

open Capability Ipc Transition State List Option

/-- At most one capability, counted as a receiver holds it. -/
def capKeys (cap : Option Cap) : Multiset Cap := ↑(cap.map narrowForReceiver).toList

def tableKeys (table : CapTable) : Multiset Cap := ∑ i, capKeys (table.slots i)

/-- The capabilities of the task in a slot. -/
def taskKeys (task : Option Task) : Multiset Cap := task.elim 0 fun task => tableKeys task.caps

/-- The capabilities a message carries. -/
def msgKeys (msg : Message) : Multiset Cap := ↑(msg.caps.map narrowForReceiver)

/-- The capabilities in the messages of an entry, queued and pending. -/
def entryKeys (entry : EndpointState Message) : Multiset Cap :=
  (entry.queue.messages.map msgKeys).sum + entry.pendingSend.elim 0 msgKeys

def routingKeys (routing : RoutingTable Message) : Multiset Cap :=
  (routing.entries.map fun entry => entryKeys entry.toEndpointState).sum

variable (s : State) {result : State × Reply} {e : IpcError}

def State.places : Multiset Cap :=
  (∑ slot, taskKeys (s.tasks slot)) + routingKeys s.routing

section Places

variable {s s' : State} {slot : Slot} {task : Task} {cap : Cap} {index : Nat}

lemma narrowForReceiver_idem (cap : Cap) :
    narrowForReceiver (narrowForReceiver cap) = narrowForReceiver cap := by
  unfold narrowForReceiver
  split
  next hdelegated =>
    simp [Cap.withoutGrant, Rights.without, BitVec.and_assoc]
  · rfl

lemma places_setTask (s : State) (slot : Slot) (new : Option Task) :
    (s.setTask slot new).places + taskKeys (s.tasks slot) = s.places + taskKeys new := by
  have hsum := Census.sum_update_add taskKeys s.tasks slot new
  simp only [places, setTask]
  rw [add_right_comm, hsum, add_right_comm]

lemma routingKeys_write {routing : RoutingTable Message} {id : Nat}
    {entry state : EndpointState Message} (h : routing.lookup id = some entry) :
    routingKeys (routing.write id state) + entryKeys entry =
      routingKeys routing + entryKeys state := by
  obtain ⟨found, hfind, rfl⟩ := map_eq_some_iff.mp h
  exact Census.sum_modifyFirst_add (fun entry : RoutingEntry Message => entryKeys entry.toEndpointState)
    hfind

lemma tableKeys_insert {table table' : CapTable} {i : Fin maxCapsPerTask}
    (h : table.insert cap = some (table', i)) :
    tableKeys table' = tableKeys table + {narrowForReceiver cap} := by
  obtain ⟨hnone, rfl⟩ := CapTable.insert_spec h
  have hsum := Census.sum_update_add capKeys table.slots i (some cap)
  rw [hnone] at hsum
  simpa [tableKeys, capKeys] using hsum

lemma tableKeys_remove (table : CapTable) (index : Nat) :
    tableKeys (table.remove index) + capKeys (table.slotAt index) = tableKeys table := by
  unfold CapTable.remove CapTable.slotAt
  split
  next hlt =>
    have hsum := Census.sum_update_add capKeys table.slots ⟨index, hlt⟩ none
    simpa [tableKeys, capKeys] using hsum
  · simp [capKeys]

lemma places_setTask_of_caps {task' : Task} (htask : s.tasks slot = some task)
    (hcaps : task'.caps = task.caps) : (s.setTask slot (some task')).places = s.places := by
  have hset := places_setTask s slot (some task')
  have hsame : taskKeys (some task') = taskKeys (s.tasks slot) := by
    rw [htask]
    simp [taskKeys, hcaps]
  rw [hsame] at hset
  exact add_right_cancel hset

lemma places_insertCap (h : s.insertCap slot cap = some (s', index)) :
    s'.places = s.places + {narrowForReceiver cap} := by
  unfold insertCap at h
  split at h
  next task htask =>
    obtain ⟨⟨caps, i⟩, hins, heq⟩ := map_eq_some_iff.mp h
    cases heq
    have hset := places_setTask s slot (some { task with caps := caps })
    rw [htask] at hset
    simp only [taskKeys, elim_some, tableKeys_insert hins] at hset
    rw [← add_assoc, add_right_comm] at hset
    exact add_right_cancel hset
  · cases h

/-- What stands in a slot of the task's table. -/
def State.slotKeys (s : State) (slot : Slot) (index : Nat) : Multiset Cap :=
  capKeys ((s.tasks slot).bind fun task => task.caps.slotAt index)

lemma places_removeCap (s : State) (slot : Slot) (index : Nat) :
    (s.removeCap slot index).places + s.slotKeys slot index = s.places := by
  unfold removeCap slotKeys
  cases htask : s.tasks slot with
  | none => simp [capKeys]
  | some task =>
    have hset := places_setTask s slot (some { task with caps := task.caps.remove index })
    have hremove := tableKeys_remove task.caps index
    rw [htask] at hset
    simp only [taskKeys, elim_some] at hset
    simp only [bind_some]
    refine add_right_cancel (b := tableKeys (task.caps.remove index)) ?_
    rw [add_assoc, add_comm (capKeys _), hremove, hset]

end Places

section Deliver

variable {s : State} {slot : Slot} {cap : Cap} {index : Nat} {required : Rights}
  {routing : RoutingTable Message} {endpoint : Nat} {msg : Message}

lemma slotKeys_of_lookupCap (h : s.lookupCap slot index required = .ok cap) :
    s.slotKeys slot index = {narrowForReceiver cap} := by
  unfold lookupCap at h
  split at h
  next task htask =>
    simp [slotKeys, htask, (CapTable.get_eq_ok_iff.mp h).1, capKeys]
  · cases h

/-- The endpoint has no parked sender that a blocking send would overwrite. -/
def Spares (routing : RoutingTable Message) (endpoint : Nat) : Prop :=
  ∀ entry, routing.lookup endpoint = some entry → entry.queue.messages.length = queueDepth →
    entry.blockedSender = none

lemma error_of_enqueue {routing' : RoutingTable Message} {gen : Option Nat} {sender : Option Slot}
    (h : routing.enqueue endpoint msg gen sender = (routing', .error e))
    (hne : e ≠ .queueFull) : e = .endpointDead ∧ routing' = routing := by
  have hout := routing.enqueue_outcome endpoint msg gen sender
  rw [h] at hout
  cases hout with
  | dead => exact ⟨rfl, rfl⟩
  | full => exact absurd rfl hne

lemma routingKeys_queued {entry : EndpointState Message} {queue : MessageQueue Message}
    (hlook : routing.lookup endpoint = some entry)
    (hqueue : queue.messages = entry.queue.messages ++ [msg]) :
    routingKeys (routing.write endpoint { entry with blockedReceiver := none, queue := queue }) =
      routingKeys routing + msgKeys msg := by
  have hwrite := @routingKeys_write routing endpoint entry
    { entry with blockedReceiver := none, queue := queue } hlook
  simp only [entryKeys, hqueue, map_append, sum_append, map_singleton, sum_singleton] at hwrite
  refine add_right_cancel (b := entryKeys entry) ?_
  simp only [entryKeys]
  rw [hwrite]
  abel

lemma routingKeys_parked {entry : EndpointState Message} {sender : Slot}
    (hlook : routing.lookup endpoint = some entry) (hnone : entry.blockedSender = none) :
    routingKeys (routing.write endpoint
        (EndpointState.offer.recordSender entry msg (some sender))) =
      routingKeys routing + msgKeys msg := by
  have hpend : entry.pendingSend = none := by
    have hpaired := entry.paired
    rw [hnone] at hpaired
    simpa using hpaired.symm
  have hwrite := @routingKeys_write routing endpoint entry
    (EndpointState.offer.recordSender entry msg (some sender)) hlook
  simp only [entryKeys, EndpointState.offer.recordSender, hpend, elim_none, add_zero] at hwrite
  refine add_right_cancel (b := entryKeys entry) ?_
  simp only [entryKeys, hpend, elim_none, add_zero, EndpointState.offer.recordSender]
  rw [hwrite]
  abel

/-- An enqueue adds what its message carries, unless the endpoint is dead or the
queue is full and nobody may park. -/
lemma routingKeys_enqueue (routing : RoutingTable Message) (endpoint : Nat) (msg : Message)
    (gen : Option Nat) (sender : Option Slot)
    (hspares : sender.isSome → Spares routing endpoint) :
    routingKeys (routing.enqueue endpoint msg gen sender).1 =
      match (routing.enqueue endpoint msg gen sender).2, sender with
      | .ok _, _ => routingKeys routing + msgKeys msg
      | .error .queueFull, some _ => routingKeys routing + msgKeys msg
      | _, _ => routingKeys routing := by
  have hout := routing.enqueue_outcome endpoint msg gen sender
  generalize routing.enqueue endpoint msg gen sender = result at hout
  cases hout with
  | dead => cases sender <;> rfl
  | queued entry queue hlook hlive hqueue => exact routingKeys_queued hlook hqueue
  | full entry hlook hlive hfull =>
    cases sender with
    | none =>
      show routingKeys (routing.write endpoint entry) = _
      rw [RoutingTable.write_lookup hlook]
    | some slot =>
      exact routingKeys_parked hlook
        (hspares rfl entry hlook (MessageQueue.length_eq_of_enqueue hfull))

lemma routingKeys_enqueue_of_empty {gen : Option Nat} {sender : Option Slot}
    (hempty : msgKeys msg = 0) (hspares : sender.isSome → Spares routing endpoint) :
    routingKeys (routing.enqueue endpoint msg gen sender).1 = routingKeys routing := by
  have hadd : routingKeys routing + msgKeys msg = routingKeys routing := by
    rw [hempty, add_zero]
  refine (routingKeys_enqueue routing endpoint msg gen sender hspares).trans ?_
  generalize (routing.enqueue endpoint msg gen sender).2 = answer
  cases answer with
  | ok receiver => exact hadd
  | error e =>
    cases sender with
    | none => cases e <;> rfl
    | some slot =>
      cases e with
      | queueFull => exact hadd
      | _ => rfl

lemma places_removeCap_of_carried {carriedSlot : Nat}
    (hcarried : s.slotKeys slot carriedSlot = {narrowForReceiver cap})
    (hkeys : routingKeys routing = routingKeys s.routing + msgKeys (buildMessage s slot [cap])) :
    ({ s with routing := routing }.removeCap slot carriedSlot).places = s.places := by
  have hremove := places_removeCap { s with routing := routing } slot carriedSlot
  have hsame : slotKeys { s with routing := routing } slot carriedSlot =
      {narrowForReceiver cap} := hcarried
  rw [hsame] at hremove
  refine add_right_cancel (b := {narrowForReceiver cap}) ?_
  rw [hremove]
  simp [places, hkeys, msgKeys, buildMessage, add_assoc]

/-- A delivery moves the carried capability from the table into the message, or
nothing at all. -/
lemma places_deliver {generation carriedSlot : Nat}
    (hcarried : s.slotKeys slot carriedSlot = {narrowForReceiver cap})
    (hspares : Spares s.routing endpoint) :
    (deliver s slot endpoint generation cap carriedSlot).1.places = s.places := by
  have hkeys := routingKeys_enqueue s.routing endpoint (buildMessage s slot [cap])
    (some generation) (some slot) (fun _ => hspares)
  unfold deliver
  split
  next routing receiver hres =>
    rw [hres] at hkeys
    exact places_removeCap_of_carried hcarried hkeys
  next routing hres =>
    rw [hres] at hkeys
    exact places_removeCap_of_carried hcarried hkeys
  next routing e hne hres =>
    obtain ⟨-, rfl⟩ := error_of_enqueue hres hne
    rfl

lemma places_awaitReply (s : State) (recv target : Cap) :
    (handleCall.awaitReply slot s recv target).places = s.places := by
  unfold handleCall.awaitReply
  split
  · rfl
  next task htask =>
    exact places_setTask_of_caps htask rfl

lemma Transfers.places {endpoint : Option Nat} (h : Transfers s slot endpoint result)
    (hspares : ∀ target, endpoint = some target → Spares s.routing target) :
    result.1.places = s.places := by
  cases h with
  | refused code hcode hres => rw [hres]
  | delivers target generation carriedSlot cap recv peer htarget hcarried hres =>
    have hdeliver := @places_deliver s slot cap target generation carriedSlot
      (slotKeys_of_lookupCap hcarried) (hspares target htarget)
    rcases hres with rfl | ⟨-, hawait⟩
    · exact hdeliver
    · rw [hawait, places_awaitReply, hdeliver]

end Deliver

section Receive

variable {s s' : State} {slot : Slot} {cap : Cap} {index : Nat}
  {routing routing' : RoutingTable Message} {msg : Message} {endpoint capGen : Nat}

/-- What `install_received_caps` reports as dropped: a capability that finds the
table full, or whose slot cannot be announced. -/
def dropOne (slot : Slot) (s : State) (cap : Cap) : Multiset Cap :=
  match s.insertCap slot (narrowForReceiver cap) with
  | none => {narrowForReceiver cap}
  | some (s', _) =>
    match s'.tasks slot with
    | none => 0
    | some task =>
      if task.pendingRecvCaps.length < maxPendingRecvCaps then 0 else {narrowForReceiver cap}

/-- What it reports over all capabilities of a message. -/
def dropped (slot : Slot) : State → List Cap → Multiset Cap
  | _, [] => 0
  | s, cap :: caps => dropOne slot s cap + dropped slot (installReceived slot s cap) caps

lemma slotKeys_of_insertCap (h : s.insertCap slot cap = some (s', index)) :
    s'.slotKeys slot index = {narrowForReceiver cap} := by
  unfold insertCap at h
  split at h
  next task htask =>
    obtain ⟨⟨caps, i⟩, hins, heq⟩ := map_eq_some_iff.mp h
    cases heq
    obtain ⟨-, rfl⟩ := CapTable.insert_spec hins
    simp [slotKeys, setTask, CapTable.slotAt, capKeys]
  · cases h

lemma places_installReceived (slot : Slot) (s : State) (cap : Cap) :
    (installReceived slot s cap).places + dropOne slot s cap =
      s.places + {narrowForReceiver cap} := by
  unfold installReceived dropOne
  cases hins : s.insertCap slot (narrowForReceiver cap) with
  | none => rfl
  | some got =>
    obtain ⟨s', index⟩ := got
    have hplaces := places_insertCap hins
    have hslot := slotKeys_of_insertCap hins
    rw [narrowForReceiver_idem] at hplaces hslot
    simp only
    cases htask : s'.tasks slot with
    | none => simp [hplaces]
    | some task =>
      simp only
      split
      · rw [add_zero, ← hplaces]
        exact places_setTask_of_caps htask rfl
      · rw [← hslot, places_removeCap, hplaces, hslot]

lemma places_foldl_installReceived (slot : Slot) (s : State) (caps : List Cap) :
    (caps.foldl (installReceived slot) s).places + dropped slot s caps =
      s.places + ↑(caps.map narrowForReceiver) := by
  induction caps generalizing s with
  | nil => simp [dropped]
  | cons cap caps ih =>
    have hfirst := places_installReceived slot s cap
    have hrest := ih (installReceived slot s cap)
    rw [foldl_cons, dropped, add_left_comm, hrest, ← add_assoc, add_comm (dropOne _ _ _),
      hfirst, add_assoc]
    rfl

lemma places_installReceivedCaps
    (hkeys : routingKeys routing + msgKeys msg = routingKeys s.routing) :
    (installReceivedCaps { s with routing := routing } slot msg).places +
      dropped slot { s with routing := routing } msg.caps = s.places := by
  have hinstall := places_foldl_installReceived slot { s with routing := routing } msg.caps
  rw [installReceivedCaps, hinstall]
  simp only [places]
  rw [add_assoc, ← hkeys]
  rfl

/-- A receive path that takes a message out of an entry takes its capabilities
out of the routing table. -/
lemma routingKeys_of_released {entry entry' : EndpointState Message} {rest : List Message}
    (hlook : routing.lookup endpoint = some entry)
    (hrel : EndpointState.Released entry rest entry')
    (hperm : entry.queue.messages.Perm (msg :: rest)) :
    routingKeys (routing.write endpoint entry') + msgKeys msg = routingKeys routing := by
  have hwrite := @routingKeys_write routing endpoint entry entry' hlook
  have hqueue : (entry.queue.messages.map msgKeys).sum = msgKeys msg + (rest.map msgKeys).sum := by
    rw [(hperm.map msgKeys).sum_eq, map_cons, sum_cons]
  have hpend : ∀ pending : Option Message,
      (pending.toList.map msgKeys).sum = pending.elim 0 msgKeys := by
    intro pending
    cases pending <;> simp
  simp only [entryKeys, hrel.messages, hrel.pendingSend, map_append,
    sum_append, elim_none, add_zero, hqueue, hpend] at hwrite
  refine add_right_cancel (b := (rest.map msgKeys).sum + entry.pendingSend.elim 0 msgKeys) ?_
  rw [← hwrite]
  abel

lemma routingKeys_dequeue {receiver sender : Option Slot}
    (h : routing.dequeue endpoint capGen receiver = (routing', .ok (msg, sender))) :
    routingKeys routing' + msgKeys msg = routingKeys routing := by
  have hout := routing.dequeue_outcome endpoint capGen receiver
  rw [h] at hout
  cases hout with
  | taken entry entry' msg rest hlook _ hqueue hrel =>
    exact routingKeys_of_released hlook hrel (by rw [hqueue])

lemma routingKeys_dequeueReply {accepts : Message → Bool} {sender : Option Slot}
    (h : routing.dequeueReply endpoint capGen accepts = (routing', .ok (msg, sender))) :
    routingKeys routing' + msgKeys msg = routingKeys routing := by
  have hout := routing.dequeueReply_outcome endpoint capGen accepts
  rw [h] at hout
  cases hout with
  | taken entry entry' msg hlook _ hfind hrel =>
    exact routingKeys_of_released hlook hrel (FirstMatch.perm_eraseP_of_find? hfind)

lemma routingKeys_dequeue_error {receiver : Option Slot}
    (h : routing.dequeue endpoint capGen receiver = (routing', .error e)) :
    routingKeys routing' = routingKeys routing := by
  have hout := routing.dequeue_outcome endpoint capGen receiver
  rw [h] at hout
  cases hout with
  | dead | unregistered => rfl
  | registered entry slot _ hlook =>
    have hwrite := @routingKeys_write routing endpoint entry
      { entry with blockedReceiver := some slot } hlook
    exact add_right_cancel hwrite

lemma routingKeys_dequeueReply_error {accepts : Message → Bool}
    (h : routing.dequeueReply endpoint capGen accepts = (routing', .error e)) :
    routing' = routing := by
  have hout := routing.dequeueReply_outcome endpoint capGen accepts
  rw [h] at hout
  cases hout with
  | dead | empty => rfl

end Receive

/-- The capabilities in the messages to an endpoint. -/
def endpointKeys (routing : RoutingTable Message) (endpoint : Nat) : Multiset Cap :=
  (routing.lookup endpoint).elim 0 entryKeys

/-- What a death destroys: the messages to the reply endpoint, then those to the
receive endpoint, and the table of the task. -/
def deathKeys (task : Task) : Multiset Cap :=
  task.replyEndpoint.elim 0 (endpointKeys s.routing) +
    (closeReply s task true).elim 0 (fun closed =>
      task.endpoint.elim 0 (endpointKeys closed.routing)) +
    tableKeys task.caps

def recvDropped (slot : Slot) (index : Nat) : Multiset Cap :=
  match s.lookupCap slot index .RECV with
  | .error _ => 0
  | .ok cap =>
    match s.routing.dequeue cap.resourceId cap.generation (some slot) with
    | (routing, .ok (msg, _)) => dropped slot { s with routing := routing } msg.caps
    | (_, .error _) => 0

def replyDropped (slot : Slot) : Multiset Cap :=
  match (s.tasks slot).bind Task.call with
  | none => 0
  | some call =>
    match s.routing.dequeueReply call.recvEp call.recvGen
      (fun msg => msg.senderEp == call.target) with
    | (routing, .ok (msg, _)) => dropped slot { s with routing := routing } msg.caps
    | (_, .error _) => 0

def Op.gone : Op → Multiset Cap
  | .recv slot index _ => recvDropped s slot index
  | .callReply slot => replyDropped s slot
  | .removeCap slot index => s.slotKeys slot index
  | .kill slot => (s.tasks slot).elim 0 (deathKeys s)
  | _ => 0

section Death

variable {s s' : State} {slot : Slot} {task : Task} {endpoint : Nat}

lemma routingKeys_killEndpoint {routing routing' : RoutingTable Message}
    {receiver sender : Option Slot}
    (h : routing.killEndpoint endpoint = some (routing', receiver, sender)) :
    routingKeys routing' + endpointKeys routing endpoint = routingKeys routing := by
  cases RoutingTable.killEndpoint_outcome h with
  | absent hnone => simp [endpointKeys, hnone]
  | killed entry entry' hlook _ _ hqueue _ _ hpend =>
    have hwrite := @routingKeys_write routing endpoint entry entry' hlook
    have hempty : entryKeys entry' = 0 := by simp [entryKeys, hqueue, hpend]
    simpa [endpointKeys, hlook, hempty] using hwrite

lemma places_closeEndpoint (h : closeEndpoint s endpoint = some s') :
    s'.places + endpointKeys s.routing endpoint = s.places ∧ s'.tasks = s.tasks := by
  obtain ⟨routing, receiver, sender, ledger, hkill, -, rfl⟩ := closeEndpoint_spec h
  refine ⟨?_, rfl⟩
  simp only [places]
  rw [add_assoc, routingKeys_killEndpoint hkill]

lemma places_closeReply (h : closeReply s task true = some s') :
    s'.places + task.replyEndpoint.elim 0 (endpointKeys s.routing) = s.places ∧
      s'.tasks = s.tasks := by
  unfold closeReply at h
  cases hreply : task.replyEndpoint with
  | none =>
    simp only [hreply, some.injEq] at h
    subst h
    simp
  | some reply =>
    simp only [hreply] at h
    obtain ⟨closed, hclose, rfl⟩ := map_eq_some_iff.mp h
    have hclosed := places_closeEndpoint hclose
    simpa [places] using hclosed

lemma places_retire (htask : s.tasks slot = some task) :
    (retire s slot task).places + tableKeys task.caps = s.places := by
  have hset := places_setTask s slot none
  rw [htask] at hset
  simp only [taskKeys, elim_none, add_zero] at hset
  unfold retire
  split
  · exact hset
  · exact hset

lemma places_killTask (htask : s.tasks slot = some task) (h : killTask s slot = some s') :
    s'.places + deathKeys s task = s.places := by
  unfold killTask at h
  simp only [htask] at h
  split at h
  · cases h
  rename_i closed hreply
  obtain ⟨hplaces, htasks⟩ := places_closeReply hreply
  have hclosed : closed.tasks slot = some task := by rw [htasks, htask]
  split at h
  next hnone =>
    cases h
    have hretire := places_retire hclosed
    simp only [deathKeys, hreply, hnone, elim_some, elim_none, add_zero]
    rw [add_left_comm, hretire, add_comm, hplaces]
  rename_i endpoint hsome
  split at h
  · cases h
  rename_i dead hclose
  obtain ⟨hdead, htasks'⟩ := places_closeEndpoint hclose
  obtain ⟨released, hrelease, rfl⟩ := map_eq_some_iff.mp h
  obtain ⟨⟨band, ledger⟩, -, rfl⟩ := map_eq_some_iff.mp hrelease
  have hretire := @places_retire
    { dead with band := band, ledger := ledger, irqs := releasedIrqs dead.irqs task } slot task
    (by simpa [htasks'] using hclosed)
  have hsame : places { dead with
      band := band, ledger := ledger, irqs := releasedIrqs dead.irqs task } = dead.places := rfl
  simp only [deathKeys, hreply, hsome, elim_some]
  rw [← hplaces, ← hdead, ← hsame, ← hretire]
  abel

end Death

/-- The endpoint that the operation sends to, if its lookups succeed; only a
sender that may park counts. -/
def Op.target : Op → Option Nat
  | .send slot index true => (s.lookupCap slot index .SEND).toOption.map Cap.resourceId
  | .sendWithCap slot endpointSlot _ =>
    (s.lookupCap slot endpointSlot .SEND).toOption.map Cap.resourceId
  | .call slot targetSlot _ _ => (s.lookupCap slot targetSlot .SEND).toOption.map Cap.resourceId
  | .resourceInvoke slot fileSlot _ right =>
    (s.lookupCap slot fileSlot right).toOption.bind fun file => s.band.ownerOf file.resourceId
  | _ => none

/-- The steps of a transfer: those that move capabilities, and the deaths. -/
def Op.transfers : Op → Bool
  | .recv .. | .send .. | .sendWithCap .. | .call .. | .callReply .. | .resourceInvoke .. => true
  | .removeCap .. | .takePendingCap .. | .kill .. => true
  | _ => false

/-- A transfer step that overwrites no parked sender. -/
structure MovesCaps (s : State) (op : Op) : Prop where
  transfers : op.transfers = true
  spares : ∀ endpoint, op.target s = some endpoint → Spares s.routing endpoint

section Step

variable {s s' : State}

lemma places_handleRecv (s : State) (slot : Slot) (index : Nat) (mode : RecvMode) :
    (handleRecv s slot index mode).1.places + recvDropped s slot index = s.places := by
  unfold handleRecv recvDropped
  cases hlook : s.lookupCap slot index .RECV with
  | error e => simp
  | ok cap =>
    simp only
    rcases hdeq : s.routing.dequeue cap.resourceId cap.generation (some slot) with
      ⟨routing, e | ⟨msg, sender⟩⟩
    · have hkeys := routingKeys_dequeue_error hdeq
      cases e <;> simp [places, hkeys]
    · exact places_installReceivedCaps (routingKeys_dequeue hdeq)

lemma places_endCall (s : State) (slot : Slot) : (endCall s slot).places = s.places := by
  unfold endCall
  split
  · rfl
  next task htask =>
    exact places_setTask_of_caps htask rfl

lemma places_handleCallReply (s : State) (slot : Slot) :
    (handleCallReply s slot).1.places + replyDropped s slot = s.places := by
  unfold handleCallReply replyDropped
  cases hcall : (s.tasks slot).bind Task.call with
  | none => simp
  | some call =>
    simp only
    rcases hdeq : s.routing.dequeueReply call.recvEp call.recvGen
      (fun msg => msg.senderEp == call.target) with ⟨routing, e | ⟨msg, sender⟩⟩
    · have hsame := routingKeys_dequeueReply_error hdeq
      subst hsame
      cases e <;> simp [places_endCall]
    · simp only [places_endCall]
      exact places_installReceivedCaps (routingKeys_dequeueReply hdeq)

/-- A plain send carries nothing; it moves nothing as long as it overwrites
nobody. -/
lemma places_handleSend {slot : Slot} {index : Nat} {blocking : Bool}
    (hspares : ∀ endpoint, (Op.send slot index blocking).target s = some endpoint →
      Spares s.routing endpoint) : (handleSend s slot index blocking).1.places = s.places := by
  unfold handleSend
  split
  · rfl
  rename_i target htarget
  have hnothing : msgKeys (buildMessage s slot []) = 0 := rfl
  have hsender : (if blocking then some slot else none).isSome →
      Spares s.routing target.resourceId := by
    intro hsome
    cases blocking with
    | false => cases hsome
    | true => exact hspares _ (by simp [Op.target, htarget, Except.toOption])
  have hsame := @routingKeys_enqueue_of_empty _ _ _ (some target.generation) _ hnothing hsender
  split
  next routing receiver hres =>
    rw [hres] at hsame
    simp only [places, hsame]
  next routing hres =>
    rw [hres] at hsame
    simp only [places, hsame]
  next routing e _ hres =>
    rw [hres] at hsame
    simp only [places, hsame]

/-- **One step.**  A transfer step that overwrites no parked sender moves
capabilities between places and destroys what `Op.gone` says. -/
theorem places_step {op : Op} (h : MovesCaps s op) (hstep : step s op = some s') :
    s'.places + op.gone s = s.places := by
  cases op with
  | recv slot index mode =>
    cases hstep
    exact places_handleRecv s slot index mode
  | send slot index blocking =>
    cases hstep
    exact (add_zero _).trans (places_handleSend h.spares)
  | sendWithCap slot endpointSlot grantSlot =>
    cases hstep
    exact (add_zero _).trans ((transfers_handleSendWithCap s slot _ _).places h.spares)
  | call slot targetSlot replySlot recvSlot =>
    cases hstep
    exact (add_zero _).trans ((transfers_handleCall s slot _ _ _).places h.spares)
  | callReply slot =>
    cases hstep
    exact places_handleCallReply s slot
  | resourceInvoke slot fileSlot replySlot right =>
    cases hstep
    exact (add_zero _).trans ((transfers_handleResourceInvoke s slot _ _ _).places h.spares)
  | removeCap slot index =>
    cases hstep
    exact places_removeCap s slot index
  | takePendingCap slot =>
    cases hstep
    refine (add_zero _).trans ?_
    show (handleTakePendingCap s slot).1.places = s.places
    unfold handleTakePendingCap
    split
    · rfl
    rename_i task htask
    split
    · rfl
    · exact places_setTask_of_caps htask rfl
  | kill slot =>
    cases htask : s.tasks slot with
    | none =>
      simp only [step, killTask, htask, some.injEq] at hstep
      subst hstep
      simp [Op.gone, htask]
    | some task =>
      have hkill := places_killTask htask hstep
      simpa [Op.gone, htask] using hkill
  | spawnSupervisor | respawnSupervisor | spawnImage | resourceMint | resourceRevoke | deriveCap | acquireSendCap =>
    exact absurd h.transfers (by simp [Op.transfers])

/-- The machine with the tally of what was destroyed. -/
def tally (p : State × Multiset Cap) (op : Op) : Option (State × Multiset Cap) :=
  (step p.1 op).map fun t => (t, p.2 + op.gone p.1)

lemma places_of_reaches {p q : State × Multiset Cap}
    (h : Reaches tally (fun p op => MovesCaps p.1 op) p q) :
    q.1.places + q.2 = p.1.places + p.2 := by
  refine h.invariant (I := fun q => q.1.places + q.2 = p.1.places + p.2) rfl ?_
  rintro ⟨t, gone⟩ op u hI hok hstep
  obtain ⟨t', ht', rfl⟩ := map_eq_some_iff.mp hstep
  have hplaces := places_step hok ht'
  rw [← hI, ← hplaces]
  dsimp only
  abel

end Step

/-- The three transfers and what they return. -/
def Op.transfer : Op → Option (State × Reply)
  | .sendWithCap slot endpointSlot grantSlot =>
    some (handleSendWithCap s slot endpointSlot grantSlot)
  | .call slot targetSlot replySlot recvSlot => some (handleCall s slot targetSlot replySlot recvSlot)
  | .resourceInvoke slot fileSlot replySlot right =>
    some (handleResourceInvoke s slot fileSlot replySlot right)
  | _ => none

/-- The queue of the endpoint has room. -/
def HasRoom (routing : RoutingTable Message) (endpoint : Nat) : Prop :=
  ∀ entry, routing.lookup endpoint = some entry → entry.queue.messages.length < queueDepth

/-- The call failed and every table is as it was. -/
def FailedClean (result : State × Reply) : Prop :=
  (∃ code, code ≠ 0 ∧ result.2 = .code code) ∧ result.1.tasks = s.tasks

/-- A message with a capability stands in the queue of the endpoint. -/
def Delivered (result : State × Reply) (endpoint : Nat) : Prop :=
  ∃ entry msg, result.1.routing.lookup endpoint = some entry ∧ msg ∈ entry.queue.messages ∧
    msg.caps ≠ []

section Failure

variable {s : State} {slot : Slot}

lemma failedClean_code {code : Int} (h : code ≠ 0) : FailedClean s (s, .code code) :=
  ⟨⟨code, h, rfl⟩, rfl⟩

lemma routing_removeCap (s : State) (slot : Slot) (index : Nat) :
    (s.removeCap slot index).routing = s.routing := by
  unfold removeCap
  split <;> rfl

lemma deliver_of_room {endpoint generation carriedSlot : Nat} {cap : Cap}
    (hroom : HasRoom s.routing endpoint) :
    FailedClean s (deliver s slot endpoint generation cap carriedSlot) ∨
      ((deliver s slot endpoint generation cap carriedSlot).2 = .code 0 ∧
        Delivered (deliver s slot endpoint generation cap carriedSlot) endpoint) := by
  have hout := s.routing.enqueue_outcome endpoint (buildMessage s slot [cap])
    (some generation) (some slot)
  unfold deliver
  generalize s.routing.enqueue endpoint (buildMessage s slot [cap]) (some generation)
    (some slot) = result at hout
  cases hout with
  | dead => exact .inl (failedClean_code (by decide))
  | queued entry queue hlook _ hqueue =>
    refine .inr ⟨rfl, { entry with blockedReceiver := none, queue := queue },
      buildMessage s slot [cap], ?_, ?_, by simp [buildMessage]⟩
    · exact (routing_removeCap _ _ _).symm ▸ RoutingTable.lookup_write_self hlook
    · simp [hqueue]
  | full entry hlook _ hfull =>
    have hlt := hroom entry hlook
    have heq := MessageQueue.length_eq_of_enqueue hfull
    omega

lemma routing_awaitReply (s : State) (recv target : Cap) :
    (handleCall.awaitReply slot s recv target).routing = s.routing := by
  unfold handleCall.awaitReply
  split <;> rfl

/-- A transfer that finds room fails and changes no table, or its message stands
in the queue. -/
lemma Transfers.of_room {endpoint : Option Nat} (h : Transfers s slot endpoint result)
    (hroom : ∀ target, endpoint = some target → HasRoom s.routing target) :
    FailedClean s result ∨ ∃ target, endpoint = some target ∧ Delivered result target := by
  cases h with
  | refused code hcode hres =>
    rw [hres]
    exact .inl (failedClean_code hcode)
  | delivers target generation carriedSlot cap recv peer htarget hcarried hres =>
    have hdeliver := @deliver_of_room s slot target generation carriedSlot cap
      (hroom target htarget)
    rcases hres with rfl | ⟨hcode, hawait⟩
    · exact hdeliver.imp_right fun h => ⟨target, htarget, h.2⟩
    rcases hdeliver with ⟨⟨code, hne, heq⟩, -⟩ | ⟨-, entry, msg, hlook, hmsg⟩
    · exact absurd heq (hcode code hne)
    · refine .inr ⟨target, htarget, entry, msg, ?_, hmsg⟩
      rw [hawait, routing_awaitReply]
      exact hlook

lemma transfer_of_room {op : Op} (h : op.transfer s = some result)
    (hroom : ∀ endpoint, op.target s = some endpoint → HasRoom s.routing endpoint) :
    FailedClean s result ∨ ∃ endpoint, op.target s = some endpoint ∧ Delivered result endpoint := by
  cases op with
  | sendWithCap slot endpointSlot grantSlot =>
    cases h
    exact (transfers_handleSendWithCap s slot _ _).of_room hroom
  | call slot targetSlot replySlot recvSlot =>
    cases h
    exact (transfers_handleCall s slot _ _ _).of_room hroom
  | resourceInvoke slot fileSlot replySlot right =>
    cases h
    exact (transfers_handleResourceInvoke s slot _ _ _).of_room hroom
  | _ => cases h

/-- **Transfers move.**  Along every run of transfer steps and deaths that
overwrites no parked sender, the capabilities in all places and the ones destroyed
together stay the same; so one that there was once is in exactly one place or was
destroyed.  A transfer that finds room in the queue it sends to fails and changes
no table, or its message stands in that queue. -/
theorem transfer_conserves {s t : State} {gone : Multiset Cap}
    (h : Reaches tally (fun p op => MovesCaps p.1 op) (s, 0) (t, gone)) :
    t.places + gone = s.places ∧
      (∀ cap, s.places.count cap = 1 →
        (t.places.count cap = 1 ∧ gone.count cap = 0) ∨
          (t.places.count cap = 0 ∧ gone.count cap = 1)) ∧
      ∀ (op : Op) (result : State × Reply), op.transfer t = some result →
        (∀ endpoint, op.target t = some endpoint → HasRoom t.routing endpoint) →
        FailedClean t result ∨
          ∃ endpoint, op.target t = some endpoint ∧ Delivered result endpoint := by
  have hplaces : t.places + gone = s.places := by simpa using places_of_reaches h
  refine ⟨hplaces, fun cap hone => ?_, fun op result hresult hroom =>
    transfer_of_room hresult hroom⟩
  rw [← hplaces, Multiset.count_add] at hone
  omega

/-- A client with a receiver whose queue it fills. -/
def fullQueue : List Op :=
  [.spawnSupervisor 0, .spawnImage 0 1 1 (plainRequest [97] false [] false),
    .spawnImage 0 2 1 { plainRequest [98] false [] false with peers := [[97]] }] ++
  List.replicate 16 (.send 2 5 true)

/-- Two transfers into a full queue: the second parks over the first, whose
capability is then nowhere although nothing was destroyed; and when the receiver
dies, the second returns `EndpointDead` with its capability gone from its table. -/
theorem transfer_loses_capability : ∃ s t u : State, Reached s ∧
    Reaches tally (fun _ op => op.transfers = true) (s, 0) (u, 0) ∧
    handleSendWithCap s 0 25 5 = (t, .blocks) ∧ handleSendWithCap t 2 5 4 = (u, .blocks) ∧
    s.places.count ⟨101, Rights.SEND.union .GRANT, 2⟩ = 1 ∧
    u.places.count ⟨101, Rights.SEND.union .GRANT, 2⟩ = 0 ∧
    (∃ routing, u.routing.killEndpoint 102 = some (routing, none, some 2)) ∧
    t.slotKeys 2 4 = {⟨105, Rights.SEND.union .GRANT, 6⟩} ∧ u.slotKeys 2 4 = 0 := by
  obtain ⟨s, hs, hbefore, hfirst, hsecond, hafter, hkill, hslots⟩ : ∃ s, Reached s ∧
      s.places.count ⟨101, Rights.SEND.union .GRANT, 2⟩ = 1 ∧
      (handleSendWithCap s 0 25 5).2 = .blocks ∧
      (handleSendWithCap (handleSendWithCap s 0 25 5).1 2 5 4).2 = .blocks ∧
      (handleSendWithCap (handleSendWithCap s 0 25 5).1 2 5 4).1.places.count
        ⟨101, Rights.SEND.union .GRANT, 2⟩ = 0 ∧
      ((handleSendWithCap (handleSendWithCap s 0 25 5).1 2 5 4).1.routing.killEndpoint 102).map
        Prod.snd = some (none, some 2) ∧
      (handleSendWithCap s 0 25 5).1.slotKeys 2 4 = {⟨105, Rights.SEND.union .GRANT, 6⟩} ∧
      (handleSendWithCap (handleSendWithCap s 0 25 5).1 2 5 4).1.slotKeys 2 4 = 0 :=
    exists_reaches fullQueue (by decide +kernel)
  obtain ⟨⟨routing, _⟩, hkill, rfl⟩ := map_eq_some_iff.mp hkill
  have hfirstStep : tally (s, 0) (.sendWithCap 0 25 5) =
      some ((handleSendWithCap s 0 25 5).1, 0) := rfl
  have hsecondStep : tally ((handleSendWithCap s 0 25 5).1, 0) (.sendWithCap 2 5 4) =
      some ((handleSendWithCap (handleSendWithCap s 0 25 5).1 2 5 4).1, 0) := rfl
  exact ⟨s, _, _, hs, .tail _ (.tail _ .refl rfl hfirstStep) rfl hsecondStep,
    Prod.ext rfl hfirst, Prod.ext rfl hsecond, hbefore, hafter, ⟨routing, hkill⟩, hslots⟩

/-- With room in the queue the capability arrives: it is in exactly one place. -/
theorem transfer_arrives : ∃ s t : State, Reached s ∧
    Reaches tally (fun p op => MovesCaps p.1 op) (s, 0) (t, 0) ∧
    s.slotKeys 0 5 = {⟨101, Rights.SEND.union .GRANT, 2⟩} ∧
    t.slotKeys 1 5 = {⟨101, Rights.SEND.union .GRANT, 2⟩} ∧
    t.places.count ⟨101, Rights.SEND.union .GRANT, 2⟩ = 1 := by
  obtain ⟨s, hs, hone, hheld, htarget, hempty, harrived, hgone⟩ : ∃ s, Reached s ∧
      s.places.count ⟨101, Rights.SEND.union .GRANT, 2⟩ = 1 ∧
      s.slotKeys 0 5 = {⟨101, Rights.SEND.union .GRANT, 2⟩} ∧
      (Op.sendWithCap 0 25 5).target s = some 102 ∧
      (∀ entry ∈ s.routing.lookup 102, entry.queue.messages.length = 0) ∧
      (handleRecv (handleSendWithCap s 0 25 5).1 1 1 .recv).1.slotKeys 1 5 =
        {⟨101, Rights.SEND.union .GRANT, 2⟩} ∧
      (Op.recv 1 1 .recv).gone (handleSendWithCap s 0 25 5).1 = 0 :=
    exists_reaches [.spawnSupervisor 0,
      .spawnImage 0 1 1 (plainRequest [97] false [] false)] (by decide +kernel)
  have hspares : ∀ endpoint, (Op.sendWithCap 0 25 5).target s = some endpoint →
      Spares s.routing endpoint := by
    intro endpoint hendpoint entry hlookup hfull
    rw [htarget] at hendpoint
    cases hendpoint
    have hzero := hempty entry hlookup
    rw [hfull] at hzero
    exact absurd hzero (by decide)
  have hmoves : Reaches tally (fun p op => MovesCaps p.1 op) (s, 0)
      ((handleRecv (handleSendWithCap s 0 25 5).1 1 1 .recv).1, 0) := by
    refine .tail (.recv 1 1 .recv) (.tail (.sendWithCap 0 25 5) .refl ⟨rfl, hspares⟩ rfl)
      ⟨rfl, fun endpoint h => absurd h (by simp [Op.target])⟩ ?_
    simp only [tally]
    rw [hgone]
    rfl
  refine ⟨s, _, hs, hmoves, hheld, harrived, ?_⟩
  rcases (transfer_conserves hmoves).2.1 _ hone with ⟨hplace, -⟩ | ⟨-, hnone⟩
  · exact hplace
  · cases hnone

end Failure

end Godspeed.Authority
