import Godspeed.Capability.Generation
import Godspeed.Ipc.Queue

/-!
# The routing table

`ipc/routing.rs`: the fixed table of endpoints, each with its liveness, its
generation, its queue and the two task slots that may be parked on it, and the
per-task record `CALL_AWAIT_EP` of the endpoint a synchronous Call waits for.

Every function of the source takes the table lock once, so each one is a single
function on the table here.  They all find the first valid entry with an id and
write back through its index; `RoutingTable.lookup` and `RoutingTable.write` are
those two halves, and the laws of the second part say what a later lookup sees.
The table carries the invariant that makes these laws exact: valid entries have
distinct ids.

The message type is a parameter, so that each machine built on the table can
stamp messages with what its properties talk about.
-/

namespace Godspeed.Ipc

open FirstMatch List

/-- `MAX_TASKS`. -/
def maxTasks : Nat := 224

instance : NeZero maxTasks := ⟨by decide⟩

abbrev Slot := Fin maxTasks

/-- `MAX_ENDPOINTS`. -/
def maxEndpoints : Nat := 96

/-- The `IpcError`s of the routing functions. -/
inductive IpcError
  | endpointDead
  | queueFull
  | queueEmpty
  | messageTooLarge
  | replyDead
  deriving DecidableEq, Repr

/-- `ipc_err_to_i64`. -/
def IpcError.code : IpcError → Int
  | .endpointDead => -7
  | .queueFull => -8
  | .queueEmpty => -9
  | .messageTooLarge => -10
  | .replyDead => -12

/-- `EndpointLiveness`. -/
inductive EndpointLiveness
  | alive
  | dead
  deriving DecidableEq, Repr

/-- The fields of a `RoutingEntry` other than its key.  A blocked sender and its
pending message are recorded, taken and dropped together. -/
structure EndpointState (α : Type*) where
  coreId : Nat
  generation : Nat
  liveness : EndpointLiveness
  queue : MessageQueue α
  blockedReceiver : Option Slot
  blockedSender : Option Slot
  pendingSend : Option α
  paired : blockedSender.isSome = pendingSend.isSome

/-- `RoutingEntry`. -/
structure RoutingEntry (α : Type*) extends EndpointState α where
  valid : Bool
  id : Nat

namespace EndpointState

variable {α : Type*} (entry : EndpointState α)

/-- The state a registration leaves: alive, empty, nobody parked. -/
def fresh (coreId generation : Nat) : EndpointState α where
  coreId := coreId
  generation := generation
  liveness := .alive
  queue := .new
  blockedReceiver := none
  blockedSender := none
  pendingSend := none
  paired := rfl

/-- `check_live`; without a generation only the liveness is tested, as in the
kernel's own enqueue paths. -/
def checkLive (capGen : Option Nat) : Bool :=
  entry.liveness = .alive && capGen.all (· == entry.generation)

/-- The body shared by `enqueue_locked`, `enqueue_from_interrupt` and
`enqueue_from_kernel_blocking`: take the blocked receiver out, try to enqueue;
on a full queue put the receiver back and record the sender, if there is one to
record, over whatever was recorded before. -/
def offer (msg : α) (senderSlot : Option Slot) : EndpointState α × Except IpcError (Option Slot) :=
  match entry.blockedReceiver with
  | some slot =>
    match entry.queue.enqueue msg with
    | some queue => ({ entry with blockedReceiver := none, queue := queue }, .ok (some slot))
    | none => (recordSender entry msg senderSlot, .error .queueFull)
  | none =>
    match entry.queue.enqueue msg with
    | some queue => ({ entry with queue := queue }, .ok none)
    | none => (recordSender entry msg senderSlot, .error .queueFull)
where
  /-- Record `blocked_sender` and `pending_send` for a sender that will park. -/
  recordSender (entry : EndpointState α) (msg : α) : Option Slot → EndpointState α
    | some slot =>
      { entry with blockedSender := some slot, pendingSend := some msg, paired := rfl }
    | none => entry

/-- What a successful dequeue does next: take the blocked sender out and move
its pending message into the queue. -/
def releaseSender : EndpointState α × Option Slot :=
  match entry.blockedSender with
  | some slot =>
    match entry.pendingSend with
    | some pending =>
      ({ entry with
          blockedSender := none
          pendingSend := none
          paired := rfl
          queue := (entry.queue.enqueue pending).getD entry.queue }, some slot)
    | none =>
      ({ entry with blockedSender := none, pendingSend := none, paired := rfl }, some slot)
  | none => (entry, none)

/-- The body of `kill_endpoint`; `none` is the panic of a generation overflow. -/
def kill : Option (EndpointState α × Option Slot × Option Slot) :=
  (Capability.Generation.bump entry.generation).map fun generation =>
    ({ entry with
        liveness := .dead
        generation := generation
        queue := .new
        blockedReceiver := none
        blockedSender := none
        pendingSend := none
        paired := rfl },
      entry.blockedReceiver, entry.blockedSender)

end EndpointState

namespace RoutingEntry

variable {α : Type*}

/-- `RoutingEntry::empty`. -/
def empty : RoutingEntry α where
  toEndpointState := { EndpointState.fresh 0 0 with liveness := .alive }
  valid := false
  id := 0

/-- The test of `find_index`. -/
def named (id : Nat) (entry : RoutingEntry α) : Bool :=
  entry.valid && entry.id == id

/-- The test for a slot that a registration may take over. -/
def reusable (entry : RoutingEntry α) : Bool :=
  !entry.valid || entry.liveness == .dead

end RoutingEntry

/-- The static `TABLE`. -/
structure RoutingTable (α : Type*) where
  entries : List (RoutingEntry α)
  distinct : entries.Pairwise fun a b => a.valid = true → b.valid = true → a.id ≠ b.id

open RoutingEntry

namespace RoutingTable

variable {α : Type*} (table : RoutingTable α) (id : Nat)

def init : RoutingTable α where
  entries := replicate maxEndpoints .empty
  distinct := pairwise_replicate.mpr (.inr (by simp [empty]))

/-- The entry `find_index` returns, without its key. -/
def lookup : Option (EndpointState α) :=
  (table.entries.find? (named id)).map toEndpointState

/-- Write the entry of `id` back through the index `find_index` returned. -/
def write (state : EndpointState α) : RoutingTable α where
  entries := modifyFirst (named id)
    (fun entry => { entry with toEndpointState := state }) table.entries
  distinct := pairwise_modifyFirst table.distinct (fun _ _ _ _ _ h => h) (fun _ _ _ _ _ h => h)

lemma id_ne_of_find?_eq_none {entries : List (RoutingEntry α)} {id : Nat}
    (h : entries.find? (named id) = none) {entry : RoutingEntry α}
    (hmem : entry ∈ entries) (hvalid : entry.valid) : entry.id ≠ id := by
  intro hid
  have hnot := find?_eq_none.mp h entry hmem
  simp [named, hvalid, hid] at hnot

/-- `try_register`: over the valid entry with the same id, else over the first
entry that is unused or dead; refused when there is none. -/
def tryRegister (id coreId generation : Nat) : Option (RoutingTable α) :=
  match h : table.entries.find? (named id) with
  | some _ => some (table.write id (.fresh coreId generation))
  | none =>
    match table.entries.find? reusable with
    | some _ => some {
        entries := modifyFirst reusable
          (fun _ => { toEndpointState := .fresh coreId generation, valid := true, id := id })
          table.entries
        distinct := by
          refine pairwise_modifyFirst table.distinct ?_ ?_
          · intro a b _ hb _ _ _ hbv
            exact (id_ne_of_find?_eq_none h hb hbv).symm
          · intro a b ha _ _ _ hav _
            exact id_ne_of_find?_eq_none h ha hav }
    | none => none

/-- `get_generation`: also of a dead entry, and `INITIAL` without one. -/
def getGeneration : Nat :=
  ((table.lookup id).map EndpointState.generation).getD Capability.Generation.initial

/-- `enqueue`; `enqueue_from_kernel_blocking` is the call without a generation
to check, `enqueue_from_interrupt` the one without a sender either. -/
def enqueue (endpoint : Nat) (msg : α) (capGen : Option Nat)
    (senderSlot : Option Slot) : RoutingTable α × Except IpcError (Option Slot) :=
  match table.lookup endpoint with
  | none => (table, .error .endpointDead)
  | some entry =>
    if entry.checkLive capGen then
      let (entry', result) := entry.offer msg senderSlot
      (table.write endpoint entry', result)
    else (table, .error .endpointDead)

/-- `dequeue`: on an empty queue the receiver is recorded, if a slot is given. -/
def dequeue (table : RoutingTable α) (endpoint capGen : Nat) (receiverSlot : Option Slot) :
    RoutingTable α × Except IpcError (α × Option Slot) :=
  match table.lookup endpoint with
  | none => (table, .error .endpointDead)
  | some entry =>
    if entry.checkLive (some capGen) then
      match entry.queue.dequeue with
      | some (msg, queue) =>
        let (entry', sender) := { entry with queue := queue }.releaseSender
        (table.write endpoint entry', .ok (msg, sender))
      | none =>
        match receiverSlot with
        | some slot =>
          (table.write endpoint { entry with blockedReceiver := some slot }, .error .queueEmpty)
        | none => (table, .error .queueEmpty)
    else (table, .error .endpointDead)

/-- `dequeue_reply_locked`: only a message the test accepts, and no receiver is
recorded when there is none. -/
def dequeueReply (endpoint capGen : Nat) (accepts : α → Bool) :
    RoutingTable α × Except IpcError (α × Option Slot) :=
  match table.lookup endpoint with
  | none => (table, .error .endpointDead)
  | some entry =>
    if entry.checkLive (some capGen) then
      match entry.queue.dequeueMatching accepts with
      | some (msg, queue) =>
        let (entry', sender) := { entry with queue := queue }.releaseSender
        (table.write endpoint entry', .ok (msg, sender))
      | none => (table, .error .queueEmpty)
    else (table, .error .endpointDead)

/-- `kill_endpoint`; `none` is a panic. -/
def killEndpoint (endpoint : Nat) : Option (RoutingTable α × Option Slot × Option Slot) :=
  match table.lookup endpoint with
  | none => some (table, none, none)
  | some entry =>
    entry.kill.map fun (entry', receiver, sender) =>
      (table.write endpoint entry', receiver, sender)

section Laws

variable {table table' : RoutingTable α} {entry state : EndpointState α}
  {id id' coreId generation : Nat}

@[simp] lemma lookup_init : (init : RoutingTable α).lookup id = none := by
  simp [lookup, init, empty, named]

lemma mem_of_lookup (h : table.lookup id = some state) :
    ∃ entry ∈ table.entries, entry.valid ∧ entry.toEndpointState = state := by
  obtain ⟨entry, hfind, rfl⟩ := Option.map_eq_some_iff.mp h
  have hnamed : named id entry := find?_some hfind
  have hvalid : entry.valid := by
    simp only [named, Bool.and_eq_true] at hnamed
    exact hnamed.1
  exact ⟨entry, mem_of_find?_eq_some hfind, hvalid, rfl⟩

lemma lookup_write_of_ne (hne : id' ≠ id) :
    (table.write id state).lookup id' = table.lookup id' := by
  unfold lookup write
  rw [find?_modifyFirst_of_disjoint]
  intro e he
  simp only [named, Bool.and_eq_true, beq_iff_eq] at he
  simp [named, he.2, hne.symm]

section

variable (h : table.lookup id = some entry)
include h

lemma lookup_write_self : (table.write id state).lookup id = some state := by
  have hkeep : ∀ e : RoutingEntry α, named id e →
      named id { e with toEndpointState := state } := fun _ he => he
  unfold lookup write at *
  obtain ⟨e, he, -⟩ := Option.map_eq_some_iff.mp h
  simp [find?_modifyFirst_self hkeep, he]

lemma lookup_write :
    (table.write id state).lookup = Function.update table.lookup id (some state) := by
  funext id'
  by_cases hid : id' = id
  · subst hid
    simp [lookup_write_self h]
  · simp [lookup_write_of_ne hid, hid]

lemma write_lookup : table.write id entry = table := by
  obtain ⟨entries, hdistinct⟩ := table
  simp only [lookup, write, mk.injEq] at h ⊢
  induction entries with
  | nil => rfl
  | cons a l ih =>
    by_cases ha : named id a
    · rw [find?_cons_of_pos ha] at h
      cases h
      simp [modifyFirst, ha]
    · rw [find?_cons_of_neg ha] at h
      simp only [modifyFirst, ha, if_false, Bool.false_eq_true]
      rw [ih (pairwise_cons.mp hdistinct).2 h]

end

/-- Taking over the first reusable entry hides at most a dead endpoint from
the other lookups. -/
lemma find?_takeOver (id' : Nat) (new : RoutingEntry α) {entries : List (RoutingEntry α)}
    (hdistinct : entries.Pairwise fun a b => a.valid → b.valid → a.id ≠ b.id)
    (hnew : named id' new = false) :
    (modifyFirst reusable (fun _ => new) entries).find? (named id') = entries.find? (named id') ∨
      ((modifyFirst reusable (fun _ => new) entries).find? (named id') = none ∧
        ∃ e, entries.find? (named id') = some e ∧ e.liveness = .dead) := by
  induction entries with
  | nil => exact .inl rfl
  | cons a l ih =>
    obtain ⟨hhead, htail⟩ := pairwise_cons.mp hdistinct
    by_cases hreuse : a.reusable
    · simp only [modifyFirst, hreuse, if_true, find?_cons, hnew]
      cases hnamed : a.named id' with
      | false => exact .inl rfl
      | true =>
        obtain ⟨hvalid, hid⟩ : a.valid ∧ a.id = id' := by
          simpa [named] using hnamed
        refine .inr ⟨find?_eq_none.mpr fun b hb hbn => ?_, a, rfl, ?_⟩
        · simp only [named, Bool.and_eq_true, beq_iff_eq] at hbn
          exact hhead b hb hvalid hbn.1 (hid.trans hbn.2.symm)
        · simpa [reusable, hvalid] using hreuse
    · simp only [modifyFirst, hreuse, if_false, Bool.false_eq_true, find?_cons]
      cases hnamed : a.named id' with
      | true => exact .inl rfl
      | false => exact ih htail

/-- A registration makes the endpoint fresh and hides at most dead ones. -/
lemma lookup_tryRegister (h : table.tryRegister id coreId generation = some table') :
    table'.lookup id = some (.fresh coreId generation) ∧
      ∀ id', id' ≠ id → table'.lookup id' = table.lookup id' ∨
        (table'.lookup id' = none ∧ ∃ e, table.lookup id' = some e ∧ e.liveness = .dead) := by
  unfold tryRegister at h
  split at h
  next e he =>
    cases h
    have hlook : table.lookup id = some e.toEndpointState := by simp [lookup, he]
    exact ⟨lookup_write_self hlook, fun id' hne => .inl (lookup_write_of_ne hne)⟩
  rename_i hnone
  split at h
  next r hr =>
    cases h
    constructor
    · have hnew : named id (RoutingEntry.mk (.fresh coreId generation) true id :
          RoutingEntry α) := by simp [named]
      simp [lookup, find?_modifyFirst_of_new hnew hnone hr]
    · intro id' hne
      have htake := find?_takeOver id'
        { toEndpointState := .fresh coreId generation, valid := true, id := id }
        table.distinct (by simp [named, hne.symm])
      rcases htake with hsame | ⟨hgone, e, he, hdead⟩
      · exact .inl (by simp [lookup, hsame])
      · exact .inr ⟨by simp [lookup, hgone], e.toEndpointState, by simp [lookup, he], hdead⟩
  · cases h

end Laws

end RoutingTable

/-- The table together with `CALL_AWAIT_EP`; `0` stands for "no Call". -/
structure Routing (α : Type*) where
  table : RoutingTable α
  callAwait : Slot → Nat

namespace Routing

variable {α : Type*} (routing : Routing α)

def init : Routing α := ⟨.init, fun _ => 0⟩

/-- `set_call_await` and, with `0`, `clear_call_await`. -/
def setCallAwait (slot : Slot) (endpoint : Nat) : Routing α :=
  { routing with callAwait := Function.update routing.callAwait slot endpoint }

/-- `call_dequeue`.  The liveness of the target is tested by its id alone. -/
def callDequeue (recvEp recvGen target : Nat) (accepts : α → Bool)
    (caller : Slot) : Routing α × Except IpcError (α × Option Slot) :=
  match routing.table.dequeueReply recvEp recvGen accepts with
  | (table, .ok got) => ({ routing with table := table }.setCallAwait caller 0, .ok got)
  | (_, .error .queueEmpty) =>
    match routing.table.lookup target with
    | some entry =>
      if entry.liveness = .alive then
        match routing.table.lookup recvEp with
        | some recv =>
          ({ routing with
              table := routing.table.write recvEp
                { recv with blockedReceiver := some caller } }.setCallAwait caller target,
            .error .queueEmpty)
        | none => (routing.setCallAwait caller target, .error .queueEmpty)
      else (routing.setCallAwait caller 0, .error .replyDead)
    | none => (routing.setCallAwait caller 0, .error .replyDead)
  | (_, .error e) => (routing.setCallAwait caller 0, .error e)

/-- `take_call_waiter`: the first slot that awaits the dead endpoint, with its
record cleared. -/
def takeCallWaiter (deadEp : Nat) : Option (Slot × Routing α) :=
  ((finRange maxTasks).find? fun slot => routing.callAwait slot == deadEp).map
    fun slot => (slot, routing.setCallAwait slot 0)

end Routing

end Godspeed.Ipc
