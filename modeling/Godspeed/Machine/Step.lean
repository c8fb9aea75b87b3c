import Godspeed.Lib.Transition
import Godspeed.Machine.State

/-!
# The atomic steps of the IPC machine

Each action is one lock hold of the source: one routing operation, one
`wake_by_slot`, one `block_and_reschedule`, one timer tick, one stage of a kill
or one spawn.  A run is any interleaving of them.

* Syscalls: `send` (also `SendWithCap` and `ResourceInvoke`, which enqueue the
  same way), `trySend`, `consoleWrite`, `call`, `recv` and `recv_timeout`,
  `tryRecv`, `sleep`, and the steps of the loops they enter: `attempt`, `test`,
  `block`, `resume`.
* Scheduling: `dispatch` and `yield`.  Interrupts stay masked between the
  enqueue that found a full queue and the block that follows it, so a task is
  not switched away there; elsewhere it may be.
* Kernel: `interrupt` (device events and death notices), `deliver` performs one
  owed wake, `tick` and `timerScan`, `kill` and `killStep`, `release`, `spawn`.

A receive names one of the task's own two endpoints: `RECV` capabilities are
minted at spawn without `GRANT`, so no other task can hold one.  The capability
a send goes through is arbitrary.  A dead task keeps taking steps as long as a
core runs it.  An action that is not enabled has no step.
-/

namespace Godspeed.Machine

open Ipc Capability

/-- Which of its own endpoints a task receives on. -/
inductive Own
  | endpoint
  | reply
  deriving DecidableEq, Repr

inductive Action
  | send (slot : Slot) (endpoint capGen payloadLen : Nat)
  | trySend (slot : Slot) (endpoint capGen payloadLen : Nat)
  | consoleWrite (slot : Slot) (endpoint payloadLen : Nat)
  | interrupt (endpoint payloadLen : Nat)
  | call (slot : Slot) (target : Incarnation) (own : Own) (payloadLen deadline replyBufCap : Nat)
  | recv (slot : Slot) (own : Own) (deadline : Option Nat)
  | tryRecv (slot : Slot) (own : Own)
  | sleep (slot : Slot) (deadline : Nat)
  | attempt (slot : Slot)
  | test (slot : Slot)
  | block (slot : Slot)
  | resume (slot : Slot)
  | dispatch (slot : Slot)
  | yield (slot : Slot)
  | deliver (index : Nat)
  | tick
  | timerScan (slot : Slot)
  | kill (slot : Slot)
  | killStep (slot : Slot)
  | release (slot : Slot)
  | spawn (slot : Slot) (coreId : Nat) (hasRecv grantReply : Bool)
  deriving DecidableEq, Repr

namespace Task

/-- The endpoint behind the `RECV` capability a receive uses. -/
def own (task : Task) : Own → Option Incarnation
  | .endpoint => task.endpoint
  | .reply => task.reply

/-- The endpoint and generation `build_message` stamps; `0` without one. -/
def stamp (task : Task) : Incarnation := task.endpoint.getD ⟨0, 0⟩

end Task

variable (s : State) (slot : Slot) (call : Call) (endpoint : Nat) (wait : Wait)

namespace State

/-- The message a sender builds; the kernel's own messages carry no stamp. -/
def message (stamp : Incarnation) (endpoint payloadLen : Nat) : Msg where
  senderEp := stamp.id
  payloadLen := payloadLen
  ticket := s.log.tickets
  dest := endpoint
  senderGen := stamp.generation

/-- One enqueue: the receiver it hands back is owed a wake.  A message counts as
handed over when it was queued or parked behind a full queue. -/
def offer (capGen : Option Nat) (sender : Option Slot) (msg : Msg) : State × Except IpcError Unit :=
  match s.routing.table.enqueue endpoint msg capGen sender with
  | (table, .ok receiver) =>
    ({ s with
        routing := { s.routing with table := table }
        log := { s.log with
          tickets := s.log.tickets + 1
          handed := Log.append s.log.handed endpoint [msg]
          entered := Log.append s.log.entered endpoint [msg] } }.owe receiver 0, .ok ())
  | (table, .error .queueFull) =>
    ({ s with
        routing := { s.routing with table := table }
        log := { s.log with
          tickets := s.log.tickets + 1
          handed := Log.append s.log.handed endpoint (sender.toList.map fun _ => msg) } },
      .error .queueFull)
  | (_, .error e) => ({ s with log := { s.log with tickets := s.log.tickets + 1 } }, .error e)

/-- A blocking send: on a full queue the sender goes on to block. -/
def blockingSend (capGen : Option Nat) (msg : Msg) : State :=
  match s.offer endpoint capGen (some slot) msg with
  | (s', .error .queueFull) => s'.setPc slot (.waiting (.send endpoint msg none) .block)
  | (s', _) => s'

/-- The request leg of `do_call`: the Call is entered once the request is queued
or parked, and not at all when the peer is dead. -/
def request (msg : Msg) : State :=
  match s.offer call.target.id (some call.target.generation) (some slot) msg with
  | (s', .ok _) =>
    { s' with log := { s'.log with calls := s'.log.calls + 1 } }.setPc slot
      (.waiting (.call call) .attempt)
  | (s', .error .queueFull) =>
    { s' with log := { s'.log with calls := s'.log.calls + 1 } }.setPc slot
      (.waiting (.send call.target.id msg (some call)) .block)
  | (s', .error _) => s'

/-- A message taken from an endpoint: the sender that was parked there is owed
a wake, and its message is now in the queue. -/
def took (routing : Routing Msg) (msg : Msg) (sender : Option Slot) : State :=
  { s with
    routing := routing
    log := { s.log with
      taken := Log.append s.log.taken endpoint [msg]
      entered := Log.append s.log.entered endpoint (s.pending endpoint) } }.owe sender 0

/-- One pass of the receive loop of `handle_recv` and `handle_recv_timeout`. -/
def recvAttempt (own : Incarnation) (deadline : Option Nat) : State :=
  match s.routing.table.dequeue own.id own.generation (some slot) with
  | (table, .ok (msg, sender)) =>
    (s.took own.id { s.routing with table := table } msg sender).leave slot deadline.isSome
  | (table, .error .queueEmpty) =>
    { s with routing := { s.routing with table := table } }.setPc slot
      (.waiting (.recv own deadline) .empty)
  | (_, .error _) => s.leave slot deadline.isSome

/-- `handle_try_recv`: it passes its slot like the blocking receive does. -/
def tryRecv (own : Incarnation) : State :=
  match s.routing.table.dequeue own.id own.generation (some slot) with
  | (table, .ok (msg, sender)) => s.took own.id { s.routing with table := table } msg sender
  | (table, .error _) => { s with routing := { s.routing with table := table } }

/-- How a Call ends that has taken its reply. -/
def replyResult (msg : Msg) : CallResult :=
  if msg.payloadLen > call.replyBufCap then .tooLarge msg else .replied msg

/-- Record the end of a Call and return from it. -/
def endCall (result : CallResult) : State :=
  { s with log := s.log.conclude call.callId result }.leave slot true

/-- One pass of the wait loop of `do_call`. -/
def callAttempt : State :=
  match s.routing.callDequeue call.recv.id call.recv.generation call.target.id call.accepts
      slot with
  | (routing, .ok (msg, sender)) =>
    (s.took call.recv.id routing msg sender).endCall slot call (replyResult call msg)
  | (routing, .error .queueEmpty) =>
    { s with routing := routing }.setPc slot (.waiting (.call call) .empty)
  | (routing, .error e) => { s with routing := routing }.endCall slot call (.failed e.code)

/-- What a blocking syscall does with the value `block_and_reschedule` returned. -/
def finishBlock (result : Int) : State :=
  match wait with
  | .send _ msg next =>
    let s := { s with log := { s.log with sendResults := s.log.sendResults ++ [(msg, result)] } }
    match next with
    | none => s.setPc slot .user
    | some call =>
      if result ≠ 0 then
        { s with log := s.log.conclude call.callId (.failed result) }.setPc slot .user
      else s.setPc slot (.waiting (.call call) .attempt)
  | .recv own deadline =>
    if result ≠ 0 then s.leave slot deadline.isSome
    else s.setPc slot (.waiting (.recv own deadline) .attempt)
  | .sleep deadline =>
    if result ≠ 0 then s.leave slot true
    else s.setPc slot (.waiting (.sleep deadline) .empty)
  | .call call =>
    if result ≠ 0 then s.endCall slot call (.failed result)
    else s.setPc slot (.waiting (.call call) .attempt)

end State

namespace Wait

def blockState : Wait → TaskState
  | .send _ _ _ => .blockedOnSend
  | _ => .blockedOnRecv

/-- The tick the deadline test compares with; `none` without a deadline. -/
def expires : Wait → Option Nat
  | .send _ _ _ => none
  | .recv _ deadline => deadline.filter (· ≠ 0)
  | .sleep deadline => some deadline
  | .call c => if c.deadline = 0 then none else some c.deadline

end Wait

namespace State

/-- The deadline test before each block: give up, or arm the timer and go on. -/
def deadlineTest : State :=
  match wait.expires with
  | none => s.setPc slot (.waiting wait .block)
  | some deadline =>
    if deadline ≤ s.ticks then
      match wait with
      | .call call => s.endCall slot call .timedOut
      | _ => s.leave slot true
    else
      s.setTask slot { s.task slot with
        wakeDeadline := deadline
        pc := .waiting wait .block }

/-- One `block_and_reschedule` of a waiting task. -/
def block : State :=
  match (s.task slot).blockAndReschedule wait.blockState with
  | (task, none) => s.setTask slot { task with pc := .waiting wait .parked }
  | (task, some result) => (s.setTask slot task).finishBlock slot wait result

/-- `kill_endpoint` in a kill of `victim`: whoever was parked on the endpoint,
the victim apart, is owed the code of a dead endpoint. -/
def killEndpoint (s : State) (victim : Slot) (endpoint : Nat) : Option State :=
  (s.routing.table.killEndpoint endpoint).map fun (table, receiver, sender) =>
    (({ s with
        routing := { s.routing with table := table }
        log := { s.log with
          drained := Log.append s.log.drained endpoint (s.queued endpoint)
          dropped := Log.append s.log.dropped endpoint (s.pending endpoint) } }.owe
      (receiver.filter (· ≠ victim)) IpcError.endpointDead.code).owe
      (sender.filter (· ≠ victim)) IpcError.endpointDead.code)

def setStage (stage : KillStage) : State :=
  s.setTask slot { s.task slot with killStage := some stage }

/-- One stage of `kill_task_by_slot` after the task was marked dead. -/
def killStep : KillStage → Option State
  | .marked =>
    some ({ s with routing := s.routing.setCallAwait slot 0 }.setStage slot .cleared)
  | .cleared =>
    match (s.task slot).reply with
    | none => some (s.setStage slot .replyFreed)
    | some reply => (s.killEndpoint slot reply.id).map (·.setStage slot .replyKilled)
  | .replyKilled =>
    match (s.task slot).reply with
    | none => some (s.setStage slot .replyFreed)
    | some reply =>
      some ({ s with ids := s.ids.release reply.id }.setTask slot
        { s.task slot with reply := none, killStage := some .replyFreed })
  | .replyFreed =>
    match (s.task slot).endpoint with
    | none => some (s.setStage slot .freed)
    | some own => (s.killEndpoint slot own.id).map (·.setStage slot .draining)
  | .draining =>
    match (s.task slot).endpoint with
    | none => some (s.setStage slot .freed)
    | some own =>
      match s.routing.takeCallWaiter own.id with
      | none => some (s.setStage slot .drained)
      | some (waiter, routing) =>
        if waiter = slot then some { s with routing := routing }
        else some { s with
          routing := routing
          owed := s.owed ++ [⟨waiter, IpcError.replyDead.code, own.id⟩] }
  | .drained =>
    match (s.task slot).endpoint with
    | none => some (s.setStage slot .freed)
    | some own => some ({ s with ids := s.ids.release own.id }.setStage slot .freed)
  | .freed => none

/-- Mark a task dead; a Call it was in ends with it. -/
def kill : State :=
  let s := match (s.task slot).pc with
    | .waiting (.call call) _ => { s with log := s.log.conclude call.callId .callerKilled }
    | .waiting (.send _ _ (some call)) _ =>
      { s with log := s.log.conclude call.callId .callerKilled }
    | _ => s
  s.setTask slot { s.task slot with state := .dead, killStage := some .marked }

/-- The words a spawn writes when it commits its slot; the others keep the
values the last occupant left. -/
def commit (endpoint reply : Option Incarnation) : State :=
  s.setTask slot { s.task slot with
    valid := true
    state := .ready
    onCpu := false
    endpoint := endpoint
    reply := reply
    pc := .user
    killStage := none }

/-- The reply mailbox of a spawn; whether the reserve grants it is left open. -/
def spawnReply (coreId : Nat) (grantReply : Bool) (own : Incarnation) : Option State := do
  let (id, ids) ← s.ids.alloc
  let (generation, generations) ← nextGeneration s.generations
  let granted := if grantReply then s.routing.table.tryRegister id coreId generation else none
  match granted with
  | none =>
    some ({ s with ids := ids.release id, generations := generations }.commit slot (some own) none)
  | some table =>
    some ({ s with
      routing := { s.routing with table := table }
      ids := ids
      generations := generations
      log := { s.log with lifeGen := Function.update s.log.lifeGen id generation } }.commit
        slot (some own) (some ⟨id, generation⟩))

/-- A spawn into a free slot.  When the routing table is full the spawn fails
and the id it drew is not given back. -/
def spawn (coreId : Nat) (hasRecv grantReply : Bool) : Option State :=
  if hasRecv then do
    let (id, ids) ← s.ids.alloc
    let (generation, generations) ← nextGeneration s.generations
    match s.routing.table.tryRegister id coreId generation with
    | none => some { s with ids := ids, generations := generations }
    | some table =>
      State.spawnReply { s with
        routing := { s.routing with table := table }
        ids := ids
        generations := generations
        log := { s.log with lifeGen := Function.update s.log.lifeGen id generation } }
        slot coreId grantReply ⟨id, generation⟩
  else some (s.commit slot none none)

end State

def step : Action → Option State
  | .send slot endpoint capGen payloadLen =>
    if s.At slot .user ∧ payloadLen ≤ maxMessageSize then
      some (s.blockingSend slot endpoint (some capGen)
        (s.message (s.task slot).stamp endpoint payloadLen))
    else none
  | .trySend slot endpoint capGen payloadLen =>
    if s.At slot .user ∧ payloadLen ≤ maxMessageSize then
      some (s.offer endpoint (some capGen) none
        (s.message (s.task slot).stamp endpoint payloadLen)).1
    else none
  | .consoleWrite slot endpoint payloadLen =>
    if s.At slot .user ∧ payloadLen ≤ maxMessageSize then
      some (s.blockingSend slot endpoint none (s.message ⟨0, 0⟩ endpoint payloadLen))
    else none
  | .interrupt endpoint payloadLen =>
    if payloadLen ≤ maxMessageSize then
      some (s.offer endpoint none none (s.message ⟨0, 0⟩ endpoint payloadLen)).1
    else none
  | .call slot target own payloadLen deadline replyBufCap =>
    match (s.task slot).own own with
    | some recv =>
      if s.At slot .user ∧ payloadLen ≤ maxMessageSize then
        some (s.request slot ⟨s.log.calls, recv, target, deadline, replyBufCap⟩
          (s.message (s.task slot).stamp target.id payloadLen))
      else none
    | none => none
  | .recv slot own deadline =>
    match (s.task slot).own own with
    | some recv =>
      if s.At slot .user then some (s.setPc slot (.waiting (.recv recv deadline) .attempt))
      else none
    | none => none
  | .tryRecv slot own =>
    match (s.task slot).own own with
    | some recv => if s.At slot .user then some (s.tryRecv slot recv) else none
    | none => none
  | .sleep slot deadline =>
    if s.At slot .user then some (s.setPc slot (.waiting (.sleep deadline) .empty)) else none
  | .attempt slot =>
    match (s.task slot).pc with
    | .waiting (.recv own deadline) .attempt =>
      if s.At slot (.waiting (.recv own deadline) .attempt) then
        some (s.recvAttempt slot own deadline)
      else none
    | .waiting (.call call) .attempt =>
      if s.At slot (.waiting (.call call) .attempt) then some (s.callAttempt slot call)
      else none
    | _ => none
  | .test slot =>
    match (s.task slot).pc with
    | .waiting wait .empty =>
      if s.At slot (.waiting wait .empty) then some (s.deadlineTest slot wait) else none
    | _ => none
  | .block slot =>
    match (s.task slot).pc with
    | .waiting wait .block =>
      if s.At slot (.waiting wait .block) then some (s.block slot wait) else none
    | _ => none
  | .resume slot =>
    match (s.task slot).pc with
    | .waiting wait .parked =>
      if s.At slot (.waiting wait .parked) then
        some (s.finishBlock slot wait (s.task slot).wakeupErr)
      else none
    | _ => none
  | .dispatch slot =>
    if (s.task slot).valid = true ∧ (s.task slot).onCpu = false ∧
        (s.task slot).state = .ready then
      some (s.setTask slot { s.task slot with state := .running, onCpu := true })
    else none
  | .yield slot =>
    match (s.task slot).pc with
    | .waiting (.send _ _ _) .block => none
    | _ =>
      if (s.task slot).onCpu = true then
        some (s.setTask slot { s.task slot with
          onCpu := false
          state := if (s.task slot).state = .running then .ready else (s.task slot).state })
      else none
  | .deliver index =>
    match s.owed[index]? with
    | some wake =>
      some ({ s with owed := s.owed.eraseIdx index }.setTask wake.slot
        ((s.task wake.slot).wakeBySlot wake.result))
    | none => none
  | .tick => some { s with ticks := s.ticks + 1 }
  | .timerScan slot =>
    if (s.task slot).wakeDeadline ≠ 0 ∧ (s.task slot).wakeDeadline ≤ s.ticks ∧
        (s.task slot).state = .blockedOnRecv then
      some ((s.setTask slot { s.task slot with wakeDeadline := 0 }).owe (some slot) 0)
    else none
  | .kill slot =>
    if (s.task slot).valid = true ∧ (s.task slot).state ≠ .dead then some (s.kill slot)
    else none
  | .killStep slot => (s.task slot).killStage.bind (s.killStep slot)
  | .release slot =>
    if (s.task slot).killStage = some .freed ∧ (s.task slot).onCpu = false then
      some (s.setTask slot { s.task slot with valid := false, killStage := none })
    else none
  | .spawn slot coreId hasRecv grantReply =>
    if (s.task slot).valid = false then s.spawn slot coreId hasRecv grantReply else none

/-- Runs of the machine from boot whose steps meet `ok`. -/
abbrev Reached (ok : State → Action → Prop) (s : State) : Prop :=
  Transition.Reaches step ok boot s

end Godspeed.Machine
