import Godspeed.Ipc.EndpointIds
import Godspeed.Ipc.RoutingOutcome

/-!
# Tasks, waits and the kernel state of the IPC machine

The state the IPC paths of the kernel share: the routing table, the per-slot
scheduler words of `task/scheduler.rs`, the wakes that a core has decided on
but not yet performed, the timer and the id and generation allocators.  The
blocking syscalls of `syscall/dispatch.rs` are loops around
`block_and_reschedule`; where a task stands in its loop is its `Pc`.

`Log` holds no kernel data.  It is the history the properties are stated over:
what was handed to each endpoint, what entered its queue, what a receiver took,
what a death discarded, and how every Call ended.
-/

namespace Godspeed.Machine

open Ipc Capability Function

/-- `TaskState`. -/
inductive TaskState
  | ready
  | running
  | blockedOnRecv
  | blockedOnSend
  | dead
  deriving DecidableEq, Repr

/-- One life of an endpoint: its id and the generation it started at. -/
structure Incarnation where
  id : Nat
  generation : Nat
  deriving DecidableEq, Repr

/-- A message as the IPC paths see it: the endpoint `build_message` stamps and
the payload length.  `ticket`, `dest` and `senderGen` are history: the number of
the send, the endpoint it was for and the generation of the sender's own life. -/
structure Msg where
  senderEp : Nat
  payloadLen : Nat
  ticket : Nat
  dest : Nat
  senderGen : Nat
  deriving DecidableEq, Repr

/-- `MAX_MESSAGE_SIZE`. -/
def maxMessageSize : Nat := 4096

/-- The locals of `do_call`: the two endpoints, the tick its deadline falls on
(`0` without one) and the room for the reply.  `callId` numbers the Calls. -/
structure Call where
  callId : Nat
  recv : Incarnation
  target : Incarnation
  deadline : Nat
  replyBufCap : Nat
  deriving DecidableEq, Repr

/-- The test of `dequeue_matching`. -/
def Call.accepts (call : Call) (msg : Msg) : Bool := msg.senderEp == call.target.id

/-- What a task inside a blocking syscall waits for.  A `send` that belongs to a
Call carries the Call it goes on with; `recv` carries a deadline when it is
`recv_timeout`. -/
inductive Wait
  | send (endpoint : Nat) (msg : Msg) (next : Option Call)
  | recv (own : Incarnation) (deadline : Option Nat)
  | sleep (deadline : Nat)
  | call (call : Call)
  deriving DecidableEq, Repr

/-- Where in its loop a blocking syscall stands: before the dequeue, after an
empty one, before `block_and_reschedule`, or switched away inside it. -/
inductive Phase
  | attempt
  | empty
  | block
  | parked
  deriving DecidableEq, Repr

/-- A task is in user mode or inside a blocking syscall. -/
inductive Pc
  | user
  | waiting (wait : Wait) (phase : Phase)
  deriving DecidableEq, Repr

/-- How far `kill_task_by_slot` has come with a task it has marked dead. -/
inductive KillStage
  | marked
  | cleared
  | replyKilled
  | replyFreed
  | draining
  | drained
  | freed
  deriving DecidableEq, Repr

/-- The scheduler words of one slot: `TASK_VALID`, `TASK_STATE`,
`TASK_WAKEUP_ERR`, `TASK_WAKE_PENDING`, `TASK_WAKE_DEADLINE`, `TASK_ENDPOINT`
and `TASK_REPLY_ENDPOINT`, whether some core runs the task, and where it stands. -/
structure Task where
  valid : Bool
  state : TaskState
  wakeupErr : Int
  wakePending : Bool
  wakeDeadline : Nat
  onCpu : Bool
  endpoint : Option Incarnation
  reply : Option Incarnation
  pc : Pc
  killStage : Option KillStage
  deriving DecidableEq, Repr

namespace Task

def unused : Task where
  valid := false
  state := .ready
  wakeupErr := 0
  wakePending := false
  wakeDeadline := 0
  onCpu := false
  endpoint := none
  reply := none
  pc := .user
  killStage := none

/-- `wake_by_slot` on the words of its slot: nothing for an unused or dead one. -/
def wakeBySlot (task : Task) (result : Int) : Task :=
  if task.valid = true ∧ task.state ≠ .dead then
    { task with wakeupErr := result, wakePending := true, state := .ready }
  else task

/-- `block_and_reschedule`: the value it returns at once, or `none` when the
task is switched away.  Only a receive consults the pending-wake flag. -/
def blockAndReschedule (task : Task) (state : TaskState) : Task × Option Int :=
  if state = .blockedOnRecv ∧ task.wakePending = true then
    ({ task with wakePending := false }, some 0)
  else if task.state = .running then
    ({ task with state := state, onCpu := false }, none)
  else (task, some task.wakeupErr)

end Task

inductive CallResult
  | replied (msg : Msg)
  | tooLarge (msg : Msg)
  | failed (code : Int)
  | timedOut
  | callerKilled
  deriving DecidableEq, Repr

/-- A `wake_by_slot` that some core is about to perform; `drainOf` is the dead
endpoint when it comes from the `take_call_waiter` loop, else `0`. -/
structure Wake where
  slot : Slot
  result : Int
  drainOf : Nat
  deriving DecidableEq, Repr

structure Log where
  tickets : Nat
  calls : Nat
  handed : Nat → List Msg
  entered : Nat → List Msg
  taken : Nat → List Msg
  drained : Nat → List Msg
  dropped : Nat → List Msg
  sendResults : List (Msg × Int)
  outcome : Nat → Option CallResult
  lifeGen : Nat → Nat

/-- The kernel state of the IPC machine. -/
structure State where
  routing : Routing Msg
  task : Slot → Task
  owed : List Wake
  ticks : Nat
  ids : EndpointIds
  generations : GenerationCounter
  log : Log

/-- The state after boot: no endpoint, no task. -/
def boot : State where
  routing := .init
  task := fun _ => .unused
  owed := []
  ticks := 0
  ids := .init
  generations := .start
  log := {
    tickets := 0
    calls := 0
    handed := fun _ => []
    entered := fun _ => []
    taken := fun _ => []
    drained := fun _ => []
    dropped := fun _ => []
    sendResults := []
    outcome := fun _ => none
    lifeGen := fun _ => 0 }

namespace Log

/-- Append messages to the history of one endpoint. -/
def append (history : Nat → List Msg) (endpoint : Nat) (msgs : List Msg) : Nat → List Msg :=
  update history endpoint (history endpoint ++ msgs)

/-- Record the end of a Call; only the first end counts. -/
def conclude (log : Log) (callId : Nat) (result : CallResult) : Log :=
  { log with
    outcome := update log.outcome callId ((log.outcome callId).or (some result)) }

end Log

namespace State

variable (s : State) (slot : Slot)

def setTask (task : Task) : State :=
  { s with task := update s.task slot task }

/-- Move a task to another place of its program. -/
def setPc (pc : Pc) : State :=
  s.setTask slot { s.task slot with pc := pc }

/-- Leave a blocking syscall, clearing the wake deadline where the syscall does. -/
def leave (clearDeadline : Bool) : State :=
  s.setTask slot { s.task slot with
    pc := .user
    wakeDeadline := if clearDeadline then 0 else (s.task slot).wakeDeadline }

variable (s : State) (endpoint : Nat)

/-- Add the wakes a routing operation asks its caller to perform. -/
def owe (slots : Option Slot) (result : Int) : State :=
  { s with owed := s.owed ++ slots.toList.map fun slot => ⟨slot, result, 0⟩ }

/-- The task runs on some core and stands at `pc`. -/
def At (slot : Slot) (pc : Pc) : Prop :=
  (s.task slot).valid = true ∧ (s.task slot).onCpu = true ∧ (s.task slot).pc = pc

instance (s : State) (slot : Slot) (pc : Pc) : Decidable (s.At slot pc) :=
  inferInstanceAs (Decidable (_ ∧ _ ∧ _))

def entry : Option (EndpointState Msg) :=
  s.routing.table.lookup endpoint

/-- The messages parked behind an endpoint's queue: one or none. -/
def pending : List Msg :=
  ((s.entry endpoint).bind EndpointState.pendingSend).toList

/-- The messages in an endpoint's queue. -/
def queued : List Msg :=
  ((s.entry endpoint).map fun entry => entry.queue.messages).getD []

section Projections

variable (s : State) (slot : Slot) (task : Task) (slots : Option Slot) (result : Int)

@[simp] lemma setTask_task : (s.setTask slot task).task = update s.task slot task := rfl
@[simp] lemma setTask_routing : (s.setTask slot task).routing = s.routing := rfl
@[simp] lemma setTask_entry : (s.setTask slot task).entry = s.entry := rfl
@[simp] lemma setTask_ids : (s.setTask slot task).ids = s.ids := rfl
@[simp] lemma setTask_generations : (s.setTask slot task).generations = s.generations := rfl
@[simp] lemma setTask_log : (s.setTask slot task).log = s.log := rfl
@[simp] lemma setTask_owed : (s.setTask slot task).owed = s.owed := rfl
@[simp] lemma owe_task : (s.owe slots result).task = s.task := rfl
@[simp] lemma owe_log : (s.owe slots result).log = s.log := rfl

end Projections

end State

end Godspeed.Machine
