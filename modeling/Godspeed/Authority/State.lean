import Godspeed.Capability.Ledger
import Godspeed.Capability.Privilege
import Godspeed.Interrupt.Route
import Godspeed.Ipc.EndpointIds
import Godspeed.Ipc.InFlight
import Godspeed.Ipc.Occupancy
import Godspeed.Lib.Staged
import Godspeed.Lib.Transition

/-!
# The state of the authority machine

Everything that decides what a task may do: the capability tables, the
capabilities inside messages, the resource table, the endpoint ids, the name
directory, the band of delegated resources and the interrupt routes.  The
operations of the next modules are whole syscalls, so nothing here is between
two steps of one.

A task is present from the moment its slot is reserved.  `grants` and `spawner`
are history: what its spawn was asked to mint on gate resources, and the table
of the task that asked, if it was not the kernel.
-/

namespace Godspeed.Authority

open Capability Interrupt Ipc

/-- `MAX_SEND_PEERS`. -/
def maxSendPeers : Nat := 6

/-- `MAX_PENDING_RECV_CAPS`. -/
def maxPendingRecvCaps : Nat := 4

/-- A message as far as authority is concerned: the endpoint that
`build_message` stamps and the capabilities it carries. -/
structure Message where
  senderEp : Nat
  caps : List Cap
  deriving DecidableEq, Repr

/-- What `do_call` still needs after its request is on the way. -/
structure Call where
  recvEp : Nat
  recvGen : Nat
  target : Nat
  deriving DecidableEq, Repr

structure Task where
  name : Name
  caps : CapTable
  endpoint : Option Nat
  replyEndpoint : Option Nat
  pendingRecvCaps : List Nat
  peers : List Name
  call : Option Call
  watched : Bool
  grants : Grants
  spawner : Option CapTable

/-- The endpoint is one of the task's two. -/
def Task.Owns (task : Task) (endpoint : Nat) : Prop :=
  task.endpoint = some endpoint ∨ task.replyEndpoint = some endpoint

/-- The task may take a reply mailbox back past the reserve: it is one that is
restarted, by the supervisor or, the supervisor itself, by the kernel. -/
def Task.mayTakeBack (task : Task) : Bool := task.watched || task.name = supervisorName

/-- The kernel state; `credits` is `MAILBOX_CREDITS`. -/
structure State where
  ledger : Ledger
  generations : GenerationCounter
  ids : EndpointIds
  names : NameTable
  band : Band
  routing : RoutingTable Message
  credits : Nat
  irqs : IrqTable
  tasks : Slot → Option Task

def boot : State where
  ledger := .init
  generations := .start
  ids := .init
  names := .init
  band := .new
  routing := .init
  credits := 0
  irqs := .init
  tasks _ := none

variable (s : State) (slot : Slot)

namespace State

/-- Put a task into a slot, or empty it. -/
def setTask (task : Option Task) : State :=
  { s with tasks := Function.update s.tasks slot task }

/-- `current_task_lookup_cap`. -/
def lookupCap (index : Nat) (required : Rights) : Except CapError Cap :=
  match s.tasks slot with
  | some task => task.caps.get s.ledger.resources index required
  | none => .error .capNotHeld

/-- `current_task_holds_resource`. -/
def holdsResource (gate : Gate) (required : Rights) : Bool :=
  (s.tasks slot).any fun task => task.caps.holdsResource gate.id required

/-- `current_task_insert_cap`; `none` is the error of a full table. -/
def insertCap (cap : Cap) : Option (State × Nat) :=
  match s.tasks slot with
  | some task =>
    (task.caps.insert cap).map fun (caps, index) =>
      (s.setTask slot (some { task with caps := caps }), index.val)
  | none => none

/-- `current_task_remove_cap`. -/
def removeCap (index : Nat) : State :=
  match s.tasks slot with
  | some task => s.setTask slot (some { task with caps := task.caps.remove index })
  | none => s

/-- `mint_cap`; `none` is the panic on an unregistered resource. -/
def mintCap (id : Nat) (rights : Rights) : Option (Cap × State) :=
  (s.ledger.mintCap id rights).map fun (cap, ledger) => (cap, { s with ledger := ledger })

/-- `current_task_endpoint`. -/
def endpointOf : Option Nat := (s.tasks slot).bind Task.endpoint

end State

/-- The close of an endpoint that both a death and a failed spawn perform:
`kill_endpoint`, then `mark_dead_resource`. -/
def closeEndpoint (endpoint : Nat) : Option State :=
  match s.routing.killEndpoint endpoint with
  | none => none
  | some (routing, _, _) =>
    (s.ledger.markDead endpoint).map fun ledger => { s with routing := routing, ledger := ledger }

/-- The loop of `release_owner`: take one owned slot, mark it dead, go on.  The
fuel bounds the passes; the band has no more slots than that. -/
def releaseOwnerLoop (who : Nat) : Nat → Band → Ledger → Option (Band × Ledger)
  | 0, band, ledger => some (band, ledger)
  | fuel + 1, band, ledger =>
    match band.takeOneOwned who with
    | none => some (band, ledger)
    | some (slot, rest) =>
      match ledger.markDead slot.id with
      | none => none
      | some ledger => releaseOwnerLoop who fuel rest ledger

/-- `release_owner`. -/
def releaseOwner (who : Nat) : Option State :=
  (releaseOwnerLoop who delegatedCap s.band s.ledger).map fun (band, ledger) =>
    { s with band := band, ledger := ledger }

/-- `revoke_owned`: refused unless the caller owns the id. -/
def revokeOwned (id caller : Nat) : Option (State × Bool) :=
  match slotOf id with
  | none => some (s, false)
  | some slot =>
    if s.band.owner slot = some caller then
      (s.ledger.revoke id).map fun ledger =>
        ({ s with ledger := ledger, band := s.band.free slot }, true)
    else some (s, false)

end Godspeed.Authority
