import Godspeed.Authority.State

/-!
# The spawn path

`spawn_service_with_image` of `task/mod.rs` as the list of its stages, in the
source's order: the log capability and SPAWN, the receive endpoint with its two
capabilities, the reply endpoint with its two, the interrupt lines of the
device, the gate capabilities, the capabilities the spawner installs, the
name-wired peers, the record of declared peers, and the mappings and allocations
of the end, which may fail.  A stage that stops the spawn leaves its state to
`cleanupPartialSpawn`.

The spawn also maps memory and devices; of those only whether they fail reaches
the tables modelled here.
-/

namespace Godspeed.Authority

open Capability Interrupt Ipc Staged

/-- The arguments of a spawn.  `hwIrqs` are the lines of the device class;
`lateFailure` says that a step after the last capability fails. -/
structure SpawnArgs where
  grants : Grants
  coreId : Nat
  hasRecvEndpoint : Bool
  sendPeers : List Name
  sendPeersGrant : Bool
  installs : List (Name × Cap)
  hwIrqs : List Irq
  watched : Bool
  lateFailure : Bool

variable (slot : Slot) (s : State) (slot : Slot) (args : SpawnArgs) (spawner : Option CapTable)

/-- Mint into the new task's table; a full table stops the spawn. -/
def mintStage (id : Nat) (rights : Rights) : Stage State := fun s =>
  match s.mintCap id rights with
  | none => none
  | some (cap, s) =>
    match s.insertCap slot cap with
    | some (s, _) => some (.ok s)
    | none => some (.error s)

/-- Mint into the new task's table; a full table is passed over. -/
def tryMintStage (id : Nat) (rights : Rights) : Stage State := fun s =>
  match s.mintCap id rights with
  | none => none
  | some (cap, s) =>
    match s.insertCap slot cap with
    | some (s, _) => some (.ok s)
    | none => some (.ok s)

/-- Mint one gate capability, if the spawn was asked to. -/
def gateStage (entry : Bool × Gate × Rights) : Stage State :=
  onlyIf entry.1 (mintStage slot entry.2.1.id entry.2.2)

/-- A fresh id registered at a fresh generation; `none` is a panic of one of the
two allocators. -/
def registerEndpoint : Option (Nat × Nat × State) :=
  match s.ids.alloc with
  | none => none
  | some (endpoint, ids) =>
    match nextGeneration s.generations with
    | none => none
    | some (generation, generations) =>
      some (endpoint, generation,
        { s with
          ids := ids
          generations := generations
          ledger := s.ledger.registerAtGen endpoint generation })

/-- The receive endpoint: registered in both tables and published under the
task's name.  A full routing table refuses the spawn; the id is not given back. -/
def endpointStage (coreId : Nat) : Stage State := fun s =>
  match s.tasks slot with
  | none => some (.error s)
  | some task =>
    match registerEndpoint s with
    | none => none
    | some (endpoint, generation, s) =>
      match s.routing.tryRegister endpoint coreId generation with
      | some routing =>
        some (.ok ({ s with
          routing := routing
          names := s.names.register task.name endpoint }.setTask slot
            (some { task with endpoint := some endpoint })))
      | none => some (.error s)

/-- The two capabilities on the receive endpoint: RECV, and the SEND|GRANT the
task announces itself with. -/
def endpointCapsStage : Stage State := fun s =>
  match s.endpointOf slot with
  | none => some (.error s)
  | some endpoint =>
    run [mintStage slot endpoint .RECV, tryMintStage slot endpoint (Rights.SEND.union .GRANT)] s

/-- The reply endpoint, which is optional: a refused one gives its id back. -/
def replyStage (coreId : Nat) : Stage State := fun s =>
  match s.tasks slot with
  | none => some (.error s)
  | some task =>
    match registerEndpoint s with
    | none => none
    | some (endpoint, generation, s) =>
      match s.routing.tryRegisterOptional s.credits endpoint coreId generation
        task.mayTakeBack with
      | some (routing, credits) =>
        some (.ok ({ s with routing := routing, credits := credits }.setTask slot
          (some { task with replyEndpoint := some endpoint })))
      | none => some (.ok { s with ids := s.ids.release endpoint })

/-- RECV on the reply endpoint and, if that fitted, the SEND|GRANT to hand out. -/
def replyCapsStage : Stage State := fun s =>
  match (s.tasks slot).bind Task.replyEndpoint with
  | none => some (.ok s)
  | some endpoint =>
    match s.mintCap endpoint .RECV with
    | none => none
    | some (cap, s) =>
      match s.insertCap slot cap with
      | none => some (.ok s)
      | some (s, _) => tryMintStage slot endpoint (Rights.SEND.union .GRANT) s

/-- The interrupt lines of the device, routed to the receive endpoint. -/
def irqStage (hwIrqs : List Irq) : Stage State := fun s =>
  match s.endpointOf slot with
  | none => some (.error s)
  | some endpoint => some (.ok { s with irqs := s.irqs.registerAll hwIrqs endpoint })

/-- Install one capability the spawner held with GRANT, as a peer under its label. -/
def installStage (install : Name × Cap) : Stage State := fun s =>
  match s.tasks slot with
  | none => some (.error s)
  | some task =>
    if task.peers.length < maxSendPeers then
      match task.caps.insert install.2 with
      | some (caps, _) =>
        some (.ok (s.setTask slot
          (some { task with caps := caps, peers := task.peers ++ [install.1] })))
      | none => some (.ok s)
    else some (.ok s)

/-- Wire one declared peer by name, unless the spawner provided it. -/
def peerStage (provided : List Name) (grant : Bool) (peer : Name) : Stage State := fun s =>
  match s.tasks slot with
  | none => some (.error s)
  | some task =>
    if task.peers.length < maxSendPeers ∧ peer ∉ provided then
      match s.names.lookup peer with
      | none => some (.ok s)
      | some endpoint =>
        match s.mintCap endpoint (if grant then Rights.SEND.union .GRANT else .SEND) with
        | none => none
        | some (cap, s) =>
          match task.caps.insert cap with
          | some (caps, _) =>
            some (.ok (s.setTask slot
              (some { task with caps := caps, peers := task.peers ++ [peer] })))
          | none => some (.ok s)
    else some (.ok s)

/-- `set_task_peers`: a declared peer that could not be wired is recorded too. -/
def declareStage (peer : Name) : Stage State := fun s =>
  match s.tasks slot with
  | none => some (.error s)
  | some task =>
    if task.peers.length < maxSendPeers ∧ peer ≠ [] ∧ peer ∉ task.peers then
      some (.ok (s.setTask slot (some { task with peers := task.peers ++ [peer] })))
    else some (.ok s)

def spawnStages : List (Stage State) :=
  args.grants.early.map (gateStage slot) ++
  [onlyIf args.hasRecvEndpoint (endpointStage slot args.coreId),
    onlyIf args.hasRecvEndpoint (endpointCapsStage slot),
    onlyIf args.hasRecvEndpoint (replyStage slot args.coreId),
    onlyIf args.hasRecvEndpoint (replyCapsStage slot),
    onlyIf args.hasRecvEndpoint (irqStage slot args.hwIrqs)] ++
  args.grants.late.map (gateStage slot) ++
  args.installs.map (installStage slot) ++
  args.sendPeers.map (peerStage slot (args.installs.map Prod.fst) args.sendPeersGrant) ++
  args.sendPeers.map (declareStage slot) ++
  [onlyIf args.lateFailure fun s => some (.error s)]

/-- The task that a reserved slot holds before the first stage. -/
def draftTask : Task where
  name := args.grants.name
  caps := .empty
  endpoint := none
  replyEndpoint := none
  pendingRecvCaps := []
  peers := []
  call := none
  watched := args.watched
  grants := args.grants
  spawner := spawner

abbrev State.draft : State :=
  s.setTask slot (some (draftTask args spawner))

/-- The close of the reply endpoint, if the task has one.  Only a death gives
its id back, and banks a credit for a task that is restarted. -/
def closeReply (task : Task) (death : Bool) : Option State :=
  match task.replyEndpoint with
  | none => some s
  | some reply =>
    (closeEndpoint s reply).map fun s' =>
      if death then
        { s' with
          ids := s'.ids.release reply
          credits := if task.mayTakeBack then s'.credits + 1 else s'.credits }
      else s'

/-- The end of both a death and a failed spawn: the name stops resolving to the
endpoint before the id may be reused, and the slot is free. -/
def retire (task : Task) : State :=
  match task.endpoint with
  | none => s.setTask slot none
  | some endpoint =>
    { s with
      names := s.names.unregisterEndpoint task.name endpoint
      ids := s.ids.release endpoint }.setTask slot none

/-- `cleanup_partial_spawn`. -/
def cleanupPartialSpawn : Option State :=
  match s.tasks slot with
  | none => some s
  | some task =>
    match closeReply s task false with
    | none => none
    | some s =>
      match task.endpoint with
      | none => some (retire s slot task)
      | some endpoint => (closeEndpoint s endpoint).map fun s => retire s slot task

/-- `spawn_service_with_image` into a free slot: the state it leaves and, when
it succeeds, the endpoint of the new task if it has one. -/
def spawnServiceWithImage : Option (State × Option (Option Nat)) :=
  match run (spawnStages slot args) (s.setTask slot (some (draftTask args spawner))) with
  | none => none
  | some (.error s) => (cleanupPartialSpawn s slot).map fun s => (s, none)
  | some (.ok s) => some (s, some (s.endpointOf slot))

/-- The interrupt lines that a death releases: those of both endpoints, if the
task has a receive endpoint. -/
def releasedIrqs (irqs : IrqTable) (task : Task) : IrqTable :=
  match task.endpoint, task.replyEndpoint with
  | none, _ => irqs
  | some endpoint, none => irqs.unregisterEndpoint endpoint
  | some endpoint, some reply =>
    (irqs.unregisterEndpoint endpoint).unregisterEndpoint reply

/-- `kill_task_by_slot`, as far as it changes these tables: the reply endpoint
and its id, then the receive endpoint, the delegated resources of its owner, its
name, its interrupt lines, and last its id. -/
def killTask : Option State :=
  match s.tasks slot with
  | none => some s
  | some task =>
    match closeReply s task true with
    | none => none
    | some s =>
      match task.endpoint with
      | none => some (retire s slot task)
      | some endpoint =>
        match closeEndpoint s endpoint with
        | none => none
        | some s =>
          (releaseOwner s endpoint).map fun s =>
            retire { s with irqs := releasedIrqs s.irqs task } slot task

end Godspeed.Authority
