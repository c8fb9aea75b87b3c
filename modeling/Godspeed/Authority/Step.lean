import Godspeed.Authority.Spawn

/-!
# The operations of the authority machine

The syscalls of `syscall/dispatch.rs` that move, make or drop capabilities, and
the two ways a task comes into being, each as one step.  Whether a task that
waits is scheduled again plays no part: a receive or the second half of a Call
is simply taken again, so the machine has every run the kernel has and more.

What a syscall returns is its `Reply`; a payload length is not modelled.
-/

namespace Godspeed.Authority

open Capability Interrupt Ipc Staged

/-- What a syscall gives back to its caller. -/
inductive Reply
  | code (value : Int)
  | received
  | blocks
  deriving DecidableEq, Repr

/-- `narrow_embedded_for_receiver`. -/
def narrowForReceiver (cap : Cap) : Cap :=
  if isDelegated cap.resourceId then cap.withoutGrant else cap

/-- One pass of `install_received_caps`: a capability whose slot cannot be
announced is taken out again. -/
def installReceived (slot : Slot) (s : State) (cap : Cap) : State :=
  match s.insertCap slot (narrowForReceiver cap) with
  | none => s
  | some (s', index) =>
    match s'.tasks slot with
    | none => s'
    | some task =>
      if task.pendingRecvCaps.length < maxPendingRecvCaps then
        s'.setTask slot (some { task with pendingRecvCaps := task.pendingRecvCaps ++ [index] })
      else s'.removeCap slot index

variable (s : State) (slot : Slot) (index : Nat)

/-- `install_received_caps`. -/
def installReceivedCaps (msg : Message) : State :=
  msg.caps.foldl (installReceived slot) s

/-- The three receive syscalls differ in what they do on an empty queue. -/
inductive RecvMode
  | recv
  | tryRecv
  | recvTimeout (expired : Bool)
  deriving DecidableEq, Repr

/-- The reply to an empty queue: `TRY_RECV_EMPTY` and `RECV_TIMED_OUT` are the
sentinels of the two that return. -/
def RecvMode.onEmpty : RecvMode → Reply
  | .recv => .blocks
  | .tryRecv => .code (-1000)
  | .recvTimeout true => .code (-1001)
  | .recvTimeout false => .blocks

/-- `handle_recv`, `handle_try_recv` and `handle_recv_timeout`. -/
def handleRecv (mode : RecvMode) : State × Reply :=
  match s.lookupCap slot index .RECV with
  | .error e => (s, .code e.code)
  | .ok cap =>
    match s.routing.dequeue cap.resourceId cap.generation (some slot) with
    | (routing, .ok (msg, _)) =>
      (installReceivedCaps { s with routing := routing } slot msg, .received)
    | (routing, .error .queueEmpty) => ({ s with routing := routing }, mode.onEmpty)
    | (routing, .error e) => ({ s with routing := routing }, .code e.code)

/-- `build_message`: the sender's own endpoint is stamped, `0` without one. -/
def buildMessage (caps : List Cap) : Message :=
  ⟨(s.endpointOf slot).getD 0, caps⟩

/-- `handle_send` and, without a sender to block, `handle_try_send`. -/
def handleSend (blocking : Bool) : State × Reply :=
  match s.lookupCap slot index .SEND with
  | .error e => (s, .code e.code)
  | .ok cap =>
    match s.routing.enqueue cap.resourceId (buildMessage s slot []) (some cap.generation)
      (if blocking then some slot else none) with
    | (routing, .ok _) => ({ s with routing := routing }, .code 0)
    | (routing, .error .queueFull) =>
      ({ s with routing := routing }, if blocking then .blocks else .code IpcError.queueFull.code)
    | (routing, .error e) => ({ s with routing := routing }, .code e.code)

/-- `CapNotGrantable` in place of the generic rights failure. -/
def notGrantable : CapError → CapError
  | .capInsufficientRights => .capNotGrantable
  | e => e

/-- The delivery that SendWithCap, Call and ResourceInvoke share: the carried
capability leaves the sender's table once the message is queued or parked. -/
def deliver (endpoint generation : Nat) (carried : Cap) (carriedSlot : Nat) : State × Reply :=
  match s.routing.enqueue endpoint (buildMessage s slot [carried]) (some generation)
    (some slot) with
  | (routing, .ok _) => ({ s with routing := routing }.removeCap slot carriedSlot, .code 0)
  | (routing, .error .queueFull) =>
    ({ s with routing := routing }.removeCap slot carriedSlot, .blocks)
  | (routing, .error e) => ({ s with routing := routing }, .code e.code)

/-- `handle_send_with_cap`. -/
def handleSendWithCap (endpointSlot grantSlot : Nat) : State × Reply :=
  match s.lookupCap slot endpointSlot .SEND with
  | .error e => (s, .code e.code)
  | .ok endpointCap =>
    match s.lookupCap slot grantSlot .GRANT with
    | .error e => (s, .code (notGrantable e).code)
    | .ok granted =>
      deliver s slot endpointCap.resourceId endpointCap.generation granted grantSlot

/-- The first half of `do_call`: the three checks and the request. -/
def handleCall (targetSlot replySlot recvSlot : Nat) : State × Reply :=
  match s.lookupCap slot targetSlot .SEND with
  | .error e => (s, .code e.code)
  | .ok target =>
    match s.lookupCap slot replySlot .GRANT with
    | .error e => (s, .code (notGrantable e).code)
    | .ok reply =>
      match s.lookupCap slot recvSlot .RECV with
      | .error e => (s, .code e.code)
      | .ok recv =>
        match deliver s slot target.resourceId target.generation reply replySlot with
        | (s, .code value) =>
          if value = 0 then (awaitReply s recv target, .blocks) else (s, .code value)
        | (s, _) => (awaitReply s recv target, .blocks)
where
  /-- The locals the second half goes on with. -/
  awaitReply (s : State) (recv target : Cap) : State :=
    match s.tasks slot with
    | none => s
    | some task => s.setTask slot (some { task with
        call := some ⟨recv.resourceId, recv.generation, target.resourceId⟩ })

/-- `do_call` returns. -/
def endCall : State :=
  match s.tasks slot with
  | none => s
  | some task => s.setTask slot (some { task with call := none })

/-- The second half of `do_call`: take the reply of the target out of order. -/
def handleCallReply : State × Reply :=
  match (s.tasks slot).bind Task.call with
  | none => (s, .code (-1))
  | some call =>
    match s.routing.dequeueReply call.recvEp call.recvGen
      (fun msg => msg.senderEp == call.target) with
    | (routing, .ok (msg, _)) =>
      (endCall (installReceivedCaps { s with routing := routing } slot msg) slot, .received)
    | (routing, .error .queueEmpty) => ({ s with routing := routing }, .blocks)
    | (routing, .error e) => (endCall { s with routing := routing } slot, .code e.code)

/-- `handle_resource_invoke`. -/
def handleResourceInvoke (fileSlot replySlot : Nat) (right : Rights) : State × Reply :=
  match s.lookupCap slot fileSlot right with
  | .error e => (s, .code e.code)
  | .ok file =>
    if isDelegated file.resourceId then
      match s.band.ownerOf file.resourceId with
      | none => (s, .code IpcError.endpointDead.code)
      | some owner =>
        match s.lookupCap slot replySlot .GRANT with
        | .error e => (s, .code (notGrantable e).code)
        | .ok reply => deliver s slot owner (s.routing.getGeneration owner) reply replySlot
    else (s, .code CapError.capWrongScope.code)

/-- `handle_derive_cap`. -/
def handleDeriveCap : State × Reply :=
  match s.lookupCap slot index .GRANT with
  | .error e => (s, .code e.code)
  | .ok held =>
    match s.insertCap slot held with
    | some (s, newSlot) => (s, .code newSlot)
    | none => (s, .code (-1))

/-- `handle_remove_cap`. -/
def handleRemoveCap : State × Reply :=
  (s.removeCap slot index, .code 0)

/-- `handle_take_pending_cap`. -/
def handleTakePendingCap : State × Reply :=
  match s.tasks slot with
  | none => (s, .code (-1))
  | some task =>
    match task.pendingRecvCaps with
    | [] => (s, .code (-1))
    | index :: rest => (s.setTask slot (some { task with pendingRecvCaps := rest }), .code index)

/-- `handle_acquire_send_cap` for a well-formed name. -/
def handleAcquireSendCap (name : Name) (includeGrant : Bool) : Option (State × Reply) :=
  let broad := s.holdsResource slot .acquireAny .WRITE
  let declared := (s.tasks slot).any fun task => name ≠ [] ∧ name ∈ task.peers
  if broad || declared then
    match s.names.lookup name with
    | none => some (s, .code (-20))
    | some endpoint =>
      match s.mintCap endpoint (if includeGrant && broad then Rights.SEND.union .GRANT
          else .SEND) with
      | none => none
      | some (cap, s) =>
        match s.insertCap slot cap with
        | some (s, index) => some (s, .code index)
        | none => some (s, .code (-21))
  else some (s, .code CapError.capNotHeld.code)

/-- `handle_resource_mint`; `writable` says whether the id could be written out
to the caller. -/
def handleResourceMint (rightsBits : BitVec 8) (writable : Bool) : Option (State × Reply) :=
  if s.holdsResource slot .resourceMint .WRITE then
    match s.endpointOf slot with
    | none => some (s, .code (-1))
    | some owner =>
      match s.band.claim owner with
      | none => some (s, .code (-1))
      | some (bandSlot, band) =>
        match s.ledger.registerNext bandSlot.id with
        | none => none
        | some ledger =>
          mintDelegated { s with band := band, ledger := ledger } bandSlot owner
  else some (s, .code CapError.capNotHeld.code)
where
  /-- Only READ, WRITE and GRANT may ride on a delegated capability. -/
  rights : Rights := (Rights.mk rightsBits).narrow ((Rights.READ.union .WRITE).union .GRANT)
  /-- After `allocate` has returned: mint, insert, tell the caller.  A full
  table gives the slot back without a bump; an id that cannot be told is revoked. -/
  mintDelegated (s : State) (bandSlot : BandSlot) (owner : Nat) : Option (State × Reply) :=
    match s.mintCap bandSlot.id rights with
    | none => none
    | some (cap, s) =>
      match s.insertCap slot cap with
      | none =>
        some ({ s with
          band := s.band.free bandSlot
          ledger := s.ledger.released bandSlot.id }, .code (-1))
      | some (s, index) =>
        if writable then some (s, .code index)
        else (revokeOwned (s.removeCap slot index) bandSlot.id owner).map
          fun (s, _) => (s, .code (-1))

/-- `handle_resource_revoke`. -/
def handleResourceRevoke (id : Nat) : Option (State × Reply) :=
  match s.endpointOf slot with
  | none => some (s, .code (-1))
  | some owner =>
    (revokeOwned s id owner).map fun (s, revoked) => (s, .code (if revoked then 0 else -1))

/-- The fields of a `SpawnRequest` that reach the capability system.  The
remaining fields can only make the kernel refuse. -/
structure ImageRequest where
  name : Name
  word : BitVec 32
  hasRecvEndpoint : Bool
  consoleRead : Bool
  devicePower : Bool
  peers : List Name
  peersGrant : Bool
  installs : List (Name × Nat)
  handover : Bool
  coreId : Nat
  hwIrqs : List Irq
  watched : Bool
  lateFailure : Bool

/-- The installs of a request: each must be held with GRANT. -/
def resolveInstalls (s : State) (caller : Slot) :
    List (Name × Nat) → Except CapError (List (Name × Cap))
  | [] => .ok []
  | (label, index) :: rest =>
    match s.lookupCap caller index .GRANT with
    | .error e => .error e
    | .ok cap =>
      match resolveInstalls s caller rest with
      | .error e => .error e
      | .ok installs => .ok ((label, cap) :: installs)

def running (name : Name) : List Slot :=
  (List.finRange maxTasks).filter fun slot => (s.tasks slot).any fun task => task.name = name

/-- `AlreadyRunning`: a name has one task, and two during a handover. -/
def alreadyRunning (request : ImageRequest) : Bool :=
  match running s request.name with
  | [] => false
  | [_] => !request.handover
  | _ => true

/-- The arguments `spawn_from_image` passes on. -/
def ImageRequest.args (request : ImageRequest) (installs : List (Name × Cap)) : SpawnArgs where
  grants :=
    { name := request.name
      word := some request.word
      consoleRead := request.consoleRead
      devicePower := request.devicePower }
  coreId := request.coreId
  hasRecvEndpoint := request.hasRecvEndpoint
  sendPeers := request.peers
  sendPeersGrant := request.peersGrant
  installs := installs
  hwIrqs := request.hwIrqs
  watched := request.watched
  lateFailure := request.lateFailure

/-- The end of `handle_spawn_image`: a SEND|GRANT on the new endpoint for the
caller, returned as its slot plus one. -/
def returnEndpoint (caller : Slot) : Option (Option Nat) → Option (State × Reply)
  | none => some (s, .code (-1))
  | some none => some (s, .code 0)
  | some (some endpoint) =>
    match s.mintCap endpoint (Rights.SEND.union .GRANT) with
    | none => none
    | some (cap, s) =>
      match s.insertCap caller cap with
      | some (s, index) => some (s, .code (index + 1))
      | none => some (s, .code CapError.capNotHeld.code)

/-- `handle_spawn_image`; `child` is the slot `reserve_task_slot` finds free. -/
def handleSpawnImage (caller child : Slot) (spawnSlot : Nat)
    (request : ImageRequest) : Option (State × Reply) :=
  match s.tasks caller, s.lookupCap caller spawnSlot .WRITE with
  | none, _ => none
  | _, .error e => some (s, .code e.code)
  | some task, .ok cap =>
    if cap.resourceId ≠ Gate.spawn.id then some (s, .code CapError.capWrongScope.code)
    else if !task.caps.holdsResource Gate.imageSpawn.id .WRITE then
      some (s, .code CapError.capNotHeld.code)
    else if (privilegesCallerLacks task.caps request.word).isSome then some (s, .code (-1))
    else if request.name = [] ∨ nameMax < request.name.length then some (s, .code (-1))
    else if maxSendPeers < request.peers.length ∨ maxSendPeers < request.installs.length then
      some (s, .code (-1))
    else
      match resolveInstalls s caller request.installs with
      | .error e => some (s, .code e.code)
      | .ok installs =>
        -- `spawn_from_image`: the one name of the kernel's own catalogue is refused
        if request.name = supervisorName then some (s, .code (-1))
        else if alreadyRunning s request then some (s, .code (-22))
        else
          match spawnServiceWithImage s child (request.args installs) (some task.caps) with
          | none => none
          | some (s, result) => returnEndpoint s caller result

/-- What the kernel passes for the supervisor. -/
def supervisorArgs (lateFailure : Bool) : SpawnArgs where
  grants :=
    { name := supervisorName
      word := none
      consoleRead := false
      devicePower := false }
  coreId := 0
  hasRecvEndpoint := true
  sendPeers := []
  sendPeersGrant := false
  installs := []
  hwIrqs := []
  watched := false
  lateFailure := lateFailure

/-- `spawn_supervisor`, at boot: a failure is a panic. -/
def spawnSupervisor : Option State :=
  match spawnServiceWithImage s slot (supervisorArgs false) none with
  | none => none
  | some (_, none) => none
  | some (s, some _) => some s

/-- `poll_supervisor_respawn`, after each death of the supervisor: a spawn that fails is
taken back, and tried again at a later tick. -/
def pollSupervisorRespawn (lateFailure : Bool) : Option State :=
  (spawnServiceWithImage s slot (supervisorArgs lateFailure) none).map Prod.fst

inductive Op
  | spawnSupervisor (slot : Slot)
  | respawnSupervisor (slot : Slot) (lateFailure : Bool)
  | spawnImage (caller child : Slot) (spawnSlot : Nat) (request : ImageRequest)
  | kill (slot : Slot)
  | recv (slot : Slot) (index : Nat) (mode : RecvMode)
  | send (slot : Slot) (index : Nat) (blocking : Bool)
  | sendWithCap (slot : Slot) (endpointSlot grantSlot : Nat)
  | call (slot : Slot) (targetSlot replySlot recvSlot : Nat)
  | callReply (slot : Slot)
  | resourceInvoke (slot : Slot) (fileSlot replySlot : Nat) (right : Rights)
  | resourceMint (slot : Slot) (rightsBits : BitVec 8) (writable : Bool)
  | resourceRevoke (slot : Slot) (id : Nat)
  | deriveCap (slot : Slot) (index : Nat)
  | removeCap (slot : Slot) (index : Nat)
  | takePendingCap (slot : Slot)
  | acquireSendCap (slot : Slot) (name : Name) (includeGrant : Bool)

/-- The step function.  `none` is a kernel panic, or a spawn into a slot that
is not free. -/
def step : Op → Option State
  | .spawnSupervisor slot =>
    if (s.tasks slot).isNone then spawnSupervisor s slot else none
  | .respawnSupervisor slot lateFailure =>
    if (s.tasks slot).isNone then pollSupervisorRespawn s slot lateFailure else none
  | .spawnImage caller child spawnSlot request =>
    if (s.tasks child).isNone then
      (handleSpawnImage s caller child spawnSlot request).map Prod.fst
    else none
  | .kill slot => killTask s slot
  | .recv slot index mode => some (handleRecv s slot index mode).1
  | .send slot index blocking => some (handleSend s slot index blocking).1
  | .sendWithCap slot endpointSlot grantSlot =>
    some (handleSendWithCap s slot endpointSlot grantSlot).1
  | .call slot targetSlot replySlot recvSlot =>
    some (handleCall s slot targetSlot replySlot recvSlot).1
  | .callReply slot => some (handleCallReply s slot).1
  | .resourceInvoke slot fileSlot replySlot right =>
    some (handleResourceInvoke s slot fileSlot replySlot right).1
  | .resourceMint slot rightsBits writable =>
    (handleResourceMint s slot rightsBits writable).map Prod.fst
  | .resourceRevoke slot id => (handleResourceRevoke s slot id).map Prod.fst
  | .deriveCap slot index => some (handleDeriveCap s slot index).1
  | .removeCap slot index => some (handleRemoveCap s slot index).1
  | .takePendingCap slot => some (handleTakePendingCap s slot).1
  | .acquireSendCap slot name includeGrant =>
    (handleAcquireSendCap s slot name includeGrant).map Prod.fst

/-- The states the machine reaches from boot. -/
def Reached : Prop := Transition.Reaches step Transition.Free boot s

end Godspeed.Authority
