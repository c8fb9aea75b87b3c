import Godspeed.Machine.Step

/-!
# What a step can do

`Effect` lists every branch of the step function once, with its guards and the
state it leaves, and `effect_of_step` says that each step is one of them.  The
invariants of the machine are proved by cases on it and never unfold `step`.

`offer_cases` is the split of the routing operation that several syscalls share.
-/

namespace Godspeed.Machine

open Ipc Capability EndpointState Function State RoutingTable

open Option (ite_none_right_eq_some ite_some_none_eq_some)

namespace Log

@[simp] lemma append_nil (history : Nat → List Msg) (endpoint : Nat) :
    append history endpoint [] = history := by
  funext id
  simp [append, update_apply]
  intro h
  rw [h]

end Log

variable (s : State) (endpoint : Nat) (entry : EndpointState Msg) {wait : Wait}

namespace State

/-- A send that changed nothing but the count of sends. -/
def refuse : State :=
  { s with log := { s.log with tickets := s.log.tickets + 1 } }

/-- A message that entered the queue; the recorded receiver is owed a wake. -/
def enqueue (queue : MessageQueue Msg) (msg : Msg) : State :=
  { s with
    routing := { s.routing with
      table := s.routing.table.write endpoint
        { entry with blockedReceiver := none, queue := queue } }
    log := { s.log with
      tickets := s.log.tickets + 1
      handed := Log.append s.log.handed endpoint [msg]
      entered := Log.append s.log.entered endpoint [msg] } }.owe entry.blockedReceiver 0

lemma isSome_some_eq (sender : Slot) (msg : Msg) : (some sender).isSome = (some msg).isSome := rfl

/-- A message parked behind a full queue. -/
def park (msg : Msg) (sender : Slot) : State :=
  { s with
    routing := { s.routing with
      table := s.routing.table.write endpoint
        { entry with
          blockedSender := some sender
          pendingSend := some msg
          paired := isSome_some_eq sender msg } }
    log := { s.log with
      tickets := s.log.tickets + 1
      handed := Log.append s.log.handed endpoint [msg] } }

/-- The table with one entry replaced and some `CALL_AWAIT_EP`. -/
def withEntry (callAwait : Slot → Nat) : Routing Msg :=
  { table := s.routing.table.write endpoint entry, callAwait := callAwait }

lemma offer_cases (capGen : Option Nat) (sender : Option Slot) (msg : Msg) :
    (∃ e, e ≠ IpcError.queueFull ∧ s.offer endpoint capGen sender msg = (s.refuse, .error e)) ∨
    (∃ entry queue, s.entry endpoint = some entry ∧ entry.checkLive capGen ∧
      queue.messages = entry.queue.messages ++ [msg] ∧
      s.offer endpoint capGen sender msg = (s.enqueue endpoint entry queue msg, .ok ())) ∨
    (∃ entry, s.entry endpoint = some entry ∧ entry.checkLive capGen ∧
      entry.queue.enqueue msg = none ∧
      s.offer endpoint capGen sender msg = (match sender with
          | some slot => s.park endpoint entry msg slot
          | none => s.refuse, .error .queueFull)) := by
  have hout := enqueue_outcome s.routing.table endpoint msg capGen sender
  unfold offer
  generalize s.routing.table.enqueue endpoint msg capGen sender = result at hout
  cases hout with
  | dead hdead => exact .inl ⟨_, by decide, rfl⟩
  | queued entry queue hlook hlive hqueue =>
    exact .inr (.inl ⟨entry, queue, hlook, hlive, hqueue, rfl⟩)
  | full entry hlook hlive hfull =>
    refine .inr (.inr ⟨entry, hlook, hlive, hfull, ?_⟩)
    cases sender with
    | some slot => rfl
    | none =>
      simp [offer.recordSender, write_lookup hlook, refuse]

end State

/-- The life a message is stamped with: the kernel's own messages carry none,
any other the primary endpoint of a task some core runs. -/
def Stamps (stamp : Incarnation) : Prop :=
  stamp = ⟨0, 0⟩ ∨ ∃ slot, (s.task slot).valid = true ∧ (s.task slot).onCpu = true ∧
    (s.task slot).endpoint = some stamp

lemma stamps_of_at {s : State} {slot : Slot} {pc : Pc} (h : s.At slot pc) :
    Stamps s (s.task slot).stamp := by
  unfold Task.stamp
  cases hep : (s.task slot).endpoint with
  | none => exact .inl rfl
  | some stamp => exact .inr ⟨slot, h.1, h.2.1, hep⟩

namespace State

/-- Count a Call that has been entered. -/
def countCall : State := { s with log := { s.log with calls := s.log.calls + 1 } }

/-- The task after `swap(false)` found the pending-wake flag set. -/
def consumePending (slot : Slot) : State :=
  s.setTask slot { s.task slot with wakePending := false }

end State

/-- Where a blocking syscall stands after its block returned a value. -/
def Wait.after (result : Int) : Wait → Pc
  | .send _ _ none => .user
  | .send _ _ (some c) => if result ≠ 0 then .user else .waiting (.call c) .attempt
  | .recv own deadline => if result ≠ 0 then .user else .waiting (.recv own deadline) .attempt
  | .sleep deadline => if result ≠ 0 then .user else .waiting (.sleep deadline) .empty
  | .call c => if result ≠ 0 then .user else .waiting (.call c) .attempt

lemma Wait.after_of_ne {result : Int} (h : result ≠ 0) : wait.after result = .user := by
  rcases wait with ⟨endpoint, msg, _ | call⟩ | ⟨own, deadline⟩ | deadline | call <;>
    simp [Wait.after, h]

/-- The parts of the history that only traffic and spawns write. -/
structure SameTraffic (log log' : Log) : Prop where
  handed : log'.handed = log.handed
  entered : log'.entered = log.entered
  taken : log'.taken = log.taken
  drained : log'.drained = log.drained
  dropped : log'.dropped = log.dropped
  tickets : log'.tickets = log.tickets
  calls : log'.calls = log.calls
  lifeGen : log'.lifeGen = log.lifeGen

lemma SameTraffic.of_eq {log : Log} {outcome : Nat → Option CallResult}
    {sendResults : List (Msg × Int)} :
    SameTraffic log { log with outcome := outcome, sendResults := sendResults } :=
  ⟨rfl, rfl, rfl, rfl, rfl, rfl, rfl, rfl⟩

namespace State

section Returns

variable (s : State) (slot : Slot) (wait : Wait) (result : Int) (call : Call) (outcome : CallResult)

lemma endCall_task : (s.endCall slot call outcome).task =
    update s.task slot { s.task slot with pc := .user, wakeDeadline := 0 } := rfl

/-- Returning from a block moves the task and touches nothing else but the history. -/
lemma finishBlock_spec : (∃ deadline, (s.finishBlock slot wait result).task = update s.task slot
      { s.task slot with pc := wait.after result, wakeDeadline := deadline }) ∧
    (s.finishBlock slot wait result).routing = s.routing ∧
    (s.finishBlock slot wait result).owed = s.owed ∧
    (s.finishBlock slot wait result).ids = s.ids ∧
    (s.finishBlock slot wait result).generations = s.generations := by
  by_cases hres : result = 0
  · subst hres
    rcases wait with ⟨endpoint, msg, _ | call⟩ | ⟨own, deadline⟩ | deadline | call <;>
      exact ⟨⟨(s.task slot).wakeDeadline, rfl⟩, rfl, rfl, rfl, rfl⟩
  · rw [Wait.after_of_ne hres]
    rcases wait with ⟨endpoint, msg, _ | call⟩ | ⟨own, deadline⟩ | deadline | call <;>
      simp only [finishBlock, hres, ne_eq]
    · exact ⟨⟨(s.task slot).wakeDeadline, rfl⟩, rfl, rfl, rfl, rfl⟩
    · exact ⟨⟨(s.task slot).wakeDeadline, rfl⟩, rfl, rfl, rfl, rfl⟩
    all_goals exact ⟨⟨_, rfl⟩, rfl, rfl, rfl, rfl⟩

@[simp] lemma finishBlock_routing : (s.finishBlock slot wait result).routing = s.routing :=
  (s.finishBlock_spec slot wait result).2.1

@[simp] lemma finishBlock_owed : (s.finishBlock slot wait result).owed = s.owed :=
  (s.finishBlock_spec slot wait result).2.2.1

lemma finishBlock_traffic : SameTraffic s.log (s.finishBlock slot wait result).log := by
  rcases wait with ⟨endpoint, msg, _ | call⟩ | ⟨own, deadline⟩ | deadline | call
  · exact .of_eq
  all_goals
    simp only [finishBlock]
    split <;> exact .of_eq

lemma kill_spec : (s.kill slot).task = update s.task slot
      { s.task slot with state := .dead, killStage := some .marked } ∧
    (s.kill slot).routing = s.routing ∧ (s.kill slot).owed = s.owed ∧
    (s.kill slot).ids = s.ids ∧ (s.kill slot).generations = s.generations := by
  unfold kill
  split <;> exact ⟨rfl, rfl, rfl, rfl, rfl⟩

@[simp] lemma kill_routing : (s.kill slot).routing = s.routing := (s.kill_spec slot).2.1

@[simp] lemma kill_owed : (s.kill slot).owed = s.owed := (s.kill_spec slot).2.2.1

lemma kill_traffic : SameTraffic s.log (s.kill slot).log := by
  unfold kill
  split <;> exact .of_eq

end Returns

section Traffic

variable {s : State} {endpoint : Nat} {entry : EndpointState Msg}

lemma lookup_write_entry (hlook : s.entry endpoint = some entry) (entry' : EndpointState Msg) :
    (s.routing.table.write endpoint entry').lookup = update s.entry endpoint (some entry') :=
  lookup_write hlook

end Traffic

/-- What `kill_endpoint` leaves of an entry. -/
structure Quiet (entry : EndpointState Msg) : Prop where
  queue : entry.queue.messages = []
  blockedReceiver : entry.blockedReceiver = none
  blockedSender : entry.blockedSender = none
  pendingSend : entry.pendingSend = none

/-- The wakes a kill of `victim` owes for one parked slot. -/
def deathWakes (victim : Slot) (slots : Option Slot) : List Wake :=
  (slots.filter (· ≠ victim)).toList.map fun slot => ⟨slot, IpcError.endpointDead.code, 0⟩

/-- The two ways `kill_endpoint` can go: the id has no entry any more, or its
entry is dead and quiet afterwards and whoever was parked there is owed a wake. -/
inductive KillsEntry (s s' : State) (victim : Slot) (endpoint : Nat) : Prop
  | absent (hlookup : s.entry endpoint = none) (hentry : s'.entry = s.entry)
      (howed : s'.owed = s.owed)
  | killed (entry entry' : EndpointState Msg) (hlookup : s.entry endpoint = some entry)
      (hentry : s'.entry = update s.entry endpoint (some entry'))
      (hdead : entry'.liveness = .dead) (hquiet : Quiet entry')
      (howed : s'.owed = s.owed ++ deathWakes victim entry.blockedReceiver ++
        deathWakes victim entry.blockedSender)

lemma killEndpoint_spec {s s' : State} {victim : Slot} {endpoint : Nat}
    (h : s.killEndpoint victim endpoint = some s') :
    KillsEntry s s' victim endpoint ∧ s'.task = s.task ∧
      s'.routing.callAwait = s.routing.callAwait ∧ s'.ids = s.ids ∧
      s'.generations = s.generations ∧
      s'.log = { s.log with
        drained := Log.append s.log.drained endpoint (s.queued endpoint)
        dropped := Log.append s.log.dropped endpoint (s.pending endpoint) } := by
  obtain ⟨⟨table, receiver, sender⟩, hkill, rfl⟩ := Option.map_eq_some_iff.mp h
  have hout := killEndpoint_outcome hkill
  refine ⟨?_, rfl, rfl, rfl, rfl, rfl⟩
  cases hout with
  | absent hlook =>
    exact .absent hlook rfl (by simp [owe])
  | killed entry entry' hlook hdead _ hqueue hrecv hsender hpend =>
    exact .killed entry entry' hlook (lookup_write_entry hlook _) hdead
      ⟨hqueue, hrecv, hsender, hpend⟩ rfl

end State

/-- The slot and the endpoint of an action that parks its sender when the queue
is full. -/
def Action.blockingSend : Action → Option (Slot × Nat)
  | .send slot endpoint _ _ => some (slot, endpoint)
  | .consoleWrite slot endpoint _ => some (slot, endpoint)
  | .call slot target _ _ _ _ => some (slot, target.id)
  | _ => none

/-- The generation such an action checks; the console path checks none. -/
def Action.capGen : Action → Option Nat
  | .send _ _ capGen _ => some capGen
  | .call _ target _ _ _ _ => some target.generation
  | _ => none

/-- The caller and the target of a Call. -/
def Action.callTarget : Action → Option (Slot × Incarnation)
  | .call slot target _ _ _ _ => some (slot, target)
  | _ => none

/-- The actions that offer a message to an endpoint. -/
def Action.offers : Action → Bool
  | .send _ _ _ _ | .trySend _ _ _ _ | .consoleWrite _ _ _ | .interrupt _ _
  | .call _ _ _ _ _ _ => true
  | _ => false

lemma Action.offers_of_blockingSend {a : Action} {target : Slot × Nat}
    (h : a.blockingSend = some target) : a.offers := by
  cases a <;> first | rfl | cases h

/-- Everything a step can do, with its guards and the state it leaves. -/
inductive Effect (s : State) : Action → State → Prop
  /-- A send that was refused: dead endpoint, or full queue and no sender to park. -/
  | refused (a : Action) (hoffers : a.offers = true) : Effect s a s.refuse
  /-- A send whose message entered the queue. -/
  | queued (a : Action) (endpoint : Nat) (entry : EndpointState Msg)
      (queue : MessageQueue Msg) (stamp : Incarnation) (payloadLen : Nat)
      (hoffers : a.offers = true) (hlookup : s.entry endpoint = some entry)
      (halive : entry.liveness = .alive)
      (hqueue : queue.messages = entry.queue.messages ++ [s.message stamp endpoint payloadLen])
      (hstamp : Stamps s stamp) :
      Effect s a (s.enqueue endpoint entry queue (s.message stamp endpoint payloadLen))
  /-- A Call whose request entered the queue. -/
  | callQueued (a : Action) (slot : Slot) (own : Own) (call : Call) (entry : EndpointState Msg)
      (queue : MessageQueue Msg) (payloadLen : Nat) (hoffers : a.offers = true)
      (hat : s.At slot .user)
      (hown : (s.task slot).own own = some call.recv) (hid : call.callId = s.log.calls)
      (hlookup : s.entry call.target.id = some entry) (halive : entry.liveness = .alive)
      (hgeneration : call.target.generation = entry.generation)
      (hqueue : queue.messages = entry.queue.messages ++
        [s.message (s.task slot).stamp call.target.id payloadLen])
      (hcall : a.callTarget = some (slot, call.target)) :
      Effect s a ((s.enqueue call.target.id entry queue
        (s.message (s.task slot).stamp call.target.id payloadLen)).countCall.setPc slot
          (.waiting (.call call) .attempt))
  /-- A blocking send that found the queue full. -/
  | parked (a : Action) (slot : Slot) (endpoint : Nat) (entry : EndpointState Msg)
      (stamp : Incarnation) (payloadLen : Nat)
      (haction : a.blockingSend = some (slot, endpoint)) (hat : s.At slot .user)
      (hlookup : s.entry endpoint = some entry) (hlive : entry.checkLive a.capGen = true)
      (hfull : entry.queue.enqueue (s.message stamp endpoint payloadLen) = none)
      (hstamp : Stamps s stamp) :
      Effect s a ((s.park endpoint entry (s.message stamp endpoint payloadLen) slot).setPc slot
        (.waiting (.send endpoint (s.message stamp endpoint payloadLen) none) .block))
  /-- A Call whose request found the queue full. -/
  | callParked (a : Action) (slot : Slot) (own : Own) (call : Call)
      (entry : EndpointState Msg) (payloadLen : Nat)
      (haction : a.blockingSend = some (slot, call.target.id)) (hat : s.At slot .user)
      (hown : (s.task slot).own own = some call.recv) (hid : call.callId = s.log.calls)
      (hlookup : s.entry call.target.id = some entry) (hlive : entry.checkLive a.capGen = true)
      (hgeneration : call.target.generation = entry.generation)
      (hfull : entry.queue.enqueue (s.message (s.task slot).stamp call.target.id payloadLen) = none)
      (hcall : a.callTarget = some (slot, call.target)) :
      Effect s a ((s.park call.target.id entry
        (s.message (s.task slot).stamp call.target.id payloadLen) slot).countCall.setPc slot
          (.waiting (.send call.target.id
            (s.message (s.task slot).stamp call.target.id payloadLen) (some call)) .block))
  /-- A receive is entered. -/
  | recvEntered (slot : Slot) (own : Own) (recv : Incarnation) (deadline : Option Nat)
      (hat : s.At slot .user) (hown : (s.task slot).own own = some recv) :
      Effect s (.recv slot own deadline) (s.setPc slot (.waiting (.recv recv deadline) .attempt))
  /-- A sleep is entered. -/
  | sleepEntered (slot : Slot) (deadline : Nat) (hat : s.At slot .user) :
      Effect s (.sleep slot deadline) (s.setPc slot (.waiting (.sleep deadline) .empty))
  /-- A blocking receive takes the oldest message and returns. -/
  | received (slot : Slot) (recv : Incarnation) (deadline : Option Nat)
      (entry entry' : EndpointState Msg) (msg : Msg) (rest : List Msg)
      (hat : s.At slot (.waiting (.recv recv deadline) .attempt))
      (hlookup : s.entry recv.id = some entry) (halive : entry.liveness = .alive)
      (hgeneration : recv.generation = entry.generation)
      (hqueue : entry.queue.messages = msg :: rest)
      (hreleased : Released entry rest entry') :
      Effect s (.attempt slot) ((s.took recv.id (s.withEntry recv.id entry' s.routing.callAwait)
        msg entry.blockedSender).leave slot deadline.isSome)
  /-- A blocking receive finds the queue empty and registers. -/
  | recvEmpty (slot : Slot) (recv : Incarnation) (deadline : Option Nat)
      (entry : EndpointState Msg) (hat : s.At slot (.waiting (.recv recv deadline) .attempt))
      (hlookup : s.entry recv.id = some entry) (halive : entry.liveness = .alive)
      (hgeneration : recv.generation = entry.generation) (hempty : entry.queue.messages = []) :
      Effect s (.attempt slot) ({ s with
        routing := s.withEntry recv.id { entry with blockedReceiver := some slot }
          s.routing.callAwait }.setPc slot (.waiting (.recv recv deadline) .empty))
  /-- A blocking receive finds its own endpoint dead and returns. -/
  | recvDead (slot : Slot) (recv : Incarnation) (deadline : Option Nat)
      (hat : s.At slot (.waiting (.recv recv deadline) .attempt)) :
      Effect s (.attempt slot) (s.leave slot deadline.isSome)
  /-- `try_recv` takes the oldest message. -/
  | tryReceived (slot : Slot) (own : Own) (recv : Incarnation)
      (entry entry' : EndpointState Msg) (msg : Msg) (rest : List Msg) (hat : s.At slot .user)
      (hown : (s.task slot).own own = some recv) (hlookup : s.entry recv.id = some entry)
      (halive : entry.liveness = .alive) (hgeneration : recv.generation = entry.generation)
      (hqueue : entry.queue.messages = msg :: rest)
      (hreleased : Released entry rest entry') :
      Effect s (.tryRecv slot own) (s.took recv.id
        (s.withEntry recv.id entry' s.routing.callAwait) msg entry.blockedSender)
  /-- `try_recv` finds the queue empty and registers all the same. -/
  | tryEmpty (slot : Slot) (own : Own) (recv : Incarnation) (entry : EndpointState Msg)
      (hat : s.At slot .user) (hown : (s.task slot).own own = some recv)
      (hlookup : s.entry recv.id = some entry) (halive : entry.liveness = .alive)
      (hgeneration : recv.generation = entry.generation) (hempty : entry.queue.messages = []) :
      Effect s (.tryRecv slot own) { s with
        routing := s.withEntry recv.id { entry with blockedReceiver := some slot }
          s.routing.callAwait }
  /-- `try_recv` finds its own endpoint dead. -/
  | tryDead (slot : Slot) (own : Own) : Effect s (.tryRecv slot own) s
  /-- A Call takes the oldest message of its target and returns. -/
  | replied (slot : Slot) (call : Call) (entry entry' : EndpointState Msg) (msg : Msg)
      (hat : s.At slot (.waiting (.call call) .attempt))
      (hlookup : s.entry call.recv.id = some entry) (halive : entry.liveness = .alive)
      (hgeneration : call.recv.generation = entry.generation)
      (hfind : entry.queue.messages.find? call.accepts = some msg)
      (hreleased : Released entry (entry.queue.messages.eraseP call.accepts) entry') :
      Effect s (.attempt slot) ((s.took call.recv.id (s.withEntry call.recv.id entry'
        (update s.routing.callAwait slot 0)) msg entry.blockedSender).endCall slot call
          (replyResult call msg))
  /-- A Call finds no reply and its target alive: it registers and goes on to block. -/
  | callEmpty (slot : Slot) (call : Call) (entry target : EndpointState Msg)
      (hat : s.At slot (.waiting (.call call) .attempt))
      (hlookup : s.entry call.recv.id = some entry) (halive : entry.liveness = .alive)
      (hgeneration : call.recv.generation = entry.generation)
      (hfind : entry.queue.messages.find? call.accepts = none)
      (htarget : s.entry call.target.id = some target) (htargetAlive : target.liveness = .alive) :
      Effect s (.attempt slot) ({ s with
        routing := s.withEntry call.recv.id { entry with blockedReceiver := some slot }
          (update s.routing.callAwait slot call.target.id) }.setPc slot
            (.waiting (.call call) .empty))
  /-- A Call finds no reply and its target dead. -/
  | replyDead (slot : Slot) (call : Call) (entry : EndpointState Msg)
      (hat : s.At slot (.waiting (.call call) .attempt))
      (hlookup : s.entry call.recv.id = some entry) (halive : entry.liveness = .alive)
      (hgeneration : call.recv.generation = entry.generation)
      (hfind : entry.queue.messages.find? call.accepts = none)
      (htarget : s.routing.table.Unreachable call.target.id none) :
      Effect s (.attempt slot) ({ s with routing := s.routing.setCallAwait slot 0 }.endCall slot
        call (.failed IpcError.replyDead.code))
  /-- A Call finds its own endpoint dead. -/
  | callOwnDead (slot : Slot) (call : Call) (hat : s.At slot (.waiting (.call call) .attempt))
      (hdead : s.routing.table.Unreachable call.recv.id (some call.recv.generation)) :
      Effect s (.attempt slot) ({ s with routing := s.routing.setCallAwait slot 0 }.endCall slot
        call (.failed IpcError.endpointDead.code))
  /-- The deadline of a Call has passed. -/
  | callTimedOut (slot : Slot) (call : Call) (hat : s.At slot (.waiting (.call call) .empty))
      (hdeadline : call.deadline ≠ 0) (hexpired : call.deadline ≤ s.ticks) :
      Effect s (.test slot) (s.endCall slot call .timedOut)
  /-- The deadline of a receive or a sleep has passed. -/
  | timedOut (slot : Slot) (wait : Wait) (hat : s.At slot (.waiting wait .empty))
      (hcall : ∀ call, wait ≠ .call call) : Effect s (.test slot) (s.leave slot true)
  /-- The wait goes on to block, with the timer armed if it has a deadline. -/
  | armed (slot : Slot) (wait : Wait) (deadline : Nat) (hat : s.At slot (.waiting wait .empty)) :
      Effect s (.test slot) (s.setTask slot { s.task slot with
        wakeDeadline := deadline
        pc := .waiting wait .block })
  /-- A block that finds the pending-wake flag set returns `0`. -/
  | blockPending (slot : Slot) (wait : Wait) (hat : s.At slot (.waiting wait .block))
      (hrecv : wait.blockState = .blockedOnRecv) (hpending : (s.task slot).wakePending = true) :
      Effect s (.block slot) ((s.consumePending slot).finishBlock slot wait 0)
  /-- A block that switches the task away. -/
  | blockParks (slot : Slot) (wait : Wait) (hat : s.At slot (.waiting wait .block))
      (hflag : wait.blockState = .blockedOnRecv → (s.task slot).wakePending = false)
      (hrunning : (s.task slot).state = .running) :
      Effect s (.block slot) (s.setTask slot { s.task slot with
        state := wait.blockState
        onCpu := false
        pc := .waiting wait .parked })
  /-- A block that finds the task no longer running returns the stored code. -/
  | blockFails (slot : Slot) (wait : Wait) (hat : s.At slot (.waiting wait .block))
      (hflag : wait.blockState = .blockedOnRecv → (s.task slot).wakePending = false)
      (hrunning : (s.task slot).state ≠ .running) :
      Effect s (.block slot) (s.finishBlock slot wait (s.task slot).wakeupErr)
  /-- A task that was switched away inside a block runs again. -/
  | resumed (slot : Slot) (wait : Wait) (hat : s.At slot (.waiting wait .parked)) :
      Effect s (.resume slot) (s.finishBlock slot wait (s.task slot).wakeupErr)
  | dispatched (slot : Slot) (hvalid : (s.task slot).valid = true)
      (hcpu : (s.task slot).onCpu = false) (hready : (s.task slot).state = .ready) :
      Effect s (.dispatch slot) (s.setTask slot { s.task slot with
        state := .running
        onCpu := true })
  | yielded (slot : Slot) (hcpu : (s.task slot).onCpu = true)
      (hwindow : ∀ endpoint msg next,
        (s.task slot).pc ≠ .waiting (.send endpoint msg next) .block) :
      Effect s (.yield slot) (s.setTask slot { s.task slot with
        onCpu := false
        state := if (s.task slot).state = .running then .ready else (s.task slot).state })
  | delivered (index : Nat) (wake : Wake) (hwake : s.owed[index]? = some wake) :
      Effect s (.deliver index) ({ s with owed := s.owed.eraseIdx index }.setTask wake.slot
        ((s.task wake.slot).wakeBySlot wake.result))
  | ticked : Effect s .tick { s with ticks := s.ticks + 1 }
  | timerFired (slot : Slot) (hblocked : (s.task slot).state = .blockedOnRecv) :
      Effect s (.timerScan slot)
        ((s.setTask slot { s.task slot with wakeDeadline := 0 }).owe (some slot) 0)
  | killed (slot : Slot) (hvalid : (s.task slot).valid = true)
      (halive : (s.task slot).state ≠ .dead) : Effect s (.kill slot) (s.kill slot)
  | awaitCleared (slot : Slot) (hstage : (s.task slot).killStage = some .marked) :
      Effect s (.killStep slot)
        ({ s with routing := s.routing.setCallAwait slot 0 }.setStage slot .cleared)
  /-- A kill of a task without the endpoint the stage is about moves on. -/
  | stageSkipped (slot : Slot) (stage next : KillStage)
      (hstage : (s.task slot).killStage = some stage)
      (hskip : ((s.task slot).reply = none ∧ next = .replyFreed ∧
          (stage = .cleared ∨ stage = .replyKilled)) ∨
        ((s.task slot).endpoint = none ∧ next = .freed ∧
          (stage = .replyFreed ∨ stage = .draining ∨ stage = .drained))) :
      Effect s (.killStep slot) (s.setStage slot next)
  /-- `kill_endpoint` of one of the task's two endpoints. -/
  | endpointKilled (slot : Slot) (own : Own) (life : Incarnation) (s' : State)
      (next : KillStage) (hown : (s.task slot).own own = some life)
      (hstage : (own = .reply ∧ (s.task slot).killStage = some .cleared ∧ next = .replyKilled) ∨
        (own = .endpoint ∧ (s.task slot).killStage = some .replyFreed ∧ next = .draining))
      (hkill : s.killEndpoint slot life.id = some s') :
      Effect s (.killStep slot) (s'.setStage slot next)
  | replyFreed (slot : Slot) (life : Incarnation)
      (hstage : (s.task slot).killStage = some .replyKilled)
      (hreply : (s.task slot).reply = some life) :
      Effect s (.killStep slot) ({ s with ids := s.ids.release life.id }.setTask slot
        { s.task slot with reply := none, killStage := some .replyFreed })
  /-- The drain loop takes one waiting caller. -/
  | waiterTaken (slot waiter : Slot) (life : Incarnation)
      (hstage : (s.task slot).killStage = some .draining)
      (hown : (s.task slot).endpoint = some life)
      (hawait : s.routing.callAwait waiter = life.id) :
      Effect s (.killStep slot) { s with
        routing := s.routing.setCallAwait waiter 0
        owed := s.owed ++ if waiter = slot then []
          else [⟨waiter, IpcError.replyDead.code, life.id⟩] }
  /-- The drain loop finds no caller left. -/
  | waitersDrained (slot : Slot) (life : Incarnation)
      (hstage : (s.task slot).killStage = some .draining)
      (hown : (s.task slot).endpoint = some life)
      (hnone : ∀ waiter, s.routing.callAwait waiter ≠ life.id) :
      Effect s (.killStep slot) (s.setStage slot .drained)
  | endpointFreed (slot : Slot) (life : Incarnation)
      (hstage : (s.task slot).killStage = some .drained)
      (hown : (s.task slot).endpoint = some life) :
      Effect s (.killStep slot) ({ s with ids := s.ids.release life.id }.setStage slot .freed)
  | released (slot : Slot) (hstage : (s.task slot).killStage = some .freed)
      (hcpu : (s.task slot).onCpu = false) :
      Effect s (.release slot)
        (s.setTask slot { s.task slot with valid := false, killStage := none })
  | spawned (slot : Slot) (coreId : Nat) (hasRecv grantReply : Bool) (s' : State)
      (hvalid : (s.task slot).valid = false)
      (hspawn : s.spawn slot coreId hasRecv grantReply = some s') :
      Effect s (.spawn slot coreId hasRecv grantReply) s'

section Syscalls

variable {s s' : State} {slot : Slot} {payloadLen : Nat} (a : Action)

lemma effect_blockingSend {endpoint : Nat} {capGen : Option Nat}
    {stamp : Incarnation} (hact : a.blockingSend = some (slot, endpoint))
    (hgen : a.capGen = capGen) (hat : s.At slot .user) (hstamp : Stamps s stamp) :
    Effect s a (s.blockingSend slot endpoint capGen (s.message stamp endpoint payloadLen)) := by
  unfold blockingSend
  rcases s.offer_cases endpoint capGen (some slot) (s.message stamp endpoint payloadLen) with
    ⟨e, hne, hoffer⟩ | ⟨entry, queue, hlook, hlive, hqueue, hoffer⟩ |
    ⟨entry, hlook, hlive, hfull, hoffer⟩
  · rw [hoffer]
    cases e <;> first | exact absurd rfl hne | exact .refused a (Action.offers_of_blockingSend hact)
  · rw [hoffer]
    exact .queued a endpoint entry queue stamp payloadLen (Action.offers_of_blockingSend hact) hlook
      (alive_of_checkLive hlive) hqueue hstamp
  · rw [hoffer]
    exact .parked a slot endpoint entry stamp payloadLen hact hat hlook (hgen ▸ hlive) hfull hstamp

lemma effect_offer {endpoint : Nat} {capGen : Option Nat} {stamp : Incarnation}
    (hoffers : a.offers) (hstamp : Stamps s stamp) :
    Effect s a (s.offer endpoint capGen none (s.message stamp endpoint payloadLen)).1 := by
  rcases s.offer_cases endpoint capGen none (s.message stamp endpoint payloadLen) with
    ⟨e, -, hoffer⟩ | ⟨entry, queue, hlook, hlive, hqueue, hoffer⟩ | ⟨entry, -, -, -, hoffer⟩
  · rw [hoffer]
    exact .refused a hoffers
  · rw [hoffer]
    exact .queued a endpoint entry queue stamp payloadLen hoffers hlook
      (alive_of_checkLive hlive) hqueue hstamp
  · rw [hoffer]
    exact .refused a hoffers

lemma effect_request (call : Call) {own : Own} (hact : a.blockingSend = some (slot, call.target.id))
    (hgen : a.capGen = some call.target.generation) (hat : s.At slot .user)
    (hown : (s.task slot).own own = some call.recv) (hid : call.callId = s.log.calls)
    (hcall : a.callTarget = some (slot, call.target)) :
    Effect s a (s.request slot call (s.message (s.task slot).stamp call.target.id payloadLen)) := by
  unfold request
  rcases s.offer_cases call.target.id (some call.target.generation) (some slot)
      (s.message (s.task slot).stamp call.target.id payloadLen) with
    ⟨e, hne, hoffer⟩ | ⟨entry, queue, hlook, hlive, hqueue, hoffer⟩ |
    ⟨entry, hlook, hlive, hfull, hoffer⟩
  · rw [hoffer]
    cases e <;> first | exact absurd rfl hne | exact .refused a (Action.offers_of_blockingSend hact)
  · rw [hoffer]
    obtain ⟨halive, hgeneration⟩ := checkLive_some.mp hlive
    exact .callQueued a slot own call entry queue payloadLen
      (Action.offers_of_blockingSend hact) hat hown hid hlook halive
      hgeneration hqueue hcall
  · rw [hoffer]
    obtain ⟨halive, hgeneration⟩ := checkLive_some.mp hlive
    exact .callParked a slot own call entry payloadLen hact hat hown hid hlook
      (hgen ▸ hlive) hgeneration hfull hcall

lemma effect_recvAttempt {recv : Incarnation} {deadline : Option Nat}
    (hat : s.At slot (.waiting (.recv recv deadline) .attempt)) :
    Effect s (.attempt slot) (s.recvAttempt slot recv deadline) := by
  unfold recvAttempt
  have hout := dequeue_outcome s.routing.table recv.id recv.generation (some slot)
  generalize s.routing.table.dequeue recv.id recv.generation (some slot) = result at hout
  cases hout with
  | dead => exact .recvDead slot recv deadline hat
  | taken entry entry' msg rest hlook hlive hqueue hrel =>
    obtain ⟨halive, hgen⟩ := checkLive_some.mp hlive
    exact .received slot recv deadline entry entry' msg rest hat hlook halive hgen hqueue hrel
  | registered entry _ hslot hlook hlive hempty =>
    cases hslot
    obtain ⟨halive, hgen⟩ := checkLive_some.mp hlive
    exact .recvEmpty slot recv deadline entry hat hlook halive hgen hempty
  | unregistered entry hslot => cases hslot

lemma effect_tryRecv {own : Own} {recv : Incarnation} (hat : s.At slot .user)
    (hown : (s.task slot).own own = some recv) :
    Effect s (.tryRecv slot own) (s.tryRecv slot recv) := by
  unfold tryRecv
  have hout := dequeue_outcome s.routing.table recv.id recv.generation (some slot)
  generalize s.routing.table.dequeue recv.id recv.generation (some slot) = result at hout
  cases hout with
  | dead => exact .tryDead slot own
  | taken entry entry' msg rest hlook hlive hqueue hrel =>
    obtain ⟨halive, hgen⟩ := checkLive_some.mp hlive
    exact .tryReceived slot own recv entry entry' msg rest hat hown hlook halive hgen hqueue hrel
  | registered entry _ hslot hlook hlive hempty =>
    cases hslot
    obtain ⟨halive, hgen⟩ := checkLive_some.mp hlive
    exact .tryEmpty slot own recv entry hat hown hlook halive hgen hempty
  | unregistered entry hslot => cases hslot

lemma effect_callAttempt {call : Call} (hat : s.At slot (.waiting (.call call) .attempt)) :
    Effect s (.attempt slot) (s.callAttempt slot call) := by
  unfold callAttempt
  have hout := Routing.callDequeue_outcome s.routing call.recv.id call.recv.generation
    call.target.id call.accepts slot
  generalize s.routing.callDequeue call.recv.id call.recv.generation call.target.id
    call.accepts slot = result at hout
  cases hout with
  | ownDead hdead => exact .callOwnDead slot call hat hdead
  | replied entry entry' msg hlook hlive hfind hrel =>
    obtain ⟨halive, hgen⟩ := checkLive_some.mp hlive
    exact .replied slot call entry entry' msg hat hlook halive hgen hfind hrel
  | targetDead entry hlook hlive hfind htarget =>
    obtain ⟨halive, hgen⟩ := checkLive_some.mp hlive
    exact .replyDead slot call entry hat hlook halive hgen hfind htarget
  | registered entry hlook hlive hfind target htarget htargetAlive =>
    obtain ⟨halive, hgen⟩ := checkLive_some.mp hlive
    exact .callEmpty slot call entry target hat hlook halive hgen hfind htarget htargetAlive

lemma effect_deadlineTest (hat : s.At slot (.waiting wait .empty)) :
    Effect s (.test slot) (s.deadlineTest slot wait) := by
  unfold deadlineTest
  cases hexpires : wait.expires with
  | none => exact .armed slot wait (s.task slot).wakeDeadline hat
  | some deadline =>
    by_cases hexpired : deadline ≤ s.ticks
    · simp only [hexpired]
      cases wait with
      | call call =>
        simp only [Wait.expires] at hexpires
        split at hexpires
        · cases hexpires
        next hdeadline =>
          cases hexpires
          exact .callTimedOut slot call hat hdeadline hexpired
      | send endpoint msg next | recv own deadline | sleep deadline =>
        exact .timedOut slot _ hat (by simp)
    · simp only [hexpired]
      exact .armed slot wait deadline hat

lemma effect_block (hat : s.At slot (.waiting wait .block)) :
    Effect s (.block slot) (s.block slot wait) := by
  unfold block Task.blockAndReschedule
  split_ifs with hpend hrun
  · exact .blockPending slot wait hat hpend.1 hpend.2
  · exact .blockParks slot wait hat (by simpa using hpend) hrun
  · have hsame : s.setTask slot (s.task slot) = s := by simp [setTask]
    simp only [hsame]
    exact .blockFails slot wait hat (by simpa using hpend) hrun

lemma effect_killStep {stage : KillStage} (hstage : (s.task slot).killStage = some stage)
    (h : s.killStep slot stage = some s') : Effect s (.killStep slot) s' := by
  cases stage with
  | marked =>
    cases h
    exact .awaitCleared slot hstage
  | cleared =>
    simp only [killStep] at h
    split at h <;> rename_i hreply
    · cases h
      exact .stageSkipped slot _ _ hstage (.inl ⟨hreply, rfl, .inl rfl⟩)
    · obtain ⟨t, hkill, rfl⟩ := Option.map_eq_some_iff.mp h
      exact .endpointKilled slot .reply _ t _ hreply (.inl ⟨rfl, hstage, rfl⟩) hkill
  | replyKilled =>
    simp only [killStep] at h
    split at h <;> rename_i hreply <;> cases h
    · exact .stageSkipped slot _ _ hstage (.inl ⟨hreply, rfl, .inr rfl⟩)
    · exact .replyFreed slot _ hstage hreply
  | replyFreed =>
    simp only [killStep] at h
    split at h <;> rename_i hown
    · cases h
      exact .stageSkipped slot _ _ hstage (.inr ⟨hown, rfl, .inl rfl⟩)
    · obtain ⟨t, hkill, rfl⟩ := Option.map_eq_some_iff.mp h
      exact .endpointKilled slot .endpoint _ t _ hown (.inr ⟨rfl, hstage, rfl⟩) hkill
  | draining =>
    simp only [killStep] at h
    split at h <;> rename_i hown
    · cases h
      exact .stageSkipped slot _ _ hstage (.inr ⟨hown, rfl, .inr (.inl rfl)⟩)
    split at h <;> rename_i hwaiter
    · cases h
      exact .waitersDrained slot _ hstage hown (Routing.takeCallWaiter_eq_none hwaiter)
    · obtain ⟨hawait, rfl⟩ := Routing.takeCallWaiter_eq_some hwaiter
      have heff := Effect.waiterTaken slot _ _ hstage hown hawait
      split at h <;> rename_i hself <;> cases h <;> simpa [hself] using heff
  | drained =>
    simp only [killStep] at h
    split at h <;> rename_i hown <;> cases h
    · exact .stageSkipped slot _ _ hstage (.inr ⟨hown, rfl, .inr (.inr rfl)⟩)
    · exact .endpointFreed slot _ hstage hown
  | freed => cases h

end Syscalls

/-- **Every step is one of the listed effects.** -/
theorem effect_of_step {s s' : State} {a : Action} (h : step s a = some s') : Effect s a s' := by
  cases a with
  | send slot endpoint capGen payloadLen =>
    obtain ⟨⟨hat, -⟩, rfl⟩ := ite_some_none_eq_some.mp h
    exact effect_blockingSend _ rfl rfl hat (stamps_of_at hat)
  | trySend slot endpoint capGen payloadLen =>
    obtain ⟨⟨hat, -⟩, rfl⟩ := ite_some_none_eq_some.mp h
    exact effect_offer _ rfl (stamps_of_at hat)
  | consoleWrite slot endpoint payloadLen =>
    obtain ⟨⟨hat, -⟩, rfl⟩ := ite_some_none_eq_some.mp h
    exact effect_blockingSend _ rfl rfl hat (.inl rfl)
  | interrupt endpoint payloadLen =>
    obtain ⟨-, rfl⟩ := ite_some_none_eq_some.mp h
    exact effect_offer _ rfl (.inl rfl)
  | call slot target own payloadLen deadline replyBufCap =>
    simp only [step] at h
    split at h <;> rename_i hown
    · obtain ⟨⟨hat, -⟩, rfl⟩ := ite_some_none_eq_some.mp h
      exact effect_request _ ⟨s.log.calls, _, target, deadline, replyBufCap⟩ rfl rfl
        hat hown rfl rfl
    · cases h
  | recv slot own deadline =>
    simp only [step] at h
    split at h <;> rename_i hown
    · obtain ⟨hat, rfl⟩ := ite_some_none_eq_some.mp h
      exact .recvEntered slot own _ deadline hat hown
    · cases h
  | tryRecv slot own =>
    simp only [step] at h
    split at h <;> rename_i hown
    · obtain ⟨hat, rfl⟩ := ite_some_none_eq_some.mp h
      exact effect_tryRecv hat hown
    · cases h
  | sleep slot deadline =>
    obtain ⟨hat, rfl⟩ := ite_some_none_eq_some.mp h
    exact .sleepEntered slot deadline hat
  | attempt slot =>
    simp only [step] at h
    split at h
    · obtain ⟨hat, rfl⟩ := ite_some_none_eq_some.mp h
      exact effect_recvAttempt hat
    · obtain ⟨hat, rfl⟩ := ite_some_none_eq_some.mp h
      exact effect_callAttempt hat
    · cases h
  | test slot =>
    simp only [step] at h
    split at h
    · obtain ⟨hat, rfl⟩ := ite_some_none_eq_some.mp h
      exact effect_deadlineTest hat
    · cases h
  | block slot =>
    simp only [step] at h
    split at h
    · obtain ⟨hat, rfl⟩ := ite_some_none_eq_some.mp h
      exact effect_block hat
    · cases h
  | resume slot =>
    simp only [step] at h
    split at h
    · obtain ⟨hat, rfl⟩ := ite_some_none_eq_some.mp h
      exact .resumed slot _ hat
    · cases h
  | dispatch slot =>
    obtain ⟨⟨hvalid, hcpu, hready⟩, rfl⟩ := ite_some_none_eq_some.mp h
    exact .dispatched slot hvalid hcpu hready
  | yield slot =>
    simp only [step] at h
    split at h
    · cases h
    next hwindow =>
      obtain ⟨hcpu, rfl⟩ := ite_some_none_eq_some.mp h
      exact .yielded slot hcpu hwindow
  | deliver index =>
    simp only [step] at h
    split at h
    next wake hwake =>
      cases h
      exact .delivered index wake hwake
    · cases h
  | tick =>
    cases h
    exact .ticked
  | timerScan slot =>
    obtain ⟨⟨-, -, hblocked⟩, rfl⟩ := ite_some_none_eq_some.mp h
    exact .timerFired slot hblocked
  | kill slot =>
    obtain ⟨⟨hvalid, halive⟩, rfl⟩ := ite_some_none_eq_some.mp h
    exact .killed slot hvalid halive
  | killStep slot =>
    obtain ⟨stage, hstage, h⟩ := Option.bind_eq_some_iff.mp h
    exact effect_killStep hstage h
  | release slot =>
    obtain ⟨⟨hstage, hcpu⟩, rfl⟩ := ite_some_none_eq_some.mp h
    exact .released slot hstage hcpu
  | spawn slot coreId hasRecv grantReply =>
    obtain ⟨hvalid, h⟩ := ite_none_right_eq_some.mp h
    exact .spawned slot coreId hasRecv grantReply s' hvalid h

end Godspeed.Machine
