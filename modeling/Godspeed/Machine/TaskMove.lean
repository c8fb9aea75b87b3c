import Godspeed.Machine.Spawn

/-!
# What a step does to one task

`TaskMove` lists the ways the words of one slot change: a syscall is entered,
moves on, parks or returns; the task is switched in or out, woken or killed; the
slot is given up or committed.  `Effect.taskMove` says that every step is one of
them for every slot, so an invariant about single tasks is a case split on the
moves.
-/

namespace Godspeed.Machine

open Ipc Capability Function RoutingTable

/-- The endpoint a wait is going to dequeue from. -/
def Wait.own : Wait → Option Incarnation
  | .recv own _ => some own
  | .call c => some c.recv
  | .send _ _ (some c) => some c.recv
  | _ => none

def Wait.call? : Wait → Option Call
  | .call c => some c
  | .send _ _ next => next
  | _ => none

/-- The endpoint a task at this place is going to dequeue from. -/
def Pc.own : Pc → Option Incarnation
  | .waiting wait _ => wait.own
  | .user => none

/-- The Call a task at this place is in. -/
def Pc.call? : Pc → Option Call
  | .waiting wait _ => wait.call?
  | .user => none

/-- Where a wait stands after its block returned: back in its loop or in user
mode, and on the same endpoint and in the same Call. -/
lemma Wait.after_cases (wait : Wait) (result : Int) :
    wait.after result = .user ∨ ∃ wait' phase, wait.after result = .waiting wait' phase ∧
      wait'.own = wait.own ∧ wait'.call? = wait.call? ∧
      (phase = .attempt ∨ ∃ deadline, wait' = .sleep deadline) ∧
      wait'.blockState = .blockedOnRecv := by
  by_cases hres : result = 0
  · subst hres
    cases wait with
    | send endpoint msg next =>
      cases next with
      | none => exact .inl rfl
      | some call => exact .inr ⟨.call call, .attempt, rfl, rfl, rfl, .inl rfl, rfl⟩
    | recv own deadline =>
      exact .inr ⟨.recv own deadline, .attempt, rfl, rfl, rfl, .inl rfl, rfl⟩
    | sleep deadline => exact .inr ⟨.sleep deadline, .empty, rfl, rfl, rfl, .inr ⟨deadline, rfl⟩, rfl⟩
    | call call => exact .inr ⟨.call call, .attempt, rfl, rfl, rfl, .inl rfl, rfl⟩
  · exact .inl (Wait.after_of_ne hres)

variable (s : State) (slot : Slot)

/-- The task is recorded at the endpoint its wait dequeues from, and nothing it
waits for is queued there. -/
def Registered (wait : Wait) : Prop :=
  ∃ life entry, wait.own = some life ∧ s.entry life.id = some entry ∧
    entry.blockedReceiver = some slot ∧
    ∀ msg ∈ entry.queue.messages, ∃ call, wait = .call call ∧ call.accepts msg = false

/-- The live endpoint records the task as its blocked sender, with this message. -/
def State.Records (id : Nat) (slot : Slot) (msg : Msg) : Prop :=
  ∃ entry, s.entry id = some entry ∧ entry.liveness = .alive ∧
    entry.blockedSender = some slot ∧ entry.pendingSend = some msg

/-- The Call records its target, which is alive. -/
def Watches (wait : Wait) : Prop :=
  ∀ call, wait = .call call → s.routing.callAwait slot = call.target.id ∧
    ∃ entry, s.entry call.target.id = some entry ∧ entry.liveness = .alive

/-- A Call that starts: it gets the next number, and its target is alive at the
generation of the capability. -/
structure Opens (s : State) (a : Action) (s' : State) (slot : Slot) (call : Call) : Prop where
  callId : call.callId = s.log.calls
  calls : s'.log.calls = s.log.calls + 1
  others : ∀ other, other ≠ slot → s'.task other = s.task other
  action : a.callTarget = some (slot, call.target)
  target : ∃ entry, s.entry call.target.id = some entry ∧ entry.liveness = .alive ∧
    call.target.generation = entry.generation

/-- A blocking send that found the queue full and recorded its sender. -/
structure Parks (s : State) (a : Action) (s' : State) (slot : Slot) (id : Nat) (msg : Msg) :
    Prop where
  action : a.blockingSend = some (slot, id)
  full : ∃ entry, s.entry id = some entry ∧ entry.checkLive a.capGen = true ∧
    entry.queue.enqueue msg = none
  records : s'.Records id slot msg
  owed : s'.owed = s.owed
  dest : msg.dest = id

/-- The block of `slot` returns the stored wake code: it finds the task no
longer running and no pending wake, or the task was switched away in it. -/
def State.readsCode (a : Action) : Prop :=
  (a = .block slot ∧ (s.task slot).wakePending = false ∧ (s.task slot).state ≠ .running) ∨
    a = .resume slot

/-- Why a wait returns before its block: its dequeue ended it, clearing the record
of an awaited endpoint, or its deadline has passed. -/
def Leaves (a : Action) (s' : State) (slot : Slot) (wait : Wait) (phase : Phase) : Prop :=
  (a = .attempt slot ∧ phase = .attempt ∧
      ∀ call, wait = .call call → s'.routing.callAwait slot = 0) ∨
    (a = .test slot ∧ phase = .empty ∧
      ∀ call, wait = .call call → call.deadline ≠ 0 ∧ call.deadline ≤ s.ticks)

/-- The ways the words of one slot change; the index is the new words. -/
inductive TaskMove (s : State) (a : Action) (s' : State) (slot : Slot) : Task → Prop
  | same : TaskMove s a s' slot (s.task slot)
  | enters (wait : Wait) (phase : Phase) (hat : s.At slot .user) (hphase : phase ≠ .parked)
      (hblock : phase = .block ↔ wait.blockState = .blockedOnSend)
      (hempty : phase = .empty → ∃ deadline, wait = .sleep deadline)
      (hsend : ∀ id msg next, wait = .send id msg next → Parks s a s' slot id msg)
      (hown : ∀ life, wait.own = some life → ∃ own, (s.task slot).own own = some life)
      (hcall : ∀ call, wait.call? = some call → Opens s a s' slot call)
      (hrequest : ∀ id msg call, wait = .send id msg (some call) → id = call.target.id) :
      TaskMove s a s' slot { s.task slot with pc := .waiting wait phase }
  | returns (wait : Wait) (phase : Phase) (deadline : Nat)
      (hat : s.At slot (.waiting wait phase)) (hleaves : Leaves s a s' slot wait phase) :
      TaskMove s a s' slot { s.task slot with pc := .user, wakeDeadline := deadline }
  | advances (wait : Wait) (phase phase' : Phase) (deadline : Nat)
      (hat : s.At slot (.waiting wait phase))
      (hphase : (phase = .attempt ∧ phase' = .empty ∧ Registered s' slot wait ∧
          Watches s' slot wait) ∨
        (phase = .empty ∧ phase' = .block)) :
      TaskMove s a s' slot { s.task slot with pc := .waiting wait phase', wakeDeadline := deadline }
  | finishes (wait : Wait) (phase : Phase) (result : Int) (deadline : Nat) (pending : Bool)
      (hat : s.At slot (.waiting wait phase)) (hphase : phase = .block ∨ phase = .parked)
      (hcode : result ≠ 0 → wait.blockState = .blockedOnRecv →
        result = (s.task slot).wakeupErr ∧ s.readsCode slot a)
      (hplace : a = .resume slot → phase = .parked) :
      TaskMove s a s' slot { s.task slot with
        pc := wait.after result, wakeDeadline := deadline, wakePending := pending }
  | parks (wait : Wait) (hat : s.At slot (.waiting wait .block))
      (hflag : wait.blockState = .blockedOnRecv → (s.task slot).wakePending = false)
      (hrunning : (s.task slot).state = .running) :
      TaskMove s a s' slot { s.task slot with
        state := wait.blockState, onCpu := false, pc := .waiting wait .parked }
  | dispatched (hvalid : (s.task slot).valid = true) (hcpu : (s.task slot).onCpu = false)
      (hready : (s.task slot).state = .ready) :
      TaskMove s a s' slot { s.task slot with state := .running, onCpu := true }
  | yielded (hcpu : (s.task slot).onCpu = true)
      (hwindow : ∀ endpoint msg next,
        (s.task slot).pc ≠ .waiting (.send endpoint msg next) .block) :
      TaskMove s a s' slot { s.task slot with
        onCpu := false
        state := if (s.task slot).state = .running then .ready else (s.task slot).state }
  | woken (wake : Wake) (hwake : wake ∈ s.owed) (hslot : wake.slot = slot)
      (hvalid : (s.task slot).valid = true) (halive : (s.task slot).state ≠ .dead)
      (haction : ∃ index, a = .deliver index ∧ s.owed[index]? = some wake) :
      TaskMove s a s' slot { s.task slot with
        wakeupErr := wake.result, wakePending := true, state := .ready }
  | disarmed : TaskMove s a s' slot { s.task slot with wakeDeadline := 0 }
  | killed (hvalid : (s.task slot).valid = true) (halive : (s.task slot).state ≠ .dead)
      (haction : a = .kill slot) :
      TaskMove s a s' slot { s.task slot with state := .dead, killStage := some .marked }
  | dies (reply : Option Incarnation) (next : KillStage)
      (hstage : (s.task slot).killStage ≠ none)
      (hreply : reply = (s.task slot).reply ∨ reply = none)
      (hdrain : (s.task slot).killStage = some .draining → ∀ life,
        (s.task slot).endpoint = some life → ∀ waiter, s.routing.callAwait waiter ≠ life.id)
      (hmarked : (s.task slot).killStage = some .marked → s'.routing.callAwait slot = 0) :
      TaskMove s a s' slot { s.task slot with reply := reply, killStage := some next }
  | released (haction : a = .release slot) (hcpu : (s.task slot).onCpu = false)
      (hstage : (s.task slot).killStage = some .freed) :
      TaskMove s a s' slot { s.task slot with valid := false, killStage := none }
  | committed (endpoint reply : Option Incarnation) (hvalid : (s.task slot).valid = false)
      (hdraws : ∀ life, reply = some life → life.id ∈ a.draws s) :
      TaskMove s a s' slot { s.task slot with
        valid := true, state := .ready, onCpu := false, endpoint := endpoint, reply := reply,
        pc := .user, killStage := none }

section Moves

variable {s s' : State} {a : Action} {slot : Slot} {i : Slot}

lemma taskMove_of_update {task' : Task} (htask : s'.task = update s.task i task')
    (hmove : TaskMove s a s' i task') : TaskMove s a s' slot (s'.task slot) := by
  rw [htask]
  by_cases hslot : slot = i
  · subst hslot
    simpa using hmove
  · simpa [hslot] using .same

lemma taskMove_of_wake {index : Nat} {wake : Wake} (hwake : s.owed[index]? = some wake) :
    TaskMove s (.deliver index) s' wake.slot ((s.task wake.slot).wakeBySlot wake.result) := by
  unfold Task.wakeBySlot
  split
  next h =>
    exact .woken wake (List.mem_of_getElem? hwake) rfl h.1 h.2 ⟨index, rfl, hwake⟩
  · exact .same

lemma taskMove_of_finishBlock {t : State} {i : Slot} {wait : Wait} {phase : Phase}
    {result : Int} {pending : Bool} (hat : s.At i (.waiting wait phase))
    (hphase : phase = .block ∨ phase = .parked)
    (hcode : result ≠ 0 → wait.blockState = .blockedOnRecv →
      result = (s.task i).wakeupErr ∧ s.readsCode i a)
    (hplace : a = .resume i → phase = .parked)
    (htask : t.task = update s.task i { s.task i with wakePending := pending }) :
    TaskMove s a (t.finishBlock i wait result) slot ((t.finishBlock i wait result).task slot) := by
  obtain ⟨⟨deadline, hfinish⟩, -⟩ := t.finishBlock_spec i wait result
  rw [htask, update_idem, update_self] at hfinish
  exact taskMove_of_update hfinish
    (.finishes wait phase result deadline pending hat hphase hcode hplace)

lemma taskMove_of_spawns (hvalid : (s.task i).valid = false) (h : Spawns s i s')
    (hdraws : a.draws s = s.draws) : TaskMove s a s' slot (s'.task slot) := by
  cases h with
  | plain => exact taskMove_of_update rfl (.committed none none hvalid nofun)
  | full _ hdraws =>
    rw [hdraws.task]
    exact .same
  | single s₁ s₂ life hregs hdraws =>
    have htask : s₂.task = s.task := hdraws.task.trans hregs.task
    refine taskMove_of_update ?_ (.committed (some life) none hvalid nofun)
    simp [State.commit, htask]
  | pair s₁ s₂ life reply hregs hreply =>
    have htask : s₂.task = s.task := hreply.task.trans hregs.task
    refine taskMove_of_update ?_ (.committed (some life) (some reply) hvalid ?_)
    · simp [State.commit, htask]
    · rintro life' ⟨⟩
      rw [hdraws]
      exact hregs.mem_draws_second hreply

/-- **Every step moves every task in one of these ways.** -/
theorem Effect.taskMove (h : Effect s a s') (slot : Slot) :
    TaskMove s a s' slot (s'.task slot) := by
  cases h with
  | refused | queued | tryReceived | tryEmpty | tryDead | ticked | waiterTaken => exact .same
  | callQueued _ i own call entry queue payloadLen _ hat hown hid hlook halive hgen _ hcall =>
    refine taskMove_of_update rfl
      (.enters _ _ hat nofun (by simp [Wait.blockState]) nofun nofun ?_ ?_ nofun)
    · rintro life ⟨⟩
      exact ⟨own, hown⟩
    · rintro c ⟨⟩
      exact ⟨hid, rfl, fun other hother => update_of_ne hother _ _, hcall,
        entry, hlook, halive, hgen⟩
  | parked _ i endpoint entry stamp payloadLen hact hat hlook hlive hfull =>
    refine taskMove_of_update rfl
      (.enters _ _ hat nofun (by simp [Wait.blockState]) nofun ?_ nofun nofun nofun)
    rintro id msg next ⟨⟩
    exact ⟨hact, ⟨entry, hlook, hlive, hfull⟩, ⟨_, lookup_write_self hlook,
      EndpointState.alive_of_checkLive hlive, rfl, rfl⟩, rfl, rfl⟩
  | callParked _ i own call entry payloadLen hact hat hown hid hlook hlive hgen hfull hcall =>
    have halive := EndpointState.alive_of_checkLive hlive
    refine taskMove_of_update rfl
      (.enters _ _ hat nofun (by simp [Wait.blockState]) nofun ?_ ?_ ?_ ?_)
    · rintro id msg next ⟨⟩
      exact ⟨hact, ⟨entry, hlook, hlive, hfull⟩,
        ⟨_, lookup_write_self hlook, halive, rfl, rfl⟩, rfl, rfl⟩
    · rintro life ⟨⟩
      exact ⟨own, hown⟩
    · rintro c ⟨⟩
      exact ⟨hid, rfl, fun other hother => update_of_ne hother _ _, hcall,
        entry, hlook, halive, hgen⟩
    · rintro id msg c ⟨⟩
      rfl
  | recvEntered i own recv deadline hat hown =>
    refine taskMove_of_update rfl
      (.enters _ _ hat nofun (by simp [Wait.blockState]) nofun nofun ?_ nofun nofun)
    rintro life ⟨⟩
    exact ⟨own, hown⟩
  | sleepEntered i deadline hat =>
    exact taskMove_of_update rfl (.enters _ _ hat nofun (by simp [Wait.blockState])
      (fun _ => ⟨deadline, rfl⟩) nofun nofun nofun nofun)
  | received i recv deadline _ _ _ _ hat | recvDead i recv deadline hat =>
    exact taskMove_of_update rfl (.returns _ _ _ hat (.inl ⟨rfl, rfl, nofun⟩))
  | recvEmpty i recv deadline entry hat hlook _ _ hempty =>
    refine taskMove_of_update rfl (.advances _ _ _ _ hat (.inl ⟨rfl, rfl, ?_, nofun⟩))
    exact ⟨recv, { entry with blockedReceiver := some i }, rfl,
      lookup_write_self hlook, rfl, by simp [hempty]⟩
  | replied i call _ _ _ hat | replyDead i call _ hat | callOwnDead i call hat =>
    exact taskMove_of_update rfl
      (.returns _ _ _ hat (.inl ⟨rfl, rfl, fun _ _ => update_self i 0 _⟩))
  | callEmpty i call entry target hat hlook halive _ hfind htarget htargetAlive =>
    refine taskMove_of_update rfl (.advances _ _ _ _ hat (.inl ⟨rfl, rfl, ?_, ?_⟩))
    · refine ⟨call.recv, { entry with blockedReceiver := some i }, rfl,
        lookup_write_self hlook, rfl, fun msg hmem => ⟨call, rfl, ?_⟩⟩
      simpa using List.find?_eq_none.mp hfind msg hmem
    · rintro c ⟨⟩
      refine ⟨update_self i _ _, ?_⟩
      -- the caller may be its own target
      by_cases hsame : call.target.id = call.recv.id
      · rw [hsame]
        exact ⟨_, lookup_write_self hlook, halive⟩
      · exact ⟨target, (lookup_write_of_ne hsame).trans htarget, htargetAlive⟩
  | callTimedOut i call hat hdeadline hexpired =>
    refine taskMove_of_update rfl (.returns _ _ _ hat (.inr ⟨rfl, rfl, ?_⟩))
    rintro call' ⟨⟩
    exact ⟨hdeadline, hexpired⟩
  | timedOut i wait hat hcall =>
    exact taskMove_of_update rfl (.returns _ _ _ hat
      (.inr ⟨rfl, rfl, fun call heq => absurd heq (hcall call)⟩))
  | armed i wait deadline hat =>
    exact taskMove_of_update rfl (.advances _ _ _ _ hat (.inr ⟨rfl, rfl⟩))
  | blockPending i wait hat =>
    exact taskMove_of_finishBlock hat (.inl rfl) (fun hne => absurd rfl hne) nofun rfl
  | blockParks i wait hat hflag hrun =>
    exact taskMove_of_update rfl (.parks wait hat hflag hrun)
  | blockFails i wait hat hflag hrun =>
    exact taskMove_of_finishBlock hat (.inl rfl)
      (fun _ hrecv => ⟨rfl, .inl ⟨rfl, hflag hrecv, hrun⟩⟩) nofun
      (update_eq_self i s.task).symm
  | resumed i wait hat =>
    exact taskMove_of_finishBlock hat (.inr rfl) (fun _ _ => ⟨rfl, .inr rfl⟩)
      (fun _ => rfl) (update_eq_self i s.task).symm
  | dispatched i hvalid hcpu hready =>
    exact taskMove_of_update rfl (.dispatched hvalid hcpu hready)
  | yielded i hcpu hwindow => exact taskMove_of_update rfl (.yielded hcpu hwindow)
  | delivered index wake hwake =>
    exact taskMove_of_update rfl (taskMove_of_wake hwake)
  | timerFired i => exact taskMove_of_update rfl .disarmed
  | killed i hvalid halive =>
    exact taskMove_of_update (s.kill_spec i).1 (.killed hvalid halive rfl)
  | awaitCleared i hstage =>
    exact taskMove_of_update rfl (.dies _ _ (by simp [hstage]) (.inl rfl) (by simp [hstage])
      fun _ => update_self i 0 _)
  | endpointFreed i life hstage =>
    exact taskMove_of_update rfl (.dies _ _ (by simp [hstage]) (.inl rfl) (by simp [hstage])
      (by simp [hstage]))
  | stageSkipped i stage next hstage hskip =>
    refine taskMove_of_update rfl (.dies _ _ (by simp [hstage]) (.inl rfl) ?_ fun hmarked => ?_)
    · intro hdraining life hlife
      rcases hskip with ⟨-, -, hstages⟩ | ⟨hnone, -, -⟩
      · rw [hstage] at hdraining
        cases hdraining
        rcases hstages with hs | hs <;> cases hs
      · exact absurd (hnone.symm.trans hlife) nofun
    · cases hstage.symm.trans hmarked
      rcases hskip with ⟨-, -, hs | hs⟩ | ⟨-, -, hs | hs | hs⟩ <;> cases hs
  | endpointKilled i own life t next _ hstage hkill =>
    obtain ⟨-, htask, -⟩ := State.killEndpoint_spec hkill
    have hdying : (s.task i).killStage ≠ none ∧ (s.task i).killStage ≠ some .draining ∧
        (s.task i).killStage ≠ some .marked := by
      rcases hstage with ⟨-, h, -⟩ | ⟨-, h, -⟩ <;> simp [h]
    exact taskMove_of_update (by simp [State.setStage, htask])
      (.dies (s.task i).reply next hdying.1 (.inl rfl) (fun h => absurd h hdying.2.1)
        fun h => absurd h hdying.2.2)
  | replyFreed i life hstage =>
    exact taskMove_of_update rfl (.dies _ _ (by simp [hstage]) (.inr rfl) (by simp [hstage])
      (by simp [hstage]))
  | waitersDrained i life hstage hown hnone =>
    refine taskMove_of_update rfl (.dies _ _ (by simp [hstage]) (.inl rfl)
      (fun _ life' hlife => ?_) (by simp [hstage]))
    cases hown.symm.trans hlife
    exact hnone
  | released i hstage hcpu => exact taskMove_of_update rfl (.released rfl hcpu hstage)
  | spawned i coreId hasRecv grantReply t hvalid hspawn =>
    cases hasRecv with
    | true => exact taskMove_of_spawns hvalid (spawns_of_spawn hspawn) rfl
    | false =>
      cases hspawn
      exact taskMove_of_update rfl (.committed none none hvalid nofun)

end Moves

end Godspeed.Machine
