import Godspeed.Machine.Sender

/-!
# What a blocking send that returns 0 has done

A send that finds the queue full parks its message and blocks; a receiver that
makes room moves the message into the queue and wakes the sender with `0`.  But
the block returns whatever code the last wake stored, and `try_recv` and an
expired `recv_timeout` leave the task recorded as a receiver, so a wake that has
nothing to do with the send can be the one that ends it.

* `sent_but_pending` is a run in which a send returns `0` while its message is
  still pending.
* `delivered_of_zero` is what holds in every run in which a task that blocks in a
  send has nothing else outstanding: no registration, no wake owed to it with
  result `0`, no wake since it was scheduled, and no kill before its block.
-/

namespace Godspeed.Machine

open Ipc Capability Transition

variable (s : State) (a : Action)

/-- No entry records the task, as a receiver or as a sender. -/
def State.Unregistered (slot : Slot) : Prop :=
  ∀ entry ∈ s.routing.table.entries, entry.valid = true →
    entry.blockedReceiver ≠ some slot ∧ entry.blockedSender ≠ some slot

instance (s : State) (slot : Slot) : Decidable (s.Unregistered slot) :=
  inferInstanceAs (Decidable (∀ entry ∈ s.routing.table.entries, _))

/-- The task runs, nothing is registered for it and no success is owed to it. -/
def State.Unencumbered (slot : Slot) : Prop :=
  (s.task slot).state = .running ∧ s.Unregistered slot ∧
    ∀ wake ∈ s.owed, wake.slot = slot → wake.result ≠ 0

instance (s : State) (slot : Slot) : Decidable (s.Unencumbered slot) :=
  inferInstanceAs (Decidable (_ ∧ _ ∧ _))

/-- A task that is about to park its message is unencumbered. -/
def ParksUnencumbered : Prop :=
  match a.blockingSend with
  | none => True
  | some (slot, id) =>
    match s.entry id with
    | none => True
    | some entry => entry.checkLive a.capGen = true →
        entry.queue.messages.length = queueDepth → s.Unencumbered slot

lemma parksUnencumbered_iff :
    ParksUnencumbered s a ↔ ∀ target ∈ a.blockingSend, ∀ entry ∈ s.entry target.2,
      entry.checkLive a.capGen → entry.queue.messages.length = queueDepth →
        s.Unencumbered target.1 := by
  unfold ParksUnencumbered
  cases a.blockingSend with
  | none => simp
  | some target =>
    obtain ⟨slot, id⟩ := target
    cases hentry : s.entry id <;> simp [hentry]

instance (s : State) (a : Action) : Decidable (ParksUnencumbered s a) :=
  decidable_of_iff _ (parksUnencumbered_iff s a).symm

/-- A task that reaches the block of its send has not been killed. -/
def BlocksAlive : Action → Prop
  | .block slot =>
    match (s.task slot).pc with
    | .waiting (.send _ _ _) _ => (s.task slot).state ≠ .dead
    | _ => True
  | _ => True

/-- Whether a condition that concerns only a send holds is decided by the wait. -/
def decidableInSend {p : Prop} [Decidable p] : (pc : Pc) →
    Decidable (match pc with | .waiting (.send _ _ _) _ => p | _ => True)
  | .user => isTrue trivial
  | .waiting (.send _ _ _) _ => inferInstanceAs (Decidable p)
  | .waiting (.recv _ _) _ => isTrue trivial
  | .waiting (.sleep _) _ => isTrue trivial
  | .waiting (.call _) _ => isTrue trivial

instance (s : State) : (a : Action) → Decidable (BlocksAlive s a)
  | .block slot => decidableInSend (s.task slot).pc
  | .send .. | .trySend .. | .consoleWrite .. | .interrupt .. | .call .. | .recv .. | .tryRecv ..
  | .sleep .. | .attempt .. | .test .. | .resume .. | .dispatch .. | .yield .. | .deliver ..
  | .tick | .timerScan .. | .kill .. | .killStep .. | .release .. | .spawn .. => isTrue trivial

/-- The steps that leave a blocking send alone with its message. -/
def CleanSend : Prop := ParksUnencumbered s a ∧ BlocksAlive s a

instance (s : State) (a : Action) : Decidable (CleanSend s a) :=
  inferInstanceAs (Decidable (_ ∧ _))

variable {s s' : State} {slot : Slot} {id : Nat} {a : Action}

lemma State.Unregistered.entry (h : s.Unregistered slot) {entry : EndpointState Msg}
    (hlook : s.entry id = some entry) :
    entry.blockedReceiver ≠ some slot ∧ entry.blockedSender ≠ some slot := by
  obtain ⟨found, hmem, hvalid, rfl⟩ := RoutingTable.mem_of_lookup hlook
  exact h found hmem hvalid

lemma ParksUnencumbered.unencumbered {msg : Msg} (h : ParksUnencumbered s a)
    (hparks : Parks s a s' slot id msg) : s.Unencumbered slot := by
  obtain ⟨entry, hlook, hlive, hfull⟩ := hparks.full
  simp only [ParksUnencumbered, hparks.action, hlook] at h
  exact h hlive (MessageQueue.length_eq_of_enqueue hfull)

/-- The task waits for its message to be moved, and nothing can make its block
return `0` before that. -/
structure Unsent (s : State) (slot : Slot) (id : Nat) (msg : Msg) (phase : Phase) : Prop where
  owed : ∀ wake ∈ s.owed, wake.slot = slot → wake.result ≠ 0
  receiver : ∀ id' entry, s.entry id' = some entry → entry.blockedReceiver ≠ some slot
  sender : ∀ id' entry, s.entry id' = some entry → entry.blockedSender = some slot →
    id' = id ∧ entry.pendingSend = some msg
  place : (s.task slot).wakeupErr ≠ 0 ∨ ((s.task slot).state = .dead ∧
      (phase = .parked → (s.task slot).onCpu = false)) ∨
    (phase = .block ∧ (s.task slot).state = .running) ∨
    (phase = .parked ∧ (s.task slot).state = .blockedOnSend)

/-- Every task in a blocking send has had its message moved, or waits for it. -/
def State.TracksSends (s : State) : Prop :=
  ∀ slot id msg next phase, (s.task slot).valid = true →
    (s.task slot).pc = .waiting (.send id msg next) phase →
    msg.dest = id ∧ (msg ∈ s.log.entered id ∨ Unsent s slot id msg phase)

section Step

variable {s s' : State} {a : Action} {slot : Slot} {id : Nat} {msg : Msg} {phase : Phase}
  {next : Option Call}

lemma Dequeues.ne_sender {i : Slot} {recv : Incarnation} (hcoh : s.Coherent)
    (h : Dequeues s a i recv) (hpc : (s.task slot).pc = .waiting (.send id msg next) phase) :
    i ≠ slot := by
  rintro rfl
  obtain ⟨-, ⟨-, wait, hat, -⟩ | ⟨hat, -⟩⟩ := h
  · cases hat.2.2.symm.trans hpc
    rcases (hcoh i hat.1).sending id msg next .attempt hat.2.2 with ⟨hp, -⟩ | hp <;> cases hp
  · exact absurd (hat.2.2.symm.trans hpc) nofun

variable (hground : Ground s)
include hground

section

variable (h : Effect s a s')
include h

lemma Effect.receiver_stable (hdeqs : ∀ i recv, Dequeues s a i recv → i ≠ slot)
    (hrecv : ∀ id entry, s.entry id = some entry → entry.blockedReceiver ≠ some slot) :
    ∀ id entry, s'.entry id = some entry → entry.blockedReceiver ≠ some slot := by
  intro id entry' hentry'
  cases h.entryMove hground.lives hground.still id with
  | same hentry => exact hrecv id entry' (hentry.symm.trans hentry')
  | queued _ _ _ _ _ _ hentry | renewed _ _ _ hentry =>
    cases hentry.symm.trans hentry'
    nofun
  | parked old _ _ hold _ _ _ _ hentry =>
    cases hentry.symm.trans hentry'
    exact hrecv id old hold
  | taken old _ _ _ _ _ _ _ hold _ hrel hentry =>
    cases hentry.symm.trans hentry'
    rw [hrel.blockedReceiver]
    exact hrecv id old hold
  | registered _ i recv _ hdeq _ hentry =>
    cases hentry.symm.trans hentry'
    exact fun heq => hdeqs i recv hdeq (Option.some.inj heq)
  | killed _ _ _ _ _ _ _ _ _ _ _ hentry _ hquiet =>
    cases hentry.symm.trans hentry'
    simp [hquiet.blockedReceiver]
  | vanished _ _ _ hentry => exact absurd (hentry.symm.trans hentry') nofun

lemma Effect.sender_cases {id' : Nat}
    {entry' : EndpointState Msg} (hentry' : s'.entry id' = some entry')
    (hsender : entry'.blockedSender = some slot) :
    (∃ entry, s.entry id' = some entry ∧ entry.blockedSender = some slot ∧
      entry'.pendingSend = entry.pendingSend) ∨
      (a.blockingSend = some (slot, id') ∧ s.At slot .user) := by
  cases h.entryMove hground.lives hground.still id' with
  | same hentry => exact .inl ⟨entry', hentry.symm.trans hentry', hsender, rfl⟩
  | queued old _ _ hold _ _ hentry | registered old _ _ _ _ hold hentry =>
    cases hentry.symm.trans hentry'
    exact .inl ⟨old, hold, hsender, rfl⟩
  | parked old i _ hold _ hact hat _ hentry =>
    cases hentry.symm.trans hentry'
    cases hsender
    exact .inr ⟨hact, hat⟩
  | taken _ _ _ _ _ _ _ _ _ _ hrel hentry =>
    cases hentry.symm.trans hentry'
    exact absurd (hrel.blockedSender.symm.trans hsender) nofun
  | killed _ _ _ _ _ _ _ _ _ _ _ hentry _ hquiet =>
    cases hentry.symm.trans hentry'
    exact absurd (hquiet.blockedSender.symm.trans hsender) nofun
  | renewed _ _ _ hentry =>
    cases hentry.symm.trans hentry'
    cases hsender
  | vanished _ _ _ hentry => exact absurd (hentry.symm.trans hentry') nofun

lemma Effect.entered_subset (id : Nat) : s.log.entered id ⊆ s'.log.entered id :=
  (h.entryMove hground.lives hground.still id).custody.subset.1

lemma Effect.unsent_owed (hvalid : (s.task slot).valid)
    (hpc : (s.task slot).pc = .waiting (.send id msg next) phase)
    (hunsent : Unsent s slot id msg phase) {wake : Wake} (hwake : wake ∈ s'.owed)
    (hslot : wake.slot = slot) (hres : wake.result = 0) : msg ∈ s'.log.entered id := by
  rcases h.wake_cases hwake with hold | hnew
  · exact absurd hres (hunsent.owed wake hold hslot)
  cases hnew with
  | receiver id' entry hlook hrecv =>
    exact absurd (hslot ▸ hrecv) (hunsent.receiver id' entry hlook)
  | sender id' entry hlook hsender hmoved =>
    obtain ⟨rfl, hpend⟩ := hunsent.sender id' entry hlook (hslot ▸ hsender)
    rcases hmoved with ⟨-, hentered⟩ | hdead
    · simp [hentered, State.pending, hlook, hpend]
    · exact absurd (hres.symm.trans hdead) (by decide)
  | timer hblocked =>
    rw [hslot] at hblocked
    obtain ⟨-, wait, hwait, hstate⟩ := (hground.coherent slot hvalid).blocked (.inl hblocked)
    rw [hpc] at hwait
    cases hwait
    exact absurd (hblocked.symm.trans hstate) (by rintro ⟨⟩)
  | drain _ _ _ _ _ hdrain =>
    have hcode : wake.result = IpcError.replyDead.code := congrArg Wake.result hdrain
    exact absurd (hres.symm.trans hcode) (by decide)

lemma Effect.unsent_of_same {phase' : Phase} (hvalid : (s.task slot).valid)
    (hpc : (s.task slot).pc = .waiting (.send id msg next) phase)
    (hunsent : Unsent s slot id msg phase)
    (hplace : msg ∈ s'.log.entered id ∨ (s'.task slot).wakeupErr ≠ 0 ∨
      ((s'.task slot).state = .dead ∧ (phase' = .parked → (s'.task slot).onCpu = false)) ∨
      (phase' = .block ∧ (s'.task slot).state = .running) ∨
      (phase' = .parked ∧ (s'.task slot).state = .blockedOnSend)) :
    msg ∈ s'.log.entered id ∨ Unsent s' slot id msg phase' := by
  by_cases hsent : msg ∈ s'.log.entered id
  · exact .inl hsent
  refine .inr ⟨fun wake hwake hslot hres => hsent ?_, ?_, ?_, hplace.resolve_left hsent⟩
  · exact h.unsent_owed hground hvalid hpc hunsent hwake hslot hres
  · exact h.receiver_stable hground (fun i recv hdeq => hdeq.ne_sender hground.coherent hpc)
      hunsent.receiver
  · intro id' entry' hentry' hsender
    rcases h.sender_cases hground hentry' hsender with ⟨entry, hlook, hold, hsame⟩ | ⟨-, hat⟩
    · rw [hsame]
      exact hunsent.sender id' entry hlook hold
    · exact absurd (hat.2.2.symm.trans hpc) nofun

lemma Effect.unsent_of_parks (hclean : s.Unencumbered slot) (hparks : Parks s a s' slot id msg)
    (hstate : (s'.task slot).state = (s.task slot).state) : Unsent s' slot id msg .block := by
  obtain ⟨hrun, hunregistered, howed⟩ := hclean
  refine ⟨?_, ?_, ?_, .inr (.inr (.inl ⟨rfl, hstate.trans hrun⟩))⟩
  · rw [hparks.owed]
    exact howed
  · refine h.receiver_stable hground ?_ fun id entry hlook => (hunregistered.entry hlook).1
    rintro i recv ⟨-, ⟨rfl, -⟩ | ⟨-, own, rfl, -⟩⟩ <;> exact absurd hparks.action nofun
  · intro id' entry' hentry' hsender
    rcases h.sender_cases hground hentry' hsender with ⟨entry, hlook, hold, -⟩ | ⟨hact, -⟩
    · exact absurd hold (hunregistered.entry hlook).2
    have hsame := hact.symm.trans hparks.action
    simp only [Option.some.injEq, Prod.mk.injEq, true_and] at hsame
    subst hsame
    obtain ⟨recorded, hrecorded, -, -, hpend⟩ := hparks.records
    cases hrecorded.symm.trans hentry'
    exact ⟨rfl, hpend⟩

/-- **One step keeps track of every send.** -/
theorem Effect.tracksSends (hclean : CleanSend s a) (htracks : s.TracksSends) : s'.TracksSends := by
  intro slot id msg next phase hvalid' hpc'
  have hmove := h.taskMove slot
  -- a task that was in the same send before
  have hframe : ∀ phase₀, (s.task slot).valid →
      (s.task slot).pc = .waiting (.send id msg next) phase₀ →
      (Unsent s slot id msg phase₀ → msg ∈ s'.log.entered id ∨ (s'.task slot).wakeupErr ≠ 0 ∨
        ((s'.task slot).state = .dead ∧ (phase = .parked → (s'.task slot).onCpu = false)) ∨
        (phase = .block ∧ (s'.task slot).state = .running) ∨
        (phase = .parked ∧ (s'.task slot).state = .blockedOnSend)) →
      msg.dest = id ∧ (msg ∈ s'.log.entered id ∨ Unsent s' slot id msg phase) := by
    intro phase₀ hvalid hpc hplace
    obtain ⟨hdest, hsent | hunsent⟩ := htracks slot id msg next phase₀ hvalid hpc
    · exact ⟨hdest, .inl (h.entered_subset hground id hsent)⟩
    · exact ⟨hdest, h.unsent_of_same hground hvalid hpc hunsent (hplace hunsent)⟩
  generalize htask : s'.task slot = task' at hmove hvalid' hpc' hframe
  cases hmove with
  | same | disarmed => exact hframe phase hvalid' hpc' fun hunsent => .inr hunsent.place
  | enters wait phase₀ hat hparked hblock hempty hparks =>
    cases hpc'
    have hphase : phase = .block := hblock.mpr rfl
    subst hphase
    have hthis := hparks id msg next rfl
    exact ⟨hthis.dest, .inr (h.unsent_of_parks hground (hclean.1.unencumbered hthis) hthis
      (by simp [htask]))⟩
  | returns | committed => cases hpc'
  | advances wait phase₀ phase' deadline hat hadvance =>
    cases hpc'
    rcases (hground.coherent slot hat.1).sending id msg next phase₀ hat.2.2 with
      ⟨rfl, -⟩ | rfl <;> rcases hadvance with ⟨hp, -⟩ | ⟨hp, -⟩ <;> cases hp
  | finishes wait phase₀ result deadline pending hat =>
    rcases wait.after_cases result with huser | ⟨wait', phase', hafter, -, -, -, hrecv⟩
    · cases huser.symm.trans hpc'
    · cases hafter.symm.trans hpc'
      cases hrecv
  | parks wait hat hflag hrun =>
    cases hpc'
    exact hframe .block hat.1 hat.2.2 fun _ => .inr (.inr (.inr (.inr ⟨rfl, rfl⟩)))
  | dispatched hvalid hcpu hready =>
    refine hframe phase hvalid hpc' fun hunsent => .inr (.inl ?_)
    rcases hunsent.place with herr | ⟨hdead, -⟩ | ⟨-, hstate⟩ | ⟨-, hstate⟩
    · exact herr
    · exact absurd (hready.symm.trans hdead) nofun
    · exact absurd (hready.symm.trans hstate) nofun
    · exact absurd (hready.symm.trans hstate) nofun
  | yielded hcpu hwindow =>
    refine hframe phase hvalid' hpc' fun hunsent => .inr ?_
    rcases hunsent.place with herr | ⟨hdead, hoff⟩ | ⟨rfl, -⟩ | ⟨-, hstate⟩
    · exact .inl herr
    · exact .inr (.inl ⟨by simp [hdead], fun _ => rfl⟩)
    · exact absurd hpc' (hwindow id msg next)
    · obtain ⟨hoff, -⟩ := (hground.coherent slot hvalid').blocked (.inr hstate)
      exact absurd (hoff.symm.trans hcpu) nofun
  | woken wake hwake hslot hvalid halive =>
    refine hframe phase hvalid hpc' fun hunsent => ?_
    -- the wake just performed was owed, so its result is not a success
    exact .inr (.inl (hunsent.owed wake hwake hslot))
  | killed hvalid halive =>
    refine hframe phase hvalid hpc' fun hunsent => .inr ?_
    rcases hunsent.place with herr | ⟨hdead, -⟩ | ⟨rfl, -⟩ | ⟨rfl, hstate⟩
    · exact .inl herr
    · exact absurd hdead halive
    · exact .inr (.inl ⟨rfl, nofun⟩)
    · obtain ⟨hoff, -⟩ := (hground.coherent slot hvalid).blocked (.inr hstate)
      exact .inr (.inl ⟨rfl, fun _ => hoff⟩)
  | dies reply stage hstage =>
    exact hframe phase (hground.lives.stage slot hstage).1 hpc' fun hunsent =>
      .inr hunsent.place
  | released => cases hvalid'

end

end Step

/-! ## The results of sends -/

/-- A step records at most one result of a blocking send, and it is the stored
wake code of the task whose block returns. -/
inductive ResultMove (s : State) (a : Action) (s' : State) : Prop
  | same (hresults : s'.log.sendResults = s.log.sendResults)
  | returned (slot : Slot) (id : Nat) (msg : Msg) (next : Option Call) (phase : Phase)
      (hat : s.At slot (.waiting (.send id msg next) phase))
      (hphase : (phase = .block ∧ a = .block slot ∧ (s.task slot).state ≠ .running) ∨
        phase = .parked)
      (hresults : s'.log.sendResults = s.log.sendResults ++ [(msg, (s.task slot).wakeupErr)])

lemma finishBlock_results {wait : Wait} {result : Int} (hwait : wait.blockState = .blockedOnRecv) :
    (s.finishBlock slot wait result).log.sendResults = s.log.sendResults := by
  cases wait with
  | send endpoint msg next => cases hwait
  | recv own deadline | sleep deadline | call call =>
    simp only [State.finishBlock]
    split <;> rfl

lemma finishBlock_results_send {msg : Msg} {next : Option Call} {result : Int} :
    (s.finishBlock slot (.send id msg next) result).log.sendResults =
      s.log.sendResults ++ [(msg, result)] := by
  cases next with
  | none => rfl
  | some call =>
    simp only [State.finishBlock]
    split <;> rfl

lemma Effect.resultMove (h : Effect s a s') : ResultMove s a s' := by
  have hreturn : ∀ {slot wait phase}, s.At slot (.waiting wait phase) →
      ((phase = .block ∧ a = .block slot ∧ (s.task slot).state ≠ .running) ∨ phase = .parked) →
      ResultMove s a (s.finishBlock slot wait (s.task slot).wakeupErr) := by
    intro slot wait phase hat hphase
    cases wait with
    | send id msg next =>
      exact .returned slot id msg next phase hat hphase finishBlock_results_send
    | recv own deadline | sleep deadline | call call => exact .same (finishBlock_results rfl)
  cases h with
  | blockPending slot wait hat hrecv => exact .same (finishBlock_results hrecv)
  | blockFails slot wait hat hflag hrun => exact hreturn hat (.inl ⟨rfl, rfl, hrun⟩)
  | resumed slot wait hat => exact hreturn hat (.inr rfl)
  | killed slot =>
    refine .same ?_
    unfold State.kill
    split <;> rfl
  | endpointKilled slot own life t next _ _ hkill =>
    obtain ⟨-, -, -, -, -, hlog⟩ := State.killEndpoint_spec hkill
    exact .same (by simp [State.setStage, hlog])
  | spawned slot _ _ _ t _ hspawn =>
    obtain ⟨lifeGen, hlog⟩ := (spawns_of_spawn hspawn).log_eq
    exact .same (by simp [hlog])
  | _ => exact .same rfl

/-- Every send that returned `0` has had its message moved into the queue. -/
def State.Delivers (s : State) : Prop :=
  ∀ msg, (msg, (0 : Int)) ∈ s.log.sendResults → msg ∈ s.log.entered msg.dest

lemma Effect.delivers (hground : Ground s) (h : Effect s a s') (hclean : CleanSend s a)
    (htracks : s.TracksSends) (hdelivers : s.Delivers) : s'.Delivers := by
  intro msg hmem
  have hold : (msg, (0 : Int)) ∈ s.log.sendResults → msg ∈ s'.log.entered msg.dest := fun hold =>
    h.entered_subset hground msg.dest (hdelivers msg hold)
  cases h.resultMove with
  | same hresults => exact hold (hresults ▸ hmem)
  | returned slot id sent next phase hat hphase hresults =>
    rw [hresults, List.mem_append, List.mem_singleton] at hmem
    rcases hmem with hmem | hmem
    · exact hold hmem
    obtain ⟨rfl, hcode⟩ := Prod.mk.inj hmem
    obtain ⟨rfl, hsent | hunsent⟩ := htracks slot id msg next phase hat.1 hat.2.2
    · exact h.entered_subset hground _ hsent
    -- nothing but the move of its message lets the block return `0`
    exfalso
    rcases hunsent.place with herr | ⟨hdead, hoff⟩ | ⟨rfl, hrun⟩ | ⟨-, hblocked⟩
    · exact herr hcode.symm
    · rcases hphase with ⟨rfl, rfl, -⟩ | rfl
      · have halive := hclean.2
        simp only [BlocksAlive, hat.2.2] at halive
        exact halive hdead
      · exact absurd ((hoff rfl).symm.trans hat.2.1) nofun
    · rcases hphase with ⟨-, -, hnot⟩ | hp
      · exact hnot hrun
      · cases hp
    · obtain ⟨hoff, -⟩ := (hground.coherent slot hat.1).blocked (.inr hblocked)
      exact absurd (hoff.symm.trans hat.2.1) nofun

lemma delivers_of_reached (h : Reached CleanSend s) : s.Delivers := by
  have hboth : s.TracksSends ∧ s.Delivers := by
    refine h.invariant_of (I := fun t => t.TracksSends ∧ t.Delivers)
      (fun _ => ground_of_reached) ⟨?_, nofun⟩ fun t a t' hground ht hclean hstep => ?_
    · intro slot id msg next phase hvalid
      cases hvalid
    · have heff := effect_of_step hstep
      exact ⟨heff.tracksSends hground hclean ht.1, heff.delivers hground hclean ht.1 ht.2⟩
  exact hboth.2

/-- **A blocking send that returned `0` has been delivered**: in every run in which
a task that blocks in a send has nothing else outstanding, its message is in the
queue, taken or cleared out with it, and pending nowhere. -/
theorem delivered_of_zero {s : State} (h : Reached CleanSend s) (msg : Msg)
    (hreturned : (msg, (0 : Int)) ∈ s.log.sendResults) :
    (msg ∈ s.queued msg.dest ∨ msg ∈ s.log.taken msg.dest ∨ msg ∈ s.log.drained msg.dest) ∧
      ∀ id, msg ∉ s.pending id := by
  have hentered := delivers_of_reached h msg hreturned
  refine ⟨?_, fun id hpending => ?_⟩
  · have hplaces := (booked_of_reached h msg.dest).enters.subset hentered
    simpa [State.ledger] using hplaces
  have hbooked := booked_of_reached h id
  have hdest := hbooked.dest msg (hbooked.known.pending hpending)
  subst hdest
  exact hbooked.known.apart msg hpending hentered

/-! ## A success for a message that was not moved -/

/-- Slot `2` fills the endpoint of slot `1`. -/
def filled : List Action :=
  [.spawn 0 0 true true, .spawn 1 1 true true, .spawn 2 2 true true,
    .dispatch 0, .dispatch 1, .dispatch 2] ++ List.replicate 16 (.trySend 2 102 3 1)

/-- Slot `0` polls its own endpoint and stays recorded there; the message slot `2`
sends it wakes it in the middle of its send to slot `1`, whose block then returns
`0` with the message still pending. -/
theorem sent_but_pending : ∃ s msg, Reached Free s ∧
    (msg, (0 : Int)) ∈ s.log.sendResults ∧ msg ∈ s.pending msg.dest ∧
    msg ∉ s.log.entered msg.dest := by
  obtain ⟨s, hend⟩ : ∃ s, Reached Free s ∧
      (⟨100, 7, 17, 102, 1⟩, (0 : Int)) ∈ s.log.sendResults ∧
      ⟨100, 7, 17, 102, 1⟩ ∈ s.pending 102 ∧ ⟨100, 7, 17, 102, 1⟩ ∉ s.log.entered 102 :=
    exists_reaches (filled ++ [.tryRecv 0 .endpoint, .trySend 2 100 1 1,
      .send 0 102 3 7, .deliver 0, .block 0]) (by decide +kernel)
  exact ⟨s, ⟨100, 7, 17, 102, 1⟩, hend⟩

/-- Without the poll the send returns `0` once its message has moved up. -/
theorem delivered_of_zero_alone : ∃ s msg, Reached CleanSend s ∧
    (msg, (0 : Int)) ∈ s.log.sendResults ∧
    (msg ∈ s.queued msg.dest ∨ msg ∈ s.log.taken msg.dest ∨ msg ∈ s.log.drained msg.dest) ∧
      ∀ id, msg ∉ s.pending id := by
  obtain ⟨s, hs, hreturned⟩ : ∃ s, Reached CleanSend s ∧
      (⟨100, 7, 16, 102, 1⟩, (0 : Int)) ∈ s.log.sendResults :=
    exists_reaches (filled ++ [.send 0 102 3 7, .block 0, .recv 1 .endpoint none,
      .attempt 1, .deliver 0, .dispatch 0, .resume 0]) (by decide +kernel)
  exact ⟨s, _, hs, hreturned, delivered_of_zero hs _ hreturned⟩

end Godspeed.Machine
