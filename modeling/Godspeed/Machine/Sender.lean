import Godspeed.Machine.Notify

/-!
# Blocked senders and their messages

Each endpoint has room for one blocked sender and one pending message, and an
enqueue on a full queue writes both whether or not they are taken.

* `sender_lost` is a run in which two tasks send to the same full endpoint: the
  second one overwrites the record of the first, which stays blocked with no
  record, no wake owed to it and its message nowhere.
* `no_sender_lost` is what holds in every run in which a blocking send that finds
  the queue full finds no sender recorded: every blocked sender is recorded with
  its message or has been handed a wake, every message handed over is in exactly
  one place, and the death of an endpoint wakes the sender recorded there.
-/

namespace Godspeed.Machine

open Ipc Capability Transition Custody.Ledger State

variable (s : State)

/-- A blocking send that finds the queue full finds no sender recorded there. -/
def OneSender (a : Action) : Prop :=
  match a.blockingSend with
  | none => True
  | some (_, id) =>
    match s.entry id with
    | none => True
    | some entry => entry.checkLive a.capGen = true →
        entry.queue.messages.length = queueDepth → entry.blockedSender = none

instance (s : State) (a : Action) : Decidable (OneSender s a) := by
  unfold OneSender
  split
  · infer_instance
  · split <;> infer_instance

lemma OneSender.blockedSender_eq {s : State} {a : Action} {sender : Slot} {id : Nat}
    {entry : EndpointState Msg} {msg : Msg} (h : OneSender s a)
    (hact : a.blockingSend = some (sender, id)) (hlook : s.entry id = some entry)
    (hlive : entry.checkLive a.capGen) (hfull : entry.queue.enqueue msg = none) :
    entry.blockedSender = none := by
  simp only [OneSender, hact, hlook] at h
  exact h hlive (MessageQueue.length_eq_of_enqueue hfull)

/-! ## Every message handed over is in one place -/

section Places

variable {s s' : State} {a : Action} {id : Nat}

/-- A message that is new to every endpoint. -/
def IsNew (s s' : State) (id : Nat) (msg : Msg) : Prop :=
  msg.ticket = s.log.tickets ∧ s'.log.tickets = s.log.tickets + 1 ∧ msg.dest = id

lemma EntryMove.custody (h : EntryMove s s' a id) :
    Custody.Move (IsNew s s' id) (OneSender s a) (s.ledger id) (s'.ledger id) := by
  cases h with
  | same _ hledger | registered _ _ _ _ _ _ _ hledger | renewed _ _ _ _ hledger
  | vanished _ _ _ _ hledger =>
    rw [hledger]
    exact .stay
  | queued entry queue msg _ _ _ _ hnew hledger =>
    rw [hledger]
    exact .accept msg hnew
  | parked entry sender msg hlook hlive hact _ hfull _ hnew hledger =>
    rw [hledger]
    refine .park msg hnew fun hone => ?_
    -- nothing is pending where no sender is recorded
    have hsender := hone.blockedSender_eq hact hlook hlive hfull
    have hpend : entry.pendingSend = none := by
      have hpaired := entry.paired
      rw [hsender] at hpaired
      simpa using hpaired.symm
    simp [ledger, State.pending, hlook, hpend]
  | taken entry entry' msg rest slot recv _ _ hlook hqueue _ _ hledger =>
    rw [hledger]
    refine .take msg rest ?_
    simpa [ledger, State.queued, hlook] using hqueue
  | killed _ _ _ _ _ _ _ _ _ _ _ _ _ _ hledger =>
    rw [hledger]
    exact .clear

/-- The history of an endpoint: its messages are distinct and its own, and those
that entered the queue are in it, taken or cleared out. -/
structure Booked (s : State) (id : Nat) : Prop where
  ticket_lt : ∀ msg ∈ s.log.handed id, msg.ticket < s.log.tickets
  dest : ∀ msg ∈ s.log.handed id, msg.dest = id
  nodup : (s.log.handed id).Nodup
  enters : (s.ledger id).Enters
  known : (s.ledger id).Known

/-- **One step keeps the books of every endpoint.** -/
theorem Effect.booked (hground : Ground s) (h : Effect s a s') (hbooked : Booked s id) :
    Booked s' id := by
  have hmove := (h.entryMove hground.lives hground.still id).custody
  have hle := h.counters_le.2
  have hnew : ∀ msg, IsNew s s' id msg → msg ∉ (s.ledger id).handed := by
    rintro msg ⟨hticket, -⟩ hmem
    have hlt := hbooked.ticket_lt msg hmem
    omega
  have hhanded : ∀ msg ∈ s'.log.handed id, msg ∈ s.log.handed id ∨ IsNew s s' id msg := by
    intro msg hmem
    rcases hmove.handed_cases with hsame | ⟨new, hisNew, happend⟩
    · have hold : s'.log.handed id = s.log.handed id := hsame
      exact .inl (hold ▸ hmem)
    have hmore : s'.log.handed id = s.log.handed id ++ [new] := happend
    rw [hmore, List.mem_append, List.mem_singleton] at hmem
    rcases hmem with hold | rfl
    · exact .inl hold
    · exact .inr hisNew
  refine ⟨fun msg hmem => ?_, fun msg hmem => ?_, hmove.nodup hnew hbooked.nodup,
    hmove.enters hbooked.enters, hmove.known hnew hbooked.known⟩
  · rcases hhanded msg hmem with hold | ⟨hticket, hnext, -⟩
    · exact Nat.lt_of_lt_of_le (hbooked.ticket_lt msg hold) hle
    · omega
  · rcases hhanded msg hmem with hold | ⟨-, -, hdest⟩
    · exact hbooked.dest msg hold
    · exact hdest

lemma boot_ledger (id : Nat) : boot.ledger id = ⟨[], [], [], [], [], [], []⟩ := by
  simp [ledger, State.queued, State.pending, entry, boot, Routing.init]

lemma booked_of_reached {ok : State → Action → Prop} {t : State} (h : Reached ok t) (id : Nat) :
    Booked t id := by
  refine h.invariant_of (I := fun t => Booked t id) (fun _ => ground_of_reached)
    ?_ fun _ _ _ hground hbooked _ hstep => (effect_of_step hstep).booked hground hbooked
  refine ⟨nofun, nofun, List.nodup_nil, ?_, ?_⟩
  · simp [Enters, boot_ledger]
  · rw [boot_ledger]
    exact ⟨List.nil_subset _, List.nil_subset _, nofun⟩

lemma keeps_of_reached {t : State} (h : Reached OneSender t) (id : Nat) : (t.ledger id).Keeps := by
  refine h.invariant_of (I := fun t => (t.ledger id).Keeps)
    (fun _ => ground_of_reached) ?_ fun u _ _ hground hkeeps hone hstep => ?_
  · simp [Keeps, boot_ledger]
  · exact ((effect_of_step hstep).entryMove hground.lives hground.still id).custody.keeps hone
      hkeeps

end Places

/-! ## Every blocked sender is recorded -/

/-- The task has parked its message at the endpoint and is about to block, or
blocked, there. -/
def State.Sending (slot : Slot) (id : Nat) (msg : Msg) : Prop :=
  (s.task slot).valid = true ∧ ∃ next,
    ((s.task slot).state = .blockedOnSend ∧
        (s.task slot).pc = .waiting (.send id msg next) .parked) ∨
      ((s.task slot).state = .running ∧ (s.task slot).pc = .waiting (.send id msg next) .block)

/-- The message of the task has moved into the queue, or the endpoint died with
it, and the task is owed a wake. -/
def State.Released (id : Nat) (slot : Slot) (msg : Msg) : Prop :=
  (∃ wake ∈ s.owed, wake.slot = slot) ∧ (msg ∈ s.log.entered id ∨ msg ∈ s.log.dropped id)

/-- Every task in that place is recorded with its message, or released. -/
def State.KeepsSenders : Prop :=
  ∀ slot id msg, s.Sending slot id msg → s.Records id slot msg ∨ s.Released id slot msg

section Senders

variable {s s' : State} {a : Action} {slot : Slot} {id : Nat} {msg : Msg}

lemma State.Sending.alive (h : s.Sending slot id msg) : (s.task slot).state ≠ .dead := by
  obtain ⟨-, next, ⟨hstate, -⟩ | ⟨hstate, -⟩⟩ := h <;> simp [hstate]

lemma Effect.records (hground : Ground s) (h : Effect s a s') (hone : OneSender s a)
    (hrecords : s.Records id slot msg) (halive : (s.task slot).state ≠ .dead) :
    s'.Records id slot msg ∨ s'.Released id slot msg := by
  obtain ⟨entry, hlook, hliveness, hsender, hpend⟩ := hrecords
  have hparked : (s.ledger id).pending = [msg] := by
    simp [ledger, State.pending, hlook, hpend]
  cases h.entryMove hground.lives hground.still id with
  | same hentry => exact .inl ⟨entry, hentry.trans hlook, hliveness, hsender, hpend⟩
  | queued old queue new hold _ _ hentry | registered old _ _ _ _ hold hentry =>
    cases hold.symm.trans hlook
    exact .inl ⟨_, hentry, hliveness, hsender, hpend⟩
  | parked old sender new hold hlive hact _ hfull =>
    cases hold.symm.trans hlook
    cases (hsender.symm.trans (hone.blockedSender_eq hact hlook hlive hfull))
  | taken old _ _ _ _ _ _ _ hold _ _ _ hledger howed =>
    cases hold.symm.trans hlook
    have hentered : s'.log.entered id = s.log.entered id ++ [msg] := by
      rw [← hparked]
      exact congrArg entered hledger
    exact .inr ⟨⟨_, howed slot hsender, rfl⟩, .inl (by simp [hentered])⟩
  | killed old _ victim _ _ _ _ _ _ hdying hold _ _ _ hledger howed =>
    cases hold.symm.trans hlook
    have hdropped : s'.log.dropped id = s.log.dropped id ++ [msg] := by
      rw [← hparked]
      exact congrArg dropped hledger
    have hne : slot ≠ victim := by
      rintro rfl
      exact halive (hground.lives.stage slot hdying).2
    exact .inr ⟨⟨_, howed slot hne (.inr hsender), rfl⟩, .inr (by simp [hdropped])⟩
  | renewed _ _ hgone => exact absurd (aliveId_of_entry hlook hliveness) hgone
  | vanished old hold hdead =>
    cases hold.symm.trans hlook
    cases (hliveness.symm.trans hdead)

lemma Effect.keepsSender_of_same (hground : Ground s) (h : Effect s a s') (hone : OneSender s a)
    (hkeeps : s.KeepsSenders) (hsending : s.Sending slot id msg)
    (hsending' : s'.Sending slot id msg) : s'.Records id slot msg ∨ s'.Released id slot msg := by
  rcases hkeeps slot id msg hsending with hrecords | ⟨⟨wake, hwake, hslot⟩, hmoved⟩
  · exact h.records hground hone hrecords hsending.alive
  obtain ⟨hentered, hdropped⟩ := (h.entryMove hground.lives hground.still id).custody.subset
  rcases h.owed_cases hwake with hstill | hdone
  · exact .inr ⟨⟨wake, hstill, hslot⟩, hmoved.imp (@hentered msg) (@hdropped msg)⟩
  -- a wake that was performed leaves the task ready
  rw [hslot] at hdone
  have hready : (s'.task slot).state = .ready := by
    rw [hdone, Task.wakeBySlot, if_pos ⟨hsending.1, hsending.alive⟩]
  obtain ⟨-, next, ⟨hstate, -⟩ | ⟨hstate, -⟩⟩ := hsending' <;>
    cases (hready.symm.trans hstate)

/-- **One step keeps every blocked sender recorded or releases it.** -/
theorem Effect.keepsSenders (hground : Ground s) (h : Effect s a s') (hone : OneSender s a)
    (hkeeps : s.KeepsSenders) : s'.KeepsSenders := by
  intro slot id msg hsending'
  have hframe := fun hsending : s.Sending slot id msg =>
    h.keepsSender_of_same hground hone hkeeps hsending hsending'
  obtain ⟨hvalid', next, hplace'⟩ := hsending'
  have hmove := h.taskMove slot
  generalize s'.task slot = task' at hmove hvalid' hplace'
  cases hmove with
  | same | disarmed => exact hframe ⟨hvalid', next, hplace'⟩
  | enters wait phase hat hparked hblock hempty hparks =>
    rcases hplace' with ⟨-, hpc⟩ | ⟨-, hpc⟩
    · cases hpc
      exact absurd rfl hparked
    · cases hpc
      exact .inl (hparks id msg next rfl).records
  | returns => rcases hplace' with ⟨-, hpc⟩ | ⟨-, hpc⟩ <;> cases hpc
  | advances wait phase phase' deadline hat hadvance =>
    rcases hplace' with ⟨-, hpc⟩ | ⟨-, hpc⟩
    · cases hpc
      rcases hadvance with ⟨-, hphase, -⟩ | ⟨-, hphase⟩ <;> cases hphase
    · cases hpc
      rcases (hground.coherent slot hat.1).sending id msg next phase hat.2.2 with
        ⟨rfl, -⟩ | rfl <;> rcases hadvance with ⟨hphase, -⟩ | ⟨hphase, -⟩ <;> cases hphase
  | finishes wait phase result deadline pending hat =>
    rcases wait.after_cases result with huser | ⟨wait', phase', hafter, -, -, -, hrecv⟩
    · rcases hplace' with ⟨-, hpc⟩ | ⟨-, hpc⟩ <;> cases huser.symm.trans hpc
    · rcases hplace' with ⟨-, hpc⟩ | ⟨-, hpc⟩ <;> cases hafter.symm.trans hpc <;> cases hrecv
  | parks wait hat hflag hrun =>
    rcases hplace' with ⟨-, hpc⟩ | ⟨-, hpc⟩
    · cases hpc
      exact hframe ⟨hat.1, next, .inr ⟨hrun, hat.2.2⟩⟩
    · cases hpc
  | dispatched hvalid hcpu hready =>
    rcases hplace' with ⟨hstate, -⟩ | ⟨-, hpc⟩
    · cases hstate
    -- a sender is not switched away before its block
    rcases (hground.coherent slot hvalid).sending id msg next .block hpc with ⟨-, hon⟩ | hp
    · exact absurd (hon.symm.trans hcpu) nofun
    · cases hp
  | yielded hcpu hwindow =>
    rcases hplace' with ⟨hstate, -⟩ | ⟨-, hpc⟩
    · by_cases hrun : (s.task slot).state = .running
      · simp [hrun] at hstate
      · simp only [hrun] at hstate
        obtain ⟨hoff, -⟩ := (hground.coherent slot hvalid').blocked (.inr hstate)
        exact absurd (hoff.symm.trans hcpu) nofun
    · exact absurd hpc (hwindow id msg next)
  | woken | killed | committed => rcases hplace' with ⟨hstate, -⟩ | ⟨hstate, -⟩ <;> cases hstate
  | dies reply stage hstage =>
    have hdead := (hground.lives.stage slot hstage).2
    rcases hplace' with ⟨hstate, -⟩ | ⟨hstate, -⟩ <;> exact absurd (hdead.symm.trans hstate) nofun
  | released => cases hvalid'

end Senders

/-! ## Runs -/

section Runs

variable {s : State}

lemma keepsSenders_of_reached (h : Reached OneSender s) : s.KeepsSenders := by
  refine h.invariant_of (fun _ => ground_of_reached) ?_ ?_
  · rintro slot id msg ⟨hvalid, -⟩
    cases hvalid
  · exact fun _ _ _ hground hkeeps hone hstep =>
      (effect_of_step hstep).keepsSenders hground hone hkeeps

lemma Effect.death {s' : State} {a : Action} {id : Nat} (hground : Ground s) (h : Effect s a s') :
    (s'.AliveId id → s'.log.drained id = s.log.drained id ∧ s'.log.dropped id = s.log.dropped id) ∧
    (s.AliveId id → ¬ s'.AliveId id → ∀ slot msg, s.Records id slot msg →
      a ≠ .killStep slot → ⟨slot, IpcError.endpointDead.code, 0⟩ ∈ s'.owed) := by
  have hkept : s'.ledger id = s.ledger id →
      s'.log.drained id = s.log.drained id ∧ s'.log.dropped id = s.log.dropped id := fun hledger =>
    ⟨congrArg drained hledger, congrArg dropped hledger⟩
  have hstays : ∀ {entry entry'}, s.entry id = some entry → s'.entry id = some entry' →
      entry'.liveness = entry.liveness → s.AliveId id → s'.AliveId id := by
    rintro entry entry' hlook hentry hlive ⟨generation, hlife⟩
    refine aliveId_of_entry hentry (hlive.trans ?_)
    simp only [life, hlook, Option.map_some, Option.some.injEq, Prod.mk.injEq] at hlife
    exact hlife.1
  cases h.entryMove hground.lives hground.still id with
  | same hentry hledger =>
    refine ⟨fun _ => hkept hledger, fun halive hdead => absurd ?_ hdead⟩
    simpa [AliveId, life, hentry] using halive
  | queued _ _ _ hlook _ _ hentry _ hledger | parked _ _ _ hlook _ _ _ _ hentry _ hledger =>
    refine ⟨fun _ => ⟨congrArg drained hledger,
      congrArg dropped hledger⟩, fun halive hdead => absurd ?_ hdead⟩
    exact hstays hlook hentry rfl halive
  | taken _ _ _ _ _ _ _ _ hlook _ hrel hentry hledger =>
    refine ⟨fun _ => ⟨congrArg drained hledger,
      congrArg dropped hledger⟩, fun halive hdead => absurd ?_ hdead⟩
    exact hstays hlook hentry hrel.liveness halive
  | registered _ _ _ _ _ hlook hentry hledger =>
    exact ⟨fun _ => hkept hledger,
      fun halive hdead => absurd (hstays hlook hentry rfl halive) hdead⟩
  | killed entry entry' victim _ _ hact _ _ _ _ hlook hentry hdead _ _ howed =>
    refine ⟨?_, ?_⟩
    · rintro ⟨generation, hlife⟩
      simp [life, hentry, hdead] at hlife
    · rintro - - slot msg ⟨old, hold, -, hsender, -⟩ hne
      cases hold.symm.trans hlook
      exact howed slot (fun heq => hne (heq ▸ hact)) (.inr hsender)
  | renewed _ _ hgone _ hledger =>
    exact ⟨fun _ => hkept hledger, fun halive => absurd halive hgone⟩
  | vanished _ hlook hdead _ hledger =>
    refine ⟨fun _ => hkept hledger, ?_⟩
    rintro ⟨generation, hlife⟩
    simp [life, hlook, hdead] at hlife

/-- **No blocked sender and no message is lost**, in every run in which a blocking
send that finds the queue full finds no sender recorded. -/
theorem no_sender_lost (h : Reached OneSender s) :
    (∀ slot id msg next, (s.task slot).valid = true → (s.task slot).state = .blockedOnSend →
      (s.task slot).pc = .waiting (.send id msg next) .parked →
      s.Records id slot msg ∨ s.Released id slot msg) ∧
    (∀ id, (s.log.handed id).Nodup ∧ (s.log.handed id).Perm
      (s.queued id ++ s.pending id ++ s.log.taken id ++ (s.log.drained id ++ s.log.dropped id))) ∧
    (∀ a s' id, OneSender s a → step s a = some s' →
      (s'.AliveId id → s'.log.drained id = s.log.drained id ∧
        s'.log.dropped id = s.log.dropped id) ∧
      (s.AliveId id → ¬ s'.AliveId id → ∀ slot msg, s.Records id slot msg →
        a ≠ .killStep slot → ⟨slot, IpcError.endpointDead.code, 0⟩ ∈ s'.owed)) := by
  refine ⟨fun slot id msg next hvalid hstate hpc => ?_, fun id => ?_, fun a s' id _ hstep => ?_⟩
  · exact keepsSenders_of_reached h slot id msg ⟨hvalid, next, .inl ⟨hstate, hpc⟩⟩
  · have hbooked := booked_of_reached h id
    exact ⟨hbooked.nodup, perm_places hbooked.enters (keeps_of_reached h id)⟩
  · exact (effect_of_step hstep).death (ground_of_reached h)

end Runs

/-! ## Two senders on one full endpoint -/

/-- The endpoint of slot `1` is filled by slot `0`, which then blocks on it. -/
def oneBlocked : List Action :=
  [.spawn 0 0 true true, .spawn 1 1 true true, .spawn 2 2 true true,
    .dispatch 0, .dispatch 1, .dispatch 2] ++
    List.replicate 16 (.trySend 0 102 3 1) ++ [.send 0 102 3 1, .block 0]

/-- The message slot `0` blocks with. -/
def blockedMsg : Msg := ⟨100, 1, 16, 102, 1⟩

/-- A second sender blocks on the same endpoint and its owner receives: the first
one stays blocked, is recorded nowhere and owed nothing, and its message is in
none of the places. -/
theorem sender_lost : ∃ s, Reached Free s ∧ (s.task 0).valid = true ∧
    (s.task 0).state = .blockedOnSend ∧
    (s.task 0).pc = .waiting (.send 102 blockedMsg none) .parked ∧
    s.AliveId 102 ∧ (∀ msg, ¬ s.Records 102 0 msg) ∧ (∀ wake ∈ s.owed, wake.slot ≠ 0) ∧
    blockedMsg ∈ s.log.handed 102 ∧ blockedMsg ∉ s.queued 102 ++ s.pending 102 ++
      s.log.taken 102 ++ (s.log.drained 102 ++ s.log.dropped 102) := by
  obtain ⟨s, hs, hvalid, hstate, hpc, hlife, hsender, hrest⟩ : ∃ s, Reached Free s ∧
      (s.task 0).valid ∧ (s.task 0).state = .blockedOnSend ∧
      (s.task 0).pc = .waiting (.send 102 blockedMsg none) .parked ∧
      s.life 102 = some (.alive, 3) ∧ (s.entry 102).bind EndpointState.blockedSender ≠ some 0 ∧
      (∀ wake ∈ s.owed, wake.slot ≠ 0) ∧ blockedMsg ∈ s.log.handed 102 ∧
      blockedMsg ∉ s.queued 102 ++ s.pending 102 ++ s.log.taken 102 ++
        (s.log.drained 102 ++ s.log.dropped 102) :=
    exists_reaches (oneBlocked ++ [.send 2 102 3 1, .block 2, .recv 1 .endpoint none,
      .attempt 1]) (by decide +kernel)
  refine ⟨s, hs, hvalid, hstate, hpc, ⟨3, hlife⟩, ?_, hrest⟩
  rintro msg ⟨entry, hlookup, -, hblocked, -⟩
  exact hsender (by simp [hlookup, hblocked])

/-- With one sender at a time the blocked task is found with its message. -/
theorem no_sender_lost_alone : ∃ s, Reached OneSender s ∧
    (s.task 0).state = .blockedOnSend ∧
    (s.Records 102 0 blockedMsg ∨ s.Released 102 0 blockedMsg) := by
  obtain ⟨s, hs, hvalid, hstate, hpc⟩ : ∃ s, Reached OneSender s ∧ (s.task 0).valid ∧
      (s.task 0).state = .blockedOnSend ∧
      (s.task 0).pc = .waiting (.send 102 blockedMsg none) .parked :=
    exists_reaches oneBlocked (by decide +kernel)
  exact ⟨s, hs, hstate, (no_sender_lost hs).1 0 102 blockedMsg none hvalid hstate hpc⟩

/-- **No message is delivered twice**, in any run: what an endpoint has queued, delivered and
cleared out is all different, and was handed to it. -/
theorem delivered_once {ok : State → Action → Prop} {t : State} (h : Reached ok t) (id : Nat) :
    (t.queued id ++ t.log.taken id ++ t.log.drained id).Nodup ∧
      t.log.taken id ⊆ t.log.handed id := by
  have hbooked := booked_of_reached h id
  have honce := h.invariant_of (I := fun t => ((t.ledger id).entered ++ (t.ledger id).pending).Nodup)
    (fun _ hs => And.intro (ground_of_reached hs) (booked_of_reached hs id))
    (by simp [boot_ledger]) fun _ _ _ ⟨hground, hold⟩ honce _ hstep => by
      refine ((effect_of_step hstep).entryMove hground.lives hground.still id).custody.once
        (fun msg ⟨hticket, _⟩ hmem => ?_) hold.known honce
      have hlt := hold.ticket_lt msg hmem
      omega
  refine ⟨hbooked.enters.nodup_iff.mp honce.of_append_left, fun msg hmem => ?_⟩
  exact hbooked.known.entered (hbooked.enters.symm.subset (by simp [ledger, hmem]))

/-- The second of two senders on the full endpoint takes the place of the first. -/
theorem delivered_once_from_two : ∃ s, Reached Free s ∧ (s.log.taken 102).length = 1 ∧
    (s.queued 102 ++ s.log.taken 102 ++ s.log.drained 102).Nodup :=
  exists_reaches_and (oneBlocked ++ [.send 2 102 3 1, .block 2, .recv 1 .endpoint none,
    .attempt 1]) (by decide +kernel) fun _ hs _ => (delivered_once hs 102).1

end Godspeed.Machine
