import Godspeed.Machine.OwnEntry

/-!
# Receivers are notified

A live task that waits in `recv`, `recv_timeout` or the wait loop of a Call, and
has left the dequeue that found nothing, is always in one of these situations:
it is recorded at its endpoint and nothing it waits for is queued there, a wake
for it is owed, its pending-wake flag is set, or it has been woken out of its
block.  `notifies_of_reached` is this invariant over every run, with any number
of senders and any delay between an enqueue and its wake.
-/

namespace Godspeed.Machine

open Ipc Capability State List Function

/-- A live task stands at this place of a wait. -/
def State.Waits (s : State) (slot : Slot) (wait : Wait) (phase : Phase) : Prop :=
  (s.task slot).valid = true ∧ (s.task slot).state ≠ .dead ∧ (s.task slot).pc = .waiting wait phase

/-- A task that waits will look again: what it rests on still holds, a wake for it
that is `fit` is owed, its pending-wake flag is set, or it has been woken out of its
block. -/
inductive Prompted (fit : Wake → Prop) (rests : Prop) (s : State) (slot : Slot) (phase : Phase) :
    Prop
  | standing (hrests : rests)
  | owed (wake : Wake) (hwake : wake ∈ s.owed) (hslot : wake.slot = slot) (hfit : fit wake)
  | pending (hphase : phase ≠ .parked) (hpending : (s.task slot).wakePending = true)
  | woken (hphase : phase = .parked) (hstate : (s.task slot).state ≠ .blockedOnRecv)

variable {s s' : State} {a : Action} {wake : Wake}

/-- Why a step owes a wake: a message or a death for a recorded receiver, room or
a death for a recorded sender, the timer, or the drain of a dead endpoint. -/
inductive NewWake (s s' : State) (wake : Wake) : Prop
  | receiver (id : Nat) (entry : EndpointState Msg) (hlookup : s.entry id = some entry)
      (hreceiver : entry.blockedReceiver = some wake.slot)
      (hresult : wake.result = 0 ∨ wake.result = IpcError.endpointDead.code)
  | sender (id : Nat) (entry : EndpointState Msg) (hlookup : s.entry id = some entry)
      (hsender : entry.blockedSender = some wake.slot)
      (hresult : (wake.result = 0 ∧ s'.log.entered id = s.log.entered id ++ s.pending id) ∨
        wake.result = IpcError.endpointDead.code)
  | timer (hblocked : (s.task wake.slot).state = .blockedOnRecv) (hresult : wake.result = 0)
  | drain (slot : Slot) (life : Incarnation) (hstage : (s.task slot).killStage = some .draining)
      (hown : (s.task slot).endpoint = some life)
      (hawait : s.routing.callAwait wake.slot = life.id)
      (hresult : wake = ⟨wake.slot, IpcError.replyDead.code, life.id⟩)
      (htask : s'.task = s.task) (hcleared : s'.routing.callAwait wake.slot = 0)

/-- What a step does to the wakes that are owed: it performs one, or it owes more, and of
two it owes the first is not a drain's. -/
inductive OwedMove (s s' : State) (a : Action) : Prop
  | performed (index : Nat) (wake : Wake) (haction : a = .deliver index)
      (hwake : s.owed[index]? = some wake) (howed : s'.owed = s.owed.eraseIdx index)
      (htask : s'.task wake.slot = (s.task wake.slot).wakeBySlot wake.result)
  | more (new : List Wake) (howed : s'.owed = s.owed ++ new)
      (hnew : ∀ wake ∈ new, NewWake s s' wake)
      (hlone : new.Pairwise fun wake _ => wake.result ≠ IpcError.replyDead.code)

lemma OwedMove.of_eq (howed : s'.owed = s.owed) : OwedMove s s' a :=
  .more [] (by rw [howed, append_nil]) nofun .nil

lemma OwedMove.of_owe {slots : Option Slot} {result : Int}
    (howed : s'.owed = (s.owe slots result).owed)
    (hnew : ∀ slot, slots = some slot → NewWake s s' ⟨slot, result, 0⟩) : OwedMove s s' a := by
  cases slots with
  | none => exact .of_eq (by simpa [owe] using howed)
  | some slot =>
    refine .more [⟨slot, result, 0⟩] (by simpa [owe] using howed) ?_ (pairwise_singleton _ _)
    simpa using hnew slot rfl

lemma OwedMove.of_took {recv : Incarnation} {routing : Routing Msg} {msg : Msg}
    {entry : EndpointState Msg} (hlook : s.entry recv.id = some entry)
    (howed : s'.owed = (s.took recv.id routing msg entry.blockedSender).owed)
    (hentered : s'.log.entered = (s.took recv.id routing msg entry.blockedSender).log.entered) :
    OwedMove s s' a := by
  refine .of_owe howed fun slot hslot => .sender recv.id entry hlook hslot (.inl ⟨rfl, ?_⟩)
  rw [hentered]
  simp [took, Log.append]

/-- **Every step treats the wakes that are owed in one of these ways.** -/
theorem Effect.owedMove (h : Effect s a s') : OwedMove s s' a := by
  cases h with
  | queued _ endpoint entry queue stamp payloadLen _ hlook =>
    exact .of_owe rfl fun slot hslot => .receiver endpoint entry hlook hslot (.inl rfl)
  | callQueued _ i own call entry queue payloadLen _ _ _ _ hlook =>
    exact .of_owe rfl fun slot hslot => .receiver call.target.id entry hlook hslot (.inl rfl)
  | received _ _ _ _ _ _ _ _ hlook | tryReceived _ _ _ _ _ _ _ _ _ hlook
  | replied _ _ _ _ _ _ hlook => exact .of_took hlook rfl rfl
  | blockPending => exact .of_eq (by simp [consumePending])
  | blockFails | resumed | killed => exact .of_eq (by simp)
  | delivered index wake hwake => exact .performed index wake rfl hwake rfl (by simp)
  | timerFired slot hblocked =>
    refine .of_owe rfl ?_
    rintro woken ⟨⟩
    exact .timer hblocked rfl
  | endpointKilled slot own life t next _ _ hkill =>
    obtain ⟨hentry, -⟩ := killEndpoint_spec hkill
    cases hentry with
    | absent _ _ howed => exact .of_eq howed
    | killed entry entry' hlook _ _ _ howed =>
      have hdeath : ∀ {wake slots}, wake ∈ deathWakes slot slots →
          slots = some wake.slot ∧ wake.result = IpcError.endpointDead.code := by
        intro wake slots hmem
        simp only [deathWakes, mem_map, Option.mem_toList] at hmem
        obtain ⟨woken, hwoken, rfl⟩ := hmem
        exact ⟨(Option.filter_eq_some_iff.mp hwoken).1, rfl⟩
      refine .more _ (howed.trans (append_assoc _ _ _)) (fun wake hwake => ?_) ?_
      · rcases mem_append.mp hwake with hrecv | hsender
        · obtain ⟨hslot, hres⟩ := hdeath hrecv
          exact .receiver life.id entry hlook hslot (.inr hres)
        · obtain ⟨hslot, hres⟩ := hdeath hsender
          exact .sender life.id entry hlook hslot (.inr hres)
      · refine pairwise_of_forall_mem_list fun wake hwake _ _ => ?_
        have hres := (mem_append.mp hwake).elim (fun h => (hdeath h).2) fun h => (hdeath h).2
        rw [hres]
        decide
  | waiterTaken slot waiter life hstage hown hawait =>
    by_cases hself : waiter = slot
    · exact .of_eq (by simp [hself])
    · refine .more [⟨waiter, IpcError.replyDead.code, life.id⟩] (by simp [hself]) ?_
        (pairwise_singleton _ _)
      simpa using .drain slot life hstage hown hawait rfl rfl (update_self waiter 0 _)
  | spawned slot _ _ _ t _ hspawn => exact .of_eq (spawns_of_spawn hspawn).owed_eq
  | _ => exact .of_eq rfl

/-- Every wake that was owed is still owed or has been performed. -/
lemma Effect.owed_cases (h : Effect s a s') (hwake : wake ∈ s.owed) :
    wake ∈ s'.owed ∨ s'.task wake.slot = (s.task wake.slot).wakeBySlot wake.result := by
  cases h.owedMove with
  | performed index performed _ hperformed howed htask =>
    by_cases hsame : wake = performed
    · exact .inr (hsame ▸ htask)
    obtain ⟨i, hi⟩ := mem_iff_getElem?.mp hwake
    rw [howed]
    refine .inl (mem_eraseIdx_iff_getElem?.mpr ⟨i, fun heq => hsame ?_, hi⟩)
    rw [heq, hperformed] at hi
    exact (Option.some.inj hi).symm
  | more new howed => exact .inl (by simp [howed, hwake])

/-- Every wake that is owed was owed before or has one of these causes. -/
lemma Effect.wake_cases (h : Effect s a s') (hwake : wake ∈ s'.owed) :
    wake ∈ s.owed ∨ NewWake s s' wake := by
  cases h.owedMove with
  | performed index _ _ _ howed =>
    rw [howed] at hwake
    exact .inl (mem_of_mem_eraseIdx hwake)
  | more new howed hnew =>
    rw [howed] at hwake
    exact (mem_append.mp hwake).imp_right (hnew wake)

/-- A live task that waits on an endpoint has it, and its entry is alive. -/
lemma State.Waits.owns {slot : Slot} {wait : Wait} {phase : Phase} {life : Incarnation}
    (hground : Ground s) (hwaits : s.Waits slot wait phase) (hown : wait.own = some life) :
    ∃ own, s.Has slot own life ∧ (s.task slot).active own ∧ s.Alive life := by
  obtain ⟨hvalid, halive, hpc⟩ := hwaits
  obtain ⟨own, hlife⟩ := (hground.coherent slot hvalid).own halive life (by rw [hpc]; exact hown)
  have hactive : (s.task slot).active own := by
    cases own <;> simp [Task.active, hground.lives.killStage_eq_none halive]
  exact ⟨own, ⟨hvalid, hlife⟩, hactive, hground.lives.active slot own life ⟨hvalid, hlife⟩ hactive⟩

/-- What a step of someone else leaves of the entry a live task waits on. -/
lemma Effect.waitedEntry {slot : Slot} {wait : Wait} {phase : Phase} {life : Incarnation}
    {entry : EndpointState Msg} (hground : Ground s) (h : Effect s a s')
    (hwaits : s.Waits slot wait phase) (hown : wait.own = some life)
    (hlook : s.entry life.id = some entry) :
    (∃ entry', s'.entry life.id = some entry' ∧
      ((entry'.queue = entry.queue ∧ entry'.blockedReceiver = entry.blockedReceiver) ∨
        ∃ msg, entry'.queue.messages = entry.queue.messages ++ [msg] ∧
          ∀ receiver, entry.blockedReceiver = some receiver → ⟨receiver, 0, 0⟩ ∈ s'.owed)) ∨
      (a = .attempt slot ∧ phase = .attempt) := by
  obtain ⟨own, hhas, hactive, -⟩ := hwaits.owns hground hown
  cases h.ownEntry hground hhas hactive hlook with
  | kept hentry => exact .inl ⟨entry, hentry, .inl ⟨rfl, rfl⟩⟩
  | queued queue msg hqueue hentry howed => exact .inl ⟨_, hentry, .inr ⟨msg, hqueue, howed⟩⟩
  | parked sender msg hentry => exact .inl ⟨_, hentry, .inl ⟨rfl, rfl⟩⟩
  | owner hplace =>
    rcases hplace with ⟨hact, wait', hpc⟩ | huser | hdying
    · rw [hwaits.2.2] at hpc
      cases hpc
      exact .inr ⟨hact, rfl⟩
    · rw [hwaits.2.2] at huser
      cases huser
    · exact absurd (hground.lives.stage slot hdying).2 hwaits.2.1

section Step

variable {s s' : State} {a : Action} {slot : Slot} {wait : Wait} {phase : Phase} {rests : Prop}
  {fit : Wake → Prop}

lemma Effect.prompted_of_owed (h : Effect s a s') (hvalid : (s.task slot).valid)
    (halive : (s.task slot).state ≠ .dead) {wake : Wake} (hwake : wake ∈ s.owed)
    (hslot : wake.slot = slot) (hfit : fit wake) (phase' : Phase) :
    Prompted fit rests s' slot phase' := by
  rcases h.owed_cases hwake with hstill | hdone
  · exact .owed wake hstill hslot hfit
  rw [hslot] at hdone
  have hready : s'.task slot = { s.task slot with
      wakeupErr := wake.result, wakePending := true, state := .ready } := by
    rw [hdone, Task.wakeBySlot, if_pos ⟨hvalid, halive⟩]
  by_cases hphase : phase' = .parked
  · exact .woken hphase (by simp [hready])
  · exact .pending hphase (by simp [hready])

/-- Every live receiver that has left its dequeue rests on `rests` or is prompted. -/
def State.Prompts (fit : Wake → Prop) (rests : State → Slot → Wait → Prop) (s : State) : Prop :=
  ∀ slot wait phase life, s.Waits slot wait phase → wait.blockState = .blockedOnRecv →
    wait.own = some life → phase ≠ .attempt → Prompted fit (rests s slot wait) s slot phase

/-- **One step keeps every receiver prompted**, when the empty dequeue establishes
what it rests on and each step keeps that or owes the receiver a wake. -/
theorem Effect.prompts {rests : State → Slot → Wait → Prop} (hground : Ground s) (h : Effect s a s')
    (hbegin : ∀ slot wait, Registered s' slot wait → Watches s' slot wait → rests s' slot wait)
    (hkeep : ∀ slot wait phase, s.Waits slot wait phase → phase ≠ .attempt →
      rests s slot wait → rests s' slot wait ∨ ∃ wake ∈ s'.owed, wake.slot = slot ∧ fit wake)
    (hprompts : s.Prompts fit rests) : s'.Prompts fit rests := by
  intro slot wait phase life hwaits' hrecv hown hphase
  obtain ⟨hvalid', halive', hpc'⟩ := hwaits'
  have hmove := h.taskMove slot
  generalize htask : s'.task slot = task' at hmove hvalid' halive' hpc'
  -- what the task rests on stands in every phase
  have hstands : ∀ phase₀ phase₁, s.Waits slot wait phase₀ → phase₀ ≠ .attempt →
      rests s slot wait → Prompted fit (rests s' slot wait) s' slot phase₁ := by
    intro phase₀ phase₁ hwaits hne hrests
    rcases hkeep slot wait phase₀ hwaits hne hrests with hrests' | ⟨wake, hwake, hslot, hfit⟩
    · exact .standing hrests'
    · exact .owed wake hwake hslot hfit
  have hframe : s.Waits slot wait phase → ((s.task slot).wakePending → task'.wakePending) →
      ((s.task slot).state ≠ .blockedOnRecv → task'.state ≠ .blockedOnRecv) →
      Prompted fit (rests s' slot wait) s' slot phase := by
    intro hwaits hpend hstate
    cases hprompts slot wait phase life hwaits hrecv hown hphase with
    | standing hrests => exact hstands phase phase hwaits hphase hrests
    | owed wake hwake hslot hfit =>
      exact h.prompted_of_owed hwaits.1 hwaits.2.1 hwake hslot hfit phase
    | pending hparked hflag => exact .pending hparked (htask ▸ hpend hflag)
    | woken hparked hold => exact .woken hparked (htask ▸ hstate hold)
  cases hmove with
  | same | disarmed => exact hframe ⟨hvalid', halive', hpc'⟩ id id
  | enters wait₀ phase₀ hat hparked hblock hsleep =>
    cases hpc'
    -- a receive is entered before its dequeue
    cases phase with
    | attempt => exact absurd rfl hphase
    | empty =>
      obtain ⟨deadline, rfl⟩ := hsleep rfl
      cases hown
    | block => exact absurd (hrecv.symm.trans (hblock.mp rfl)) nofun
    | parked => exact absurd rfl hparked
  | returns | committed => cases hpc'
  | advances wait₀ phase₀ phase' deadline hat hadvance =>
    cases hpc'
    rcases hadvance with ⟨rfl, rfl, hregistered, hwatches⟩ | ⟨rfl, rfl⟩
    · exact .standing (hbegin slot wait hregistered hwatches)
    -- the deadline test changes nothing the situation depends on
    have hwaits : s.Waits slot wait .empty := ⟨hvalid', halive', hat.2.2⟩
    cases hprompts slot wait .empty life hwaits hrecv hown nofun with
    | standing hrests => exact hstands .empty .block hwaits nofun hrests
    | owed wake hwake hslot hfit =>
      exact h.prompted_of_owed hwaits.1 hwaits.2.1 hwake hslot hfit .block
    | pending _ hflag => exact .pending nofun (by simpa [htask] using hflag)
    | woken hparked => cases hparked
  | finishes wait₀ phase₀ result deadline pending hat =>
    rcases wait₀.after_cases result with huser | ⟨wait', phase', hafter, -, -, hback, -⟩
    · rw [huser] at hpc'
      cases hpc'
    rw [hafter] at hpc'
    cases hpc'
    rcases hback with rfl | ⟨deadline, rfl⟩
    · exact absurd rfl hphase
    · cases hown
  | parks wait₀ hat hflag hrun =>
    cases hpc'
    have hlive : (s.task slot).state ≠ .dead := by simp [hrun]
    have hwaits : s.Waits slot wait .block := ⟨hat.1, hlive, hat.2.2⟩
    cases hprompts slot wait .block life hwaits hrecv hown nofun with
    | standing hrests => exact hstands .block .parked hwaits nofun hrests
    | owed wake hwake hslot hfit => exact h.prompted_of_owed hat.1 hlive hwake hslot hfit .parked
    | pending _ hpend => exact absurd (hpend.symm.trans (hflag hrecv)) nofun
    | woken hparked => cases hparked
  | dispatched hvalid hcpu hready =>
    exact hframe ⟨hvalid, by simp [hready], hpc'⟩ id fun _ => nofun
  | yielded hcpu hwindow =>
    refine hframe ⟨hvalid', fun hd => halive' (by simp [hd]), hpc'⟩ id fun hne => ?_
    by_cases hrun : (s.task slot).state = .running <;> simp [hrun, hne]
  | woken wake hwake hslot hvalid hlive =>
    exact hframe ⟨hvalid, hlive, hpc'⟩ (fun _ => rfl) fun _ => nofun
  | killed => exact absurd rfl halive'
  | dies reply next hstage => exact absurd (hground.lives.stage slot hstage).2 halive'
  | released => cases hvalid'

lemma Effect.registered_cases (hground : Ground s) (h : Effect s a s')
    (hwaits : s.Waits slot wait phase) (hphase : phase ≠ .attempt)
    (hregistered : Registered s slot wait) :
    Registered s' slot wait ∨ ∃ wake ∈ s'.owed, wake.slot = slot ∧ wake.result = 0 := by
  obtain ⟨life, entry, hown, hlook, hrecv, hempty⟩ := hregistered
  rcases h.waitedEntry hground hwaits hown hlook with
    ⟨entry', hentry, ⟨hqueue, hsame⟩ | ⟨msg, -, howed⟩⟩ | ⟨-, hattempt⟩
  · refine .inl ⟨life, entry', hown, hentry, hsame.trans hrecv, ?_⟩
    rw [hqueue]
    exact hempty
  · exact .inr ⟨_, howed slot hrecv, rfl, rfl⟩
  · exact absurd hattempt hphase

end Step

/-- A message never lies unannounced: the wake that is owed has result `0`. -/
def State.Notifies (s : State) : Prop := s.Prompts (·.result = 0) Registered

lemma Effect.notifies (hground : Ground s) (hnotifies : s.Notifies) (h : Effect s a s') :
    s'.Notifies :=
  h.prompts hground (fun _ _ hregistered _ => hregistered)
    (fun _ _ _ hwaits hphase => h.registered_cases hground hwaits hphase) hnotifies

/-- **No receiver misses a message**, over every run. -/
theorem notifies_of_reached {ok : State → Action → Prop} (h : Reached ok s) : s.Notifies := by
  refine h.invariant_of (fun _ => ground_of_reached) ?_ ?_
  · rintro slot wait phase life ⟨hvalid, -⟩
    cases hvalid
  · exact fun t a t' hinv hnotifies _ hstep =>
      (effect_of_step hstep).notifies hinv hnotifies

end Godspeed.Machine
