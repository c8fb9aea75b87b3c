import Godspeed.Machine.Notify

/-!
# Who is told that a peer died

`CALL_AWAIT_EP` records, per task, the endpoint its Call waits for.  A dying
endpoint drains the tasks that record it and wakes each with `ReplyDead`.  The
wait loop of `do_call` sets the record under the table lock, but clears it on
the exits through `call_dequeue` only: the deadline exit and the exit on a wake
code return without clearing it.

* `recv_woken_with_replyDead` is a run in which a task blocked in `recv` is woken
  with `ReplyDead`, on the record of a Call that timed out earlier.
* `replyDead_only_to_callers` is what holds in every orderly run: no deadline passes
  in a Call, wakes with an error code find their task off its core and in the wait
  they were decided for, a drain wake comes before the next pass of its caller, and
  a task is not killed on its core inside a Call.
-/

namespace Godspeed.Machine

open Ipc Capability Transition

variable (s : State) (slot : Slot)

/-- The task is in the wait loop of a Call on this endpoint. -/
def State.Awaits (id : Nat) : Prop :=
  (s.task slot).valid = true ∧ ∃ call phase,
    (s.task slot).pc = .waiting (.call call) phase ∧ call.target.id = id

/-- No drain has decided to wake the task. -/
def State.Undrained : Prop :=
  ∀ wake ∈ s.owed, wake.slot = slot → wake.result ≠ IpcError.replyDead.code

instance (s : State) (slot : Slot) : Decidable (s.Undrained slot) :=
  inferInstanceAs (Decidable (∀ wake ∈ s.owed, _))

/-- The task records no endpoint and no drain has decided to wake it. -/
def State.Settled : Prop :=
  s.routing.callAwait slot = 0 ∧ s.Undrained slot

/-- The task is in the wait loop of a Call. -/
def State.inCall : Bool :=
  match (s.task slot).pc with
  | .waiting (.call _) _ => true
  | _ => false

/-- The order of the steps around a Call.  Its deadline has not passed when it is tested;
a wake with an error code is performed while no core runs its task, and for a task in a
Call's loop it is a drain wake; no pass of the loop is made, and no slot given up, while
a drain wake for it is under way; no task is killed on its core inside a Call, and none
that was killed starts one. -/
def Orderly : Action → Prop
  | .call slot _ _ _ _ _ => (s.task slot).state ≠ .dead
  | .attempt slot => s.inCall slot → s.Undrained slot
  | .test slot =>
    match (s.task slot).pc with
    | .waiting (.call call) _ => call.deadline ≠ 0 → s.ticks < call.deadline
    | _ => True
  | .deliver index => ∀ wake ∈ s.owed[index]?, wake.result ≠ 0 →
    (s.task wake.slot).onCpu = false ∧
      (s.inCall wake.slot → wake.result = IpcError.replyDead.code)
  | .kill slot => (s.task slot).pc.call? ≠ none → (s.task slot).onCpu = false
  | .release slot => s.Undrained slot
  | _ => True

instance (s : State) (a : Action) : Decidable (Orderly s a) := by
  unfold Orderly
  split
  case h_3 => split <;> infer_instance
  all_goals infer_instance

section Step

variable {s s' : State} {a : Action} {slot : Slot} {id : Nat}

/-- How a step changes the record of one task: it keeps it, clears it when the Call
leaves its loop, when the task dies or when a drain takes it, or sets it to the
target of the Call that goes on to block. -/
inductive AwaitMove (s : State) (a : Action) (s' : State) (slot : Slot) : Prop
  | same (hawait : s'.routing.callAwait slot = s.routing.callAwait slot)
  | left (hzero : s'.routing.callAwait slot = 0) (call : Call)
      (hat : s.At slot (.waiting (.call call) .attempt))
  | dying (hzero : s'.routing.callAwait slot = 0) (hstage : (s.task slot).killStage ≠ none)
  | drained (hzero : s'.routing.callAwait slot = 0) (wake : Wake) (hwake : wake ∈ s'.owed)
      (hslot : wake.slot = slot)
  | set (hawaits : s'.Awaits slot (s'.routing.callAwait slot)) (call : Call)
      (hat : s.At slot (.waiting (.call call) .attempt)) (haction : a = .attempt slot)

lemma AwaitMove.of_update {i : Slot} {id : Nat}
    (hawait : s'.routing.callAwait = Function.update s.routing.callAwait i id)
    (hself : i = slot → s'.routing.callAwait slot = id → AwaitMove s a s' slot) :
    AwaitMove s a s' slot := by
  by_cases hi : i = slot
  · exact hself hi (by rw [hawait, hi, Function.update_self])
  · exact .same (by rw [hawait, Function.update_of_ne (Ne.symm hi)])

/-- **Every step changes every record in one of these ways.** -/
theorem Effect.awaitMove (h : Effect s a s') (slot : Slot) : AwaitMove s a s' slot := by
  cases h with
  | replied i call _ _ _ hat | replyDead i call _ hat | callOwnDead i call hat =>
    refine .of_update rfl ?_
    rintro rfl hzero
    exact .left hzero call hat
  | callEmpty i call _ _ hat =>
    refine .of_update rfl ?_
    rintro rfl hset
    exact .set ⟨by simpa [State.setPc] using hat.1, call, .empty, by simp [State.setPc],
      hset.symm⟩ call hat rfl
  | awaitCleared i hstage =>
    refine .of_update rfl ?_
    rintro rfl hzero
    exact .dying hzero (by simp [hstage])
  | waiterTaken i waiter life hstage =>
    refine .of_update rfl ?_
    rintro rfl hzero
    by_cases hself : waiter = i
    · exact .dying hzero (by simp [hself, hstage])
    · exact .drained hzero ⟨waiter, IpcError.replyDead.code, life.id⟩ (by simp [hself]) rfl
  | blockPending => exact .same (by simp [State.consumePending])
  | blockFails | resumed | killed => exact .same (by simp)
  | endpointKilled i own life t next _ _ hkill =>
    obtain ⟨-, -, hawait, -⟩ := State.killEndpoint_spec hkill
    exact .same (by simp [State.setStage, hawait])
  | spawned i _ _ _ t _ hspawn => exact .same (by rw [(spawns_of_spawn hspawn).callAwait_eq])
  | _ => exact .same rfl

/-- Only a pass of its own Call sets a cleared record. -/
lemma Effect.callAwait_eq_zero (h : Effect s a s') (hzero : s.routing.callAwait slot = 0)
    (hplace : a = .attempt slot → ∀ call, ¬ s.At slot (.waiting (.call call) .attempt)) :
    s'.routing.callAwait slot = 0 := by
  cases h.awaitMove slot with
  | same hsame => exact hsame.trans hzero
  | left hzero' | dying hzero' | drained hzero' => exact hzero'
  | set _ call hat haction => exact absurd hat (hplace haction call)

/-- A drain wake is decided on for a task whose record stands, and clears it. -/
lemma NewWake.drained {wake : Wake} (hlives : Lives s) (h : NewWake s s' wake)
    (hres : wake.result = IpcError.replyDead.code) :
    s.routing.callAwait wake.slot ≠ 0 ∧ wake.drainOf = s.routing.callAwait wake.slot ∧
      s'.task = s.task ∧ s'.routing.callAwait wake.slot = 0 := by
  cases h with
  | receiver _ _ _ _ hcode =>
    rcases hcode with hcode | hcode <;> exact absurd (hres.symm.trans hcode) (by decide)
  | sender _ _ _ _ hcode =>
    rcases hcode with ⟨hcode, -⟩ | hcode <;> exact absurd (hres.symm.trans hcode) (by decide)
  | timer _ hcode => exact absurd (hres.symm.trans hcode) (by decide)
  | drain slot life hstage hown hawait hwake htask hcleared =>
    have hvalid : (s.task slot).valid := (hlives.stage slot (by simp [hstage])).1
    have hranged : firstEndpointId ≤ life.id := hlives.ranged slot .endpoint life ⟨hvalid, hown⟩
    have hpositive : 0 < firstEndpointId := by decide
    refine ⟨by omega, ?_, htask, hcleared⟩
    rw [hawait]
    exact congrArg Wake.drainOf hwake

lemma Effect.owed_deliver {index : Nat} (h : Effect s (.deliver index) s') :
    s'.owed = s.owed.eraseIdx index := by
  cases h with
  | refused _ hoffers | queued _ _ _ _ _ _ hoffers | callQueued _ _ _ _ _ _ _ hoffers => cases hoffers
  | parked _ _ _ _ _ _ hact | callParked _ _ _ _ _ _ hact => cases hact
  | delivered => rfl

/-- No drain decides to wake a task whose record is cleared. -/
lemma Effect.undrained (hlives : Lives s) (h : Effect s a s') (hsettled : s.Settled slot) :
    s'.Undrained slot := by
  intro wake hwake hslot hres
  rcases h.wake_cases hwake with hold | hnew
  · exact hsettled.2 wake hold hslot hres
  · exact (hnew.drained hlives hres).1 (hslot ▸ hsettled.1)

end Step

/-- Not two drain wakes of one task. -/
def Wake.Apart (wake wake' : Wake) : Prop :=
  wake.result = IpcError.replyDead.code → wake'.result = IpcError.replyDead.code →
    wake.slot ≠ wake'.slot

lemma Wake.apart_of_pairwise {owed : List Wake} {i j : Nat} {wake wake' : Wake}
    (h : owed.Pairwise Wake.Apart) (hi : owed[i]? = some wake) (hj : owed[j]? = some wake')
    (hne : i ≠ j) : wake.Apart wake' := by
  intro hres hres'
  obtain ⟨hlt, rfl⟩ := List.getElem?_eq_some_iff.mp hi
  obtain ⟨hlt', rfl⟩ := List.getElem?_eq_some_iff.mp hj
  rcases Nat.lt_or_gt_of_ne hne with hless | hless
  · exact List.pairwise_iff_getElem.mp h i j hlt hlt' hless hres hres'
  · exact (List.pairwise_iff_getElem.mp h j i hlt' hlt hless hres' hres).symm

/-- A record stands, and a drain wake is under way, only for a task that is in a Call on
that endpoint.  The other fields are what this rests on: a drain has cleared the record
of the task it wakes and wakes it once, the error code a task is about to read was a
drain's and the last, and a dead task runs no Call. -/
structure OnlyCallers (s : State) : Prop where
  record : ∀ slot, s.routing.callAwait slot ≠ 0 → s.Awaits slot (s.routing.callAwait slot)
  wake : ∀ wake ∈ s.owed, wake.result = IpcError.replyDead.code →
    s.Awaits wake.slot wake.drainOf ∧ s.routing.callAwait wake.slot = 0
  once : s.owed.Pairwise Wake.Apart
  core : ∀ slot, (s.task slot).onCpu = true → (s.task slot).state ≠ .dead →
    (s.task slot).state ≠ .running → (s.task slot).wakeupErr = 0
  woken : ∀ slot call, s.Waits slot (.call call) .parked →
    (s.task slot).state ≠ .blockedOnRecv → (s.task slot).wakeupErr ≠ 0 → s.Settled slot
  dead : ∀ slot, (s.task slot).state = .dead → (s.task slot).pc.call? ≠ none →
    (s.task slot).onCpu = false
  cleared : ∀ slot stage, (s.task slot).killStage = some stage → stage ≠ .marked →
    s.routing.callAwait slot = 0

lemma onlyCallers_boot : OnlyCallers boot where
  record _ hrecord := absurd rfl hrecord
  wake := nofun
  once := .nil
  core := nofun
  woken _ _ hwaits := nomatch hwaits.1
  dead := nofun
  cleared := nofun

section Callers

variable {s s' : State} {a : Action} {slot : Slot} {id : Nat}

/-- A Call ends on an error code only when nothing of it is left behind. -/
lemma OnlyCallers.settled_of_code (hcallers : OnlyCallers s) (hcoherent : s.Coherent)
    {call : Call} {phase : Phase} (hat : s.At slot (.waiting (.call call) phase))
    (hreads : s.readsCode slot a) (hplace : a = .resume slot → phase = .parked)
    (hcode : (s.task slot).wakeupErr ≠ 0) : s.Settled slot := by
  obtain ⟨hvalid, hcpu, hpc⟩ := hat
  have halive : (s.task slot).state ≠ .dead := by
    intro hdead
    have hoff := hcallers.dead slot hdead (by simp [hpc, Pc.call?, Wait.call?])
    cases hcpu.symm.trans hoff
  rcases hreads with ⟨-, -, hstate⟩ | hresume
  · exact absurd (hcallers.core slot hcpu halive hstate) hcode
  · cases hplace hresume
    refine hcallers.woken slot call ⟨hvalid, halive, hpc⟩ (fun hblocked => ?_) hcode
    have hoff := ((hcoherent slot hvalid).blocked (.inl hblocked)).1
    cases hcpu.symm.trans hoff

variable (hground : Ground s) (h : Effect s a s') (horderly : Orderly s a)
  (hcallers : OnlyCallers s)
include hground h horderly hcallers

/-- A task stays in its Call as long as its record stands or a drain wake for it
is under way. -/
lemma Effect.awaits (hawaits : s.Awaits slot id)
    (hopen : (s.routing.callAwait slot ≠ 0 ∧ s'.routing.callAwait slot ≠ 0) ∨
      ¬ s.Undrained slot) : s'.Awaits slot id := by
  obtain ⟨hvalid, call, phase, hpc, htarget⟩ := hawaits
  have hunsettled : ¬ s.Settled slot := by
    rintro ⟨hzero, hundrained⟩
    rcases hopen with ⟨hrec, -⟩ | hdrained
    · exact hrec hzero
    · exact hdrained hundrained
  -- a task that stays at some place of the same wait
  have hstays : ∀ phase', (s'.task slot).valid →
      (s'.task slot).pc = .waiting (.call call) phase' → s'.Awaits slot id :=
    fun phase' hvalid' hpc' => ⟨hvalid', call, phase', hpc', htarget⟩
  have hmove := h.taskMove slot
  generalize htask : s'.task slot = task' at hmove hstays
  cases hmove with
  | same | dispatched | yielded | woken | disarmed | killed | dies => exact hstays phase hvalid hpc
  | enters _ _ hat => exact absurd (hat.2.2.symm.trans hpc) nofun
  | returns wait phase₀ deadline hat hleaves =>
    cases hat.2.2.symm.trans hpc
    exfalso
    rcases hleaves with ⟨rfl, -, hzero⟩ | ⟨rfl, -, hexpired⟩
    · rcases hopen with ⟨-, hrec⟩ | hdrained
      · exact hrec (hzero call rfl)
      · exact hdrained (horderly (by simp [State.inCall, hpc]))
    · obtain ⟨hdeadline, hticks⟩ := hexpired call rfl
      simp only [Orderly, hpc] at horderly
      exact absurd (horderly hdeadline) (by omega)
  | advances wait phase₀ phase' deadline hat =>
    cases hat.2.2.symm.trans hpc
    exact hstays phase' hvalid rfl
  | finishes wait phase₀ result deadline pending hat hphase hcode hplace =>
    cases hat.2.2.symm.trans hpc
    by_cases hres : result = 0
    · subst hres
      exact hstays .attempt hvalid rfl
    · obtain ⟨rfl, hreads⟩ := hcode hres rfl
      exact absurd (hcallers.settled_of_code hground.coherent hat hreads hplace hres) hunsettled
  | parks wait hat =>
    obtain ⟨rfl, -⟩ := Pc.waiting.inj (hat.2.2.symm.trans hpc)
    exact hstays .parked hvalid rfl
  | released hact _ hfreed =>
    subst hact
    exact absurd ⟨hcallers.cleared slot _ hfreed nofun, horderly⟩ hunsettled
  | committed endpoint reply hinvalid => exact absurd (hinvalid.symm.trans hvalid) nofun

lemma Effect.onlyCallers_record (hrec : s'.routing.callAwait slot ≠ 0) :
    s'.Awaits slot (s'.routing.callAwait slot) := by
  cases h.awaitMove slot with
  | same hsame =>
    have hold : s.routing.callAwait slot ≠ 0 := hsame ▸ hrec
    have hawaits := hcallers.record slot hold
    rw [← hsame] at hawaits
    exact h.awaits hground horderly hcallers hawaits (.inl ⟨hold, hrec⟩)
  | left hzero | dying hzero | drained hzero => exact absurd hzero hrec
  | set hawaits => exact hawaits

lemma Effect.onlyCallers_wake {wake : Wake} (hwake : wake ∈ s'.owed)
    (hres : wake.result = IpcError.replyDead.code) :
    s'.Awaits wake.slot wake.drainOf ∧ s'.routing.callAwait wake.slot = 0 := by
  rcases h.wake_cases hwake with hold | hnew
  · obtain ⟨hawaits, hzero⟩ := hcallers.wake wake hold hres
    have hdrained : ¬ s.Undrained wake.slot := fun hundrained => hundrained wake hold rfl hres
    refine ⟨h.awaits hground horderly hcallers hawaits (.inr hdrained), ?_⟩
    refine h.callAwait_eq_zero hzero ?_
    rintro rfl call hat
    exact hdrained (horderly (by simp [State.inCall, hat.2.2]))
  · obtain ⟨hrec, hdrain, htask, hcleared⟩ := hnew.drained hground.lives hres
    refine ⟨?_, hcleared⟩
    unfold State.Awaits
    rw [htask, hdrain]
    exact hcallers.record wake.slot hrec

omit horderly in
lemma Effect.onlyCallers_once : s'.owed.Pairwise Wake.Apart := by
  cases h.owedMove with
  | performed index _ _ _ howed =>
    rw [howed]
    exact hcallers.once.sublist (List.eraseIdx_sublist _ _)
  | more new howed hnew hlone =>
    rw [howed]
    refine List.pairwise_append.mpr ⟨hcallers.once, hlone.imp fun hne hres => absurd hres hne, ?_⟩
    intro wake hold wake' hmem hres hres' hslot
    -- the drain found the record set, and the earlier drain had cleared it
    exact ((hnew wake' hmem).drained hground.lives hres').1
      (hslot ▸ (hcallers.wake wake hold hres).2)

omit hground in
lemma Effect.onlyCallers_core (hcpu : (s'.task slot).onCpu) (halive : (s'.task slot).state ≠ .dead)
    (hstate : (s'.task slot).state ≠ .running) : (s'.task slot).wakeupErr = 0 := by
  have hmove := h.taskMove slot
  generalize s'.task slot = task' at hmove hcpu halive hstate
  cases hmove with
  | parks | yielded | committed => cases hcpu
  | dispatched => exact absurd rfl hstate
  | killed => exact absurd rfl halive
  | woken wake _ hslot _ _ haction =>
    obtain ⟨index, rfl, hwake⟩ := haction
    by_contra hcode
    have hoff := (horderly wake (by simp [hwake]) hcode).1
    rw [hslot] at hoff
    cases hcpu.symm.trans hoff
  | _ => exact hcallers.core slot hcpu halive hstate

lemma Effect.onlyCallers_woken {call : Call} (hwaits : s'.Waits slot (.call call) .parked)
    (hstate : (s'.task slot).state ≠ .blockedOnRecv) (hcode : (s'.task slot).wakeupErr ≠ 0) :
    s'.Settled slot := by
  obtain ⟨hvalid, halive, hpc⟩ := hwaits
  have hmove := h.taskMove slot
  generalize s'.task slot = task' at hmove hvalid halive hpc hstate hcode
  -- a parked caller makes no pass of its loop
  have hkept : (s.task slot).pc = .waiting (.call call) .parked → s.Settled slot →
      s'.Settled slot := by
    refine fun hparked hsettled => ⟨h.callAwait_eq_zero hsettled.1 fun _ call' hat => ?_,
      h.undrained hground.lives hsettled⟩
    cases hat.2.2.symm.trans hparked
  cases hmove with
  | same | disarmed =>
    exact hkept hpc (hcallers.woken slot call ⟨hvalid, halive, hpc⟩ hstate hcode)
  | enters _ _ _ hparked =>
    cases hpc
    exact absurd rfl hparked
  | returns | committed => cases hpc
  | advances _ _ _ _ _ hphase =>
    cases hpc
    rcases hphase with ⟨-, hphase, -⟩ | ⟨-, hphase⟩ <;> cases hphase
  | finishes wait _ result =>
    rcases wait.after_cases result with huser | ⟨wait', phase', hafter, -, -, hback, -⟩
    · cases huser.symm.trans hpc
    · cases hafter.symm.trans hpc
      rcases hback with hback | ⟨_, hback⟩ <;> cases hback
  | parks wait =>
    cases hpc
    exact absurd rfl hstate
  | dispatched _ _ hready =>
    refine hkept hpc (hcallers.woken slot call ⟨hvalid, ?_, hpc⟩ ?_ hcode) <;> simp [hready]
  | yielded =>
    refine hkept hpc (hcallers.woken slot call ⟨hvalid, fun hdead => halive ?_, hpc⟩
      (fun hblocked => hstate ?_) hcode)
    · simp [hdead]
    · simp [hblocked]
  | woken wake hmem hslot _ halive haction =>
    obtain ⟨index, rfl, hwake⟩ := haction
    have hin : s.inCall wake.slot := by
      unfold State.inCall
      rw [hslot, show (s.task slot).pc = _ from hpc]
    have hres := (horderly wake (by simp [hwake]) hcode).2 hin
    refine ⟨h.callAwait_eq_zero (hslot ▸ (hcallers.wake wake hmem hres).2) nofun, ?_⟩
    -- the drain wake that was performed was the only one
    intro other hother hsame hres'
    rw [h.owed_deliver, List.mem_eraseIdx_iff_getElem?] at hother
    obtain ⟨i, hne, hi⟩ := hother
    exact Wake.apart_of_pairwise hcallers.once hi hwake hne hres' hres (hsame.trans hslot.symm)
  | killed => exact absurd rfl halive
  | dies _ _ hstage => exact absurd (hground.lives.stage slot hstage).2 halive
  | released => cases hvalid

omit hground in
lemma Effect.onlyCallers_dead (hdead : (s'.task slot).state = .dead)
    (hcall : (s'.task slot).pc.call? ≠ none) : (s'.task slot).onCpu = false := by
  have hmove := h.taskMove slot
  generalize s'.task slot = task' at hmove hdead hcall
  have hoff := hcallers.dead slot
  cases hmove with
  | same | disarmed | dies => exact hoff hdead hcall
  | enters wait _ _ _ _ _ _ _ hopens =>
    obtain ⟨call, hcall⟩ := Option.ne_none_iff_exists'.mp hcall
    have hstarts := (hopens call hcall).action
    cases a <;> cases hstarts
    exact absurd hdead horderly
  | returns | committed => exact absurd rfl hcall
  | advances wait _ _ _ hat => exact hoff hdead (by rw [hat.2.2]; exact hcall)
  | finishes wait _ result _ _ hat =>
    rcases wait.after_cases result with huser | ⟨wait', phase', hafter, -, hsame, -⟩
    · simp [huser, Pc.call?] at hcall
    · refine hoff hdead ?_
      rw [hat.2.2]
      simpa [hafter, Pc.call?, hsame] using hcall
  | parks | yielded => rfl
  | dispatched | woken => cases hdead
  | killed _ _ haction =>
    subst haction
    exact horderly hcall
  | released _ hcpu => exact hcpu

omit horderly in
lemma Effect.onlyCallers_cleared {stage : KillStage}
    (hstage : (s'.task slot).killStage = some stage) (hmarked : stage ≠ .marked) :
    s'.routing.callAwait slot = 0 := by
  have hmove := h.taskMove slot
  generalize s'.task slot = task' at hmove hstage
  -- a dying task makes no pass of a Call
  have hkept : ∀ stage', (s.task slot).killStage = some stage' → stage' ≠ .marked →
      s'.routing.callAwait slot = 0 := by
    refine fun stage' hstage' hne => h.callAwait_eq_zero (hcallers.cleared slot stage' hstage' hne)
      fun _ call hat => ?_
    have hdead := (hground.lives.stage slot (by simp [hstage'])).2
    have hoff := hcallers.dead slot hdead (by simp [hat.2.2, Pc.call?, Wait.call?])
    cases hat.2.1.symm.trans hoff
  cases hmove with
  | dies _ _ hdying _ _ hfirst =>
    obtain ⟨stage', hstage'⟩ := Option.ne_none_iff_exists'.mp hdying
    by_cases hold : stage' = .marked
    · exact hfirst (hold ▸ hstage')
    · exact hkept stage' hstage' hold
  | killed =>
    cases hstage
    exact absurd rfl hmarked
  | released | committed => cases hstage
  | _ => exact hkept stage hstage hmarked

/-- **One orderly step keeps records and drain wakes with callers.** -/
theorem Effect.onlyCallers : OnlyCallers s' where
  record _ := h.onlyCallers_record hground horderly hcallers
  wake _ := h.onlyCallers_wake hground horderly hcallers
  once := h.onlyCallers_once hground hcallers
  core _ := h.onlyCallers_core horderly hcallers
  woken _ _ := h.onlyCallers_woken hground horderly hcallers
  dead _ := h.onlyCallers_dead horderly hcallers
  cleared _ _ := h.onlyCallers_cleared hground hcallers

end Callers

/-- **`ReplyDead` reaches only a task that is in a Call on the dead endpoint**: in every
orderly run a record stands only for a task in the wait loop of a Call on that endpoint,
and so does every wake with `ReplyDead` that is still to be performed. -/
theorem replyDead_only_to_callers {s : State} (h : Reached Orderly s) :
    (∀ slot, s.routing.callAwait slot ≠ 0 → s.Awaits slot (s.routing.callAwait slot)) ∧
      ∀ wake ∈ s.owed, wake.result = IpcError.replyDead.code →
        s.Awaits wake.slot wake.drainOf := by
  have hcallers : OnlyCallers s := by
    refine h.invariant_of (fun _ => ground_of_reached) onlyCallers_boot
      fun t a t' hground ht horderly hstep => ?_
    exact (effect_of_step hstep).onlyCallers hground horderly ht
  exact ⟨hcallers.record, fun wake hwake hres => (hcallers.wake wake hwake hres).1⟩

/-! ## A record that outlives its Call -/

/-- Slot `0` calls slot `1`, records its endpoint and blocks. -/
def awaiting (deadline : Nat) : List Action :=
  [.spawn 0 0 true true, .spawn 1 1 true true, .dispatch 0, .dispatch 1,
    .call 0 ⟨102, 3⟩ .endpoint 1 deadline 4096, .attempt 0]

/-- The kill of slot `1`, up to and with the first waiter of its drain loop. -/
def drains : List Action :=
  [.kill 1, .killStep 1, .killStep 1, .killStep 1, .killStep 1, .killStep 1]

/-- Slot `0` calls slot `1`, times out and blocks in `recv`; when slot `1` dies, the
record left by the Call makes the drain wake the `recv`. -/
theorem recv_woken_with_replyDead : ∃ s own, Reached Free s ∧
    ⟨0, IpcError.replyDead.code, 102⟩ ∈ s.owed ∧
    (s.task 0).pc = .waiting (.recv own none) .parked ∧
    (s.task 0).state = .blockedOnRecv := by
  obtain ⟨s, hend⟩ : ∃ s, Reached Free s ∧
      ⟨0, IpcError.replyDead.code, 102⟩ ∈ s.owed ∧
      (s.task 0).pc = .waiting (.recv ⟨100, 1⟩ none) .parked ∧
      (s.task 0).state = .blockedOnRecv :=
    exists_reaches (awaiting 1 ++ [.tick, .test 0, .recv 0 .endpoint none, .attempt 0,
      .test 0, .block 0] ++ drains) (by decide +kernel)
  exact ⟨s, ⟨100, 1⟩, hend⟩

/-- A caller that is still waiting when its peer dies is the one that is woken. -/
theorem replyDead_only_to_callers_blocked : ∃ s, Reached Orderly s ∧
    (∃ wake ∈ s.owed, wake.result = IpcError.replyDead.code) ∧
    (∀ slot, s.routing.callAwait slot ≠ 0 → s.Awaits slot (s.routing.callAwait slot)) ∧
      ∀ wake ∈ s.owed, wake.result = IpcError.replyDead.code →
        s.Awaits wake.slot wake.drainOf :=
  exists_reaches_and (awaiting 0 ++ [.test 0, .block 0] ++ drains) (by decide +kernel)
    fun _ hs _ => replyDead_only_to_callers hs

end Godspeed.Machine
