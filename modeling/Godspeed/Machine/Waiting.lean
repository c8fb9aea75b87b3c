import Godspeed.Machine.Lives

/-!
# Tasks that wait

Invariants of every run that tie the scheduler words of a task to the syscall
it is in:

* `Coherent`: a live task waits on an endpoint of its own, a blocked task is
  parked in the matching block, and a sender is not switched away between its
  enqueue and its block;
* `CallBook`: the Calls in progress carry different numbers, and the Call of a
  live task has not ended.
-/

namespace Godspeed.Machine

open Ipc Capability State

/-- The words of a valid task fit together. -/
structure Task.Coherent (task : Task) : Prop where
  own : task.state ≠ .dead → ∀ life, task.pc.own = some life → ∃ own, task.own own = some life
  running : task.state = .running → task.onCpu = true
  blocked : task.state = .blockedOnRecv ∨ task.state = .blockedOnSend →
    task.onCpu = false ∧ ∃ wait, task.pc = .waiting wait .parked ∧ task.state = wait.blockState
  sending : ∀ endpoint msg next phase, task.pc = .waiting (.send endpoint msg next) phase →
    (phase = .block ∧ task.onCpu = true) ∨ phase = .parked

variable {task' : Task} {phase : Phase} {result : CallResult} {s s' : State} {a : Action}
  {slot : Slot} {call : Call}

lemma Task.Coherent.of_after {task : Task} {wait : Wait} {result : Int} (h : task.Coherent)
    (hcpu : task.onCpu) (hold : task.pc = .waiting wait phase)
    (hpc : task'.pc = wait.after result)
    (hwords : task'.state = task.state ∧ task'.onCpu = task.onCpu ∧
      task'.endpoint = task.endpoint ∧ task'.reply = task.reply) : task'.Coherent := by
  obtain ⟨hstate, hcpu', hep, hreply⟩ := hwords
  have hown : ∀ own, task'.own own = task.own own := by
    intro own
    cases own <;> simp [Task.own, hep, hreply]
  refine ⟨fun halive life hlife => ?_, fun hr => hcpu'.trans hcpu, fun hb => ?_, ?_⟩
  · simp only [hown]
    refine h.own (hstate ▸ halive) life ?_
    rcases wait.after_cases result with huser | ⟨wait', phase', hafter, hsame, -⟩
    · rw [hpc, huser] at hlife
      cases hlife
    · rw [hpc, hafter] at hlife
      rw [hold]
      exact hsame.symm.trans hlife
  · rw [hstate] at hb
    cases ((h.blocked hb).1.symm.trans hcpu)
  · intro endpoint msg next phase' hsend
    rcases wait.after_cases result with huser | ⟨wait', phase'', hafter, -, -, -, hrecv⟩
    · rw [hpc, huser] at hsend
      cases hsend
    · rw [hpc, hafter] at hsend
      cases hsend
      cases hrecv

/-- **One step keeps the words of a task together.** -/
theorem TaskMove.coherent (hlives : Lives s)
    (hold : (s.task slot).valid → (s.task slot).Coherent) (h : TaskMove s a s' slot task')
    (hvalid : task'.valid) : task'.Coherent := by
  cases h with
  | same => exact hold hvalid
  | enters wait phase hat hphase hblock _ _ hown =>
    have hcoh := hold hat.1
    refine ⟨fun _ => hown, fun _ => hat.2.1, fun hb => ?_, fun endpoint msg next phase' hsend => ?_⟩
    · cases ((hcoh.blocked hb).1.symm.trans hat.2.1)
    · cases hsend
      exact .inl ⟨hblock.mpr rfl, hat.2.1⟩
  | returns wait phase deadline hat =>
    have hcoh := hold hat.1
    refine ⟨nofun, fun _ => hat.2.1, fun hb => ?_, nofun⟩
    cases ((hcoh.blocked hb).1.symm.trans hat.2.1)
  | advances wait phase phase' deadline hat hphase =>
    have hcoh := hold hat.1
    refine ⟨fun halive life hlife => hcoh.own halive life (hat.2.2 ▸ hlife),
      fun _ => hat.2.1, fun hb => ?_, fun endpoint msg next ph hsend => ?_⟩
    · cases ((hcoh.blocked hb).1.symm.trans hat.2.1)
    cases hsend
    -- a sender never stands before a dequeue or a deadline test
    rcases hcoh.sending endpoint msg next phase hat.2.2 with ⟨rfl, -⟩ | rfl <;>
      rcases hphase with ⟨hp, -⟩ | ⟨hp, -⟩ <;> cases hp
  | finishes wait phase result deadline pending hat =>
    exact (hold hat.1).of_after hat.2.1 hat.2.2 rfl ⟨rfl, rfl, rfl, rfl⟩
  | parks wait hat _ hrun =>
    have hcoh := hold hat.1
    refine ⟨fun _ life hlife => ?_, fun hr => ?_, fun _ => ⟨rfl, wait, rfl, rfl⟩,
      fun endpoint msg next phase hsend => ?_⟩
    · exact hcoh.own (by simp [hrun]) life (hat.2.2 ▸ hlife)
    · cases wait <;> cases hr
    · cases hsend
      exact .inr rfl
  | dispatched hvalid hcpu hready =>
    have hcoh := hold hvalid
    refine ⟨fun _ => hcoh.own (by simp [hready]), fun _ => rfl, nofun,
      fun endpoint msg next phase hsend => ?_⟩
    exact (hcoh.sending endpoint msg next phase hsend).imp (fun h => ⟨h.1, rfl⟩) id
  | yielded hcpu hwindow =>
    have hcoh := hold hvalid
    refine ⟨fun halive => hcoh.own fun hd => halive (by simp [hd]), fun hr => ?_,
      fun hb => ?_, fun endpoint msg next phase hsend => ?_⟩
    · simp only at hr
      split at hr
      · cases hr
      · exact absurd hr ‹_›
    · simp only at hb
      split at hb
      · rcases hb with hb | hb <;> cases hb
      · cases ((hcoh.blocked hb).1.symm.trans hcpu)
    · rcases hcoh.sending endpoint msg next phase hsend with ⟨rfl, -⟩ | hparked
      · exact absurd hsend (hwindow endpoint msg next)
      · exact .inr hparked
  | woken wake hwake hslot hvalid halive =>
    have hcoh := hold hvalid
    exact ⟨fun _ => hcoh.own halive, nofun, nofun, hcoh.sending⟩
  | disarmed =>
    have hcoh := hold hvalid
    exact ⟨hcoh.own, hcoh.running, hcoh.blocked, hcoh.sending⟩
  | killed hvalid halive =>
    exact ⟨fun h => absurd rfl h, nofun, nofun, (hold hvalid).sending⟩
  | dies reply next hstage =>
    obtain ⟨hvalid, hdead⟩ := hlives.stage slot hstage
    have hcoh := hold hvalid
    exact ⟨fun h => absurd hdead h, hcoh.running, hcoh.blocked, hcoh.sending⟩
  | released => cases hvalid
  | committed endpoint reply hvalid => exact ⟨nofun, nofun, nofun, nofun⟩

def State.Coherent (s : State) : Prop :=
  ∀ slot, (s.task slot).valid = true → (s.task slot).Coherent

lemma coherent_of_reached {ok : State → Action → Prop} (h : Reached ok s) : s.Coherent :=
  h.invariant_of (fun _ => lives_of_reached) nofun fun _ _ _ hlives hcoh _ hstep slot =>
      ((effect_of_step hstep).taskMove slot).coherent hlives (hcoh slot)

/-! ## The Calls in progress -/

/-- The two ways the recorded ends of Calls change: not at all, or one task
leaves its Call or dies in it. -/
inductive OutcomeMove (s s' : State) : Prop
  | same (houtcome : s'.log.outcome = s.log.outcome)
  | concluded (slot : Slot) (call : Call) (result : CallResult)
      (hcall : (s.task slot).pc.call? = some call)
      (houtcome : s'.log.outcome = (s.log.conclude call.callId result).outcome)
      (hleft : (s'.task slot).pc = .user ∨ (s'.task slot).state = .dead)
      (hrequest : ∀ id msg phase, (s.task slot).pc = .waiting (.send id msg (some call)) phase →
        ((s.task slot).wakeupErr ≠ 0 ∧ result = .failed (s.task slot).wakeupErr) ∨
          result = .callerKilled)

lemma outcomeMove_of_endCall {t : State} (hpc : (s.task slot).pc = .waiting (.call call) phase)
    (hlog : t.log.outcome = s.log.outcome) : OutcomeMove s (t.endCall slot call result) := by
  refine .concluded slot call result (by rw [hpc]; rfl) ?_ (.inl (by simp [endCall_task])) ?_
  · simp [endCall, leave, Log.conclude, hlog]
  · intro id msg phase' hsend
    exact absurd (hpc.symm.trans hsend) nofun

lemma outcomeMove_of_finishBlock {t : State} {wait : Wait} {result : Int}
    (hpc : (s.task slot).pc = .waiting wait phase) (hlog : t.log = s.log)
    (hcode : result ≠ 0 → result = (s.task slot).wakeupErr) :
    OutcomeMove s (t.finishBlock slot wait result) := by
  by_cases hres : result = 0
  · refine .same ?_
    rcases wait with ⟨endpoint, msg, _ | call⟩ | ⟨own, deadline⟩ | deadline | call <;>
      simp [finishBlock, setPc, hlog, hres]
  cases wait with
  | send endpoint msg next =>
    cases next with
    | none => exact .same (by simp [finishBlock, setPc, hlog])
    | some call =>
      refine .concluded slot call (.failed result) (by rw [hpc]; rfl) ?_ (.inl ?_) ?_
      · simp [finishBlock, setPc, hlog, hres, Log.conclude]
      · simp [finishBlock, setPc, hres]
      · intro id msg' phase' _
        rw [← hcode hres]
        exact .inl ⟨hres, rfl⟩
  | recv own deadline | sleep deadline =>
    exact .same (by simp [finishBlock, leave, hlog, hres])
  | call call =>
    simp only [finishBlock, hres, ne_eq]
    exact outcomeMove_of_endCall hpc (by rw [hlog])

lemma outcomeMove_of_kill (s : State) (slot : Slot) : OutcomeMove s (s.kill slot) := by
  unfold kill
  split
  next call phase hpc =>
    exact .concluded slot call .callerKilled (by rw [hpc]; rfl) rfl (.inr (by simp))
      fun _ _ _ _ => .inr rfl
  next endpoint msg call phase hpc =>
    exact .concluded slot call .callerKilled (by rw [hpc]; rfl) rfl (.inr (by simp))
      fun _ _ _ _ => .inr rfl
  · exact .same rfl

lemma Effect.outcomeMove (h : Effect s a s') : OutcomeMove s s' := by
  cases h with
  | replied slot call entry entry' msg hat | replyDead slot call entry hat
  | callOwnDead slot call hat | callTimedOut slot call hat =>
    exact outcomeMove_of_endCall hat.2.2 rfl
  | blockPending slot wait hat =>
    exact outcomeMove_of_finishBlock hat.2.2 rfl fun hne => absurd rfl hne
  | blockFails slot wait hat | resumed slot wait hat =>
    exact outcomeMove_of_finishBlock hat.2.2 rfl fun _ => rfl
  | killed slot => exact outcomeMove_of_kill s slot
  | endpointKilled slot own life t next _ _ hkill =>
    obtain ⟨-, -, -, -, -, hlog⟩ := killEndpoint_spec hkill
    exact .same (by simp [setStage, hlog])
  | spawned slot _ _ _ t _ hspawn =>
    obtain ⟨lifeGen, hlog⟩ := (spawns_of_spawn hspawn).log_eq
    exact .same (by simp [hlog])
  | _ => exact .same rfl

lemma Effect.counters_le (h : Effect s a s') :
    s.log.calls ≤ s'.log.calls ∧ s.log.tickets ≤ s'.log.tickets := by
  have hsame : ∀ {log log' : Log}, SameTraffic log log' →
      log.calls ≤ log'.calls ∧ log.tickets ≤ log'.tickets := fun h =>
    ⟨Nat.le_of_eq h.calls.symm, Nat.le_of_eq h.tickets.symm⟩
  cases h with
  | refused | queued | parked => exact ⟨Nat.le_refl _, Nat.le_succ _⟩
  | callQueued | callParked => exact ⟨Nat.le_succ _, Nat.le_succ _⟩
  | blockPending slot wait => exact hsame ((s.consumePending slot).finishBlock_traffic slot wait 0)
  | blockFails slot wait | resumed slot wait => exact hsame (s.finishBlock_traffic slot wait _)
  | killed slot => exact hsame (s.kill_traffic slot)
  | endpointKilled slot own life t next _ _ hkill =>
    obtain ⟨-, -, -, -, -, hlog⟩ := killEndpoint_spec hkill
    simp [setStage, hlog]
  | spawned slot _ _ _ t _ hspawn =>
    obtain ⟨lifeGen, hlog⟩ := (spawns_of_spawn hspawn).log_eq
    simp [hlog]
  | _ => exact ⟨Nat.le_refl _, Nat.le_refl _⟩

lemma TaskMove.call_cases (h : TaskMove s a s' slot task') (hcall : task'.pc.call? = some call) :
    (s.task slot).pc.call? = some call ∨ Opens s a s' slot call := by
  cases h with
  | enters wait phase hat hphase hblock _ _ hown hentered => exact .inr (hentered call hcall)
  | returns | committed => cases hcall
  | advances wait phase phase' deadline hat | parks wait hat =>
    rw [hat.2.2]
    exact .inl hcall
  | finishes wait phase result deadline pending hat =>
    rcases wait.after_cases result with huser | ⟨wait', phase', hafter, -, hsame, -⟩
    · rw [huser] at hcall
      cases hcall
    · rw [hafter] at hcall
      rw [hat.2.2]
      exact .inl (hsame.symm.trans hcall)
  | _ => exact .inl hcall

/-- A live task in a Call was live before, also when the Call starts now. -/
lemma TaskMove.live_of_call (h : TaskMove s a s' slot task') (hcall : task'.pc.call? = some call)
    (hvalid : task'.valid) (halive : task'.state ≠ .dead) :
    (s.task slot).valid ∧ (s.task slot).state ≠ .dead := by
  cases h with
  | parks wait hat _ hrun => exact ⟨hvalid, by simp [hrun]⟩
  | dispatched hvalid hcpu hready => exact ⟨hvalid, by simp [hready]⟩
  | yielded hcpu hwindow => exact ⟨hvalid, fun hd => halive (by simp [hd])⟩
  | woken wake hwake hslot hvalid hlive => exact ⟨hvalid, hlive⟩
  | killed => exact absurd rfl halive
  | released => cases hvalid
  | committed => cases hcall
  | _ => exact ⟨hvalid, halive⟩

/-- The Calls in progress have different numbers, and that of a live task has
not ended. -/
structure CallBook (s : State) : Prop where
  lt : ∀ slot call, (s.task slot).pc.call? = some call → call.callId < s.log.calls
  ne : ∀ slot slot' call call', (s.task slot).pc.call? = some call →
    (s.task slot').pc.call? = some call' → slot ≠ slot' → call.callId ≠ call'.callId
  opened : ∀ slot call, (s.task slot).valid = true → (s.task slot).state ≠ .dead →
    (s.task slot).pc.call? = some call → s.log.outcome call.callId = none
  unused : ∀ callId, s.log.calls ≤ callId → s.log.outcome callId = none

lemma outcome_conclude_of_ne {log : Log} {callId callId' : Nat} (hne : callId ≠ callId') :
    (log.conclude callId' result).outcome callId = log.outcome callId := by
  simp [Log.conclude, hne]

lemma Effect.callBook (hbook : CallBook s) (h : Effect s a s') : CallBook s' := by
  have hle := h.counters_le.1
  refine ⟨fun i c hc => ?_, fun i j c d hc hd hne => ?_, fun i c hvalid halive hc => ?_,
    fun k hk => ?_⟩
  · rcases (h.taskMove i).call_cases hc with hold | ⟨hid, hcalls, -⟩
    · exact Nat.lt_of_lt_of_le (hbook.lt i c hold) hle
    · omega
  · rcases (h.taskMove i).call_cases hc with hold | ⟨hid, -, hothers⟩ <;>
      rcases (h.taskMove j).call_cases hd with hold' | ⟨hid', -, hothers'⟩
    · exact hbook.ne i j c d hold hold' hne
    · have := hbook.lt i c hold
      omega
    · have := hbook.lt j d hold'
      omega
    · -- only one task moves
      rw [hothers j hne.symm] at hd
      have := hbook.lt j d hd
      omega
  · have hlive := (h.taskMove i).live_of_call hc hvalid halive
    rcases (h.taskMove i).call_cases hc with hold | ⟨hid, -, -⟩
    · cases h.outcomeMove with
      | same hout =>
        rw [hout]
        exact hbook.opened i c hlive.1 hlive.2 hold
      | concluded j d r hd hout hleft =>
        have hij : i ≠ j := by
          rintro rfl
          rcases hleft with huser | hdead
          · rw [huser] at hc
            cases hc
          · exact halive hdead
        rw [hout, outcome_conclude_of_ne (hbook.ne i j c d hold hd hij)]
        exact hbook.opened i c hlive.1 hlive.2 hold
    · cases h.outcomeMove with
      | same hout =>
        rw [hout]
        exact hbook.unused _ (Nat.le_of_eq hid.symm)
      | concluded j d r hd hout hleft =>
        have := hbook.lt j d hd
        rw [hout, outcome_conclude_of_ne (by omega)]
        exact hbook.unused _ (Nat.le_of_eq hid.symm)
  · cases h.outcomeMove with
    | same hout =>
      rw [hout]
      exact hbook.unused k (Nat.le_trans hle hk)
    | concluded j d r hd hout hleft =>
      have := hbook.lt j d hd
      rw [hout, outcome_conclude_of_ne (by omega)]
      exact hbook.unused k (Nat.le_trans hle hk)

lemma callBook_of_reached {ok : State → Action → Prop} (h : Reached ok s) : CallBook s := by
  have hnone : ∀ slot call, (boot.task slot).pc.call? ≠ some call := by
    simp [boot, Task.unused, Pc.call?]
  exact h.invariant ⟨fun i c hc => absurd hc (hnone i c), fun i _ c _ hc => absurd hc (hnone i c),
    fun i c _ _ hc => absurd hc (hnone i c), fun _ _ => rfl⟩ fun _ _ _ hbook _ hstep =>
    (effect_of_step hstep).callBook hbook

lemma Effect.outcome_stable {callId : Nat} (h : Effect s a s')
    (hout : s.log.outcome callId = some result) : s'.log.outcome callId = some result := by
  cases h.outcomeMove with
  | same hsame => rw [hsame, hout]
  | concluded slot call result' hcall hconcluded hleft =>
    rw [hconcluded]
    by_cases hid : callId = call.callId
    · subst hid
      simp [Log.conclude, hout]
    · rw [outcome_conclude_of_ne hid, hout]

end Godspeed.Machine
