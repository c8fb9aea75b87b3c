import Godspeed.Machine.Notify

/-!
# How a Call goes on and how it ends

`CallMove` lists what one step can do to a live task in the wait loop of a Call:
the Call goes on, or it ends in one of six ways, each with its cause and the
result that is recorded.
-/

namespace Godspeed.Machine

open Ipc Capability State Function

/-- The message a Call would take from its queue. -/
def State.reply (s : State) (call : Call) : Option Msg :=
  (s.queued call.recv.id).find? call.accepts

/-- The Call has ended with this result. -/
def Ends (s s' : State) (call : Call) (result : CallResult) : Prop :=
  s'.log.outcome = (s.log.conclude call.callId result).outcome

lemma Ends.outcome_eq {s s' : State} {call : Call} {result : CallResult}
    (h : Ends s s' call result) (hopen : s.log.outcome call.callId = none) :
    s'.log.outcome call.callId = some result := by
  rw [h]
  simp [Log.conclude, hopen]

/-- What a step does to a live task in the wait loop of a Call. -/
inductive CallMove (s s' : State) (a : Action) (slot : Slot) (call : Call) (phase : Phase) : Prop
  | stays (phase' : Phase) (hwaits : s'.Waits slot (.call call) phase')
      (hattempt : a = .attempt slot → s.reply call = none ∧ s.AliveId call.target.id)
  | replied (msg : Msg) (hreply : s.reply call = some msg)
      (hends : Ends s s' call (replyResult call msg))
  | replyDead (hreply : s.reply call = none)
      (hends : Ends s s' call (.failed IpcError.replyDead.code))
  | ownDead (hdead : s.routing.table.Unreachable call.recv.id (some call.recv.generation))
      (hends : Ends s s' call (.failed IpcError.endpointDead.code))
  | timedOut (hdeadline : call.deadline ≠ 0) (hexpired : call.deadline ≤ s.ticks)
      (hends : Ends s s' call .timedOut)
  | failed (hreads : s.readsCode slot a) (hcode : (s.task slot).wakeupErr ≠ 0)
      (hends : Ends s s' call (.failed (s.task slot).wakeupErr))
      (hcpu : (s.task slot).onCpu = true) (hplace : a = .resume slot → phase = .parked)
  | killed (haction : a = .kill slot) (hends : Ends s s' call .callerKilled)

section Moves

variable {s s' : State} {a : Action} {slot : Slot} {call : Call} {phase : Phase} {i : Slot}
  {phase' : Phase}

section

variable (hwaits : s.Waits slot (.call call) phase)
include hwaits

lemma CallMove.of_update {task' : Task}
    (htask : s'.task = update s.task i task') (hattempt : a = .attempt slot → i = slot)
    (hself : i = slot → CallMove s s' a slot call phase) : CallMove s s' a slot call phase := by
  by_cases hi : i = slot
  · exact hself hi
  · refine .stays phase ?_ fun ha => absurd (hattempt ha) hi
    rw [Waits, htask, update_of_ne (Ne.symm hi)]
    exact hwaits

omit hwaits in
lemma CallMove.of_waits {task' : Task}
    (htask : s'.task = update s.task slot task') (hvalid : task'.valid)
    (halive : task'.state ≠ .dead) (hpc : task'.pc = .waiting (.call call) phase')
    (hattempt : a ≠ .attempt slot) : CallMove s s' a slot call phase := by
  refine .stays phase' ?_ fun ha => absurd ha hattempt
  rw [Waits, htask, update_self]
  exact ⟨hvalid, halive, hpc⟩

lemma CallMove.of_same (htask : s'.task = s.task)
    (hattempt : a ≠ .attempt slot) : CallMove s s' a slot call phase :=
  .stays phase (by rwa [Waits, htask]) fun ha => absurd ha hattempt

lemma CallMove.of_finishBlock {t : State} {i : Slot} {wait : Wait} {result : Int} {pending : Bool}
    (hat : s.At i (.waiting wait phase'))
    (htask : t.task = update s.task i { s.task i with wakePending := pending })
    (hlog : t.log = s.log) (hattempt : a ≠ .attempt slot)
    (hcode : result ≠ 0 → i = slot → result = (s.task slot).wakeupErr ∧ s.readsCode slot a)
    (hplace : a = .resume i → phase' = .parked) :
    CallMove s (t.finishBlock i wait result) a slot call phase := by
  obtain ⟨⟨deadline, hfinish⟩, -⟩ := t.finishBlock_spec i wait result
  rw [htask, update_idem, update_self] at hfinish
  refine .of_update hwaits hfinish (fun ha => absurd ha hattempt) ?_
  rintro rfl
  have hwait := hat.2.2
  rw [hwaits.2.2] at hwait
  cases hwait
  by_cases hres : result = 0
  · subst hres
    exact .of_waits hfinish hwaits.1 hwaits.2.1 rfl hattempt
  · obtain ⟨rfl, hreads⟩ := hcode hres rfl
    refine .failed hreads hres ?_ hat.2.1 hplace
    simp [Ends, finishBlock, hres, endCall, leave, hlog]

omit hwaits in
lemma State.reply_eq {entry : EndpointState Msg} (hlook : s.entry call.recv.id = some entry) :
    s.reply call = entry.queue.messages.find? call.accepts := by
  simp [reply, queued, hlook]

lemma State.Waits.ne_of_at {pc : Pc} (hat : s.At i pc)
    (hpc : pc ≠ .waiting (.call call) phase) : i ≠ slot := by
  rintro rfl
  exact hpc (hat.2.2.symm.trans hwaits.2.2)

lemma State.Waits.call_eq {call' : Call} (hat : s.At i (.waiting (.call call') phase'))
    (hi : i = slot) : call' = call ∧ phase' = phase := by
  subst hi
  cases hat.2.2.symm.trans hwaits.2.2
  exact ⟨rfl, rfl⟩

end

/-- **Every step lets a Call go on or ends it in one of six ways.** -/
theorem Effect.callMove (hlives : Lives s) (h : Effect s a s')
    (hwaits : s.Waits slot (.call call) phase) : CallMove s s' a slot call phase := by
  have hkilled : ∀ {i}, (s.task i).killStage ≠ none → i ≠ slot := by
    rintro i hstage rfl
    exact hwaits.2.1 (hlives.stage i hstage).2
  cases h with
  | refused _ hoffers | queued _ _ _ _ _ _ hoffers =>
    exact .of_same hwaits rfl (by rintro rfl; cases hoffers)
  | callQueued _ i _ _ _ _ _ hoffers hat =>
    exact .of_update hwaits rfl (by rintro rfl; cases hoffers)
      fun hi => absurd hi (hwaits.ne_of_at hat (by simp))
  | parked _ i _ _ _ _ hact hat | callParked _ i _ _ _ _ hact hat =>
    exact .of_update hwaits rfl (by rintro rfl; cases hact)
      fun hi => absurd hi (hwaits.ne_of_at hat (by simp))
  | recvEntered i _ _ _ hat | sleepEntered i _ hat =>
    exact .of_update hwaits rfl (by simp) fun hi => absurd hi (hwaits.ne_of_at hat (by simp))
  | received i _ _ _ _ _ _ hat | recvEmpty i _ _ _ hat | recvDead i _ _ hat =>
    exact .of_update hwaits rfl Action.attempt.inj
      fun hi => absurd hi (hwaits.ne_of_at hat (by simp))
  | tryReceived | tryEmpty | tryDead | ticked | waiterTaken =>
    exact .of_same hwaits rfl (by simp)
  | replied i call' entry entry' msg hat hlook _ _ hfind =>
    refine .of_update hwaits rfl Action.attempt.inj fun hi => ?_
    obtain ⟨rfl, rfl⟩ := hwaits.call_eq hat hi
    exact .replied msg ((reply_eq hlook).trans hfind) rfl
  | callEmpty i call' entry target hat hlook _ _ hfind htarget htargetAlive =>
    refine .of_update hwaits rfl Action.attempt.inj fun hi => ?_
    obtain ⟨rfl, rfl⟩ := hwaits.call_eq hat hi
    subst hi
    refine .stays .empty ⟨?_, ?_, ?_⟩ fun _ => ⟨(reply_eq hlook).trans hfind,
      aliveId_of_entry htarget htargetAlive⟩
    · simpa [setPc] using hwaits.1
    · simpa [setPc] using hwaits.2.1
    · simp [setPc]
  | replyDead i call' entry hat hlook _ _ hfind =>
    refine .of_update hwaits rfl Action.attempt.inj fun hi => ?_
    obtain ⟨rfl, rfl⟩ := hwaits.call_eq hat hi
    exact .replyDead ((reply_eq hlook).trans hfind) rfl
  | callOwnDead i call' hat hdead =>
    refine .of_update hwaits rfl Action.attempt.inj fun hi => ?_
    obtain ⟨rfl, rfl⟩ := hwaits.call_eq hat hi
    exact .ownDead hdead rfl
  | callTimedOut i call' hat hdeadline hexpired =>
    refine .of_update hwaits rfl (by simp) fun hi => ?_
    obtain ⟨rfl, rfl⟩ := hwaits.call_eq hat hi
    exact .timedOut hdeadline hexpired rfl
  | timedOut i wait hat hcall =>
    refine .of_update hwaits rfl (by simp) fun hi => absurd hi (hwaits.ne_of_at hat ?_)
    rintro ⟨⟩
    exact hcall call rfl
  | armed i wait deadline hat =>
    refine .of_update hwaits rfl (by simp) ?_
    rintro rfl
    cases hat.2.2.symm.trans hwaits.2.2
    exact .of_waits rfl hwaits.1 hwaits.2.1 rfl (by simp)
  | blockPending i wait hat =>
    exact .of_finishBlock hwaits hat rfl rfl (by simp) (fun hne => absurd rfl hne)
      (by rintro ⟨⟩)
  | blockParks i wait hat _ hrun =>
    refine .of_update hwaits rfl (by simp) ?_
    rintro rfl
    cases hat.2.2.symm.trans hwaits.2.2
    exact .of_waits rfl hwaits.1 (by rintro ⟨⟩) rfl (by simp)
  | blockFails i wait hat hflag hrun =>
    refine .of_finishBlock hwaits hat (update_eq_self i s.task).symm rfl (by simp) ?_
      (by rintro ⟨⟩)
    rintro - rfl
    cases hat.2.2.symm.trans hwaits.2.2
    exact ⟨rfl, .inl ⟨rfl, hflag rfl, hrun⟩⟩
  | resumed i wait hat =>
    refine .of_finishBlock hwaits hat (update_eq_self i s.task).symm rfl (by simp) ?_ fun _ => rfl
    rintro - rfl
    exact ⟨rfl, .inr rfl⟩
  | dispatched i hvalid =>
    refine .of_update hwaits rfl (by simp) ?_
    rintro rfl
    exact .of_waits rfl hvalid (by simp) hwaits.2.2 (by simp)
  | yielded i =>
    refine .of_update hwaits rfl (by simp) ?_
    rintro rfl
    refine .of_waits rfl hwaits.1 ?_ hwaits.2.2 (by simp)
    by_cases hrun : (s.task i).state = .running <;> simp [hrun, hwaits.2.1]
  | delivered index wake =>
    refine .of_update hwaits rfl (by simp) ?_
    intro hi
    have hwake : (s.task wake.slot).wakeBySlot wake.result = { s.task wake.slot with
        wakeupErr := wake.result, wakePending := true, state := .ready } := by
      rw [Task.wakeBySlot, if_pos (hi ▸ ⟨hwaits.1, hwaits.2.1⟩)]
    refine .stays phase ?_ (by simp)
    simp only [Waits, setTask_task, hwake, ← hi, update_self]
    exact ⟨hi ▸ hwaits.1, (by simp), hi ▸ hwaits.2.2⟩
  | timerFired i =>
    refine .of_update hwaits rfl (by simp) ?_
    rintro rfl
    exact .of_waits rfl hwaits.1 hwaits.2.1 hwaits.2.2 (by simp)
  | killed i =>
    refine .of_update hwaits (s.kill_spec i).1 (by simp) ?_
    rintro rfl
    exact .killed rfl (by simp [Ends, kill, hwaits.2.2])
  | awaitCleared i hstage | stageSkipped i _ _ hstage | replyFreed i _ hstage
  | waitersDrained i _ hstage | endpointFreed i _ hstage | released i hstage =>
    exact .of_update hwaits rfl (by simp) fun hi => absurd hi (hkilled (by simp [hstage]))
  | endpointKilled i own life t next _ hstage hkill =>
    obtain ⟨-, htask, -⟩ := killEndpoint_spec hkill
    refine .of_update hwaits (by rw [setStage, setTask_task, htask]) (by simp)
      fun hi => absurd hi (hkilled ?_)
    rcases hstage with ⟨-, h, -⟩ | ⟨-, h, -⟩ <;> simp [h]
  | spawned i _ _ _ t hvalid hspawn =>
    have hne : i ≠ slot := by
      rintro rfl
      cases (hwaits.1.symm.trans hvalid)
    refine .stays phase ?_ (by simp)
    have hsame : s'.task slot = s.task slot := (spawns_of_spawn hspawn).task_eq hne.symm
    rwa [Waits, hsame]

end Moves

end Godspeed.Machine
