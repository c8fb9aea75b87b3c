import Godspeed.Machine.Drive

/-!
# A delivered reply and the death of the peer

A caller waits in `do_call` for a message of its target.  The wait loop looks at
the queue before it looks at its target, so a delivered reply is found first.
But the value `block_and_reschedule` returns is one word per task, written by
whichever wake came last, and the loop returns a non-zero value without looking
at the queue again.

* `reply_lost_to_death` is a run in which a peer that is killed before the caller
  runs takes the reply from it.
* `reply_wins` is what holds when no error code is under way to the caller as its
  reply is queued, and none is delivered to it before it has taken the reply.
-/

namespace Godspeed.Machine

open Ipc Capability Transition State

/-- The task is in the wait loop of a Call, and a message of its target is queued. -/
def State.replyQueued (s : State) (slot : Slot) : Bool :=
  match (s.task slot).pc with
  | .waiting (.call call) _ => (s.reply call).isSome
  | _ => false

/-- The order of the wakes: none with an error code is performed for a caller between
the enqueue of its reply and the pass that takes it. -/
def SparesReplies (s : State) : Action → Prop
  | .deliver index => ∀ wake ∈ s.owed[index]?, wake.result ≠ 0 → s.replyQueued wake.slot = false
  | _ => True

instance (s : State) (a : Action) : Decidable (SparesReplies s a) := by
  induction a using Action.casesOn <;> unfold SparesReplies <;> infer_instance

/-- No error code of an earlier wake is under way to the task: the stored code is zero,
or it belongs to an earlier wait and the wake that ends this one overwrites it. -/
def Task.Unspoiled (task : Task) (phase : Phase) : Prop :=
  task.wakeupErr = 0 ∨
    if phase = .parked then task.state = .blockedOnRecv
    else task.onCpu = true → task.state = .running

instance (task : Task) (phase : Phase) : Decidable (task.Unspoiled phase) :=
  inferInstanceAs (Decidable (_ ∨ _))

variable {s : State}

section Stable

variable {s s' : State} {a : Action} {slot : Slot} {call : Call} {phase : Phase} {msg : Msg}

lemma Effect.reply_stable (hground : Ground s) (h : Effect s a s')
    (hwaits : s.Waits slot (.call call) phase) (hreply : s.reply call = some msg)
    (hattempt : a ≠ .attempt slot) : s'.reply call = some msg := by
  obtain ⟨own, -, -, halive⟩ := hwaits.owns hground rfl
  cases hlook : s.entry call.recv.id with
  | none => simp [Alive, life, hlook] at halive
  | some entry =>
    rw [reply_eq hlook] at hreply
    rcases h.waitedEntry hground hwaits rfl hlook with
      ⟨entry', hentry, ⟨hqueue, -⟩ | ⟨new, hqueue, -⟩⟩ | ⟨hact, -⟩
    · rw [reply_eq hentry, hqueue, hreply]
    · -- a message appended behind the reply does not come before it
      rw [reply_eq hentry, hqueue, List.find?_append, hreply]
      rfl
    · exact absurd hact hattempt

/-- Nothing is queued for a caller that is still recorded. -/
lemma not_registered_of_reply (hreply : s.reply call = some msg) :
    ¬ Registered s slot (.call call) := by
  rintro ⟨life, entry, hown, hlook, -, hnone⟩
  cases hown
  rw [reply_eq hlook] at hreply
  obtain ⟨_, ⟨⟩, hrejects⟩ := hnone msg (List.mem_of_find?_eq_some hreply)
  exact absurd (List.find?_some hreply) (by simp [hrejects])

lemma SparesReplies.result_eq (h : SparesReplies s a) {wake : Wake} (hslot : wake.slot = slot)
    (haction : ∃ index, a = .deliver index ∧ s.owed[index]? = some wake)
    (hpc : (s.task slot).pc = .waiting (.call call) phase) (hreply : s.reply call = some msg) :
    wake.result = 0 := by
  obtain ⟨index, rfl, hwake⟩ := haction
  by_contra hcode
  have hqueued := h wake (by simp [hwake]) hcode
  simp [replyQueued, hslot, hpc, hreply] at hqueued

/-- While the reply is queued no error code gets on its way to the caller. -/
lemma Effect.unspoiled (hground : Ground s) (h : Effect s a s') (hspares : SparesReplies s a)
    (hwaits : s.Waits slot (.call call) phase) (hreply : s.reply call = some msg)
    {phase' : Phase} (hwaits' : s'.Waits slot (.call call) phase')
    (hfresh : (s.task slot).Unspoiled phase) : (s'.task slot).Unspoiled phase' := by
  obtain ⟨hvalid, halive, hpc⟩ := hwaits
  obtain ⟨hvalid', halive', hpc'⟩ := hwaits'
  have hmove := h.taskMove slot
  generalize s'.task slot = task' at hmove hvalid' halive' hpc'
  rcases hfresh with hzero | hfresh
  · -- only a wake writes the code
    cases hmove with
    | woken wake _ hslot _ _ haction => exact .inl (hspares.result_eq hslot haction hpc hreply)
    | _ => exact .inl hzero
  cases hmove with
  | same | disarmed =>
    cases hpc.symm.trans hpc'
    exact .inr hfresh
  | enters _ _ hat => exact absurd (hat.2.2.symm.trans hpc) nofun
  | returns | committed => cases hpc'
  | advances wait phase₀ phase₁ _ hat hphase =>
    cases hat.2.2.symm.trans hpc
    cases hpc'
    rcases hphase with ⟨rfl, rfl, -⟩ | ⟨rfl, rfl⟩ <;> exact .inr (by simpa using hfresh)
  | finishes wait phase₀ result _ _ hat =>
    cases hat.2.2.symm.trans hpc
    -- the Call goes on at its dequeue, on the core it has run on
    have hback : phase' = .attempt := by
      rcases Wait.after_cases (.call call) result with huser | ⟨wait', phase₁, hafter, -, -, hback, -⟩
      · rw [huser] at hpc'
        cases hpc'
      · cases hafter.symm.trans hpc'
        exact hback.resolve_right (by simp)
    subst hback
    by_cases hparked : phase = .parked
    · rw [if_pos hparked] at hfresh
      have hoff := ((hground.coherent slot hvalid).blocked (.inl hfresh)).1
      cases hat.2.1.symm.trans hoff
    · rw [if_neg hparked] at hfresh
      exact .inr (by simpa using hfresh)
  | parks wait hat =>
    cases hat.2.2.symm.trans hpc
    cases hpc'
    exact .inr rfl
  | dispatched _ _ hready =>
    cases hpc.symm.trans hpc'
    by_cases hparked : phase = .parked
    · rw [if_pos hparked] at hfresh
      cases hready.symm.trans hfresh
    · exact .inr (by simp [hparked])
  | yielded =>
    cases hpc.symm.trans hpc'
    by_cases hparked : phase = .parked
    · rw [if_pos hparked] at hfresh
      exact .inr (by simp [hparked, hfresh])
    · exact .inr (by simp [hparked])
  | woken wake _ hslot _ _ haction => exact .inl (hspares.result_eq hslot haction hpc hreply)
  | killed => exact absurd rfl halive'
  | dies _ _ hstage => exact absurd (hground.lives.stage slot hstage).2 halive
  | released => cases hvalid'

end Stable

/-- How a Call may return that has its reply in the queue. -/
def Returned (call : Call) (msg : Msg) (result : CallResult) : Prop :=
  result = replyResult call msg ∨ (result = .timedOut ∧ call.deadline ≠ 0)

/-- How a Call may end that has its reply in the queue. -/
def AnsweredBy (call : Call) (msg : Msg) (result : CallResult) : Prop :=
  Returned call msg result ∨ result = .callerKilled

/-- The invariants of every run that the results about replies rest on. -/
structure Sound (s : State) : Prop extends Ground s where
  notifies : s.Notifies
  book : CallBook s

lemma sound_of_reached {ok : State → Action → Prop} (h : Reached ok s) : Sound s :=
  ⟨ground_of_reached h, notifies_of_reached h, callBook_of_reached h⟩

lemma Effect.sound {s' : State} {a : Action} (hsound : Sound s) (h : Effect s a s') : Sound s' :=
  ⟨h.ground hsound.toGround, h.notifies hsound.toGround hsound.notifies, h.callBook hsound.book⟩

/-- A live caller waits, its reply is queued and no error code is under way to it. -/
structure HasReply (s : State) (slot : Slot) (call : Call) (msg : Msg) (phase : Phase) : Prop where
  sound : Sound s
  waits : s.Waits slot (.call call) phase
  reply : s.reply call = some msg
  fresh : (s.task slot).Unspoiled phase

section Safety

variable {s s' : State} {a : Action} {slot : Slot} {call : Call} {phase : Phase} {msg : Msg}

variable (h : HasReply s slot call msg phase)
include h

lemma HasReply.opened : s.log.outcome call.callId = none :=
  h.sound.book.opened slot call h.waits.1 h.waits.2.1 (by rw [h.waits.2.2]; rfl)

lemma HasReply.not_unreachable :
    ¬ s.routing.table.Unreachable call.recv.id (some call.recv.generation) := by
  obtain ⟨own, -, -, halive⟩ := h.waits.owns h.sound.toGround rfl
  intro hdead
  cases hlook : s.entry call.recv.id with
  | none => simp [Alive, life, hlook] at halive
  | some entry =>
    simp only [Alive, life, hlook, Option.map_some, Option.some.injEq, Prod.mk.injEq] at halive
    have hlive : entry.checkLive (some call.recv.generation) :=
      EndpointState.checkLive_some.mpr ⟨halive.1, halive.2.symm⟩
    cases (hlive.symm.trans (hdead entry hlook))

/-- A block of the caller returns no error. -/
lemma HasReply.wakeupErr_eq (hcpu : (s.task slot).onCpu) (hreads : s.readsCode slot a)
    (hplace : a = .resume slot → phase = .parked) : (s.task slot).wakeupErr = 0 := by
  refine h.fresh.resolve_right fun hfresh => ?_
  by_cases hparked : phase = .parked
  · rw [if_pos hparked] at hfresh
    have hoff := ((h.sound.coherent slot h.waits.1).blocked (.inl hfresh)).1
    cases hcpu.symm.trans hoff
  · rw [if_neg hparked] at hfresh
    rcases hreads with ⟨-, -, hstate⟩ | hact
    · exact hstate (hfresh hcpu)
    · exact hparked (hplace hact)

/-- One step: the reply stays first in line, or the Call returns as it may, or the
caller is killed. -/
lemma HasReply.step (heff : Effect s a s') (hspares : SparesReplies s a) :
    (∃ phase', HasReply s' slot call msg phase') ∨
      (∃ result, s'.log.outcome call.callId = some result ∧ Returned call msg result) ∨
      (a = .kill slot ∧ s'.log.outcome call.callId = some .callerKilled) := by
  have hopen := h.opened
  cases heff.callMove h.sound.lives h.waits with
  | stays phase' hwaits hattempt =>
    refine .inl ⟨phase', heff.sound h.sound, hwaits, ?_,
      heff.unspoiled h.sound.toGround hspares h.waits h.reply hwaits h.fresh⟩
    refine heff.reply_stable h.sound.toGround h.waits h.reply fun ha => ?_
    exact absurd (h.reply.symm.trans (hattempt ha).1) nofun
  | replied msg' hreply hends =>
    cases h.reply.symm.trans hreply
    exact .inr (.inl ⟨_, hends.outcome_eq hopen, .inl rfl⟩)
  | replyDead hreply => exact absurd (h.reply.symm.trans hreply) nofun
  | ownDead hdead => exact absurd hdead h.not_unreachable
  | timedOut hdeadline _ hends =>
    exact .inr (.inl ⟨_, hends.outcome_eq hopen, .inr ⟨rfl, hdeadline⟩⟩)
  | failed hreads hcode _ hcpu hplace => exact absurd (h.wakeupErr_eq hcpu hreads hplace) hcode
  | killed haction hends => exact .inr (.inr ⟨haction, hends.outcome_eq hopen⟩)

end Safety

/-! ## The caller can be brought to take its reply -/

/-- The caller's own steps, the scheduler's for it and the wakes without an error that
are owed to it. -/
def Attends (slot : Slot) : State → Action → Prop := ServesBy (·.result = 0) slot

lemma Attends.spares {s : State} {a : Action} {slot : Slot} (h : Attends slot s a) :
    SparesReplies s a := by
  cases a with
  | deliver index => exact fun wake hwake hcode => absurd (h.2 index wake rfl hwake) hcode
  | _ => trivial

/-- A schedule of such steps brings the Call to return: with the reply, or at its own
deadline. -/
def Finishes (s : State) (slot : Slot) (call : Call) (msg : Msg) : Prop :=
  Attains step (Attends slot) s fun t =>
    ∃ result, t.log.outcome call.callId = some result ∧ Returned call msg result

section Progress

variable {s : State} {slot : Slot} {call : Call} {phase : Phase} {msg : Msg}

lemma drives_hasReply : Drives (·.result = 0) (Attends slot) slot call
    (fun s phase => HasReply s slot call msg phase)
    (fun t => ∃ result, t.log.outcome call.callId = some result ∧ Returned call msg result) where
  serves _ _ h := h
  waits _ _ h := h.waits
  coherent _ _ h := h.sound.coherent
  keeps s phase a s' h hattends heff := by
    have hspares : SparesReplies s a := Attends.spares hattends
    rcases h.step heff hspares with hstill | hended | ⟨rfl, -⟩
    · exact .inl hstill
    · exact .inr hended
    · exact absurd hattends.1 id
  attempt s s' h heff := by
    -- the dequeue finds the reply before anything else
    cases heff.callMove h.sound.lives h.waits with
    | stays _ _ hattempt => exact absurd (h.reply.symm.trans (hattempt rfl).1) nofun
    | replied msg' hreply hends =>
      cases h.reply.symm.trans hreply
      exact ⟨_, hends.outcome_eq h.opened, .inl rfl⟩
    | replyDead hreply => exact absurd (h.reply.symm.trans hreply) nofun
    | ownDead hdead => exact absurd hdead h.not_unreachable
    | timedOut hdeadline _ hends =>
      exact ⟨_, hends.outcome_eq h.opened, .inr ⟨rfl, hdeadline⟩⟩
    | failed hreads => rcases hreads with ⟨ha, -⟩ | ha <;> cases ha
    | killed ha => cases ha
  wake s h hblocked := by
    cases h.sound.notifies slot _ _ call.recv h.waits rfl rfl nofun with
    | standing hregistered => exact absurd hregistered (not_registered_of_reply h.reply)
    | owed wake hwake hslot hzero => exact .here (.inr ⟨h, wake, hwake, hslot, hzero⟩)
    | pending hphase => exact absurd rfl hphase
    | woken _ hwoken => exact absurd hblocked hwoken

/-- **A caller whose reply is queued can be brought to return.** -/
theorem HasReply.finishes (h : HasReply s slot call msg phase) : Finishes s slot call msg :=
  drives_hasReply.finishes h

end Progress

/-- **A delivered reply wins.**  From any reached state in which it is queued and no error
code is under way to the caller, as long as none is delivered to it: the reply stays first
in line and the caller can be brought to take it, or the Call has ended as it may. -/
theorem reply_wins {s t : State} {slot : Slot} {call : Call} {phase : Phase} {msg : Msg}
    (hreached : Reached Free s) (hwaits : s.Waits slot (.call call) phase)
    (hreply : s.reply call = some msg) (hfresh : (s.task slot).Unspoiled phase)
    (hrun : Reaches step SparesReplies s t) :
    ((∃ phase', t.Waits slot (.call call) phase' ∧ t.reply call = some msg) ∧
        Finishes t slot call msg) ∨
      ∃ result, t.log.outcome call.callId = some result ∧ AnsweredBy call msg result := by
  have hinv : (∃ phase', HasReply t slot call msg phase') ∨
      ∃ result, t.log.outcome call.callId = some result ∧ AnsweredBy call msg result := by
    refine hrun.invariant (I := fun u => (∃ phase', HasReply u slot call msg phase') ∨
      ∃ result, u.log.outcome call.callId = some result ∧ AnsweredBy call msg result)
      (.inl ⟨phase, sound_of_reached hreached, hwaits, hreply, hfresh⟩) ?_
    rintro u a u' (⟨phase', hu⟩ | ⟨result, houtcome, hanswered⟩) hspares hstep
    · rcases hu.step (effect_of_step hstep) hspares with
        hstill | ⟨result, houtcome, hreturned⟩ | ⟨-, hkilled⟩
      · exact .inl hstill
      · exact .inr ⟨result, houtcome, .inl hreturned⟩
      · exact .inr ⟨_, hkilled, .inr rfl⟩
    · exact .inr ⟨result, (effect_of_step hstep).outcome_stable houtcome, hanswered⟩
  rcases hinv with ⟨phase', ht⟩ | hended
  · exact .inl ⟨⟨phase', ht.waits, ht.reply⟩, ht.finishes⟩
  · exact .inr hended

/-! ## A reply that loses, and one that wins -/

/-- The caller in slot `0` has called the peer in slot `1` and is parked; the
peer has taken the request and sent its reply. -/
def answered : List Action :=
  [.spawn 0 0 true true, .spawn 1 1 true true, .dispatch 0, .dispatch 1,
    .call 0 ⟨102, 3⟩ .endpoint 0 0 4096, .attempt 0, .test 0, .block 0,
    .recv 1 .endpoint none, .attempt 1, .send 1 100 1 5]

/-- The Call of `answered`. -/
def answeredCall : Call := ⟨0, ⟨100, 1⟩, ⟨102, 3⟩, 0, 4096⟩

/-- The reply of `answered`. -/
def answeredReply : Msg := ⟨102, 5, 1, 100, 3⟩

/-- Before the kill: the caller is parked, its reply queued and the peer alive. -/
def State.isAnswered (s : State) : Bool :=
  (s.task 0).valid && decide ((s.task 0).state ≠ .dead) &&
    decide ((s.task 0).pc = .waiting (.call answeredCall) .parked) &&
    decide (s.reply answeredCall = some answeredReply) &&
    decide (s.life 102 = some (.alive, 3))

lemma State.waits_of_isAnswered (h : s.isAnswered) :
    s.Waits 0 (.call answeredCall) .parked ∧ s.reply answeredCall = some answeredReply ∧
      s.Alive answeredCall.target := by
  simp only [isAnswered, Bool.and_eq_true, decide_eq_true_eq] at h
  obtain ⟨⟨⟨⟨hvalid, halive⟩, hpc⟩, hreply⟩, hlife⟩ := h
  exact ⟨⟨hvalid, halive, hpc⟩, hreply, hlife⟩

/-- The wake of the reply is performed, the peer is killed and its drain wakes
the caller once more before it runs: the Call ends with `ReplyDead`, and the
reply is still queued. -/
theorem reply_lost_to_death : ∃ s t, Reached Free s ∧
    s.Waits 0 (.call answeredCall) .parked ∧ s.reply answeredCall = some answeredReply ∧
    s.Alive answeredCall.target ∧ Reaches step Free s t ∧
    t.log.outcome answeredCall.callId = some (.failed IpcError.replyDead.code) ∧
    t.reply answeredCall = some answeredReply := by
  obtain ⟨s, hs, hanswered, hrest⟩ : ∃ s, Reached Free s ∧ s.isAnswered ∧
      (runs step Free s
        [.deliver 0, .kill 1, .killStep 1, .killStep 1, .killStep 1, .killStep 1, .killStep 1,
          .deliver 0, .dispatch 0, .resume 0]).any (fun t =>
        t.log.outcome 0 = some (.failed IpcError.replyDead.code) ∧
          t.reply answeredCall = some answeredReply) :=
    exists_reaches answered (by decide +kernel)
  obtain ⟨t, ht, hend⟩ := exists_reaches _ hrest
  obtain ⟨hwaits, hreply, halive⟩ := waits_of_isAnswered hanswered
  exact ⟨s, t, hs, hwaits, hreply, halive, ht, hend⟩

/-- The peer is killed and its drain decides to wake the caller, but the caller runs on the
wake of the reply first: the reply is still there to be taken. -/
theorem reply_wins_over_death : ∃ s t, Reached Free s ∧
    s.Waits 0 (.call answeredCall) .parked ∧ s.reply answeredCall = some answeredReply ∧
    (s.task 0).Unspoiled .parked ∧ Reaches step SparesReplies s t ∧
    (t.task 1).state = .dead ∧ ⟨0, IpcError.replyDead.code, 102⟩ ∈ t.owed ∧
    (((∃ phase, t.Waits 0 (.call answeredCall) phase ∧ t.reply answeredCall = some answeredReply) ∧
        Finishes t 0 answeredCall answeredReply) ∨
      ∃ result, t.log.outcome answeredCall.callId = some result ∧
        AnsweredBy answeredCall answeredReply result) := by
  obtain ⟨s, hs, ⟨hanswered, hfresh⟩, hrest⟩ : ∃ s, Reached Free s ∧
      (s.isAnswered ∧ (s.task 0).Unspoiled .parked) ∧
      (runs step SparesReplies s
        [.kill 1, .killStep 1, .killStep 1, .killStep 1, .killStep 1, .killStep 1, .deliver 0,
          .dispatch 0, .resume 0]).any (fun t =>
        (t.task 1).state = .dead ∧ ⟨0, IpcError.replyDead.code, 102⟩ ∈ t.owed) :=
    exists_reaches answered (by decide +kernel)
  obtain ⟨t, ht, hdead, howed⟩ := exists_reaches _ hrest
  obtain ⟨hwaits, hreply, -⟩ := waits_of_isAnswered hanswered
  exact ⟨s, t, hs, hwaits, hreply, hfresh, ht, hdead, howed,
    reply_wins hs hwaits hreply hfresh ht⟩

/-- **No reply lies unannounced**, in any run: while a caller is blocked and its reply is
queued, a wake for the caller is owed. -/
theorem reply_wake_owed {ok : State → Action → Prop} {s : State} {slot : Slot} {call : Call}
    {msg : Msg} (h : Reached ok s) (hwaits : s.Waits slot (.call call) .parked)
    (hblocked : (s.task slot).state = .blockedOnRecv) (hreply : s.reply call = some msg) :
    ∃ wake ∈ s.owed, wake.slot = slot := by
  cases notifies_of_reached h slot _ _ call.recv hwaits rfl rfl nofun with
  | standing hregistered => exact absurd hregistered (not_registered_of_reply hreply)
  | owed wake hwake hslot => exact ⟨wake, hwake, hslot⟩
  | pending hphase => exact absurd rfl hphase
  | woken _ hstate => exact absurd hblocked hstate

/-- The reply of `answered` is announced. -/
theorem reply_wake_owed_answered : ∃ s, Reached Free s ∧ s.reply answeredCall = some answeredReply ∧
    ∃ wake ∈ s.owed, wake.slot = 0 := by
  obtain ⟨s, hs, hanswered, hblocked⟩ : ∃ s, Reached Free s ∧ s.isAnswered ∧
      (s.task 0).state = .blockedOnRecv := exists_reaches answered (by decide +kernel)
  obtain ⟨hwaits, hreply, -⟩ := waits_of_isAnswered hanswered
  exact ⟨s, hs, hreply, reply_wake_owed hs hwaits hblocked hreply⟩

end Godspeed.Machine
