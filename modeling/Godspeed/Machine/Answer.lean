import Godspeed.Machine.Await
import Godspeed.Machine.Incarnation
import Godspeed.Machine.Reply
import Mathlib.Data.Fintype.Basic
import Mathlib.Data.Finset.Card

/-!
# Who answers a Call

A Call is sent to one life of an endpoint, but its wait tests the liveness of its
target, and recognises the reply, by the id alone.

* `answered_by_later_life` is a run in which the target dies before the caller
  waits, its id is drawn by the next spawn, and the Call returns a message of the
  new owner as its reply.
* `answered_in_its_life` is what holds in every run in which the lives of an id
  are kept apart: the Call never faces a later owner, it ends with a message of
  the life it was sent to or with one of the errors for its end, and once that
  life is over it can be brought to its end.
-/

namespace Godspeed.Machine

open Ipc Capability Transition State Function

/-! ## Callers learn of the death of their target -/

variable (s : State)

/-- A kill of the owner of this id has begun to wake the callers it finds. -/
def State.Draining (id : Nat) : Prop :=
  ∃ victim life, (s.task victim).killStage = some .draining ∧
    (s.task victim).endpoint = some life ∧ life.id = id

/-- The Call is on record, and its target is alive or drains its callers. -/
def Watched (slot : Slot) (wait : Wait) : Prop :=
  ∀ call, wait = .call call → s.routing.callAwait slot = call.target.id ∧
    (s.AliveId call.target.id ∨ s.Draining call.target.id)

/-- Every caller that has left its dequeue learns of the death of its target. -/
def State.Informs : Prop := s.Prompts (fun _ => True) Watched

section Informs

variable {s s' : State} {a : Action} {slot : Slot} {id : Nat}

lemma Effect.aliveId_or_draining (hground : Ground s) (h : Effect s a s')
    (hprimary : s.Primary id) (halive : s.AliveId id) : s'.AliveId id ∨ s'.Draining id := by
  have hstays : ∀ {entry entry'}, s.entry id = some entry → s'.entry id = some entry' →
      entry'.liveness = entry.liveness → s'.AliveId id ∨ s'.Draining id := by
    rintro entry entry' hlook hentry hlive
    obtain ⟨generation, hlife⟩ := halive
    simp only [life, hlook, Option.map_some, Option.some.injEq, Prod.mk.injEq] at hlife
    exact .inl (aliveId_of_entry hentry (hlive.trans hlife.1))
  cases h.entryMove hground.lives hground.still id with
  | same hentry => exact .inl (by simpa [AliveId, life, hentry] using halive)
  | queued _ _ _ hlook _ _ hentry | parked _ _ _ hlook _ _ _ _ hentry
  | registered _ _ _ _ _ hlook hentry => exact hstays hlook hentry rfl
  | taken _ _ _ _ _ _ _ _ hlook _ hrel hentry =>
    exact hstays hlook hentry hrel.liveness
  | killed _ _ victim own life _ hhas _ hid _ _ _ _ _ _ _ hnext =>
    cases own with
    | endpoint =>
      refine .inr ⟨victim, life, ?_, ?_, hid⟩
      · simp [hnext rfl]
      · rw [hnext rfl]
        exact hhas.2
    | reply => exact absurd hid (hprimary victim hhas.1 life hhas.2)
  | renewed _ _ hgone => exact absurd halive hgone
  | vanished _ hlook hdead =>
    obtain ⟨generation, hlife⟩ := halive
    simp [life, hlook, hdead] at hlife

lemma Effect.draining (hlives : Lives s) (h : Effect s a s')
    (hrec : s.routing.callAwait slot = id) (hdraining : s.Draining id) : s'.Draining id := by
  obtain ⟨victim, life, hstage, hlife, rfl⟩ := hdraining
  obtain ⟨hvalid, hdead⟩ := hlives.stage victim (by simp [hstage])
  have hmove := h.taskMove victim
  have hstands : (s'.task victim).killStage = some .draining →
      (s'.task victim).endpoint = some life → s'.Draining life.id := fun hs hl =>
    ⟨victim, life, hs, hl, rfl⟩
  generalize s'.task victim = task' at hmove hstands
  cases hmove with
  | killed _ halive => exact absurd hdead halive
  | dies _ _ _ _ hdrain => exact absurd hrec (hdrain hstage life hlife slot)
  | released _ _ hfreed => exact absurd (hstage.symm.trans hfreed) nofun
  | committed _ _ hinvalid => exact absurd (hinvalid.symm.trans hvalid) nofun
  | _ => exact hstands hstage hlife

lemma Effect.watched_cases (hground : Ground s) (hfaithful : Faithful s) (h : Effect s a s')
    {wait : Wait} {phase : Phase} (hwaits : s.Waits slot wait phase) (hphase : phase ≠ .attempt)
    (hwatched : Watched s slot wait) :
    Watched s' slot wait ∨ ∃ wake ∈ s'.owed, wake.slot = slot ∧ True := by
  by_cases hcall : ∃ call, wait = .call call
  · obtain ⟨call, rfl⟩ := hcall
    obtain ⟨hvalid, halive, hpc⟩ := hwaits
    obtain ⟨hrec, hwatch⟩ := hwatched call rfl
    have hprimary := hfaithful.primary slot call hvalid halive (by rw [hpc]; rfl)
    have hplace : ∀ {call'}, ¬ s.At slot (.waiting (.call call') .attempt) := by
      intro call' hat
      exact hphase (Pc.waiting.inj (hpc.symm.trans hat.2.2)).2
    cases h.awaitMove slot with
    | same hsame =>
      refine .inl ?_
      rintro call' ⟨⟩
      refine ⟨hsame.trans hrec, ?_⟩
      rcases hwatch with halive' | hdraining
      · exact h.aliveId_or_draining hground hprimary halive'
      · exact .inr (h.draining hground.lives hrec hdraining)
    | left _ call' hat | set _ call' hat => exact absurd hat hplace
    | dying _ hstage => exact absurd (hground.lives.stage slot hstage).2 halive
    | drained _ wake hwake hslot => exact .inr ⟨wake, hwake, hslot, trivial⟩
  · exact .inl fun call heq => absurd ⟨call, heq⟩ hcall

lemma Effect.informs (hground : Ground s) (hfaithful : Faithful s) (h : Effect s a s')
    (hinforms : s.Informs) : s'.Informs := by
  refine h.prompts hground (fun slot wait _ hwatches call hcall => ?_)
    (fun _ _ _ hwaits hphase => h.watched_cases hground hfaithful hwaits hphase) hinforms
  obtain ⟨hrec, entry, hlook, halive⟩ := hwatches call hcall
  exact ⟨hrec, .inl (aliveId_of_entry hlook halive)⟩

end Informs

/-! ## The codes a wake carries -/

/-- The results the kernel wakes a task with. -/
def KnownCode (code : Int) : Prop :=
  code = 0 ∨ code = IpcError.endpointDead.code ∨ code = IpcError.replyDead.code

/-- Every wake owed and every stored code is known. -/
structure KnownCodes (s : State) : Prop where
  owed : ∀ wake ∈ s.owed, KnownCode wake.result
  stored : ∀ slot, KnownCode (s.task slot).wakeupErr

lemma Effect.knownCodes {s s' : State} {a : Action} (h : Effect s a s')
    (hcodes : KnownCodes s) : KnownCodes s' := by
  constructor
  · intro wake hwake
    rcases h.wake_cases hwake with hold | hnew
    · exact hcodes.owed wake hold
    cases hnew with
    | receiver _ _ _ _ hres =>
      rcases hres with hzero | hdead
      · exact .inl hzero
      · exact .inr (.inl hdead)
    | sender _ _ _ _ hres =>
      rcases hres with ⟨hzero, -⟩ | hdead
      · exact .inl hzero
      · exact .inr (.inl hdead)
    | timer _ hres => exact .inl hres
    | drain _ _ _ _ _ hres => exact .inr (.inr (congrArg Wake.result hres))
  · intro slot
    have hmove := h.taskMove slot
    generalize s'.task slot = task' at hmove
    cases hmove with
    | woken wake hwake => exact hcodes.owed wake hwake
    | _ => exact hcodes.stored slot

/-! ## Requests go to the target -/

/-- A parked request is parked at the target of its Call. -/
def State.Requests : Prop :=
  ∀ slot id msg call phase, (s.task slot).pc = .waiting (.send id msg (some call)) phase →
    id = call.target.id

lemma Effect.requests {s s' : State} {a : Action} (h : Effect s a s') (hrequests : s.Requests) :
    s'.Requests := by
  intro slot id msg call phase hpc
  have hmove := h.taskMove slot
  generalize s'.task slot = task' at hmove hpc
  cases hmove with
  | enters wait phase' _ _ _ _ _ _ _ hrequest =>
    cases hpc
    exact hrequest id msg call rfl
  | returns | committed => cases hpc
  | advances wait phase₀ phase' deadline hat =>
    cases hpc
    exact hrequests slot id msg call phase₀ hat.2.2
  | finishes wait phase₀ result deadline pending hat =>
    rcases wait.after_cases result with huser | ⟨wait', phase', hafter, -, -, -, hrecv⟩
    · cases huser.symm.trans hpc
    · cases hafter.symm.trans hpc
      cases hrecv
  | parks wait hat =>
    cases hpc
    exact hrequests slot id msg call .block hat.2.2
  | _ => exact hrequests slot id msg call phase hpc

/-! ## How a Call ends -/

/-- How a Call may end: with a message of the life it was sent to, with the error
for its end or for that of the caller's own endpoint, at its deadline, or with the
caller. -/
def EndsInLife (call : Call) (result : CallResult) : Prop :=
  (∃ msg, result = replyResult call msg ∧ msg.senderEp = call.target.id ∧
      msg.senderGen = call.target.generation) ∨
    result = .failed IpcError.replyDead.code ∨ result = .failed IpcError.endpointDead.code ∨
    (result = .timedOut ∧ call.deadline ≠ 0) ∨ result = .callerKilled

/-- The invariants of the runs in which the lives of an id are kept apart. -/
structure Answering (s : State) : Prop extends Sound s where
  faithful : Faithful s
  informs : s.Informs
  senders : s.KeepsSenders
  codes : KnownCodes s
  requests : s.Requests

section Ends

variable {s s' : State} {a : Action} {slot : Slot} {call : Call} {result : CallResult}

lemma Effect.answering (h : Effect s a s') (hone : OneLife s a) (hs : Answering s) :
    Answering s' where
  toSound := h.sound hs.toSound
  faithful := h.faithful hs.toGround hone hs.faithful
  informs := h.informs hs.toGround hs.faithful hs.informs
  senders := h.keepsSenders hs.toGround hone.1 hs.senders
  codes := h.knownCodes hs.codes
  requests := h.requests hs.requests

lemma answering_of_reached (h : Reached OneLife s) : Answering s := by
  have hboot : Reached OneLife boot := .refl
  refine h.invariant ⟨sound_of_reached hboot, faithful_of_reached hboot, ?_,
    keepsSenders_of_reached .refl, ⟨nofun, fun _ => .inl rfl⟩, ?_⟩ ?_
  · rintro slot wait phase life ⟨hvalid, -⟩
    cases hvalid
  · intro slot id msg call phase hpc
    cases hpc
  · exact fun t a t' ht hone hstep => (effect_of_step hstep).answering hone ht

lemma KnownCodes.endsInLife (h : KnownCodes s) (hcode : (s.task slot).wakeupErr ≠ 0) :
    EndsInLife call (.failed (s.task slot).wakeupErr) := by
  rcases h.stored slot with hzero | hdead | hreply
  · exact absurd hzero hcode
  · exact .inr (.inr (.inl (by rw [hdead])))
  · exact .inr (.inl (by rw [hreply]))

lemma Faithful.reply_eq (h : Faithful s) (hvalid : (s.task slot).valid)
    (hlive : (s.task slot).state ≠ .dead) (hcall : (s.task slot).pc.call? = some call) {msg : Msg}
    (hreply : s.reply call = some msg) :
    msg.senderEp = call.target.id ∧ msg.senderGen = call.target.generation := by
  have haccepts : msg.senderEp = call.target.id := by
    simpa [Call.accepts] using List.find?_some hreply
  have hmem : msg ∈ s.queued call.recv.id ++ s.pending call.recv.id :=
    List.mem_append_left _ (List.mem_of_find?_eq_some hreply)
  refine ⟨haccepts, ?_⟩
  calc msg.senderGen = s.log.lifeGen msg.senderEp := h.message _ msg hmem
    _ = s.log.lifeGen call.target.id := by rw [haccepts]
    _ = call.target.generation := (h.target slot call hvalid hlive hcall).symm

/-- A Call in progress waits for its reply, or its request is still parked. -/
lemma Pc.call_cases {pc : Pc} (h : pc.call? = some call) :
    (∃ phase, pc = .waiting (.call call) phase) ∨
      ∃ id msg phase, pc = .waiting (.send id msg (some call)) phase := by
  cases pc with
  | user => cases h
  | waiting wait phase =>
    cases wait with
    | recv own deadline | sleep deadline => cases h
    | call call' =>
      cases h
      exact .inl ⟨phase, rfl⟩
    | send id msg next =>
      cases h
      exact .inr ⟨id, msg, phase, rfl⟩

/-- **Whatever step ends a Call ends it as it may.** -/
theorem Answering.endsInLife (hs : Answering s) (h : Effect s a s')
    (hvalid : (s.task slot).valid) (hlive : (s.task slot).state ≠ .dead)
    (hcall : (s.task slot).pc.call? = some call)
    (hout : s'.log.outcome call.callId = some result) : EndsInLife call result := by
  have hopen := hs.book.opened slot call hvalid hlive hcall
  have hres : ∀ {outcome}, s'.log.outcome call.callId = some outcome → outcome = result :=
    fun hnow => Option.some.inj (hnow.symm.trans hout)
  rcases Pc.call_cases hcall with ⟨phase, hpc⟩ | ⟨id, msg, phase, hpc⟩
  · have hwaits : s.Waits slot (.call call) phase := ⟨hvalid, hlive, hpc⟩
    cases h.callMove hs.lives hwaits with
    | stays phase' hwaits' =>
      have hstill := (h.callBook hs.book).opened slot call hwaits'.1 hwaits'.2.1
        (by rw [hwaits'.2.2]; rfl)
      cases (hstill.symm.trans hout)
    | replied msg hreply hends =>
      cases hres (hends.outcome_eq hopen)
      exact .inl ⟨msg, rfl, hs.faithful.reply_eq hvalid hlive (by rw [hpc]; rfl) hreply⟩
    | replyDead _ hends =>
      cases hres (hends.outcome_eq hopen)
      exact .inr (.inl rfl)
    | ownDead _ hends =>
      cases hres (hends.outcome_eq hopen)
      exact .inr (.inr (.inl rfl))
    | timedOut hdeadline _ hends =>
      cases hres (hends.outcome_eq hopen)
      exact .inr (.inr (.inr (.inl ⟨rfl, hdeadline⟩)))
    | failed _ hcode hends =>
      cases hres (hends.outcome_eq hopen)
      exact hs.codes.endsInLife hcode
    | killed _ hends =>
      cases hres (hends.outcome_eq hopen)
      exact .inr (.inr (.inr (.inr rfl)))
  · -- the request is still parked: only its block or a kill ends the Call
    cases h.outcomeMove with
    | same hsame => cases ((hsame ▸ hopen).symm.trans hout)
    | concluded slot' call' result' hcall' hconcluded _ hrequest =>
      by_cases hslot : slot = slot'
      · subst hslot
        cases hcall.symm.trans hcall'
        have hnow : s'.log.outcome call.callId = some result' := by
          rw [hconcluded]
          simp [Log.conclude, hopen]
        cases hres hnow
        rcases hrequest id msg phase hpc with ⟨hcode, rfl⟩ | rfl
        · exact hs.codes.endsInLife hcode
        · exact .inr (.inr (.inr (.inr rfl)))
      · rw [hconcluded, outcome_conclude_of_ne
          (hs.book.ne slot slot' call call' hcall hcall' hslot)] at hout
        cases (hopen.symm.trans hout)

end Ends

/-! ## The end of a Call whose target is gone -/

/-- The steps that conclude a Call: those that serve the caller, and those of a
kill that is under way. -/
def Concludes (slot : Slot) (s : State) (a : Action) : Prop :=
  Serves slot s a ∨ ∃ victim, a = .killStep victim

def State.Ended (call : Call) : Prop :=
  ∃ result, s.log.outcome call.callId = some result ∧ EndsInLife call result

section Concludes

variable {s s' : State} {a : Action} {slot : Slot} {call : Call} {phase : Phase}

lemma Concludes.oneLife (h : Concludes slot s a) : OneLife s a ∧ a.draws s = [] := by
  rcases h with hserves | ⟨victim, rfl⟩
  · cases a <;> first
      | exact ⟨⟨trivial, nofun, nofun⟩, rfl⟩
      | cases hserves
  · exact ⟨⟨trivial, nofun, nofun⟩, rfl⟩

structure Bereft (s : State) (call : Call) : Prop extends Answering s where
  gone : ¬ s.AliveId call.target.id

lemma Bereft.next (h : Bereft s call) (hconcludes : Concludes slot s a)
    (heff : Effect s a s') : Bereft s' call := by
  obtain ⟨hone, hdraws⟩ := hconcludes.oneLife
  refine ⟨heff.answering hone h.toAnswering, ?_⟩
  rintro ⟨generation, halive⟩
  have hlife : s'.Alive ⟨call.target.id, generation⟩ := halive
  rcases heff.alive_cases h.toGround hlife with hold | ⟨-, hdrawn⟩
  · exact h.gone hold.aliveId
  · rw [hdraws] at hdrawn
    cases hdrawn

/-- A caller in its wait loop whose target is gone. -/
structure Orphaned (s : State) (slot : Slot) (call : Call) (phase : Phase) : Prop
    extends Bereft s call where
  waits : s.Waits slot (.call call) phase

lemma Orphaned.call_eq (h : Orphaned s slot call phase) : (s.task slot).pc.call? = some call := by
  rw [h.waits.2.2]
  rfl

/-- One concluding step: the caller keeps waiting, and not past its dequeue, or
its Call has ended. -/
lemma Orphaned.next (h : Orphaned s slot call phase) (hconcludes : Concludes slot s a)
    (heff : Effect s a s') :
    (a ≠ .attempt slot ∧ ∃ phase', Orphaned s' slot call phase') ∨ s'.Ended call := by
  have hopen := h.book.opened slot call h.waits.1 h.waits.2.1 h.call_eq
  have hended : ∀ {result}, Ends s s' call result → s'.Ended call := fun hends =>
    ⟨_, hends.outcome_eq hopen, h.endsInLife heff h.waits.1 h.waits.2.1 h.call_eq
      (hends.outcome_eq hopen)⟩
  cases heff.callMove h.lives h.waits with
  | stays phase' hwaits hattempt =>
    refine .inl ⟨fun hact => h.gone (hattempt hact).2, phase', ?_, hwaits⟩
    exact h.toBereft.next hconcludes heff
  | replied _ _ hends | replyDead _ hends | ownDead _ hends | timedOut _ _ hends
  | failed _ _ hends | killed _ hends => exact .inr (hended hends)

/-- The tasks on record for an endpoint. -/
def State.waiters (s : State) (id : Nat) : Finset Slot :=
  Finset.univ.filter fun slot => s.routing.callAwait slot = id

lemma step_drain {victim : Slot} {life : Incarnation}
    (hstage : (s.task victim).killStage = some .draining)
    (hlife : (s.task victim).endpoint = some life) (hrec : s.routing.callAwait slot = life.id) :
    ∃ waiter s', step s (.killStep victim) = some s' ∧ s.routing.callAwait waiter = life.id ∧
      s'.task = s.task ∧
      s'.routing.callAwait = update s.routing.callAwait waiter 0 ∧
      (waiter ≠ victim → ⟨waiter, IpcError.replyDead.code, life.id⟩ ∈ s'.owed) := by
  cases hfind : (List.finRange maxTasks).find? fun i => s.routing.callAwait i == life.id with
  | none =>
    have hnone := List.find?_eq_none.mp hfind slot (List.mem_finRange slot)
    simp [hrec] at hnone
  | some waiter =>
    have hwaiter : s.routing.callAwait waiter = life.id := by
      simpa using List.find?_some hfind
    by_cases hself : waiter = victim
    · refine ⟨waiter, { s with routing := s.routing.setCallAwait waiter 0 }, ?_, hwaiter, rfl,
        rfl, fun hne => absurd hself hne⟩
      simp [step, hstage, killStep, hlife, Routing.takeCallWaiter, hfind, hself]
    · refine ⟨waiter, { s with
        routing := s.routing.setCallAwait waiter 0
        owed := s.owed ++ [⟨waiter, IpcError.replyDead.code, life.id⟩] }, ?_, hwaiter, rfl,
        rfl, fun _ => by simp⟩
      simp [step, hstage, killStep, hlife, Routing.takeCallWaiter, hfind, hself]

lemma Orphaned.attains_wake (h : Orphaned s slot call .parked)
    (hrec : s.routing.callAwait slot = call.target.id) (hdraining : s.Draining call.target.id) :
    Attains step (Concludes slot) s fun t => t.Ended call ∨
      (Orphaned t slot call .parked ∧ ∃ wake ∈ t.owed, wake.slot = slot ∧ True) := by
  induction hcount : (s.waiters call.target.id).card using Nat.strong_induction_on generalizing s with
  | _ n ih =>
    obtain ⟨victim, life, hstage, hlife, hid⟩ := hdraining
    obtain ⟨hvalid, hdead⟩ := h.lives.stage victim (by simp [hstage])
    have hranged := h.lives.ranged victim .endpoint life ⟨hvalid, hlife⟩
    obtain ⟨waiter, s', hstep, hwaiter, htask, hawait, howed⟩ :=
      step_drain hstage hlife (hrec.trans hid.symm)
    have hconcludes : Concludes slot s (.killStep victim) := .inr ⟨victim, rfl⟩
    have hnext : Orphaned s' slot call .parked := by
      refine ⟨h.toBereft.next hconcludes (effect_of_step hstep), ?_⟩
      simpa [Waits, htask] using h.waits
    have hvictim : slot ≠ victim := by
      rintro rfl
      exact h.waits.2.1 hdead
    refine .after hconcludes hstep ?_
    by_cases hslot : waiter = slot
    · subst hslot
      exact .here (.inr ⟨hnext, _, howed hvictim, rfl, trivial⟩)
    -- another task was taken off the record; the drain goes on
    refine ih _ ?_ hnext ?_ ⟨victim, life, by rw [htask]; exact hstage,
      by rw [htask]; exact hlife, hid⟩ rfl
    · rw [← hcount]
      refine Finset.card_lt_card (Finset.ssubset_iff_of_subset ?_ |>.mpr ⟨waiter, ?_, ?_⟩)
      · intro i hi
        simp only [waiters, Finset.mem_filter, hawait, update_apply] at hi ⊢
        split at hi
        · have : 0 < firstEndpointId := by decide
          omega
        · exact hi
      · simp [waiters, hwaiter, hid]
      · have : 0 < firstEndpointId := by decide
        simp only [waiters, Finset.mem_filter, hawait, update_self]
        omega
    · rw [hawait, update_of_ne (Ne.symm hslot), hrec]

lemma drives_orphaned : Drives (fun _ => True) (Concludes slot) slot call
    (fun s phase => Orphaned s slot call phase) (fun t => t.Ended call) where
  serves _ _ h := .inl h.1
  waits _ _ h := h.waits
  coherent _ _ h := h.coherent
  keeps s phase a s' h hserves heff := by
    rcases h.next (.inl hserves.1) heff with ⟨-, hstill⟩ | hended
    · exact .inl hstill
    · exact .inr hended
  attempt s s' h heff := by
    have hserves : Serves slot s (.attempt slot) := rfl
    rcases h.next (.inl hserves) heff with ⟨hne, -⟩ | hended
    · exact absurd rfl hne
    · exact hended
  wake s h hblocked := by
    cases h.informs slot _ _ call.recv h.waits rfl rfl nofun with
    | standing hwatched =>
      obtain ⟨hrec, halive | hdraining⟩ := hwatched call rfl
      · exact absurd halive h.gone
      · exact h.attains_wake hrec hdraining
    | owed wake hwake hslot hfit => exact .here (.inr ⟨h, wake, hwake, hslot, hfit⟩)
    | pending hphase => exact absurd rfl hphase
    | woken _ hwoken => exact absurd hblocked hwoken

end Concludes

/-! ## A request that is still parked -/

/-- A caller whose request is parked at a target that is gone. -/
structure Parted (s : State) (slot : Slot) (call : Call) (msg : Msg) (phase : Phase) : Prop
    extends Bereft s call where
  waits : s.Waits slot (.send call.target.id msg (some call)) phase

namespace Parted

variable {s s' : State} {a : Action} {slot : Slot} {call : Call} {msg : Msg} {phase : Phase}

/-- The block of the request returns: the Call goes on to its dequeue or has
ended. -/
lemma of_return (h : Parted s slot call msg phase) (hserves : Serves slot s a)
    (hstep : step s a = some (s.finishBlock slot (.send call.target.id msg (some call))
      (s.task slot).wakeupErr)) :
    Attains step (Concludes slot) s fun t => t.Ended call := by
  have heff := effect_of_step hstep
  have hcall : (s.task slot).pc.call? = some call := by
    rw [h.waits.2.2]
    rfl
  have hopen := h.book.opened slot call h.waits.1 h.waits.2.1 hcall
  refine .after (.inl hserves) hstep ?_
  by_cases hcode : (s.task slot).wakeupErr = 0
  · have hnext : Orphaned (s.finishBlock slot (.send call.target.id msg (some call))
        (s.task slot).wakeupErr) slot call .attempt := by
      refine ⟨h.toBereft.next (.inl hserves) heff, ?_⟩
      simp [Waits, finishBlock, hcode, setPc, h.waits.1, h.waits.2.1]
    exact drives_orphaned.finishes hnext
  · have hout : (s.finishBlock slot (.send call.target.id msg (some call))
        (s.task slot).wakeupErr).log.outcome call.callId =
        some (.failed (s.task slot).wakeupErr) := by
      simp [finishBlock, hcode, setPc, Log.conclude, hopen]
    exact .here ⟨_, hout, h.codes.endsInLife hcode⟩

lemma next (h : Parted s slot call msg phase) (hserves : Serves slot s a)
    (hstep : step s a = some s') {phase' : Phase}
    (hwaits : s'.Waits slot (.send call.target.id msg (some call)) phase') :
    Parted s' slot call msg phase' :=
  ⟨h.toBereft.next (.inl hserves) (effect_of_step hstep), hwaits⟩

section

variable (h : Parted s slot call msg .parked)
include h

lemma of_resume (hcpu : (s.task slot).onCpu) :
    Attains step (Concludes slot) s fun t => t.Ended call := by
  obtain ⟨hvalid, -, hpc⟩ := h.waits
  have hat : s.At slot (.waiting (.send call.target.id msg (some call)) .parked) :=
    ⟨hvalid, hcpu, hpc⟩
  have hserves : Serves slot s (.resume slot) := rfl
  exact h.of_return hserves (by simp [step, hpc, hat])

lemma of_ready (hcpu : (s.task slot).onCpu = false) (hready : (s.task slot).state = .ready) :
    Attains step (Concludes slot) s fun t => t.Ended call := by
  obtain ⟨hvalid, -, hpc⟩ := h.waits
  have hserves : Serves slot s (.dispatch slot) := rfl
  have hstep : step s (.dispatch slot) = some (s.setTask slot { s.task slot with
      state := .running, onCpu := true }) := by
    simp [step, hvalid, hcpu, hready]
  have hnext : Parted _ slot call msg .parked := h.next hserves hstep (by simp [Waits, hvalid, hpc])
  exact .after (.inl hserves) hstep (hnext.of_resume (by simp))

lemma of_parked : Attains step (Concludes slot) s fun t => t.Ended call := by
  obtain ⟨hvalid, halive, hpc⟩ := h.waits
  have hcoh := h.coherent slot hvalid
  cases hcpu : (s.task slot).onCpu with
  | true => exact h.of_resume hcpu
  | false =>
    cases hstate : (s.task slot).state with
    | ready => exact h.of_ready hcpu hstate
    | running => exact absurd ((hcoh.running hstate).symm.trans hcpu) nofun
    | dead => exact absurd hstate halive
    | blockedOnRecv =>
      obtain ⟨-, wait, hwait, hblock⟩ := hcoh.blocked (.inl hstate)
      rw [hpc] at hwait
      cases hwait
      cases hstate.symm.trans hblock
    | blockedOnSend =>
      have hsending : s.Sending slot call.target.id msg := ⟨hvalid, some call, .inl ⟨hstate, hpc⟩⟩
      rcases h.senders slot call.target.id msg hsending with hrecords | ⟨⟨wake, hwake, hslot⟩, -⟩
      · obtain ⟨entry, hlook, hentry, -⟩ := hrecords
        exact absurd (aliveId_of_entry hlook hentry) h.gone
      obtain ⟨index, hindex⟩ := List.mem_iff_getElem?.mp hwake
      have hserves : Serves slot s (.deliver index) := ⟨wake, hindex, hslot⟩
      have hstep : step s (.deliver index) =
          some ({ s with owed := s.owed.eraseIdx index }.setTask slot { s.task slot with
            wakeupErr := wake.result, wakePending := true, state := .ready }) := by
        simp [step, hindex, hslot, Task.wakeBySlot, hvalid, halive]
      have hnext : Parted _ slot call msg .parked :=
        h.next hserves hstep (by simp [Waits, hvalid, hpc])
      exact .after (.inl hserves) hstep (hnext.of_ready (by simpa using hcpu) (by simp))

end

lemma of_block (h : Parted s slot call msg .block) (hcpu : (s.task slot).onCpu) :
    Attains step (Concludes slot) s fun t => t.Ended call := by
  obtain ⟨hvalid, halive, hpc⟩ := h.waits
  have hat : s.At slot (.waiting (.send call.target.id msg (some call)) .block) :=
    ⟨hvalid, hcpu, hpc⟩
  have hserves : Serves slot s (.block slot) := rfl
  have hstep : step s (.block slot) =
      some (s.block slot (.send call.target.id msg (some call))) := by
    simp [step, hpc, hat]
  by_cases hrun : (s.task slot).state = .running
  · have hblock : s.block slot (.send call.target.id msg (some call)) =
        s.setTask slot { s.task slot with
          state := .blockedOnSend
          onCpu := false
          pc := .waiting (.send call.target.id msg (some call)) .parked } := by
      simp [block, Task.blockAndReschedule, Wait.blockState, hrun]
    rw [hblock] at hstep
    have hnext : Parted _ slot call msg .parked := h.next hserves hstep (by simp [Waits, hvalid])
    exact .after (.inl hserves) hstep hnext.of_parked
  · refine h.of_return hserves (hstep.trans ?_)
    simp [block, Task.blockAndReschedule, Wait.blockState, hrun, setTask]

end Parted

/-- **A Call whose target is gone can be brought to its end.** -/
theorem Bereft.attains_ended {s : State} {slot : Slot} {call : Call} (h : Bereft s call)
    (hvalid : (s.task slot).valid) (hlive : (s.task slot).state ≠ .dead)
    (hcall : (s.task slot).pc.call? = some call) :
    Attains step (Concludes slot) s fun t => t.Ended call := by
  rcases Pc.call_cases hcall with ⟨phase, hpc⟩ | ⟨id, msg, phase, hpc⟩
  · exact drives_orphaned.finishes ⟨h, hvalid, hlive, hpc⟩
  · cases h.requests slot id msg call phase hpc
    have hparted : Parted s slot call msg phase := ⟨h, hvalid, hlive, hpc⟩
    rcases (h.coherent slot hvalid).sending _ _ _ phase hpc with ⟨rfl, hcpu⟩ | rfl
    · exact hparted.of_block hcpu
    · exact hparted.of_parked

/-- The Call of `awaiting`. -/
def awaitedCall (deadline : Nat) : Call := ⟨0, ⟨100, 1⟩, ⟨102, 3⟩, deadline, 4096⟩

end Godspeed.Machine
