import Godspeed.Machine.Sender

/-!
# One life at a time

Messages are stamped with an endpoint id, a Call keeps the id of its target, and
ids are given back on death and drawn again by the next spawn.  `OneLife` is the
condition that keeps the lives of an id apart: when a spawn draws an id, no Call
in progress is on it, no message stamped with it is queued or parked, and no task
that had it still runs; and no Call is sent to a reply mailbox.

`faithful_of_reached`: in every run whose steps meet it, the generation recorded
last for an id is that of everything that refers to the id, so an id stands for
one life.
-/

namespace Godspeed.Machine

open Ipc Capability List State

variable (s : State) {life : Incarnation}

/-- Nothing refers to an earlier life of the id: no Call of a live task, no
message in a queue or parked behind one, no task on a core. -/
def State.Forgotten (id : Nat) : Prop :=
  (∀ slot, (s.task slot).valid = true → (s.task slot).state ≠ .dead →
    ∀ call ∈ (s.task slot).pc.call?, call.target.id ≠ id) ∧
  (∀ entry ∈ s.routing.table.entries, entry.valid = true →
    ∀ msg ∈ entry.queue.messages ++ entry.pendingSend.toList, msg.senderEp ≠ id) ∧
  ∀ slot, (s.task slot).valid = true → (s.task slot).onCpu = true →
    ∀ life ∈ (s.task slot).endpoint, life.id ≠ id

instance (s : State) (id : Nat) : Decidable (s.Forgotten id) :=
  inferInstanceAs (Decidable (_ ∧ _ ∧ _))

/-- The id is not that of a reply mailbox. -/
def State.Primary (id : Nat) : Prop :=
  ∀ slot, (s.task slot).valid = true → ∀ life ∈ (s.task slot).reply, life.id ≠ id

instance (s : State) (id : Nat) : Decidable (s.Primary id) :=
  inferInstanceAs (Decidable (∀ _ : Slot, _))

/-- The steps that keep the lives of an id apart, and callers on record. -/
def OneLife (a : Action) : Prop :=
  OneSender s a ∧ (∀ id ∈ a.draws s, s.Forgotten id) ∧
    ∀ target ∈ a.callTarget, s.Primary target.2.id

instance (s : State) (a : Action) : Decidable (OneLife s a) :=
  inferInstanceAs (Decidable (_ ∧ _ ∧ _))

section Draws

variable {s s' : State} {a : Action} {id : Nat}

lemma available_of_mem_draws (hlives : Lives s) (h : id ∈ a.draws s) :
    s.ids.Available id ∧ firstEndpointId ≤ id := by
  have hdraws : id ∈ s.draws := by
    unfold Action.draws at h
    split at h
    · exact h
    · cases h
  unfold draws at hdraws
  split at hdraws
  · cases hdraws
  rename_i first ids halloc
  obtain ⟨hissued, havail, hfirst, hothers⟩ := EndpointIds.alloc_spec hlives.issued halloc
  rcases mem_cons.mp hdraws with rfl | hsecond
  · exact ⟨havail, hfirst⟩
  simp only [Option.mem_toList, Option.map_eq_some_iff] at hsecond
  obtain ⟨⟨second, rest⟩, hnext, rfl⟩ := hsecond
  obtain ⟨-, hav, hle, -⟩ := EndpointIds.alloc_spec hissued hnext
  exact ⟨((hothers second).mp hav).1, hle⟩

lemma Effect.lifeGen_cases (h : Effect s a s') (id : Nat) :
    s'.log.lifeGen id = s.log.lifeGen id ∨ id ∈ a.draws s := by
  have hsame : SameTraffic s.log s'.log → s'.log.lifeGen id = s.log.lifeGen id := fun htraffic => by
    rw [htraffic.lifeGen]
  cases h with
  | blockPending slot wait =>
    exact .inl (hsame ((s.consumePending slot).finishBlock_traffic slot wait 0))
  | blockFails slot wait | resumed slot wait =>
    exact .inl (hsame (s.finishBlock_traffic slot wait _))
  | killed slot => exact .inl (hsame (s.kill_traffic slot))
  | endpointKilled slot own life t next _ _ hkill =>
    obtain ⟨-, -, -, -, -, hlog⟩ := killEndpoint_spec hkill
    exact .inl (by simp [setStage, hlog])
  | spawned slot coreId hasRecv grantReply t _ hspawn =>
    cases hasRecv with
    | true => exact (spawns_of_spawn hspawn).lifeGen_cases id
    | false =>
      cases hspawn
      exact .inl rfl
  | _ => exact .inl rfl

lemma Action.draws_of_callTarget {target : Slot × Incarnation}
    (h : a.callTarget = some target) : a.draws s = [] := by
  cases a <;> first | rfl | cases h

lemma Effect.alive_cases (hground : Ground s) (h : Effect s a s') (halive : s'.Alive life) :
    s.Alive life ∨ (life.generation = s'.log.lifeGen life.id ∧ life.id ∈ a.draws s) := by
  have hkept : ∀ {entry entry'}, s.entry life.id = some entry → s'.entry life.id = some entry' →
      entry'.liveness = entry.liveness → entry'.generation = entry.generation →
      s.Alive life := by
    intro entry entry' hlook hentry hlive hgen
    simpa [Alive, State.life, hlook, hentry, hlive, hgen] using halive
  cases h.entryMove hground.lives hground.still life.id with
  | same hentry => exact .inl (by simpa [Alive, State.life, hentry] using halive)
  | queued _ _ _ hlook _ _ hentry | parked _ _ _ hlook _ _ _ _ hentry
  | registered _ _ _ _ _ hlook hentry => exact .inl (hkept hlook hentry rfl rfl)
  | taken _ _ _ _ _ _ _ _ hlook _ hrel hentry =>
    exact .inl (hkept hlook hentry hrel.liveness hrel.generation)
  | killed _ _ _ _ _ _ _ _ _ _ _ hentry hdead =>
    simp [Alive, State.life, hentry, hdead] at halive
  | renewed coreId generation _ hentry _ hlifeGen hdraws =>
    refine .inr ⟨?_, hdraws⟩
    simp only [Alive, State.life, hentry, Option.map_some, EndpointState.fresh,
      Option.some.injEq, Prod.mk.injEq, true_and] at halive
    rw [hlifeGen, halive]
  | vanished _ _ _ hentry => simp [Alive, State.life, hentry] at halive

/-- A message that is queued or parked afterwards was so before or has just been
stamped. -/
lemma EntryMove.message_cases (h : EntryMove s s' a id) {msg : Msg}
    (hmem : msg ∈ s'.queued id ++ s'.pending id) :
    msg ∈ s.queued id ++ s.pending id ∨ Stamps s ⟨msg.senderEp, msg.senderGen⟩ := by
  have hsame : s'.ledger id = s.ledger id → msg ∈ s.queued id ++ s.pending id := by
    intro hledger
    have hqueued : s'.queued id = s.queued id := congrArg Custody.Ledger.queued hledger
    have hpend : s'.pending id = s.pending id := congrArg Custody.Ledger.pending hledger
    rwa [hqueued, hpend] at hmem
  have hplaces : ∀ ledger : Custody.Ledger Msg, s'.ledger id = ledger →
      msg ∈ ledger.queued ++ ledger.pending := by
    rintro ledger rfl
    exact hmem
  cases h with
  | same _ hledger | registered _ _ _ _ _ _ _ hledger | renewed _ _ _ _ hledger
  | vanished _ _ _ _ hledger => exact .inl (hsame hledger)
  | queued entry queue new _ _ _ _ _ hledger _ hstamp =>
    have hnow := hplaces _ hledger
    simp only [mem_append, mem_singleton] at hnow
    rcases hnow with (hold | rfl) | hold
    · exact .inl (mem_append_left _ hold)
    · exact .inr hstamp
    · exact .inl (mem_append_right _ hold)
  | parked entry sender new _ _ _ _ _ _ _ hledger hstamp =>
    have hnow := hplaces _ hledger
    simp only [mem_append, mem_singleton] at hnow
    rcases hnow with hold | rfl
    · exact .inl (mem_append_left _ hold)
    · exact .inr hstamp
  | taken entry entry' new rest _ _ _ _ hlook hqueue _ _ hledger =>
    have hnow := hplaces _ hledger
    simp only [append_nil, mem_append] at hnow
    rcases hnow with hrest | hold
    · refine .inl (mem_append_left _ ?_)
      have hqueued : s.queued id = entry.queue.messages := by simp [State.queued, hlook]
      rw [hqueued]
      exact hqueue.symm.subset (mem_cons_of_mem new hrest)
    · exact .inl (mem_append_right _ hold)
  | killed _ _ _ _ _ _ _ _ _ _ _ _ _ _ hledger => cases (hplaces _ hledger)

lemma TaskMove.reply_cases {slot : Slot} {task' : Task}
    (h : TaskMove s a s' slot task') (hvalid : task'.valid)
    (hreply : task'.reply = some life) :
    ((s.task slot).valid ∧ (s.task slot).reply = some life) ∨ life.id ∈ a.draws s := by
  cases h with
  | dies reply next _ hsame =>
    rcases hsame with hsame | hnone
    · exact .inl ⟨hvalid, hsame ▸ hreply⟩
    · exact absurd (hnone.symm.trans hreply) nofun
  | released => cases hvalid
  | committed endpoint reply _ hdraws => exact .inr (hdraws life hreply)
  | _ => exact .inl ⟨hvalid, hreply⟩

end Draws

/-- Everything that refers to an id refers to the life that began last. -/
structure Faithful (s : State) : Prop where
  kernel : s.log.lifeGen 0 = 0
  alive : ∀ life, s.Alive life → life.generation = s.log.lifeGen life.id
  runs : ∀ slot life, (s.task slot).valid = true → (s.task slot).onCpu = true →
    (s.task slot).endpoint = some life → life.generation = s.log.lifeGen life.id
  message : ∀ id, ∀ msg ∈ s.queued id ++ s.pending id, msg.senderGen = s.log.lifeGen msg.senderEp
  target : ∀ slot call, (s.task slot).valid = true → (s.task slot).state ≠ .dead →
    (s.task slot).pc.call? = some call → call.target.generation = s.log.lifeGen call.target.id
  primary : ∀ slot call, (s.task slot).valid = true → (s.task slot).state ≠ .dead →
    (s.task slot).pc.call? = some call → s.Primary call.target.id

section Step

variable {s s' : State} {a : Action} {slot : Slot} {id : Nat}

lemma State.Forgotten.ne_senderEp (h : s.Forgotten id) {endpoint : Nat} {msg : Msg}
    (hmem : msg ∈ s.queued endpoint ++ s.pending endpoint) : msg.senderEp ≠ id := by
  cases hlook : s.entry endpoint with
  | none => simp [queued, pending, hlook] at hmem
  | some entry =>
    obtain ⟨found, hfound, hvalid, rfl⟩ := RoutingTable.mem_of_lookup hlook
    refine h.2.1 found hfound hvalid msg ?_
    simpa [queued, pending, hlook] using hmem

lemma TaskMove.runs_cases {task' : Task} (h : TaskMove s a s' slot task')
    (hvalid : task'.valid) (hcpu : task'.onCpu) (hdead : task'.state = .dead)
    (hlife : task'.endpoint = some life) :
    (s.task slot).valid ∧ (s.task slot).endpoint = some life ∧
      ((s.task slot).onCpu ∨ (s.task slot).state ≠ .dead) := by
  cases h with
  | parks | yielded | committed => cases hcpu
  | dispatched | woken => cases hdead
  | killed hv halive => exact ⟨hv, hlife, .inr halive⟩
  | released => cases hvalid
  | _ => exact ⟨hvalid, hlife, .inl hcpu⟩

lemma Lives.alive_of_live (hlives : Lives s)
    (hvalid : (s.task slot).valid) (halive : (s.task slot).state ≠ .dead)
    (hlife : (s.task slot).endpoint = some life) : s.Alive life := by
  refine hlives.active slot .endpoint life ⟨hvalid, hlife⟩ ?_
  simp [Task.active, hlives.killStage_eq_none halive]

/-- **One step keeps every id with one life.** -/
theorem Effect.faithful (hground : Ground s) (h : Effect s a s') (hone : OneLife s a)
    (hfaithful : Faithful s) : Faithful s' := by
  obtain ⟨-, hforgotten, hprimary⟩ := hone
  have hlives := hground.lives
  -- an id nothing is forgotten about keeps its generation
  have hsame : ∀ id, ¬ s.Forgotten id → s'.log.lifeGen id = s.log.lifeGen id := fun id hnot =>
    (h.lifeGen_cases id).resolve_right fun hdraws => hnot (hforgotten id hdraws)
  have hstands : ∀ life, s.Alive life → s'.log.lifeGen life.id = s.log.lifeGen life.id := by
    intro life halive
    refine (h.lifeGen_cases life.id).resolve_right fun hdraws => ?_
    exact hlives.available _ (available_of_mem_draws hlives hdraws).1 halive.aliveId
  have hkernel : s'.log.lifeGen 0 = 0 := by
    rcases h.lifeGen_cases 0 with hzero | hdraws
    · exact hzero.trans hfaithful.kernel
    · exact absurd (available_of_mem_draws hlives hdraws).2 (by decide)
  have halive : ∀ life, s'.Alive life → life.generation = s'.log.lifeGen life.id := by
    intro life hlife
    rcases h.alive_cases hground hlife with hold | ⟨hnew, -⟩
    · rw [hstands life hold]
      exact hfaithful.alive life hold
    · exact hnew
  have hruns : ∀ slot life, (s.task slot).valid → (s.task slot).onCpu →
      (s.task slot).endpoint = some life → life.generation = s'.log.lifeGen life.id := by
    intro slot life hvalid hcpu hlife
    rw [hsame life.id fun hforgot => hforgot.2.2 slot hvalid hcpu life hlife rfl]
    exact hfaithful.runs slot life hvalid hcpu hlife
  refine ⟨hkernel, halive, ?_, ?_, ?_, ?_⟩
  · intro slot life hvalid hcpu hlife
    by_cases hdead : (s'.task slot).state = .dead
    · obtain ⟨hv, hl, hcpu | hlive⟩ := (h.taskMove slot).runs_cases hvalid hcpu hdead hlife
      · exact hruns slot life hv hcpu hl
      · have hold := hlives.alive_of_live hv hlive hl
        rw [hstands life hold]
        exact hfaithful.alive life hold
    · exact halive life ((h.lives hlives).alive_of_live hvalid hdead hlife)
  · intro id msg hmem
    rcases (h.entryMove hlives hground.still id).message_cases hmem with hold | hstamp
    · rw [hsame msg.senderEp fun hforgot => hforgot.ne_senderEp hold rfl]
      exact hfaithful.message id msg hold
    rcases hstamp with hzero | ⟨sender, hvalid, hcpu, hlife⟩
    · obtain ⟨hep, hgen⟩ := Incarnation.mk.inj hzero
      rw [hep, hgen, hkernel]
    · exact hruns sender _ hvalid hcpu hlife
  · intro slot call hvalid hlive hcall
    obtain ⟨hvalid', hlive'⟩ := (h.taskMove slot).live_of_call hcall hvalid hlive
    rcases (h.taskMove slot).call_cases hcall with hold | hopens
    · rw [hsame _ fun hforgot => hforgot.1 slot hvalid' hlive' call hold rfl]
      exact hfaithful.target slot call hvalid' hlive' hold
    obtain ⟨entry, hlook, hentry, hgeneration⟩ := hopens.target
    have hold := alive_of_entry hlook hentry hgeneration
    rw [hstands _ hold]
    exact hfaithful.alive _ hold
  · intro slot call hvalid hlive hcall owner howner life hlife
    obtain ⟨hvalid', hlive'⟩ := (h.taskMove slot).live_of_call hcall hvalid hlive
    rcases (h.taskMove owner).reply_cases howner hlife with ⟨hv, hreply⟩ | hdraws
    · rcases (h.taskMove slot).call_cases hcall with hold | hopens
      · exact hfaithful.primary slot call hvalid' hlive' hold owner hv life hreply
      · exact hprimary _ hopens.action owner hv life hreply
    · rcases (h.taskMove slot).call_cases hcall with hold | hopens
      · exact ((hforgotten _ hdraws).1 slot hvalid' hlive' call hold).symm
      · rw [Action.draws_of_callTarget hopens.action] at hdraws
        cases hdraws

end Step

lemma faithful_of_reached {s : State} (h : Reached OneLife s) : Faithful s := by
  refine h.invariant_of (fun _ => ground_of_reached) ?_ ?_
  · refine ⟨rfl, ?_, nofun, ?_, nofun, nofun⟩
    · intro life halive
      simp [Alive, State.life, entry, boot, Routing.init] at halive
    · intro id msg hmem
      simp [queued, pending, entry, boot, Routing.init] at hmem
  · exact fun t a t' hground hfaithful hone hstep =>
      (effect_of_step hstep).faithful hground hone hfaithful

end Godspeed.Machine
