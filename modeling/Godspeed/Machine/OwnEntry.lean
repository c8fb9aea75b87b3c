import Godspeed.Machine.EntryMove

/-!
# The entry of a task's own endpoint

Nobody but its owner dequeues from an endpoint, registers there or kills it.
`Effect.ownEntry` says what any step leaves of the entry of a live endpoint: it
stays, a message is appended and the recorded receiver is owed a wake, a sender
parks, or the owner itself took the step.

`Ground` collects the invariants of every run that this rests on.
-/

namespace Godspeed.Machine

open Ipc Capability

/-- The invariants every later one rests on. -/
structure Ground (s : State) : Prop where
  lives : Lives s
  coherent : s.Coherent
  still : s.Still

lemma Effect.ground {s s' : State} {a : Action} (hground : Ground s) (h : Effect s a s') :
    Ground s' :=
  ⟨h.lives hground.lives,
    fun slot => (h.taskMove slot).coherent hground.lives (hground.coherent slot),
    h.still hground.lives hground.still⟩

lemma ground_of_reached {ok : State → Action → Prop} {s : State} (h : Reached ok s) : Ground s :=
  ⟨lives_of_reached h, coherent_of_reached h, still_of_reached h⟩

/-- What a step does to the entry of a live endpoint of `owner`. -/
inductive OwnEntry (s s' : State) (a : Action) (owner : Slot) (id : Nat)
    (entry : EndpointState Msg) : Prop
  | kept (hentry : s'.entry id = some entry)
  | queued (queue : MessageQueue Msg) (msg : Msg)
      (hqueue : queue.messages = entry.queue.messages ++ [msg])
      (hentry : s'.entry id = some { entry with blockedReceiver := none, queue := queue })
      (howed : ∀ receiver, entry.blockedReceiver = some receiver → ⟨receiver, 0, 0⟩ ∈ s'.owed)
  | parked (sender : Slot) (msg : Msg)
      (hentry : s'.entry id = some { entry with
        blockedSender := some sender, pendingSend := some msg, paired := rfl })
  | owner (hplace : (a = .attempt owner ∧ ∃ wait, (s.task owner).pc = .waiting wait .attempt) ∨
      (s.task owner).pc = .user ∨ (s.task owner).killStage ≠ none)

section Owner

variable {s s' : State} {a : Action} {owner slot : Slot} {own : Own} {life recv : Incarnation}
  {entry : EndpointState Msg}

lemma owner_of_has {own' : Own} (hlives : Lives s) (hhas : s.Has owner own life)
    (hactive : (s.task owner).active own) (hother : s.Has slot own' recv)
    (halive : s.Alive recv) (hid : recv.id = life.id) : slot = owner := by
  have hactive' : (s.task slot).active own' := by
    by_contra hnot
    exact hlives.stale slot own' recv hother hnot halive
  exact (hlives.unique slot own' recv owner own life hother hhas (Task.keeps_of_active hactive')
    (Task.keeps_of_active hactive) hid).1

lemma Dequeues.by_owner (hlives : Lives s) (h : Dequeues s a slot recv)
    (hhas : s.Has owner own life) (hactive : (s.task owner).active own)
    (hid : recv.id = life.id) : OwnEntry s s' a owner life.id entry := by
  obtain ⟨halive, ⟨hact, wait, hat, hown⟩ | ⟨hat, own', -, hown⟩⟩ := h
  · have hpc : (s.task slot).pc.own = some recv := by
      rw [hat.2.2]
      exact hown
    obtain ⟨own', hother, -⟩ := (hlives.waits slot recv hat.1 hpc).2 halive
    cases owner_of_has hlives hhas hactive hother halive hid
    exact .owner (.inl ⟨hact, wait, hat.2.2⟩)
  · cases owner_of_has hlives hhas hactive ⟨hat.1, hown⟩ halive hid
    exact .owner (.inr (.inl hat.2.2))

/-- **Only its owner takes from a live endpoint.** -/
theorem Effect.ownEntry (hground : Ground s) (h : Effect s a s')
    (hhas : s.Has owner own life) (hactive : (s.task owner).active own)
    (hlook : s.entry life.id = some entry) : OwnEntry s s' a owner life.id entry := by
  have hlives := hground.lives
  have halive := hlives.active owner own life hhas hactive
  cases h.entryMove hlives hground.still life.id with
  | same hentry => exact .kept (hentry.trans hlook)
  | queued old queue msg hold _ hqueue hentry _ _ howed =>
    cases hold.symm.trans hlook
    exact .queued queue msg hqueue hentry howed
  | parked old sender msg hold _ _ _ _ hentry =>
    cases hold.symm.trans hlook
    exact .parked sender msg hentry
  | taken _ _ _ _ slot recv hid hdeqs | registered _ slot recv hid hdeqs =>
    exact hdeqs.by_owner hlives hhas hactive hid
  | killed _ _ victim own' life' _ hvictim hkeeps hid hdying =>
    obtain ⟨rfl, -⟩ := hlives.unique victim own' life' owner own life hvictim hhas hkeeps
      (Task.keeps_of_active hactive) hid
    exact .owner (.inr (.inr hdying))
  | renewed _ _ hgone => exact absurd halive.aliveId hgone
  | vanished old hold hdead =>
    simp [State.Alive, State.life, hold, hdead] at halive

end Owner

end Godspeed.Machine
