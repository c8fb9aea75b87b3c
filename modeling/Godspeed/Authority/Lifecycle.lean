import Godspeed.Authority.Effect

/-!
# How a task ends and how it begins

The death of a task and the unwind of a failed spawn are the same moves: the
task is retired, then the lives of its endpoints and, at a death, of its
delegated resources end.

A spawn is described once, by `SpawnOutcome`: which of its stages opened an
endpoint, and that everything between them stayed within the new task's own
table.  Its mandatory insertions never find the table full.  From the outcome
follow the moves of a spawn here, and what a failed spawn leaves elsewhere.

`moves_of_step` puts the operations together; `ground_of_reached` follows.
-/

namespace Godspeed.Authority

open Capability Interrupt Ipc Staged RoutingTable Option Relation.ReflTransGen

section Death

variable {leaky : Prop} {s s' : State} {slot : Slot} {task : Task} {endpoint : Nat} {death : Bool}
  {routing : RoutingTable Message}

lemma closeEndpoint_spec (h : closeEndpoint s endpoint = some s') :
    ∃ routing receiver sender ledger,
      s.routing.killEndpoint endpoint = some (routing, receiver, sender) ∧
      s.ledger.markDead endpoint = some ledger ∧
      s' = { s with routing := routing, ledger := ledger } := by
  unfold closeEndpoint at h
  split at h
  · cases h
  next routing receiver sender hkill =>
    obtain ⟨ledger, hdead, rfl⟩ := map_eq_some_iff.mp h
    exact ⟨routing, receiver, sender, ledger, hkill, hdead, rfl⟩

/-- The state after a task is retired and before any life ends. -/
def retired (s : State) (slot : Slot) (task : Task) (freeReply : Bool)
    (routing : RoutingTable Message) : State :=
  { s with
    routing := routing
    names := retiredNames s.names task
    ids := retiredIds s.ids task freeReply }.setTask slot none

lemma Ground.unowned_retired (h : Ground s) (htask : s.tasks slot = some task) {freeReply : Bool}
    (howns : task.Owns endpoint) (other : Slot) (found : Task)
    (hfound : (retired s slot task freeReply routing).tasks other = some found) :
    ¬ found.Owns endpoint := by
  rcases tasks_setTask.mp hfound with ⟨-, hnone⟩ | ⟨hne, hold⟩
  · cases hnone
  · exact fun hown => hne (h.apart other slot found task endpoint hold htask hown howns)

lemma closes_of_kill {routing' : RoutingTable Message} {receiver sender : Option Slot}
    (hkill : routing.killEndpoint endpoint = some (routing', receiver, sender))
    (howns : ∀ id, task.Owns id ↔ id = endpoint) : Closes task routing routing' where
  flight _ := inFlight_of_killEndpoint hkill
  alive id := by rw [alive_killEndpoint hkill, howns]
  size := size_killEndpoint hkill

lemma Ground.move_close (h : Ground s) (htask : s.tasks slot = some task) {before ledger : Ledger}
    (howns : task.Owns endpoint) (hdead : before.markDead endpoint = some ledger) :
    Move leaky { retired s slot task death routing with ledger := before }
      { retired s slot task death routing with ledger := ledger } :=
  .close endpoint ledger (Ledger.ends_of_markDead hdead) (h.ranged slot task endpoint htask howns)
    (h.unowned_retired htask howns)

/-- What a closed reply endpoint leaves, and how a task that had one is retired. -/
lemma closeReply_spec (h : closeReply s task death = some s') :
    (task.replyEndpoint = none ∧ s' = s) ∨
      ∃ reply routing receiver sender ledger, task.replyEndpoint = some reply ∧
        s.routing.killEndpoint reply = some (routing, receiver, sender) ∧
        s.ledger.markDead reply = some ledger ∧
        s' = { s with
          routing := routing
          ledger := ledger
          ids := freedReply s.ids task death
          credits := if death && task.mayTakeBack then s.credits + 1 else s.credits } := by
  unfold closeReply at h
  cases hrep : task.replyEndpoint with
  | none =>
    simp only [hrep, some.injEq] at h
    exact .inl ⟨rfl, h.symm⟩
  | some reply =>
    simp only [hrep] at h
    obtain ⟨closed, hclose, rfl⟩ := map_eq_some_iff.mp h
    obtain ⟨routing, receiver, sender, ledger, hkill, hdead, rfl⟩ := closeEndpoint_spec hclose
    refine .inr ⟨reply, routing, receiver, sender, ledger, rfl, hkill, hdead, ?_⟩
    cases death <;> simp [freedReply, hrep]

/-- A task is retired, then the lives of endpoints it had end. -/
lemma Ground.moves_retired (h : Ground s) (htask : s.tasks slot = some task)
    (hleak : death ∨ task.replyEndpoint = none ∨ leaky) (hcloses : Closes task s.routing routing)
    {ledger : Ledger} (hdead : Relation.ReflTransGen
      (fun l l' => ∃ endpoint, task.Owns endpoint ∧ l.markDead endpoint = some l') s.ledger ledger)
    (credits : Nat) :
    Moves leaky s { retired s slot task death routing with ledger := ledger, credits := credits } := by
  have hends : Moves leaky s { retired s slot task death routing with ledger := ledger } := by
    induction hdead with
    | refl => exact single (.retire slot task death routing htask hcloses hleak)
    | tail _ hlast ih =>
      obtain ⟨endpoint, howns, hdead⟩ := hlast
      exact ih.tail (h.move_close htask howns hdead)
  exact hends.tail (.wire s.irqs credits)

lemma moves_retire_of_none (h : Ground s) (htask : s.tasks slot = some task)
    (hleak : death ∨ task.replyEndpoint = none ∨ leaky)
    (hreply : closeReply s task death = some s') (hnone : task.endpoint = none) :
    Moves leaky s (retire s' slot task) := by
  rcases closeReply_spec hreply with
    ⟨hrep, rfl⟩ | ⟨reply, routing, receiver, sender, ledger, hrep, hkill, hdead, rfl⟩
  · have hcloses : Closes task s'.routing s'.routing :=
      ⟨fun _ h => h, fun id => by simp [Task.Owns, hnone, hrep], rfl⟩
    simpa [retired, retire, retiredNames, retiredIds, freedReply, hnone, hrep, State.setTask] using
      h.moves_retired htask hleak hcloses .refl s'.credits
  · have hcloses : Closes task s.routing routing :=
      closes_of_kill hkill fun id => by simp [Task.Owns, hnone, hrep, eq_comm]
    simpa [retired, retire, retiredNames, retiredIds, hnone, State.setTask] using
      h.moves_retired htask hleak hcloses (single ⟨reply, .inr hrep, hdead⟩) _

lemma moves_retire_of_some {s'' : State} (h : Ground s) (htask : s.tasks slot = some task)
    (hleak : death ∨ task.replyEndpoint = none ∨ leaky)
    (hreply : closeReply s task death = some s') (hsome : task.endpoint = some endpoint)
    (hclose : closeEndpoint s' endpoint = some s'') : Moves leaky s (retire s'' slot task) := by
  obtain ⟨routing₂, receiver₂, sender₂, ledger₂, hkill₂, hdead₂, rfl⟩ := closeEndpoint_spec hclose
  rcases closeReply_spec hreply with
    ⟨hrep, rfl⟩ | ⟨reply, routing, receiver, sender, ledger, hrep, hkill, hdead, rfl⟩
  · have hcloses : Closes task s'.routing routing₂ :=
      closes_of_kill hkill₂ fun id => by simp [Task.Owns, hsome, hrep, eq_comm]
    simpa [retired, retire, retiredNames, retiredIds, freedReply, hsome, hrep, State.setTask] using
      h.moves_retired htask hleak hcloses (single ⟨endpoint, .inl hsome, hdead₂⟩) s'.credits
  · have hcloses : Closes task s.routing routing₂ := by
      refine ⟨fun msg hmsg => ?_, fun id => ?_, ?_⟩
      · exact inFlight_of_killEndpoint hkill (inFlight_of_killEndpoint hkill₂ hmsg)
      · rw [alive_killEndpoint hkill₂, alive_killEndpoint hkill]
        simp only [Task.Owns, hsome, hrep, some.injEq]
        tauto
      · exact (size_killEndpoint hkill₂).trans (size_killEndpoint hkill)
    simpa [retired, retire, retiredNames, retiredIds, hsome, State.setTask] using
      h.moves_retired htask hleak hcloses
        ((single ⟨reply, .inr hrep, hdead⟩).tail ⟨endpoint, .inl hsome, hdead₂⟩) _

lemma moves_releaseOwnerLoop {who fuel : Nat} {band band' : Band} {ledger ledger' : Ledger}
    (h : releaseOwnerLoop who fuel band ledger = some (band', ledger')) :
    Moves leaky { s with band := band, ledger := ledger }
      { s with band := band', ledger := ledger' } := by
  induction fuel generalizing band ledger with
  | zero =>
    cases h
    exact .refl
  | succ fuel ih =>
    simp only [releaseOwnerLoop] at h
    split at h
    · cases h
      exact .refl
    rename_i bandSlot rest htake
    split at h
    · cases h
    rename_i dead hdead
    have hmove : Move leaky { s with band := band, ledger := ledger }
        { s with band := rest, ledger := dead } :=
      .withdraw bandSlot rest dead (Ledger.ends_of_markDead hdead) (Band.takeOneOwned_spec htake).2
    exact .head hmove (ih h)

lemma moves_killTask (h : Ground s) (hstep : killTask s slot = some s') : Moves leaky s s' := by
  unfold killTask at hstep
  split at hstep
  · cases hstep
    exact .refl
  rename_i task htask
  split at hstep
  · cases hstep
  rename_i closed hreply
  split at hstep
  next hnone =>
    cases hstep
    exact moves_retire_of_none h htask (.inl rfl) hreply hnone
  rename_i endpoint hsome
  split at hstep
  · cases hstep
  rename_i closed' hclose
  obtain ⟨released, hrelease, rfl⟩ := map_eq_some_iff.mp hstep
  obtain ⟨⟨band, ledger⟩, hloop, rfl⟩ := map_eq_some_iff.mp hrelease
  have hretire : Moves leaky s (retire closed' slot task) :=
    moves_retire_of_some h htask (.inl rfl) hreply hsome hclose
  have hwithdraw : Moves leaky (retire closed' slot task)
      { retire closed' slot task with band := band, ledger := ledger } := by
    simpa [retire, hsome, State.setTask] using
      @moves_releaseOwnerLoop leaky (retire closed' slot task) _ _ _ _ _ _ hloop
  refine (hretire.trans hwithdraw).tail ?_
  simpa [retire, hsome, State.setTask] using
    @Move.wire leaky { retire closed' slot task with band := band, ledger := ledger }
      (releasedIrqs closed'.irqs task) closed'.credits

lemma moves_cleanupPartialSpawn (h : Ground s) (htask : s.tasks slot = some task)
    (hleak : task.replyEndpoint = none ∨ leaky) (hstep : cleanupPartialSpawn s slot = some s') :
    Moves leaky s s' := by
  unfold cleanupPartialSpawn at hstep
  simp only [htask] at hstep
  split at hstep
  · cases hstep
  rename_i closed hreply
  split at hstep
  next hnone =>
    cases hstep
    exact moves_retire_of_none h htask (.inr hleak) hreply hnone
  next endpoint hsome =>
    obtain ⟨closed', hclose, rfl⟩ := map_eq_some_iff.mp hstep
    exact moves_retire_of_some h htask (.inr hleak) hreply hsome hclose

end Death

/-- Where a spawn stands: since `u` it has moved only within the table of the
task in its slot, which has the identity of `ref` and at most `n` capabilities. -/
structure Stands (base : State) (slot : Slot) (ref : Task) (u : State) (n : Nat) (t : State) :
    Prop where
  moves : CapMoves slot u t
  ground : Ground t
  others : ∀ other, other ≠ slot → t.tasks other = base.tasks other
  own : ∃ task, t.tasks slot = some task ∧ SameIdentity ref task ∧ task.caps.used ≤ n

variable {cap : Cap}

namespace Stands

variable {base u t t' : State} {slot : Slot} {ref task task' : Task} {n m id : Nat}
  {rights : Rights}

variable (h : Stands base slot ref u n t)
include h

lemma mono (hle : n ≤ m) : Stands base slot ref u m t := by
  obtain ⟨task, htask, hsame, hused⟩ := h.own
  exact ⟨h.moves, h.ground, h.others, task, htask, hsame, hused.trans hle⟩

lemma next (hmove : CapMove slot t t')
    (htask' : t'.tasks slot = some task') (hused : task'.caps.used ≤ m) :
    Stands base slot ref u m t' := by
  obtain ⟨task, htask, hsame, -⟩ := h.own
  have hframe := hmove.frame
  obtain ⟨found, hfound, hsame'⟩ := hframe.own task htask
  obtain rfl : found = task' := some.inj (hfound.symm.trans htask')
  exact ⟨h.moves.tail hmove, hframe.ground h.ground htask,
    fun other hother => (hframe.others other hother).trans (h.others other hother),
    found, hfound, hsame.trans hsame', hused⟩

lemma mint_insert {minted : State} {index : Nat}
    (htask : t.tasks slot = some task) (hused : task.caps.used ≤ n)
    (hmintable : Mintable t task id rights) (hmint : t.mintCap id rights = some (cap, minted))
    (hins : minted.insertCap slot cap = some (t', index)) :
    Stands base slot ref u (n + 1) t' := by
  have hmove := move_of_mint_insert htask hmintable hmint hins
  obtain ⟨ledger, -, rfl⟩ := mintCap_spec hmint
  obtain ⟨found, caps, hfound, rfl, hcount, -⟩ := insertCap_spec hins
  cases htask.symm.trans hfound
  exact h.next hmove (tasks_setTask.mpr (.inl ⟨rfl, rfl⟩)) (by simp only [hcount]; omega)

lemma mint {minted : State} (htask : t.tasks slot = some task) (hused : task.caps.used ≤ n)
    (hmintable : Mintable t task id rights) (hmint : t.mintCap id rights = some (cap, minted)) :
    Stands base slot ref u n minted := by
  have hmove := move_of_mint htask hmintable hmint
  obtain ⟨ledger, -, rfl⟩ := mintCap_spec hmint
  exact h.next hmove htask hused

end Stands

section Stages

variable {base u t : State} {slot : Slot} {ref : Task} {n id : Nat} {rights : Rights}

/-- The stage takes at most `k` more places of the table, and does not fail. -/
abbrev Fills (base : State) (slot : Slot) (ref : Task) (u : State) (n k : Nat)
    (stage : Stage State) : Prop :=
  Leads (Stands base slot ref u n) (Stands base slot ref u (n + k)) (fun _ => False) stage

/-- What may be minted whenever the task has the identity of `ref`. -/
def AlwaysMintable (slot : Slot) (ref : Task) (id : Nat) (rights : Rights) : Prop :=
  ∀ (t : State) (task : Task), t.tasks slot = some task → SameIdentity ref task →
    Mintable t task id rights

lemma alwaysMintable_of_owns (howns : ref.Owns id) : AlwaysMintable slot ref id rights :=
  fun _ task htask hsame => .endpoint slot task htask (hsame.owns_iff.mpr howns)

lemma alwaysMintable_of_mints {gate : Gate} (hmints : ref.grants.Mints gate rights) :
    AlwaysMintable slot ref gate.id rights :=
  fun _ _ _ hsame => .gate gate rfl (hsame.grants ▸ hmints)

lemma leads_mintStage (hroom : n < maxCapsPerTask) (hmintable : AlwaysMintable slot ref id rights) :
    Fills base slot ref u n 1 (mintStage slot id rights) := by
  intro t result h hrun
  obtain ⟨task, htask, hsame, hused⟩ := h.own
  unfold mintStage at hrun
  split at hrun
  · cases hrun
  rename_i cap minted hmint
  split at hrun
  next inserted index hins =>
    cases hrun
    exact h.mint_insert htask hused (hmintable t task htask hsame) hmint hins
  next hfull =>
    obtain ⟨ledger, -, rfl⟩ := mintCap_spec hmint
    have hsome := insertCap_isSome (s := { t with ledger := ledger }) htask
      (lt_of_le_of_lt hused hroom) cap
    rw [hfull] at hsome
    cases hsome

lemma leads_tryMintStage (hmintable : AlwaysMintable slot ref id rights) :
    Fills base slot ref u n 1 (tryMintStage slot id rights) := by
  intro t result h hrun
  obtain ⟨task, htask, hsame, hused⟩ := h.own
  unfold tryMintStage at hrun
  split at hrun
  · cases hrun
  rename_i cap minted hmint
  split at hrun
  next inserted index hins =>
    cases hrun
    exact h.mint_insert htask hused (hmintable t task htask hsame) hmint hins
  · cases hrun
    exact (h.mint htask hused (hmintable t task htask hsame) hmint).mono (Nat.le_succ n)

lemma leads_gateStage {entry : Bool × Gate × Rights} (hroom : n < maxCapsPerTask)
    (hentry : entry ∈ ref.grants.early ++ ref.grants.late) :
    Fills base slot ref u n 1 (gateStage slot entry) := by
  obtain ⟨flag, gate, rights⟩ := entry
  refine Leads.onlyIf (fun hflag => ?_) (fun _ t h => h.mono (Nat.le_succ n))
  subst hflag
  exact leads_mintStage hroom (alwaysMintable_of_mints hentry)

lemma leads_gateStages {entries : List (Bool × Gate × Rights)}
    (hents : ∀ entry ∈ entries, entry ∈ ref.grants.early ++ ref.grants.late)
    (hroom : n + entries.length ≤ maxCapsPerTask) :
    Fills base slot ref u n entries.length (run (entries.map (gateStage slot))) := by
  rw [show entries.length = (entries.map (gateStage slot)).length by simp] at hroom ⊢
  refine Leads.counted maxCapsPerTask (fun stage hstage k hk => ?_) hroom
  obtain ⟨entry, hentry, rfl⟩ := List.mem_map.mp hstage
  exact leads_gateStage hk (hents entry hentry)

lemma leads_endpointCapsStage {endpoint : Nat} (hep : ref.endpoint = some endpoint)
    (hroom : n < maxCapsPerTask) :
    Fills base slot ref u n 2 (endpointCapsStage slot) := by
  intro t result h hrun
  obtain ⟨task, htask, hsame, -⟩ := h.own
  have howns : ref.Owns endpoint := .inl hep
  have hown : t.endpointOf slot = some endpoint := by
    simp [State.endpointOf, htask, hsame.endpoint, hep]
  unfold endpointCapsStage at hrun
  simp only [hown] at hrun
  exact Leads.cons (leads_mintStage hroom (alwaysMintable_of_owns howns))
    (Leads.cons (leads_tryMintStage (alwaysMintable_of_owns howns)) Leads.nil) t result h hrun

lemma leads_replyCapsStage : Fills base slot ref u n 2 (replyCapsStage slot) := by
  intro t result h hrun
  obtain ⟨task, htask, hsame, hused⟩ := h.own
  unfold replyCapsStage at hrun
  rw [htask, bind_some, hsame.replyEndpoint] at hrun
  split at hrun
  · cases hrun
    exact h.mono (by omega)
  rename_i endpoint hreply
  have howns : ref.Owns endpoint := .inr hreply
  have hmintable := fun rights => @alwaysMintable_of_owns slot ref endpoint rights howns
  split at hrun
  · cases hrun
  rename_i cap minted hmint
  split at hrun
  · cases hrun
    exact (h.mint htask hused (hmintable _ t task htask hsame) hmint).mono (by omega)
  next inserted index hins =>
    have hnext := h.mint_insert htask hused (hmintable _ t task htask hsame) hmint hins
    exact leads_tryMintStage (hmintable _) inserted result hnext hrun

lemma Stands.peer {t t' : State} {task : Task} {caps : CapTable} {peer : Name}
    {i : Fin maxCapsPerTask} (h : Stands base slot ref u n t) (hused : task.caps.used ≤ n)
    (hins : task.caps.insert cap = some (caps, i)) (hmove : CapMove slot t
      (t'.setTask slot (some { task with caps := caps, peers := task.peers ++ [peer] }))) :
    Stands base slot ref u (n + 1)
      (t'.setTask slot (some { task with caps := caps, peers := task.peers ++ [peer] })) := by
  refine h.next hmove (tasks_setTask.mpr (.inl ⟨rfl, rfl⟩)) ?_
  simp only [CapTable.used_insert hins]
  omega

lemma leads_installStage {install : Name × Cap}
    (hgrant : ∀ t : State, (∀ other, other ≠ slot → t.tasks other = base.tasks other) →
      t.Granted install.2) :
    Fills base slot ref u n 1 (installStage slot install) := by
  intro t result h hrun
  obtain ⟨task, htask, hsame, hused⟩ := h.own
  unfold installStage at hrun
  simp only [htask] at hrun
  split at hrun
  · split at hrun
    next caps i hins =>
      cases hrun
      refine h.peer hused hins (.copy task _ install.2 install.2 htask
        ⟨rfl, rfl, rfl, rfl, rfl, rfl⟩ (fun other => ?_) (hgrant t h.others) (.inl rfl))
      exact (CapTable.holds_insert hins).mp
    · cases hrun
      exact h.mono (Nat.le_succ n)
  · cases hrun
    exact h.mono (Nat.le_succ n)

lemma leads_peerStage {provided : List Name} {grant : Bool} {peer : Name} :
    Fills base slot ref u n 1 (peerStage slot provided grant peer) := by
  intro t result h hrun
  obtain ⟨task, htask, hsame, hused⟩ := h.own
  unfold peerStage at hrun
  simp only [htask] at hrun
  split at hrun
  · split at hrun
    · cases hrun
      exact h.mono (Nat.le_succ n)
    rename_i endpoint hlook
    split at hrun
    · cases hrun
    rename_i cap minted hmint
    split at hrun
    next caps i hins =>
      cases hrun
      obtain ⟨ledger, hledger, rfl⟩ := mintCap_spec hmint
      refine h.peer hused hins (.mint task _ endpoint _ cap ledger htask
        ⟨rfl, rfl, rfl, rfl, rfl, rfl⟩ hledger (fun other => ?_) (h.ground.mintable hlook))
      exact (CapTable.holds_insert hins).mp
    · cases hrun
      exact (h.mint htask hused (h.ground.mintable hlook) hmint).mono (Nat.le_succ n)
  · cases hrun
    exact h.mono (Nat.le_succ n)

lemma leads_declareStage {peer : Name} : Fills base slot ref u n 1 (declareStage slot peer) := by
  intro t result h hrun
  obtain ⟨task, htask, hsame, hused⟩ := h.own
  unfold declareStage at hrun
  simp only [htask] at hrun
  split at hrun
  · cases hrun
    exact h.next (move_of_bookkeeping htask ⟨rfl, rfl, rfl, rfl, rfl, rfl⟩ rfl)
      (tasks_setTask.mpr (.inl ⟨rfl, rfl⟩)) (hused.trans (Nat.le_succ n))
  · cases hrun
    exact h.mono (Nat.le_succ n)

end Stages

end Godspeed.Authority
