import Godspeed.Machine.Effect

/-!
# What a spawn does

A spawn draws ids and generations, registers one or two endpoints and commits
its slot.  `Spawns` names these parts, and `spawns_of_spawn` says that every
spawn is made of them, so that an invariant is proved for each part once.
-/

namespace Godspeed.Machine

open Ipc Capability State

/-- A new endpoint: an id is allocated, a generation drawn and a fresh entry
written; the entry of another dead endpoint may be taken over. -/
structure Registers (s s' : State) (life : Incarnation) : Prop where
  alloc : s.ids.alloc = some (life.id, s'.ids)
  draw : nextGeneration s.generations = some (life.generation, s'.generations)
  fresh : ∃ coreId, s'.entry life.id = some (.fresh coreId life.generation)
  others : ∀ id, id ≠ life.id → s'.entry id = s.entry id ∨
    (s'.entry id = none ∧ ∃ entry, s.entry id = some entry ∧ entry.liveness = .dead)
  task : s'.task = s.task
  owed : s'.owed = s.owed
  callAwait : s'.routing.callAwait = s.routing.callAwait
  log : s'.log = { s.log with
    lifeGen := Function.update s.log.lifeGen life.id life.generation }

/-- Only the allocators move: at most ids that were available are available
afterwards, and the counter stays above what it was above. -/
structure Draws (s s' : State) : Prop where
  issued : s.ids.Issued → s'.ids.Issued
  available : ∀ id, s.ids.Issued → s'.ids.Available id → s.ids.Available id
  above : ∀ generation, s.generations.Above generation → s'.generations.Above generation
  task : s'.task = s.task
  owed : s'.owed = s.owed
  routing : s'.routing = s.routing
  log : s'.log = s.log

/-- The ids the next spawn with endpoints draws: its own, and its reply mailbox's. -/
def State.draws (s : State) : List Nat :=
  match s.ids.alloc with
  | none => []
  | some (id, ids) => id :: (ids.alloc.map Prod.fst).toList

def Action.draws (s : State) : Action → List Nat
  | .spawn _ _ true _ => s.draws
  | _ => []

variable {s s' : State} {slot : Slot}

lemma Registers.mem_draws {life : Incarnation} (h : Registers s s' life) : life.id ∈ s.draws := by
  simp [draws, h.alloc]

lemma Registers.mem_draws_second {s₁ s₂ : State} {life reply : Incarnation}
    (h : Registers s s₁ life) (hreply : Registers s₁ s₂ reply) : reply.id ∈ s.draws := by
  simp [draws, h.alloc, hreply.alloc]

/-- The parts of a spawn into `slot`. -/
inductive Spawns (s : State) (slot : Slot) : State → Prop
  /-- A service without an endpoint. -/
  | plain : Spawns s slot (s.commit slot none none)
  /-- The routing table is full: the spawn fails. -/
  | full (s' : State) (hdraws : Draws s s') : Spawns s slot s'
  /-- The reply mailbox was refused. -/
  | single (s₁ s₂ : State) (life : Incarnation) (hregisters : Registers s s₁ life)
      (hdraws : Draws s₁ s₂) : Spawns s slot (s₂.commit slot (some life) none)
  | pair (s₁ s₂ : State) (life reply : Incarnation) (hregisters : Registers s s₁ life)
      (hreply : Registers s₁ s₂ reply) :
      Spawns s slot (s₂.commit slot (some life) (some reply))

section

variable (h : Spawns s slot s')
include h

lemma Spawns.task_eq {other : Slot} (hne : other ≠ slot) : s'.task other = s.task other := by
  cases h with
  | plain => simp [commit, hne]
  | full _ hdraws => rw [hdraws.task]
  | single s₁ s₂ life hregs hdraws => simp [commit, hne, hdraws.task, hregs.task]
  | pair s₁ s₂ life reply hregs hreply =>
    simp [commit, hne, hreply.task, hregs.task]

lemma Spawns.owed_eq : s'.owed = s.owed := by
  cases h with
  | plain => rfl
  | full _ hdraws => exact hdraws.owed
  | single s₁ s₂ life hregs hdraws => exact hdraws.owed.trans hregs.owed
  | pair s₁ s₂ life reply hregs hreply => exact hreply.owed.trans hregs.owed

/-- A spawn leaves the records of awaited endpoints alone, also that of its own
slot. -/
lemma Spawns.callAwait_eq : s'.routing.callAwait = s.routing.callAwait := by
  cases h with
  | plain => rfl
  | full _ hdraws => rw [hdraws.routing]
  | single s₁ s₂ life hregs hdraws =>
    simp [commit, hdraws.routing, hregs.callAwait]
  | pair s₁ s₂ life reply hregs hreply =>
    simp [commit, hreply.callAwait, hregs.callAwait]

/-- A life that a spawn begins has an id it drew, and the history names its
generation. -/
lemma Spawns.lifeGen_cases (id : Nat) : s'.log.lifeGen id = s.log.lifeGen id ∨ id ∈ s.draws := by
  cases h with
  | plain => exact .inl rfl
  | full _ hdraws => exact .inl (by rw [hdraws.log])
  | single s₁ s₂ life hregs hdraws =>
    by_cases hid : id = life.id
    · exact .inr (hid ▸ hregs.mem_draws)
    · exact .inl (by simp [commit, hdraws.log, hregs.log, hid])
  | pair s₁ s₂ life reply hregs hreply =>
    by_cases hid : id = life.id
    · exact .inr (hid ▸ hregs.mem_draws)
    · by_cases hreplyId : id = reply.id
      · exact .inr (hreplyId ▸ hregs.mem_draws_second hreply)
      · exact .inl (by simp [commit, hreply.log, hregs.log, hid, hreplyId])

lemma Spawns.log_eq : ∃ lifeGen, s'.log = { s.log with lifeGen := lifeGen } := by
  cases h with
  | plain => exact ⟨_, rfl⟩
  | full _ hdraws => exact ⟨_, hdraws.log⟩
  | single s₁ s₂ life hregs hdraws =>
    exact ⟨_, by simp only [commit, setTask_log, hdraws.log, hregs.log]; rfl⟩
  | pair s₁ s₂ life reply hregs hreply =>
    exact ⟨_, by simp only [commit, setTask_log, hreply.log, hregs.log]; rfl⟩

end

lemma registers_of_tryRegister {id coreId generation : Nat} {ids : EndpointIds}
    {generations : GenerationCounter} {table : RoutingTable Msg}
    (halloc : s.ids.alloc = some (id, ids))
    (hdraw : nextGeneration s.generations = some (generation, generations))
    (htable : s.routing.table.tryRegister id coreId generation = some table) :
    Registers s { s with
      routing := { s.routing with table := table }
      ids := ids
      generations := generations
      log := { s.log with lifeGen := Function.update s.log.lifeGen id generation } }
      ⟨id, generation⟩ := by
  obtain ⟨hfresh, hothers⟩ := RoutingTable.lookup_tryRegister htable
  exact ⟨halloc, hdraw, ⟨coreId, hfresh⟩, hothers, rfl, rfl, rfl, rfl⟩

lemma draws_of_alloc {id generation : Nat} {ids ids' : EndpointIds}
    {generations : GenerationCounter} (halloc : s.ids.alloc = some (id, ids))
    (hdraw : nextGeneration s.generations = some (generation, generations))
    (hids : ids' = ids ∨ ids' = ids.release id) :
    Draws s { s with ids := ids', generations := generations } := by
  have hspec : s.ids.Issued → ids'.Issued ∧
      ∀ other, ids'.Available other → s.ids.Available other := by
    intro hissued
    obtain ⟨hissued', havail, -, hothers⟩ := EndpointIds.alloc_spec hissued halloc
    rcases hids with rfl | rfl
    · exact ⟨hissued', fun other h => ((hothers other).mp h).1⟩
    have hnot : ¬ ids.Available id := fun h => ((hothers id).mp h).2 rfl
    obtain ⟨hissued'', hback⟩ := EndpointIds.release_spec hissued' hnot
    refine ⟨hissued'', fun other h => ?_⟩
    rcases hback other h with hold | rfl
    · exact ((hothers other).mp hold).1
    · exact havail
  exact ⟨fun h => (hspec h).1, fun id h => (hspec h).2 id,
    fun g => above_mono_of_nextGeneration hdraw, rfl, rfl, rfl, rfl⟩

/-- **Every spawn is made of these parts.** -/
theorem spawns_of_spawn {coreId : Nat} {hasRecv grantReply : Bool}
    (h : s.spawn slot coreId hasRecv grantReply = some s') : Spawns s slot s' := by
  unfold spawn at h
  split at h
  · obtain ⟨⟨id, ids⟩, halloc, h⟩ := Option.bind_eq_some_iff.mp h
    obtain ⟨⟨generation, generations⟩, hdraw, h⟩ := Option.bind_eq_some_iff.mp h
    simp only at h
    split at h
    · cases h
      exact .full _ (draws_of_alloc halloc hdraw (.inl rfl))
    rename_i table htable
    have hregs := registers_of_tryRegister halloc hdraw htable
    -- the second endpoint is drawn from the state after the first
    obtain ⟨⟨replyId, replyIds⟩, hallocReply, h⟩ := Option.bind_eq_some_iff.mp h
    obtain ⟨⟨replyGen, replyGens⟩, hdrawReply, h⟩ := Option.bind_eq_some_iff.mp h
    simp only at h
    split at h
    · cases h
      exact .single _ _ _ hregs (draws_of_alloc hallocReply hdrawReply (.inr rfl))
    rename_i replyTable hgrant
    split at hgrant
    · cases h
      exact .pair _ _ _ _ hregs (registers_of_tryRegister hallocReply hdrawReply hgrant)
    · cases hgrant
  · cases h
    exact .plain

end Godspeed.Machine
