import Godspeed.Machine.TaskMove

/-!
# Endpoint lives

Which task an endpoint id belongs to, and whether its entry is alive.  `Lives`
is the invariant every later one rests on:

* an id that is kept by a task is not available to the allocator, and no two
  tasks keep the same id;
* the entry of an endpoint whose kill has not reached it is alive at the
  generation the task was spawned with; afterwards it is never alive at that
  generation again, also when the id has been handed to someone else;
* a task that waits on one of its own endpoints waits on a life that is its own
  or over.

Only the stages of a kill, a release and a spawn change any of this.  Every
other step satisfies `SameLives`, from which the invariant follows once.
-/

namespace Godspeed.Machine

open Ipc Capability Function State Machine.Task EndpointIds

/-- The kill of the task has not reached this endpoint. -/
def Task.active (task : Task) : Own → Prop
  | .endpoint => task.killStage ≠ some .draining ∧ task.killStage ≠ some .drained ∧
      task.killStage ≠ some .freed
  | .reply => task.killStage = none ∨ task.killStage = some .marked ∨
      task.killStage = some .cleared

/-- The id of this endpoint has not been given back. -/
def Task.keeps (task : Task) : Own → Prop
  | .endpoint => task.killStage ≠ some .freed
  | .reply => True

variable {task : Task} {s s' : State} {slot : Slot} {a : Action} {task' : Task}

lemma Task.keeps_of_active {own : Own} (h : task.active own) : task.keeps own := by
  cases own with
  | endpoint => exact h.2.2
  | reply => trivial

namespace State

variable (s : State)

/-- Liveness and generation of an endpoint's entry. -/
def life (id : Nat) : Option (EndpointLiveness × Nat) :=
  (s.entry id).map fun entry => (entry.liveness, entry.generation)

/-- The entry is alive at the generation of this life. -/
def Alive (life : Incarnation) : Prop :=
  s.life life.id = some (.alive, life.generation)

/-- The entry is alive at some generation. -/
def AliveId (id : Nat) : Prop := ∃ generation, s.life id = some (.alive, generation)

def Has (slot : Slot) (own : Own) (life : Incarnation) : Prop :=
  (s.task slot).valid = true ∧ (s.task slot).own own = some life

variable {s : State}

lemma alive_of_entry {life : Incarnation} {entry : EndpointState Msg}
    (hlook : s.entry life.id = some entry) (halive : entry.liveness = .alive)
    (hgen : life.generation = entry.generation) : s.Alive life := by
  simp [Alive, State.life, hlook, halive, hgen]

lemma aliveId_of_entry {id : Nat} {entry : EndpointState Msg} (hlook : s.entry id = some entry)
    (halive : entry.liveness = .alive) : s.AliveId id :=
  ⟨entry.generation, by simp [life, hlook, halive]⟩

lemma Alive.aliveId {life : Incarnation} (h : s.Alive life) : s.AliveId life.id := ⟨_, h⟩

end State

structure Lives (s : State) : Prop where
  issued : s.ids.Issued
  kept : ∀ slot own life, s.Has slot own life → (s.task slot).keeps own → ¬ s.ids.Available life.id
  unique : ∀ slot own life slot' own' life', s.Has slot own life → s.Has slot' own' life' →
    (s.task slot).keeps own → (s.task slot').keeps own' → life.id = life'.id →
    slot = slot' ∧ own = own'
  active : ∀ slot own life, s.Has slot own life → (s.task slot).active own → s.Alive life
  retired : ∀ slot own life, s.Has slot own life → (s.task slot).keeps own →
    ¬ (s.task slot).active own → ¬ s.AliveId life.id
  available : ∀ id, s.ids.Available id → ¬ s.AliveId id
  stale : ∀ slot own life, s.Has slot own life → ¬ (s.task slot).active own → ¬ s.Alive life
  bounded : ∀ slot own life, s.Has slot own life → s.generations.Above life.generation
  ranged : ∀ slot own life, s.Has slot own life → firstEndpointId ≤ life.id
  waits : ∀ slot life, (s.task slot).valid = true → (s.task slot).pc.own = some life →
    s.generations.Above life.generation ∧
      (s.Alive life → ∃ own, s.Has slot own life ∧ (s.task slot).active own)
  stage : ∀ slot, (s.task slot).killStage ≠ none →
    (s.task slot).valid = true ∧ (s.task slot).state = .dead
  cpu : ∀ slot, (s.task slot).onCpu = true → (s.task slot).valid = true

lemma Lives.killStage_eq_none (hlives : Lives s) (halive : (s.task slot).state ≠ .dead) :
    (s.task slot).killStage = none := by
  by_contra hstage
  exact halive (hlives.stage slot hstage).2

/-- Where a step leaves a task: only a dead task is being killed, only a valid one
is run, and an endpoint it waits on is one it had or was already waiting on. -/
structure Stands (s : State) (slot : Slot) (task : Task) : Prop where
  stage : task.killStage ≠ none → task.valid = true ∧ task.state = .dead
  cpu : task.onCpu = true → task.valid = true
  pc : ∀ life, task.valid = true → task.pc.own = some life → (s.task slot).valid = true ∧
    ((s.task slot).pc.own = some life ∨ ∃ own, (s.task slot).own own = some life)

lemma TaskMove.stands (hlives : Lives s) (h : TaskMove s a s' slot task) : Stands s slot task := by
  have hstage := hlives.stage slot
  have hcpu := hlives.cpu slot
  cases h with
  | same | disarmed => exact ⟨hstage, hcpu, fun life hvalid h => ⟨hvalid, .inl h⟩⟩
  | enters wait phase _ _ _ _ _ hown =>
    exact ⟨hstage, hcpu, fun life hvalid h => ⟨hvalid, .inr (hown life h)⟩⟩
  | returns => exact ⟨hstage, hcpu, nofun⟩
  | advances wait phase phase' deadline hat =>
    exact ⟨hstage, hcpu, fun life hvalid h => ⟨hvalid, .inl (hat.2.2 ▸ h)⟩⟩
  | finishes wait phase result deadline pending hat =>
    refine ⟨hstage, hcpu, fun life hvalid h => ⟨hvalid, .inl ?_⟩⟩
    rw [hat.2.2]
    rcases wait.after_cases result with huser | ⟨wait', phase', hafter, hown, -⟩
    · simp [huser, Pc.own] at h
    · simpa [hafter, Pc.own, hown] using h
  | parks wait hat _ hrun =>
    exact ⟨fun h => absurd (hstage h).2 (by simp [hrun]), nofun,
      fun life hvalid h => ⟨hvalid, .inl (hat.2.2 ▸ h)⟩⟩
  | dispatched hvalid _ hready =>
    exact ⟨fun h => absurd (hstage h).2 (by simp [hready]), fun _ => hvalid,
      fun life hvalid h => ⟨hvalid, .inl h⟩⟩
  | yielded =>
    refine ⟨fun h => ⟨(hstage h).1, ?_⟩, nofun, fun life hvalid h => ⟨hvalid, .inl h⟩⟩
    simp [(hstage h).2]
  | woken wake _ _ _ halive =>
    exact ⟨fun h => absurd (hstage h).2 halive, hcpu, fun life hvalid h => ⟨hvalid, .inl h⟩⟩
  | killed hvalid =>
    exact ⟨fun _ => ⟨hvalid, rfl⟩, hcpu, fun life hvalid h => ⟨hvalid, .inl h⟩⟩
  | dies reply next hdying =>
    exact ⟨fun _ => hstage hdying, hcpu, fun life hvalid h => ⟨hvalid, .inl h⟩⟩
  | released _ hoff => exact ⟨fun h => absurd rfl h, fun h => by simp [hoff] at h, nofun⟩
  | committed => exact ⟨fun h => absurd rfl h, nofun, nofun⟩

lemma Stands.of_task (hlives : Lives s) (htask : s'.task = s.task) (slot : Slot) :
    Stands s slot (s'.task slot) :=
  htask ▸ (show TaskMove s .tick s slot (s.task slot) from .same).stands hlives

/-- What a step that gives no task an endpoint may do: endpoints and ids may be
given up, entries of known lives may die, and the rest stays. -/
structure LivesShrink (s s' : State) : Prop where
  above : ∀ generation, s.generations.Above generation → s'.generations.Above generation
  issued : s'.ids.Issued
  available : ∀ id, s'.ids.Available id → s.ids.Available id ∨
    (¬ s.AliveId id ∧ ∀ slot own life, s'.Has slot own life → (s'.task slot).keeps own →
      life.id ≠ id)
  alive : ∀ life, s.generations.Above life.generation → s'.Alive life → s.Alive life
  aliveId : ∀ id, (s'.ids.Available id ∨ ∃ slot own life, s'.Has slot own life ∧
    (s'.task slot).keeps own ∧ life.id = id) → s'.AliveId id → s.AliveId id
  has : ∀ slot own life, s'.Has slot own life → s.Has slot own life
  keeps : ∀ slot own life, s'.Has slot own life → (s'.task slot).keeps own → (s.task slot).keeps own
  active : ∀ slot own life, s'.Has slot own life → (s'.task slot).active own →
    (s.task slot).active own ∧ (s.Alive life → s'.Alive life)
  inactive : ∀ slot own life, s'.Has slot own life → ¬ (s'.task slot).active own →
    ¬ (s.task slot).active own ∨ ¬ s'.AliveId life.id
  persists : ∀ slot own life, (s'.task slot).valid = true → s.Has slot own life →
    (s.task slot).active own → s'.Alive life →
    s'.Has slot own life ∧ (s'.task slot).active own

lemma State.AliveId.of_alive (h : ∀ life, s'.Alive life → s.Alive life) {id : Nat}
    (halive : s'.AliveId id) : s.AliveId id := by
  obtain ⟨generation, hlife⟩ := halive
  exact ⟨generation, h ⟨id, generation⟩ hlife⟩

/-- **The ownership invariant survives every step that gives no task an endpoint.** -/
theorem Lives.of_shrink (hlives : Lives s) (hstands : ∀ slot, Stands s slot (s'.task slot))
    (h : LivesShrink s s') : Lives s' where
  issued := h.issued
  kept slot own life hhas hkeeps havail := by
    rcases h.available _ havail with hold | ⟨-, hfree⟩
    · exact hlives.kept slot own life (h.has _ _ _ hhas) (h.keeps _ _ _ hhas hkeeps) hold
    · exact hfree slot own life hhas hkeeps rfl
  unique slot own life slot' own' life' hhas hhas' hkeeps hkeeps' :=
    hlives.unique slot own life slot' own' life' (h.has _ _ _ hhas) (h.has _ _ _ hhas')
      (h.keeps _ _ _ hhas hkeeps) (h.keeps _ _ _ hhas' hkeeps')
  active slot own life hhas hactive := by
    obtain ⟨hold, hlife⟩ := h.active slot own life hhas hactive
    exact hlife (hlives.active slot own life (h.has _ _ _ hhas) hold)
  retired slot own life hhas hkeeps hactive halive := by
    rcases h.inactive slot own life hhas hactive with hold | hgone
    · exact hlives.retired slot own life (h.has _ _ _ hhas) (h.keeps _ _ _ hhas hkeeps) hold
        (h.aliveId _ (.inr ⟨slot, own, life, hhas, hkeeps, rfl⟩) halive)
    · exact hgone halive
  available id havail halive := by
    have hold := h.aliveId id (.inl havail) halive
    rcases h.available id havail with hfree | ⟨hgone, -⟩
    · exact hlives.available id hfree hold
    · exact hgone hold
  stale slot own life hhas hactive halive := by
    have hold := h.has _ _ _ hhas
    rcases h.inactive slot own life hhas hactive with hinactive | hgone
    · exact hlives.stale slot own life hold hinactive
        (h.alive life (hlives.bounded slot own life hold) halive)
    · exact hgone halive.aliveId
  bounded slot own life hhas := h.above _ (hlives.bounded slot own life (h.has _ _ _ hhas))
  ranged slot own life hhas := hlives.ranged slot own life (h.has _ _ _ hhas)
  waits slot life hvalid hpc := by
    obtain ⟨holdValid, holdPc⟩ := (hstands slot).pc life hvalid hpc
    -- the wait is an old one, or it is on an endpoint the task has
    have hold : s.generations.Above life.generation ∧
        (s.Alive life → ∃ own, s.Has slot own life ∧ (s.task slot).active own) := by
      rcases holdPc with hold | ⟨own, hown⟩
      · exact hlives.waits slot life holdValid hold
      refine ⟨hlives.bounded slot own life ⟨holdValid, hown⟩,
        fun halive => ⟨own, ⟨holdValid, hown⟩, ?_⟩⟩
      by_contra hnot
      exact hlives.stale slot own life ⟨holdValid, hown⟩ hnot halive
    refine ⟨h.above _ hold.1, fun halive => ?_⟩
    obtain ⟨own, hhas, hactive⟩ := hold.2 (h.alive life hold.1 halive)
    exact ⟨own, h.persists slot own life hvalid hhas hactive halive⟩
  stage slot := (hstands slot).stage
  cpu slot := (hstands slot).cpu

/-- Ids, entries' lives and the endpoints the tasks have stay as they are. -/
structure SameLives (s s' : State) : Prop where
  ids : s'.ids = s.ids
  generations : s'.generations = s.generations
  life : s'.life = s.life
  valid : ∀ slot, (s'.task slot).valid = (s.task slot).valid
  own : ∀ slot own, (s'.task slot).own own = (s.task slot).own own
  active : ∀ slot own life, s.Has slot own life →
    ((s'.task slot).active own ↔ (s.task slot).active own)
  keeps : ∀ slot own life, s.Has slot own life →
    ((s'.task slot).keeps own ↔ (s.task slot).keeps own)

lemma SameLives.has (h : SameLives s s') {own : Own} {life : Incarnation} :
    s'.Has slot own life ↔ s.Has slot own life := by
  simp [Has, h.valid, h.own]

lemma SameLives.alive (h : SameLives s s') {life : Incarnation} : s'.Alive life ↔ s.Alive life := by
  simp [Alive, h.life]

lemma SameLives.shrink (hlives : Lives s) (h : SameLives s s') : LivesShrink s s' where
  above _ := h.generations ▸ id
  issued := h.ids ▸ hlives.issued
  available _ havail := .inl (h.ids ▸ havail)
  alive _ _ := h.alive.mp
  aliveId _ _ := .of_alive fun _ => h.alive.mp
  has _ _ _ := h.has.mp
  keeps slot own life hhas := (h.keeps slot own life (h.has.mp hhas)).mp
  active slot own life hhas hactive :=
    ⟨(h.active slot own life (h.has.mp hhas)).mp hactive, h.alive.mpr⟩
  inactive slot own life hhas hactive :=
    .inl fun hold => hactive ((h.active slot own life (h.has.mp hhas)).mpr hold)
  persists slot own life _ hhas hactive _ :=
    ⟨h.has.mpr hhas, (h.active slot own life hhas).mpr hactive⟩

/-! ## The steps that leave the lives alone -/

lemma life_write {endpoint : Nat} {entry entry' : EndpointState Msg}
    (hlook : s.entry endpoint = some entry)
    (hentry : s'.entry = (s.routing.table.write endpoint entry').lookup)
    (hlive : entry'.liveness = entry.liveness)
    (hgen : entry'.generation = entry.generation) : s'.life = s.life := by
  rw [lookup_write_entry hlook] at hentry
  funext id
  by_cases hid : id = endpoint
  · subst hid
    simp [life, hentry, hlook, hlive, hgen]
  · simp [life, hentry, hid]

lemma life_eq_of_entry (hentry : s'.entry = s.entry) : s'.life = s.life := by
  funext id
  simp [life, hentry]

lemma SameLives.of_tasks (hids : s'.ids = s.ids) (hgens : s'.generations = s.generations)
    (hlife : s'.life = s.life) (htask : s'.task = s.task) : SameLives s s' := by
  refine ⟨hids, hgens, hlife, ?_, ?_, ?_, ?_⟩ <;> simp [htask]

/-- What a step may do to the task it moves without touching any life. -/
structure KeepsLife (task task' : Task) : Prop where
  valid : task'.valid = task.valid
  endpoint : task'.endpoint = task.endpoint
  reply : task'.reply = task.reply
  active : ∀ own, task.own own ≠ none → (task'.active own ↔ task.active own)
  keeps : ∀ own, task.own own ≠ none → (task'.keeps own ↔ task.keeps own)

lemma SameLives.of_update (hids : s'.ids = s.ids)
    (hgens : s'.generations = s.generations) (hlife : s'.life = s.life)
    (htask : s'.task = update s.task slot task') (hkeeps : KeepsLife (s.task slot) task') :
    SameLives s s' := by
  have hcases : ∀ other, (other = slot ∧ s'.task other = task') ∨ s'.task other = s.task other := by
    intro other
    by_cases hother : other = slot
    · exact .inl ⟨hother, by rw [htask, hother, update_self]⟩
    · exact .inr (by rw [htask, update_of_ne hother])
  refine ⟨hids, hgens, hlife, ?_, ?_, ?_, ?_⟩
  · intro other
    rcases hcases other with ⟨rfl, h⟩ | h
    · rw [h, hkeeps.valid]
    · rw [h]
  · intro other own
    rcases hcases other with ⟨rfl, h⟩ | h
    · cases own <;> simp [h, Task.own, hkeeps.endpoint, hkeeps.reply]
    · rw [h]
  · intro other own life hhas
    rcases hcases other with ⟨rfl, h⟩ | h
    · rw [h]
      exact hkeeps.active own (by simp [hhas.2])
    · rw [h]
  · intro other own life hhas
    rcases hcases other with ⟨rfl, h⟩ | h
    · rw [h]
      exact hkeeps.keeps own (by simp [hhas.2])
    · rw [h]

lemma KeepsLife.of_stage (hvalid : task'.valid = task.valid)
    (hep : task'.endpoint = task.endpoint) (hreply : task'.reply = task.reply)
    (hstage : task'.killStage = task.killStage) : KeepsLife task task' where
  valid := hvalid
  endpoint := hep
  reply := hreply
  active own _ := by cases own <;> simp [Task.active, hstage]
  keeps own _ := by cases own <;> simp [Task.keeps, hstage]

lemma KeepsLife.of_wake (task : Task) (result : Int) : KeepsLife task (task.wakeBySlot result) := by
  unfold wakeBySlot
  split <;> exact .of_stage rfl rfl rfl rfl

lemma SameLives.of_finishBlock {s t : State} {slot : Slot} {wait : Wait} {result : Int}
    {pending : Bool}
    (htask : t.task = update s.task slot { s.task slot with wakePending := pending })
    (hrouting : t.routing = s.routing) (hids : t.ids = s.ids)
    (hgens : t.generations = s.generations) :
    SameLives s (t.finishBlock slot wait result) := by
  obtain ⟨⟨deadline, hfinish⟩, hrouting', -, hids', hgens'⟩ := t.finishBlock_spec slot wait result
  rw [htask, update_idem, update_self] at hfinish
  refine .of_update (hids'.trans hids) (hgens'.trans hgens) (life_eq_of_entry ?_)
    hfinish (.of_stage rfl rfl rfl rfl)
  funext id
  simp [entry, hrouting]

/-- The actions that end or begin a life. -/
def Action.lifecycle : Action → Prop
  | .kill _ | .killStep _ | .release _ | .spawn _ _ _ _ => True
  | _ => False

lemma Action.not_lifecycle (h : a.offers) : ¬ a.lifecycle := by
  cases a <;> first | exact id | cases h

lemma Effect.sameLives (h : Effect s a s') (ha : ¬ a.lifecycle) : SameLives s s' := by
  cases h with
  | refused | tryDead | ticked => exact .of_tasks rfl rfl rfl rfl
  | queued _ _ _ _ _ _ _ hlook | tryEmpty _ _ _ _ _ _ hlook =>
    exact .of_tasks rfl rfl (life_write hlook rfl rfl rfl) rfl
  | callQueued _ _ _ _ _ _ _ _ _ _ _ hlook | parked _ _ _ _ _ _ _ _ hlook
  | callParked _ _ _ _ _ _ _ _ _ _ hlook | recvEmpty _ _ _ _ _ hlook
  | callEmpty _ _ _ _ _ hlook =>
    exact .of_update rfl rfl (life_write hlook rfl rfl rfl) rfl (.of_stage rfl rfl rfl rfl)
  | received _ _ _ _ _ _ _ _ hlook _ _ _ hrel
  | replied _ _ _ _ _ _ hlook _ _ _ hrel =>
    exact .of_update rfl rfl (life_write hlook rfl hrel.liveness hrel.generation) rfl
      (.of_stage rfl rfl rfl rfl)
  | tryReceived _ _ _ _ _ _ _ _ _ hlook _ _ _ hrel =>
    exact .of_tasks rfl rfl (life_write hlook rfl hrel.liveness hrel.generation) rfl
  | blockPending => exact .of_finishBlock rfl rfl rfl rfl
  | blockFails slot | resumed slot =>
    exact .of_finishBlock (update_eq_self slot s.task).symm rfl rfl rfl
  | delivered index wake => exact .of_update rfl rfl rfl rfl (.of_wake _ wake.result)
  -- the steps that end or begin a life, and those that only move their task on
  | _ => first | exact absurd trivial ha | exact .of_update rfl rfl rfl rfl (.of_stage rfl rfl rfl rfl)

section Stages

variable {s : State} {slot : Slot}

lemma KeepsLife.of_next {stage next : KillStage} (hstage : (s.task slot).killStage = some stage)
    (hep : (s.task slot).endpoint ≠ none →
      ({ s.task slot with killStage := some next }.active .endpoint ↔
        (s.task slot).active .endpoint) ∧ (next = .freed ↔ stage = .freed))
    (hreply : (s.task slot).reply ≠ none →
      ({ s.task slot with killStage := some next }.active .reply ↔ (s.task slot).active .reply)) :
    KeepsLife (s.task slot) { s.task slot with killStage := some next } where
  valid := rfl
  endpoint := rfl
  reply := rfl
  active own hown := by
    cases own with
    | endpoint => exact (hep hown).1
    | reply => exact hreply hown
  keeps own hown := by
    cases own with
    | endpoint => simp [Task.keeps, hstage, (hep hown).2]
    | reply => exact Iff.rfl

lemma sameLives_kill (hlives : Lives s) (halive : (s.task slot).state ≠ .dead) :
    SameLives s (s.kill slot) := by
  obtain ⟨htask, hrouting, -, hids, hgens⟩ := s.kill_spec slot
  have hnone := hlives.killStage_eq_none halive
  refine SameLives.of_update hids hgens
    (life_eq_of_entry (by funext id; simp [entry])) htask ⟨rfl, rfl, rfl, ?_, ?_⟩
  · intro own _
    cases own <;> simp [active, hnone]
  · intro own _
    cases own <;> simp [keeps, hnone]

lemma sameLives_skip {stage next : KillStage} (hstage : (s.task slot).killStage = some stage)
    (hskip : ((s.task slot).reply = none ∧ next = .replyFreed ∧
        (stage = .cleared ∨ stage = .replyKilled)) ∨
      ((s.task slot).endpoint = none ∧ next = .freed ∧
        (stage = .replyFreed ∨ stage = .draining ∨ stage = .drained))) :
    SameLives s (s.setStage slot next) := by
  refine SameLives.of_update rfl rfl rfl rfl (.of_next hstage ?_ ?_)
  · intro hown
    rcases hskip with ⟨-, rfl, rfl | rfl⟩ | ⟨hnone, -⟩
    · simp [active, hstage]
    · simp [active, hstage]
    · exact absurd hnone hown
  · intro hown
    rcases hskip with ⟨hnone, -⟩ | ⟨-, rfl, rfl | rfl | rfl⟩
    · exact absurd hnone hown
    · simp [active, hstage]
    · simp [active, hstage]
    · simp [active, hstage]

end Stages

/-! ## The steps that end or begin a life -/

lemma life_of_killsEntry {victim : Slot} {endpoint : Nat} (h : KillsEntry s s' victim endpoint) :
    ¬ s'.AliveId endpoint ∧ ∀ id, id ≠ endpoint → s'.life id = s.life id := by
  cases h with
  | absent hlook hentry =>
    refine ⟨?_, fun id _ => by simp [life, hentry]⟩
    rintro ⟨generation, hlife⟩
    simp [life, hentry, hlook] at hlife
  | killed entry entry' hlook hentry hdead =>
    refine ⟨?_, fun id hid => by simp [life, hentry, hid]⟩
    rintro ⟨generation, hlife⟩
    simp [life, hentry, hdead] at hlife

section Ends

variable {s t : State} {slot : Slot} {own : Own} {life : Incarnation} {next : KillStage}

lemma has_of_update (htask : t.task = update s.task slot task')
    (hvalid : task'.valid → (s.task slot).valid)
    (hown : ∀ own life, task'.own own = some life → (s.task slot).own own = some life)
    {i : Slot} {o : Own} {a : Incarnation} (h : t.Has i o a) : s.Has i o a := by
  by_cases hi : i = slot
  · subst hi
    simp only [Has, htask, update_self] at h
    exact ⟨hvalid h.1, hown o a h.2⟩
  · simpa [Has, htask, hi] using h

lemma livesShrink_of_endpointKilled (hlives : Lives s) (hown : (s.task slot).own own = some life)
    (hstage : (own = .reply ∧ (s.task slot).killStage = some .cleared ∧ next = .replyKilled) ∨
      (own = .endpoint ∧ (s.task slot).killStage = some .replyFreed ∧ next = .draining))
    (hkill : s.killEndpoint slot life.id = some t) : LivesShrink s (t.setStage slot next) := by
  obtain ⟨hentry, htask, -, hids, hgens, -⟩ := killEndpoint_spec hkill
  obtain ⟨hgone, hother⟩ := life_of_killsEntry hentry
  have hvalid : (s.task slot).valid := by
    refine (hlives.stage slot ?_).1
    rcases hstage with ⟨-, h, -⟩ | ⟨-, h, -⟩ <;> simp [h]
  have htasks : (t.setStage slot next).task = update s.task slot
      { s.task slot with killStage := some next } := by
    simp [setStage, htask]
  have hhas : ∀ i o a, (t.setStage slot next).Has i o a → s.Has i o a := fun i o a =>
    has_of_update htasks id (fun o a h => by cases o <;> exact h)
  have hkeepsOwn : (s.task slot).keeps own := by
    rcases hstage with ⟨rfl, h, -⟩ | ⟨rfl, h, -⟩ <;> simp [keeps, h]
  -- only the endpoint that is killed stops being active
  have hactive : ∀ i o, ((t.setStage slot next).task i).active o ↔
      (s.task i).active o ∧ ¬ (i = slot ∧ o = own) := by
    intro i o
    by_cases hi : i = slot
    · subst hi
      rcases hstage with ⟨rfl, h, rfl⟩ | ⟨rfl, h, rfl⟩ <;> cases o <;> simp [active, htasks, h]
    · simp [htasks, hi]
  have halive : ∀ a, (t.setStage slot next).Alive a → s.Alive a ∧ a.id ≠ life.id := by
    intro a ha
    have hne : a.id ≠ life.id := fun heq => hgone (heq ▸ ha.aliveId)
    exact ⟨(hother a.id hne).symm.trans ha, hne⟩
  refine ⟨fun _ => hgens ▸ id, hids ▸ hlives.issued, fun id h => .inl (hids ▸ h),
    fun a _ h => (halive a h).1, fun id _ => .of_alive fun a h => (halive a h).1, hhas, ?_, ?_, ?_, ?_⟩
  · intro i o a _ hk
    by_cases hi : i = slot
    · subst hi
      rcases hstage with ⟨-, h, rfl⟩ | ⟨-, h, rfl⟩ <;> cases o <;> simp [keeps, h]
    · simpa [htasks, hi] using hk
  · intro i o a ha hact
    obtain ⟨hold, hnot⟩ := (hactive i o).mp hact
    refine ⟨hold, (hother a.id fun heq => hnot ?_).trans⟩
    exact hlives.unique i o a slot own life (hhas i o a ha) ⟨hvalid, hown⟩
      (keeps_of_active hold) hkeepsOwn heq
  · intro i o a ha hact
    by_cases hself : i = slot ∧ o = own
    · obtain ⟨rfl, rfl⟩ := hself
      have heq : a = life := Option.some.inj ((hhas i o a ha).2.symm.trans hown)
      exact .inr (heq ▸ hgone)
    · exact .inl fun hold => hact ((hactive i o).mpr ⟨hold, hself⟩)
  · intro i o a hv ha hact ha'
    have hnot : ¬ (i = slot ∧ o = own) := by
      rintro ⟨rfl, rfl⟩
      exact (halive a ha').2 (congrArg Incarnation.id (Option.some.inj (ha.2.symm.trans hown)))
    refine ⟨?_, (hactive i o).mpr ⟨hact, hnot⟩⟩
    by_cases hi : i = slot
    · subst hi
      cases o <;> simpa [Has, htasks, Task.own] using ha
    · simpa [Has, htasks, hi] using ha

/-- An id is given back after the entry died.  The task has the endpoint no
longer, or keeps its name without the id. -/
lemma livesShrink_of_freed (hlives : Lives s)
    (hown : (s.task slot).own own = some life) (hdying : (s.task slot).killStage ≠ none)
    (hkeeps : (s.task slot).keeps own) (hinactive : ¬ (s.task slot).active own)
    (htask : t.task = update s.task slot task') (hlife : t.life = s.life)
    (hids : t.ids = s.ids.release life.id) (hgens : t.generations = s.generations)
    (hvalid' : task'.valid = (s.task slot).valid)
    (hleft : ∀ o a, task'.own o = some a → (s.task slot).own o = some a ∧
      (task'.keeps o → (s.task slot).keeps o ∧ o ≠ own) ∧
      (task'.active o ↔ (s.task slot).active o))
    (hother : ∀ o a, (s.task slot).own o = some a → (s.task slot).active o →
      task'.own o = some a ∧ task'.active o) : LivesShrink s t := by
  have hvalid := (hlives.stage slot hdying).1
  have hself : s.Has slot own life := ⟨hvalid, hown⟩
  obtain ⟨hissued, havail⟩ := release_spec hlives.issued (hlives.kept slot own life hself hkeeps)
  have hhas : ∀ i o a, t.Has i o a → s.Has i o a := fun i o a =>
    has_of_update htask (fun _ => hvalid) fun o a h => (hleft o a h).1
  have hcases : ∀ i o a, t.Has i o a →
      ((t.task i).keeps o → (s.task i).keeps o ∧ ¬ (i = slot ∧ o = own)) ∧
      ((t.task i).active o ↔ (s.task i).active o) := by
    intro i o a h
    by_cases hi : i = slot
    · subst hi
      simp only [Has, htask, update_self] at h ⊢
      obtain ⟨-, hk, hact⟩ := hleft o a h.2
      exact ⟨fun h => ⟨(hk h).1, fun hself => (hk h).2 hself.2⟩, hact⟩
    · rw [htask, update_of_ne hi]
      exact ⟨fun h => ⟨h, fun hself => hi hself.1⟩, Iff.rfl⟩
  have halive : ∀ a, t.Alive a ↔ s.Alive a := by simp [Alive, hlife]
  refine ⟨fun _ => hgens ▸ id, hids ▸ hissued, ?_, fun a _ => (halive a).mp,
    fun id _ => .of_alive fun a => (halive a).mp, hhas, fun i o a h hk => ((hcases i o a h).1 hk).1,
    fun i o a h hact => ⟨(hcases i o a h).2.mp hact, (halive a).mpr⟩,
    fun i o a h hact => .inl fun hold => hact ((hcases i o a h).2.mpr hold), ?_⟩
  · intro id h
    rcases havail id (hids ▸ h) with hold | rfl
    · exact .inl hold
    · refine .inr ⟨hlives.retired slot own life hself hkeeps hinactive, fun i o a h hk heq => ?_⟩
      obtain ⟨hk, hne⟩ := (hcases i o a h).1 hk
      exact hne (hlives.unique i o a slot own life (hhas i o a h) hself hk hkeeps heq)
  · intro i o a _ h hact _
    by_cases hi : i = slot
    · subst hi
      obtain ⟨hown', hact'⟩ := hother o a h.2 hact
      simp only [Has, htask, update_self]
      exact ⟨⟨hvalid'.trans hvalid, hown'⟩, hact'⟩
    · simp only [Has, htask, update_of_ne hi]
      exact ⟨h, hact⟩

lemma livesShrink_of_released (hlives : Lives s) :
    LivesShrink s (s.setTask slot { s.task slot with valid := false, killStage := none }) := by
  have hsame : ∀ i, ((s.setTask slot { s.task slot with
      valid := false, killStage := none }).task i).valid →
      (s.setTask slot { s.task slot with valid := false, killStage := none }).task i = s.task i := by
    intro i h
    have hi : i ≠ slot := by
      rintro rfl
      simp at h
    simp [hi]
  refine ⟨fun _ => id, hlives.issued, fun id h => .inl h, fun a _ h => h, fun id _ h => h,
    ?_, ?_, ?_, ?_, ?_⟩
  · intro i o a h
    rwa [Has, hsame i h.1] at h
  · intro i o a h hk
    rwa [hsame i h.1] at hk
  · intro i o a h hact
    rw [hsame i h.1] at hact
    exact ⟨hact, id⟩
  · intro i o a h hact
    rw [hsame i h.1] at hact
    exact .inl hact
  · intro i o a hv h hact _
    rw [Has, hsame i hv]
    exact ⟨h, hact⟩

end Ends

/-- A life that has begun and that no task has yet. -/
structure Fresh (s : State) (life : Incarnation) : Prop where
  alive : s.Alive life
  taken : ¬ s.ids.Available life.id
  unkept : ∀ slot own other, s.Has slot own other → (s.task slot).keeps own → other.id ≠ life.id
  above : s.generations.Above life.generation
  ranged : firstEndpointId ≤ life.id

section Begins

variable {s s' : State} {slot : Slot} {life : Incarnation}

lemma Draws.life_eq (h : Draws s s') : s'.life = s.life :=
  life_eq_of_entry (by funext id; simp [entry, h.routing])

lemma Draws.lives (hlives : Lives s) (h : Draws s s') : Lives s' := by
  have hhas : ∀ i o a, s'.Has i o a → s.Has i o a := by simp [Has, h.task]
  have halive : ∀ a, s'.Alive a ↔ s.Alive a := by simp [Alive, h.life_eq]
  refine hlives.of_shrink (.of_task hlives h.task) ⟨h.above, h.issued hlives.issued,
    fun id hav => .inl (h.available id hlives.issued hav), fun a _ => (halive a).mp,
    fun id _ => .of_alive fun a => (halive a).mp, hhas, ?_, ?_, ?_, ?_⟩
  · simp [h.task]
  · exact fun i o a _ hact => ⟨h.task ▸ hact, (halive a).mpr⟩
  · exact fun i o a _ hact => .inl (h.task ▸ hact)
  · exact fun i o a _ ha hact _ => ⟨by rwa [Has, h.task], h.task ▸ hact⟩

lemma Draws.fresh (hlives : Lives s) (h : Draws s s') (hfresh : Fresh s life) : Fresh s' life where
  alive := by simpa [Alive, h.life_eq] using hfresh.alive
  taken havail := hfresh.taken (h.available life.id hlives.issued havail)
  unkept := by simpa only [Has, h.task] using hfresh.unkept
  above := h.above _ hfresh.above
  ranged := hfresh.ranged

section

variable (h : Registers s s' life)
include h

lemma Registers.alive_iff (other : Incarnation)
    (hne : other.id ≠ life.id) : s'.Alive other ↔ s.Alive other := by
  rcases h.others other.id hne with hsame | ⟨hnone, entry, hlook, hdead⟩
  · simp [Alive, State.life, hsame]
  · simp [Alive, State.life, hnone, hlook, hdead]

lemma Registers.aliveId_iff (id : Nat) (hne : id ≠ life.id) : s'.AliveId id ↔ s.AliveId id :=
  exists_congr fun generation => h.alive_iff ⟨id, generation⟩ hne

lemma Registers.alive_self : s'.Alive life := by
  obtain ⟨coreId, hentry⟩ := h.fresh
  simp [Alive, State.life, hentry, EndpointState.fresh]

lemma Registers.generation_eq {other : Incarnation}
    (halive : s'.Alive other) (hid : other.id = life.id) : other = life := by
  have hself := h.alive_self
  rw [Alive, hid, hself] at halive
  cases other
  cases life
  simp_all

end

lemma Registers.drawn (hlives : Lives s) (h : Registers s s' life) :
    s'.ids.Issued ∧ (∀ id, s'.ids.Available id ↔ s.ids.Available id ∧ id ≠ life.id) ∧
      (∀ i o a, s.Has i o a → (s.task i).keeps o → a.id ≠ life.id) ∧
      ∀ g, s.generations.Above g → g < life.generation := by
  obtain ⟨hissued, havail, -, hothers⟩ := alloc_spec hlives.issued h.alloc
  exact ⟨hissued, hothers, fun i o a ha hk heq => hlives.kept i o a ha hk (heq ▸ havail),
    fun g hg => lt_of_nextGeneration h.draw hg⟩

lemma Registers.lives (hlives : Lives s) (h : Registers s s' life) : Lives s' ∧ Fresh s' life ∧
      ∀ other, Fresh s other → Fresh s' other ∧ other.id ≠ life.id := by
  obtain ⟨hissued, havail, hnew, hbelow⟩ := h.drawn hlives
  have habove : ∀ g, s.generations.Above g → s'.generations.Above g :=
    fun g => above_mono_of_nextGeneration h.draw
  have hhas : ∀ i o a, s'.Has i o a ↔ s.Has i o a := by simp [Has, h.task]
  -- a life some task knows of is older than the new one
  have hold : ∀ a, s.generations.Above a.generation → s'.Alive a → s.Alive a := by
    intro a hbound halive
    have hne : a.id ≠ life.id := by
      intro heq
      have := hbelow _ hbound
      rw [h.generation_eq halive heq] at this
      exact Nat.lt_irrefl _ this
    exact (h.alive_iff a hne).mp halive
  have hlives' : LivesShrink s s' := by
    refine ⟨habove, hissued, fun id hav => .inl ((havail id).mp hav).1, hold, ?_,
      fun i o a => (hhas i o a).mp, ?_, ?_, ?_, ?_⟩
    · rintro id hknown halive
      refine (h.aliveId_iff id ?_).mp halive
      rcases hknown with hav | ⟨i, o, a, ha, hk, rfl⟩
      · exact ((havail id).mp hav).2
      · exact hnew i o a ((hhas i o a).mp ha) (h.task ▸ hk)
    · simp [h.task]
    · intro i o a ha hact
      rw [h.task] at hact
      exact ⟨hact, (h.alive_iff a (hnew i o a ((hhas i o a).mp ha) (keeps_of_active hact))).mpr⟩
    · exact fun i o a _ hact => .inl (h.task ▸ hact)
    · exact fun i o a _ ha hact _ => ⟨(hhas i o a).mpr ha, h.task ▸ hact⟩
  refine ⟨hlives.of_shrink (.of_task hlives h.task) hlives',
    ⟨h.alive_self, fun hav => ((havail _).mp hav).2 rfl, ?_, above_of_nextGeneration h.draw,
      (alloc_spec hlives.issued h.alloc).2.2.1⟩,
    fun other hfresh => ?_⟩
  · simpa only [hhas, h.task] using hnew
  have hne : other.id ≠ life.id := by
    obtain ⟨-, hav, -, -⟩ := alloc_spec hlives.issued h.alloc
    exact fun heq => hfresh.taken (heq ▸ hav)
  exact ⟨⟨(h.alive_iff other hne).mpr hfresh.alive,
    fun hav => hfresh.taken ((havail _).mp hav).1,
    by simpa only [hhas, h.task] using hfresh.unkept, habove _ hfresh.above, hfresh.ranged⟩, hne⟩

lemma lives_commit {endpoint reply : Option Incarnation} (hlives : Lives s)
    (hvalid : (s.task slot).valid = false) (hep : ∀ a ∈ endpoint, Fresh s a)
    (hreply : ∀ a ∈ reply, Fresh s a) (hdistinct : ∀ a ∈ endpoint, ∀ b ∈ reply, a.id ≠ b.id) :
    Lives (s.commit slot endpoint reply) := by
  have htask : ∀ i, i ≠ slot → (s.commit slot endpoint reply).task i = s.task i := by
    intro i hi
    simp [commit, hi]
  have hself : (s.commit slot endpoint reply).task slot = { s.task slot with
      valid := true, state := .ready, onCpu := false, endpoint := endpoint, reply := reply,
      pc := .user, killStage := none } := by
    simp [commit]
  -- what a task has is what it had, or one of the fresh lives
  have hcases : ∀ i o a, (s.commit slot endpoint reply).Has i o a →
      (i ≠ slot ∧ s.Has i o a) ∨ (i = slot ∧ Fresh s a ∧
        ((o = .endpoint ∧ a ∈ endpoint) ∨ (o = .reply ∧ a ∈ reply))) := by
    intro i o a h
    by_cases hi : i = slot
    · subst hi
      rw [Has, hself] at h
      cases o with
      | endpoint => exact .inr ⟨rfl, hep a h.2, .inl ⟨rfl, h.2⟩⟩
      | reply => exact .inr ⟨rfl, hreply a h.2, .inr ⟨rfl, h.2⟩⟩
    · rw [Has, htask i hi] at h
      exact .inl ⟨hi, h⟩
  have hactive : ∀ o, ((s.commit slot endpoint reply).task slot).active o := by
    intro o
    rw [hself]
    cases o <;> simp [active]
  refine ⟨hlives.issued, ?_, ?_, ?_, ?_, hlives.available, ?_, ?_, ?_, ?_, ?_, ?_⟩
  · intro i o a h hk
    rcases hcases i o a h with ⟨hi, hold⟩ | ⟨-, hfresh, -⟩
    · exact hlives.kept i o a hold (htask i hi ▸ hk)
    · exact hfresh.taken
  · intro i o a j o' b h h' hk hk' heq
    rcases hcases i o a h with ⟨hi, hold⟩ | ⟨rfl, hfresh, hwhich⟩ <;>
      rcases hcases j o' b h' with ⟨hj, hold'⟩ | ⟨rfl, hfresh', hwhich'⟩
    · rw [htask i hi] at hk
      rw [htask j hj] at hk'
      exact hlives.unique i o a j o' b hold hold' hk hk' heq
    · rw [htask i hi] at hk
      exact absurd heq (hfresh'.unkept i o a hold hk)
    · rw [htask j hj] at hk'
      exact absurd heq.symm (hfresh.unkept j o' b hold' hk')
    · rcases hwhich with ⟨rfl, ha⟩ | ⟨rfl, ha⟩ <;> rcases hwhich' with ⟨rfl, hb⟩ | ⟨rfl, hb⟩
      · exact ⟨rfl, rfl⟩
      · exact absurd heq (hdistinct a ha b hb)
      · exact absurd heq.symm (hdistinct b hb a ha)
      · exact ⟨rfl, rfl⟩
  · intro i o a h hact
    rcases hcases i o a h with ⟨hi, hold⟩ | ⟨-, hfresh, -⟩
    · exact hlives.active i o a hold (htask i hi ▸ hact)
    · exact hfresh.alive
  · intro i o a h hk hact
    rcases hcases i o a h with ⟨hi, hold⟩ | ⟨rfl, -, -⟩
    · rw [htask i hi] at hk hact
      exact hlives.retired i o a hold hk hact
    · exact absurd (hactive o) hact
  · intro i o a h hact
    rcases hcases i o a h with ⟨hi, hold⟩ | ⟨rfl, -, -⟩
    · rw [htask i hi] at hact
      exact hlives.stale i o a hold hact
    · exact absurd (hactive o) hact
  · intro i o a h
    rcases hcases i o a h with ⟨hi, hold⟩ | ⟨-, hfresh, -⟩
    · exact hlives.bounded i o a hold
    · exact hfresh.above
  · intro i o a h
    rcases hcases i o a h with ⟨hi, hold⟩ | ⟨-, hfresh, -⟩
    · exact hlives.ranged i o a hold
    · exact hfresh.ranged
  · intro i a hv hpc
    by_cases hi : i = slot
    · subst hi
      rw [hself] at hpc
      cases hpc
    · rw [htask i hi] at hv hpc ⊢
      obtain ⟨habove, hown⟩ := hlives.waits i a hv hpc
      refine ⟨habove, fun halive => ?_⟩
      obtain ⟨o, hhas, hact⟩ := hown halive
      exact ⟨o, by rwa [Has, htask i hi], hact⟩
  · intro i hne
    by_cases hi : i = slot
    · subst hi
      rw [hself] at hne
      exact absurd rfl hne
    · rw [htask i hi] at hne ⊢
      exact hlives.stage i hne
  · intro i hcpu
    by_cases hi : i = slot
    · subst hi
      rw [hself] at hcpu
      cases hcpu
    · rw [htask i hi] at hcpu ⊢
      exact hlives.cpu i hcpu

lemma lives_spawn (hlives : Lives s) (hvalid : (s.task slot).valid = false)
    (h : Spawns s slot s') : Lives s' := by
  cases h with
  | plain => exact lives_commit hlives hvalid nofun nofun nofun
  | full _ hdraws => exact hdraws.lives hlives
  | single s₁ s₂ life hregs hdraws =>
    obtain ⟨hlives₁, hfresh, -⟩ := hregs.lives hlives
    refine lives_commit (hdraws.lives hlives₁) ?_ ?_ nofun nofun
    · rw [hdraws.task, hregs.task, hvalid]
    · rintro a ⟨⟩
      exact hdraws.fresh hlives₁ hfresh
  | pair s₁ s₂ life reply hregs hreply =>
    obtain ⟨hlives₁, hfresh, -⟩ := hregs.lives hlives
    obtain ⟨hlives₂, hfreshReply, hkeep⟩ := hreply.lives hlives₁
    obtain ⟨hfresh₂, hne⟩ := hkeep life hfresh
    refine lives_commit hlives₂ ?_ ?_ ?_ ?_
    · rw [hreply.task, hregs.task, hvalid]
    · rintro a ⟨⟩
      exact hfresh₂
    · rintro a ⟨⟩
      exact hfreshReply
    · rintro a ⟨⟩ b ⟨⟩
      exact hne

end Begins

lemma Effect.lives (hlives : Lives s) (h : Effect s a s') : Lives s' := by
  have hstands := fun slot => (h.taskMove slot).stands hlives
  by_cases hlifecycle : a.lifecycle
  · cases h with
    | killed slot _ halive =>
      exact hlives.of_shrink hstands ((sameLives_kill hlives halive).shrink hlives)
    | awaitCleared slot hstage | waitersDrained slot life hstage hown hnone =>
      refine hlives.of_shrink hstands (SameLives.shrink hlives
        (SameLives.of_update rfl rfl rfl rfl (.of_next hstage ?_ ?_)))
      · simp [active, hstage]
      · simp [active, hstage]
    | stageSkipped slot stage next hstage hskip =>
      exact hlives.of_shrink hstands ((sameLives_skip hstage hskip).shrink hlives)
    | endpointKilled slot own life t next hown hstage hkill =>
      exact hlives.of_shrink hstands (livesShrink_of_endpointKilled hlives hown hstage hkill)
    | replyFreed slot life hstage hreply =>
      have hown : (s.task slot).own .reply = some life := hreply
      refine hlives.of_shrink hstands (livesShrink_of_freed hlives hown
        (by simp [hstage]) trivial (by simp [active, hstage]) rfl rfl rfl rfl rfl ?_ ?_)
      · intro o a h
        cases o with
        | endpoint => exact ⟨h, by simp [keeps, hstage], by simp [active, hstage]⟩
        | reply => cases h
      · intro o a h hact
        cases o with
        | endpoint => exact ⟨h, by simp [active]⟩
        | reply => simp [active, hstage] at hact
    | waiterTaken =>
      exact hlives.of_shrink hstands (SameLives.shrink hlives (.of_tasks rfl rfl rfl rfl))
    | endpointFreed slot life hstage hown =>
      have hself : (s.task slot).own .endpoint = some life := hown
      refine hlives.of_shrink hstands (livesShrink_of_freed hlives hself
        (by simp [hstage]) (by simp [keeps, hstage]) (by simp [active, hstage])
        rfl rfl rfl rfl rfl ?_ ?_)
      · intro o a h
        cases o with
        | endpoint | reply => exact ⟨h, by simp [keeps], by simp [active, hstage]⟩
      · intro o a h hact
        cases o <;> simp [active, hstage] at hact
    | released slot => exact hlives.of_shrink hstands (livesShrink_of_released hlives)
    | spawned slot coreId hasRecv grantReply t hvalid hspawn =>
      exact lives_spawn hlives hvalid (spawns_of_spawn hspawn)
    | refused _ hoffers | queued _ _ _ _ _ _ hoffers | callQueued _ _ _ _ _ _ _ hoffers =>
      exact absurd hlifecycle (Action.not_lifecycle hoffers)
    | parked _ _ _ _ _ _ haction | callParked _ _ _ _ _ _ haction =>
      exact absurd hlifecycle (Action.not_lifecycle (Action.offers_of_blockingSend haction))
    | _ => cases hlifecycle
  · exact hlives.of_shrink hstands ((h.sameLives hlifecycle).shrink hlives)

lemma lives_boot : Lives boot := by
  have hhas : ∀ i o a, ¬ boot.Has i o a := by
    rintro i o a ⟨hvalid, -⟩
    cases hvalid
  have hdead : ∀ id, ¬ boot.AliveId id := by
    rintro id ⟨generation, h⟩
    simp [life, entry, boot, Routing.init] at h
  exact ⟨issued_init, fun i o a h => absurd h (hhas i o a),
    fun i o a _ _ _ h => absurd h (hhas i o a), fun i o a h => absurd h (hhas i o a),
    fun i o a h => absurd h (hhas i o a), fun id _ => hdead id,
    fun i o a h => absurd h (hhas i o a), fun i o a h => absurd h (hhas i o a),
    fun i o a h => absurd h (hhas i o a), nofun, fun i h => absurd rfl h, nofun⟩

/-- **Ownership of endpoint lives, over every run.** -/
theorem lives_of_reached {ok : State → Action → Prop} (h : Reached ok s) : Lives s :=
  h.invariant lives_boot fun _ _ _ hlives _ hstep => (effect_of_step hstep).lives hlives

end Godspeed.Machine
