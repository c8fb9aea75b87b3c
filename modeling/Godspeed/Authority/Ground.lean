import Godspeed.Authority.Move

/-!
# Endpoints, ids and names

The invariant the other results of the machine rest on.  An endpoint that a
task has is not available to the allocator, belongs to that task alone, has a
recorded generation below the global counter and is alive in the routing table,
where nothing else is; a name in the directory leads to the receive endpoint of
a task of that name; and the gate resources keep the generation they were
registered with.
-/

namespace Godspeed.Authority

open Capability Ipc RoutingTable EndpointIds NameTable

/-- The bookkeeping of endpoints agrees with the tasks. -/
structure Ground (s : State) : Prop where
  issued : s.ids.Issued
  length : ∀ slot task, s.tasks slot = some task → task.name.length ≤ nameMax
  taken : ∀ slot task endpoint, s.tasks slot = some task → task.Owns endpoint →
    ¬ s.ids.Available endpoint
  ranged : ∀ slot task endpoint, s.tasks slot = some task → task.Owns endpoint →
    firstEndpointId ≤ endpoint ∧ endpoint < delegatedBase
  apart : ∀ slot slot' task task' endpoint, s.tasks slot = some task →
    s.tasks slot' = some task' → task.Owns endpoint → task'.Owns endpoint → slot = slot'
  split : ∀ slot task endpoint, s.tasks slot = some task → task.endpoint = some endpoint →
    task.replyEndpoint ≠ some endpoint
  current : ∀ slot task endpoint, s.tasks slot = some task → task.Owns endpoint →
    ∃ generation, s.ledger.generationOf endpoint = some generation ∧
      s.generations.Above generation
  named : ∀ name endpoint, s.names.lookup name = some endpoint →
    ∃ slot task, s.tasks slot = some task ∧ task.endpoint = some endpoint ∧ task.name = name
  gates : ∀ id, isGate id = true → s.ledger.generationOf id = some Generation.initial
  routed : ∀ id, s.routing.Alive id ↔ ∃ slot task, s.tasks slot = some task ∧ task.Owns id
  size : s.routing.entries.length = maxEndpoints

lemma ground_boot : Ground boot where
  issued := issued_init
  length _ _ h := absurd h (by simp [boot])
  taken _ _ _ h := absurd h (by simp [boot])
  ranged _ _ _ h := absurd h (by simp [boot])
  apart _ _ _ _ _ h := absurd h (by simp [boot])
  split _ _ _ h := absurd h (by simp [boot])
  current _ _ _ h := absurd h (by simp [boot])
  named _ _ h := absurd h (by simp [boot])
  gates id h := by
    rw [boot, Ledger.init, Ledger.generationOf, ResourceTable.getResourceGeneration_init, if_pos h]
  routed id := by simp [boot, Alive]
  size := List.length_replicate

variable {s s' : State} {slot : Slot} {task : Task}

lemma registerEndpoint_spec {opened : State} {endpoint generation : Nat}
    (h : registerEndpoint s = some (endpoint, generation, opened)) :
    ∃ ids counter, s.ids.alloc = some (endpoint, ids) ∧
      nextGeneration s.generations = some (generation, counter) ∧
      opened = { s with
        ids := ids
        generations := counter
        ledger := s.ledger.registerAtGen endpoint generation } := by
  unfold registerEndpoint at h
  split at h
  · cases h
  rename_i found ids halloc
  split at h
  · cases h
  rename_i drawn counter hdraw
  obtain ⟨rfl, rfl, rfl⟩ : found = endpoint ∧ drawn = generation ∧ _ = opened := by
    simpa using h
  exact ⟨ids, counter, halloc, hdraw, rfl⟩

lemma tasks_setTask {other : Slot} {new : Option Task} {found : Task} :
    (s.setTask slot new).tasks other = some found ↔
      (other = slot ∧ new = some found) ∨ (other ≠ slot ∧ s.tasks other = some found) := by
  by_cases hother : other = slot
  · subst hother
    simp [State.setTask]
  · simp [State.setTask, hother]

lemma SameIdentity.owns_iff {task' : Task} (h : SameIdentity task task') {endpoint : Nat} :
    task'.Owns endpoint ↔ task.Owns endpoint := by
  unfold Task.Owns
  rw [h.endpoint, h.replyEndpoint]

lemma ne_id_of_lt {id : Nat} (bandSlot : BandSlot) (h : id < delegatedBase) : id ≠ bandSlot.id := by
  unfold BandSlot.id
  omega

lemma generationOf_registerAtGen_of_lt {ledger : Ledger} {id : Nat} (bandSlot : BandSlot)
    (generation : Nat) (h : id < delegatedBase) :
    (ledger.registerAtGen bandSlot.id generation).generationOf id = ledger.generationOf id := by
  rw [Ledger.generationOf_registerAtGen, Function.update_of_ne (ne_id_of_lt bandSlot h)]

/-- The identities of the tasks, seen from another state. -/
def SameTasks (s s' : State) : Prop :=
  ∀ slot, (s.tasks slot = none ∧ s'.tasks slot = none) ∨
    ∃ task task', s.tasks slot = some task ∧ s'.tasks slot = some task' ∧ SameIdentity task task'

lemma sameTasks_of_eq (h : s'.tasks = s.tasks) : SameTasks s s' := by
  intro slot
  rw [h]
  cases htask : s.tasks slot with
  | none => exact .inl ⟨rfl, rfl⟩
  | some task => exact .inr ⟨task, task, rfl, rfl, .refl task⟩

lemma SameTasks.back (h : SameTasks s s') {task' : Task} (htask' : s'.tasks slot = some task') :
    ∃ task, s.tasks slot = some task ∧ SameIdentity task task' := by
  rcases h slot with ⟨-, hnone⟩ | ⟨task, same, htask, hsome, hsame⟩
  · rw [hnone] at htask'
    cases htask'
  · rw [hsome] at htask'
    cases htask'
    exact ⟨task, htask, hsame⟩

lemma SameTasks.forth (h : SameTasks s s') (htask : s.tasks slot = some task) :
    ∃ task', s'.tasks slot = some task' ∧ SameIdentity task task' := by
  rcases h slot with ⟨hnone, -⟩ | ⟨same, task', hsome, htask', hsame⟩
  · rw [hnone] at htask
    cases htask
  · rw [hsome] at htask
    cases htask
    exact ⟨task', htask', hsame⟩

namespace Ground

variable {s s' : State}

/-- The invariant reads identities, ids, names and the generations below the
band, and nothing else; and a task that owns nothing does not disturb it. -/
lemma of_tasks (h : Ground s) (hback : ∀ slot task', s'.tasks slot = some task' →
      (∃ task, s.tasks slot = some task ∧ SameIdentity task task') ∨
        ((∀ x, ¬ task'.Owns x) ∧ task'.name.length ≤ nameMax))
    (hforth : ∀ slot task, s.tasks slot = some task →
      ∃ task', s'.tasks slot = some task' ∧ SameIdentity task task')
    (hissued : s'.ids.Issued)
    (havailable : ∀ id, s'.ids.Available id → s.ids.Available id ∨
      ∀ slot task, s.tasks slot = some task → ¬ task.Owns id)
    (hnames : s'.names = s.names)
    (habove : ∀ g, s.generations.Above g → s'.generations.Above g)
    (hgeneration : ∀ id, id < delegatedBase →
      (isGate id ∨ ∃ slot task, s.tasks slot = some task ∧ task.Owns id) →
      s'.ledger.generationOf id = s.ledger.generationOf id)
    (hlive : SameLive s.routing s'.routing) : Ground s' := by
  have hown : ∀ slot task' x, s'.tasks slot = some task' → task'.Owns x →
      ∃ task, s.tasks slot = some task ∧ task.Owns x ∧ SameIdentity task task' := by
    intro slot task' x htask' hx
    rcases hback slot task' htask' with ⟨task, htask, hsame⟩ | ⟨hnothing, -⟩
    · exact ⟨task, htask, hsame.owns_iff.mp hx, hsame⟩
    · exact absurd hx (hnothing x)
  refine ⟨hissued, ?_, ?_, ?_, ?_, ?_, ?_, ?_, ?_, ?_, hlive.size.trans h.size⟩
  · intro slot task' htask'
    rcases hback slot task' htask' with ⟨task, htask, hsame⟩ | ⟨-, hlen⟩
    · rw [hsame.name]
      exact h.length slot task htask
    · exact hlen
  · intro slot task' x htask' hx havail
    obtain ⟨task, htask, hx, -⟩ := hown slot task' x htask' hx
    rcases havailable x havail with hold | hunowned
    · exact h.taken slot task x htask hx hold
    · exact hunowned slot task htask hx
  · intro slot task' x htask' hx
    obtain ⟨task, htask, hx, -⟩ := hown slot task' x htask' hx
    exact h.ranged slot task x htask hx
  · intro slot slot' task' other' x htask' hother' hx hx'
    obtain ⟨task, htask, hx, -⟩ := hown slot task' x htask' hx
    obtain ⟨other, hother, hx', -⟩ := hown slot' other' x hother' hx'
    exact h.apart slot slot' task other x htask hother hx hx'
  · intro slot task' x htask' hx
    obtain ⟨task, htask, -, hsame⟩ := hown slot task' x htask' (.inl hx)
    rw [hsame.endpoint] at hx
    rw [hsame.replyEndpoint]
    exact h.split slot task x htask hx
  · intro slot task' x htask' hx
    obtain ⟨task, htask, hx, -⟩ := hown slot task' x htask' hx
    obtain ⟨generation, hgen, hgt⟩ := h.current slot task x htask hx
    refine ⟨generation, ?_, habove _ hgt⟩
    rw [hgeneration x (h.ranged slot task x htask hx).2 (.inr ⟨slot, task, htask, hx⟩), hgen]
  · intro name endpoint hlook
    rw [hnames] at hlook
    obtain ⟨slot, task, htask, hep, hname⟩ := h.named name endpoint hlook
    obtain ⟨task', htask', hsame⟩ := hforth slot task htask
    exact ⟨slot, task', htask', hsame.endpoint.trans hep, hsame.name.trans hname⟩
  · intro id hgate
    have hlt := lt_firstEndpointId_of_isGate hgate
    rw [hgeneration id (hlt.trans (by decide)) (.inl hgate)]
    exact h.gates id hgate
  · intro id
    rw [hlive.alive, h.routed]
    constructor
    · rintro ⟨slot, task, htask, howns⟩
      obtain ⟨task', htask', hsame⟩ := hforth slot task htask
      exact ⟨slot, task', htask', hsame.owns_iff.mpr howns⟩
    · rintro ⟨slot, task', htask', hx⟩
      obtain ⟨task, htask, hx, -⟩ := hown slot task' id htask' hx
      exact ⟨slot, task, htask, hx⟩

lemma of_sameTasks (h : Ground s) (htasks : SameTasks s s') (hids : s'.ids = s.ids)
    (hnames : s'.names = s.names) (hgens : s'.generations = s.generations)
    (hlive : SameLive s.routing s'.routing) (hgen : ∀ id, id < delegatedBase →
      s'.ledger.generationOf id = s.ledger.generationOf id) : Ground s' :=
  h.of_tasks (fun _ _ htask => .inl (htasks.back htask)) (fun _ _ htask => htasks.forth htask)
    (hids ▸ h.issued) (fun _ havail => .inl (hids ▸ havail)) hnames
    (fun _ hg => hgens ▸ hg) (fun id hrange _ => hgen id hrange) hlive

/-- What `registerEndpoint` returns is new to everybody. -/
structure Opened (s : State) (endpoint : Nat) (opened : State) : Prop where
  tasks : opened.tasks = s.tasks
  names : opened.names = s.names
  band : opened.band = s.band
  routing : opened.routing = s.routing
  credits : opened.credits = s.credits
  irqs : opened.irqs = s.irqs
  issued : opened.ids.Issued
  available : ∀ id, opened.ids.Available id → s.ids.Available id
  taken : ¬ opened.ids.Available endpoint
  ranged : firstEndpointId ≤ endpoint ∧ endpoint < delegatedBase
  unowned : ∀ slot task, s.tasks slot = some task → ¬ task.Owns endpoint
  current : ∃ generation, opened.ledger.generationOf endpoint = some generation ∧
    opened.generations.Above generation
  above : ∀ g, s.generations.Above g → opened.generations.Above g
  others : ∀ id, id ≠ endpoint → opened.ledger.generationOf id = s.ledger.generationOf id

lemma opened (h : Ground s) {endpoint generation : Nat} {opened : State}
    (hopen : registerEndpoint s = some (endpoint, generation, opened)) :
    Opened s endpoint opened := by
  obtain ⟨ids, counter, halloc, hdraw, rfl⟩ := registerEndpoint_spec hopen
  obtain ⟨hissued, havail, hfirst, hothers⟩ := alloc_spec h.issued halloc
  have hrange := lt_delegatedBase_of_alloc h.issued halloc
  refine ⟨rfl, rfl, rfl, rfl, rfl, rfl, hissued, fun id hid => ((hothers id).mp hid).1,
    fun hself => ((hothers endpoint).mp hself).2 rfl, ⟨hfirst, hrange⟩, ?_, ?_,
    fun g hg => above_mono_of_nextGeneration hdraw hg, fun id hne => by simp [hne]⟩
  · intro slot task htask howns
    exact h.taken slot task endpoint htask howns havail
  · exact ⟨generation, by simp, above_of_nextGeneration hdraw⟩

variable {endpoint : Nat} {opened : State} {slot : Slot} {task : Task}

section

variable (h : Ground s)
include h

lemma of_opened (hopened : Opened s endpoint opened) (release : Bool) : Ground { opened with
      ids := if release then opened.ids.release endpoint else opened.ids } := by
  obtain ⟨hissued, havail⟩ := release_spec hopened.issued hopened.taken
  have hlive : SameLive s.routing opened.routing := by
    rw [hopened.routing]
    exact sameLive_refl _
  have htasks := sameTasks_of_eq hopened.tasks
  refine h.of_tasks (fun _ _ htask => .inl (htasks.back htask)) (fun _ _ htask => htasks.forth htask)
    ?_ ?_ hopened.names hopened.above ?_ hlive
  · cases release with
    | false => exact hopened.issued
    | true => exact hissued
  · intro id hid
    cases release with
    | false => exact .inl (hopened.available id hid)
    | true =>
      rcases havail id hid with hold | rfl
      · exact .inl (hopened.available id hold)
      · exact .inr hopened.unowned
  · rintro id - (hgate | ⟨slot, task, htask, howns⟩)
    · refine hopened.others id fun heq => ?_
      have hlt := lt_firstEndpointId_of_isGate hgate
      have hle := hopened.ranged.1
      omega
    · exact hopened.others id fun heq => hopened.unowned slot task htask (heq ▸ howns)

lemma assign (task' : Task) (htask : s.tasks slot = some task)
    (hunowned : ∀ slot task, s.tasks slot = some task → ¬ task.Owns endpoint)
    (htaken : ¬ s.ids.Available endpoint)
    (hrange : firstEndpointId ≤ endpoint ∧ endpoint < delegatedBase)
    (hcurrent : ∃ generation, s.ledger.generationOf endpoint = some generation ∧
      s.generations.Above generation)
    (howns : ∀ other, task'.Owns other ↔ task.Owns other ∨ other = endpoint)
    (hname : task'.name = task.name)
    (hkeep : ∀ other, task.endpoint = some other → task'.endpoint = some other)
    (hsplit : ∀ other, task'.endpoint = some other → task'.replyEndpoint ≠ some other)
    {names : NameTable} {routing : RoutingTable Message} {credits : Nat}
    (hnamed : ∀ name other, names.lookup name = some other →
      s.names.lookup name = some other ∨ (name = task.name ∧ task'.endpoint = some other))
    (halive : ∀ id, routing.Alive id ↔ s.routing.Alive id ∨ id = endpoint)
    (hsize : routing.entries.length = s.routing.entries.length) :
    Ground ({ s with names := names, routing := routing, credits := credits }.setTask slot
      (some task')) := by
  have hself := fun new : State => (@tasks_setTask new slot slot (some task') task').mpr
    (.inl ⟨rfl, rfl⟩)
  -- what holds of every endpoint owned before, and of the new one, holds of those owned now
  have howned {Q : Nat → Prop} (hQ : Q endpoint)
      (h : ∀ slot task x, s.tasks slot = some task → task.Owns x → Q x) (other : Slot) (new : Task)
      (x : Nat) (hnew : ({ s with names := names, routing := routing, credits := credits }.setTask
        slot (some task')).tasks other = some new) (hx : new.Owns x) : Q x := by
    rcases tasks_setTask.mp hnew with ⟨rfl, ⟨⟩⟩ | ⟨-, hold⟩
    · rcases (howns x).mp hx with hx | rfl
      · exact h other task x htask hx
      · exact hQ
    · exact h other new x hold hx
  refine ⟨h.issued, ?_, howned htaken h.taken, howned hrange h.ranged, ?_, ?_,
    howned hcurrent h.current, ?_, h.gates, ?_, hsize.trans h.size⟩
  · intro other new hnew
    rcases tasks_setTask.mp hnew with ⟨rfl, ⟨⟩⟩ | ⟨-, hold⟩
    · rw [hname]
      exact h.length other task htask
    · exact h.length other new hold
  · intro other other' new new' x hnew hnew' hx hx'
    rcases tasks_setTask.mp hnew with ⟨rfl, ⟨⟩⟩ | ⟨-, hold⟩
    · rcases tasks_setTask.mp hnew' with ⟨rfl, ⟨⟩⟩ | ⟨-, hold'⟩
      · rfl
      · rcases (howns x).mp hx with hx | rfl
        · exact h.apart other other' task new' x htask hold' hx hx'
        · exact absurd hx' (hunowned other' new' hold')
    · rcases tasks_setTask.mp hnew' with ⟨rfl, ⟨⟩⟩ | ⟨-, hold'⟩
      · rcases (howns x).mp hx' with hx' | rfl
        · exact h.apart other other' new task x hold htask hx hx'
        · exact absurd hx (hunowned other new hold)
      · exact h.apart other other' new new' x hold hold' hx hx'
  · intro other new x hnew hx
    rcases tasks_setTask.mp hnew with ⟨rfl, ⟨⟩⟩ | ⟨-, hold⟩
    · exact hsplit x hx
    · exact h.split other new x hold hx
  · intro name x hlook
    rcases hnamed name x hlook with hold | ⟨rfl, hx⟩
    · obtain ⟨other, found, hfound, hx, hfoundName⟩ := h.named name x hold
      by_cases hother : other = slot
      · subst hother
        rw [htask] at hfound
        cases hfound
        exact ⟨other, task', hself _, hkeep x hx, hname.trans hfoundName⟩
      · exact ⟨other, found, tasks_setTask.mpr (.inr ⟨hother, hfound⟩), hx, hfoundName⟩
    · exact ⟨slot, task', hself _, hx, hname⟩
  · intro x
    show routing.Alive x ↔ _
    rw [halive, h.routed]
    constructor
    · rintro (⟨other, found, hfound, hx⟩ | rfl)
      · by_cases hother : other = slot
        · subst hother
          rw [htask] at hfound
          cases hfound
          exact ⟨other, task', hself _, (howns x).mpr (.inl hx)⟩
        · exact ⟨other, found, tasks_setTask.mpr (.inr ⟨hother, hfound⟩), hx⟩
      · exact ⟨slot, task', hself _, (howns x).mpr (.inr rfl)⟩
    · rintro ⟨other, new, hnew, hx⟩
      rcases tasks_setTask.mp hnew with ⟨rfl, ⟨⟩⟩ | ⟨-, hold⟩
      · exact ((howns x).mp hx).imp_left fun hx => ⟨other, task, htask, hx⟩
      · exact .inl ⟨other, new, hold, hx⟩

lemma reserve (hfree : s.tasks slot = none) (hadm : Admissible task) :
    Ground (s.setTask slot (some task)) := by
  refine h.of_tasks (fun other new hnew => ?_) (fun other found hfound => ?_) h.issued
    (fun _ hid => .inl hid) rfl (fun _ hg => hg) (fun _ _ _ => rfl) (sameLive_refl _)
  · rcases tasks_setTask.mp hnew with ⟨-, ⟨⟩⟩ | ⟨-, hold⟩
    · exact .inr ⟨by simp [Task.Owns, hadm.endpoint, hadm.replyEndpoint], hadm.length⟩
    · exact .inl ⟨new, hold, .refl new⟩
  · refine ⟨found, tasks_setTask.mpr (.inr ⟨fun heq => ?_, hfound⟩), .refl found⟩
    rw [heq, hfree] at hfound
    cases hfound

lemma freedReply_spec (htask : s.tasks slot = some task) (freeReply : Bool) :
    (freedReply s.ids task freeReply).Issued ∧
      ∀ id, (freedReply s.ids task freeReply).Available id →
        s.ids.Available id ∨ task.replyEndpoint = some id := by
  unfold freedReply
  split
  next reply hsome =>
    obtain ⟨hissued, havail⟩ := release_spec h.issued (h.taken slot task reply htask (.inr hsome))
    split
    · exact ⟨hissued, fun id hid => (havail id hid).imp_right fun heq => by rw [hsome, heq]⟩
    · exact ⟨h.issued, fun id hid => .inl hid⟩
  · exact ⟨h.issued, fun id hid => .inl hid⟩

/-- Giving back the ids of a task keeps the allocator sound and frees no id
that another task has. -/
lemma retiredIds_spec (htask : s.tasks slot = some task) (freeReply : Bool) :
    (retiredIds s.ids task freeReply).Issued ∧
      ∀ id, (retiredIds s.ids task freeReply).Available id → s.ids.Available id ∨ task.Owns id := by
  obtain ⟨hissued, havail⟩ := h.freedReply_spec htask freeReply
  unfold retiredIds
  split
  next endpoint hsome =>
    have htaken : ¬ (freedReply s.ids task freeReply).Available endpoint := fun hin => by
      rcases havail endpoint hin with hold | hown
      · exact h.taken slot task endpoint htask (.inl hsome) hold
      · exact h.split slot task endpoint htask hsome hown
    obtain ⟨hissued', havail'⟩ := release_spec hissued htaken
    refine ⟨hissued', fun id hid => ?_⟩
    rcases havail' id hid with hold | rfl
    · exact (havail id hold).imp_right .inr
    · exact .inr (.inl hsome)
  · exact ⟨hissued, fun id hid => (havail id hid).imp_right .inr⟩

end

lemma retiredNames_spec {name : Name}
    (hlook : (retiredNames s.names task).lookup name = some endpoint) :
    s.names.lookup name = some endpoint ∧ (name = task.name → task.endpoint ≠ some endpoint) := by
  unfold retiredNames at hlook
  split at hlook
  next own hown =>
    obtain ⟨hold, hne⟩ := maps_unregisterEndpoint.mp (lookup_eq_some_iff.mp hlook)
    refine ⟨lookup_eq_some_iff.mpr hold, fun hname hself => hne ⟨hname, ?_⟩⟩
    exact Option.some.inj (hself.symm.trans hown)
  next hnone =>
    exact ⟨hlook, fun _ hself => by simp [hnone] at hself⟩

lemma retire (h : Ground s) (htask : s.tasks slot = some task) (freeReply : Bool)
    {routing : RoutingTable Message} (hcloses : Closes task s.routing routing) :
    Ground ({ s with
      routing := routing
      names := retiredNames s.names task
      ids := retiredIds s.ids task freeReply }.setTask slot none) := by
  obtain ⟨hissued, havail⟩ := h.retiredIds_spec htask freeReply
  have hold : ∀ other new, ({ s with
      routing := routing
      names := retiredNames s.names task
      ids := retiredIds s.ids task freeReply }.setTask slot none).tasks other = some new →
      other ≠ slot ∧ s.tasks other = some new := by
    intro other new hnew
    rcases tasks_setTask.mp hnew with ⟨-, hnone⟩ | hkept
    · cases hnone
    · exact hkept
  refine ⟨hissued, fun other new hnew => h.length other new (hold _ _ hnew).2, ?_,
    fun other new x hnew hx => h.ranged other new x (hold _ _ hnew).2 hx, ?_,
    fun other new x hnew hx => h.split other new x (hold _ _ hnew).2 hx,
    fun other new x hnew hx => h.current other new x (hold _ _ hnew).2 hx, ?_, h.gates, ?_,
    hcloses.size.trans h.size⟩
  · intro other new x hnew hx hin
    obtain ⟨hne, hkept⟩ := hold other new hnew
    rcases havail x hin with hin | hown
    · exact h.taken other new x hkept hx hin
    · exact hne (h.apart other slot new task x hkept htask hx hown)
  · intro other other' new new' x hnew hnew' hx hx'
    exact h.apart other other' new new' x (hold _ _ hnew).2 (hold _ _ hnew').2 hx hx'
  · intro name x hlook
    obtain ⟨hkept, hother⟩ := retiredNames_spec hlook
    obtain ⟨found, owner, howner, hx, hname⟩ := h.named name x hkept
    have hne : found ≠ slot := fun heq => by
      rw [heq, htask] at howner
      cases howner
      exact hother hname.symm hx
    exact ⟨found, owner, tasks_setTask.mpr (.inr ⟨hne, howner⟩), hx, hname⟩
  · intro x
    show routing.Alive x ↔ _
    rw [hcloses.alive, h.routed]
    constructor
    · rintro ⟨⟨other, found, hfound, hx⟩, hnot⟩
      have hne : other ≠ slot := fun heq => by
        rw [heq, htask] at hfound
        cases hfound
        exact hnot hx
      exact ⟨other, found, tasks_setTask.mpr (.inr ⟨hne, hfound⟩), hx⟩
    · rintro ⟨other, new, hnew, hx⟩
      obtain ⟨hne, hkept⟩ := hold other new hnew
      exact ⟨⟨other, new, hkept, hx⟩,
        fun hown => hne (h.apart other slot new task x hkept htask hx hown)⟩

end Ground

lemma Frame.sameTasks (h : Frame slot s s') (htask : s.tasks slot = some task) :
    SameTasks s s' := by
  intro other
  by_cases hother : other = slot
  · subst hother
    obtain ⟨task', htask', hsame⟩ := h.own task htask
    exact .inr ⟨task, task', htask, htask', hsame⟩
  · rw [h.others other hother]
    exact sameTasks_of_eq rfl other

lemma Frame.ground (h : Ground s) (hframe : Frame slot s s') (htask : s.tasks slot = some task) :
    Ground s' := by
  refine h.of_sameTasks (hframe.sameTasks htask) hframe.ids hframe.names hframe.generations ?_
    fun id _ => congrFun hframe.generationOf id
  rw [hframe.routing]
  exact sameLive_refl _

lemma CapMove.exists_task {t : State} (h : CapMove slot s t) :
    ∃ task, s.tasks slot = some task := by
  cases h with
  | tidy task _ htask | copy task _ _ _ htask | mint task _ _ _ _ _ htask => exact ⟨task, htask⟩

lemma Move.ground {leaky : Prop} (h : Ground s) (hmove : Move leaky s s') : Ground s' := by
  cases hmove with
  | caps slot _ hmove =>
    obtain ⟨task, htask⟩ := hmove.exists_task
    exact hmove.frame.ground h htask
  | route routing _ hlive =>
    exact h.of_sameTasks (sameTasks_of_eq rfl) rfl rfl rfl hlive fun _ _ => rfl
  | wire =>
    exact h.of_sameTasks (sameTasks_of_eq rfl) rfl rfl rfl (sameLive_refl _) fun _ _ => rfl
  | reserve slot task hfree hadm => exact h.reserve hfree hadm
  | openSpare endpoint generation opened release hopen =>
    exact h.of_opened (h.opened hopen) release
  | openPrimary slot task endpoint generation coreId opened routing htask hnone hopen hreg =>
    have hopened := h.opened hopen
    have hground : Ground opened := h.of_opened hopened false
    have htask' : opened.tasks slot = some task := by rw [hopened.tasks, htask]
    refine hground.assign { task with endpoint := some endpoint } htask'
      (hopened.tasks ▸ hopened.unowned) hopened.taken hopened.ranged hopened.current ?_ rfl ?_ ?_
      ?_ (alive_tryRegister hreg) (size_tryRegister hreg)
    · intro other
      simp only [Task.Owns, hnone, reduceCtorEq, false_or, Option.some.injEq]
      rw [or_comm, @eq_comm _ endpoint]
    · intro other hother
      simp [hnone] at hother
    · rintro other hother hreply
      cases hother
      exact hopened.unowned slot task htask (.inr hreply)
    · intro name other hlook
      rcases maps_of_maps_register (h.length slot task htask)
        (lookup_eq_some_iff.mp hlook) with ⟨rfl, rfl⟩ | ⟨-, -, hold⟩
      · exact .inr ⟨rfl, rfl⟩
      · exact .inl (lookup_eq_some_iff.mpr hold)
  | openReply slot task endpoint generation coreId opened routing credits htask hnone hopen hreg =>
    have hopened := h.opened hopen
    have hground : Ground opened := h.of_opened hopened false
    have htask' : opened.tasks slot = some task := by rw [hopened.tasks, htask]
    refine hground.assign { task with replyEndpoint := some endpoint } htask'
      (hopened.tasks ▸ hopened.unowned) hopened.taken hopened.ranged hopened.current ?_ rfl
      (fun _ hother => hother) ?_ (fun _ _ hlook => .inl hlook)
      (alive_tryRegister hreg) (size_tryRegister hreg)
    · intro other
      simp only [Task.Owns, hnone, reduceCtorEq, or_false, Option.some.injEq]
      rw [@eq_comm _ endpoint]
    · rintro other hother hreply
      cases hreply
      exact hopened.unowned slot task htask (.inl hother)
  | retire slot task freeReply routing htask hcloses => exact h.retire htask freeReply hcloses
  | close endpoint ledger hends hrange hunowned =>
    refine h.of_tasks (fun _ task htask => .inl ⟨task, htask, .refl task⟩)
      (fun _ task htask => ⟨task, htask, .refl task⟩) h.issued (fun _ hid => .inl hid) rfl
      (fun _ hg => hg) ?_ (sameLive_refl _)
    rintro id - hcase
    have hne : id ≠ endpoint := by
      rintro rfl
      rcases hcase with hgate | ⟨slot, task, htask, howns⟩
      · have hlt := lt_firstEndpointId_of_isGate hgate
        omega
      · exact hunowned slot task htask howns
    rw [hends.generationOf, Function.update_of_ne hne]
  | claim bandSlot who band ledger hclaim hreg =>
    obtain ⟨generation, rfl, -⟩ := Ledger.registerNext_spec hreg
    exact h.of_sameTasks (sameTasks_of_eq rfl) rfl rfl rfl (sameLive_refl _)
      fun _ hrange => generationOf_registerAtGen_of_lt bandSlot generation hrange
  | refuse bandSlot who band registered minted rights cap hclaim hreg hmint =>
    obtain ⟨generation, rfl, -⟩ := Ledger.registerNext_spec hreg
    obtain ⟨-, -, -, rfl⟩ := Ledger.mintCap_spec hmint
    exact h.of_sameTasks (sameTasks_of_eq rfl) rfl rfl rfl (sameLive_refl _)
      fun _ hrange => generationOf_registerAtGen_of_lt bandSlot generation hrange
  | withdraw bandSlot band ledger hends =>
    refine h.of_sameTasks (sameTasks_of_eq rfl) rfl rfl rfl (sameLive_refl _) fun id hrange => ?_
    rw [hends.generationOf, Function.update_of_ne (ne_id_of_lt bandSlot hrange)]

end Godspeed.Authority
