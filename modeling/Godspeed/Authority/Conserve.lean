import Godspeed.Authority.Unwind

/-!
# Endpoint ids are conserved

Every id the counter has passed is either free or an endpoint of a live task,
as long as no spawn leaks one: `Conserved`, kept by every move that is not leaky.
Since the live endpoints fit into the routing table, the counter then stops at
`maxEndpoints + 1` above the first id, and the list of free ids never
overflows (`ids_conserved_of_no_leak`).
-/

namespace Godspeed.Authority

open Capability Interrupt Ipc Transition List EndpointIds

/-- The endpoint belongs to a live task. -/
def State.Owned (s : State) (id : Nat) : Prop :=
  ∃ slot task, s.tasks slot = some task ∧ task.Owns id

/-- Every id that was handed out and is not free belongs to a task, and the
counter is bounded by the size of the routing table. -/
structure Conserved (s : State) : Prop where
  owned : ∀ id, firstEndpointId ≤ id → ¬ s.ids.Available id → s.Owned id
  bounded : s.ids.next ≤ firstEndpointId + maxEndpoints + 1

lemma conserved_boot : Conserved boot where
  owned id hle hid := absurd (.inr hle) hid
  bounded := by decide

section Count

variable {s : State}

lemma Conserved.next_le_of_nil (h : Ground s) (hc : Conserved s) (hnil : s.ids.free = []) :
    s.ids.next ≤ firstEndpointId + maxEndpoints := by
  have hnodup : (range' firstEndpointId (s.ids.next - firstEndpointId)).Nodup := nodup_range'
  have halive : ∀ id ∈ range' firstEndpointId (s.ids.next - firstEndpointId),
      s.routing.Alive id := by
    intro id hid
    obtain ⟨hle, hlt⟩ := mem_range'_1.mp hid
    refine (h.routed id).mpr (hc.owned id hle fun havail => ?_)
    rcases havail with hfree | hnext
    · simp [hnil] at hfree
    · omega
  have hlen := s.routing.length_le_of_alive hnodup halive
  rw [length_range', h.size] at hlen
  omega

lemma Conserved.length_free_lt (h : Ground s) (hc : Conserved s) :
    s.ids.free.length + 1 < freeIdCap := by
  have hsub : s.ids.free ⊆ range' firstEndpointId (s.ids.next - firstEndpointId) := by
    intro id hid
    have hfirst := h.issued.first_le_free id hid
    have hlt := h.issued.free_lt id hid
    exact mem_range'_1.mpr ⟨hfirst, by omega⟩
  have hle := (subperm_of_subset h.issued.nodup hsub).length_le
  have hbound := hc.bounded
  rw [length_range'] at hle
  have hcap : maxEndpoints + 2 < freeIdCap := by decide
  omega

lemma Conserved.bounded_of_alloc (h : Ground s) (hc : Conserved s) {id : Nat}
    {ids : EndpointIds} (halloc : s.ids.alloc = some (id, ids)) :
    ids.next ≤ firstEndpointId + maxEndpoints + 1 := by
  unfold alloc at halloc
  split at halloc
  · cases halloc
    exact hc.bounded
  rename_i hnil
  split at halloc
  · cases halloc
    exact Nat.succ_le_succ (hc.next_le_of_nil h hnil)
  · cases halloc

end Count

section Step

variable {s s' t : State} {slot : Slot} {task : Task}

lemma owned_of_sameTasks (h : SameTasks s s') {id : Nat} (howned : s.Owned id) : s'.Owned id := by
  obtain ⟨slot, task, htask, howns⟩ := howned
  rcases h slot with ⟨hnone, -⟩ | ⟨old, new, hold, hnew, hsame⟩
  · rw [hnone] at htask
    cases htask
  · cases hold.symm.trans htask
    exact ⟨slot, new, hnew, hsame.owns_iff.mpr howns⟩

lemma next_retiredIds (ids : EndpointIds) (task : Task) (freeReply : Bool) :
    (retiredIds ids task freeReply).next = ids.next := by
  unfold retiredIds freedReply
  cases task.endpoint <;> cases task.replyEndpoint <;> cases freeReply <;> simp

lemma Conserved.of_same (hc : Conserved s) (hids : s'.ids = s.ids)
    (howned : ∀ id, s.Owned id → s'.Owned id) : Conserved s' where
  owned id hle hid := howned id (hc.owned id hle (hids ▸ hid))
  bounded := hids ▸ hc.bounded

lemma Conserved.of_assigned (h : Ground s) (hc : Conserved s) {endpoint : Nat}
    (halloc : s.ids.alloc = some (endpoint, s'.ids)) (htask : s.tasks slot = some task)
    {task' : Task} (htask' : s'.tasks slot = some task')
    (hothers : ∀ other, other ≠ slot → s'.tasks other = s.tasks other)
    (howns : ∀ id, task.Owns id ∨ id = endpoint → task'.Owns id) : Conserved s' where
  owned id hle hid := by
    obtain ⟨-, -, -, havail⟩ := alloc_spec h.issued halloc
    by_cases heq : id = endpoint
    · exact ⟨slot, task', htask', howns id (.inr heq)⟩
    obtain ⟨owner, found, hfound, hown⟩ :=
      hc.owned id hle fun hbefore => hid ((havail id).mpr ⟨hbefore, heq⟩)
    by_cases hslot : owner = slot
    · subst hslot
      cases htask.symm.trans hfound
      exact ⟨owner, task', htask', howns id (.inl hown)⟩
    · exact ⟨owner, found, (hothers owner hslot).trans hfound, hown⟩
  bounded := hc.bounded_of_alloc h halloc

lemma Conserved.available_retiredIds (h : Ground s) (hc : Conserved s)
    (htask : s.tasks slot = some task) {freeReply : Bool}
    (hkeeps : freeReply ∨ task.replyEndpoint = none) (id : Nat) :
    (retiredIds s.ids task freeReply).Available id ↔ s.ids.Available id ∨ task.Owns id := by
  have hroom := hc.length_free_lt h
  have hreply : (∀ id, (freedReply s.ids task freeReply).Available id ↔
      s.ids.Available id ∨ task.replyEndpoint = some id) ∧
      (freedReply s.ids task freeReply).free.length < freeIdCap := by
    unfold freedReply
    cases hrep : task.replyEndpoint with
    | none => exact ⟨by simp, by simp only; omega⟩
    | some reply =>
      have hfree : freeReply := hkeeps.resolve_right (by simp [hrep])
      have hle : (s.ids.release reply).free.length ≤ s.ids.free.length + 1 := length_release_le
      simp only [hfree, if_true]
      refine ⟨fun id => ?_, by omega⟩
      rw [available_release (h.ranged slot task reply htask (.inr hrep)) (by omega),
        Option.some.injEq, @eq_comm _ reply]
  unfold retiredIds Task.Owns
  cases hep : task.endpoint with
  | none => simp [hreply.1 id]
  | some endpoint =>
    simp only [Option.some.injEq]
    rw [available_release (h.ranged slot task endpoint htask (.inl hep)) hreply.2,
      hreply.1, or_assoc, @eq_comm _ endpoint, or_comm (a := id = endpoint)]

lemma Conserved.retire (h : Ground s) (hc : Conserved s) (htask : s.tasks slot = some task)
    {freeReply : Bool} (hkeeps : freeReply ∨ task.replyEndpoint = none)
    (hids : s'.ids = retiredIds s.ids task freeReply)
    (hothers : ∀ other, other ≠ slot → s'.tasks other = s.tasks other) : Conserved s' where
  owned id hle hid := by
    rw [hids, hc.available_retiredIds h htask hkeeps, not_or] at hid
    obtain ⟨owner, found, hfound, hown⟩ := hc.owned id hle hid.1
    have hslot : owner ≠ slot := by
      rintro rfl
      cases htask.symm.trans hfound
      exact hid.2 hown
    exact ⟨owner, found, (hothers owner hslot).trans hfound, hown⟩
  bounded := by
    rw [hids, next_retiredIds]
    exact hc.bounded

lemma Move.conserved (h : Ground s) (hc : Conserved s) (hmove : Move False s t) : Conserved t := by
  cases hmove with
  | caps slot _ hmove =>
    obtain ⟨task, htask⟩ := hmove.exists_task
    exact hc.of_same hmove.frame.ids fun _ => owned_of_sameTasks (hmove.frame.sameTasks htask)
  | route | wire | close | claim | refuse | withdraw => exact hc.of_same rfl fun _ => id
  | reserve slot task hfree hadm =>
    refine hc.of_same rfl fun id howned => ?_
    obtain ⟨owner, found, hfound, hown⟩ := howned
    refine ⟨owner, found, tasks_setTask.mpr (.inr ⟨?_, hfound⟩), hown⟩
    rintro rfl
    simp [hfree] at hfound
  | openSpare endpoint generation opened release hopen hleak =>
    obtain rfl : release := hleak.resolve_right id
    have halloc := registerEndpoint_ids hopen
    refine ⟨fun id hle hid => ?_, ?_⟩
    · have hsame := available_release_of_alloc h.issued halloc id
      refine owned_of_sameTasks (sameTasks_of_eq (h.opened hopen).tasks) (hc.owned id hle ?_)
      rw [← hsame]
      exact hid
    · simpa using hc.bounded_of_alloc h halloc
  | openPrimary slot task endpoint generation coreId opened routing htask hnone hopen hreg =>
    have halloc := registerEndpoint_ids hopen
    refine hc.of_assigned h halloc htask
      (tasks_setTask.mpr (.inl ⟨rfl, rfl⟩)) (fun other hother => ?_) ?_
    · simp [State.setTask, hother, (h.opened hopen).tasks]
    · simp [Task.Owns, hnone, or_comm, eq_comm]
  | openReply slot task endpoint generation coreId opened routing credits htask hnone hopen hreg =>
    have halloc := registerEndpoint_ids hopen
    refine hc.of_assigned h halloc htask
      (tasks_setTask.mpr (.inl ⟨rfl, rfl⟩)) (fun other hother => ?_) ?_
    · simp [State.setTask, hother, (h.opened hopen).tasks]
    · simp [Task.Owns, hnone, eq_comm]
  | retire slot task freeReply routing htask hcloses hleak =>
    refine hc.retire h htask (by simpa using hleak) rfl fun other hother => ?_
    simp [State.setTask, hother]

/-- The condition on a step: it is not a spawn that leaks. -/
def KeepsIds (s : State) (op : Op) : Prop := ¬ op.Leaks s

instance (s : State) (op : Op) : Decidable (KeepsIds s op) := inferInstanceAs (Decidable (¬ _))

lemma conserved_of_reaches (h : Reaches step KeepsIds boot s) : Ground s ∧ Conserved s :=
  keep_of_reaches (fun _ _ hkeeps hleak => hkeeps hleak) ground_boot conserved_boot
    (fun _ _ hground hc hmove => hmove.conserved hground hc) h

/-- **Conservation of endpoint ids.**  In every run without a spawn that leaks,
however long, every id handed out is free once or belongs to exactly one task, as
its receive or as its reply endpoint; the counter stays near the first id, so the
free list never overflows and a spawn finds both of its ids. -/
theorem ids_conserved_of_no_leak (h : Reaches step KeepsIds boot s) :
    (∀ id, firstEndpointId ≤ id → id < s.ids.next →
      (s.ids.free.count id = 1 ∧ ¬ s.Owned id) ∨
      (s.ids.free.count id = 0 ∧ ∃! slot, ∃ task, s.tasks slot = some task ∧
        Xor (task.endpoint = some id) (task.replyEndpoint = some id))) ∧
    s.ids.next ≤ firstEndpointId + maxEndpoints + 1 ∧ s.ids.free.length < freeIdCap ∧
    ∃ id ids id' ids', s.ids.alloc = some (id, ids) ∧ ids.alloc = some (id', ids') := by
  obtain ⟨hground, hc⟩ := conserved_of_reaches h
  have hbound := hc.bounded
  have hbase : firstEndpointId + maxEndpoints + 2 < delegatedBase := by decide
  refine ⟨fun id hle hlt => ?_, hbound, Nat.lt_of_succ_lt (hc.length_free_lt hground), ?_⟩
  · by_cases hfree : id ∈ s.ids.free
    · refine .inl ⟨count_eq_one_of_mem hground.issued.nodup hfree, ?_⟩
      rintro ⟨slot, task, htask, howns⟩
      exact hground.taken slot task id htask howns (.inl hfree)
    obtain ⟨slot, task, htask, howns⟩ := hc.owned id hle fun havail =>
      havail.elim hfree (not_le.mpr hlt)
    have hone : Xor (task.endpoint = some id) (task.replyEndpoint = some id) := by
      rcases howns with hep | hreply
      · exact .inl ⟨hep, hground.split slot task id htask hep⟩
      · exact .inr ⟨hreply, fun hep => hground.split slot task id htask hep hreply⟩
    refine .inr ⟨count_eq_zero_of_not_mem hfree, slot, ⟨task, htask, hone⟩, ?_⟩
    rintro other ⟨found, hfound, hxor⟩
    exact hground.apart other slot found task id hfound htask (hxor.imp And.left And.left) howns
  · obtain ⟨id, ids, halloc, hnext⟩ := @EndpointIds.exists_alloc s.ids (by omega)
    obtain ⟨id', ids', halloc', -⟩ := @EndpointIds.exists_alloc ids (by omega)
    exact ⟨id, ids, id', ids', halloc, halloc'⟩

/-- A spawn that fails after it was granted a mailbox loses the mailbox's id:
nobody owns it and no later spawn gets it. -/
theorem failed_spawn_loses_id : ∃ s, Reached s ∧ firstEndpointId ≤ 103 ∧ 103 < s.ids.next ∧
    s.ids.free.count 103 = 0 ∧ ¬ s.Owned 103 := by
  obtain ⟨s, hs, hnext, hcount, hnobody⟩ : ∃ s, Reached s ∧ 103 < s.ids.next ∧
      s.ids.free.count 103 = 0 ∧ ∀ slot : Slot, ∀ task ∈ s.tasks slot,
        task.endpoint ≠ some 103 ∧ task.replyEndpoint ≠ some 103 :=
    exists_reaches [.spawnSupervisor 0,
      .spawnImage 0 1 1 (plainRequest [97] false [] true)] (by decide +kernel)
  refine ⟨s, hs, by decide, hnext, hcount, ?_⟩
  rintro ⟨slot, task, htask, howns⟩
  obtain ⟨hendpoint, hreply⟩ := hnobody slot task htask
  exact howns.elim hendpoint hreply

/-- A death, a failed spawn without a receive endpoint and a respawn of the supervisor lose
nothing. -/
theorem ids_conserved_after_death : ∃ s, Reaches step KeepsIds boot s ∧
    s.ids = ⟨104, [102, 103]⟩ ∧ ∀ id, firstEndpointId ≤ id → id < 104 →
      s.ids.free.count id = 1 ∨ s.ids.free.count id = 0 := by
  refine exists_reaches_and [.spawnSupervisor 0,
    .spawnImage 0 1 1 (plainRequest [97] false [] false), .kill 1,
    .spawnImage 0 1 1 { plainRequest [97] false [] true with hasRecvEndpoint := false }, .kill 0,
    .respawnSupervisor 0 false] (by decide +kernel) fun s hs hids id hle hlt => ?_
  have hplace := (ids_conserved_of_no_leak hs).1 id hle (by rw [hids]; exact hlt)
  exact hplace.imp And.left And.left

end Step

end Godspeed.Authority
