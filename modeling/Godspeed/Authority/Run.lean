import Godspeed.Authority.SpawnOutcome

/-!
# What a spawn builds, and the runs of the machine

`Built` says what a spawn with a receive endpoint has done to the shared tables
when it reaches its last stage, in terms of the state it started in; from it
follows when the unwind of a spawn loses an endpoint id (`SpawnArgs.Leaks`).

`moves_of_step` puts the operations together: every step is a sequence of moves,
leaky only if it is a spawn that leaks.  `ground_of_reached` is what all later
invariants start from.
-/

namespace Godspeed.Authority

open Capability Interrupt Ipc Staged Option State EndpointIds RoutingTable

variable (args : SpawnArgs)

/-- The task of the spawn may take a reply mailbox back. -/
def SpawnArgs.mayTakeBack : Bool :=
  args.watched || args.grants.name = supervisorName

/-- A spawn that opens its receive endpoint is granted a reply mailbox as well. -/
def SpawnArgs.mailboxGranted (s : State) : Bool :=
  optionalVerdict (s.routing.freeCount - 1) s.credits args.mayTakeBack

/-- What a spawn from `s` has built with its receive endpoint, its reply endpoint
if it has one, and the interrupt routes as they are now. -/
structure Built (s : State) (slot : Slot) (args : SpawnArgs) (endpoint : Nat)
    (reply : Option Nat) (irqs : IrqTable) (t : State) : Prop where
  ground : Ground t
  next : s.ids.alloc.map Prod.fst = some endpoint
  available : ∀ id, t.ids.Available id ↔ s.ids.Available id ∧ id ≠ endpoint ∧ reply ≠ some id
  fresh : ∀ id, id = endpoint ∨ reply = some id → s.ids.Available id ∧ ¬ s.routing.Alive id
  room : t.ids.free.length < freeIdCap
  names : t.names = s.names.register args.grants.name endpoint
  irqs : t.irqs = irqs
  live : ∀ id state, id ≠ endpoint → reply ≠ some id →
    (t.routing.Live id state ↔ s.routing.Live id state)
  others : ∀ other, other ≠ slot → t.tasks other = s.tasks other
  own : ∃ task, t.tasks slot = some task ∧ task.endpoint = some endpoint ∧
    task.replyEndpoint = reply ∧ task.name = args.grants.name ∧ task.watched = args.watched

section Registered

variable {t opened : State} {endpoint generation : Nat}

lemma registerEndpoint_ids (h : registerEndpoint t = some (endpoint, generation, opened)) :
    t.ids.alloc = some (endpoint, opened.ids) := by
  obtain ⟨ids, counter, halloc, -, rfl⟩ := registerEndpoint_spec h
  exact halloc

end Registered

section Served

variable {s t u t' v t'' w last : State} {slot : Slot} {args : SpawnArgs}
  {spawner : Option CapTable}

lemma irqStage_spec {endpoint : Nat} {hwIrqs : List Irq} {task : Task}
    (htask : t.tasks slot = some task) (hsome : task.endpoint = some endpoint)
    (hstage : irqStage slot hwIrqs t = some (.ok w)) :
    w = { t with irqs := t.irqs.registerAll hwIrqs endpoint } := by
  unfold irqStage at hstage
  simp only [endpointOf, htask, bind_some, hsome] at hstage
  cases hstage
  rfl

section Built

variable {endpoint : Nat} {reply : Option Nat} {irqs : IrqTable}

lemma Built.frame (h : Built s slot args endpoint reply irqs t) (hframe : Frame slot t u) :
    Built s slot args endpoint reply irqs u := by
  obtain ⟨task, htask, hep, hreply, hname, hwatched⟩ := h.own
  obtain ⟨task', htask', hsame⟩ := hframe.own task htask
  refine ⟨hframe.ground h.ground htask, h.next, ?_, h.fresh, ?_, hframe.names.trans h.names,
    hframe.irqs.trans h.irqs, ?_, ?_, ?_⟩
  · rw [hframe.ids]
    exact h.available
  · rw [hframe.ids]
    exact h.room
  · rw [hframe.routing]
    exact h.live
  · exact fun other hother => (hframe.others other hother).trans (h.others other hother)
  · exact ⟨task', htask', hsame.endpoint.trans hep, hsame.replyEndpoint.trans hreply,
      hsame.name.trans hname, hsame.watched.trans hwatched⟩

lemma Built.replyStage (h : Built s slot args endpoint none irqs t)
    (hstage : replyStage slot args.coreId t = some (.ok v)) :
    ∃ reply, reply.isSome = optionalVerdict t.routing.freeCount t.credits args.mayTakeBack ∧
      Built s slot args endpoint reply irqs v := by
  obtain ⟨task, htask, hep, hreply, hname, hwatched⟩ := h.own
  have hmay : task.mayTakeBack = args.mayTakeBack := by
    rw [Task.mayTakeBack, SpawnArgs.mayTakeBack, hname, hwatched]
  have hmove : Move True t v := move_replyStage h.ground htask hreply hstage
  obtain ⟨fresh, generation, opened, hopen, hcases⟩ := replyStage_spec h.ground htask hstage
  have hopened := h.ground.opened hopen
  have halloc := registerEndpoint_ids hopen
  obtain ⟨-, havail, -, hothers⟩ := alloc_spec h.ground.issued halloc
  obtain ⟨hfresh, hne, -⟩ := (h.available fresh).mp havail
  have hdead : ¬ s.routing.Alive fresh := by
    rintro ⟨state, hlive⟩
    exact not_alive_of_registerEndpoint h.ground hopen
      ⟨state, (h.live fresh state hne (by simp)).mpr hlive⟩
  rw [hmay] at hcases
  rcases hcases with ⟨hverdict, routing, credits, hreg, heq⟩ | ⟨hverdict, heq⟩
  · cases heq
    refine ⟨some fresh, hverdict.symm, hmove.ground h.ground, h.next, ?_, ?_,
      length_lt_of_alloc h.ground.issued halloc, hopened.names.trans h.names,
      hopened.irqs.trans h.irqs, ?_, ?_, ?_⟩
    · intro id
      show opened.ids.Available id ↔ _
      rw [hothers, h.available]
      simp only [ne_eq, reduceCtorEq, not_false_eq_true, and_true, some.injEq]
      rw [and_assoc, eq_comm (a := fresh)]
    · rintro id (rfl | hid)
      · exact h.fresh id (.inl rfl)
      · cases hid
        exact ⟨hfresh, hdead⟩
    · intro id state hid hid'
      have hother : id ≠ fresh := fun heq => hid' (by rw [heq])
      exact (live_tryRegister hreg hother).trans (h.live id state hid (by simp))
    · intro other hother
      simp only [setTask, Function.update_of_ne hother]
      rw [hopened.tasks, h.others other hother]
    · exact ⟨_, tasks_setTask.mpr (.inl ⟨rfl, rfl⟩), hep, rfl, hname, hwatched⟩
  · cases heq
    refine ⟨none, hverdict.symm, hmove.ground h.ground, h.next, ?_, h.fresh,
      length_release_of_alloc h.room halloc, hopened.names.trans h.names,
      hopened.irqs.trans h.irqs, ?_, ?_, ?_⟩
    · intro id
      rw [← h.available]
      exact available_release_of_alloc h.ground.issued halloc id
    · rw [hopened.routing]
      exact h.live
    · rw [hopened.tasks]
      exact h.others
    · rw [hopened.tasks]
      exact ⟨task, htask, hep, hreply, hname, hwatched⟩

lemma Built.irqStage (h : Built s slot args endpoint reply irqs t)
    (hstage : irqStage slot args.hwIrqs t = some (.ok w)) :
    Built s slot args endpoint reply (irqs.registerAll args.hwIrqs endpoint) w := by
  obtain ⟨task, htask, hep, hreply, hname, hwatched⟩ := h.own
  obtain rfl := irqStage_spec htask hep hstage
  have hmove : Move True t { t with irqs := t.irqs.registerAll args.hwIrqs endpoint } :=
    .wire _ t.credits
  exact ⟨hmove.ground h.ground, h.next, h.available, h.fresh, h.room, h.names, by rw [h.irqs],
    h.live, h.others, task, htask, hep, hreply, hname, hwatched⟩

end Built

variable (h : Ground s) (hfree : s.tasks slot = none)
  (hadmissible : Admissible (draftTask args spawner))
include h hfree hadmissible

lemma Frame.of_draft (hframe : Frame slot (s.draft slot args spawner) t) :
    Ground t ∧ ∃ task, t.tasks slot = some task ∧ SameIdentity (draftTask args spawner) task := by
  have hdraft : (s.draft slot args spawner).tasks slot = some (draftTask args spawner) :=
    tasks_setTask.mpr (.inl ⟨rfl, rfl⟩)
  exact ⟨hframe.ground (h.reserve hfree hadmissible) hdraft, hframe.own _ hdraft⟩

lemma built_endpointStage (hearly : CapMoves slot (s.draft slot args spawner) t)
    (hstage : endpointStage slot args.coreId t = some (.ok u)) :
    0 < s.routing.freeCount ∧ u.routing.freeCount = s.routing.freeCount - 1 ∧
      u.credits = s.credits ∧ ∃ endpoint, Built s slot args endpoint none s.irqs u := by
  have hframe := hearly.frame
  obtain ⟨hground, task, htask, hsame⟩ := hframe.of_draft h hfree hadmissible
  have hmove : Move True t u :=
    move_endpointStage hground htask hsame.endpoint (fun _ => trivial) hstage (.inl rfl)
  obtain ⟨endpoint, generation, opened, hopen, hcases⟩ := endpointStage_spec hground htask hstage
  obtain ⟨hroom, routing, hregister, ⟨⟩⟩ := hcases.resolve_right (by simp)
  have hopened := hground.opened hopen
  have hdead := not_alive_of_registerEndpoint hground hopen
  have halloc := registerEndpoint_ids hopen
  rw [hframe.ids] at halloc
  rw [hframe.routing] at hroom hregister hdead
  have hids := alloc_spec h.issued halloc
  have hcount := freeCount_tryRegister hregister hdead
  refine ⟨hroom, Nat.eq_sub_of_add_eq hcount, hopened.credits.trans hframe.credits, endpoint,
    hmove.ground hground, ?_, ?_, ?_, length_lt_of_alloc h.issued halloc, ?_,
    hopened.irqs.trans hframe.irqs, ?_, ?_, ?_⟩
  · rw [show s.ids.alloc = _ from halloc]
    rfl
  · intro id
    show opened.ids.Available id ↔ _
    simpa using hids.2.2.2 id
  · rintro id (rfl | hnone)
    · exact ⟨hids.2.1, hdead⟩
    · cases hnone
  · show opened.names.register task.name endpoint = _
    rw [hopened.names, hframe.names, hsame.name]
    rfl
  · intro id state hne _
    exact live_tryRegister hregister hne
  · intro other hother
    simp only [setTask, Function.update_of_ne hother]
    rw [hopened.tasks, hframe.others other hother]
    simp [setTask, hother]
  · exact ⟨_, tasks_setTask.mpr (.inl ⟨rfl, rfl⟩), rfl, hsame.replyEndpoint, hsame.name,
      hsame.watched⟩

lemma built_of_served (hearly : CapMoves slot (s.draft slot args spawner) t)
    (hendpoint : endpointStage slot args.coreId t = some (.ok u)) (hcaps : CapMoves slot u t')
    (hreply : replyStage slot args.coreId t' = some (.ok v)) (hreplyCaps : CapMoves slot v t'')
    (hirq : irqStage slot args.hwIrqs t'' = some (.ok w)) (hlate : CapMoves slot w last) :
    0 < s.routing.freeCount ∧ ∃ endpoint reply, reply.isSome = args.mailboxGranted s ∧
      Built s slot args endpoint reply (s.irqs.registerAll args.hwIrqs endpoint) last := by
  obtain ⟨hroom, hcount, hcredits, endpoint, hbuilt⟩ :=
    built_endpointStage h hfree hadmissible hearly hendpoint
  obtain ⟨reply, hmailbox, hbuilt⟩ := (hbuilt.frame hcaps.frame).replyStage hreply
  rw [hcaps.frame.routing, hcaps.frame.credits, hcount, hcredits] at hmailbox
  exact ⟨hroom, endpoint, reply, hmailbox,
    ((hbuilt.frame hreplyCaps.frame).irqStage hirq).frame hlate.frame⟩

end Served

section Cleanup

variable {s s' t : State} {slot : Slot} {task : Task} {endpoint : Nat} {args : SpawnArgs}
  {spawner : Option CapTable}

lemma cleanup_of_none (htask : t.tasks slot = some task) (hep : task.endpoint = none)
    (hreply : task.replyEndpoint = none) :
    cleanupPartialSpawn t slot = some (t.setTask slot none) := by
  simp [cleanupPartialSpawn, htask, closeReply, hreply, hep, retire]

lemma cleanup_of_some (htask : t.tasks slot = some task) (hep : task.endpoint = some endpoint)
    (h : cleanupPartialSpawn t slot = some s') :
    s'.names = t.names.unregisterEndpoint task.name endpoint ∧ s'.irqs = t.irqs ∧
      s'.ids = t.ids.release endpoint ∧
      ∀ id state, s'.routing.Live id state ↔ t.routing.Live id state ∧ ¬ task.Owns id := by
  unfold cleanupPartialSpawn at h
  simp only [htask, hep] at h
  split at h
  · cases h
  rename_i closed hclosed
  obtain ⟨closed', hclose, rfl⟩ := map_eq_some_iff.mp h
  obtain ⟨routing, receiver, sender, ledger, hkill, -, rfl⟩ := closeEndpoint_spec hclose
  rcases closeReply_spec hclosed with
    ⟨hreply, rfl⟩ | ⟨reply, routing', receiver', sender', ledger', hreply, hkill', -, rfl⟩
  · refine ⟨by simp [retire, hep, setTask], by simp [retire, hep, setTask],
      by simp [retire, hep, setTask], fun id state => ?_⟩
    have hlive := @RoutingTable.live_killEndpoint _ _ _ state _ _ _ hkill id
    simpa [retire, hep, hreply, setTask, Task.Owns, eq_comm] using hlive
  · refine ⟨by simp [retire, hep, setTask], by simp [retire, hep, setTask],
      by simp [retire, hep, setTask, freedReply, hreply], fun id state => ?_⟩
    have hlive := @RoutingTable.live_killEndpoint _ _ _ state _ _ _ hkill id
    rw [@RoutingTable.live_killEndpoint _ _ _ state _ _ _ hkill' id] at hlive
    simpa [retire, hep, hreply, setTask, Task.Owns, eq_comm, and_assoc, and_comm] using hlive

end Cleanup

/-- A spawn that loses an endpoint id: refused its receive endpoint, or granted a
mailbox and failing later. -/
def SpawnArgs.Leaks (s : State) : Prop :=
  args.hasRecvEndpoint = true ∧
    (s.routing.freeCount = 0 ∨ (args.lateFailure = true ∧ args.mailboxGranted s = true))

section Spawn

variable {s s' t u : State} {slot : Slot} {args : SpawnArgs} {spawner : Option CapTable}
  {leaky : Prop}

/-- What the stages of a spawn leave, whether they stop or not: a task in the
slot, which has a mailbox only if the verdict was for it. -/
structure Progress (leaky : Prop) (s : State) (slot : Slot) (args : SpawnArgs) (t : State) :
    Prop where
  moves : Moves leaky s t
  others : ∀ other, other ≠ slot → t.tasks other = s.tasks other
  own : ∃ task, t.tasks slot = some task ∧
    (task.replyEndpoint = none ∨ (args.hasRecvEndpoint = true ∧ args.mailboxGranted s = true))

lemma progress_of_capMoves (hfree : s.tasks slot = none)
    (hadm : Admissible (draftTask args spawner))
    (h : CapMoves slot (s.draft slot args spawner) t) :
    Progress leaky s slot args t := by
  obtain ⟨task, htask, hsame⟩ := h.frame.own (draftTask args spawner)
    (tasks_setTask.mpr (.inl ⟨rfl, rfl⟩))
  refine ⟨?_, fun other hother => ?_, task, htask, .inl hsame.replyEndpoint⟩
  · exact (Relation.ReflTransGen.single (Move.reserve slot _ hfree hadm)).trans h.moves
  · rw [h.frame.others other hother]
    simp [setTask, hother]

lemma moves_of_reply {t' v t'' w last : State} {endpoint : Nat} {irqs : IrqTable}
    (hbuilt : Built s slot args endpoint none irqs u) (hcaps : CapMoves slot u t')
    (hreply : replyStage slot args.coreId t' = some (.ok v)) (hreplyCaps : CapMoves slot v t'')
    (hirq : irqStage slot args.hwIrqs t'' = some (.ok w)) (hlate : CapMoves slot w last) :
    Moves leaky u last := by
  have hbefore := hbuilt.frame hcaps.frame
  obtain ⟨task, htask, -, hnone, -⟩ := hbefore.own
  obtain ⟨reply, -, hafter⟩ := hbefore.replyStage hreply
  obtain ⟨task', htask', hsome, -⟩ := (hafter.frame hreplyCaps.frame).own
  obtain rfl := irqStage_spec htask' hsome hirq
  have hmailbox : Moves leaky t' v := .single (move_replyStage hbefore.ground htask hnone hreply)
  have hwire : Moves leaky t'' { t'' with irqs := t''.irqs.registerAll args.hwIrqs endpoint } :=
    .single (.wire _ t''.credits)
  exact (hcaps.moves.trans hmailbox).trans ((hreplyCaps.moves.trans hwire).trans hlate.moves)

variable (h : Ground s) (hfree : s.tasks slot = none)
include h hfree

lemma move_endpointStage_of_early {result : Except State State}
    (hadm : Admissible (draftTask args spawner))
    (hleak : s.routing.freeCount = 0 → leaky) (hearly : CapMoves slot (s.draft slot args spawner) t)
    (hstage : endpointStage slot args.coreId t = some result)
    (hu : result = .ok u ∨ result = .error u) : Move leaky t u := by
  obtain ⟨hground, task, htask, hsame⟩ := hearly.frame.of_draft h hfree hadm
  refine move_endpointStage hground htask hsame.endpoint ?_ hstage hu
  rw [hearly.frame.routing]
  exact hleak

lemma progress_of_outcome {result : Except State State} (hadm : Admissible (draftTask args spawner))
    (hleak : args.hasRecvEndpoint → s.routing.freeCount = 0 → leaky)
    (hout : SpawnOutcome slot args (s.draft slot args spawner) result) :
    (∃ t, result = .error t ∧ Progress leaky s slot args t ∧
        ∃ task, t.tasks slot = some task ∧ task.replyEndpoint = none) ∨
      ∃ t, result = args.finish t ∧ ∀ leaky, Progress leaky s slot args t := by
  cases hout with
  | plain t hrecv hmoves =>
    exact .inr ⟨t, rfl, fun _ => progress_of_capMoves hfree hadm hmoves⟩
  | refused t u hrecv hearly hep =>
    have hbefore := @progress_of_capMoves s t slot args spawner leaky hfree hadm hearly
    have hmove : Move leaky t u :=
      move_endpointStage_of_early h hfree hadm (hleak hrecv) hearly hep (.inr rfl)
    obtain ⟨hground, task, htask, hsame⟩ := hearly.frame.of_draft h hfree hadm
    obtain ⟨endpoint, generation, opened, hopen, hcases⟩ := endpointStage_spec hground htask hep
    obtain ⟨-, ⟨⟩⟩ := hcases.resolve_left (by simp)
    have htasks := (hground.opened hopen).tasks
    refine .inl ⟨u, rfl, ⟨hbefore.moves.tail hmove, ?_, ?_⟩, task, ?_, hsame.replyEndpoint⟩
    · rw [htasks]
      exact hbefore.others
    · rw [htasks]
      exact hbefore.own
    · rw [htasks, htask]
  | served t u t' v t'' w last hrecv hearly hep hcaps hreply hreplyCaps hirq hlate =>
    obtain ⟨hroom, -, -, opened, hopened⟩ := built_endpointStage h hfree hadm hearly hep
    obtain ⟨-, endpoint, reply, hmailbox, hbuilt⟩ := built_of_served h hfree hadm hearly
      hep hcaps hreply hreplyCaps hirq hlate
    have hbefore : ∀ leaky, Moves leaky s u := fun _ =>
      (progress_of_capMoves hfree hadm hearly).moves.tail
        (move_endpointStage_of_early h hfree hadm (by omega) hearly hep (.inl rfl))
    obtain ⟨task, htask, -, hown, -⟩ := hbuilt.own
    refine .inr ⟨last, rfl, fun leaky => ⟨(hbefore leaky).trans (moves_of_reply hopened hcaps hreply hreplyCaps hirq
      hlate), hbuilt.others, task, htask, ?_⟩⟩
    cases reply with
    | none => exact .inl hown
    | some id => exact .inr ⟨hrecv, hmailbox.symm⟩

lemma progress_of_error (hreq : Requested s args spawner)
    (hrun : run (spawnStages slot args) (s.draft slot args spawner) = some (.error t)) :
    Moves (args.Leaks s) s t ∧
      ∃ task, t.tasks slot = some task ∧ (task.replyEndpoint = none ∨ args.Leaks s) := by
  have hleak : args.hasRecvEndpoint → s.routing.freeCount = 0 → args.Leaks s :=
    fun hrecv hfull => ⟨hrecv, .inl hfull⟩
  rcases progress_of_outcome h hfree hreq.admissible hleak (spawn_outcome h hfree hreq hrun) with
    ⟨_, ⟨⟩, hprogress, task, htask, hnone⟩ | ⟨last, hlast, hprogress⟩
  · exact ⟨hprogress.moves, task, htask, .inl hnone⟩
  unfold SpawnArgs.finish at hlast
  split at hlast
  next hlate =>
    cases hlast
    obtain ⟨task, htask, hreply⟩ := (hprogress True).own
    exact ⟨(hprogress _).moves, task, htask,
      hreply.imp_right fun ⟨hrecv, hmailbox⟩ => ⟨hrecv, .inr ⟨hlate, hmailbox⟩⟩⟩
  · cases hlast

lemma progress_of_ok (hreq : Requested s args spawner)
    (hrun : run (spawnStages slot args) (s.draft slot args spawner) = some (.ok t)) :
    Progress leaky s slot args t := by
  rcases progress_of_outcome h hfree hreq.admissible (fun _ _ => trivial)
    (spawn_outcome h hfree hreq hrun) with ⟨_, ⟨⟩, _⟩ | ⟨last, hlast, hprogress⟩
  unfold SpawnArgs.finish at hlast
  split at hlast
  · cases hlast
  · cases hlast
    exact hprogress leaky

lemma moves_spawnServiceWithImage {result : Option (Option Nat)} (hreq : Requested s args spawner)
    (hspawn : spawnServiceWithImage s slot args spawner = some (s', result)) :
    Moves (args.Leaks s) s s' := by
  unfold spawnServiceWithImage at hspawn
  split at hspawn
  · cases hspawn
  next t hrun =>
    obtain ⟨cleaned, hclean, heq⟩ := map_eq_some_iff.mp hspawn
    cases heq
    obtain ⟨hmoves, task, htask, hleak⟩ := progress_of_error h hfree hreq hrun
    have hground : Ground t := hmoves.keep (fun _ _ => Move.ground) h
    exact hmoves.trans (moves_cleanupPartialSpawn hground htask hleak hclean)
  next t hrun =>
    cases hspawn
    exact (progress_of_ok h hfree hreq hrun).moves

end Spawn

section Requests

variable {s s' : State} {caller child slot : Slot} {spawnSlot : Nat} {request : ImageRequest}
  {reply : Reply} {task : Task} {leaky : Prop}

lemma held_of_resolveInstalls {requested : List (Name × Nat)} {installs : List (Name × Cap)}
    (h : resolveInstalls s caller requested = .ok installs) {install : Name × Cap}
    (hinstall : install ∈ installs) :
    ∃ task, s.tasks caller = some task ∧ task.caps.Holds install.2 ∧
      install.2.rights.contains .GRANT := by
  induction requested generalizing installs with
  | nil =>
    cases h
    cases hinstall
  | cons first rest ih =>
    simp only [resolveInstalls] at h
    split at h
    · cases h
    rename_i cap hcap
    split at h
    · cases h
    rename_i others hothers
    cases h
    rcases List.mem_cons.mp hinstall with rfl | hrest
    · exact lookupCap_eq_ok hcap
    · exact ih hothers hrest

/-- A request that `handle_spawn_image` passes on went through all its checks. -/
lemma requested_of_handleSpawnImage {installs : List (Name × Cap)}
    (hprivileges : privilegesCallerLacks task.caps request.word = none)
    (hlen : request.name.length ≤ nameMax)
    (hinstalls : resolveInstalls s caller request.installs = .ok installs)
    (hname : request.name ≠ supervisorName) :
    Requested s (request.args installs) (some task.caps) where
  admissible :=
    { caps := rfl
      endpoint := rfl
      replyEndpoint := rfl
      name := rfl
      length := hlen
      spawner := by
        rintro found ⟨⟩
        exact ⟨hname, request.word, rfl, hprivileges⟩
      kernel := by
        rintro ⟨⟩ }
  granted install hinstall := by
    obtain ⟨holder, hholder, hholds, hgrant⟩ := held_of_resolveInstalls hinstalls hinstall
    exact ⟨caller, holder, hholder, hholds, hgrant⟩

lemma moves_returnEndpoint {result : Option (Option Nat)} (htask : s.tasks caller = some task)
    (hres : ∀ endpoint, result = some (some endpoint) → s.endpointOf child = some endpoint)
    (h : returnEndpoint s caller result = some (s', reply)) : Moves leaky s s' := by
  match result with
  | none =>
    cases h
    exact .refl
  | some none =>
    cases h
    exact .refl
  | some (some endpoint) =>
    obtain ⟨owner, howner, howns⟩ := bind_eq_some_iff.mp (hres endpoint rfl)
    have hmintable : ∀ rights, Mintable s task endpoint rights :=
      fun rights => .endpoint child owner howner (.inl howns)
    simp only [returnEndpoint] at h
    split at h
    · cases h
    rename_i cap minted hmint
    split at h
    next inserted index hins =>
      cases h
      exact .single (.caps caller _ (move_of_mint_insert htask (hmintable _) hmint hins))
    · cases h
      exact .single (.caps caller _ (move_of_mint htask (hmintable _) hmint))

end Requests

/-- The operation is a spawn that loses an endpoint id. -/
def Op.Leaks (s : State) : Op → Prop
  | .spawnImage _ _ _ request => (request.args []).Leaks s
  | .respawnSupervisor _ lateFailure => (supervisorArgs lateFailure).Leaks s
  | _ => False

instance (args : SpawnArgs) (s : State) : Decidable (args.Leaks s) :=
  inferInstanceAs (Decidable (_ ∧ _))

instance (s : State) (op : Op) : Decidable (op.Leaks s) := by
  cases op <;> unfold Op.Leaks <;> infer_instance

section Step

variable {s s' : State} {caller child slot : Slot} {spawnSlot : Nat} {request : ImageRequest}
  {reply : Reply}

/-- A spawn request is refused and changes nothing, or passes its checks and is
carried out. -/
lemma handleSpawnImage_cases
    (hstep : handleSpawnImage s caller child spawnSlot request = some (s', reply)) :
    s' = s ∨ ∃ task installs spawned result, s.tasks caller = some task ∧
      Requested s (request.args installs) (some task.caps) ∧
      spawnServiceWithImage s child (request.args installs) (some task.caps) =
        some (spawned, result) ∧
      returnEndpoint spawned caller result = some (s', reply) := by
  have hrefused : ∀ code, some (s, Reply.code code) = some (s', reply) → s' = s :=
    fun _ heq => (Prod.mk.inj (some.inj heq)).1.symm
  unfold handleSpawnImage at hstep
  split at hstep
  · cases hstep
  · exact .inl (hrefused _ hstep)
  rename_i task cap htask hlook
  split at hstep
  · exact .inl (hrefused _ hstep)
  split at hstep
  · exact .inl (hrefused _ hstep)
  split at hstep
  · exact .inl (hrefused _ hstep)
  rename_i hprivileges
  split at hstep
  · exact .inl (hrefused _ hstep)
  rename_i hname
  split at hstep
  · exact .inl (hrefused _ hstep)
  split at hstep
  · exact .inl (hrefused _ hstep)
  rename_i installs hinstalls
  split at hstep
  · exact .inl (hrefused _ hstep)
  rename_i hsupervisor
  split at hstep
  · exact .inl (hrefused _ hstep)
  split at hstep
  · cases hstep
  rename_i spawned result hspawned
  have hlen : request.name.length ≤ nameMax := not_lt.mp fun hlong => hname (.inr hlong)
  exact .inr ⟨task, installs, spawned, result, htask,
    requested_of_handleSpawnImage (by simpa using hprivileges) hlen hinstalls hsupervisor,
    hspawned, hstep⟩

lemma moves_handleSpawnImage (h : Ground s) (hfree : s.tasks child = none)
    (hstep : handleSpawnImage s caller child spawnSlot request = some (s', reply)) :
    Moves ((request.args []).Leaks s) s s' := by
  rcases handleSpawnImage_cases hstep with
    rfl | ⟨task, installs, spawned, result, htask, hreq, hspawned, hreturn⟩
  · exact .refl
  have hcarried := moves_spawnServiceWithImage h hfree hreq hspawned
  have hmoves : Moves ((request.args []).Leaks s) s spawned := hcarried
  unfold spawnServiceWithImage at hspawned
  split at hspawned
  · cases hspawned
  · obtain ⟨cleaned, -, heq⟩ := map_eq_some_iff.mp hspawned
    cases heq
    obtain ⟨rfl, -⟩ := Prod.mk.inj (some.inj hreturn)
    exact hmoves
  next t hrun =>
    obtain ⟨rfl, rfl⟩ := Prod.mk.inj (some.inj hspawned)
    have hprogress : Progress True s child (request.args installs) t :=
      progress_of_ok h hfree hreq hrun
    have hcaller : caller ≠ child := by
      rintro rfl
      simp [hfree] at htask
    have hown : ∀ endpoint, some (t.endpointOf child) = some (some endpoint) →
        t.endpointOf child = some endpoint := fun _ => some.inj
    exact hmoves.trans (moves_returnEndpoint ((hprogress.others caller hcaller).trans htask)
      hown hreturn)

lemma requested_supervisorArgs (s : State) (lateFailure : Bool) :
    Requested s (supervisorArgs lateFailure) none where
  admissible :=
    { caps := rfl
      endpoint := rfl
      replyEndpoint := rfl
      name := rfl
      length := by simp only [draftTask, supervisorArgs]; decide
      spawner := by rintro found ⟨⟩
      kernel := fun _ => rfl }
  granted install hinstall := by cases hinstall

/-- At boot a spawn of the supervisor that fails, and so one that leaks, is a panic. -/
lemma moves_spawnSupervisor {leaky : Prop} (h : Ground s) (hfree : s.tasks slot = none)
    (hstep : spawnSupervisor s slot = some s') : Moves leaky s s' := by
  unfold spawnSupervisor at hstep
  split at hstep
  · cases hstep
  · cases hstep
  rename_i spawned result hspawned
  cases hstep
  unfold spawnServiceWithImage at hspawned
  split at hspawned
  · cases hspawned
  · obtain ⟨cleaned, -, heq⟩ := map_eq_some_iff.mp hspawned
    cases heq
  rename_i t hrun
  cases hspawned
  exact (progress_of_ok h hfree (requested_supervisorArgs s false) hrun).moves

lemma moves_pollSupervisorRespawn {lateFailure : Bool} (h : Ground s) (hfree : s.tasks slot = none)
    (hstep : pollSupervisorRespawn s slot lateFailure = some s') :
    Moves ((supervisorArgs lateFailure).Leaks s) s s' := by
  obtain ⟨⟨spawned, result⟩, hspawned, rfl⟩ := map_eq_some_iff.mp hstep
  exact moves_spawnServiceWithImage h hfree (requested_supervisorArgs s lateFailure) hspawned

lemma moves_of_step {op : Op} (h : Ground s) (hstep : step s op = some s') :
    Moves (op.Leaks s) s s' := by
  cases op with
  | spawnSupervisor slot =>
    simp only [step, isNone_iff_eq_none] at hstep
    split at hstep
    next hfree =>
      exact moves_spawnSupervisor h hfree hstep
    · cases hstep
  | respawnSupervisor slot lateFailure =>
    simp only [step, isNone_iff_eq_none] at hstep
    split at hstep
    next hfree =>
      exact moves_pollSupervisorRespawn h hfree hstep
    · cases hstep
  | spawnImage caller child spawnSlot request =>
    simp only [step, isNone_iff_eq_none] at hstep
    split at hstep
    next hfree =>
      obtain ⟨⟨spawned, reply⟩, hspawn, rfl⟩ := map_eq_some_iff.mp hstep
      exact moves_handleSpawnImage h hfree hspawn
    · cases hstep
  | kill slot => exact moves_killTask h hstep
  | recv slot index mode =>
    cases hstep
    exact moves_handleRecv s slot index mode
  | send slot index blocking =>
    cases hstep
    exact moves_handleSend s slot index blocking
  | sendWithCap slot endpointSlot grantSlot =>
    cases hstep
    exact (transfers_handleSendWithCap s slot endpointSlot grantSlot).moves
  | call slot targetSlot replySlot recvSlot =>
    cases hstep
    exact (transfers_handleCall s slot targetSlot replySlot recvSlot).moves
  | callReply slot =>
    cases hstep
    exact moves_handleCallReply s slot
  | resourceInvoke slot fileSlot replySlot right =>
    cases hstep
    exact (transfers_handleResourceInvoke s slot fileSlot replySlot right).moves
  | resourceMint slot rightsBits writable =>
    obtain ⟨⟨minted, reply⟩, hmint, rfl⟩ := map_eq_some_iff.mp hstep
    exact moves_handleResourceMint hmint
  | resourceRevoke slot id =>
    obtain ⟨⟨revoked, reply⟩, hrevoke, rfl⟩ := map_eq_some_iff.mp hstep
    exact moves_handleResourceRevoke hrevoke
  | deriveCap slot index =>
    cases hstep
    exact (moves_handleDeriveCap s slot index).moves
  | removeCap slot index =>
    cases hstep
    exact (moves_removeCap s slot index).moves
  | takePendingCap slot =>
    cases hstep
    exact (moves_handleTakePendingCap s slot).moves
  | acquireSendCap slot name includeGrant =>
    obtain ⟨⟨acquired, reply⟩, hacquire, rfl⟩ := map_eq_some_iff.mp hstep
    exact (moves_handleAcquireSendCap h hacquire).moves

/-- A property that every move keeps under the ground invariant holds in every
state that a run reaches; only what the condition on the run lets leak may leak. -/
lemma keep_of_reaches {ok : State → Op → Prop} {leaky : Prop} {I : State → Prop}
    (hleak : ∀ s op, ok s op → op.Leaks s → leaky) (hground : Ground s) (hinit : I s)
    (hkeep : ∀ s t, Ground s → I s → Move leaky s t → I t)
    (h : Transition.Reaches step ok s s') : Ground s' ∧ I s' := by
  refine h.invariant (I := fun s => Ground s ∧ I s) ⟨hground, hinit⟩ ?_
  rintro t op u ⟨hground, hI⟩ hok hstep
  refine Moves.keep (I := fun s => Ground s ∧ I s) ?_ ⟨hground, hI⟩ (moves_of_step hground hstep)
  rintro a b ⟨hground, hI⟩ hmove
  exact ⟨hmove.ground hground, hkeep a b hground hI (hmove.mono (hleak t op hok))⟩

lemma ground_of_reached (h : Reached s) : Ground s :=
  (keep_of_reaches (fun _ _ _ _ => trivial) ground_boot trivial (fun _ _ _ _ _ => trivial) h).1

end Step

end Godspeed.Authority
