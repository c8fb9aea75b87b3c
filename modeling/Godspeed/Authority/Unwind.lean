import Godspeed.Authority.Run

/-!
# What a failed spawn leaves behind

The unwind of a failed spawn closes the endpoints, drops the name and gives one
id back.  `noTrace_iff_traceless` says exactly when that restores the directory,
the interrupt routes, the live endpoints and the available ids.
-/

namespace Godspeed.Authority

open Capability Interrupt Ipc Staged

/-- A state that the directory, the interrupt routes, the live endpoints and the
available ids cannot tell from another. -/
structure NoTrace (s s' : State) : Prop where
  names : ∀ name, s'.names.lookup name = s.names.lookup name
  irqs : ∀ irq, s'.irqs.route irq = s.irqs.route irq
  live : ∀ id state, s'.routing.Live id state ↔ s.routing.Live id state
  available : ∀ id, s'.ids.Available id ↔ s.ids.Available id

/-- A spawn that leaves no trace if it fails: it opens no endpoint, or it is
served its receive endpoint but no mailbox, takes a name that nobody has, and
routes no interrupt line that is not already routed to the id it gets. -/
def SpawnArgs.Traceless (args : SpawnArgs) (s : State) : Prop :=
  args.hasRecvEndpoint = false ∨
    (0 < s.routing.freeCount ∧ args.mailboxGranted s = false ∧
      s.names.lookup args.grants.name = none ∧
      ∀ irq ∈ args.hwIrqs, s.irqs.route irq = s.ids.alloc.map Prod.fst)

section Trace

variable {s s' t : State} {slot : Slot} {args : SpawnArgs} {spawner : Option CapTable}
  {endpoint : Nat} {reply : Option Nat}

lemma noTrace_of_frame (hframe : Frame slot (s.draft slot args spawner) t) :
    NoTrace s (t.setTask slot none) where
  names _ := by
    show t.names.lookup _ = _
    rw [hframe.names]
    rfl
  irqs _ := by
    show t.irqs.route _ = _
    rw [hframe.irqs]
    rfl
  live _ _ := by
    show t.routing.Live _ _ ↔ _
    rw [hframe.routing]
    rfl
  available _ := by
    show t.ids.Available _ ↔ _
    rw [hframe.ids]
    rfl

/-- A spawn with both of its endpoint stages behind it leaves no trace exactly
when it got no mailbox, its name was free and its lines were routed already. -/
lemma Built.noTrace_iff (h : Ground s) (hlen : args.grants.name.length ≤ nameMax)
    (hbuilt : Built s slot args endpoint reply (s.irqs.registerAll args.hwIrqs endpoint) t)
    (hclean : cleanupPartialSpawn t slot = some s') :
    NoTrace s s' ↔ reply = none ∧ s.names.lookup args.grants.name = none ∧
      ∀ irq ∈ args.hwIrqs, s.irqs.route irq = some endpoint := by
  obtain ⟨task, htask, hep, hreply, hname, -⟩ := hbuilt.own
  obtain ⟨hnames, hirqs, hids, hlive⟩ := cleanup_of_some htask hep hclean
  have hfresh := (hbuilt.fresh endpoint (.inl rfl)).1
  have hrange := hbuilt.ground.ranged slot task endpoint htask (.inl hep)
  have hunmapped : ∀ other, ¬ s.names.Maps other endpoint := by
    intro other hmaps
    obtain ⟨holder, found, hfound, howns, -⟩ :=
      h.named other endpoint (NameTable.lookup_eq_some_iff.mpr hmaps)
    exact h.taken holder found endpoint hfound (.inl howns) hfresh
  have hlook : ∀ name, s'.names.lookup name =
      if name = args.grants.name then none else s.names.lookup name := by
    intro name
    rw [hnames, hname, hbuilt.names]
    exact NameTable.lookup_unregisterEndpoint_register hlen hunmapped name
  have hroute : ∀ irq, s'.irqs.route irq =
      if irq ∈ args.hwIrqs then some endpoint else s.irqs.route irq := by
    intro irq
    rw [hirqs, hbuilt.irqs]
    exact IrqTable.route_registerAll _ _ _ irq
  have havail : ∀ id, s'.ids.Available id ↔ s.ids.Available id ∧ reply ≠ some id ∨ id = endpoint := by
    intro id
    rw [hids, EndpointIds.available_release hrange hbuilt.room, hbuilt.available]
    by_cases heq : id = endpoint <;> simp [heq]
  constructor
  · intro htrace
    refine ⟨?_, ?_, ?_⟩
    · cases reply with
      | none => rfl
      | some id =>
        have hbefore := (hbuilt.fresh id (.inr rfl)).1
        have hne : id ≠ endpoint := by
          rintro rfl
          exact hbuilt.ground.split slot task id htask hep hreply
        rcases (havail id).mp ((htrace.available id).mpr hbefore) with ⟨-, hself⟩ | heq
        · exact absurd rfl hself
        · exact absurd heq hne
    · rw [← htrace.names, hlook, if_pos rfl]
    · intro irq hirq
      rw [← htrace.irqs, hroute, if_pos hirq]
  · rintro ⟨rfl, hfree, hrouted⟩
    refine ⟨fun name => ?_, fun irq => ?_, fun id state => ?_, fun id => ?_⟩
    · rw [hlook]
      split
      next heq =>
        rw [heq, hfree]
      · rfl
    · rw [hroute]
      split
      next hirq =>
        exact (hrouted irq hirq).symm
      · rfl
    · rw [hlive]
      have howns : task.Owns id ↔ id = endpoint := by
        simp [Task.Owns, hep, hreply, eq_comm]
      rw [howns]
      constructor
      · rintro ⟨hstate, hne⟩
        exact (hbuilt.live id state hne (by simp)).mp hstate
      intro hstate
      have hne : id ≠ endpoint := by
        rintro rfl
        exact (hbuilt.fresh id (.inl rfl)).2 ⟨state, hstate⟩
      exact ⟨(hbuilt.live id state hne (by simp)).mpr hstate, hne⟩
    · rw [havail]
      constructor
      · rintro (⟨hid, -⟩ | rfl)
        · exact hid
        · exact hfresh
      · exact fun hid => .inl ⟨hid, by simp⟩

lemma error_of_failed (h : spawnServiceWithImage s slot args spawner = some (s', none)) :
    ∃ t, run (spawnStages slot args) (s.draft slot args spawner) = some (.error t) ∧
      cleanupPartialSpawn t slot = some s' := by
  unfold spawnServiceWithImage at h
  split at h
  · cases h
  next t hrun =>
    obtain ⟨cleaned, hclean, heq⟩ := Option.map_eq_some_iff.mp h
    cases heq
    exact ⟨t, hrun, hclean⟩
  · cases h

lemma stopped_cases (h : Ground s) (hfree : s.tasks slot = none) (hreq : Requested s args spawner)
    (hrun : run (spawnStages slot args) (s.draft slot args spawner) = some (.error t)) :
    (args.hasRecvEndpoint = false ∧ Frame slot (s.draft slot args spawner) t) ∨
      (args.hasRecvEndpoint ∧ s.routing.freeCount = 0 ∧ ∃ u endpoint generation,
          Frame slot (s.draft slot args spawner) u ∧ Ground u ∧
          registerEndpoint u = some (endpoint, generation, t)) ∨
      (args.hasRecvEndpoint ∧ 0 < s.routing.freeCount ∧
        ∃ endpoint reply, reply.isSome = args.mailboxGranted s ∧
          Built s slot args endpoint reply (s.irqs.registerAll args.hwIrqs endpoint) t) := by
  have hfinish : ∀ last, .error t = args.finish last → last = t := by
    intro last hlast
    unfold SpawnArgs.finish at hlast
    split at hlast
    · exact (Except.error.inj hlast).symm
    · cases hlast
  have hout := spawn_outcome h hfree hreq hrun
  generalize hres : (.error t : Except State State) = result at hout
  cases hout with
  | plain last hrecv hmoves =>
    obtain rfl := hfinish last hres
    exact .inl ⟨hrecv, hmoves.frame⟩
  | refused u v hrecv hearly hep =>
    cases hres
    obtain ⟨hground, task, htask, -⟩ := hearly.frame.of_draft h hfree hreq.admissible
    obtain ⟨endpoint, generation, opened, hopen, hcases⟩ := endpointStage_spec hground htask hep
    obtain ⟨hfull, heq⟩ := hcases.resolve_left (by simp)
    cases heq
    rw [hearly.frame.routing] at hfull
    exact .inr (.inl ⟨hrecv, hfull, u, endpoint, generation, hearly.frame, hground, hopen⟩)
  | served u u' v v' w w' last hrecv hearly hep hcaps hreply hreplyCaps hirq hlate =>
    obtain rfl := hfinish last hres
    obtain ⟨hroom, endpoint, reply, hmailbox, hbuilt⟩ := built_of_served h hfree hreq.admissible
      hearly hep hcaps hreply hreplyCaps hirq hlate
    exact .inr (.inr ⟨hrecv, hroom, endpoint, reply, hmailbox, hbuilt⟩)

/-- **Failed spawns.**  A spawn that fails after its slot is reserved, in any state
the kernel reaches and at whichever stage, leaves no trace exactly when it is
traceless. -/
theorem noTrace_iff_traceless (h : Reached s) (hfree : s.tasks slot = none)
    (hreq : Requested s args spawner)
    (hfail : spawnServiceWithImage s slot args spawner = some (s', none)) :
    NoTrace s s' ↔ args.Traceless s := by
  have hground := ground_of_reached h
  obtain ⟨t, hrun, hclean⟩ := error_of_failed hfail
  rcases stopped_cases hground hfree hreq hrun with
    ⟨hrecv, hframe⟩ | ⟨hrecv, hfull, u, endpoint, generation, hframe, hgroundU, hopen⟩ |
      ⟨hrecv, hroom, endpoint, reply, hmailbox, hbuilt⟩
  · obtain ⟨-, task, htask, hsame⟩ := hframe.of_draft hground hfree hreq.admissible
    cases (cleanup_of_none htask hsame.endpoint hsame.replyEndpoint).symm.trans hclean
    exact ⟨fun _ => .inl hrecv, fun _ => noTrace_of_frame hframe⟩
  · -- the id of the refused endpoint is lost
    obtain ⟨-, task, htask, hsame⟩ := hframe.of_draft hground hfree hreq.admissible
    have hopened := hgroundU.opened hopen
    obtain rfl : t.setTask slot none = s' := Option.some.inj
      ((cleanup_of_none ((congrFun hopened.tasks slot).trans htask) hsame.endpoint
        hsame.replyEndpoint).symm.trans hclean)
    have halloc := registerEndpoint_ids hopen
    rw [hframe.ids] at halloc
    obtain ⟨-, havail, -⟩ := EndpointIds.alloc_spec hground.issued halloc
    constructor
    · intro htrace
      exact absurd ((htrace.available endpoint).mpr havail) hopened.taken
    rintro (hnone | ⟨hpos, -⟩)
    · rw [hrecv] at hnone
      cases hnone
    · omega
  · rw [hbuilt.noTrace_iff hground hreq.admissible.length hclean, SpawnArgs.Traceless, hrecv,
      ← hmailbox, hbuilt.next]
    simp [hroom]

/-- A request for a task with a receive endpoint and no privileges. -/
def plainRequest (name : Name) (handover : Bool) (hwIrqs : List Irq) (lateFailure : Bool) :
    ImageRequest where
  name := name
  word := 0
  hasRecvEndpoint := true
  consoleRead := false
  devicePower := false
  peers := []
  peersGrant := false
  installs := []
  handover := handover
  coreId := 0
  hwIrqs := hwIrqs
  watched := false
  lateFailure := lateFailure

lemma requested_plainRequest (s : State) {name : Name} {handover lateFailure : Bool}
    {hwIrqs : List Irq} (hlen : name.length ≤ nameMax) (hname : name ≠ supervisorName) :
    Requested s ((plainRequest name handover hwIrqs lateFailure).args []) (some .empty) :=
  @requested_of_handleSpawnImage s 0 (plainRequest name handover hwIrqs lateFailure)
    (draftTask ((plainRequest name handover hwIrqs lateFailure).args []) none) []
    (show privilegesCallerLacks .empty 0 = none by decide) hlen rfl hname

/-- A failed handover takes the name away from the instance that still runs,
leaves the interrupt line on a dead endpoint and loses an endpoint id. -/
theorem handover_leaves_traces : ∃ s s', Reached s ∧ s.tasks 2 = none ∧
    Requested s ((plainRequest [97] true [5] true).args []) (some .empty) ∧
    spawnServiceWithImage s 2 ((plainRequest [97] true [5] true).args []) (some .empty) =
      some (s', none) ∧
    s.names.lookup [97] = some 102 ∧ s'.names.lookup [97] = none ∧ s'.endpointOf 1 = some 102 ∧
    s'.irqs.route 5 = some 104 ∧ s.ids.next = 104 ∧ s'.ids = ⟨106, [104]⟩ ∧ ¬ NoTrace s s' := by
  obtain ⟨s, hs, hfree, hbefore, hnext, hend⟩ : ∃ s, Reached s ∧ s.tasks 2 = none ∧
      s.names.lookup [97] = some 102 ∧ s.ids.next = 104 ∧
      (spawnServiceWithImage s 2 ((plainRequest [97] true [5] true).args []) (some .empty)).any
        (fun (s', result) => result = none ∧ s'.names.lookup [97] = none ∧
          s'.endpointOf 1 = some 102 ∧ s'.irqs.route 5 = some 104 ∧
          s'.ids = ⟨106, [104]⟩) :=
    Transition.exists_reaches [.spawnSupervisor 0,
      .spawnImage 0 1 1 (plainRequest [97] false [] false)] (by decide +kernel)
  obtain ⟨⟨s', result⟩, hspawn, hend⟩ := (Option.any_eq_true _ _).mp hend
  obtain ⟨rfl, hafter, hown, hirq, hids⟩ := of_decide_eq_true hend
  refine ⟨s, s', hs, hfree, requested_plainRequest s (by decide) (by decide), hspawn, hbefore,
    hafter, hown, hirq, hnext, hids, fun htrace => ?_⟩
  have hlost := htrace.names [97]
  rw [hbefore, hafter] at hlost
  cases hlost

/-- Once the mailboxes are down to their reserve, a spawn under a new name and
without interrupt lines leaves no trace. -/
theorem noTrace_in_crowd : ∃ s s', Reached s ∧ s.tasks 12 = none ∧
    Requested s ((plainRequest [97] false [] true).args []) (some .empty) ∧
    spawnServiceWithImage s 12 ((plainRequest [97] false [] true).args []) (some .empty) =
      some (s', none) ∧ NoTrace s s' := by
  obtain ⟨s, hs, hfree, hname, hcount, hcredits, hend⟩ : ∃ s, Reached s ∧ s.tasks 12 = none ∧
      s.names.lookup [97] = none ∧ s.routing.freeCount = 72 ∧ s.credits = 0 ∧
      (spawnServiceWithImage s 12 ((plainRequest [97] false [] true).args [])
        (some .empty)).any (fun (_, result) => result = none) :=
    Transition.exists_reaches (.spawnSupervisor 0 :: (List.range 11).map fun i =>
      .spawnImage 0 (Fin.ofNat maxTasks (i + 1)) 1
        (plainRequest [98, UInt8.ofNat i] false [] false)) (by decide +kernel)
  obtain ⟨⟨s', result⟩, hspawn, hend⟩ := (Option.any_eq_true _ _).mp hend
  cases of_decide_eq_true hend
  have hreq : Requested s ((plainRequest [97] false [] true).args []) (some .empty) :=
    requested_plainRequest s (by decide) (by decide)
  refine ⟨s, s', hs, hfree, hreq, hspawn,
    (noTrace_iff_traceless hs hfree hreq hspawn).mpr (.inr ⟨by omega, ?_, hname, ?_⟩)⟩
  · rw [SpawnArgs.mailboxGranted, hcount, hcredits]
    decide
  · intro irq hirq
    cases hirq

end Trace

end Godspeed.Authority
