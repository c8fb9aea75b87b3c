import Godspeed.Authority.Lifecycle

/-!
# How a spawn ends

A spawn opens its endpoints and routes its interrupt lines at three of its
stages; everything between them moves within the new task's table, which never
fills up.  `SpawnOutcome` lists the ways through: without a receive endpoint,
refused the receive endpoint, or served.  From it follows that every operation of
the machine is a sequence of moves, and that the ground invariant holds in every
state reached.
-/

namespace Godspeed.Authority

open Capability Interrupt Ipc Staged List

/-- A request as the callers of the spawn path make it: the checks of
`handle_spawn_image` passed, or the kernel spawns the supervisor. -/
structure Requested (s : State) (args : SpawnArgs) (spawner : Option CapTable) : Prop where
  admissible : Admissible (draftTask args spawner)
  granted : ∀ install ∈ args.installs, ∃ holder task, s.tasks holder = some task ∧
    task.caps.Holds install.2 ∧ install.2.rights.contains .GRANT = true

/-- The last stage: what was built, as a failure or a success. -/
def SpawnArgs.finish (args : SpawnArgs) (t : State) : Except State State :=
  if args.lateFailure then .error t else .ok t

/-- The stages after the endpoints but the last. -/
def furnishStages (slot : Slot) (args : SpawnArgs) : List (Stage State) :=
  args.grants.late.map (gateStage slot) ++
  args.installs.map (installStage slot) ++
  args.sendPeers.map (peerStage slot (args.installs.map Prod.fst) args.sendPeersGrant) ++
  args.sendPeers.map (declareStage slot)

/-- The stages of the endpoints. -/
def endpointStages (slot : Slot) (args : SpawnArgs) : List (Stage State) :=
  [endpointStage slot args.coreId, endpointCapsStage slot, replyStage slot args.coreId,
    replyCapsStage slot, irqStage slot args.hwIrqs]

lemma spawnStages_eq (slot : Slot) (args : SpawnArgs) :
    spawnStages slot args = args.grants.early.map (gateStage slot) ++
      ((endpointStages slot args).map (onlyIf args.hasRecvEndpoint) ++
      (furnishStages slot args ++ [onlyIf args.lateFailure fun s => some (.error s)])) := by
  simp [spawnStages, furnishStages, endpointStages]

/-- The task that is spawned aside, what it is to be given may be given. -/
def Givable (base : State) (slot : Slot) (args : SpawnArgs) : Prop :=
  ∀ t : State, (∀ other, other ≠ slot → t.tasks other = base.tasks other) →
    ∀ install ∈ args.installs, t.Granted install.2

/-- The ways a spawn goes from the state in which its slot is reserved. -/
inductive SpawnOutcome (slot : Slot) (args : SpawnArgs) (s : State) : Except State State → Prop
  | plain (t : State) (hrecv : args.hasRecvEndpoint = false) (hmoves : CapMoves slot s t) :
      SpawnOutcome slot args s (args.finish t)
  | refused (t u : State) (hrecv : args.hasRecvEndpoint = true) (hearly : CapMoves slot s t)
      (hendpoint : endpointStage slot args.coreId t = some (.error u)) :
      SpawnOutcome slot args s (.error u)
  | served (t u t' v t'' w end' : State) (hrecv : args.hasRecvEndpoint = true)
      (hearly : CapMoves slot s t)
      (hendpoint : endpointStage slot args.coreId t = some (.ok u)) (hcaps : CapMoves slot u t')
      (hreply : replyStage slot args.coreId t' = some (.ok v)) (hreplyCaps : CapMoves slot v t'')
      (hirq : irqStage slot args.hwIrqs t'' = some (.ok w)) (hlate : CapMoves slot w end') :
      SpawnOutcome slot args s (args.finish end')

section Stages

variable {base u t : State} {slot : Slot} {ref task : Task} {n : Nat} {args : SpawnArgs}
  {result : Except State State}

lemma leads_optional {stages : List (Stage State)}
    (h : ∀ stage ∈ stages, ∀ n, Fills base slot ref u n 1 stage) :
    Fills base slot ref u n stages.length (run stages) :=
  Leads.counted (n + stages.length) (fun stage hstage k _ => h stage hstage k) (le_refl _)

/-- Everything after the endpoints but the last stage: the gate capabilities
fit, and what is optional is passed over when it does not. -/
lemma leads_furnish (hgrants : ref.grants = args.grants)
    (hroom : n + args.grants.late.length ≤ maxCapsPerTask)
    (hgrant : Givable base slot args) :
    ∃ m, Leads (Stands base slot ref u n) (Stands base slot ref u m) (fun _ => False)
      (run (furnishStages slot args)) := by
  refine ⟨_, Leads.append (Leads.append (Leads.append (leads_gateStages ?_ hroom)
    (leads_optional ?_)) (leads_optional ?_)) (leads_optional ?_)⟩
  · intro entry hentry
    rw [hgrants]
    exact mem_append_right _ hentry
  · intro stage hstage k
    obtain ⟨install, hinstall, rfl⟩ := mem_map.mp hstage
    exact leads_installStage fun t hothers => hgrant t hothers install hinstall
  · intro stage hstage k
    obtain ⟨peer, -, rfl⟩ := mem_map.mp hstage
    exact leads_peerStage
  · intro stage hstage k
    obtain ⟨peer, -, rfl⟩ := mem_map.mp hstage
    exact leads_declareStage

lemma Stands.start (hground : Ground t) (htask : t.tasks slot = some ref)
    (hothers : ∀ other, other ≠ slot → t.tasks other = base.tasks other)
    (hused : ref.caps.used ≤ n) : Stands base slot ref t n t :=
  ⟨.refl, hground, hothers, ref, htask, .refl ref, hused⟩

lemma not_alive_of_registerEndpoint {endpoint generation : Nat} {opened : State}
    (h : Ground t) (hopen : registerEndpoint t = some (endpoint, generation, opened)) :
    ¬ t.routing.Alive endpoint := by
  intro halive
  obtain ⟨slot, task, htask, howns⟩ := (h.routed endpoint).mp halive
  exact (h.opened hopen).unowned slot task htask howns

/-- What the stage of the receive endpoint does: it stops exactly when the
routing table is full. -/
lemma endpointStage_spec {coreId : Nat} (h : Ground t) (htask : t.tasks slot = some task)
    (hstage : endpointStage slot coreId t = some result) :
    ∃ endpoint generation opened, registerEndpoint t = some (endpoint, generation, opened) ∧
      ((0 < t.routing.freeCount ∧
          ∃ routing, t.routing.tryRegister endpoint coreId generation = some routing ∧
          result = .ok ({ opened with
            routing := routing
            names := opened.names.register task.name endpoint }.setTask slot
              (some { task with endpoint := some endpoint }))) ∨
        (t.routing.freeCount = 0 ∧ result = .error opened)) := by
  unfold endpointStage at hstage
  simp only [htask] at hstage
  split at hstage
  · cases hstage
  rename_i endpoint generation opened hopen
  refine ⟨endpoint, generation, opened, hopen, ?_⟩
  have hroom := @RoutingTable.isSome_tryRegister _ t.routing endpoint coreId generation
    (not_alive_of_registerEndpoint h hopen)
  rw [(h.opened hopen).routing] at hstage
  split at hstage
  next routing hreg =>
    rw [hreg] at hroom
    exact .inl ⟨hroom.mp rfl, routing, hreg, (Option.some.inj hstage).symm⟩
  next hfull =>
    rw [hfull] at hroom
    exact .inr ⟨by simpa using hroom, (Option.some.inj hstage).symm⟩

lemma replyStage_spec {coreId : Nat} (h : Ground t) (htask : t.tasks slot = some task)
    (hstage : replyStage slot coreId t = some result) :
    ∃ endpoint generation opened, registerEndpoint t = some (endpoint, generation, opened) ∧
      ((RoutingTable.optionalVerdict t.routing.freeCount t.credits task.mayTakeBack ∧
          ∃ routing credits, t.routing.tryRegister endpoint coreId generation = some routing ∧
          result = .ok ({ opened with routing := routing, credits := credits }.setTask slot
            (some { task with replyEndpoint := some endpoint }))) ∨
        (RoutingTable.optionalVerdict t.routing.freeCount t.credits task.mayTakeBack = false ∧
          result = .ok { opened with ids := opened.ids.release endpoint })) := by
  unfold replyStage at hstage
  simp only [htask] at hstage
  split at hstage
  · cases hstage
  rename_i endpoint generation opened hopen
  refine ⟨endpoint, generation, opened, hopen, ?_⟩
  have hverdict := @RoutingTable.isSome_tryRegisterOptional _ t.routing t.credits endpoint coreId
    generation task.mayTakeBack (not_alive_of_registerEndpoint h hopen)
  split at hstage
  next routing credits hreg =>
    rw [(h.opened hopen).routing, (h.opened hopen).credits] at hreg
    rw [hreg] at hverdict
    exact .inl ⟨hverdict.symm, routing, credits,
      RoutingTable.tryRegister_of_optional hreg, (Option.some.inj hstage).symm⟩
  next hrefused =>
    rw [(h.opened hopen).routing, (h.opened hopen).credits] at hrefused
    rw [hrefused] at hverdict
    exact .inr ⟨hverdict.symm, (Option.some.inj hstage).symm⟩

lemma finish_of_run (h : Stands base slot ref u n t) (hgrants : ref.grants = args.grants)
    (hroom : n + args.grants.late.length ≤ maxCapsPerTask)
    (hgrant : Givable base slot args)
    (hrun : run (furnishStages slot args ++ [onlyIf args.lateFailure fun s => some (.error s)]) t =
      some result) : ∃ last, CapMoves slot u last ∧ result = args.finish last := by
  obtain ⟨m, hleads⟩ := @leads_furnish base u slot ref n args hgrants hroom hgrant
  rcases run_append_cases hrun with ⟨stopped, hstop, -⟩ | ⟨last, hgo, hlast⟩
  · exact (hleads t _ h hstop).elim
  · refine ⟨last, (hleads t _ h hgo).moves, ?_⟩
    cases hfail : args.lateFailure with
    | false | true => simpa [run, onlyIf, hfail, SpawnArgs.finish, eq_comm] using hlast

end Stages

section Outcome

variable {s t u : State} {slot : Slot} {args : SpawnArgs} {spawner : Option CapTable} {ref : Task}
  {leaky : Prop} {result : Except State State} {coreId : Nat}

/-- The receive endpoint is opened in one move, which loses an id if the routing
table is full. -/
lemma move_endpointStage (h : Ground t) (htask : t.tasks slot = some ref)
    (hnone : ref.endpoint = none) (hleak : t.routing.freeCount = 0 → leaky)
    (hstage : endpointStage slot coreId t = some result) (hu : result = .ok u ∨ result = .error u) :
    Move leaky t u := by
  obtain ⟨endpoint, generation, opened, hopen, hcases⟩ := endpointStage_spec h htask hstage
  rcases hcases with ⟨-, routing, hreg, rfl⟩ | ⟨hfull, rfl⟩
  · obtain ⟨⟩ := hu.resolve_right (by simp)
    rw [← (h.opened hopen).routing] at hreg
    exact .openPrimary slot ref endpoint generation coreId opened routing htask hnone hopen hreg
  · obtain ⟨⟩ := hu.resolve_left (by simp)
    exact @Move.openSpare leaky t endpoint generation u false hopen (.inr (hleak hfull))

lemma move_replyStage (h : Ground t) (htask : t.tasks slot = some ref)
    (hnone : ref.replyEndpoint = none) (hstage : replyStage slot coreId t = some (.ok u)) :
    Move leaky t u := by
  obtain ⟨endpoint, generation, opened, hopen, hcases⟩ := replyStage_spec h htask hstage
  rcases hcases with ⟨-, routing, credits, hreg, heq⟩ | ⟨-, heq⟩
  · cases heq
    rw [← (h.opened hopen).routing] at hreg
    exact .openReply slot ref endpoint generation coreId opened routing credits htask hnone hopen
      hreg
  · cases heq
    exact @Move.openSpare leaky t endpoint generation opened true hopen (.inl rfl)

lemma Requested.granted_of_others (hreq : Requested s args spawner)
    (hfree : s.tasks slot = none) (hothers : ∀ other, other ≠ slot → t.tasks other = s.tasks other)
    {install : Name × Cap} (hinstall : install ∈ args.installs) : t.Granted install.2 := by
  obtain ⟨holder, task, htask, hholds, hgrant⟩ := hreq.granted install hinstall
  have hne : holder ≠ slot := by
    rintro rfl
    simp [hfree] at htask
  exact .inl ⟨holder, task, (hothers holder hne).trans htask, hholds, hgrant⟩

section Endpoints

variable {base v : State} {n : Nat} {task task' : Task} {hwIrqs : List Irq}

variable (h : Stands base slot ref u n t)
include h

lemma Stands.after (hmove : Move True t v) (htask : t.tasks slot = some task)
    (hothers : ∀ other, other ≠ slot → v.tasks other = t.tasks other)
    (htask' : v.tasks slot = some task') (hcaps : task'.caps = task.caps) :
    Stands base slot task' v n v := by
  obtain ⟨found, hfound, -, hused⟩ := h.own
  cases htask.symm.trans hfound
  exact .start (hmove.ground h.ground) htask'
    (fun other hother => (hothers other hother).trans (h.others other hother)) (hcaps ▸ hused)

lemma Stands.endpointStage (hnone : ref.endpoint = none)
    (hstage : endpointStage slot coreId t = some (.ok v)) :
    ∃ ref' endpoint, ref'.endpoint = some endpoint ∧ ref'.replyEndpoint = ref.replyEndpoint ∧
      ref'.grants = ref.grants ∧ Stands base slot ref' v n v := by
  obtain ⟨task, htask, hsame, -⟩ := h.own
  have hmove : Move True t v :=
    move_endpointStage h.ground htask (hsame.endpoint.trans hnone) (fun _ => trivial) hstage
      (.inl rfl)
  obtain ⟨endpoint, generation, opened, hopen, hcases⟩ := endpointStage_spec h.ground htask hstage
  obtain ⟨-, routing, -, ⟨⟩⟩ := hcases.resolve_right (by simp)
  refine ⟨{ task with endpoint := some endpoint }, endpoint, rfl, hsame.replyEndpoint,
    hsame.grants, h.after hmove htask (fun other hother => ?_)
      (tasks_setTask.mpr (.inl ⟨rfl, rfl⟩)) rfl⟩
  simp [State.setTask, hother, (h.ground.opened hopen).tasks]

lemma Stands.replyStage (hnone : ref.replyEndpoint = none)
    (hstage : replyStage slot coreId t = some result) :
    ∃ v ref', result = .ok v ∧ ref'.endpoint = ref.endpoint ∧ ref'.grants = ref.grants ∧
      Stands base slot ref' v n v := by
  obtain ⟨task, htask, hsame, -⟩ := h.own
  obtain ⟨endpoint, generation, opened, hopen, hcases⟩ := replyStage_spec h.ground htask hstage
  have htasks := (h.ground.opened hopen).tasks
  have hmove : ∀ v, result = .ok v → Move True t v := fun v heq =>
    move_replyStage h.ground htask (hsame.replyEndpoint.trans hnone) (heq ▸ hstage)
  rcases hcases with ⟨-, routing, credits, -, rfl⟩ | ⟨-, rfl⟩
  · refine ⟨_, { task with replyEndpoint := some endpoint }, rfl, hsame.endpoint, hsame.grants,
      h.after (hmove _ rfl) htask (fun other hother => ?_) (tasks_setTask.mpr (.inl ⟨rfl, rfl⟩))
        rfl⟩
    simp [State.setTask, hother, htasks]
  · exact ⟨_, task, rfl, hsame.endpoint, hsame.grants, h.after (hmove _ rfl) htask
      (fun other _ => congrFun htasks other) ((congrFun htasks slot).trans htask) rfl⟩

lemma Stands.irqStage {endpoint : Nat}
    (hsome : ref.endpoint = some endpoint) (hstage : irqStage slot hwIrqs t = some result) :
    ∃ w ref', result = .ok w ∧ ref'.grants = ref.grants ∧ Stands base slot ref' w n w := by
  obtain ⟨task, htask, hsame, -⟩ := h.own
  have hown : t.endpointOf slot = some endpoint := by
    simp [State.endpointOf, htask, hsame.endpoint, hsome]
  unfold Authority.irqStage at hstage
  simp only [hown] at hstage
  cases hstage
  exact ⟨_, task, rfl, hsame.grants, h.after (.wire _ t.credits) htask (fun _ _ => rfl) htask rfl⟩

end Endpoints

lemma outcome_of_recv {base : State} {n : Nat} (h : Stands s slot ref base n t)
    (hrecv : args.hasRecvEndpoint) (hgrants : ref.grants = args.grants)
    (hep : ref.endpoint = none) (hreply : ref.replyEndpoint = none)
    (hroom : n + 4 + args.grants.late.length ≤ maxCapsPerTask)
    (hgrant : Givable s slot args)
    (hrun : run (endpointStages slot args ++
      (furnishStages slot args ++ [onlyIf args.lateFailure fun s => some (.error s)])) t =
        some result) :
    SpawnOutcome slot args base result := by
  -- the receive endpoint and its capabilities
  rcases run_cons_cases hrun with ⟨u, hstop, rfl⟩ | ⟨u, hu, hrun⟩
  · exact .refused t u hrecv h.moves hstop
  obtain ⟨served, endpoint, hserved, hkept, hgrantsServed, hstands⟩ := h.endpointStage hep hu
  rcases run_cons_cases hrun with ⟨stopped, hstop, -⟩ | ⟨t', hcaps, hrun⟩
  · exact (leads_endpointCapsStage hserved (by omega) _ _ hstands hstop).elim
  have hstands := leads_endpointCapsStage hserved (by omega) _ _ hstands hcaps
  have hmoves := hstands.moves
  -- the reply endpoint and its capabilities
  rcases run_cons_cases hrun with ⟨v, hv, -⟩ | ⟨v, hv, hrun⟩
  · obtain ⟨-, -, ⟨⟩, -⟩ := hstands.replyStage (hkept.trans hreply) hv
  obtain ⟨v', wired, heq, hwired, hgrantsWired, hstands⟩ :=
    hstands.replyStage (hkept.trans hreply) hv
  cases heq
  rcases run_cons_cases hrun with ⟨stopped, hstop, -⟩ | ⟨t'', hcaps', hrun⟩
  · exact (leads_replyCapsStage _ _ hstands hstop).elim
  have hstands := leads_replyCapsStage _ _ hstands hcaps'
  have hmoves' := hstands.moves
  -- the interrupt lines and the rest
  rcases run_cons_cases hrun with ⟨w, hw, -⟩ | ⟨w, hw, hrun⟩
  · obtain ⟨-, -, ⟨⟩, -⟩ := hstands.irqStage (hwired.trans hserved) hw
  obtain ⟨w', routed, heq, hgrantsRouted, hstands⟩ := hstands.irqStage (hwired.trans hserved) hw
  cases heq
  have hsameGrants := hgrantsRouted.trans (hgrantsWired.trans (hgrantsServed.trans hgrants))
  obtain ⟨last, hlast, rfl⟩ := finish_of_run hstands hsameGrants hroom hgrant hrun
  exact .served t u t' v t'' w last hrecv h.moves hu hmoves hv hmoves' hw hlast

lemma spawn_outcome (h : Ground s) (hfree : s.tasks slot = none) (hreq : Requested s args spawner)
    (hrun : run (spawnStages slot args) (s.draft slot args spawner) = some result) :
    SpawnOutcome slot args (s.draft slot args spawner) result := by
  have hgrant : Givable s slot args :=
    fun t hothers install hinstall => hreq.granted_of_others hfree hothers hinstall
  have hstart : Stands s slot (draftTask args spawner) (s.draft slot args spawner) 0
      (s.draft slot args spawner) :=
    .start (h.reserve hfree hreq.admissible) (tasks_setTask.mpr (.inl ⟨rfl, rfl⟩))
      (fun other hother => by simp [State.setTask, hother])
      (by simp [draftTask])
  have hfits := args.grants.length_gates_le
  have hearly := @leads_gateStages s (s.draft slot args spawner) slot
    (draftTask args spawner) 0 args.grants.early
    (fun entry hentry => mem_append_left _ hentry) (by omega)
  rw [spawnStages_eq] at hrun
  rcases run_append_cases hrun with ⟨stopped, hstop, -⟩ | ⟨t, hgo, hrest⟩
  · exact (hearly _ _ hstart hstop).elim
  have hstands := hearly _ _ hstart hgo
  cases hrecv : args.hasRecvEndpoint with
  | true =>
    rw [hrecv] at hrest
    exact outcome_of_recv hstands hrecv rfl rfl rfl (by omega) hgrant hrest
  | false =>
    rw [hrecv] at hrest
    obtain ⟨last, hlast, rfl⟩ := finish_of_run hstands rfl (by omega) hgrant hrest
    exact .plain last hrecv hlast

end Outcome

end Godspeed.Authority
