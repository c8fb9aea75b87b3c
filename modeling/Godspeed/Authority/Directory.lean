import Godspeed.Authority.Unwind

/-!
# The name directory

The directory as a partial bijection.  What one table guarantees is
`Bijective`: distinct names, distinct endpoints, a registration that is
found again, and a guarded removal that touches nothing else.  It holds after any
sequence of the three operations, and in every state the kernel reaches, where
moreover every entry is the receive endpoint of a live task of that name.
-/

namespace Godspeed.Authority

open Capability Ipc NameTable

/-- The operations of `ipc/names.rs`. -/
inductive NameOp
  | register (name : Name) (endpointId : Nat)
  | unregister (name : Name)
  | unregisterEndpoint (name : Name) (endpointId : Nat)

def NameOp.apply (table : NameTable) : NameOp → NameTable
  | .register name endpointId => table.register name endpointId
  | .unregister name => table.unregister name
  | .unregisterEndpoint name endpointId => table.unregisterEndpoint name endpointId

/-- The directory is a partial bijection that its operations respect. -/
structure Bijective (table : NameTable) : Prop where
  distinct : table.entries.Pairwise fun a b => a.valid = true → b.valid = true →
    a.name ≠ b.name ∧ a.endpointId ≠ b.endpointId
  found : ∀ name endpointId, name.length ≤ nameMax →
    (table.HasRoom ∨ ∃ old, table.lookup name = some old) →
    (table.register name endpointId).lookup name = some endpointId
  kept : ∀ name endpointId other otherId, table.lookup other = some otherId →
    otherId ≠ endpointId → (table.unregisterEndpoint name endpointId).lookup other = some otherId

lemma bijective (table : NameTable) : Bijective table where
  distinct := table.oneToOne.apart
  found name endpointId hlen hroom := by
    refine lookup_eq_some_iff.mpr (maps_register_self hlen ?_)
    exact hroom.imp_right fun ⟨old, hold⟩ => ⟨old, lookup_eq_some_iff.mp hold⟩
  kept name endpointId other otherId hlook hne := by
    rw [lookup_eq_some_iff] at hlook ⊢
    exact maps_unregisterEndpoint.mpr ⟨hlook, fun heq => hne heq.2⟩

/-- **The directory.**  After any sequence of its operations it is a partial
bijection.  In every state the kernel reaches it is one as well, and its entries
lead to the receive endpoints of live tasks, each under its own name. -/
theorem directory_bijective (ops : List NameOp) :
    Bijective (ops.foldl NameOp.apply .init) ∧
      ∀ s, Reached s → Bijective s.names ∧
        ∀ entry ∈ s.names.entries, entry.valid = true →
          ∃ slot task, s.tasks slot = some task ∧ task.name = entry.name ∧
            task.endpoint = some entry.endpointId := by
  refine ⟨bijective _, fun s hs => ⟨bijective _, fun entry hmem hvalid => ?_⟩⟩
  have hlookup : s.names.lookup entry.name = some entry.endpointId :=
    lookup_eq_some_iff.mpr ⟨entry, hmem, hvalid, rfl, rfl⟩
  obtain ⟨slot, task, htask, hendpoint, hname⟩ := (ground_of_reached hs).named _ _ hlookup
  exact ⟨slot, task, htask, hname, hendpoint⟩

/-- A name of more than `NAME_MAX` bytes is dropped without a trace, however much
room the directory has. -/
theorem long_name_not_found : init.HasRoom ∧
    (init.register (List.replicate 129 97) 100).lookup (List.replicate 129 97) = none := by
  refine ⟨⟨.empty, ?_, rfl⟩, by decide +kernel⟩
  exact List.mem_replicate.mpr ⟨by decide, rfl⟩

/-- During a handover the name leads to the newer instance, and the death of the
older one leaves it there. -/
theorem directory_bijective_handover : ∃ s, Reached s ∧ s.names.lookup [97] = some 104 ∧
    s.tasks 1 = none ∧ ∃ slot task, s.tasks slot = some task ∧ task.name = [97] ∧
      task.endpoint = some 104 := by
  obtain ⟨s, hs, hlookup, hgone⟩ : ∃ s, Reached s ∧ s.names.lookup [97] = some 104 ∧
      s.tasks 1 = none :=
    Transition.exists_reaches [.spawnSupervisor 0,
      .spawnImage 0 1 1 (plainRequest [97] false [] false),
      .spawnImage 0 2 1 (plainRequest [97] true [] false), .kill 1] (by decide +kernel)
  obtain ⟨entry, hmem, hvalid, hname, hid⟩ := lookup_eq_some_iff.mp hlookup
  have hlive := ((directory_bijective []).2 s hs).2 entry hmem hvalid
  rw [hname, hid] at hlive
  exact ⟨s, hs, hlookup, hgone, hlive⟩

/-- **An endpoint is alive exactly while one task owns it**, and no other does, in every state
the kernel reaches. -/
theorem alive_iff_one_owner {s : State} (hs : Reached s) (id : Nat) : s.routing.Alive id ↔
    ∃! slot, ∃ task, s.tasks slot = some task ∧ task.Owns id := by
  have hground := ground_of_reached hs
  rw [hground.routed]
  refine ⟨?_, ExistsUnique.exists⟩
  rintro ⟨slot, task, htask, howns⟩
  refine ⟨slot, ⟨task, htask, howns⟩, ?_⟩
  rintro other ⟨found, hfound, hother⟩
  exact hground.apart other slot found task id hfound htask hother howns

/-- The mailbox of the supervisor, after a death, a failed spawn, and the supervisor's own
death with a failed respawn. -/
theorem alive_iff_one_owner_respawned : ∃ s, Reached s ∧
    (∃ entry ∈ s.routing.lookup 102, entry.liveness = .alive) ∧
    ∃! slot, ∃ task, s.tasks slot = some task ∧ task.Owns 102 :=
  Transition.exists_reaches_and [.spawnSupervisor 0,
    .spawnImage 0 1 1 (plainRequest [97] false [] false), .kill 1,
    .spawnImage 0 1 1 (plainRequest [97] false [] true), .kill 0, .respawnSupervisor 0 true,
    .respawnSupervisor 0 false] (by decide +kernel) fun _ hs halive =>
      (alive_iff_one_owner hs 102).mp halive

end Godspeed.Authority
