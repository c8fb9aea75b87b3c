import Godspeed.Authority.Unwind

/-!
# Privileges stay where they were minted

What a spawn mints on a gate resource is either the bare GRANT or carries no
GRANT at all, and only what carries GRANT is ever copied.  So a capability that
can be used on a gate never leaves the table it was minted into, although no
insertion checks this: `Vetted` and `Settled` are kept by every move.
-/

namespace Godspeed.Authority

open Capability Ipc Grants PrivBit

/-- A capability on a gate resource with a right other than GRANT. -/
def Usable (cap : Cap) : Prop :=
  isGate cap.resourceId = true ∧ cap.rights.without .GRANT ≠ ⟨0⟩

instance (cap : Cap) : Decidable (Usable cap) := inferInstanceAs (Decidable (_ ∧ _))

/-- What the spawn of a task was checked for, and what it has on gates since. -/
structure Vetted (task : Task) : Prop where
  name : task.name = task.grants.name
  spawner : ∀ caller, task.spawner = some caller →
    ∃ word, task.grants.word = some word ∧ privilegesCallerLacks caller word = none
  own : ∀ cap, task.caps.Holds cap → Usable cap →
    ∃ gate : Gate, cap.resourceId = gate.id ∧ task.grants.Mints gate cap.rights

structure Settled (s : State) : Prop where
  vetted : ∀ slot task, s.tasks slot = some task → Vetted task
  flight : ∀ msg, s.routing.InFlight msg → ∀ cap ∈ msg.caps, ¬ Usable cap

lemma settled_boot : Settled boot where
  vetted _ _ h := nomatch h
  flight msg h := by
    obtain ⟨_, _, hlook, -⟩ := h
    simp [boot] at hlook

section Mints

variable {grants : Grants} {gate : Gate} {rights : Rights}

/-- The split that nothing enforces: GRANT is minted alone. -/
lemma eq_grant_of_mints (hmints : grants.Mints gate rights)
    (hgrant : rights.contains .GRANT) : rights = .GRANT := by
  have hsplit : ∀ entry ∈ grants.early ++ grants.late,
      entry.2.2.contains .GRANT → entry.2.2 = .GRANT := by
    simp [early, late, supervisorDelegatable, Rights.contains, Rights.READ,
      Rights.WRITE, Rights.GRANT]
  exact hsplit _ hmints hgrant

lemma name_of_mints (hmints : grants.Mints .imageSpawn rights) : grants.name = supervisorName := by
  have himage : ∀ entry ∈ grants.early ++ grants.late,
      entry.1 → entry.2.1 = .imageSpawn → grants.name = supervisorName := by
    cases hword : grants.word <;>
      simp [early, late, privileges, Privileges.ofWord, servicePrivileges, hword,
        supervisorDelegatable, gate]
  exact himage _ hmints rfl rfl

/-- What a request mints for use is no privilege, or a bit of its word stands for it. -/
lemma bit_of_mints (hmints : grants.Mints gate rights) (husable : rights ≠ .GRANT)
    {word : BitVec 32} (hword : grants.word = some word) :
    gate = .logWrite ∨ gate = .consoleRead ∨ gate = .devicePower ∨
      ∃ bit ∈ checks, bit.gate = gate ∧ bit.set word := by
  have hbits : ∀ entry ∈ grants.early ++ grants.late, entry.1 → entry.2.2 ≠ .GRANT →
      entry.2.1 = .logWrite ∨ entry.2.1 = .consoleRead ∨ entry.2.1 = .devicePower ∨
        ∃ bit ∈ checks, bit.gate = entry.2.1 ∧ bit.set word := by
    simp +contextual [early, late, privileges, Privileges.ofWord, hword,
      supervisorDelegatable, checks, PrivBit.gate]
  exact hbits _ hmints rfl husable

lemma holdsResource_of_privileges {caller : CapTable} {word : BitVec 32} {bit : PrivBit}
    (h : privilegesCallerLacks caller word = none) (hmem : bit ∈ checks)
    (hset : bit.set word) : caller.holdsResource bit.gate.id .GRANT := by
  unfold privilegesCallerLacks at h
  split at h
  · cases h
  · have hlacks := List.find?_eq_none.mp (Option.map_eq_none_iff.mp h) bit hmem
    simpa [hset] using hlacks

end Mints

section Moves

variable {s t : State} {slot : Slot} {cap : Cap} {task task' : Task}

lemma Settled.not_usable (h : Settled s) (hgranted : s.Granted cap) : ¬ Usable cap := by
  rcases hgranted with ⟨slot, task, htask, hholds, hgrant⟩ | ⟨msg, hmsg, hcap⟩
  · intro husable
    obtain ⟨gate, -, hmints⟩ := (h.vetted slot task htask).own cap hholds husable
    have hrights := eq_grant_of_mints hmints hgrant
    exact husable.2 (by rw [hrights]; decide)
  · exact h.flight msg hmsg cap hcap

lemma Vetted.of_same (h : Vetted task) (hname : task'.name = task.name)
    (hgrants : task'.grants = task.grants) (hspawner : task'.spawner = task.spawner)
    (hcaps : ∀ cap, task'.caps.Holds cap → task.caps.Holds cap ∨ ¬ Usable cap ∨
      ∃ gate : Gate, cap.resourceId = gate.id ∧ task.grants.Mints gate cap.rights) :
    Vetted task' where
  name := by rw [hname, hgrants, h.name]
  spawner := by
    rw [hspawner, hgrants]
    exact h.spawner
  own cap hcap husable := by
    rw [hgrants]
    rcases hcaps cap hcap with hold | hnot | hmints
    · exact h.own cap hold husable
    · exact absurd husable hnot
    · exact hmints

lemma Settled.setTask (h : Settled s) {new : Option Task}
    (htasks : t.tasks = Function.update s.tasks slot new)
    (hflight : ∀ msg, t.routing.InFlight msg → s.routing.InFlight msg)
    (hnew : ∀ task, new = some task → Vetted task) : Settled t where
  vetted other found hfound := by
    rw [htasks] at hfound
    rcases tasks_setTask.mp hfound with ⟨-, heq⟩ | ⟨-, hold⟩
    · exact hnew found heq
    · exact h.vetted other found hold
  flight msg hmsg := h.flight msg (hflight msg hmsg)

lemma CapMove.settled (hground : Ground s) (h : Settled s) (hmove : CapMove slot s t) :
    Settled t := by
  cases hmove with
  | tidy task task' htask hsame hcaps =>
    refine h.setTask rfl (fun _ hmsg => hmsg) fun _ heq => ?_
    cases heq
    exact (h.vetted slot task htask).of_same hsame.name hsame.grants hsame.spawner
      fun cap hcap => .inl (hcaps cap hcap)
  | copy task task' cap old htask hsame hcaps hgrant hcap =>
    refine h.setTask rfl (fun _ hmsg => hmsg) fun _ heq => ?_
    cases heq
    refine (h.vetted slot task htask).of_same hsame.name hsame.grants hsame.spawner
      fun other hother => (hcaps other hother).imp_right ?_
    rintro rfl
    refine .inl fun husable => h.not_usable hgrant ?_
    rcases hcap with rfl | ⟨-, rfl⟩
    · exact husable
    · exact ⟨husable.1, by simpa [Cap.withoutGrant, Rights.without, BitVec.and_assoc] using husable.2⟩
  | mint task task' id rights cap ledger htask hsame hmint hcaps hmintable =>
    obtain ⟨rfl, rfl, -, rfl⟩ := Ledger.mintCap_spec hmint
    refine h.setTask rfl (fun _ hmsg => hmsg) fun _ heq => ?_
    cases heq
    refine (h.vetted slot task htask).of_same hsame.name hsame.grants hsame.spawner
      fun other hother => (hcaps other hother).imp_right ?_
    rintro rfl
    cases hmintable with
    | gate gate hid hmints => exact .inr ⟨gate, hid, hmints⟩
    | endpoint owned owner howner howns =>
      refine .inl fun husable => ?_
      have hlt := lt_firstEndpointId_of_isGate husable.1
      have hrange := hground.ranged owned owner _ howner howns
      omega
    | delegated bandSlot hid =>
      refine .inl fun husable => ?_
      have hlt := lt_firstEndpointId_of_isGate husable.1
      exact ne_id_of_lt bandSlot (hlt.trans (by decide)) hid

lemma Move.settled {leaky : Prop} (hground : Ground s) (h : Settled s)
    (hmove : Move leaky s t) : Settled t := by
  cases hmove with
  | caps slot _ hmove => exact hmove.settled hground h
  | route routing hflight =>
    refine ⟨h.vetted, fun msg hmsg cap hcap => ?_⟩
    rcases hflight msg hmsg with hold | hgrant
    · exact h.flight msg hold cap hcap
    · exact h.not_usable (hgrant cap hcap)
  | wire | close | claim | refuse | withdraw => exact ⟨h.vetted, h.flight⟩
  | reserve slot task hfree hadm =>
    refine h.setTask rfl (fun _ hmsg => hmsg) fun _ heq => ?_
    cases heq
    refine ⟨hadm.name, fun caller hcaller => (hadm.spawner caller hcaller).2,
      fun cap hcap => ?_⟩
    rw [hadm.caps] at hcap
    exact hcap.elim nofun
  | openSpare endpoint generation opened release hopen =>
    obtain ⟨ids, counter, -, -, rfl⟩ := registerEndpoint_spec hopen
    exact ⟨h.vetted, h.flight⟩
  | openPrimary slot task _ _ _ opened _ htask _ hopen hreg
  | openReply slot task _ _ _ opened _ _ htask _ hopen hreg =>
    obtain ⟨ids, counter, -, -, rfl⟩ := registerEndpoint_spec hopen
    refine h.setTask rfl (fun _ => RoutingTable.inFlight_of_tryRegister hreg) fun _ heq => ?_
    cases heq
    exact (h.vetted slot task htask).of_same rfl rfl rfl fun _ hcap => .inl hcap
  | retire slot task freeReply routing _ hcloses =>
    exact h.setTask rfl hcloses.flight fun _ heq => nomatch heq

/-- **Usable privileges never move.**  No message carries a capability that can be
used on a gate.  One in a table was minted there by the spawn of the task, from
its privilege word, its console flag, its device or as its log capability; the
authority to start arbitrary images is the supervisor's alone, and of the rest a
child has only what its spawner held with GRANT. -/
theorem privileges_never_move (h : Reached s) :
    (∀ msg, s.routing.InFlight msg → ∀ cap ∈ msg.caps, ¬ Usable cap) ∧
    ∀ slot task cap, s.tasks slot = some task → task.caps.Holds cap → Usable cap →
      ∃ gate : Gate, cap.resourceId = gate.id ∧ task.grants.Mints gate cap.rights ∧
        (gate = .imageSpawn → task.name = supervisorName) ∧
        ∀ caller, task.spawner = some caller →
          gate = .logWrite ∨ gate = .consoleRead ∨ gate = .devicePower ∨
            caller.holdsResource gate.id .GRANT = true := by
  obtain ⟨-, hsettled⟩ := keep_of_reaches (fun _ _ _ _ => trivial) ground_boot settled_boot
    (fun _ _ hground hsettled hmove => hmove.settled hground hsettled) h
  refine ⟨hsettled.flight, fun slot task cap htask hholds husable => ?_⟩
  have hvetted := hsettled.vetted slot task htask
  obtain ⟨gate, hid, hmints⟩ := hvetted.own cap hholds husable
  have hne : cap.rights ≠ .GRANT := by
    intro heq
    exact husable.2 (by rw [heq]; decide)
  refine ⟨gate, hid, hmints, ?_, fun caller hcaller => ?_⟩
  · rintro rfl
    rw [hvetted.name, name_of_mints hmints]
  obtain ⟨word, hword, hlacks⟩ := hvetted.spawner caller hcaller
  refine (bit_of_mints hmints hne hword).imp_right (.imp_right (.imp_right ?_))
  rintro ⟨bit, hmem, rfl, hset⟩
  exact holdsResource_of_privileges hlacks hmem hset

/-- A child that asked to mint resources: what it holds on that gate was
minted for it. -/
theorem privileges_never_move_child : ∃ s task cap, Reached s ∧ s.tasks 1 = some task ∧
    cap = ⟨Gate.resourceMint.id, .WRITE, 0⟩ ∧ task.caps.Holds cap ∧
      ∃ gate : Gate, cap.resourceId = gate.id ∧ task.grants.Mints gate cap.rights := by
  obtain ⟨s, hs, hend⟩ : ∃ s, Reached s ∧ (s.tasks 1).any (fun task =>
      task.caps.slotAt 5 = some ⟨Gate.resourceMint.id, .WRITE, 0⟩) :=
    Transition.exists_reaches [.spawnSupervisor 0, .spawnImage 0 1 1
      { plainRequest [97] false [] false with word := 128 }] (by decide +kernel)
  obtain ⟨task, htask, hslot⟩ := (Option.any_eq_true _ _).mp hend
  have hholds := CapTable.holds_of_slotAt (of_decide_eq_true hslot)
  obtain ⟨gate, hid, hmints, -⟩ :=
    (privileges_never_move hs).2 1 task _ htask hholds (by decide)
  exact ⟨s, task, _, hs, htask, rfl, hholds, gate, hid, hmints⟩

end Moves

end Godspeed.Authority
