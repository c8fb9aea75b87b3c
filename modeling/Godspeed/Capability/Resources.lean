import Godspeed.Capability.Basic
import Mathlib.Logic.Function.Basic

/-!
# The global resource table

`GLOBAL_RESOURCES` of `capability/table.rs`: for every registered resource its
current generation and how its last life ended.  Every function of the source
takes the table lock once, so each one is a single function here; the panics of
`Generation::bump` and `mint_cap` are `none`.

The table is the direct-indexed part of the source.  Its overflow list is only
reached by ids from `DIRECT_CAP` (8192) on, above every id the kernel hands out.

A register, a bump and a mint are described by `getResourceGeneration` alone:
the laws below say what each of them does to it, and no later proof unfolds them.
-/

namespace Godspeed.Capability

open Function

/-- `Liveness`. -/
inductive Liveness
  | alive
  | revoked
  | dead
  deriving DecidableEq, Repr

/-- `ResourceRecord`. -/
structure ResourceRecord where
  generation : Nat
  liveness : Liveness
  deriving DecidableEq, Repr

/-- `GlobalResourceTable`, as the function `get_record`. -/
structure ResourceTable where
  getRecord : Nat → Option ResourceRecord

namespace ResourceTable

/-- The table at boot: `capability::init` registers the gate resources. -/
def init : ResourceTable :=
  ⟨fun id => if isGate id then some ⟨Generation.initial, .alive⟩ else none⟩

variable (table : ResourceTable) (id : Nat)

/-- `get_resource_generation`. -/
def getResourceGeneration : Option Nat :=
  (table.getRecord id).map ResourceRecord.generation

/-- `register_resource_at_gen`: over whatever was recorded before. -/
def registerAtGen (id generation : Nat) : ResourceTable :=
  ⟨update table.getRecord id (some ⟨generation, .alive⟩)⟩

/-- `register_resource`. -/
def register : ResourceTable :=
  table.registerAtGen id Generation.initial

/-- `bump_generation`: nothing happens to an id that is not registered. -/
def bumpGeneration (liveness : Liveness) : Option ResourceTable :=
  match table.getRecord id with
  | none => some table
  | some record =>
    (Generation.bump record.generation).map fun generation =>
      ⟨update table.getRecord id (some ⟨generation, liveness⟩)⟩

/-- `mark_dead_resource`. -/
def markDead : Option ResourceTable :=
  table.bumpGeneration id .dead

/-- `revoke_resource`. -/
def revoke : Option ResourceTable :=
  table.bumpGeneration id .revoked

/-- `mint_cap`: at the generation recorded now, whatever the liveness says. -/
def mintCap (rights : Rights) : Option Cap :=
  (table.getResourceGeneration id).map fun generation => ⟨id, rights, generation⟩

section Laws

variable {table table' : ResourceTable} {id generation : Nat} {liveness : Liveness}
  {rights : Rights} {cap : Cap}

lemma getResourceGeneration_init :
    init.getResourceGeneration id = if isGate id then some Generation.initial else none := by
  simp only [getResourceGeneration, init]
  split <;> rfl

@[simp] lemma getResourceGeneration_registerAtGen :
    (table.registerAtGen id generation).getResourceGeneration =
      update table.getResourceGeneration id (some generation) := by
  funext id'
  by_cases hid : id' = id
  · subst hid
    simp [getResourceGeneration, registerAtGen]
  · simp [getResourceGeneration, registerAtGen, hid]

/-- A bump adds one to the generation of a registered id and changes no other. -/
lemma getResourceGeneration_bumpGeneration (h : table.bumpGeneration id liveness = some table') :
    table'.getResourceGeneration = update table.getResourceGeneration id
        ((table.getResourceGeneration id).map (· + 1)) := by
  unfold bumpGeneration at h
  cases hrec : table.getRecord id with
  | none =>
    simp only [hrec] at h
    cases h
    simp [getResourceGeneration, hrec]
  | some record =>
    simp only [hrec, Option.map_eq_some_iff] at h
    obtain ⟨next, hbump, rfl⟩ := h
    have hnext := Generation.bump_eq_some hbump
    funext id'
    by_cases hid : id' = id
    · subst hid
      simp [getResourceGeneration, hrec, hnext]
    · simp [getResourceGeneration, hid]

lemma mintCap_eq_some (h : table.mintCap id rights = some cap) :
    cap.resourceId = id ∧ cap.rights = rights ∧
      table.getResourceGeneration id = some cap.generation := by
  obtain ⟨generation, hgen, rfl⟩ := Option.map_eq_some_iff.mp h
  exact ⟨rfl, rfl, hgen⟩

end Laws

end ResourceTable

end Godspeed.Capability
