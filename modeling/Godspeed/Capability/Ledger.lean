import Godspeed.Capability.Band
import Godspeed.Capability.Resources

/-!
# The ledger of resource lives

The resource table together with the history of what was done to it: which
lives of which ids began and ended, and which capabilities were minted.  The
kernel keeps only the table; the log is what "the life a capability was minted
in" means.

The lemmas say, for each operation on the table, which generations it changes and
what it adds to the history.
-/

namespace Godspeed.Capability

inductive Event
  | started (id generation : Nat)
  | minted (cap : Cap)
  | ended (id : Nat)
  deriving DecidableEq, Repr

/-- The resource table and its history. -/
structure Ledger where
  resources : ResourceTable
  log : List Event

namespace Ledger

def init : Ledger := ⟨.init, []⟩

variable (ledger : Ledger) (id : Nat)

/-- `get_resource_generation`. -/
def generationOf : Option Nat :=
  ledger.resources.getResourceGeneration id

/-- `register_resource_at_gen`. -/
def registerAtGen (id generation : Nat) : Ledger :=
  ⟨ledger.resources.registerAtGen id generation, .started id generation :: ledger.log⟩

/-- `mint_cap`. -/
def mintCap (rights : Rights) : Option (Cap × Ledger) :=
  (ledger.resources.mintCap id rights).map fun cap =>
    (cap, { ledger with log := .minted cap :: ledger.log })

/-- `mark_dead_resource`. -/
def markDead : Option Ledger :=
  (ledger.resources.markDead id).map fun resources => ⟨resources, .ended id :: ledger.log⟩

/-- `revoke_resource`. -/
def revoke : Option Ledger :=
  (ledger.resources.revoke id).map fun resources => ⟨resources, .ended id :: ledger.log⟩

/-- `release` of a delegated id: the life ends, the table is left as it is. -/
def released : Ledger :=
  { ledger with log := .ended id :: ledger.log }

/-- The registration of `allocate`: one above the recorded generation, at the
initial one for an id that was never used. -/
def registerNext : Option Ledger :=
  match ledger.generationOf id with
  | some generation => (Generation.bump generation).map (ledger.registerAtGen id)
  | none => some (ledger.registerAtGen id Generation.initial)

section Laws

variable {ledger ledger' : Ledger} {id generation : Nat} {rights : Rights} {cap : Cap}

@[simp] lemma generationOf_registerAtGen :
    (ledger.registerAtGen id generation).generationOf =
      Function.update ledger.generationOf id (some generation) :=
  ResourceTable.getResourceGeneration_registerAtGen

lemma mintCap_spec (h : ledger.mintCap id rights = some (cap, ledger')) :
    cap.resourceId = id ∧ cap.rights = rights ∧ ledger.generationOf id = some cap.generation ∧
      ledger' = { ledger with log := .minted cap :: ledger.log } := by
  obtain ⟨minted, hmint, heq⟩ := Option.map_eq_some_iff.mp h
  cases heq
  obtain ⟨hid, hrights, hgen⟩ := ResourceTable.mintCap_eq_some hmint
  exact ⟨hid, hrights, hgen, rfl⟩

lemma registerNext_spec (h : ledger.registerNext id = some ledger') :
    ∃ generation, ledger' = ledger.registerAtGen id generation ∧
      ∀ g, ledger.generationOf id = some g → g < generation := by
  unfold registerNext at h
  cases hgen : ledger.generationOf id with
  | none =>
    simp only [hgen] at h
    cases h
    exact ⟨_, rfl, fun g hg => absurd hg (by simp)⟩
  | some old =>
    simp only [hgen] at h
    obtain ⟨next, hbump, rfl⟩ := Option.map_eq_some_iff.mp h
    have hnext := Generation.bump_eq_some hbump
    refine ⟨next, rfl, fun g hg => ?_⟩
    cases hg
    omega

/-- What `mark_dead_resource` and `revoke_resource` have in common: the life
ends and the recorded generation goes up by one. -/
structure Ends (ledger : Ledger) (id : Nat) (ledger' : Ledger) : Prop where
  generationOf : ledger'.generationOf =
    Function.update ledger.generationOf id ((ledger.generationOf id).map (· + 1))
  log : ledger'.log = .ended id :: ledger.log

lemma ends_of_markDead (h : ledger.markDead id = some ledger') : ledger.Ends id ledger' := by
  obtain ⟨resources, hbump, rfl⟩ := Option.map_eq_some_iff.mp h
  exact ⟨ResourceTable.getResourceGeneration_bumpGeneration hbump, rfl⟩

lemma ends_of_revoke (h : ledger.revoke id = some ledger') : ledger.Ends id ledger' := by
  obtain ⟨resources, hbump, rfl⟩ := Option.map_eq_some_iff.mp h
  exact ⟨ResourceTable.getResourceGeneration_bumpGeneration hbump, rfl⟩

end Laws

end Ledger

end Godspeed.Capability
