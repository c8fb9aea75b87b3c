import Godspeed.Capability.Resources
import Mathlib.Data.Finset.Card
import Mathlib.Data.Fintype.Card
import Mathlib.Data.List.FinRange

/-!
# Capability tables

`CapTable` of `capability/table.rs`: the 64 slots of a task.  `get` is the
check every capability use goes through, `holdsResource` the check by holdings
that the gate resources are tested with, which skips the generation.

Which capabilities a table holds is the relation `Holds`; the laws say what an
insertion and a removal do to it and when `get` accepts.  `used` counts the
slots in use, so that a table with room for them takes a known number of
capabilities.
-/

namespace Godspeed.Capability

open Function Option

/-- `MAX_CAPS_PER_TASK`. -/
def maxCapsPerTask : Nat := 64

/-- `CapTable`. -/
structure CapTable where
  slots : Fin maxCapsPerTask → Option Cap

namespace CapTable

/-- `CapTable::new`. -/
def empty : CapTable := ⟨fun _ => none⟩

variable (table : CapTable)

/-- `slots.get(slot)`: an index from user space may be out of range. -/
def slotAt (slot : Nat) : Option Cap :=
  if h : slot < maxCapsPerTask then table.slots ⟨slot, h⟩ else none

/-- `CapTable::get`: the slot, then the generation, then the rights.  A stale
capability is told apart by the liveness of the record. -/
def get (resources : ResourceTable) (slot : Nat) (required : Rights) : Except CapError Cap :=
  match table.slotAt slot with
  | none => .error .capNotHeld
  | some cap =>
    match resources.getRecord cap.resourceId with
    | none => .error .capNotHeld
    | some record =>
      if cap.generation = record.generation then
        if cap.rights.contains required then .ok cap else .error .capInsufficientRights
      else
        match record.liveness with
        | .dead => .error .endpointDead
        | .revoked => .error .capRevoked
        | .alive => .error .capRevoked

def firstFree : Option (Fin maxCapsPerTask) :=
  (List.finRange maxCapsPerTask).find? fun i => (table.slots i).isNone

/-- `CapTable::insert`; `none` is the error of a full table. -/
def insert (cap : Cap) : Option (CapTable × Fin maxCapsPerTask) :=
  table.firstFree.map fun i => (⟨update table.slots i (some cap)⟩, i)

/-- `CapTable::remove`. -/
def remove (slot : Nat) : CapTable :=
  if h : slot < maxCapsPerTask then ⟨update table.slots ⟨slot, h⟩ none⟩ else table

/-- `CapTable::holds_resource`: by resource and right, with no generation check. -/
def holdsResource (id : Nat) (required : Rights) : Bool :=
  (List.finRange maxCapsPerTask).any fun i =>
    (table.slots i).any fun cap => cap.resourceId == id && cap.rights.contains required

/-- Some slot of the table holds the capability. -/
def Holds (cap : Cap) : Prop := ∃ i, table.slots i = some cap

def used : Nat := (Finset.univ.filter fun i => (table.slots i).isSome).card

section Laws

variable {table table' : CapTable} {resources : ResourceTable} {cap cap' : Cap} {slot : Nat}
  {required : Rights} {i : Fin maxCapsPerTask}

lemma holds_of_slotAt (h : table.slotAt slot = some cap) : table.Holds cap := by
  unfold slotAt at h
  split at h
  · exact ⟨_, h⟩
  · cases h

/-- `get` accepts exactly the capabilities in the slot whose generation is the
recorded one and that carry the right. -/
lemma get_eq_ok_iff : table.get resources slot required = .ok cap ↔ table.slotAt slot = some cap ∧
        resources.getResourceGeneration cap.resourceId = some cap.generation ∧
        cap.rights.contains required := by
  unfold get ResourceTable.getResourceGeneration
  cases hslot : table.slotAt slot with
  | none => simp
  | some held =>
    simp only [some.injEq]
    cases hrec : resources.getRecord held.resourceId with
    | none =>
      simp only [reduceCtorEq, false_iff, not_and]
      rintro rfl
      simp [hrec]
    | some record =>
      by_cases hgen : held.generation = record.generation
      · by_cases hrights : held.rights.contains required
        · simp only [hgen, hrights, if_true, Except.ok.injEq]
          constructor
          · rintro rfl
            simp [hrec, hgen, hrights]
          · rintro ⟨rfl, -⟩
            rfl
        · simp only [hgen, hrights, if_true, if_false, reduceCtorEq, false_iff, not_and]
          rintro rfl -
          exact hrights
      · simp only [hgen, if_false]
        constructor
        · intro h
          split at h <;> cases h
        · rintro ⟨rfl, hsame, -⟩
          rw [hrec] at hsame
          exact absurd (some.inj hsame).symm hgen

lemma holds_of_get (h : table.get resources slot required = .ok cap) : table.Holds cap :=
  holds_of_slotAt (get_eq_ok_iff.mp h).1

lemma insert_spec (h : table.insert cap = some (table', i)) :
    table.slots i = none ∧ table' = ⟨update table.slots i (some cap)⟩ := by
  obtain ⟨free, hfree, heq⟩ := map_eq_some_iff.mp h
  cases heq
  exact ⟨by simpa using List.find?_some hfree, rfl⟩

lemma holds_insert (h : table.insert cap = some (table', i)) :
    table'.Holds cap' ↔ table.Holds cap' ∨ cap' = cap := by
  obtain ⟨hnone, rfl⟩ := insert_spec h
  constructor
  · rintro ⟨j, hj⟩
    by_cases hji : j = i
    · subst hji
      simp only [update_self, some.injEq] at hj
      exact .inr hj.symm
    · simp only [update_of_ne hji] at hj
      exact .inl ⟨j, hj⟩
  · rintro (⟨j, hj⟩ | rfl)
    · have hji : j ≠ i := fun hji => by
        rw [hji, hnone] at hj
        cases hj
      exact ⟨j, by simp [hji, hj]⟩
    · exact ⟨i, by simp⟩

lemma holds_of_holds_remove (h : (table.remove slot).Holds cap) : table.Holds cap := by
  unfold remove at h
  split at h
  next hlt =>
    obtain ⟨j, hj⟩ := h
    by_cases hji : j = ⟨slot, hlt⟩
    · simp [hji] at hj
    · exact ⟨j, by simpa [hji] using hj⟩
  · exact h

@[simp] lemma used_empty : empty.used = 0 := by
  simp [used, empty]

lemma used_insert (h : table.insert cap = some (table', i)) : table'.used = table.used + 1 := by
  obtain ⟨hnone, rfl⟩ := insert_spec h
  have hset : (Finset.univ.filter fun j => (update table.slots i (some cap) j).isSome) =
      Insert.insert i (Finset.univ.filter fun j => (table.slots j).isSome) := by
    ext j
    by_cases hj : j = i
    · simp [hj]
    · simp [hj]
  rw [used, hset, Finset.card_insert_of_notMem (by simp [hnone]), used]

lemma insert_isSome (h : table.used < maxCapsPerTask) (cap : Cap) : (table.insert cap).isSome := by
  unfold insert
  rw [isSome_map]
  by_contra hnone
  have hfull : ∀ i, (table.slots i).isSome := by
    intro i
    have hi := List.find?_eq_none.mp (not_isSome_iff_eq_none.mp hnone) i (List.mem_finRange i)
    simpa [isSome_iff_ne_none] using hi
  have hused : table.used = maxCapsPerTask := by
    rw [used, Finset.filter_true_of_mem fun i _ => hfull i, Finset.card_univ, Fintype.card_fin]
  omega

end Laws

end CapTable

end Godspeed.Capability
