import Godspeed.Capability.Basic
import Mathlib.Data.Fin.Basic
import Mathlib.Data.Finset.Card
import Mathlib.Data.Fintype.Card
import Mathlib.Logic.Function.Basic

/-!
# The band of delegated resources

`Band` of `capability/delegated.rs`: which endpoint owns each of the 2048
delegated resource ids.  An owner is a bare endpoint id.  `claim` scans from a
cursor that wraps around, `takeOneOwned` from the first slot; both are the same
scan with another test.

`claim_spec` and `takeOneOwned_spec` say which slot changes hands.
-/

namespace Godspeed.Capability

open Function

instance : NeZero delegatedCap := ⟨by decide⟩

abbrev BandSlot := Fin delegatedCap

/-- `id_of`. -/
def BandSlot.id (slot : BandSlot) : Nat := delegatedBase + slot.val

/-- `slot_of`, together with the range test `is_delegated` that precedes it. -/
def slotOf (id : Nat) : Option BandSlot :=
  if h : delegatedBase ≤ id ∧ id < delegatedBase + delegatedCap then
    some ⟨id - delegatedBase, by omega⟩
  else none

lemma slotOf_eq_some_iff {id : Nat} {slot : BandSlot} : slotOf id = some slot ↔ id = slot.id := by
  unfold slotOf BandSlot.id
  split
  next h =>
    simp only [Option.some.injEq, Fin.ext_iff]
    omega
  next h =>
    simp only [reduceCtorEq, false_iff]
    omega

@[simp] lemma slotOf_id (slot : BandSlot) : slotOf slot.id = some slot :=
  slotOf_eq_some_iff.mpr rfl

lemma BandSlot.id_injective {slot slot' : BandSlot} (h : slot.id = slot'.id) : slot = slot' := by
  simp only [BandSlot.id] at h
  exact Fin.ext (by omega)

/-- `Band`. -/
structure Band where
  owner : BandSlot → Option Nat
  next : BandSlot

namespace Band

/-- `Band::new`. -/
def new : Band := ⟨fun _ => none, 0⟩

/-- The first slot, from `start` on and wrapping around, whose owner passes the
test; at most `fuel` slots are looked at. -/
def scan (owner : BandSlot → Option Nat) (test : Option Nat → Bool) :
    Nat → BandSlot → Option BandSlot
  | 0, _ => none
  | fuel + 1, start => if test (owner start) then some start else scan owner test fuel (start + 1)

variable (band : Band)

/-- `Band::claim`. -/
def claim (who : Nat) : Option (BandSlot × Band) :=
  (scan band.owner Option.isNone delegatedCap band.next).map fun slot =>
    (slot, ⟨update band.owner slot (some who), slot + 1⟩)

/-- `Band::free`. -/
def free (slot : BandSlot) : Band :=
  { band with owner := update band.owner slot none }

/-- `Band::take_one_owned`. -/
def takeOneOwned (who : Nat) : Option (BandSlot × Band) :=
  (scan band.owner (· == some who) delegatedCap 0).map fun slot => (slot, band.free slot)

/-- `owner_of`: only ids of the band have an owner. -/
def ownerOf (id : Nat) : Option Nat := (slotOf id).bind band.owner

section Laws

variable {band band' : Band} {who : Nat} {slot : BandSlot} {owner : BandSlot → Option Nat}
  {test : Option Nat → Bool}

lemma scan_eq_some {fuel : Nat} {start : BandSlot} (h : scan owner test fuel start = some slot) :
    test (owner slot) := by
  induction fuel generalizing start with
  | zero => exact absurd h (by simp [scan])
  | succ fuel ih =>
    simp only [scan] at h
    split at h
    · cases h
      assumption
    · exact ih h

lemma claim_spec (h : band.claim who = some (slot, band')) :
    band.owner slot = none ∧ band'.owner = update band.owner slot (some who) := by
  obtain ⟨found, hfound, heq⟩ := Option.map_eq_some_iff.mp h
  cases heq
  exact ⟨by simpa using scan_eq_some hfound, rfl⟩

@[simp] lemma owner_free : (band.free slot).owner = update band.owner slot none := rfl

lemma takeOneOwned_spec (h : band.takeOneOwned who = some (slot, band')) :
    band.owner slot = some who ∧ band'.owner = update band.owner slot none := by
  obtain ⟨found, hfound, heq⟩ := Option.map_eq_some_iff.mp h
  cases heq
  exact ⟨by simpa using scan_eq_some hfound, rfl⟩

def owned (band : Band) (who : Nat) : Finset BandSlot :=
  Finset.univ.filter fun slot => band.owner slot = some who

@[simp] lemma ownerOf_id : band.ownerOf slot.id = band.owner slot := by
  simp [ownerOf]

end Laws

end Band

end Godspeed.Capability
