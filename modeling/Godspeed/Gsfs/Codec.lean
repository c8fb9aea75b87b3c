import Godspeed.Gsfs.Files
import Godspeed.Gsfs.Records

/-!
# Superblocks

The fields written into a superblock are those read from it, and a block of zeros
passes for nothing else.
-/

namespace Godspeed.Gsfs

open Word

lemma dirCrcOk_zero : dirCrcOk 0 = false := by decide +kernel

lemma extCrcOk_zero : extCrcOk 0 = false := by decide +kernel

section Super

structure SbFields.Fits (f : SbFields) : Prop where
  rootFirst : f.rootFirstBlock < 2 ^ 64
  rootCount : f.rootBlockCount < 2 ^ 64
  free : f.freeBlocks < 2 ^ 64
  flags : f.flags < 2 ^ 32
  labelLen : f.labelLen ≤ labelMax
  label : f.label < 2 ^ (8 * f.labelLen)
  compat : f.featCompat < 2 ^ 32
  roCompat : f.featRoCompat < 2 ^ 32
  incompat : f.featIncompat < 2 ^ 32

instance (f : SbFields) : Decidable f.Fits :=
  decidable_of_iff (f.rootFirstBlock < 2 ^ 64 ∧ f.rootBlockCount < 2 ^ 64 ∧ f.freeBlocks < 2 ^ 64 ∧
      f.flags < 2 ^ 32 ∧ f.labelLen ≤ labelMax ∧ f.label < 2 ^ (8 * f.labelLen) ∧ f.featCompat < 2 ^ 32 ∧
      f.featRoCompat < 2 ^ 32 ∧ f.featIncompat < 2 ^ 32)
    ⟨fun ⟨h1, h2, h3, h4, h5, h6, h7, h8, h9⟩ => ⟨h1, h2, h3, h4, h5, h6, h7, h8, h9⟩,
      fun h => ⟨h.rootFirst, h.rootCount, h.free, h.flags, h.labelLen, h.label, h.compat, h.roCompat, h.incompat⟩⟩

variable {b : Block} {f : SbFields}

/-- **The fields of an updated superblock are those it was given.** -/
theorem sbFields_sbUpdate (hf : f.Fits) : sbFields (sbUpdate b f) = f := by
  have hmax : labelMax = 31 := rfl
  have hlen := hf.labelLen
  have hll : min f.labelLen labelMax = f.labelLen := min_eq_left hlen
  have hlabelLen : num (sbUpdate b f) 76 1 = f.labelLen := by
    unfold sbUpdate
    iterate 6 rw [num_put_of_disjoint (by omega)]
    rw [hll]
    exact num_put (by omega) (by omega)
  have hlabel : num (sbUpdate b f) 77 f.labelLen = f.label := by
    unfold sbUpdate
    iterate 4 rw [num_put_of_disjoint (by omega)]
    rw [hll]
    exact num_put (by omega) hf.label
  have hroot : u64At (sbUpdate b f) 48 = f.rootFirstBlock := by
    unfold u64At sbUpdate
    iterate 10 rw [num_put_of_disjoint (by omega)]
    exact num_put (by omega) hf.rootFirst
  have hcount : u64At (sbUpdate b f) 56 = f.rootBlockCount := by
    unfold u64At sbUpdate
    iterate 9 rw [num_put_of_disjoint (by omega)]
    exact num_put (by omega) hf.rootCount
  have hfree : u64At (sbUpdate b f) 64 = f.freeBlocks := by
    unfold u64At sbUpdate
    iterate 8 rw [num_put_of_disjoint (by omega)]
    exact num_put (by omega) hf.free
  have hflags : u32At (sbUpdate b f) 72 = f.flags := by
    unfold u32At sbUpdate
    iterate 7 rw [num_put_of_disjoint (by omega)]
    exact num_put (by omega) hf.flags
  have hcompat : u32At (sbUpdate b f) 124 = f.featCompat := by
    unfold u32At sbUpdate
    iterate 3 rw [num_put_of_disjoint (by omega)]
    exact num_put (by omega) hf.compat
  have hro : u32At (sbUpdate b f) 128 = f.featRoCompat := by
    unfold u32At sbUpdate
    iterate 2 rw [num_put_of_disjoint (by omega)]
    exact num_put (by omega) hf.roCompat
  have hincompat : u32At (sbUpdate b f) 132 = f.featIncompat := by
    unfold u32At sbUpdate
    rw [num_put_of_disjoint (by omega)]
    exact num_put (by omega) hf.incompat
  unfold sbFields
  rw [hroot, hcount, hfree, hflags, hlabelLen, hll, hlabel, hcompat, hro, hincompat]

end Super

end Godspeed.Gsfs
