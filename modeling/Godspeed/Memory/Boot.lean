import Godspeed.Memory.Allocator

/-!
# Opening the frames of a memory map

`init_from_map` reads the boot loader's memory map twice.  The first pass
measures it: the highest frame of RAM, the highest usable frame, and the largest
usable region, from whose top the two bit maps are carved.  The second pass sets
the bit of every usable frame that belongs neither to the kernel image nor to
the maps, and counts each frame it opens.

The sums of addresses are the source's wrapping `u64` sums, so a map is any list
of regions: of any kinds, in any order, overlapping or not, and with lengths
that run past the end of the address space.  `none` is a panic: the direct map
is not set up, or no usable region holds the two maps.

`openings` lists the frames the second pass opens, once for each region that
contains them; these are the frames in the pool afterwards (`pool_of_initFromMap`).
-/

namespace Godspeed.Memory

open Bitmap UInt64

/-- `MemoryKind`. -/
inductive MemoryKind
  | usable
  | reserved
  | acpiReclaimable
  | kernelImage
  | bootloaderReclaimable
  deriving DecidableEq, Repr

/-- `MemoryRegion`. -/
structure MemoryRegion where
  base : UInt64
  len : UInt64
  kind : MemoryKind

/-- `BootInfo`; `physIsIdentity` is the constant `PHYS_IS_IDENTITY` of the
architecture. -/
structure BootInfo where
  memoryMap : List MemoryRegion
  kernelPhysStart : UInt64
  kernelPhysEnd : UInt64
  hhdmOffset : UInt64
  physIsIdentity : Bool

/-- `frame_align_up`. -/
def frameAlignUp (addr : UInt64) : UInt64 := (addr + frameSize - 1) &&& ~~~(frameSize - 1)

/-- `frame_align_down`. -/
def frameAlignDown (addr : UInt64) : UInt64 := addr &&& ~~~(frameSize - 1)

namespace MemoryRegion

variable (region : MemoryRegion)

def isRam : Bool :=
  match region.kind with
  | .usable | .acpiReclaimable | .kernelImage | .bootloaderReclaimable => true
  | .reserved => false

/-- The first whole frame of a region starts here. -/
def start : UInt64 := frameAlignUp region.base

/-- The last whole frame of a region ends here. -/
def stop : UInt64 := frameAlignDown (region.base + region.len)

/-- The whole frames of a region, and whether there are any: the test both
passes make. -/
def isUsable : Bool :=
  region.kind = .usable ∧ region.start < region.stop

/-- The indices from the first whole frame to the last. -/
def frames : List Nat :=
  List.range' (frameNumber region.start) (frameNumber region.stop - frameNumber region.start)

end MemoryRegion

structure Extent where
  maxRamFrame : Nat
  maxValidFrame : Nat
  largestStart : UInt64
  largestLen : UInt64

namespace Extent

variable (extent : Extent) (region : MemoryRegion)

def measureRam : Extent :=
  if region.isRam then
    { extent with
      maxRamFrame :=
        max extent.maxRamFrame (frameNumber (region.base + region.len + frameSize - 1)) }
  else extent

def measureUsable : Extent :=
  if region.isUsable then
    { extent with
      maxValidFrame := max extent.maxValidFrame (frameNumber region.stop)
      largestStart :=
        if extent.largestLen < region.stop - region.start then region.start
        else extent.largestStart
      largestLen :=
        if extent.largestLen < region.stop - region.start then region.stop - region.start
        else extent.largestLen }
  else extent

def measure : Extent :=
  (extent.measureRam region).measureUsable region

/-- `BITMAP_LEN`: the bytes of one map. -/
def bitmapLen : Nat := (extent.maxRamFrame + 7) / 8

def needFrames : Nat :=
  (2 * extent.bitmapLen + frameSize.toNat - 1) / frameSize.toNat

/-- The frame above the maps, which are carved from the top of the largest
region. -/
def carveLast : UInt64 := (extent.largestStart + extent.largestLen) / frameSize

def carveFirst : UInt64 :=
  extent.carveLast - ofNat extent.needFrames

end Extent

open Extent

namespace BootInfo

variable (boot : BootInfo) (idx : Nat)

def extent : Extent := boot.memoryMap.foldl .measure ⟨0, 0, 0, 0⟩

/-- Whether the second pass takes a frame for part of the kernel image. -/
def skipsKernel : Bool :=
  boot.kernelPhysStart < boot.kernelPhysEnd ∧ boot.kernelPhysStart ≤ framePhys idx ∧
    framePhys idx < boot.kernelPhysEnd

/-- Whether the second pass takes a frame for storage of the maps. -/
def skipsMaps : Bool :=
  boot.extent.carveFirst.toNat ≤ idx ∧ idx < boot.extent.carveLast.toNat

/-- One frame in the second pass: the free map and the counter. -/
def openFrame (acc : List (BitVec 8) × Nat) (idx : Nat) : List (BitVec 8) × Nat :=
  if boot.skipsKernel idx then acc
  else if boot.skipsMaps idx then acc
  else (Bitmap.set acc.1 idx, acc.2 + 1)

/-- One region in the second pass; the loop ends at the first index the maps do
not cover. -/
def openRegion (acc : List (BitVec 8) × Nat) (region : MemoryRegion) : List (BitVec 8) × Nat :=
  if region.isUsable then
    (region.frames.takeWhile (· < boot.extent.maxRamFrame)).foldl boot.openFrame acc
  else acc

def openFrames : List (BitVec 8) × Nat :=
  boot.memoryMap.foldl boot.openRegion (List.replicate boot.extent.bitmapLen 0, 0)

/-- The frames of one region that the second pass opens. -/
def regionOpenings (region : MemoryRegion) : List Nat :=
  if region.isUsable then
    (region.frames.takeWhile (· < boot.extent.maxRamFrame)).filter
      fun idx => !boot.skipsKernel idx && !boot.skipsMaps idx
  else []

/-- The frames the second pass opens, in its order. -/
def openings : List Nat := boot.memoryMap.flatMap boot.regionOpenings

section Passes

variable {boot : BootInfo}

lemma foldl_openFrame (frames : List Nat) (acc : List (BitVec 8) × Nat) :
    frames.foldl boot.openFrame acc =
      ((frames.filter fun idx => !boot.skipsKernel idx && !boot.skipsMaps idx).foldl
          Bitmap.set acc.1,
        acc.2 + (frames.filter fun idx => !boot.skipsKernel idx && !boot.skipsMaps idx).length) := by
  induction frames generalizing acc with
  | nil => rfl
  | cons idx frames ih =>
    rw [List.foldl_cons, ih, openFrame]
    cases hkernel : boot.skipsKernel idx
    · cases hmaps : boot.skipsMaps idx
      · simp only [List.filter_cons, hkernel, hmaps, Bool.not_false, Bool.and_true, if_true,
          Bool.false_eq_true, if_false, List.foldl_cons, List.length_cons]
        rw [add_assoc, add_comm 1]
      · simp [hmaps]
    · simp [hkernel]

lemma foldl_openRegion (regions : List MemoryRegion) (acc : List (BitVec 8) × Nat) :
    regions.foldl boot.openRegion acc =
      ((regions.flatMap boot.regionOpenings).foldl Bitmap.set acc.1,
        acc.2 + (regions.flatMap boot.regionOpenings).length) := by
  induction regions generalizing acc with
  | nil => rfl
  | cons region regions ih =>
    rw [List.foldl_cons, ih, List.flatMap_cons, List.foldl_append, List.length_append,
      openRegion, regionOpenings]
    split
    · rw [foldl_openFrame, add_assoc]
    · simp

lemma openFrames_eq : boot.openFrames =
      (boot.openings.foldl Bitmap.set (List.replicate boot.extent.bitmapLen 0),
        boot.openings.length) := by
  rw [openFrames, foldl_openRegion, zero_add]
  rfl

lemma length_foldl_set (frames : List Nat) (bytes : List (BitVec 8)) :
    (frames.foldl Bitmap.set bytes).length = bytes.length := by
  induction frames generalizing bytes with
  | nil => rfl
  | cons idx frames ih => rw [List.foldl_cons, ih, length_set]

lemma length_openFrames : boot.openFrames.1.length = boot.extent.bitmapLen := by
  rw [openFrames_eq, length_foldl_set, List.length_replicate]

lemma covers_bitmapLen (extent : Extent) : extent.maxRamFrame ≤ 8 * extent.bitmapLen := by
  unfold bitmapLen
  omega

lemma frameNumber_mul_le (phys : UInt64) : frameNumber phys * frameSize.toNat ≤ size := by
  have hlt := phys.toNat_lt
  have hsize : frameSize.toNat = 4096 := rfl
  simp only [frameNumber, UInt64.toNat_div, hsize, size]
  omega

lemma maxRamFrame_measure (extent : Extent) (region : MemoryRegion) :
    (extent.measure region).maxRamFrame = (extent.measureRam region).maxRamFrame := by
  unfold Extent.measure measureUsable
  split <;> rfl

lemma addressable_measure {extent : Extent} (region : MemoryRegion)
    (h : extent.maxRamFrame * frameSize.toNat ≤ size) :
    (extent.measure region).maxRamFrame * frameSize.toNat ≤ size := by
  rw [maxRamFrame_measure, measureRam]
  split
  · rcases max_choice extent.maxRamFrame
      (frameNumber (region.base + region.len + frameSize - 1)) with hold | hnew
    · simp only [hold]
      exact h
    · simp only [hnew]
      exact frameNumber_mul_le _
  · exact h

lemma extent_induction {P : Extent → Prop} (hstart : P ⟨0, 0, 0, 0⟩)
    (hstep : ∀ extent region, P extent → P (extent.measure region)) : P boot.extent := by
  have hfold : ∀ (regions : List MemoryRegion) (extent : Extent), P extent →
      P (regions.foldl measure extent) := by
    intro regions
    induction regions with
    | nil => exact fun _ h => h
    | cons region regions ih => exact fun extent h => ih _ (hstep extent region h)
  exact hfold _ _ hstart

lemma addressable_extent : boot.extent.maxRamFrame * frameSize.toNat ≤ size :=
  extent_induction (P := fun extent => extent.maxRamFrame * frameSize.toNat ≤ size)
    (by simp) fun _ region => addressable_measure region

lemma largest_lt : boot.extent.largestStart.toNat + boot.extent.largestLen.toNat < size := by
  refine extent_induction (P := fun extent =>
    extent.largestStart.toNat + extent.largestLen.toNat < size) (by decide) ?_
  intro extent region h
  have hsame : (extent.measureRam region).largestStart = extent.largestStart ∧
      (extent.measureRam region).largestLen = extent.largestLen := by
    unfold measureRam
    split <;> exact ⟨rfl, rfl⟩
  unfold Extent.measure measureUsable
  rw [hsame.1, hsame.2]
  split
  next husable =>
    obtain ⟨-, hlt⟩ : region.kind = .usable ∧ region.start < region.stop := by
      simpa [MemoryRegion.isUsable] using husable
    by_cases hlarger : extent.largestLen < region.stop - region.start
    · simp only [hlarger, if_true]
      rw [UInt64.toNat_sub_of_le _ _ (UInt64.le_of_lt hlt)]
      have hstop := region.stop.toNat_lt
      have hle := lt_iff_toNat_lt.mp hlt
      simp only [size]
      omega
    · simp only [hlarger]
      exact h
  · rw [hsame.1, hsame.2]
    exact h

end Passes

/-- `init_from_map`, on the allocator as `new` makes it. -/
def initFromMap : Option FrameAllocator :=
  if boot.hhdmOffset = 0 ∧ boot.physIsIdentity = false then none
  else if (boot.extent.largestLen / frameSize).toNat < boot.extent.needFrames then none
  else
    some
      { bitmap := boot.openFrames.1
        kpt := List.replicate boot.extent.bitmapLen 0
        bitmapPhys := boot.extent.carveFirst * frameSize
        guardStart := boot.kernelPhysStart
        guardEnd := boot.kernelPhysEnd
        freeFrames := boot.openFrames.2
        totalFrames := boot.openFrames.2
        nextByte := 0
        maxValidFrame := boot.extent.maxValidFrame
        maxRamFrame := boot.extent.maxRamFrame
        doubleFrees := 0
        dmaReserves := List.replicate maxDmaReserves (0, 0)
        kpt_length := by rw [length_openFrames, List.length_replicate]
        covers := by rw [length_openFrames]; exact covers_bitmapLen _
        addressable := addressable_extent
        hint_le := Nat.zero_le _
        reserves_length := List.length_replicate }

/-- A frame that shares a byte with the kernel image. -/
def InKernel : Prop :=
  boot.kernelPhysStart < boot.kernelPhysEnd ∧
    idx * frameSize.toNat < boot.kernelPhysEnd.toNat ∧
    boot.kernelPhysStart.toNat < (idx + 1) * frameSize.toNat

/-- The kernel image starts with a frame, or in the middle of one that no usable
region contains. -/
def KernelApart : Prop :=
  boot.kernelPhysStart.toNat % frameSize.toNat = 0 ∨
    ∀ region ∈ boot.memoryMap, region.isUsable = true →
      frameNumber boot.kernelPhysStart ∉ region.frames

/-- No frame is opened for two regions. -/
def Separate : Prop := boot.openings.Nodup

section Initial

variable {boot : BootInfo} {a : FrameAllocator} {idx : Nat}

lemma takeWhile_range' (start n m : Nat) :
    (List.range' start n).takeWhile (· < m) = (List.range' start n).filter (· < m) := by
  induction n generalizing start with
  | zero => rfl
  | succ n ih =>
    rw [List.range'_succ]
    by_cases hlt : start < m
    · simp [hlt, ih]
    have hnone : ∀ i ∈ List.range' (start + 1) n, ¬ i < m := by
      intro i hi
      rw [List.mem_range'_1] at hi
      omega
    simpa [hlt] using hnone

/-- The frames that are opened: those of a usable region that the maps cover and
that belong neither to the kernel image nor to the maps. -/
lemma mem_openings_iff : idx ∈ boot.openings ↔
      (∃ region ∈ boot.memoryMap, region.isUsable ∧ idx ∈ region.frames) ∧
        idx < boot.extent.maxRamFrame ∧ boot.skipsKernel idx = false ∧
        boot.skipsMaps idx = false := by
  simp only [openings, List.mem_flatMap, regionOpenings]
  constructor
  · rintro ⟨region, hregion, hmem⟩
    split at hmem
    next husable =>
      rw [MemoryRegion.frames, takeWhile_range'] at hmem
      simp only [List.mem_filter, decide_eq_true_eq, Bool.and_eq_true, Bool.not_eq_true'] at hmem
      exact ⟨⟨region, hregion, husable, hmem.1.1⟩, hmem.1.2, hmem.2⟩
    · cases hmem
  · rintro ⟨⟨region, hregion, husable, hframe⟩, hram, hkernel, hmaps⟩
    refine ⟨region, hregion, ?_⟩
    rw [if_pos husable, MemoryRegion.frames, takeWhile_range']
    simp only [List.mem_filter, decide_eq_true_eq, Bool.and_eq_true, Bool.not_eq_true']
    exact ⟨⟨hframe, hram⟩, hkernel, hmaps⟩

lemma ones_foldl_set (frames : List Nat) {bytes : List (BitVec 8)}
    (h : ∀ i ∈ frames, i < 8 * bytes.length) :
    ones (frames.foldl Bitmap.set bytes) = ones bytes ∪ frames.toFinset := by
  induction frames generalizing bytes with
  | nil => simp
  | cons idx frames ih =>
    have hidx : idx < 8 * bytes.length := h idx (by simp)
    rw [List.foldl_cons, ih (fun i hi => by rw [length_set]; exact h i (by simp [hi])),
      ones_set hidx, List.toFinset_cons]
    ext j
    simp only [Finset.mem_union, Finset.mem_insert]
    tauto

section

variable (h : boot.initFromMap = some a)
include h

/-- **What initialisation leaves.** -/
theorem pool_of_initFromMap : a.pool = boot.openings.toFinset := by
  unfold initFromMap at h
  split_ifs at h
  cases h
  change ones boot.openFrames.1 = _
  rw [openFrames_eq, ones_foldl_set, ones_replicate, Finset.empty_union]
  intro i hi
  have hcovers := covers_bitmapLen boot.extent
  have hram := (mem_openings_iff.mp hi).2.1
  rw [List.length_replicate]
  omega

lemma freeFrames_of_initFromMap :
    a.freeFrames = boot.openings.length ∧ a.totalFrames = boot.openings.length := by
  unfold initFromMap at h
  split_ifs at h
  cases h
  simp [openFrames_eq]

lemma maxRamFrame_of_initFromMap : a.maxRamFrame = boot.extent.maxRamFrame := by
  unfold initFromMap at h
  split_ifs at h
  cases h
  rfl

lemma dmaReserves_of_initFromMap : a.dmaReserves = List.replicate maxDmaReserves (0, 0) := by
  unfold initFromMap at h
  split_ifs at h
  cases h
  rfl

lemma kpt_of_initFromMap : a.kpt = List.replicate boot.extent.bitmapLen 0 := by
  unfold initFromMap at h
  split_ifs at h
  cases h
  rfl

/-- The bytes of the two maps: those of frames from `carveFirst` below
`carveLast`. -/
lemma carve_of_initFromMap : a.bitmapPhys.toNat = boot.extent.carveFirst.toNat * frameSize.toNat ∧
      a.bitmapPhys.toNat + 2 * a.bitmap.length ≤ boot.extent.carveLast.toNat * frameSize.toNat := by
  have hlargest : boot.extent.largestStart.toNat + boot.extent.largestLen.toNat < size := largest_lt
  unfold initFromMap at h
  split_ifs at h with hhdm hneed
  cases h
  rw [length_openFrames]
  have hframe : frameSize.toNat = 4096 := rfl
  have hneeded : boot.extent.needFrames =
      (2 * boot.extent.bitmapLen + frameSize.toNat - 1) / frameSize.toNat := rfl
  have hlast : boot.extent.carveLast.toNat =
      (boot.extent.largestStart.toNat + boot.extent.largestLen.toNat) / 4096 := by
    simp only [carveLast, UInt64.toNat_div, UInt64.toNat_add, hframe]
    rw [Nat.mod_eq_of_lt (by simpa [size] using hlargest)]
  simp only [UInt64.toNat_div, hframe] at hneed
  rw [hframe] at hneeded
  simp only [size] at hlargest
  have hneedNat : (ofNat boot.extent.needFrames).toNat = boot.extent.needFrames :=
    toNat_ofNat_of_lt' (by simp only [size]; omega)
  have hfirst : boot.extent.carveFirst.toNat =
      boot.extent.carveLast.toNat - boot.extent.needFrames := by
    rw [carveFirst, UInt64.toNat_sub_of_le, hneedNat]
    rw [le_iff_toNat_le]
    omega
  have hphys : (boot.extent.carveFirst * frameSize).toNat =
      boot.extent.carveFirst.toNat * 4096 := by
    rw [UInt64.toNat_mul, hframe]
    omega
  rw [hphys, hframe]
  omega

lemma not_storesMaps_of_mem (hidx : idx ∈ boot.openings) : ¬ a.StoresMaps idx := by
  obtain ⟨hphys, hend⟩ := carve_of_initFromMap h
  obtain ⟨-, -, -, hskip⟩ := mem_openings_iff.mp hidx
  have hapart : idx < boot.extent.carveFirst.toNat ∨ boot.extent.carveLast.toNat ≤ idx := by
    by_contra hin
    rw [not_or] at hin
    simp [skipsMaps, hin] at hskip
  have hframe : frameSize.toNat = 4096 := rfl
  rw [hframe] at hphys hend
  unfold FrameAllocator.StoresMaps
  rw [hframe]
  omega

end

lemma framePhys_toNat (h : idx < boot.extent.maxRamFrame) :
    (framePhys idx).toNat = idx * frameSize.toNat := by
  have hsize : boot.extent.maxRamFrame * frameSize.toNat ≤ size := addressable_extent
  have hframe : frameSize.toNat = 4096 := rfl
  rw [hframe] at hsize ⊢
  simp only [size] at hsize
  have hidx : (ofNat idx).toNat = idx := toNat_ofNat_of_lt' (by simp only [size]; omega)
  rw [framePhys, UInt64.toNat_mul, hidx, hframe]
  exact Nat.mod_eq_of_lt (by omega)

/-- A frame that is opened lies outside the kernel image when that starts with a
frame. -/
lemma not_inKernel_of_mem (hapart : boot.KernelApart) (hidx : idx ∈ boot.openings) :
    ¬ boot.InKernel idx := by
  obtain ⟨⟨region, hregion, husable, hframes⟩, hram, hskip, -⟩ := mem_openings_iff.mp hidx
  rintro ⟨hlt, hend, hstart⟩
  have hframe : frameSize.toNat = 4096 := rfl
  have hphys := framePhys_toNat hram
  have hbefore : ¬ boot.kernelPhysStart ≤ framePhys idx := by
    intro hle
    have hinside : framePhys idx < boot.kernelPhysEnd := by
      rw [lt_iff_toNat_lt, hphys]
      exact hend
    simp [skipsKernel, hlt, hle, hinside] at hskip
  rw [le_iff_toNat_le, hphys] at hbefore
  rw [hframe] at hstart hbefore
  rcases hapart with haligned | houtside
  · rw [hframe] at haligned
    omega
  have hnumber : frameNumber boot.kernelPhysStart = idx := by
    simp only [frameNumber, UInt64.toNat_div, hframe]
    omega
  exact houtside region hregion husable (hnumber ▸ hframes)

lemma not_guarded_of_mem (h : boot.initFromMap = some a) (hidx : idx ∈ boot.openings) :
    ¬ a.Guarded idx := by
  have hskip := (mem_openings_iff.mp hidx).2.2.1
  unfold initFromMap at h
  split_ifs at h
  cases h
  intro hguarded
  simp [skipsKernel, hguarded.1, hguarded.2.1, hguarded.2.2] at hskip

end Initial

end BootInfo

end Godspeed.Memory
