import Godspeed.Lib.Bitmap
import Godspeed.Lib.FirstMatch
import Mathlib.Data.Finset.Lattice.Basic

/-!
# The physical frame allocator

`memory/allocator.rs`: one bit per 4 KiB frame, set when the frame is free; a
second map of page-table frames that `free` must refuse (`KPT`); and a short
table of ranges reserved for DMA that it must refuse as well.  Every function
runs under `ALLOC_LOCKED`, so a call is one step.

Addresses are the source's `u64`; frame indices and counts are `usize`, kept as
natural numbers, and the one place where a `usize` sum can wrap, the end of a
reserved range, says so (`usizeAdd`).  `none` in the result of `alloc` is the
panic of `guard_bugcheck`.  The record carries what indexing the two maps
relies on: they have one length, and it covers every frame of RAM.

The second half says what each function does to the set of free frames: `Shift`
is the one shape all of them share, some frames taken out of the pool and some
put back, with the counter following.
-/

namespace Godspeed.Memory

open Bitmap FirstMatch Finset UInt64

/-- `FRAME_SIZE`. -/
def frameSize : UInt64 := 4096

/-- `MAX_DMA_RESERVES`. -/
def maxDmaReserves : Nat := 6

/-- `Frame::frame_number`. -/
def frameNumber (phys : UInt64) : Nat := (phys / frameSize).toNat

/-- The address of a frame, `idx as u64 * FRAME_SIZE`. -/
def framePhys (idx : Nat) : UInt64 := ofNat idx * frameSize

/-- Addition of `usize`. -/
def usizeAdd (m n : Nat) : Nat := (m + n) % size

/-- `BitmapAllocator` with the statics beside it: the two maps, where the free
map is stored, and the guarded range of the kernel image. -/
structure FrameAllocator where
  bitmap : List (BitVec 8)
  kpt : List (BitVec 8)
  bitmapPhys : UInt64
  guardStart : UInt64
  guardEnd : UInt64
  freeFrames : Nat
  totalFrames : Nat
  nextByte : Nat
  maxValidFrame : Nat
  maxRamFrame : Nat
  doubleFrees : Nat
  dmaReserves : List (Nat × Nat)
  /-- `KPT_PTR` is `BITMAP_LEN` bytes long too. -/
  kpt_length : kpt.length = bitmap.length
  covers : maxRamFrame ≤ 8 * bitmap.length
  addressable : maxRamFrame * frameSize.toNat ≤ size
  hint_le : nextByte ≤ bitmap.length - 1
  reserves_length : dmaReserves.length = maxDmaReserves

/-- `scan_free`: the first set bit of the bytes in `start..stop`. -/
def scanFree (bitmap : List (BitVec 8)) (start stop : Nat) : Option Nat :=
  ((List.range' start (stop - start)).find? fun k => bitmap.getD k 0 ≠ 0).map
    fun k => k * 8 + (bitmap.getD k 0).ctz.toNat

/-- The loop of `alloc_contiguous` over the indices still to visit: the length
and the start of the run of free frames that ends before them. -/
def findRun (bitmap : List (BitVec 8)) (n : Nat) : List Nat → Nat → Nat → Option Nat
  | [], _, _ => none
  | idx :: rest, run, start =>
    if get bitmap idx then
      let start := if run = 0 then idx else start
      if run + 1 = n then some start else findRun bitmap n rest (run + 1) start
    else findRun bitmap n rest 0 start

namespace FrameAllocator

/-- Whether a reservation covers a frame, as `free` tests it. -/
def reserves (a : FrameAllocator) (idx : Nat) : Bool :=
  a.dmaReserves.any fun entry => entry.2 ≠ 0 ∧ entry.1 ≤ idx ∧ idx < usizeAdd entry.1 entry.2

variable (a : FrameAllocator)

/-- `alloc`. -/
def alloc : Option (FrameAllocator × Option UInt64) :=
  match (scanFree a.bitmap a.nextByte a.bitmap.length).or (scanFree a.bitmap 0 a.nextByte) with
  | none => some (a, none)
  | some idx =>
    if a.guardStart < a.guardEnd ∧ a.guardStart ≤ framePhys idx ∧ framePhys idx < a.guardEnd then
      none
    else
      some ({ a with
        bitmap := clear a.bitmap idx
        freeFrames := a.freeFrames - 1
        nextByte := min (idx / 8 + 1) (a.bitmap.length - 1)
        kpt_length := by rw [length_clear]; exact a.kpt_length
        covers := by rw [length_clear]; exact a.covers
        hint_le := by rw [length_clear]; exact min_le_right _ _ }, some (framePhys idx))

/-- Mark the `n` frames from `start` on used. -/
def takeRun (start n : Nat) : FrameAllocator :=
  { a with
    bitmap := clearRun a.bitmap start n
    freeFrames := a.freeFrames - n
    kpt_length := by rw [length_clearRun]; exact a.kpt_length
    covers := by rw [length_clearRun]; exact a.covers
    hint_le := by rw [length_clearRun]; exact a.hint_le }

def returnRun (start n : Nat) : FrameAllocator :=
  { a with
    bitmap := setRun a.bitmap start n
    freeFrames := a.freeFrames + n
    kpt_length := by rw [length_setRun]; exact a.kpt_length
    covers := by rw [length_setRun]; exact a.covers
    hint_le := by rw [length_setRun]; exact a.hint_le }

/-- `alloc_contiguous`. -/
def allocContiguous (n : Nat) : Option (FrameAllocator × UInt64) :=
  if n = 0 then none
  else
    match findRun a.bitmap n (List.range (min (a.maxValidFrame + 1) a.maxRamFrame)) 0 0 with
    | none => none
    | some start =>
      some (a.takeRun start n, framePhys start)

/-- Write a reservation over the first empty entry of the table. -/
def recordReserve (base n : Nat) : FrameAllocator :=
  { a with
    dmaReserves := modifyFirst (fun entry => entry.2 == 0) (fun _ => (base, n)) a.dmaReserves
    reserves_length := by rw [length_modifyFirst]; exact a.reserves_length }

/-- `alloc_dma_arena`. -/
def allocDmaArena (n : Nat) : FrameAllocator × Option UInt64 :=
  match a.allocContiguous n with
  | none => (a, none)
  | some (b, phys) =>
    if b.dmaReserves.any fun entry => entry.2 == 0 then
      (b.recordReserve (frameNumber phys) n, some phys)
    else
      -- no entry is free: the run goes back to the pool
      (b.returnRun (frameNumber phys) n, none)

/-- The effect of a free that is accepted. -/
def putBack (a : FrameAllocator) (idx : Nat) : FrameAllocator :=
  { a with
    bitmap := set a.bitmap idx
    freeFrames := a.freeFrames + 1
    nextByte := min (idx / 8) a.nextByte
    kpt_length := by rw [length_set]; exact a.kpt_length
    covers := by rw [length_set]; exact a.covers
    hint_le := by rw [length_set]; exact (min_le_right _ _).trans a.hint_le }

/-- `free`. -/
def free (a : FrameAllocator) (phys : UInt64) : FrameAllocator :=
  if a.maxValidFrame ≤ frameNumber phys ∨ a.maxRamFrame ≤ frameNumber phys then a
  else if get a.kpt (frameNumber phys) then a
  else if a.reserves (frameNumber phys) then a
  else if get a.bitmap (frameNumber phys) then
    -- `bitmap_set_free` found the bit set
    { a with doubleFrees := a.doubleFrees + 1 }
  else a.putBack (frameNumber phys)

/-- `reserve_no_free`; the answer is whether the range is reserved. -/
def reserveNoFree (a : FrameAllocator) (phys : UInt64) (n : Nat) : FrameAllocator × Bool :=
  if n = 0 then (a, true)
  else if a.dmaReserves.any fun entry => entry.2 ≠ 0 ∧ entry.1 ≤ frameNumber phys ∧
      usizeAdd (frameNumber phys) n ≤ usizeAdd entry.1 entry.2 then (a, true)
  else if a.dmaReserves.any fun entry => entry.2 == 0 then
    (a.recordReserve (frameNumber phys) n, true)
  else (a, false)

/-- The effect of marking a frame of RAM; clearing a bit that is clear changes
nothing. -/
def protectFrame (a : FrameAllocator) (idx : Nat) : FrameAllocator :=
  { a with
    bitmap := clear a.bitmap idx
    freeFrames := if get a.bitmap idx then a.freeFrames - 1 else a.freeFrames
    kpt := set a.kpt idx
    kpt_length := by rw [length_clear, length_set]; exact a.kpt_length
    covers := by rw [length_clear]; exact a.covers
    hint_le := by rw [length_clear]; exact a.hint_le }

/-- `mark_pt_frame_used`. -/
def markPtFrameUsed (a : FrameAllocator) (phys : UInt64) : FrameAllocator :=
  if a.maxRamFrame ≤ frameNumber phys then a else a.protectFrame (frameNumber phys)

def pool : Finset Nat := ones a.bitmap

/-- The frames `free` refuses. -/
def Barred (a : FrameAllocator) (idx : Nat) : Prop :=
  get a.kpt idx = true ∨ a.reserves idx = true

/-- The frames whose address `alloc` takes for the kernel image. -/
def Guarded (a : FrameAllocator) (idx : Nat) : Prop :=
  a.guardStart < a.guardEnd ∧ a.guardStart ≤ framePhys idx ∧ framePhys idx < a.guardEnd

/-- The frames that share a byte with the two maps, which are stored one behind
the other. -/
def StoresMaps (a : FrameAllocator) (idx : Nat) : Prop :=
  a.bitmapPhys.toNat < (idx + 1) * frameSize.toNat ∧
    idx * frameSize.toNat < a.bitmapPhys.toNat + 2 * a.bitmap.length

def geometry : Nat × Nat × Nat × Nat × UInt64 × UInt64 × UInt64 :=
  (a.totalFrames, a.maxValidFrame, a.maxRamFrame, a.bitmap.length, a.bitmapPhys, a.guardStart,
    a.guardEnd)

/-- The frames `out` leave the pool, the frames `back` come back to it, and the
counter follows.  A frame that is barred stays so and does not come back. -/
structure Shift (a b : FrameAllocator) (out back : Finset Nat) : Prop where
  pool_eq : b.pool = (a.pool \ out) ∪ back
  out_subset : out ⊆ a.pool
  back_disjoint : Disjoint back a.pool
  count : a.pool.card ≤ a.freeFrames → b.freeFrames + out.card = a.freeFrames + back.card
  geometry_eq : b.geometry = a.geometry
  barred : ∀ idx, a.Barred idx → b.Barred idx
  back_open : ∀ idx ∈ back, ¬ a.Barred idx ∧ idx < a.maxValidFrame ∧ idx < a.maxRamFrame

/-- The two tables of refusals are the same. -/
structure SameTables (a b : FrameAllocator) : Prop where
  kpt_eq : b.kpt = a.kpt
  reserves_eq : b.dmaReserves = a.dmaReserves

section Specification

variable {a b : FrameAllocator} {phys : UInt64} {answer : Option UInt64} {n : Nat}
  {bitmap : List (BitVec 8)} {start idx base : Nat}

lemma Shift.of_same (hmap : b.bitmap = a.bitmap) (hcount : b.freeFrames = a.freeFrames)
    (hgeom : b.geometry = a.geometry) (hbarred : ∀ idx, a.Barred idx → b.Barred idx) :
    Shift a b ∅ ∅ where
  pool_eq := by simp [pool, hmap]
  out_subset := by simp
  back_disjoint := by simp
  count := by simp [hcount]
  geometry_eq := hgeom
  barred := hbarred
  back_open := by simp

lemma Shift.refl (a : FrameAllocator) : Shift a a ∅ ∅ := .of_same rfl rfl rfl fun _ h => h

lemma SameTables.refl (a : FrameAllocator) : SameTables a a := ⟨rfl, rfl⟩

lemma SameTables.reserves (h : SameTables a b) (idx : Nat) : b.reserves idx = a.reserves idx := by
  simp [FrameAllocator.reserves, h.reserves_eq]

lemma SameTables.barred_iff (h : SameTables a b) (idx : Nat) : b.Barred idx ↔ a.Barred idx := by
  simp only [Barred, h.reserves, h.kpt_eq]

lemma get_of_scanFree {stop : Nat} (h : scanFree bitmap start stop = some idx) :
    get bitmap idx := by
  obtain ⟨k, hk, rfl⟩ := Option.map_eq_some_iff.mp h
  have hbyte := List.find?_some hk
  exact get_lowest (by simpa using hbyte)

lemma get_eq_false_of_scanFree {stop : Nat} (h : scanFree bitmap start stop = none)
    (hstart : start ≤ idx / 8) (hstop : idx / 8 < stop) : get bitmap idx = false := by
  have hnone := List.find?_eq_none.mp (Option.map_eq_none_iff.mp h) (idx / 8)
    (by rw [List.mem_range'_1]; omega)
  exact get_eq_false_of_byte (by simpa using hnone)

lemma pool_eq_empty_of_scanFree (hhigh : scanFree a.bitmap a.nextByte a.bitmap.length = none)
    (hlow : scanFree a.bitmap 0 a.nextByte = none) : a.pool = ∅ := by
  refine eq_empty_of_forall_notMem fun idx hidx => ?_
  have hget := mem_ones.mp hidx
  have hlt := lt_of_get hget
  have hclear : get a.bitmap idx = false := by
    rcases lt_or_ge (idx / 8) a.nextByte with hbelow | habove
    · exact get_eq_false_of_scanFree hlow (Nat.zero_le _) hbelow
    · exact get_eq_false_of_scanFree hhigh habove (by omega)
  rw [hget] at hclear
  cases hclear

/-- **`alloc`** finds the pool empty, panics on a guarded frame, or takes one
free frame out. -/
theorem alloc_cases (a : FrameAllocator) : (a.alloc = some (a, none) ∧ a.pool = ∅) ∨
      (∃ idx ∈ a.pool, a.Guarded idx ∧ a.alloc = none) ∨
      ∃ idx b, ¬ a.Guarded idx ∧ a.alloc = some (b, some (framePhys idx)) ∧
        Shift a b {idx} ∅ ∧ SameTables a b := by
  unfold alloc
  split
  next hscan =>
    obtain ⟨hhigh, hlow⟩ := Option.or_eq_none_iff.mp hscan
    exact .inl ⟨rfl, pool_eq_empty_of_scanFree hhigh hlow⟩
  rename_i idx hscan
  have hfree : get a.bitmap idx := by
    rcases Option.or_eq_some_iff.mp hscan with hhigh | ⟨-, hlow⟩
    · exact get_of_scanFree hhigh
    · exact get_of_scanFree hlow
  have hmem : idx ∈ a.pool := mem_ones.mpr hfree
  split
  next hguard =>
    exact .inr (.inl ⟨idx, hmem, hguard, rfl⟩)
  rename_i hguard
  refine .inr (.inr ⟨idx, _, hguard, rfl, ?_, ⟨rfl, rfl⟩⟩)
  exact
    { pool_eq := by
        simp only [pool, ones_clear, union_empty]
        exact erase_eq _ _
      out_subset := by simpa using hmem
      back_disjoint := by simp
      count := by
        have hpos : 0 < a.pool.card := card_pos.mpr ⟨idx, hmem⟩
        simp only [card_singleton, card_empty]
        omega
      geometry_eq := by simp [geometry]
      barred := fun _ h => h
      back_open := by simp }

/-- The invariant of the run loop: the run ends at the index that is next, and
its frames are free. -/
lemma findRun_spec {k run first : Nat}
    (h : findRun bitmap n (List.range' idx k) run start = some first)
    (hstart : run ≠ 0 → start + run = idx)
    (hfree : run ≠ 0 → ∀ i, start ≤ i → i < idx → get bitmap i) :
    first + n ≤ idx + k ∧ ∀ i, first ≤ i → i < first + n → get bitmap i := by
  induction k generalizing idx run start with
  | zero => exact absurd h (by simp [findRun])
  | succ k ih =>
    rw [List.range'_succ, findRun] at h
    by_cases hidx : get bitmap idx
    · simp only [hidx, if_true] at h
      -- the run including this index, whether it starts here or before
      have hrun : (if run = 0 then idx else start) + (run + 1) = idx + 1 := by
        split
        · omega
        · have := hstart ‹_›
          omega
      have hall : ∀ i, (if run = 0 then idx else start) ≤ i → i < idx + 1 → get bitmap i := by
        intro i hge hlt
        rcases Nat.lt_succ_iff_lt_or_eq.mp hlt with hbefore | rfl
        · split at hge
          · omega
          · exact hfree ‹_› i hge hbefore
        · exact hidx
      split at h
      next hlast =>
        cases h
        exact ⟨by omega, fun i hge hlt => hall i hge (by omega)⟩
      · have := ih h (fun _ => hrun) fun _ => hall
        exact ⟨by omega, this.2⟩
    · simp only [hidx] at h
      have := ih h (fun hne => absurd rfl hne) fun hne => absurd rfl hne
      exact ⟨by omega, this.2⟩

/-- **`alloc_contiguous`** takes a run of free frames out. -/
theorem allocContiguous_spec (h : a.allocContiguous n = some (b, phys)) :
    ∃ start, phys = framePhys start ∧ b = a.takeRun start n ∧ 0 < n ∧
      start + n ≤ a.maxRamFrame ∧ Ico start (start + n) ⊆ a.pool := by
  unfold allocContiguous at h
  split at h
  · cases h
  split at h
  · cases h
  rename_i start hfind
  rw [List.range_eq_range'] at hfind
  obtain ⟨hbound, hfree⟩ := findRun_spec hfind (fun hne => absurd rfl hne) fun hne => absurd rfl hne
  cases h
  refine ⟨start, rfl, rfl, by omega, by omega, ?_⟩
  intro i hi
  obtain ⟨hge, hlt⟩ := mem_Ico.mp hi
  exact mem_ones.mpr (hfree i hge hlt)

lemma shift_takeRun (hfree : Ico start (start + n) ⊆ a.pool) :
    Shift a (a.takeRun start n) (Ico start (start + n)) ∅ where
  pool_eq := by simp [pool, takeRun, ones_clearRun]
  out_subset := hfree
  back_disjoint := by simp
  count := by
    have hcard := card_le_card hfree
    simp only [Nat.card_Ico, card_empty, takeRun] at hcard ⊢
    omega
  geometry_eq := by simp [geometry, takeRun]
  barred := fun _ h => h
  back_open := by simp

lemma shift_returnRun (hfree : Ico start (start + n) ⊆ a.pool)
    (hbound : start + n ≤ a.maxRamFrame) : Shift a ((a.takeRun start n).returnRun start n) ∅ ∅ where
  pool_eq := by
    have hcovers := a.covers
    have hlen : (a.takeRun start n).bitmap.length = a.bitmap.length := length_clearRun _ _
    simp only [pool, returnRun, union_empty]
    rw [ones_setRun (by omega)]
    simp only [takeRun, ones_clearRun, sdiff_union_self_eq_union]
    exact union_eq_left.mpr hfree
  out_subset := by simp
  back_disjoint := by simp
  count := by
    have hcard := card_le_card hfree
    simp only [Nat.card_Ico, takeRun, returnRun] at hcard ⊢
    omega
  geometry_eq := by simp [geometry, takeRun, returnRun]
  barred := fun _ h => h
  back_open := by simp

lemma frameNumber_framePhys (h : idx * frameSize.toNat < size) :
    frameNumber (framePhys idx) = idx := by
  have hsize : frameSize.toNat = 4096 := rfl
  rw [hsize] at h
  have hlt : idx < size := by
    omega
  have hidx : (ofNat idx).toNat = idx := toNat_ofNat_of_lt' hlt
  simp only [size] at h
  simp only [frameNumber, framePhys, UInt64.toNat_div, UInt64.toNat_mul, hsize]
  omega

lemma frameNumber_of_lt (h : idx < a.maxRamFrame) : frameNumber (framePhys idx) = idx := by
  refine frameNumber_framePhys (lt_of_lt_of_le ?_ a.addressable)
  exact Nat.mul_lt_mul_of_pos_right h (by decide)

lemma reserves_iff : a.reserves idx ↔ ∃ entry ∈ a.dmaReserves,
      entry.2 ≠ 0 ∧ entry.1 ≤ idx ∧ idx < usizeAdd entry.1 entry.2 := by
  simp [reserves]

lemma barred_recordReserve (h : a.Barred idx) : (a.recordReserve base n).Barred idx := by
  refine h.imp (fun hkpt => hkpt) fun hreserves => ?_
  obtain ⟨entry, hentry, hn, hrange⟩ := reserves_iff.mp hreserves
  exact reserves_iff.mpr ⟨entry, mem_modifyFirst_of_mem hentry (by simpa using hn), hn, hrange⟩

lemma shift_recordReserve (a : FrameAllocator) (base n : Nat) :
    Shift a (a.recordReserve base n) ∅ ∅ :=
  .of_same rfl rfl rfl fun _ => barred_recordReserve

/-- The range of a reservation that was written is refused from then on. -/
lemma reserves_recordReserve (hroom : a.dmaReserves.any (·.2 == 0)) (hn : n ≠ 0)
    (hbase : base ≤ idx) (hidx : idx < usizeAdd base n) :
    (a.recordReserve base n).reserves idx := by
  obtain ⟨entry, hentry, hempty⟩ := List.any_eq_true.mp hroom
  obtain ⟨-, -, -, hmem⟩ := exists_mem_modifyFirst (p := fun entry : Nat × Nat => entry.2 == 0)
    (f := fun _ => (base, n)) hentry hempty
  exact reserves_iff.mpr ⟨(base, n), hmem, hn, hbase, hidx⟩

lemma of_reserves_recordReserve (h : (a.recordReserve base n).reserves idx) :
    a.reserves idx ∨ base ≤ idx ∧ idx < usizeAdd base n := by
  obtain ⟨entry, hentry, hn, hrange⟩ := reserves_iff.mp h
  rcases mem_modifyFirst hentry with hold | ⟨-, -, -, rfl⟩
  · exact .inl (reserves_iff.mpr ⟨entry, hold, hn, hrange⟩)
  · exact .inr hrange

lemma usizeAdd_of_le (h : start + n ≤ a.maxRamFrame) : usizeAdd start n = start + n := by
  have hsize := a.addressable
  have hframe : frameSize.toNat = 4096 := rfl
  rw [hframe] at hsize
  refine Nat.mod_eq_of_lt ?_
  simp only [size] at hsize ⊢
  omega

/-- **`alloc_dma_arena`** takes a run out and reserves it, or changes nothing of
the pool. -/
theorem allocDmaArena_spec (h : a.allocDmaArena n = (b, answer)) :
    (answer = none ∧ Shift a b ∅ ∅ ∧ SameTables a b) ∨
      ∃ start, answer = some (framePhys start) ∧ start + n ≤ a.maxRamFrame ∧
        b = (a.takeRun start n).recordReserve start n ∧
        Shift a b (Ico start (start + n)) ∅ ∧
        ∀ idx ∈ Ico start (start + n), b.reserves idx := by
  unfold allocDmaArena at h
  split at h
  · cases h
    exact .inl ⟨rfl, .refl a, .refl a⟩
  rename_i c phys hrun
  obtain ⟨start, rfl, rfl, hpos, hbound, hfree⟩ := allocContiguous_spec hrun
  rw [frameNumber_of_lt (show start < a.maxRamFrame by omega)] at h
  split at h
  next hroom =>
    cases h
    refine .inr ⟨start, rfl, hbound, rfl, ?_, ?_⟩
    · have htaken := shift_takeRun hfree
      exact
        { htaken with
          barred := fun idx hbarred => barred_recordReserve (htaken.barred idx hbarred) }
    · intro idx hidx
      obtain ⟨hge, hlt⟩ := mem_Ico.mp hidx
      refine reserves_recordReserve hroom (by omega) hge ?_
      rwa [usizeAdd_of_le hbound]
  · cases h
    exact .inl ⟨rfl, shift_returnRun hfree hbound, ⟨rfl, rfl⟩⟩

lemma shift_putBack (hvalid : idx < a.maxValidFrame) (hram : idx < a.maxRamFrame)
    (hopen : ¬ a.Barred idx) (hused : ¬ get a.bitmap idx) :
    Shift a (a.putBack idx) ∅ {idx} where
  pool_eq := by
    have hcovers := a.covers
    simp only [pool, putBack, sdiff_empty]
    rw [ones_set (by omega), insert_eq, union_comm]
  out_subset := by simp
  back_disjoint := by simpa [pool] using hused
  count := by simp [putBack]
  geometry_eq := by simp [geometry, putBack]
  barred := fun _ h => h
  back_open := by
    intro i hi
    cases mem_singleton.mp hi
    exact ⟨hopen, hvalid, hram⟩

/-- **`free`** puts back a frame that is not free, not barred and below both
bounds, and otherwise changes nothing of the pool. -/
theorem free_cases (a : FrameAllocator) (phys : UInt64) :
    (Shift a (a.free phys) ∅ ∅ ∨ Shift a (a.free phys) ∅ {frameNumber phys}) ∧
      SameTables a (a.free phys) := by
  unfold free
  by_cases hbounds : a.maxValidFrame ≤ frameNumber phys ∨ a.maxRamFrame ≤ frameNumber phys
  · rw [if_pos hbounds]
    exact ⟨.inl (.refl a), .refl a⟩
  by_cases hkpt : get a.kpt (frameNumber phys)
  · rw [if_neg hbounds, if_pos hkpt]
    exact ⟨.inl (.refl a), .refl a⟩
  by_cases hreserved : a.reserves (frameNumber phys)
  · rw [if_neg hbounds, if_neg hkpt, if_pos hreserved]
    exact ⟨.inl (.refl a), .refl a⟩
  by_cases hfree : get a.bitmap (frameNumber phys)
  · rw [if_neg hbounds, if_neg hkpt, if_neg hreserved, if_pos hfree]
    exact ⟨.inl (.of_same rfl rfl rfl fun _ h => h), ⟨rfl, rfl⟩⟩
  · rw [if_neg hbounds, if_neg hkpt, if_neg hreserved, if_neg hfree]
    exact ⟨.inr (shift_putBack (by omega) (by omega) (not_or.mpr ⟨hkpt, hreserved⟩) hfree),
      ⟨rfl, rfl⟩⟩

/-- **`reserve_no_free`** touches the table only. -/
theorem shift_reserveNoFree (a : FrameAllocator) (phys : UInt64) (n : Nat) :
    Shift a (a.reserveNoFree phys n).1 ∅ ∅ := by
  unfold reserveNoFree
  split_ifs
  · exact .refl a
  · exact .refl a
  · exact shift_recordReserve a _ _
  · exact .refl a

/-- **`mark_pt_frame_used`** takes the frame out of the pool if it is there. -/
theorem shift_markPtFrameUsed (a : FrameAllocator) (phys : UInt64) :
    ∃ out ⊆ {frameNumber phys}, Shift a (a.markPtFrameUsed phys) out ∅ := by
  by_cases hram : a.maxRamFrame ≤ frameNumber phys
  · exact ⟨∅, by simp, by simpa [markPtFrameUsed, hram] using Shift.refl a⟩
  refine ⟨a.pool ∩ {frameNumber phys}, inter_subset_right, ?_⟩
  have hcovers := a.covers
  have hlen := a.kpt_length
  simp only [markPtFrameUsed, hram, if_false]
  exact
    { pool_eq := by
        simp only [pool, protectFrame, ones_clear, union_empty, sdiff_inter_self_left]
        exact erase_eq _ _
      out_subset := inter_subset_left
      back_disjoint := by simp
      count := by
        by_cases hget : get a.bitmap (frameNumber phys)
        · have hpos : 0 < a.pool.card := card_pos.mpr ⟨_, mem_ones.mpr hget⟩
          have hout : a.pool ∩ {frameNumber phys} = {frameNumber phys} :=
            inter_eq_right.mpr (by simpa [pool] using hget)
          simp only [protectFrame, hget, if_true, hout, card_singleton, card_empty]
          omega
        · have hout : a.pool ∩ {frameNumber phys} = ∅ := by
            rw [← disjoint_iff_inter_eq_empty]
            simpa [pool] using hget
          simp [protectFrame, hget, hout]
      geometry_eq := by simp [geometry, protectFrame]
      barred := by
        refine fun idx hbarred => hbarred.imp (fun hkpt => ?_) fun hreserves => hreserves
        simp [protectFrame, get_set (show frameNumber phys < 8 * a.kpt.length by omega), hkpt]
      back_open := by simp }

end Specification

end FrameAllocator

end Godspeed.Memory
