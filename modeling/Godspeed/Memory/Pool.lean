import Godspeed.Lib.Transition
import Godspeed.Memory.Boot

/-!
# Runs of the frame allocator

The allocator together with what its callers know: the frames they hold, the
page tables they had protected and the ranges they were told are reserved.  The
three are records of the past and no call reads them.

`Counted` is the invariant that survives any call at all as long as only opened
frames come back: the pool stays within the opened frames and the counter is off
by exactly the frames that were opened twice.  `Sound` adds what a caller that
frees only what it holds can rely on.

Two results: `frames_exact`, for callers that free what they hold, and
`opened_only`, for any frees as long as a frame that was never opened meets one
of the four refusals of `free`.  Neither condition can be dropped.
-/

namespace Godspeed.Memory

open Bitmap FrameAllocator BootInfo Transition Finset Option

inductive Op
  | alloc
  | allocContiguous (n : Nat)
  | allocDmaArena (n : Nat)
  | reserveNoFree (phys : UInt64) (n : Nat)
  | markPtFrameUsed (phys : UInt64)
  | free (phys : UInt64)
  deriving DecidableEq, Repr

variable (a : FrameAllocator) (s : Pool)

namespace Op

/-- The frames of a run that was handed out. -/
def run (n : Nat) (phys : UInt64) : Finset Nat :=
  Ico (frameNumber phys) (frameNumber phys + n)

/-- The allocator after a call; `none` is a panic. -/
def call : Op → Option FrameAllocator
  | alloc => a.alloc.map Prod.fst
  | allocContiguous n => some ((a.allocContiguous n).elim a Prod.fst)
  | allocDmaArena n => some (a.allocDmaArena n).1
  | reserveNoFree phys n => some (a.reserveNoFree phys n).1
  | markPtFrameUsed phys => some (a.markPtFrameUsed phys)
  | free phys => some (a.free phys)

def handed : Op → Finset Nat
  | alloc => (a.alloc.bind Prod.snd).elim ∅ (run 1)
  | allocContiguous n => (a.allocContiguous n).elim ∅ fun result => run n result.2
  | allocDmaArena n => (a.allocDmaArena n).2.elim ∅ (run n)
  | _ => ∅

def freed : Op → Finset Nat
  | free phys => {frameNumber phys}
  | _ => ∅

/-- The page-table frames a call protects. -/
def protects : Op → List Nat
  | markPtFrameUsed phys => [frameNumber phys]
  | _ => []

/-- The ranges a call reports as reserved. -/
def reserves : Op → List (Nat × Nat)
  | allocDmaArena n => (a.allocDmaArena n).2.toList.map fun phys => (frameNumber phys, n)
  | reserveNoFree phys n => if (a.reserveNoFree phys n).2 then [(frameNumber phys, n)] else []
  | _ => []

end Op

/-- The allocator and what its callers know. -/
structure Pool where
  allocator : FrameAllocator
  held : Finset Nat
  tables : List Nat
  reserved : List (Nat × Nat)

/-- After initialisation nobody holds anything. -/
def Pool.start : Pool := ⟨a, ∅, [], []⟩

def Pool.step (op : Op) : Option Pool :=
  (op.call s.allocator).map fun a =>
    { allocator := a
      held := (s.held ∪ op.handed s.allocator) \ op.freed
      tables := op.protects ++ s.tables
      reserved := op.reserves s.allocator ++ s.reserved }

def InRange (range : Nat × Nat) (idx : Nat) : Prop := range.1 ≤ idx ∧ idx < range.1 + range.2

instance (range : Nat × Nat) (idx : Nat) : Decidable (InRange range idx) :=
  inferInstanceAs (Decidable (_ ∧ _))

/-- Only frames that are held are freed. -/
def FreesHeld : Op → Prop
  | .free phys => frameNumber phys ∈ s.held
  | _ => True

instance (s : Pool) (op : Op) : Decidable (FreesHeld s op) := by
  unfold FreesHeld
  split <;> infer_instance

/-- A range that is reserved from outside has no free frame in it and does not
wrap. -/
def ReservesTaken : Op → Prop
  | .reserveNoFree phys n => frameNumber phys + n < UInt64.size ∧
      ∀ idx ∈ s.allocator.pool, ¬ InRange (frameNumber phys, n) idx
  | _ => True

instance (s : Pool) (op : Op) : Decidable (ReservesTaken s op) := by
  unfold ReservesTaken
  split <;> infer_instance

def Lawful (op : Op) : Prop := FreesHeld s op ∧ ReservesTaken s op

instance (s : Pool) (op : Op) : Decidable (Lawful s op) := inferInstanceAs (Decidable (_ ∧ _))

/-- A frame that is freed was opened, or `free` refuses it: it is at or above a
bound, a protected page table, or reserved. -/
def FreesOpened (boot : BootInfo) (s : Pool) : Op → Prop
  | .free phys => frameNumber phys ∈ boot.openings ∨
      s.allocator.maxValidFrame ≤ frameNumber phys ∨ s.allocator.maxRamFrame ≤ frameNumber phys ∨
      s.allocator.Barred (frameNumber phys)
  | _ => True

instance (a : FrameAllocator) (idx : Nat) : Decidable (a.Barred idx) :=
  inferInstanceAs (Decidable (_ ∨ _))

instance (boot : BootInfo) (s : Pool) (op : Op) : Decidable (FreesOpened boot s op) := by
  unfold FreesOpened
  split <;> infer_instance

open Pool

lemma exists_run {boot : BootInfo} {ok : Pool → Op → Prop} [∀ s op, Decidable (ok s op)]
    {P : Pool → Prop} [DecidablePred P] (ops : List Op) (h : (boot.initFromMap.any fun a =>
      (runs step ok (start a) ops).any (P ·))) :
    ∃ a s, boot.initFromMap = some a ∧ Reaches step ok (start a) s ∧ P s := by
  obtain ⟨a, ha, hruns⟩ := (any_eq_true _ _).mp h
  obtain ⟨s, hreach, hs⟩ := exists_reaches ops hruns
  exact ⟨a, s, ha, hreach, hs⟩

/-- A machine without an offset between physical and virtual addresses. -/
def identityMap (memoryMap : List MemoryRegion) (kernelStart kernelEnd : UInt64) : BootInfo :=
  ⟨memoryMap, kernelStart, kernelEnd, 0, true⟩

/-- Four usable frames, the second of them listed again. -/
def overlapping : BootInfo :=
  identityMap [⟨0, 0x4000, .usable⟩, ⟨0x1000, 0x1000, .usable⟩] 0 0

/-- Four usable frames; the kernel image is the second half of the second. -/
def kernelWithin : BootInfo := identityMap [⟨0, 0x4000, .usable⟩] 0x1800 0x2000

/-- Usable frames on both sides of two reserved ones. -/
def withHole : BootInfo :=
  identityMap [⟨0, 0x4000, .usable⟩, ⟨0x4000, 0x2000, .reserved⟩, ⟨0x6000, 0x2000, .usable⟩] 0 0

/-- The pool lies within the opened frames, and the counter exceeds the number of
set bits by the frames that were opened twice. -/
structure Counted (boot : BootInfo) (a₀ a : FrameAllocator) : Prop where
  pool_subset : a.pool ⊆ boot.openings.toFinset
  count : a.freeFrames + boot.openings.toFinset.card = a.pool.card + boot.openings.length
  geometry_eq : a.geometry = a₀.geometry

section Counting

variable {boot : BootInfo} {a₀ a b : FrameAllocator} {out back : Finset Nat} {op : Op} {s t : Pool}
  {idx : Nat}

lemma counted_initFromMap (h : boot.initFromMap = some a) : Counted boot a a where
  pool_subset := (pool_of_initFromMap h).subset
  count := by rw [(freeFrames_of_initFromMap h).1, pool_of_initFromMap h, add_comm]
  geometry_eq := rfl

lemma Counted.card_le (h : Counted boot a₀ a) : a.pool.card ≤ a.freeFrames := by
  have hlen := boot.openings.toFinset_card_le
  have hcount := h.count
  omega

/-- **One shift** of opened frames keeps the count. -/
theorem Counted.shift (h : Counted boot a₀ a) (hshift : Shift a b out back)
    (hback : back ⊆ boot.openings.toFinset) : Counted boot a₀ b where
  pool_subset := by
    rw [hshift.pool_eq]
    exact union_subset (sdiff_subset.trans h.pool_subset) hback
  count := by
    have hcard : b.pool.card + out.card = a.pool.card + back.card := by
      rw [hshift.pool_eq, card_union_of_disjoint, card_sdiff_of_subset hshift.out_subset]
      · have := card_le_card hshift.out_subset
        omega
      · exact (hshift.back_disjoint.mono_right sdiff_subset).symm
    have hcount := hshift.count h.card_le
    have hold := h.count
    omega
  geometry_eq := hshift.geometry_eq.trans h.geometry_eq

lemma Counted.maxRamFrame_eq (h : Counted boot a₀ a) : a.maxRamFrame = a₀.maxRamFrame := by
  have hgeom := h.geometry_eq
  simp only [geometry, Prod.mk.injEq] at hgeom
  exact hgeom.2.2.1

lemma Counted.lt_of_mem (hinit : boot.initFromMap = some a₀) (h : Counted boot a₀ a)
    (hidx : idx ∈ a.pool) : idx < a.maxRamFrame := by
  have hopened := List.mem_toFinset.mp (h.pool_subset hidx)
  rw [h.maxRamFrame_eq, maxRamFrame_of_initFromMap hinit]
  exact (mem_openings_iff.mp hopened).2.1

lemma Counted.not_guarded (hinit : boot.initFromMap = some a₀) (h : Counted boot a₀ a)
    (hidx : idx ∈ a.pool) : ¬ a.Guarded idx := by
  have hopened := List.mem_toFinset.mp (h.pool_subset hidx)
  have hgeom := h.geometry_eq
  simp only [geometry, Prod.mk.injEq] at hgeom
  obtain ⟨-, -, -, -, -, hstart, hend⟩ := hgeom
  have hfirst := not_guarded_of_mem hinit hopened
  unfold Guarded at hfirst ⊢
  rwa [hstart, hend]

lemma run_framePhys {n : Nat} (h : idx < a.maxRamFrame) :
    Op.run n (framePhys idx) = Ico idx (idx + n) := by
  rw [Op.run, frameNumber_of_lt h]

/-- **What a call can do**: what it hands out leaves the pool, and only what it
frees comes back. -/
theorem shift_of_call (hram : ∀ idx ∈ a.pool, idx < a.maxRamFrame) (h : op.call a = some b) :
    ∃ out back, Shift a b out back ∧ op.handed a ⊆ out ∧ back ⊆ op.freed := by
  cases op with
  | alloc =>
    rcases a.alloc_cases with ⟨hnone, -⟩ | ⟨-, -, -, hpanic⟩ | ⟨idx, c, -, hsome, hshift, -⟩
    · simp only [Op.call, hnone, map_some, some.injEq] at h
      subst h
      exact ⟨∅, ∅, .refl a, by simp [Op.handed, hnone], by simp⟩
    · simp [Op.call, hpanic] at h
    · simp only [Op.call, hsome, map_some, some.injEq] at h
      subst h
      have hlt := hram idx (hshift.out_subset (by simp))
      refine ⟨{idx}, ∅, hshift, ?_, by simp⟩
      simp [Op.handed, hsome, run_framePhys hlt]
  | allocContiguous n =>
    cases hres : a.allocContiguous n with
    | none =>
      simp only [Op.call, hres, some.injEq] at h
      subst h
      exact ⟨∅, ∅, .refl a, by simp [Op.handed, hres], by simp⟩
    | some result =>
      obtain ⟨c, phys⟩ := result
      obtain ⟨start, rfl, rfl, hpos, hbound, hfree⟩ := allocContiguous_spec hres
      simp only [Op.call, hres, some.injEq] at h
      subst h
      refine ⟨_, ∅, shift_takeRun hfree, ?_, by simp⟩
      simp [Op.handed, hres, run_framePhys (show start < a.maxRamFrame by omega)]
  | allocDmaArena n =>
    simp only [Op.call, some.injEq] at h
    have hres : a.allocDmaArena n = (b, (a.allocDmaArena n).2) := by rw [← h]
    rcases allocDmaArena_spec hres with ⟨hnone, hshift, -⟩ | ⟨start, hsome, hbound, -, hshift, -⟩
    · exact ⟨∅, ∅, hshift, by simp [Op.handed, hnone], by simp⟩
    refine ⟨_, ∅, hshift, ?_, by simp⟩
    rcases Nat.eq_zero_or_pos n with rfl | hpos
    · simp [Op.handed, hsome, Op.run]
    · simp [Op.handed, hsome, run_framePhys (show start < a.maxRamFrame by omega)]
  | reserveNoFree phys n =>
    cases h
    exact ⟨∅, ∅, shift_reserveNoFree a phys n, by simp [Op.handed], by simp⟩
  | markPtFrameUsed phys =>
    cases h
    obtain ⟨out, -, hshift⟩ := shift_markPtFrameUsed a phys
    exact ⟨out, ∅, hshift, by simp [Op.handed], by simp⟩
  | free phys =>
    cases h
    rcases (free_cases a phys).1 with hshift | hshift
    · exact ⟨∅, ∅, hshift, by simp [Op.handed], by simp⟩
    · exact ⟨∅, _, hshift, by simp [Op.handed], by simp [Op.freed]⟩

lemma Pool.call_of_step (h : s.step op = some t) : op.call s.allocator = some t.allocator := by
  obtain ⟨a, ha, rfl⟩ := map_eq_some_iff.mp h
  exact ha

section

variable (hinit : boot.initFromMap = some a₀)
include hinit

/-- **One step** in which only opened or refused frames are freed. -/
theorem counted_step (h : Counted boot a₀ s.allocator)
    (hfrees : FreesOpened boot s op) (hstep : s.step op = some t) :
    Counted boot a₀ t.allocator := by
  obtain ⟨out, back, hshift, -, hback⟩ :=
    shift_of_call (fun _ => h.lt_of_mem hinit) (call_of_step hstep)
  refine h.shift hshift fun idx hidx => ?_
  -- what came back passed the four tests of `free`
  obtain ⟨hopen, hvalid, hram⟩ := hshift.back_open idx hidx
  have hfreed := hback hidx
  cases op with
  | free phys =>
    cases mem_singleton.mp hfreed
    rcases hfrees with hopened | hbound | hbound | hbarred
    · exact List.mem_toFinset.mpr hopened
    · omega
    · omega
    · exact absurd hbarred hopen
  | _ => exact absurd hfreed (by simp [Op.freed])

lemma handed_subset_pool (h : Counted boot a₀ a) (op : Op) : op.handed a ⊆ a.pool := by
  cases hcall : op.call a with
  | none =>
    cases op with
    | alloc =>
      have hnone : a.alloc = none := by simpa [Op.call] using hcall
      simp [Op.handed, hnone]
    | _ => exact absurd hcall (by simp [Op.call])
  | some b =>
    obtain ⟨out, back, hshift, hhanded, -⟩ := shift_of_call (fun _ => h.lt_of_mem hinit) hcall
    exact hhanded.trans hshift.out_subset

lemma Counted.freeFrames_le (h : Counted boot a₀ a) : a.freeFrames ≤ a.totalFrames := by
  have hgeom := h.geometry_eq
  simp only [geometry, Prod.mk.injEq] at hgeom
  have hcard := card_le_card h.pool_subset
  have hcount := h.count
  rw [hgeom.1, (freeFrames_of_initFromMap hinit).2]
  omega

end

/-- **Freeing garbage.**  In a run whose frees meet the condition, only opened
frames are handed out and the counter stays within the total. -/
theorem opened_only (hinit : boot.initFromMap = some a₀)
    (h : Reaches step (FreesOpened boot) (start a₀) s) :
    (∀ op idx, idx ∈ Op.handed s.allocator op → idx ∈ boot.openings) ∧
      s.allocator.freeFrames ≤ s.allocator.totalFrames := by
  have hcounted : Counted boot a₀ s.allocator :=
    h.invariant (I := fun t => Counted boot a₀ t.allocator) (counted_initFromMap hinit)
      fun _ _ _ hcounted hfrees hstep => counted_step hinit hcounted hfrees hstep
  refine ⟨fun op idx hidx => ?_, hcounted.freeFrames_le hinit⟩
  exact List.mem_toFinset.mp (hcounted.pool_subset (handed_subset_pool hinit hcounted op hidx))

/-- Two frees of frames in the hole pass every test: the counter exceeds the
total, and the hole is handed out. -/
theorem free_poisons_pool : ∃ a s, withHole.initFromMap = some a ∧
    Reaches step Free (start a) s ∧
    s.allocator.totalFrames < s.allocator.freeFrames ∧
    4 ∈ Op.handed s.allocator (.allocContiguous 4) ∧ 4 ∉ withHole.openings :=
  exists_run [.free 0x4000, .free 0x5000] (by decide +kernel)

/-- Frees of a free frame, of a frame above all RAM, of a page table and of a
reserved frame leave only opened frames to be handed out. -/
theorem opened_only_withHole : ∃ a s, withHole.initFromMap = some a ∧
    Reaches step (FreesOpened withHole) (start a) s ∧
    s.allocator.doubleFrees = 1 ∧ s.tables = [5] ∧ s.reserved = [(4, 1)] ∧
    (∀ op idx, idx ∈ Op.handed s.allocator op → idx ∈ withHole.openings) ∧
    s.allocator.freeFrames ≤ s.allocator.totalFrames := by
  obtain ⟨a, s, ha, hreach, hdouble, htables, hreserved⟩ : ∃ a s, withHole.initFromMap = some a ∧
      Reaches step (FreesOpened withHole) (start a) s ∧
      s.allocator.doubleFrees = 1 ∧ s.tables = [5] ∧ s.reserved = [(4, 1)] :=
    exists_run [.free 0x1000, .free 0xfffff000, .markPtFrameUsed 0x5000, .free 0x5000,
      .reserveNoFree 0x4000 1, .free 0x4000] (by decide +kernel)
  exact ⟨a, s, ha, hreach, hdouble, htables, hreserved, opened_only ha hreach⟩

end Counting

/-- What holds besides the count when only held frames are freed and only ranges
without a free frame are reserved. -/
structure Sound (boot : BootInfo) (a₀ : FrameAllocator) (s : Pool) : Prop
    extends Counted boot a₀ s.allocator where
  held_disjoint : Disjoint s.held s.allocator.pool
  held_opened : s.held ⊆ boot.openings.toFinset
  pool_open : ∀ idx ∈ s.allocator.pool, ¬ s.allocator.Barred idx
  tables_barred : ∀ idx ∈ s.tables, s.allocator.maxRamFrame ≤ idx ∨ s.allocator.Barred idx
  reserved_barred : ∀ range ∈ s.reserved, ∀ idx, InRange range idx → s.allocator.reserves idx = true
  /-- The ends of the reservations do not wrap. -/
  reserves_end : ∀ entry ∈ s.allocator.dmaReserves, entry.1 + entry.2 < UInt64.size

section Soundness

variable {boot : BootInfo} {a₀ a b : FrameAllocator} {out back : Finset Nat} {op : Op} {s t : Pool}

lemma sound_start (hinit : boot.initFromMap = some a₀) : Sound boot a₀ (start a₀) where
  toCounted := counted_initFromMap hinit
  held_disjoint := by simp [start]
  held_opened := by simp [start]
  pool_open := by
    intro idx _ hbarred
    have hempty := dmaReserves_of_initFromMap hinit
    have hkpt := kpt_of_initFromMap hinit
    rcases hbarred with hget | hreserves
    · have hmem : idx ∈ ones a₀.kpt := mem_ones.mpr hget
      rw [hkpt, ones_replicate] at hmem
      simp at hmem
    · obtain ⟨entry, hentry, hn, -⟩ := reserves_iff.mp hreserves
      rw [show (start a₀).allocator.dmaReserves = _ from hempty] at hentry
      exact hn (by rw [List.eq_of_mem_replicate hentry])
  tables_barred := by simp [start]
  reserved_barred := by simp [start]
  reserves_end := by
    intro entry hentry
    rw [show (start a₀).allocator.dmaReserves = _ from dmaReserves_of_initFromMap hinit] at hentry
    rw [List.eq_of_mem_replicate hentry]
    decide

section

variable (h : Sound boot a₀ s)
include h

/-- What is handed out is held until it is freed, and what is held is outside the
pool. -/
lemma Sound.disjoint_of_shift {handed freed : Finset Nat}
    (hshift : Shift s.allocator b out back) (hhanded : handed ⊆ out) (hback : back ⊆ freed) :
    Disjoint ((s.held ∪ handed) \ freed) b.pool := by
  rw [disjoint_left]
  intro idx hheld hpool
  obtain ⟨hmem, hkept⟩ := mem_sdiff.mp hheld
  rw [hshift.pool_eq, mem_union, mem_sdiff] at hpool
  rcases hpool with ⟨hold, hnot⟩ | hcame
  · rcases mem_union.mp hmem with hbefore | hnow
    · exact disjoint_left.mp h.held_disjoint hbefore hold
    · exact hnot (hhanded hnow)
  · exact hkept (hback hcame)

section

variable (hstep : s.step op = some t)
include hstep

/-- **One step**, given what the call does to the two refusal tables. -/
theorem Sound.of_shift
    (hshift : Shift s.allocator t.allocator out back) (hhanded : op.handed s.allocator ⊆ out)
    (hback : back ⊆ op.freed) (hopened : back ⊆ boot.openings.toFinset)
    (hopen : ∀ idx ∈ t.allocator.pool, t.allocator.Barred idx → s.allocator.Barred idx)
    (htables : ∀ idx ∈ op.protects, t.allocator.maxRamFrame ≤ idx ∨ t.allocator.Barred idx)
    (hkeeps : ∀ idx, s.allocator.reserves idx → t.allocator.reserves idx)
    (hreserved : ∀ range ∈ op.reserves s.allocator, ∀ idx, InRange range idx →
      t.allocator.reserves idx)
    (hends : ∀ entry ∈ t.allocator.dmaReserves, entry.1 + entry.2 < UInt64.size) :
    Sound boot a₀ t := by
  obtain ⟨c, hcall, rfl⟩ := map_eq_some_iff.mp hstep
  have hcounted := h.toCounted.shift hshift hopened
  have hgeom := hshift.geometry_eq
  simp only [geometry, Prod.mk.injEq] at hgeom
  refine
    { toCounted := hcounted
      held_disjoint := h.disjoint_of_shift hshift hhanded hback
      held_opened := ?_
      pool_open := ?_
      tables_barred := ?_
      reserved_barred := ?_
      reserves_end := hends }
  · refine sdiff_subset.trans (union_subset h.held_opened ?_)
    exact (hhanded.trans hshift.out_subset).trans h.pool_subset
  · intro idx hidx hbarred
    have hbefore := hopen idx hidx hbarred
    rw [hshift.pool_eq, mem_union, mem_sdiff] at hidx
    rcases hidx with ⟨hold, -⟩ | hcame
    · exact h.pool_open idx hold hbefore
    · exact (hshift.back_open idx hcame).1 hbefore
  · intro idx hidx
    rcases List.mem_append.mp hidx with hnew | hold
    · exact htables idx hnew
    · refine (h.tables_barred idx hold).imp (fun hle => ?_) (hshift.barred idx)
      rwa [hgeom.2.2.1]
  · intro range hrange idx hin
    rcases List.mem_append.mp hrange with hnew | hold
    · exact hreserved range hnew idx hin
    · exact hkeeps idx (h.reserved_barred range hold idx hin)

lemma Sound.of_same
    (hshift : Shift s.allocator t.allocator out back) (hhanded : op.handed s.allocator ⊆ out)
    (hback : back ⊆ op.freed) (hopened : back ⊆ boot.openings.toFinset)
    (hsame : SameTables s.allocator t.allocator) (hprotects : op.protects = [])
    (hreserved : ∀ range ∈ op.reserves s.allocator, ∀ idx, InRange range idx →
      s.allocator.reserves idx) : Sound boot a₀ t := by
  refine h.of_shift hstep hshift hhanded hback hopened ?_ ?_ ?_ ?_ ?_
  · exact fun idx _ hbarred => (hsame.barred_iff idx).mp hbarred
  · simp [hprotects]
  · exact fun idx hreserves => (hsame.reserves idx).trans hreserves
  · exact fun range hrange idx hin => (hsame.reserves idx).trans (hreserved range hrange idx hin)
  · rw [hsame.reserves_eq]
    exact h.reserves_end

lemma Sound.of_idle (hidle : s.allocator = t.allocator) (hhanded : op.handed s.allocator = ∅)
    (hprotects : ∀ idx ∈ op.protects, s.allocator.maxRamFrame ≤ idx)
    (hreserved : ∀ range ∈ op.reserves s.allocator, ∀ idx, InRange range idx →
      s.allocator.reserves idx) : Sound boot a₀ t := by
  have hshift : Shift s.allocator t.allocator ∅ ∅ := hidle ▸ Shift.refl s.allocator
  refine h.of_shift hstep hshift (by simp [hhanded]) (by simp) (by simp) ?_ ?_ ?_ ?_ ?_
  · exact fun idx _ hbarred => hidle ▸ hbarred
  · exact fun idx hidx => .inl (hidle ▸ hprotects idx hidx)
  · exact fun idx hreserves => hidle ▸ hreserves
  · exact fun range hrange idx hin => hidle ▸ hreserved range hrange idx hin
  · exact hidle ▸ h.reserves_end

end

lemma Sound.of_record (base n : Nat) (hstep : s.step op = some t)
    (hshift : Shift s.allocator t.allocator out ∅) (hhanded : op.handed s.allocator ⊆ out)
    (hkpt : t.allocator.kpt = s.allocator.kpt)
    (htable : t.allocator.dmaReserves = (s.allocator.recordReserve base n).dmaReserves)
    (hend : base + n < UInt64.size)
    (hoff : ∀ idx ∈ t.allocator.pool, ¬ InRange (base, n) idx) (hprotects : op.protects = [])
    (hreserved : ∀ range ∈ op.reserves s.allocator, ∀ idx, InRange range idx →
      t.allocator.reserves idx) : Sound boot a₀ t := by
  have hrecorded : ∀ idx, t.allocator.reserves idx =
      (s.allocator.recordReserve base n).reserves idx := by
    intro idx
    simp only [reserves, htable]
  have hsum : usizeAdd base n = base + n := Nat.mod_eq_of_lt hend
  refine h.of_shift hstep hshift hhanded (by simp) (by simp) ?_ ?_ ?_ hreserved ?_
  · intro idx hidx hbarred
    refine hbarred.imp (fun hget => hkpt ▸ hget) fun hreserves => ?_
    rw [hrecorded] at hreserves
    rcases of_reserves_recordReserve hreserves with hold | hin
    · exact hold
    · rw [hsum] at hin
      exact absurd hin (hoff idx hidx)
  · simp [hprotects]
  · intro idx hreserves
    rw [hrecorded]
    obtain ⟨entry, hentry, hn, hrange⟩ := reserves_iff.mp hreserves
    exact reserves_iff.mpr
      ⟨entry, FirstMatch.mem_modifyFirst_of_mem hentry (by simpa using hn), hn, hrange⟩
  · intro entry hentry
    rw [htable] at hentry
    rcases FirstMatch.mem_modifyFirst hentry with hold | ⟨-, -, -, rfl⟩
    · exact h.reserves_end entry hold
    · exact hend

lemma sound_reserveNoFree {phys : UInt64} {n : Nat} (hlawful : Lawful s (.reserveNoFree phys n))
    (hstep : s.step (.reserveNoFree phys n) = some t) : Sound boot a₀ t := by
  obtain ⟨-, hend, hoff⟩ := hlawful
  have hcall : (s.allocator.reserveNoFree phys n).1 = t.allocator := some.inj (call_of_step hstep)
  have hsum : usizeAdd (frameNumber phys) n = frameNumber phys + n := Nat.mod_eq_of_lt hend
  by_cases hn : n = 0
  · have hres : s.allocator.reserveNoFree phys n = (s.allocator, true) := by
      rw [reserveNoFree, if_pos hn]
    rw [hres] at hcall
    refine h.of_idle hstep hcall rfl (by simp [Op.protects]) ?_
    intro range hrange idx hin
    simp only [Op.reserves, hres, if_true, List.mem_singleton] at hrange
    subst hrange hn
    unfold InRange at hin
    omega
  by_cases hcovered : s.allocator.dmaReserves.any (fun entry => entry.2 ≠ 0 ∧
      entry.1 ≤ frameNumber phys ∧
      usizeAdd (frameNumber phys) n ≤ usizeAdd entry.1 entry.2)
  · have hres : s.allocator.reserveNoFree phys n = (s.allocator, true) := by
      rw [reserveNoFree, if_neg hn, if_pos hcovered]
    rw [hres] at hcall
    refine h.of_idle hstep hcall rfl (by simp [Op.protects]) ?_
    intro range hrange idx hin
    simp only [Op.reserves, hres, if_true, List.mem_singleton] at hrange
    subst hrange
    obtain ⟨entry, hentry, hpos, hbase, hlast⟩ : ∃ entry ∈ s.allocator.dmaReserves,
        entry.2 ≠ 0 ∧ entry.1 ≤ frameNumber phys ∧
          usizeAdd (frameNumber phys) n ≤ usizeAdd entry.1 entry.2 := by
      simpa using hcovered
    refine reserves_iff.mpr ⟨entry, hentry, hpos, hbase.trans hin.1, ?_⟩
    exact (hin.2.trans_eq hsum.symm).trans_le hlast
  by_cases hroom : s.allocator.dmaReserves.any (fun entry => entry.2 == 0)
  · have hres : s.allocator.reserveNoFree phys n =
        (s.allocator.recordReserve (frameNumber phys) n, true) := by
      rw [reserveNoFree, if_neg hn, if_neg hcovered, if_pos hroom]
    rw [hres] at hcall
    have hshift : Shift s.allocator t.allocator ∅ ∅ :=
      hcall ▸ shift_recordReserve s.allocator (frameNumber phys) n
    refine h.of_record (frameNumber phys) n hstep hshift (by simp [Op.handed]) (hcall ▸ rfl)
      (hcall ▸ rfl) hend ?_ rfl ?_
    · rw [← hcall]
      exact hoff
    intro range hrange idx hin
    simp only [Op.reserves, hres, if_true, List.mem_singleton] at hrange
    subst hrange
    rw [← hcall]
    exact reserves_recordReserve hroom hn hin.1 (hin.2.trans_eq hsum.symm)
  · have hres : s.allocator.reserveNoFree phys n = (s.allocator, false) := by
      rw [reserveNoFree, if_neg hn, if_neg hcovered, if_neg hroom]
    rw [hres] at hcall
    exact h.of_idle hstep hcall rfl (by simp [Op.protects]) (by simp [Op.reserves, hres])

lemma sound_markPtFrameUsed {phys : UInt64}
    (hstep : s.step (.markPtFrameUsed phys) = some t) : Sound boot a₀ t := by
  have hcall : s.allocator.markPtFrameUsed phys = t.allocator := some.inj (call_of_step hstep)
  by_cases hram : s.allocator.maxRamFrame ≤ frameNumber phys
  · rw [markPtFrameUsed, if_pos hram] at hcall
    exact h.of_idle hstep hcall rfl (by simpa [Op.protects] using hram) (by simp [Op.reserves])
  have hres : s.allocator.markPtFrameUsed phys = s.allocator.protectFrame (frameNumber phys) := by
    rw [markPtFrameUsed, if_neg hram]
  obtain ⟨out, -, hshift⟩ := shift_markPtFrameUsed s.allocator phys
  rw [hcall] at hshift
  rw [hres] at hcall
  have hcovers := s.allocator.covers
  have hlen := s.allocator.kpt_length
  have hkpt : ∀ idx, get t.allocator.kpt idx =
      (get s.allocator.kpt idx || decide (frameNumber phys = idx)) := by
    intro idx
    rw [← hcall]
    exact get_set (by omega)
  refine h.of_shift hstep hshift (by simp [Op.handed]) (by simp) (by simp) ?_ ?_ ?_
    (by simp [Op.reserves]) ?_
  · intro idx hidx hbarred
    rw [← hcall] at hbarred
    refine hbarred.imp (fun hget => ?_) fun hreserves => hreserves
    have hne : frameNumber phys ≠ idx := by
      rintro rfl
      rw [← hcall] at hidx
      simp [pool, protectFrame, get_clear] at hidx
    rw [hcall] at hget
    simpa [hkpt, hne] using hget
  · intro idx hidx
    rw [List.mem_singleton.mp hidx]
    exact .inr (.inl (by simp [hkpt]))
  · exact fun idx hreserves => hcall ▸ hreserves
  · exact hcall ▸ h.reserves_end

end

/-- **One step** of a lawful run. -/
theorem sound_step (hinit : boot.initFromMap = some a₀) (h : Sound boot a₀ s)
    (hlawful : Lawful s op) (hstep : s.step op = some t) : Sound boot a₀ t := by
  have hcall := call_of_step hstep
  have hram : ∀ idx ∈ s.allocator.pool, idx < s.allocator.maxRamFrame := fun _ => h.lt_of_mem hinit
  cases op with
  | alloc =>
    rcases s.allocator.alloc_cases with ⟨hnone, -⟩ | ⟨-, -, -, hpanic⟩ |
      ⟨idx, b, -, hsome, hshift, hsame⟩
    · simp only [Op.call, hnone, map_some, some.injEq] at hcall
      exact h.of_idle hstep hcall (by simp [Op.handed, hnone]) (by simp [Op.protects])
        (by simp [Op.reserves])
    · simp [Op.call, hpanic] at hcall
    · simp only [Op.call, hsome, map_some, some.injEq] at hcall
      subst hcall
      have hlt := hram idx (hshift.out_subset (by simp))
      exact h.of_same hstep hshift (by simp [Op.handed, hsome, run_framePhys hlt]) (by simp)
        (by simp) hsame rfl (by simp [Op.reserves])
  | allocContiguous n =>
    cases hres : s.allocator.allocContiguous n with
    | none =>
      simp only [Op.call, hres, some.injEq] at hcall
      exact h.of_idle hstep hcall (by simp [Op.handed, hres]) (by simp [Op.protects])
        (by simp [Op.reserves])
    | some result =>
      obtain ⟨b, phys⟩ := result
      obtain ⟨start, rfl, rfl, hpos, hbound, hfree⟩ := allocContiguous_spec hres
      simp only [Op.call, hres, elim_some, some.injEq] at hcall
      have hlt : start < s.allocator.maxRamFrame := by omega
      have hshift := shift_takeRun hfree
      have hsame : SameTables s.allocator (s.allocator.takeRun start n) := ⟨rfl, rfl⟩
      rw [hcall] at hshift hsame
      exact h.of_same hstep hshift (by simp [Op.handed, hres, run_framePhys hlt])
        (by simp) (by simp) hsame rfl (by simp [Op.reserves])
  | allocDmaArena n =>
    simp only [Op.call, some.injEq] at hcall
    have hres : s.allocator.allocDmaArena n =
        (t.allocator, (s.allocator.allocDmaArena n).2) := by rw [← hcall]
    rcases allocDmaArena_spec hres with ⟨hnone, hshift, hsame⟩ |
      ⟨start, hsome, hbound, hb, hshift, hreserves⟩
    · exact h.of_same hstep hshift (by simp [Op.handed, hnone]) (by simp) (by simp) hsame rfl
        (by simp [Op.reserves, hnone])
    have hrun : Op.run n (framePhys start) ⊆ Ico start (start + n) := by
      rcases Nat.eq_zero_or_pos n with rfl | hpos
      · simp [Op.run]
      · rw [run_framePhys (show start < s.allocator.maxRamFrame by omega)]
    have hend : start + n < UInt64.size := (usizeAdd_of_le hbound).symm ▸ Nat.mod_lt _ (by decide)
    refine h.of_record start n hstep hshift ?_ (by rw [hb]; rfl) (by rw [hb]; rfl) hend ?_ rfl ?_
    · simpa [Op.handed, hsome] using hrun
    · intro idx hidx hin
      rw [hshift.pool_eq, union_empty, mem_sdiff] at hidx
      exact hidx.2 (mem_Ico.mpr hin)
    · intro range hrange idx hin
      simp only [Op.reserves, hsome, toList_some, List.map_cons, List.map_nil,
        List.mem_singleton] at hrange
      subst hrange
      exact hreserves idx (hrun (mem_Ico.mpr hin))
  | reserveNoFree phys n => exact sound_reserveNoFree h hlawful hstep
  | markPtFrameUsed phys => exact sound_markPtFrameUsed h hstep
  | free phys =>
    obtain ⟨hshift, hsame⟩ := free_cases s.allocator phys
    rw [some.inj hcall] at hshift hsame
    rcases hshift with hshift | hshift
    · exact h.of_same hstep hshift (by simp [Op.handed]) (by simp) (by simp) hsame rfl
        (by simp [Op.reserves])
    · refine h.of_same hstep hshift (by simp [Op.handed]) (by simp [Op.freed]) ?_ hsame rfl
        (by simp [Op.reserves])
      exact singleton_subset_iff.mpr (h.held_opened hlawful.1)

lemma sound_of_reaches (hinit : boot.initFromMap = some a₀)
    (h : Reaches step Lawful (start a₀) s) : Sound boot a₀ s :=
  h.invariant (sound_start hinit) fun _ _ _ hsound hlawful hstep =>
    sound_step hinit hsound hlawful hstep

/-- The counter is the number of set bits exactly when no frame was opened
twice. -/
lemma Counted.exact_iff (h : Counted boot a₀ a) :
    a.freeFrames = (ones a.bitmap).card ↔ boot.Separate := by
  have hcount := h.count
  have hnodup : boot.Separate ↔ boot.openings.toFinset.card = boot.openings.length :=
    (Multiset.toFinset_card_eq_card_iff_nodup (m := (boot.openings : Multiset Nat))).symm
  rw [hnodup]
  change a.freeFrames = a.pool.card ↔ _
  omega

lemma Sound.exists_step (hinit : boot.initFromMap = some a₀) (h : Sound boot a₀ s) (op : Op) :
    ∃ t, s.step op = some t := by
  have hcall : ∃ b, op.call s.allocator = some b := by
    cases op with
    | alloc =>
      rcases s.allocator.alloc_cases with ⟨hnone, -⟩ | ⟨idx, hidx, hguarded, -⟩ |
        ⟨idx, b, -, hsome, -⟩
      · exact ⟨s.allocator, by simp [Op.call, hnone]⟩
      · exact absurd hguarded (h.not_guarded hinit hidx)
      · exact ⟨b, by simp [Op.call, hsome]⟩
    | _ => exact ⟨_, rfl⟩
  obtain ⟨b, hb⟩ := hcall
  exact ⟨_, by rw [step, hb]; rfl⟩

/-- **The frame allocator hands no frame out twice and counts what it has.**  In
every lawful run from a memory map, whatever its regions: the counter is the
number of set bits exactly if no frame was opened for two regions; no call
panics; what a call hands out is held by nobody, shares no byte with the kernel
image or the maps, is no protected page table and in no reserved range; and
`alloc` finds nothing only when no bit is set. -/
theorem frames_exact (hinit : boot.initFromMap = some a₀) (hkernel : boot.KernelApart)
    (h : Reaches step Lawful (start a₀) s) :
    (s.allocator.freeFrames = (ones s.allocator.bitmap).card ↔ boot.Separate) ∧
      s.allocator.freeFrames ≤ s.allocator.totalFrames ∧
      (∀ op, ∃ t, s.step op = some t) ∧
      (∀ op idx, idx ∈ Op.handed s.allocator op →
        idx ∉ s.held ∧ ¬ boot.InKernel idx ∧ ¬ s.allocator.StoresMaps idx ∧ idx ∉ s.tables ∧
          ∀ range ∈ s.reserved, ¬ InRange range idx) ∧
      ∀ b, s.allocator.alloc = some (b, none) → ∀ idx, get s.allocator.bitmap idx = false := by
  have hsound := sound_of_reaches hinit h
  refine ⟨hsound.exact_iff, hsound.freeFrames_le hinit, hsound.exists_step hinit, ?_, ?_⟩
  · intro op idx hidx
    have hpool := handed_subset_pool hinit hsound.toCounted op hidx
    have hopened := List.mem_toFinset.mp (hsound.pool_subset hpool)
    have hopen := hsound.pool_open idx hpool
    refine ⟨fun hheld => ?_, not_inKernel_of_mem hkernel hopened, ?_, fun htable => ?_,
      fun range hrange hin => ?_⟩
    · exact disjoint_left.mp hsound.held_disjoint hheld hpool
    · have hgeometry := hsound.geometry_eq
      simp only [geometry, Prod.mk.injEq] at hgeometry
      have hstores := not_storesMaps_of_mem hinit hopened
      unfold StoresMaps at hstores ⊢
      rwa [hgeometry.2.2.2.1, hgeometry.2.2.2.2.1]
    · rcases hsound.tables_barred idx htable with hbeyond | hbarred
      · exact absurd (hsound.lt_of_mem hinit hpool) (by omega)
      · exact hopen hbarred
    · exact hopen (.inr (hsound.reserved_barred range hrange idx hin))
  · intro b hnone idx
    rcases s.allocator.alloc_cases with ⟨-, hempty⟩ | ⟨-, -, -, hpanic⟩ | ⟨i, c, -, hsome, -⟩
    · by_contra hget
      have hmem : idx ∈ s.allocator.pool := mem_ones.mpr (by simpa using hget)
      simp [hempty] at hmem
    · rw [hpanic] at hnone
      cases hnone
    · rw [hsome] at hnone
      cases hnone

/-- With overlapping regions the counter is one too high from the start; a kernel
image that starts within a usable frame has that frame handed out; and so is a
free frame after `reserve_no_free` has reported it reserved. -/
theorem init_overcounts :
    (∃ a, overlapping.initFromMap = some a ∧ a.freeFrames = 4 ∧ (ones a.bitmap).card = 3) ∧
      (∃ a s, kernelWithin.initFromMap = some a ∧
        Reaches step FreesHeld (start a) s ∧
        1 ∈ Op.handed s.allocator .alloc ∧ kernelWithin.InKernel 1) ∧
      ∃ a s, withHole.initFromMap = some a ∧
        Reaches step FreesHeld (start a) s ∧
        1 ∈ Op.handed s.allocator .alloc ∧ (1, 1) ∈ s.reserved := by
  refine ⟨?_, ?_, ?_⟩
  · have hinit : (overlapping.initFromMap.map fun a =>
        decide (a.freeFrames = 4 ∧ (ones a.bitmap).card = 3)) = some true := by decide +kernel
    obtain ⟨a, ha, hcount⟩ := map_eq_some_iff.mp hinit
    exact ⟨a, ha, of_decide_eq_true hcount⟩
  · unfold InKernel
    exact exists_run [.alloc] (by decide +kernel)
  · exact exists_run [.reserveNoFree 0x1000 1, .alloc] (by decide +kernel)

/-- A run with every kind of call on a map with a hole. -/
theorem frames_exact_withHole : ∃ a s, withHole.initFromMap = some a ∧ withHole.KernelApart ∧
    withHole.Separate ∧ Reaches step Lawful (start a) s ∧
    s.held = {0, 6} ∧ s.tables = [1] ∧ s.reserved = [(4, 2), (6, 1)] ∧
    s.allocator.freeFrames = (ones s.allocator.bitmap).card := by
  have hapart : withHole.KernelApart := .inl (by decide)
  have hseparate : withHole.Separate := by
    unfold Separate
    decide +kernel
  obtain ⟨a, s, ha, hreach, hheld, htables, hreserved⟩ : ∃ a s, withHole.initFromMap = some a ∧
      Reaches step Lawful (start a) s ∧
      s.held = {0, 6} ∧ s.tables = [1] ∧ s.reserved = [(4, 2), (6, 1)] :=
    exists_run [.allocContiguous 3, .allocDmaArena 1, .free 0x1000, .markPtFrameUsed 0x1000,
      .reserveNoFree 0x4000 2, .free 0x2000] (by decide +kernel)
  exact ⟨a, s, ha, hapart, hseparate, hreach, hheld, htables, hreserved,
    (frames_exact ha hapart hreach).1.mpr hseparate⟩

end Soundness

end Godspeed.Memory
