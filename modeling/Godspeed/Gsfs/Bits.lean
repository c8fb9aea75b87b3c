import Godspeed.Gsfs.Mount
import Godspeed.Gsfs.Writing

/-!
# The bitmap

`Plan` says how the regions of a volume lie: superblock, bitmap, journal, data and
the backup in the last block.  Setting the bits of a range changes these bits and no
others, and no block outside the bitmap (`bmSetRange_marked`), across as many bitmap
blocks as the range touches.
-/

namespace Godspeed.Gsfs

open Word Prog Function List World

namespace Setting

structure Plan (g : Setting) : Prop where
  super : 1 ≤ g.bitmapStart
  bitmap : g.bitmapStart + bitmapBlocks g.totalBlocks ≤ g.journalStart
  journal : g.journalStart + 1 + txnCap ≤ g.dataStart
  data : g.dataStart + 2 ≤ g.totalBlocks
  word : g.totalBlocks < 2 ^ 64

def InData (g : Setting) (b : Nat) : Prop := g.dataStart ≤ b ∧ b < g.totalBlocks - 1

def InBitmap (g : Setting) (b : Nat) : Prop := g.bitmapStart ≤ b ∧ b < g.journalStart

variable {g : Setting} {b : Nat}

lemma InData.lt (h : g.InData b) : b < g.totalBlocks := by
  unfold InData at h
  omega

lemma Plan.bitmap_block (h : g.Plan) (hb : b < g.totalBlocks) :
    g.InBitmap (g.bitmapStart + b / bitsPerBmblock) := by
  have hbitmap := h.bitmap
  have hdiv : b / bitsPerBmblock < bitmapBlocks g.totalBlocks := by
    unfold bitmapBlocks bitsPerBmblock
    omega
  exact ⟨Nat.le_add_right _ _, lt_of_lt_of_le (Nat.add_lt_add_left hdiv _) hbitmap⟩

lemma Plan.not_bitmap_of_data (h : g.Plan) (hb : g.InData b) : ¬ g.InBitmap b := by
  have hjournal := h.journal
  unfold InData at hb
  unfold InBitmap
  omega

lemma Plan.not_bitmap_zero (h : g.Plan) : ¬ g.InBitmap 0 := by
  have hsuper := h.super
  unfold InBitmap
  omega

lemma Plan.not_bitmap_backup (h : g.Plan) : ¬ g.InBitmap (g.totalBlocks - 1) := by
  have hjournal := h.journal
  have hdata := h.data
  unfold InBitmap
  omega

end Setting

/-- The volume without what is staged and remembered. -/
def Fs.core (fs : Fs) : Fs := { fs with walkCache := none, staged := [], txnOverflow := false }

@[simp] lemma core_wrote {w : World} {lba : Nat} {b : Block} : (w.wrote lba b).fs.core = w.fs.core := by
  rw [fs_wrote]
  rfl

lemma bitAt_congr {w w' : World} {b : Nat} (hset : w'.setting = w.setting)
    (hread : w'.read (w.fs.bitmapStart + b / bitsPerBmblock) =
      w.read (w.fs.bitmapStart + b / bitsPerBmblock)) : w'.bitAt b = w.bitAt b := by
  have hstart : w'.fs.bitmapStart = w.fs.bitmapStart := congrArg Setting.bitmapStart hset
  unfold bitAt
  rw [hstart, hread]

/-- The bits of a range were given one value; nothing else of what is read changed. -/
structure Marked (first count : Nat) (used : Bool) (w w' : World) : Prop where
  setting : w'.setting = w.setting
  core : w'.fs.core = w.fs.core
  bit : ∀ b, w'.bitAt b = if first ≤ b ∧ b < first + count then used else w.bitAt b
  other : ∀ lba, ¬ w.setting.InBitmap lba → w'.read lba = w.read lba

variable {E : Refusal → World → Prop}

section BitmapBlock

variable {first stop k : Nat} {used : Bool} {w : World}

/-- The bitmap block number `k` with the bits of a range given one value. -/
def markedBlock (blk : Block) (first stop : Nat) (used : Bool) (k : Nat) : Block :=
  setBits blk (max first (k * bitsPerBmblock) - k * bitsPerBmblock)
    (min stop ((k + 1) * bitsPerBmblock) - max first (k * bitsPerBmblock)) used

lemma getLsbD_markedBlock (blk : Block) {b : Nat} (hb : b / bitsPerBmblock = k) :
    (markedBlock blk first stop used k).getLsbD (b % bitsPerBmblock) =
      if first ≤ b ∧ b < stop then used else blk.getLsbD (b % bitsPerBmblock) := by
  unfold markedBlock
  rw [getLsbD_setBits]
  have hbits : bitsPerBmblock = 4096 := rfl
  rw [hbits] at hb ⊢
  congr 1
  rw [eq_iff_iff]
  omega

/-- The world after the bits in one bitmap block were set. -/
def World.markedIn (w : World) (first stop : Nat) (used : Bool) (k : Nat) : World :=
  w.ticked.wrote (w.fs.bitmapStart + k) (markedBlock (w.read (w.fs.bitmapStart + k)) first stop used k)

lemma run_bmSetBlock {Q : Unit → World → Prop}
    (hok : w.faulty (w.fs.bitmapStart + k) = false → w.ticked.hasRoom (w.fs.bitmapStart + k) →
      Q () (w.markedIn first stop used k))
    (hfault : w.faulty (w.fs.bitmapStart + k) → E .bitmapReadFailed w.ticked)
    (hfull : w.ticked.hasRoom (w.fs.bitmapStart + k) = false → E .bitmapWriteFailed w.ticked.dropped) :
    Run (bmSetBlock first stop used k) w Q E := by
  unfold bmSetBlock
  rw [run_bind, run_read, run_bind, run_tbReadOr]
  refine ⟨fun hf => ?_, hfault⟩
  rw [run_tbWriteOr]
  exact ⟨hok hf, hfull⟩

end BitmapBlock

section BitmapRange

variable {first count : Nat} {used : Bool} {w : World}

lemma nodup_bmBlocks (first count : Nat) : (bmBlocks first count).Nodup := by
  unfold bmBlocks
  split
  · exact nodup_nil
  · exact nodup_range'

lemma mem_bmBlocks {k : Nat} : k ∈ bmBlocks first count ↔
    0 < count ∧ first / bitsPerBmblock ≤ k ∧ k ≤ (first + count - 1) / bitsPerBmblock := by
  have hbits : bitsPerBmblock = 4096 := rfl
  unfold bmBlocks
  by_cases h : count = 0
  · rw [if_pos h]
    exact iff_of_false not_mem_nil (by omega)
  · rw [if_neg h, mem_range'_1]
    rw [hbits]
    omega

/-- A block in the range has its bit in one of the bitmap blocks of the range. -/
lemma div_mem_bmBlocks {b : Nat} (h : first ≤ b) (h' : b < first + count) :
    b / bitsPerBmblock ∈ bmBlocks first count := by
  have hbits : bitsPerBmblock = 4096 := rfl
  rw [mem_bmBlocks, hbits]
  omega

/-- The bits in the bitmap blocks of `past` were set. -/
structure MarkedBlocks (first stop : Nat) (used : Bool) (past : List Nat) (w w' : World) : Prop where
  setting : w'.setting = w.setting
  core : w'.fs.core = w.fs.core
  inside : ∀ k ∈ past, w'.read (w.fs.bitmapStart + k) =
    markedBlock (w.read (w.fs.bitmapStart + k)) first stop used k
  outside : ∀ lba, (∀ k ∈ past, lba ≠ w.fs.bitmapStart + k) → w'.read lba = w.read lba

lemma MarkedBlocks.snoc {stop : Nat} {past : List Nat} {k : Nat} {t : World}
    (h : MarkedBlocks first stop used past w t) (hk : k ∉ past)
    (hroom : t.ticked.hasRoom (t.fs.bitmapStart + k)) :
    MarkedBlocks first stop used (past ++ [k]) w (t.markedIn first stop used k) := by
  have hstart : t.fs.bitmapStart = w.fs.bitmapStart := congrArg Setting.bitmapStart h.setting
  have hread : (t.markedIn first stop used k).read = update t.read (w.fs.bitmapStart + k)
      (markedBlock (t.read (w.fs.bitmapStart + k)) first stop used k) := by
    unfold markedIn
    rw [read_wrote hroom, hstart]
    rfl
  have hold : t.read (w.fs.bitmapStart + k) = w.read (w.fs.bitmapStart + k) := by
    refine h.outside _ fun j hj heq => hk ?_
    have hjk : j = k := by omega
    exact hjk ▸ hj
  constructor
  · exact setting_wrote.trans h.setting
  · exact core_wrote.trans h.core
  · intro j hj
    rw [hread]
    rcases mem_append.mp hj with hj | hj
    · have hjk : j ≠ k := fun heq => hk (heq ▸ hj)
      rw [update_of_ne (by omega)]
      exact h.inside j hj
    · obtain rfl := mem_singleton.mp hj
      rw [update_self, hold]
  · intro lba hlba
    have hne := hlba k (mem_append_right _ mem_cons_self)
    rw [hread, update_of_ne hne]
    exact h.outside lba fun j hj => hlba j (mem_append_left _ hj)

lemma marked_of_markedBlocks {w' : World} (hplan : w.setting.Plan)
    (hin : ∀ b, first ≤ b → b < first + count → b < w.fs.totalBlocks)
    (h : MarkedBlocks first (first + count) used (bmBlocks first count) w w') :
    Marked first count used w w' := by
  have hstart : w'.fs.bitmapStart = w.fs.bitmapStart := congrArg Setting.bitmapStart h.setting
  constructor
  · exact h.setting
  · exact h.core
  · intro b
    by_cases hk : b / bitsPerBmblock ∈ bmBlocks first count
    · unfold bitAt
      rw [hstart, h.inside _ hk]
      exact getLsbD_markedBlock _ rfl
    · rw [if_neg fun hr => hk (div_mem_bmBlocks hr.1 hr.2)]
      refine bitAt_congr h.setting (h.outside _ fun j hj heq => hk ?_)
      have hjk : b / bitsPerBmblock = j := by omega
      exact hjk ▸ hj
  · intro lba hlba
    refine h.outside lba fun k hk heq => hlba ?_
    obtain ⟨hpos, -, hlast⟩ := mem_bmBlocks.mp hk
    have hblock := hplan.bitmap_block (b := first + count - 1) (hin _ (by omega) (by omega))
    unfold Setting.InBitmap at hblock ⊢
    have hset : w.setting.bitmapStart = w.fs.bitmapStart := rfl
    omega

lemma bmSetRange_run (hplan : w.setting.Plan)
    (hin : ∀ b, first ≤ b → b < first + count → b < w.fs.totalBlocks)
    (hfault : ∀ k ∈ bmBlocks first count, ∀ t : World, t.setting = w.setting →
      t.faulty (t.fs.bitmapStart + k) → E .bitmapReadFailed t.ticked)
    (hfull : ∀ k ∈ bmBlocks first count, ∀ t : World, t.setting = w.setting →
      t.ticked.hasRoom (t.fs.bitmapStart + k) = false → E .bitmapWriteFailed t.ticked.dropped) :
    Run (bmSetRange first count used) w (fun _ w' => Marked first count used w w') E := by
  unfold bmSetRange
  refine Run.mono ?_ (fun _ t ht => marked_of_markedBlocks hplan hin ht) fun _ _ h => h
  refine run_forEach (fun past t => MarkedBlocks first (first + count) used past w t)
    ⟨rfl, rfl, fun k hk => absurd hk not_mem_nil, fun _ _ => rfl⟩ fun past k rest t hxs ht => ?_
  have hmem : k ∈ bmBlocks first count := by
    rw [hxs]
    exact mem_append_right _ mem_cons_self
  have hk : k ∉ past := by
    have hnodup := nodup_bmBlocks first count
    rw [hxs] at hnodup
    intro hpast
    exact (nodup_append.mp hnodup).2.2 k hpast k mem_cons_self rfl
  exact run_bmSetBlock (fun _ hroom => ht.snoc hk hroom) (hfault k hmem t ht.setting)
    (hfull k hmem t ht.setting)

/-- **Setting the bits of a range** changes these bits and nothing else that is read. -/
theorem bmSetRange_marked (hplan : w.setting.Plan)
    (hin : ∀ b, first ≤ b → b < first + count → b < w.fs.totalBlocks) :
    Gives (bmSetRange first count used) w fun _ w' => Marked first count used w w' :=
  bmSetRange_run hplan hin (fun _ _ _ _ _ => trivial) fun _ _ _ _ _ => trivial

end BitmapRange

section Super

variable {w : World}

/-- The superblock that `persist_super` writes. -/
def World.nextSuper (w : World) : Block := sbUpdate (w.read 0) w.fs.sbFields

/-- The world after both superblocks were written. -/
def World.superWritten (w : World) : World :=
  ((w.ticked.wrote 0 w.nextSuper).wrote (w.fs.totalBlocks - 1) w.nextSuper).onFs fun fs =>
    { fs with sbPersisted := some w.fs.sbFields }

/-- `persist_super` writes nothing when it thinks that the fields are there already. -/
lemma run_persistSuper {Q : Unit → World → Prop}
    (hskip : w.fs.sbPersisted = some w.fs.sbFields → Q () w)
    (hok : w.fs.sbPersisted ≠ some w.fs.sbFields → w.faulty 0 = false → w.ticked.hasRoom 0 →
      (w.ticked.wrote 0 w.nextSuper).hasRoom (w.fs.totalBlocks - 1) → Q () w.superWritten)
    (hfault : w.faulty 0 → E .superblockReadFailed w.ticked)
    (hfull : w.ticked.hasRoom 0 = false → E .superblockWriteFailed w.ticked.dropped)
    (hfull' : (w.ticked.wrote 0 w.nextSuper).hasRoom (w.fs.totalBlocks - 1) = false →
      E .backupSuperblockWriteFailed (w.ticked.wrote 0 w.nextSuper).dropped) :
    Run persistSuper w Q E := by
  unfold persistSuper
  rw [run_bind, run_read, run_ite]
  refine ⟨hskip, fun hnew => ?_⟩
  rw [run_bind, run_tbReadOr]
  refine ⟨fun hread => ?_, hfault⟩
  rw [run_bind, run_tbWriteOr]
  refine ⟨fun hroom => ?_, hfull⟩
  rw [run_bind, run_tbWriteOr]
  exact ⟨fun hroom' => hok hnew hread hroom hroom', hfull'⟩

end Super

end Godspeed.Gsfs
