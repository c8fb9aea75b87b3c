import Godspeed.Lib.Holdings
import Godspeed.Gsfs.Codec

/-!
# The tree of a volume

The records of a volume as a tree (`Holdings`): the children of a directory are the
records in use in those of its blocks that can be read, the child number `i` being
the one in slot `i % 7` of block `i / 7`.  A record holds the blocks of its extent,
and with a fragmented file also those of the runs that its extent block lists.

`rd` is what the blocks read as.  A tree depends on the blocks its records hold and
on no others (`tree_congr`).
-/

namespace Godspeed.Gsfs

open Word Holdings

variable (rd : Nat → Block) (r : Rec)

def kid (i : Nat) : Option Rec :=
  if r.itype = itypeDir ∧ i < recsPerBlock * r.count then
    (tdRead rd (r.first + i / recsPerBlock)).bind fun blk =>
      if recType blk (i % recsPerBlock) ≠ itypeFree then some (recOf blk (i % recsPerBlock)) else none
  else none

/-- The indices of the children of a record, in the order of the blocks. -/
def kidIndices : List Nat := List.range (recsPerBlock * r.count)

def own : List Nat :=
  extent r.first r.count ++
    if r.itype = itypeFileFrag then runBlocks ((extOf rd r.first).getD []) else []

def Fs.rootRec (fs : Fs) : Rec where
  itype := itypeDir
  name := none
  isSealed := false
  size := 0
  first := fs.rootFirstBlock
  count := fs.rootBlockCount

/-- The record at a position below a record. -/
def recAt (root : Rec) (q : List Nat) : Option Rec := descend (kid rd) root q

/-- Some record below `root` holds the block. -/
def Holds (root : Rec) (b : Nat) : Prop := Held (kid rd) (own rd) root b

section Children

variable {rd rd' : Nat → Block} {r x : Rec} {i : Nat}

lemma kid_eq_some : kid rd r i = some x ↔ r.itype = itypeDir ∧ i < recsPerBlock * r.count ∧
    dirCrcOk (rd (r.first + i / recsPerBlock)) ∧
    recType (rd (r.first + i / recsPerBlock)) (i % recsPerBlock) ≠ itypeFree ∧
    x = recOf (rd (r.first + i / recsPerBlock)) (i % recsPerBlock) := by
  unfold kid tdRead
  by_cases hr : r.itype = itypeDir ∧ i < recsPerBlock * r.count
  · rw [if_pos hr]
    by_cases hcrc : dirCrcOk (rd (r.first + i / recsPerBlock))
    · rw [if_pos hcrc, Option.bind_some]
      by_cases hfree : recType (rd (r.first + i / recsPerBlock)) (i % recsPerBlock) ≠ itypeFree
      · rw [if_pos hfree, Option.some_inj]
        constructor
        · intro h
          exact ⟨hr.1, hr.2, hcrc, hfree, h.symm⟩
        · intro h
          exact h.2.2.2.2.symm
      · rw [if_neg hfree]
        exact iff_of_false (by simp) fun h => hfree h.2.2.2.1
    · rw [if_neg hcrc]
      exact iff_of_false (by simp) fun h => hcrc h.2.2.1
  · rw [if_neg hr]
    exact iff_of_false (by simp) fun h => hr ⟨h.1, h.2.1⟩

lemma block_lt {n : Nat} (h : i < recsPerBlock * n) : i / recsPerBlock < n := Nat.div_lt_of_lt_mul h

lemma slot_index {k slot : Nat} (hslot : slot < recsPerBlock) :
    (recsPerBlock * k + slot) / recsPerBlock = k ∧ (recsPerBlock * k + slot) % recsPerBlock = slot := by
  have hseven : recsPerBlock = 7 := rfl
  rw [hseven] at hslot ⊢
  omega

lemma mem_extent {first count b : Nat} : b ∈ extent first count ↔ first ≤ b ∧ b < first + count := by
  unfold extent
  rw [List.mem_range'_1]

lemma mem_own_of_extent {b : Nat} (h : b ∈ extent r.first r.count) : b ∈ own rd r :=
  List.mem_append_left _ h

lemma block_mem_own (h : i < recsPerBlock * r.count) : r.first + i / recsPerBlock ∈ own rd r := by
  exact mem_own_of_extent (mem_extent.mpr
    ⟨Nat.le_add_right _ _, Nat.add_lt_add_left (block_lt h) _⟩)

lemma kid_congr (h : ∀ b ∈ own rd r, rd' b = rd b) (i : Nat) : kid rd' r i = kid rd r i := by
  unfold kid
  by_cases hr : r.itype = itypeDir ∧ i < recsPerBlock * r.count
  · rw [if_pos hr, if_pos hr]
    unfold tdRead
    rw [h _ (block_mem_own hr.2)]
  · rw [if_neg hr, if_neg hr]

lemma mem_kidIndices (h : kid rd r i = some x) : i ∈ kidIndices r :=
  List.mem_range.mpr (kid_eq_some.mp h).2.1

lemma nodup_kidIndices (r : Rec) : (kidIndices r).Nodup := List.nodup_range

end Children

/-- An extent block is held by its record. -/
def ExtHeld : Prop := r.itype = itypeFileFrag → 0 < r.count

lemma own_congr {rd rd' : Nat → Block} {r : Rec} (hext : ExtHeld r)
    (h : ∀ b ∈ own rd r, rd' b = rd b) : own rd' r = own rd r := by
  by_cases hfrag : r.itype = itypeFileFrag
  · have hpos := hext hfrag
    have hfirst : rd' r.first = rd r.first :=
      h _ (mem_own_of_extent (mem_extent.mpr ⟨le_refl _, by omega⟩))
    unfold own extOf
    rw [hfirst]
  · unfold own
    rw [if_neg hfrag, if_neg hfrag]

section Congr

variable {rd rd' : Nat → Block} {root : Rec} (hext : ∀ q r, recAt rd root q = some r → ExtHeld r)
  (h : ∀ b, Holds rd root b → rd' b = rd b)

include h in
/-- **A tree depends on the blocks it holds only.** -/
theorem tree_congr (q : List Nat) : recAt rd' root q = recAt rd root q :=
  descend_congr (fun q r j hr => kid_congr (fun b hb => h b ⟨q, r, hr, hb⟩) j) q

include hext h in
lemma holds_congr (b : Nat) : Holds rd' root b ↔ Holds rd root b :=
  held_congr (fun q r j hr => kid_congr (fun b hb => h b ⟨q, r, hr, hb⟩) j)
    fun q r hr => own_congr (hext q r hr) fun b hb => h b ⟨q, r, hr, hb⟩

include hext h in
lemma apart_congr (hapart : Apart (kid rd) (own rd) root) : Apart (kid rd') (own rd') root :=
  hapart.congr (fun q r j hr => kid_congr (fun b hb => h b ⟨q, r, hr, hb⟩) j)
    fun q r hr => own_congr (hext q r hr) fun b hb => h b ⟨q, r, hr, hb⟩

end Congr

end Godspeed.Gsfs
