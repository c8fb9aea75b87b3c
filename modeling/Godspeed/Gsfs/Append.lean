import Godspeed.Gsfs.Files

/-!
# The mark of an append-only capability

`serve_filecap` refuses a WRITE below the high-water mark of an append-only
capability and moves the mark past a WRITE that succeeded.  A chunk goes to the
block driver in requests of at most `WRITE_RUN_MAX` consecutive blocks.  The driver
writes a request block by block, and any of them can fail; a request is answered with
`Ok` or not, whatever of it was written, as its answer may be lost.  As long as the
driver writes nothing for a WRITE one of whose requests it does not answer with `Ok`,
no block is written twice.  Otherwise the mark stays below blocks that were written,
and they can be written again.
-/

namespace Godspeed.Gsfs.Append

open List

/-- What the driver does with a request: which of its blocks it writes, and whether
`Ok` comes back. -/
structure Answer where
  wrote : Nat → Bool
  ok : Bool

def Answer.landed (a : Answer) (lba n : Nat) : List Nat := ((List.range n).filter a.wrote).map (lba + ·)

/-- What a WRITE did at the driver: the blocks of its requests, those of them that were
written, and whether it returned `Ok`. -/
structure Sent where
  issued : List Nat
  landed : List Nat
  ok : Bool

/-- `block_write_run` for `n` blocks from `lba` on; `rest` follows a success. -/
def blockWriteRun (a : Answer) (lba n : Nat) (rest : Sent) : Sent :=
  if a.ok then ⟨extent lba n ++ rest.issued, a.landed lba n ++ rest.landed, rest.ok⟩
  else ⟨extent lba n, a.landed lba n, false⟩

/-- The direct loop of `write_at`: `n` blocks from `lba` on are collected and not yet
sent, and `k` requests were made. -/
def sendRuns (addr : Nat → Option Nat) (answer : Nat → Answer) : List Nat → Nat → Nat → Nat → Sent
  | [], lba, n, k => if n = 0 then ⟨[], [], true⟩ else blockWriteRun (answer k) lba n ⟨[], [], true⟩
  | i :: rest, lba, n, k =>
    match addr i with
    -- the collected blocks are dropped
    | none => ⟨[], [], false⟩
    | some a =>
      if 0 < n ∧ (a ≠ lba + n ∨ n = writeRunMax) then
        blockWriteRun (answer k) lba n (sendRuns addr answer rest a 1 (k + 1))
      else if n = 0 then sendRuns addr answer rest a 1 k
      else sendRuns addr answer rest lba (n + 1) k

section Addresses

variable {P : Nat → Prop}

lemma blockWriteRun_issued {a : Answer} {lba n : Nat} {rest : Sent} (hrun : ∀ j < n, P (lba + j))
    (hrest : ∀ b ∈ rest.issued, P b) : ∀ b ∈ (blockWriteRun a lba n rest).issued, P b := by
  have hextent : ∀ b ∈ extent lba n, P b := by
    intro b hb
    obtain ⟨j, hj, rfl⟩ := mem_range'.mp hb
    simpa using hrun j hj
  intro b hb
  unfold blockWriteRun at hb
  split at hb
  · exact (mem_append.mp hb).elim (hextent b) (hrest b)
  · exact hextent b hb

lemma Answer.landed_subset (a : Answer) (lba n : Nat) : a.landed lba n ⊆ extent lba n := by
  intro b hb
  obtain ⟨j, hj, rfl⟩ := mem_map.mp hb
  exact mem_range'.mpr ⟨j, mem_range.mp (mem_filter.mp hj).1, by simp⟩

lemma blockWriteRun_landed {a : Answer} {lba n : Nat} {rest : Sent}
    (h : rest.landed ⊆ rest.issued) :
    (blockWriteRun a lba n rest).landed ⊆ (blockWriteRun a lba n rest).issued := by
  unfold blockWriteRun
  split
  · exact append_subset.mpr ⟨fun b hb => mem_append_left _ (a.landed_subset lba n hb),
      fun b hb => mem_append_right _ (h hb)⟩
  · exact a.landed_subset lba n

/-- A property of what is sent, kept by a request, holds of the whole. -/
lemma sendRuns_induct {addr : Nat → Option Nat} {answer : Nat → Answer} {Q : Sent → Prop}
    {is : List Nat} (hdone : Q ⟨[], [], true⟩) (hdropped : (∃ i ∈ is, addr i = none) → Q ⟨[], [], false⟩)
    (hrun : ∀ k lba n rest, Q rest → Q (blockWriteRun (answer k) lba n rest)) {lba n k : Nat} :
    Q (sendRuns addr answer is lba n k) := by
  induction is generalizing lba n k with
  | nil =>
    unfold sendRuns
    split
    · exact hdone
    · exact hrun _ _ _ _ hdone
  | cons i rest ih =>
    have ih' {lba n k : Nat} : Q (sendRuns addr answer rest lba n k) :=
      ih fun ⟨j, hj, hnone⟩ => hdropped ⟨j, mem_cons_of_mem i hj, hnone⟩
    unfold sendRuns
    split
    next hnone => exact hdropped ⟨i, mem_cons_self, hnone⟩
    split
    · exact hrun _ _ _ _ ih'
    split
    · exact ih'
    · exact ih'

/-- Only the addresses of the chunk's blocks are put to the driver. -/
lemma sendRuns_issued {addr : Nat → Option Nat} {answer : Nat → Answer} {is : List Nat}
    (haddr : ∀ i ∈ is, ∀ a, addr i = some a → P a) {lba n k : Nat} (hrun : ∀ j < n, P (lba + j)) :
    ∀ b ∈ (sendRuns addr answer is lba n k).issued, P b := by
  have hnone : ∀ ok, ∀ b ∈ (Sent.mk [] [] ok).issued, P b := by simp
  induction is generalizing lba n k with
  | nil =>
    unfold sendRuns
    split
    · exact hnone true
    · exact blockWriteRun_issued hrun (hnone true)
  | cons i rest ih =>
    obtain ⟨hi, hrest⟩ := forall_mem_cons.mp haddr
    unfold sendRuns
    split
    · exact hnone false
    rename_i a ha
    -- a run that starts here holds the address of this block only
    have hone : ∀ j < 1, P (a + j) := by
      intro j hj
      obtain rfl : j = 0 := by omega
      exact hi a ha
    split
    · exact blockWriteRun_issued hrun (ih hrest hone)
    split
    · exact ih hrest hone
    apply ih hrest
    intro j hj
    rcases Nat.lt_succ_iff_lt_or_eq.mp hj with hj | rfl
    · exact hrun j hj
    · obtain rfl : a = lba + j := by omega
      exact hi _ ha

lemma nthDataBlock_eq (runs : List (Nat × Nat)) (i : Nat) : nthDataBlock runs i = (runBlocks runs)[i]? := by
  induction runs generalizing i with
  | nil => rfl
  | cons run rest ih =>
    rw [nthDataBlock, runBlocks, flatMap_cons, getElem?_append]
    simp only [extent, length_range']
    split
    · next hlt => simp [hlt]
    · exact ih _

end Addresses

variable (e : Entry) (runs : Option (List (Nat × Nat)))

lemma dataLba_inj {e runs} (hruns : ∀ l, runs = some l → (runBlocks l).Nodup) {i j a : Nat}
    (hi : dataLba e runs i = some a) (hj : dataLba e runs j = some a) : i = j := by
  cases runs with
  | none =>
    simp only [dataLba, Option.some.injEq] at hi hj
    omega
  | some l =>
    simp only [dataLba, nthDataBlock_eq] at hi hj
    obtain ⟨hlt, -⟩ := List.getElem?_eq_some_iff.mp hi
    exact (getElem?_inj hlt (hruns l rfl)).mp (hi.trans hj.symm)

/-- A WRITE through the capability; `refused` says that a check which does not look
at the offset refuses it, and `answer` what the driver does with its requests. -/
structure Write where
  offset : Nat
  len : Nat
  refused : Bool
  answer : Nat → Answer

/-- The `total_blocks` of `write_at`. -/
def totalBlocks : Nat :=
  if e.itype = itypeFile then e.blockCount else (e.size + dataPayload - 1) / dataPayload

/-- `FOP_WRITE` through an append-only capability, up to the mark. -/
def sent (hwm : Nat) (x : Write) : Sent :=
  if x.refused ∨ x.offset < hwm ∨ x.offset % dataPayload ≠ 0 ∨
      totalBlocks e * dataPayload < (x.offset + x.len) % 2 ^ 64 then ⟨[], [], false⟩
  else
    sendRuns (fun i => dataLba e runs (x.offset / dataPayload + i)) x.answer
      (List.range ((x.len + dataPayload - 1) / dataPayload)) 0 0 0

/-- The mark of the capability, with all blocks that were written. -/
structure Mark where
  hwm : Nat
  landed : List Nat

/-- A WRITE; `open_bump_hwm` follows a success. -/
def Mark.write (m : Mark) (x : Write) : Mark where
  hwm := if (sent e runs m.hwm x).ok then max m.hwm ((x.offset + x.len) % 2 ^ 64) else m.hwm
  landed := m.landed ++ (sent e runs m.hwm x).landed

/-- The driver answers every request with `Ok`, or it writes nothing. -/
def Write.Whole (x : Write) : Prop :=
  (∀ k, (x.answer k).ok = true) ∨ ∀ k j, (x.answer k).wrote j = false

/-- The marks of the runs in which no sum wraps and every WRITE is a whole one. -/
inductive Whole : Mark → Prop
  | opened : Whole ⟨0, []⟩
  | write {m : Mark} (x : Write) (hm : Whole m) (hfits : x.offset + x.len < 2 ^ 64)
      (hwhole : x.Whole) : Whole (m.write e runs x)

/-- The extents hold the size of the file. -/
def Covered : Prop := ∀ i < totalBlocks e, (dataLba e runs i).isSome

variable {e runs}

/-- A WRITE puts to the driver blocks of its own range, which starts at the mark or
above. -/
lemma sent_issued (hwm : Nat) (x : Write) {b : Nat} (hb : b ∈ (sent e runs hwm x).issued) :
    ∃ i, dataLba e runs i = some b ∧ hwm ≤ i * dataPayload ∧ i * dataPayload < x.offset + x.len := by
  unfold sent at hb
  split at hb
  · cases hb
  refine sendRuns_issued (P := fun b => ∃ i, dataLba e runs i = some b ∧ hwm ≤ i * dataPayload ∧
    i * dataPayload < x.offset + x.len) ?_ (by simp) b hb
  intro i hi a ha
  have hlt := mem_range.mp hi
  simp only [dataPayload] at *
  exact ⟨_, ha, by omega, by omega⟩

lemma sent_landed_subset (hwm : Nat) (x : Write) :
    (sent e runs hwm x).landed ⊆ (sent e runs hwm x).issued := by
  unfold sent
  split
  · exact fun b hb => hb
  · exact sendRuns_induct (Q := fun s => s.landed ⊆ s.issued) (fun b hb => hb) (fun _ b hb => hb)
      fun _ _ _ _ => blockWriteRun_landed

/-- A whole WRITE succeeds or writes nothing. -/
lemma Write.Whole.sent {x : Write} (h : x.Whole) (hcover : Covered e runs)
    (hfits : x.offset + x.len < 2 ^ 64) (hwm : Nat) :
    (sent e runs hwm x).ok = true ∨ (sent e runs hwm x).landed = [] := by
  unfold Append.sent
  split
  · exact .inr rfl
  next hgo =>
    rcases h with hok | hnone
    · refine .inl (sendRuns_induct (Q := fun s => s.ok = true) rfl ?_ fun k _ _ rest hrest => ?_)
      · -- every block of the chunk is one of the file's
        rintro ⟨i, hi, hi'⟩
        have hlt := mem_range.mp hi
        have hsome := hcover (x.offset / dataPayload + i) (by
          rw [Nat.mod_eq_of_lt hfits] at hgo
          simp only [dataPayload] at *
          omega)
        rw [hi'] at hsome
        cases hsome
      · rw [blockWriteRun, if_pos (hok k)]
        exact hrest
    · refine .inr (sendRuns_induct (Q := fun s => s.landed = []) rfl (fun _ => rfl)
        fun k lba n rest hrest => ?_)
      have hland : (x.answer k).landed lba n = [] := by simp [Answer.landed, hnone k]
      unfold blockWriteRun
      split
      · rw [hland, hrest, nil_append]
      · exact hland

lemma Whole.landed_below {m : Mark} (hcover : Covered e runs) (h : Whole e runs m) :
    ∀ b ∈ m.landed, ∃ i, dataLba e runs i = some b ∧ i * dataPayload < m.hwm := by
  induction h with
  | opened => simp
  | @write m x hm hfits hwhole ih =>
    intro b hb
    rcases mem_append.mp hb with hold | hnew
    · obtain ⟨i, hi, hlt⟩ := ih b hold
      refine ⟨i, hi, hlt.trans_le ?_⟩
      show m.hwm ≤ ite _ _ _
      split <;> omega
    · rcases hwhole.sent hcover hfits m.hwm with hok | hnil
      · obtain ⟨i, hi, -, hlt⟩ := sent_issued m.hwm x (sent_landed_subset m.hwm x hnew)
        refine ⟨i, hi, ?_⟩
        show i * dataPayload < ite _ _ _
        rw [if_pos hok]
        omega
      · rw [hnil] at hnew
        cases hnew

/-- **No block is put to the driver again** that it wrote for an earlier WRITE. -/
theorem append_only_forward (hruns : ∀ l, runs = some l → (runBlocks l).Nodup)
    (hcover : Covered e runs) {m : Mark} (h : Whole e runs m) (x : Write) :
    ∀ b ∈ (sent e runs m.hwm x).issued, b ∉ m.landed := by
  intro b hb hlanded
  obtain ⟨i, hi, hmark, -⟩ := sent_issued m.hwm x hb
  obtain ⟨j, hj, hbelow⟩ := h.landed_below hcover b hlanded
  obtain rfl := dataLba_inj hruns hi hj
  omega

/-- A request that is done, and one of which nothing is. -/
def done : Answer := ⟨fun _ => true, true⟩

def undone : Answer := ⟨fun _ => false, false⟩

/-- A fragmented file of two data blocks, apart from each other. -/
def log : Entry := ⟨itypeFileFrag, false, 1016, 30, 1, none⟩

def apart : Option (List (Nat × Nat)) := some [(10, 1), (20, 1)]

/-- The first block, after a WRITE that failed, and then the second. -/
theorem append_only_forward_log :
    20 ∈ (sent log apart 508 ⟨508, 508, false, fun _ => done⟩).issued ∧ 20 ∉ [10] := by
  have hissued : 20 ∈ (sent log apart 508 ⟨508, 508, false, fun _ => done⟩).issued := by decide
  exact ⟨hissued, append_only_forward (by rintro _ ⟨⟩; decide) (by unfold Covered; decide)
    (.write ⟨0, 508, false, fun _ => done⟩
      (.write ⟨0, 1016, false, fun _ => undone⟩ .opened (by decide) (.inr fun _ _ => rfl))
      (by decide) (.inl fun _ => rfl)) _ 20 hissued⟩

/-- Both blocks in one WRITE, whose second request fails. -/
def torn : Write := ⟨0, 1016, false, fun k => if k = 0 then done else undone⟩

/-- The block that landed is written again. -/
theorem append_only_rewritten : (Mark.write log apart ⟨0, []⟩ torn).landed = [10] ∧
    10 ∈ (sent log apart (Mark.write log apart ⟨0, []⟩ torn).hwm torn).landed := by
  decide

end Godspeed.Gsfs.Append
