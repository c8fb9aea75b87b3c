import Godspeed.Gsfs.Serve

/-!
# What a structural write does

A structural write either finds room in the transaction (or goes to the disk, if no
transaction is open) and is then read back (`World.wrote`), or it is dropped and the
transaction is marked (`World.dropped`).  What no part of a request changes, the
geometry of the volume and what comes from outside, is its `Setting`; the programs
of the allocator and the directories keep it (`Quiet`).
-/

namespace Godspeed.Gsfs

open Word Prog Function List World

/-- What the parts of a request do not change. -/
structure Setting where
  totalBlocks : Nat
  bitmapStart : Nat
  dataStart : Nat
  journalStart : Nat
  readOnly : Bool
  quiescedUntil : Int
  txnActive : Bool
  now : Nat
  flush : Nat → Bool
  fault : Nat → Nat → Bool

def World.setting (w : World) : Setting where
  totalBlocks := w.fs.totalBlocks
  bitmapStart := w.fs.bitmapStart
  dataStart := w.fs.dataStart
  journalStart := w.fs.journalStart
  readOnly := w.fs.readOnly
  quiescedUntil := w.fs.quiescedUntil
  txnActive := w.fs.txnActive
  now := w.now
  flush := w.flush
  fault := w.fault

lemma World.setting_ends (w : World) :
    w.setting.dataStart = w.fs.dataStart ∧ w.setting.totalBlocks = w.fs.totalBlocks := ⟨rfl, rfl⟩

section Staging

variable {staged staged' : List (Nat × Block)} {lba : Nat} {b : Block}

lemma lookup_map_staged (l : Nat) :
    (staged.map fun e => if e.1 = lba then (lba, b) else e).lookup l =
      if l = lba ∧ staged.any (fun e => e.1 == lba) = true then some b else staged.lookup l := by
  induction staged with
  | nil => simp
  | cons e staged ih =>
    obtain ⟨k, v⟩ := e
    rw [map_cons, any_cons]
    by_cases hk : k = lba
    · subst hk
      rw [if_pos rfl, lookup_cons, lookup_cons]
      by_cases hl : l = k
      · subst hl
        simp
      · have hbeq : (l == k) = false := beq_eq_false_iff_ne.mpr hl
        rw [hbeq, if_neg fun h => hl h.1, ih, if_neg fun h => hl h.1]
    · rw [if_neg hk, lookup_cons, lookup_cons]
      have hkb : (k == lba) = false := beq_eq_false_iff_ne.mpr hk
      by_cases hl : l = k
      · subst hl
        rw [beq_self_eq_true, if_neg fun h => hk h.1]
      · have hbeq : (l == k) = false := beq_eq_false_iff_ne.mpr hl
        rw [hbeq, hkb]
        exact ih

lemma lookup_append_staged (hnew : staged.any (fun e => e.1 == lba) = false) (l : Nat) :
    (staged ++ [(lba, b)]).lookup l = if l = lba then some b else staged.lookup l := by
  induction staged with
  | nil =>
    rw [nil_append, lookup_cons]
    by_cases hl : l = lba
    · subst hl
      simp
    · rw [if_neg hl, beq_eq_false_iff_ne.mpr hl]
  | cons e staged ih =>
    obtain ⟨k, v⟩ := e
    rw [any_cons, Bool.or_eq_false_iff] at hnew
    have hk : k ≠ lba := beq_eq_false_iff_ne.mp hnew.1
    rw [cons_append, lookup_cons, lookup_cons]
    by_cases hl : l = k
    · subst hl
      rw [beq_self_eq_true, if_neg hk]
    · rw [beq_eq_false_iff_ne.mpr hl]
      exact ih hnew.2

lemma lookup_of_stage (h : stage staged lba b = some staged') (l : Nat) :
    staged'.lookup l = if l = lba then some b else staged.lookup l := by
  unfold stage at h
  by_cases hany : staged.any (fun e => e.1 == lba)
  · rw [if_pos hany] at h
    cases h
    rw [lookup_map_staged]
    simp [hany]
  · rw [if_neg hany] at h
    by_cases hfull : txnCap ≤ staged.length
    · rw [if_pos hfull] at h
      cases h
    · rw [if_neg hfull] at h
      cases h
      exact lookup_append_staged (Bool.eq_false_iff.mpr hany) l

end Staging

namespace World

variable {w w' : World} {lba : Nat} {b : Block}

/-- The world after a structural write that found room. -/
def wrote (w : World) (lba : Nat) (b : Block) : World :=
  if w.fs.txnActive then
    w.onFs fun fs => { fs with walkCache := none, staged := (stage fs.staged lba b).getD fs.staged }
  else (w.onFs fun fs => { fs with walkCache := none }).blockWrite lba b

/-- The world after a structural write that found no room. -/
def dropped (w : World) : World := w.onFs fun fs => { fs with walkCache := none, txnOverflow := true }

def hasRoom (w : World) (lba : Nat) : Bool :=
  !w.fs.txnActive || w.fs.staged.any (fun e => e.1 == lba) || w.fs.staged.length < txnCap

lemma stage_isSome (hroom : w.hasRoom lba) (hopen : w.fs.txnActive) :
    ∃ staged', stage w.fs.staged lba b = some staged' := by
  unfold hasRoom at hroom
  rw [hopen, Bool.not_true, Bool.false_or] at hroom
  unfold stage
  by_cases hany : w.fs.staged.any (fun e => e.1 == lba)
  · rw [if_pos hany]
    exact ⟨_, rfl⟩
  · rw [Bool.eq_false_iff.mpr hany, Bool.false_or, decide_eq_true_eq] at hroom
    rw [if_neg hany, if_neg (Nat.not_le_of_lt hroom)]
    exact ⟨_, rfl⟩

/-- **A write is read back**, whether it is staged or goes to the disk. -/
theorem read_wrote (hroom : w.hasRoom lba) : (w.wrote lba b).read = update w.read lba b := by
  funext l
  by_cases hopen : w.fs.txnActive
  · obtain ⟨staged', hstage⟩ := stage_isSome (b := b) hroom hopen
    have hread : (w.wrote lba b).read l = (staged'.lookup l).getD (w.disk l) := by
      unfold wrote read
      simp only [onFs, hopen, if_true, hstage, Option.getD_some]
    rw [hread, lookup_of_stage hstage]
    by_cases hl : l = lba
    · subst hl
      rw [if_pos rfl, update_self, Option.getD_some]
    · rw [if_neg hl, update_of_ne hl, read, if_pos hopen]
  · have hread : (w.wrote lba b).read l = update w.disk lba b l := by
      unfold wrote read
      simp only [onFs, hopen]
      rfl
    rw [hread]
    by_cases hl : l = lba
    · subst hl
      rw [update_self, update_self]
    · rw [update_of_ne hl, update_of_ne hl, read, if_neg hopen]

/-- A write changes nothing of the volume but what is staged and remembered. -/
lemma fs_wrote : (w.wrote lba b).fs = { w.fs with
      walkCache := none
      staged := if w.fs.txnActive then (stage w.fs.staged lba b).getD w.fs.staged else w.fs.staged } := by
  unfold wrote
  by_cases hopen : w.fs.txnActive
  · rw [if_pos hopen, if_pos hopen]
    rfl
  · rw [if_neg hopen, if_neg hopen]
    rfl

lemma setting_wrote : (w.wrote lba b).setting = w.setting := by
  unfold wrote
  split <;> rfl

lemma disk_wrote_closed (hopen : w.fs.txnActive = false) :
    (w.wrote lba b).disk = update w.disk lba b ∧ (w.wrote lba b).log = w.log ++ [(lba, b)] := by
  unfold wrote
  rw [hopen]
  exact ⟨rfl, rfl⟩

@[simp] lemma fs_ticked : w.ticked.fs = w.fs := rfl

end World

lemma tbWrite_eq (lba : Nat) (b : Block) (w : World) : tbWrite lba b w =
      if w.hasRoom lba = true then (.ok true, w.wrote lba b) else (.ok false, w.dropped) := by
  by_cases hopen : w.fs.txnActive
  · by_cases hroom : w.hasRoom lba
    · obtain ⟨staged', hstage⟩ := stage_isSome (b := b) hroom hopen
      rw [if_pos hroom, wrote]
      simp [tbWrite, onFs, hopen, hstage]
    · rw [if_neg hroom]
      have hnone : stage w.fs.staged lba b = none := by
        unfold hasRoom at hroom
        rw [hopen, Bool.not_true, Bool.false_or] at hroom
        simp only [Bool.or_eq_true, decide_eq_true_eq, not_or, not_lt] at hroom
        unfold stage
        rw [if_neg hroom.1, if_pos hroom.2]
      simp [tbWrite, dropped, onFs, hopen, hnone]
  · have hroom : w.hasRoom lba := by
      unfold hasRoom
      simp [hopen]
    rw [if_pos hroom, wrote]
    unfold tbWrite
    simp only [onFs, hopen]
    rfl

section Rules

variable {w : World} {lba : Nat} {b : Block} {e : Refusal} {E : Refusal → World → Prop}

lemma run_tbWrite {Q : Bool → World → Prop} : Run (tbWrite lba b) w Q E ↔
      (w.hasRoom lba → Q true (w.wrote lba b)) ∧ (w.hasRoom lba = false → Q false w.dropped) := by
  unfold Run
  rw [tbWrite_eq]
  by_cases hroom : w.hasRoom lba
  · simp [hroom]
  · simp [hroom]

/-- **A structural write** is read back afterwards, or refused for want of room. -/
theorem run_tbWriteOr {Q : Unit → World → Prop} : Run (tbWriteOr lba b e) w Q E ↔
      (w.hasRoom lba → Q () (w.wrote lba b)) ∧ (w.hasRoom lba = false → E e w.dropped) := by
  unfold tbWriteOr
  rw [run_bind, run_tbWrite]
  simp [run_require]

lemma run_scan {α : Type} {f : (Nat → Block) → α} {Q : α → World → Prop} :
    Run (scan f) w Q E ↔ Q (f w.sight) w.ticked := Iff.rfl

lemma scan_bind_apply {α β : Type} {f : (Nat → Block) → α} {k : α → FsM β} :
    (scan f >>= k) w = k (f w.sight) w.ticked := rfl

lemma run_tbReadOr {Q : Block → World → Prop} : Run (tbReadOr lba e) w Q E ↔
      (w.faulty lba = false → Q (w.read lba) w.ticked) ∧ (w.faulty lba → E e w.ticked) := by
  unfold Run tbReadOr
  by_cases h : w.faulty lba
  · simp [h]
  · simp [h]

end Rules

end Godspeed.Gsfs
