import Godspeed.Lib.Fallible
import Godspeed.Lib.Radix
import Godspeed.Memory.Allocator
import Mathlib.Data.Nat.Bitwise

/-!
# Four-level page tables

`arch/x86_64/page_tables.rs`.  An address space is the frame of its root table;
entries are 64-bit words with the address of a frame in bits 12 to 51 and flags
around it.  `map` walks three levels, allocating a table where an entry is not
present, and writes the last entry unless it is present already.

The memory of the machine is kept in two views, the frames that are used as
tables and those that are used as pages; a frame is cleared in its view before
its first use.  Nothing in `map` compares the address with the user half: the
entries 256 to 511 of every root are those of the running kernel, and a walk
that starts there goes through the tables that all address spaces share.

`Tree` says what is known as long as only user addresses were mapped: the
tables below the user entries were all allocated for this address space, and
every page that was mapped is found by the walk.
-/

namespace Godspeed.Memory

open Radix Function UInt64

/-- `PageFlags::PRESENT`. -/
def flagPresent : UInt64 := 1

/-- `PageFlags::WRITABLE`. -/
def flagWritable : UInt64 := 2

/-- `PageFlags::USER`. -/
def flagUser : UInt64 := 4

/-- `PageFlags::NO_EXEC`. -/
def flagNoExec : UInt64 := 0x8000000000000000

/-- `PAGE_SIZE_BIT`. -/
def pageSizeBit : UInt64 := 0x80

/-- `entry_phys`. -/
def entryPhys (entry : UInt64) : UInt64 := entry &&& 0x000FFFFFFFFFF000

/-- `entry_present`. -/
def entryPresent (entry : UInt64) : Bool := entry &&& flagPresent ≠ 0

/-- The first address above the user half. -/
def userEnd : UInt64 := 0x800000000000

/-- `pml4_idx`. -/
def pml4Idx (va : UInt64) : Nat := ((va >>> 39) &&& 0x1FF).toNat

/-- `pdpt_idx`. -/
def pdptIdx (va : UInt64) : Nat := ((va >>> 30) &&& 0x1FF).toNat

/-- `pd_idx`. -/
def pdIdx (va : UInt64) : Nat := ((va >>> 21) &&& 0x1FF).toNat

/-- `pt_idx`. -/
def ptIdx (va : UInt64) : Nat := ((va >>> 12) &&& 0x1FF).toNat

/-- `MapError`. -/
inductive MapError
  | frameAllocFailed
  | alreadyMapped
  | notMapped
  deriving DecidableEq, Repr

/-- How a call may end without a result. -/
inductive Halt (ε : Type)
  | panic
  | error (e : ε)
  deriving DecidableEq, Repr

/-- The frame allocator and the two views of memory. -/
structure Ram where
  frames : FrameAllocator
  tables : UInt64 → Nat → UInt64
  pages : UInt64 → Nat → UInt8

/-- A page that `map` was asked to map. -/
structure Mapping where
  va : UInt64
  phys : UInt64
  flags : UInt64
  deriving DecidableEq, Repr

/-- `PageTable`, with the record of what was mapped through it, which no function
reads. -/
structure PageTable where
  root : UInt64
  mapped : List Mapping

variable (m : Ram) (phys : UInt64) (a : UInt64)

namespace Ram

/-- `alloc_frame`. -/
def allocFrame {ε : Type} (m : Ram) (exhausted : ε) : Except (Halt ε) (Ram × UInt64) :=
  match m.frames.alloc with
  | none => .error .panic
  | some (_, none) => .error (.error exhausted)
  | some (frames, some phys) => .ok ({ m with frames := frames }, phys)

/-- Write a frame that is used as a page. -/
def writePage (page : Nat → UInt8) : Ram :=
  { m with pages := update m.pages phys page }

@[simp] lemma writePage_same (page : Nat → UInt8) :
    (m.writePage phys page).pages phys = page := by
  simp [writePage]

lemma writePage_of_ne {phys other : UInt64} (page : Nat → UInt8)
    (h : other ≠ phys) : (m.writePage phys page).pages other = m.pages other := by
  simp [writePage, h]

/-- `walk_or_alloc`. -/
def walkOrAlloc (table : UInt64) (idx : Nat) (flags : UInt64) :
    Except (Halt MapError) (Ram × UInt64) :=
  if entryPresent (m.tables table idx) then
    if m.tables table idx &&& pageSizeBit ≠ 0 then .error (.error .alreadyMapped)
    else .ok (m, entryPhys (m.tables table idx))
  else
    match m.allocFrame MapError.frameAllocFailed with
    | .error e => .error e
    | .ok (m, child) =>
      .ok ({ m with tables := graft m.tables table idx child 0 (child ||| flags) }, child)

/-- The last level of `map`. -/
def mapEntry (pt : PageTable) (table : UInt64) (va phys flags : UInt64) :
    Except (Halt MapError) (Ram × PageTable) :=
  if entryPresent (m.tables table (ptIdx va)) then .error (.error .alreadyMapped)
  else
    .ok ({ m with tables := write m.tables table (ptIdx va) ((phys &&& ~~~0xFFF) ||| flags) },
      { pt with mapped := ⟨va, phys, flags⟩ :: pt.mapped })

/-- The flags of the intermediate entries. -/
def interFlags (va : UInt64) : UInt64 :=
  flagPresent ||| flagWritable ||| (if va < userEnd then flagUser else 0)

/-- `PageTable::map`. -/
def map (pt : PageTable) (va phys flags : UInt64) : Except (Halt MapError) (Ram × PageTable) := do
  let (m, pdpt) ← m.walkOrAlloc pt.root (pml4Idx va) (interFlags va)
  let (m, pd) ← m.walkOrAlloc pdpt (pdptIdx va) (interFlags va)
  let (m, table) ← m.walkOrAlloc pd (pdIdx va) (interFlags va)
  m.mapEntry pt table va phys flags

/-- `PageTable::new`, with the page-table base register of the running task. -/
def newTable (cr3 : UInt64) : Except (Halt MapError) (Ram × PageTable) :=
  match m.allocFrame MapError.frameAllocFailed with
  | .error e => .error e
  | .ok (m, root) =>
    .ok ({ m with
      tables := update m.tables root fun i =>
        if 256 ≤ i ∧ i < 512 then clear m.tables root 0 (cr3 &&& ~~~0xFFF) i else 0 },
      ⟨root, []⟩)

end Ram

def tableOf (entry : UInt64) : Option UInt64 :=
  if entryPresent entry ∧ entry &&& pageSizeBit = 0 then some (entryPhys entry) else none

/-- The indices of the three tables below the root that an address goes through. -/
def tablePath (va : UInt64) : List Nat := [pml4Idx va, pdptIdx va, pdIdx va]

/-- Paths that start with an entry of the user half. -/
def UserPath (p : List Nat) : Prop := p.length ≤ 3 ∧ ∀ i ∈ p.head?, i < 256

namespace Ram

/-- The addresses of the frames the allocator may hand out. -/
def Available : Prop := ∃ idx ∈ m.frames.pool, phys = framePhys idx

/-- Physical addresses have at most 52 bits. -/
def Addressable : Prop := ∀ idx ∈ m.frames.pool, idx < 2 ^ 40

/-- The entry of the last level for an address. -/
def entryFor (root va : UInt64) : Option UInt64 :=
  (follow tableOf m.tables root (tablePath va)).map fun table => m.tables table (ptIdx va)

/-- Frames leave the pool only, and pages are left alone. -/
structure Grows (m m' : Ram) : Prop where
  pages_eq : m'.pages = m.pages
  available : ∀ phys, m'.Available phys → m.Available phys
  addressable : m.Addressable → m'.Addressable

/-- What is known of an address space into which only user pages were mapped,
starting from the memory `m₀`. -/
structure Tree (m₀ m : Ram) (pt : PageTable) (label : UInt64 → Option (List Nat)) : Prop where
  labelled : Labelled tableOf UserPath m.tables pt.root label
  addressable : m.Addressable
  available : ∀ phys, m.Available phys → m₀.Available phys
  used : ∀ t p, label t = some p → m₀.Available t ∧ ¬ m.Available t
  kept : ∀ t, ¬ m₀.Available t → m.tables t = m₀.tables t
  user : ∀ x ∈ pt.mapped, x.va < userEnd
  found : ∀ x ∈ pt.mapped, m.entryFor pt.root x.va = some ((x.phys &&& ~~~0xFFF) ||| x.flags)
  present : ∀ x ∈ pt.mapped, entryPresent ((x.phys &&& ~~~0xFFF) ||| x.flags) = true

end Ram

section Bits

lemma and_high (x w k : Nat) : x &&& ((2 ^ w - 1) <<< k) = ((x >>> k) % 2 ^ w) <<< k := by
  refine Nat.eq_of_testBit_eq fun i => ?_
  simp only [Nat.testBit_shiftLeft]
  by_cases h : k ≤ i
  · have hsum : k + (i - k) = i := by omega
    simp [h, Bool.and_comm]
  · simp [h]

lemma toNat_and_not_low : (a &&& ~~~0xFFF).toNat = a.toNat / 4096 * 4096 := by
  rw [UInt64.toNat_and, show (~~~(0xFFF : UInt64)).toNat = (2 ^ 52 - 1) <<< 12 from rfl, and_high]
  have hlt := a.toNat_lt
  omega

lemma toNat_entryPhys : (entryPhys a).toNat = a.toNat / 4096 % 2 ^ 40 * 4096 := by
  rw [entryPhys, UInt64.toNat_and,
    show (0x000FFFFFFFFFF000 : UInt64).toNat = (2 ^ 40 - 1) <<< 12 from rfl, and_high]
  simp only [Nat.shiftRight_eq_div_pow, Nat.shiftLeft_eq]

lemma or_and_distrib (a b m : UInt64) : (a ||| b) &&& m = (a &&& m) ||| (b &&& m) := by
  apply UInt64.toNat_inj.mp
  simp only [UInt64.toNat_or]
  exact Nat.and_or_distrib_right _ _ _

variable {idx : Nat}

lemma toNat_framePhys (h : idx < 2 ^ 40) : (framePhys idx).toNat = idx * 4096 := by
  have hidx : (ofNat idx).toNat = idx := toNat_ofNat_of_lt' (by simp only [size]; omega)
  have hframe : frameSize.toNat = 4096 := rfl
  rw [framePhys, UInt64.toNat_mul, hidx, hframe]
  exact Nat.mod_eq_of_lt (by omega)

lemma framePhys_inj {i j : Nat} (hi : i < 2 ^ 40) (hj : j < 2 ^ 40)
    (h : framePhys i = framePhys j) : i = j := by
  have hnat := congrArg toNat h
  rw [toNat_framePhys hi, toNat_framePhys hj] at hnat
  omega

lemma framePhys_and_not_low (h : idx < 2 ^ 40) : framePhys idx &&& ~~~0xFFF = framePhys idx := by
  apply UInt64.toNat_inj.mp
  rw [toNat_and_not_low, toNat_framePhys h]
  omega

lemma entryPhys_or (h : idx < 2 ^ 40) {flags : UInt64} (hflags : flags &&& 0x000FFFFFFFFFF000 = 0) :
    entryPhys (framePhys idx ||| flags) = framePhys idx := by
  have hphys : entryPhys (framePhys idx) = framePhys idx := by
    apply UInt64.toNat_inj.mp
    rw [toNat_entryPhys, toNat_framePhys h]
    omega
  rw [entryPhys, or_and_distrib, hflags, UInt64.or_zero]
  exact hphys

lemma framePhys_and_low (h : idx < 2 ^ 40) {mask : UInt64} (hmask : mask < 4096) :
    framePhys idx &&& mask = 0 := by
  apply UInt64.toNat_inj.mp
  rw [UInt64.toNat_and, toNat_framePhys h]
  refine Nat.eq_of_testBit_eq fun i => ?_
  rw [Nat.testBit_and, show idx * 4096 = idx <<< 12 by rw [Nat.shiftLeft_eq]]
  by_cases hi : 12 ≤ i
  · have hlow : mask.toNat.testBit i = false := by
      refine Nat.testBit_lt_two_pow (lt_of_lt_of_le ?_ (Nat.pow_le_pow_right (by decide) hi))
      exact lt_iff_toNat_lt.mp hmask
    simp [hlow]
  · simp [hi]

lemma toNat_index {k : UInt64} (hk : k < 64) :
    ((a >>> k) &&& 0x1FF).toNat = a.toNat / 2 ^ k.toNat % 512 := by
  have hsmall : k.toNat % 64 = k.toNat := Nat.mod_eq_of_lt (lt_iff_toNat_lt.mp hk)
  rw [UInt64.toNat_and, UInt64.toNat_shiftRight, hsmall, Nat.shiftRight_eq_div_pow]
  exact Nat.and_two_pow_sub_one_eq_mod _ 9

end Bits

section Paths

variable {va : UInt64} {p q : List Nat} {i : Nat}

lemma userPath_of_append (p q : List Nat) (h : UserPath (p ++ q)) : UserPath p := by
  obtain ⟨hlen, hhead⟩ := h
  refine ⟨by simp only [List.length_append] at hlen; omega, fun i hi => hhead i ?_⟩
  cases p with
  | nil => cases hi
  | cons j p => exact hi

lemma pml4Idx_lt (h : va < userEnd) : pml4Idx va < 256 := by
  have hlt : va.toNat < 0x800000000000 := lt_iff_toNat_lt.mp h
  rw [pml4Idx, toNat_index va (by decide)]
  change va.toNat / 549755813888 % 512 < 256
  omega

lemma userPath_tablePath (h : va < userEnd) : UserPath (tablePath va) :=
  ⟨le_refl 3, by simpa [tablePath] using pml4Idx_lt h⟩

lemma not_userPath_append (va : UInt64) (j : Nat) : ¬ UserPath (tablePath va ++ [j]) := by
  rintro ⟨hlen, -⟩
  simp [tablePath] at hlen

lemma indices_eq {a b : UInt64} (h : a.toNat / 4096 = b.toNat / 4096) :
    tablePath a = tablePath b ∧ ptIdx a = ptIdx b := by
  simp only [tablePath, pml4Idx, pdptIdx, pdIdx, ptIdx, List.cons.injEq, and_true]
  rw [toNat_index a (by decide), toNat_index a (by decide), toNat_index a (by decide),
    toNat_index a (by decide), toNat_index b (by decide), toNat_index b (by decide),
    toNat_index b (by decide), toNat_index b (by decide)]
  change ((a.toNat / 549755813888 % 512 = b.toNat / 549755813888 % 512 ∧
      a.toNat / 1073741824 % 512 = b.toNat / 1073741824 % 512 ∧
      a.toNat / 2097152 % 512 = b.toNat / 2097152 % 512) ∧
    a.toNat / 4096 % 512 = b.toNat / 4096 % 512)
  omega

lemma tableOf_zero : tableOf 0 = none := by decide

lemma tableOf_pointer {idx : Nat} (h : idx < 2 ^ 40) (va : UInt64) :
    tableOf (framePhys idx ||| Ram.interFlags va) = some (framePhys idx) := by
  have hflags : Ram.interFlags va &&& 0x000FFFFFFFFFF000 = 0 ∧
      Ram.interFlags va &&& flagPresent = 1 ∧ Ram.interFlags va &&& pageSizeBit = 0 := by
    unfold Ram.interFlags
    split <;> decide
  have hpresent : entryPresent (framePhys idx ||| Ram.interFlags va) := by
    simp [entryPresent, or_and_distrib, hflags.2.1]
  have hsize : (framePhys idx ||| Ram.interFlags va) &&& pageSizeBit = 0 := by
    simp [or_and_distrib, hflags.2.2, framePhys_and_low h (show pageSizeBit < 4096 by decide)]
  rw [tableOf, if_pos ⟨hpresent, hsize⟩, entryPhys_or h hflags.1]

end Paths

namespace Ram

section Specification

variable {m₀ m m' : Ram} {pt pt' : PageTable} {label : UInt64 → Option (List Nat)}
  {table child va phys flags root : UInt64} {idx : Nat} {p : List Nat}

lemma Grows.refl (m : Ram) : Grows m m := ⟨rfl, fun _ h => h, fun h => h⟩

lemma Grows.trans {m'' : Ram} (h : Grows m m') (h' : Grows m' m'') : Grows m m'' :=
  ⟨h'.pages_eq.trans h.pages_eq, fun phys hphys => h.available phys (h'.available phys hphys),
    fun haddr => h'.addressable (h.addressable haddr)⟩

lemma allocFrame_eq_ok {ε : Type} {exhausted : ε} (h : m.allocFrame exhausted = .ok (m', phys)) :
    ∃ idx frames, idx ∈ m.frames.pool ∧ frames.pool = m.frames.pool.erase idx ∧
      m' = { m with frames := frames } ∧ phys = framePhys idx := by
  unfold allocFrame at h
  rcases m.frames.alloc_cases with ⟨hnone, -⟩ | ⟨-, -, -, hpanic⟩ | ⟨idx, frames, -, hsome, hshift, -⟩
  · rw [hnone] at h
    cases h
  · rw [hpanic] at h
    cases h
  rw [hsome] at h
  cases h
  refine ⟨idx, frames, hshift.out_subset (by simp), ?_, rfl, rfl⟩
  rw [hshift.pool_eq, Finset.union_empty, Finset.erase_eq]

/-- **`alloc_frame`** takes a frame that was available and is not any more. -/
theorem allocFrame_spec {ε : Type} {exhausted : ε} (haddr : m.Addressable)
    (h : m.allocFrame exhausted = .ok (m', phys)) :
    Grows m m' ∧ m'.tables = m.tables ∧ m.Available phys ∧ ¬ m'.Available phys ∧
      ∃ idx < 2 ^ 40, phys = framePhys idx := by
  obtain ⟨idx, frames, hidx, hpool, rfl, rfl⟩ := allocFrame_eq_ok h
  have hsub : ∀ i ∈ frames.pool, i ∈ m.frames.pool ∧ i ≠ idx := by
    intro i hi
    rw [hpool, Finset.mem_erase] at hi
    exact ⟨hi.2, hi.1⟩
  refine ⟨⟨rfl, ?_, ?_⟩, rfl, ⟨idx, hidx, rfl⟩, ?_, idx, haddr idx hidx, rfl⟩
  · rintro phys ⟨i, hi, rfl⟩
    exact ⟨i, (hsub i hi).1, rfl⟩
  · exact fun haddr i hi => haddr i (hsub i hi).1
  · rintro ⟨i, hi, heq⟩
    obtain ⟨hmem, hne⟩ := hsub i hi
    exact hne (framePhys_inj (haddr i hmem) (haddr idx hidx) heq.symm)

/-- The invariant speaks of the tables and of which frames are taken only. -/
lemma Tree.of_tables_eq (htree : Tree m₀ m pt label) (htables : m'.tables = m.tables)
    (havail : ∀ phys, m'.Available phys → m.Available phys) (haddr : m'.Addressable) :
    Tree m₀ m' pt label where
  labelled := htables ▸ htree.labelled
  addressable := haddr
  available := fun phys hphys => htree.available phys (havail phys hphys)
  used := fun t p ht =>
    ⟨(htree.used t p ht).1, fun hnow => (htree.used t p ht).2 (havail t hnow)⟩
  kept := fun t ht => htables ▸ htree.kept t ht
  user := htree.user
  found := by
    intro x hx
    rw [entryFor, htables]
    exact htree.found x hx
  present := htree.present

lemma walkOrAlloc_grows (haddr : m.Addressable)
    (h : m.walkOrAlloc table idx flags = .ok (m', child)) : Grows m m' := by
  unfold walkOrAlloc at h
  split at h
  · split at h
    · cases h
    · cases h
      exact .refl m
  · split at h
    · cases h
    rename_i m₁ child' halloc
    cases h
    obtain ⟨hgrows, -⟩ := allocFrame_spec haddr halloc
    exact ⟨hgrows.pages_eq, hgrows.available, hgrows.addressable⟩

lemma mapEntry_grows (h : m.mapEntry pt table va phys flags = .ok (m', pt')) :
    Grows m m' ∧ pt' = { pt with mapped := ⟨va, phys, flags⟩ :: pt.mapped } := by
  unfold mapEntry at h
  split at h
  · cases h
  · cases h
    exact ⟨⟨rfl, fun _ h => h, fun h => h⟩, rfl⟩

/-- **`map`**, wherever the address lies: it takes frames, leaves pages alone and
records the page. -/
theorem map_grows (haddr : m.Addressable) (h : m.map pt va phys flags = .ok (m', pt')) :
    Grows m m' ∧ pt' = { pt with mapped := ⟨va, phys, flags⟩ :: pt.mapped } := by
  unfold map at h
  obtain ⟨⟨m₁, pdpt⟩, hfirst, h⟩ := Fallible.bind_eq_ok h
  obtain ⟨⟨m₂, pd⟩, hsecond, h⟩ := Fallible.bind_eq_ok h
  obtain ⟨⟨m₃, last⟩, hthird, h⟩ := Fallible.bind_eq_ok h
  have hgrows₁ := walkOrAlloc_grows haddr hfirst
  have hgrows₂ := hgrows₁.trans (walkOrAlloc_grows (hgrows₁.addressable haddr) hsecond)
  have hgrows₃ := hgrows₂.trans (walkOrAlloc_grows (hgrows₂.addressable haddr) hthird)
  obtain ⟨hgrows, hlog⟩ := mapEntry_grows h
  exact ⟨hgrows₃.trans hgrows, hlog⟩

section

variable (htree : Tree m₀ m pt label)
include htree

/-- **`walk_or_alloc`** in the user half: it finds or makes the table below one
of the tree. -/
theorem walkOrAlloc_spec (htable : label table = some p) (hscope : UserPath (p ++ [idx]))
    (hwalk : follow tableOf m.tables pt.root p = some table)
    (h : m.walkOrAlloc table idx (interFlags va) = .ok (m', child)) :
    ∃ label', Tree m₀ m' pt label' ∧ label' child = some (p ++ [idx]) ∧
      follow tableOf m'.tables pt.root (p ++ [idx]) = some child := by
  unfold walkOrAlloc at h
  split at h
  next hpresent =>
    split at h
    · cases h
    rename_i hsize
    cases h
    have hchild : tableOf (m.tables table idx) = some (entryPhys (m.tables table idx)) := by
      rw [tableOf, if_pos ⟨hpresent, by simpa using hsize⟩]
    refine ⟨label, htree, htree.labelled.child table p idx _ htable hscope hchild, ?_⟩
    rw [follow_append, hwalk]
    simp [follow, hchild]
  next habsent =>
    split at h
    · cases h
    rename_i m₁ child' halloc
    cases h
    obtain ⟨hgrows, htables, havail, hgone, i, hi, rfl⟩ := allocFrame_spec htree.addressable halloc
    have hfresh : label (framePhys i) = none := by
      cases hlabel : label (framePhys i) with
      | none => rfl
      | some q => exact absurd havail (htree.used _ q hlabel).2
    have hvacant : tableOf (m.tables table idx) = none := by
      simp [tableOf, habsent]
    have hpointer := tableOf_pointer hi va
    refine ⟨update label (framePhys i) (some (p ++ [idx])), ?_, by simp, ?_⟩
    · exact
        { labelled := by
            rw [htables]
            exact htree.labelled.graft htable hfresh tableOf_zero hpointer
          addressable := hgrows.addressable htree.addressable
          available := fun phys hphys => htree.available phys (hgrows.available phys hphys)
          used := by
            intro t q ht
            by_cases hnew : t = framePhys i
            · subst hnew
              exact ⟨htree.available _ havail, hgone⟩
            · rw [update_of_ne hnew] at ht
              obtain ⟨hbefore, hnot⟩ := htree.used t q ht
              exact ⟨hbefore, fun hnow => hnot (hgrows.available t hnow)⟩
          kept := by
            intro t ht
            have hnew : t ≠ framePhys i := fun heq => ht (heq ▸ htree.available _ havail)
            have hold : t ≠ table := fun heq => ht (heq ▸ (htree.used _ p htable).1)
            rw [← htree.kept t ht, ← htables]
            exact graft_table_of_ne hnew hold
          user := htree.user
          found := by
            intro x hx
            have hfound := htree.found x hx
            obtain ⟨t, ht, hentry⟩ := Option.map_eq_some_iff.mp hfound
            have hpath := userPath_tablePath (htree.user x hx)
            have hlabel := htree.labelled.follow htree.labelled.root hpath ht
            -- the last table is neither the new one nor the one above it
            have hnew : t ≠ framePhys i := fun heq => by simp [← heq, hlabel] at hfresh
            have hold : t ≠ table := by
              rintro rfl
              have hlen := hscope.1
              cases hlabel.symm.trans htable
              simp at hlen
            refine Option.map_eq_some_iff.mpr ⟨t, ?_, ?_⟩
            · simp only [htables]
              exact htree.labelled.follow_graft 0 _ htree.labelled.root hpath hfresh hvacant ht
            · simp only [graft_table_of_ne hnew hold, htables]
              exact hentry
          present := htree.present }
    · simp only [htables]
      exact htree.labelled.follow_graft_self hscope hfresh hvacant hpointer hwalk

/-- The last level: the entry of the new page is written, and every older one is
another entry, because the slot was not present. -/
lemma mapEntry_spec (hva : va < userEnd) (htable : label table = some (tablePath va))
    (hwalk : follow tableOf m.tables pt.root (tablePath va) = some table)
    (hpresent : entryPresent ((phys &&& ~~~0xFFF) ||| flags))
    (h : m.mapEntry pt table va phys flags = .ok (m', pt')) :
    Tree m₀ m' pt' label := by
  unfold mapEntry at h
  split at h
  · cases h
  rename_i habsent
  cases h
  have hleaf := not_userPath_append va
  have hfollow : ∀ x : UInt64, x < userEnd →
      follow tableOf (write m.tables table (ptIdx va) ((phys &&& ~~~0xFFF) ||| flags))
        pt.root (tablePath x) = follow tableOf m.tables pt.root (tablePath x) :=
    fun x hx => htree.labelled.follow_write htable hleaf htree.labelled.root (userPath_tablePath hx)
  exact
    { labelled := htree.labelled.write htable hleaf
      addressable := htree.addressable
      available := htree.available
      used := htree.used
      kept := by
        intro t ht
        have hne : t ≠ table := fun heq => ht (heq ▸ (htree.used _ _ htable).1)
        rw [← htree.kept t ht]
        exact write_table_of_ne hne
      user := by
        intro x hx
        rcases List.mem_cons.mp hx with rfl | hx
        · exact hva
        · exact htree.user x hx
      found := by
        intro x hx
        rcases List.mem_cons.mp hx with rfl | hx
        · rw [entryFor, hfollow va hva, hwalk]
          simp [write_same]
        have hfound := htree.found x hx
        rw [entryFor] at hfound
        rw [entryFor, hfollow x.va (htree.user x hx)]
        obtain ⟨t, ht, hentry⟩ := Option.map_eq_some_iff.mp hfound
        have hother : ¬ (t = table ∧ ptIdx x.va = ptIdx va) := by
          rintro ⟨rfl, hslot⟩
          rw [← hslot, hentry, htree.present x hx] at habsent
          exact habsent rfl
        simp only [ht, Option.map_some, write_of_ne hother, hentry]
      present := by
        intro x hx
        rcases List.mem_cons.mp hx with rfl | hx
        · exact hpresent
        · exact htree.present x hx }

/-- **`map`** of a user address. -/
theorem map_spec (hva : va < userEnd) (hpresent : entryPresent ((phys &&& ~~~0xFFF) ||| flags))
    (h : m.map pt va phys flags = .ok (m', pt')) :
    ∃ label', Tree m₀ m' pt' label' := by
  unfold map at h
  obtain ⟨⟨m₁, pdpt⟩, hfirst, h⟩ := Fallible.bind_eq_ok h
  obtain ⟨⟨m₂, pd⟩, hsecond, h⟩ := Fallible.bind_eq_ok h
  obtain ⟨⟨m₃, last⟩, hthird, h⟩ := Fallible.bind_eq_ok h
  have hpath := userPath_tablePath hva
  obtain ⟨label₁, htree₁, hlabel₁, hwalk₁⟩ :=
    walkOrAlloc_spec htree htree.labelled.root (userPath_of_append [_] _ hpath) rfl hfirst
  obtain ⟨label₂, htree₂, hlabel₂, hwalk₂⟩ :=
    walkOrAlloc_spec htree₁ hlabel₁ (userPath_of_append [_, _] _ hpath) hwalk₁ hsecond
  obtain ⟨label₃, htree₃, hlabel₃, hwalk₃⟩ := walkOrAlloc_spec htree₂ hlabel₂ hpath hwalk₂ hthird
  exact ⟨label₃, mapEntry_spec htree₃ hva hlabel₃ hwalk₃ hpresent h⟩

end

/-- **`PageTable::new`** gives the tree that is only its root. -/
theorem newTable_spec {cr3 : UInt64} (haddr : m.Addressable) (h : m.newTable cr3 = .ok (m', pt)) :
    (∃ label, Tree m m' pt label) ∧ Grows m m' ∧ pt.mapped = [] := by
  unfold newTable at h
  split at h
  · cases h
  rename_i m₁ root halloc
  cases h
  obtain ⟨hgrows, htables, havail, hgone, -⟩ := allocFrame_spec haddr halloc
  have hgrows' : Grows m { m₁ with
      tables := update m₁.tables root fun i =>
        if 256 ≤ i ∧ i < 512 then clear m₁.tables root 0 (cr3 &&& ~~~0xFFF) i else 0 } :=
    ⟨hgrows.pages_eq, hgrows.available, hgrows.addressable⟩
  refine ⟨⟨update (fun _ => none) root (some []), ?_⟩, hgrows', rfl⟩
  have honly : ∀ t p, update (fun _ => none) root (some ([] : List Nat)) t = some p →
      t = root ∧ p = [] := by
    intro t p ht
    by_cases hroot : t = root
    · subst hroot
      simpa [eq_comm] using ht
    · rw [update_of_ne hroot] at ht
      cases ht
  exact
    { labelled :=
        { closed := userPath_of_append
          root := by simp
          child := by
            -- a user entry of the new root is empty
            intro t p i c ht hscope hchild
            obtain ⟨rfl, rfl⟩ := honly t p ht
            have hi : ¬ (256 ≤ i ∧ i < 512) := by
              have hlt : i < 256 := hscope.2 i (by simp)
              omega
            simp only [update_self, if_neg hi] at hchild
            cases hchild }
      addressable := hgrows.addressable haddr
      available := hgrows.available
      used := by
        intro t p ht
        obtain ⟨rfl, -⟩ := honly t p ht
        exact ⟨havail, hgone⟩
      kept := by
        intro t ht
        have hne : t ≠ root := fun heq => ht (heq ▸ havail)
        simp only [update_of_ne hne, htables]
      user := by simp
      found := by simp
      present := by simp }

end Specification

end Ram

end Godspeed.Memory
