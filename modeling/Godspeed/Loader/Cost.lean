import Godspeed.Loader.Safety

/-!
# What a load costs

`loadFromLeaves` is the frame allocator after `load_from`, also when it fails: nothing is
given back then, since neither a frame nor a page table has a destructor.  A load that is
refused after its header was accepted has taken the root table at least.

The charge of a segment is `va_end - va_start` in 64-bit words, and the loop maps a page
for each 4096 bytes of it unless the difference is negative.
-/

namespace Godspeed.Loader

open Godspeed.Memory Fallible List

/-- The frames that a `map` which fails leaves. -/
def mapLeaves (m : Ram) (pt : PageTable) (va : UInt64) : FrameAllocator :=
  match m.walkOrAlloc pt.root (pml4Idx va) (Ram.interFlags va) with
  | .error _ => m.frames
  | .ok (m, pdpt) =>
    match m.walkOrAlloc pdpt (pdptIdx va) (Ram.interFlags va) with
    | .error _ => m.frames
    | .ok (m, pd) =>
      match m.walkOrAlloc pd (pdIdx va) (Ram.interFlags va) with
      | .error _ => m.frames
      | .ok (m, _) => m.frames

variable (src : ImageSource)

def pageLeaves (ph : NormPhdr) (st : Progress) (va : UInt64) : FrameAllocator :=
  match st.ram.allocFrame LoadError.frameAllocFailed with
  | .error _ => st.ram.frames
  | .ok (ram, phys) =>
    match pageContent src ph va with
    | .error _ => ram.frames
    | .ok page => mapLeaves (ram.writePage phys page) st.pt va

def segmentLeaves (st : Progress) (ph : NormPhdr) : FrameAllocator :=
  if ph.pType ≠ ptLoad ∨ ph.pMemsz < ph.pFilesz then st.ram.frames
  else
    match checkedAdd ph.pOffset.toNat ph.pFilesz.toNat with
    | none => st.ram.frames
    | some stop =>
      if src.len < stop then st.ram.frames
      else leaves (mapPage src ph) (pageLeaves src ph) (·.ram.frames) ph.pages st

def headerLeaves (bytes : List UInt8) (ehdr : NormEhdr) (st : Progress) (i : Nat) :
    FrameAllocator :=
  match headerOffset ehdr bytes.length i with
  | .error _ => st.ram.frames
  | .ok off => segmentLeaves src st (readPhdr bytes off elfClass)

/-- The frames after `load_from`, however it ends. -/
def loadFromLeaves (m : Ram) (cr3 : UInt64) : FrameAllocator :=
  match checkHeader src, m.newTable cr3 with
  | .ok (bytes, ehdr), .ok (ram, pt) =>
    leaves (loadHeader src bytes ehdr) (headerLeaves src bytes ehdr) (·.ram.frames)
      (List.range ehdr.ePhnum.toNat) ⟨ram, pt, 0⟩
  | _, _ => m.frames

/-- What a segment is charged beyond its pages: the difference of its ends, if it is
negative. -/
def NormPhdr.excess (ph : NormPhdr) : Nat :=
  if ph.vaEnd < ph.vaStart then (ph.vaEnd - ph.vaStart).toNat else 0

def ImageSource.excess (src : ImageSource) : Nat := (src.segments.map NormPhdr.excess).sum

section Frames

variable {m m' : Ram} {pt pt' : PageTable} {va phys flags table : UInt64} {idx : Nat}
  {src : ImageSource} {ph : NormPhdr} {st st' : Progress}

/-- The number of free frames. -/
abbrev free (a : FrameAllocator) : Nat := a.pool.card

lemma free_allocFrame {ε : Type} {exhausted : ε} (h : m.allocFrame exhausted = .ok (m', phys)) :
    free m'.frames + 1 = free m.frames := by
  obtain ⟨idx, frames, hidx, hpool, rfl, rfl⟩ := Ram.allocFrame_eq_ok h
  show frames.pool.card + 1 = _
  rw [hpool, Finset.card_erase_add_one hidx]

lemma free_walkOrAlloc (h : m.walkOrAlloc table idx flags = .ok (m', phys)) :
    free m'.frames ≤ free m.frames := by
  unfold Ram.walkOrAlloc at h
  split at h
  · split at h <;> cases h
    exact le_rfl
  split at h
  · cases h
  next halloc =>
    cases h
    exact Nat.le_of_succ_le (free_allocFrame halloc).le

lemma free_map (h : m.map pt va phys flags = .ok (m', pt')) :
    free m'.frames ≤ free m.frames ∧ pt'.mapped.length = pt.mapped.length + 1 := by
  unfold Ram.map at h
  obtain ⟨⟨m₁, pdpt⟩, hfirst, h⟩ := bind_eq_ok h
  obtain ⟨⟨m₂, pd⟩, hsecond, h⟩ := bind_eq_ok h
  obtain ⟨⟨m₃, last⟩, hthird, h⟩ := bind_eq_ok h
  have hfrees := (free_walkOrAlloc hthird).trans
    ((free_walkOrAlloc hsecond).trans (free_walkOrAlloc hfirst))
  have hentry : m₃.mapEntry pt last va phys flags = .ok (m', pt') := h
  unfold Ram.mapEntry at hentry
  split at hentry
  · cases hentry
  · cases hentry
    exact ⟨hfrees, rfl⟩

lemma free_mapLeaves (m : Ram) (pt : PageTable) (va : UInt64) :
    free (mapLeaves m pt va) ≤ free m.frames := by
  unfold mapLeaves
  split
  · exact le_rfl
  rename_i hfirst
  refine le_trans ?_ (free_walkOrAlloc hfirst)
  split
  · exact le_rfl
  rename_i hsecond
  refine le_trans ?_ (free_walkOrAlloc hsecond)
  split
  · exact le_rfl
  next hthird =>
    exact free_walkOrAlloc hthird

/-- What a part of a load comes to: the frames it took, the pages it recorded and what
it charged. -/
structure Draws (st : Progress) (pages charge : Nat) (st' : Progress) : Prop where
  free : free st'.ram.frames + pages ≤ free st.ram.frames
  mapped : st'.pt.mapped.length = st.pt.mapped.length + pages
  bytes : st'.mappedBytes.toNat = (st.mappedBytes.toNat + charge) % 2 ^ 64

lemma Draws.refl (st : Progress) : Draws st 0 0 st :=
  ⟨le_rfl, rfl, (Nat.mod_eq_of_lt st.mappedBytes.toNat_lt).symm⟩

lemma Draws.trans {st'' : Progress} {n c n' c' : Nat} (h : Draws st n c st')
    (h' : Draws st' n' c' st'') : Draws st (n + n') (c + c') st'' := by
  have hfree := h.free
  have hfree' := h'.free
  refine ⟨by omega, by rw [h'.mapped, h.mapped, add_assoc], ?_⟩
  rw [h'.bytes, h.bytes, Nat.mod_add_mod, add_assoc]

lemma mapPage_draws (h : mapPage src ph st va = .ok st') : Draws st 1 0 st' := by
  unfold mapPage at h
  obtain ⟨⟨ram, phys⟩, halloc, h⟩ := bind_eq_ok h
  obtain ⟨page, -, h⟩ := bind_eq_ok h
  obtain ⟨⟨ram', pt'⟩, hmap, h⟩ := bind_eq_ok h
  cases h
  obtain ⟨hfree, hlen⟩ := free_map (mapError_eq_ok hmap)
  exact ⟨(Nat.add_le_add_right hfree 1).trans (free_allocFrame halloc).le, hlen,
    (Draws.refl st).bytes⟩

lemma free_pageLeaves : free (pageLeaves src ph st va) ≤ free st.ram.frames := by
  unfold pageLeaves
  split
  · exact le_rfl
  rename_i halloc
  refine le_trans ?_ (Nat.le_of_succ_le (free_allocFrame halloc).le)
  split
  · exact le_rfl
  · exact free_mapLeaves _ _ _

lemma pages_draw {vas : List UInt64} (h : vas.foldlM (mapPage src ph) st = .ok st') :
    Draws st vas.length 0 st' := by
  refine foldlM_invariant (fun past t => Draws st past.length 0 t) ?_ (Draws.refl st) h
  intro past va s t hs hpage
  rw [length_append]
  exact hs.trans (mapPage_draws hpage)

end Frames

section Charge

variable {src : ImageSource} {m m' : Ram} {ph : NormPhdr} {st st' : Progress} {cr3 : UInt64}
  {bytes : List UInt8} {ehdr : NormEhdr} {elf : LoadedElf}

lemma charge_eq (ph : NormPhdr) :
    (ph.vaEnd - ph.vaStart).toNat = 4096 * ph.pages.length + ph.excess := by
  have hstart : 4096 ∣ ph.vaStart.toNat := dvd_page _
  have hend : 4096 ∣ ph.vaEnd.toNat := dvd_page _
  have hlen := congrArg length (map_pages ph)
  rw [length_map, length_range'] at hlen
  have hbytes : 4096 * ph.pages.length = ph.vaEnd.toNat - ph.vaStart.toNat := by omega
  rw [hbytes, NormPhdr.excess]
  split
  next hless =>
    have hless' := UInt64.lt_iff_toNat_lt.mp hless
    omega
  next hless =>
    exact toNat_sub_of_le (UInt64.not_lt.mp hless)

lemma loadSegment_draws (h : loadSegment src st ph = .ok st') :
    ∃ n, Draws st n (4096 * n + if ph.pType = ptLoad then ph.excess else 0) st' := by
  unfold loadSegment at h
  split at h
  next hother =>
    cases h
    rw [if_neg hother]
    exact ⟨0, .refl st⟩
  rename_i hload
  split at h
  · cases h
  split at h
  · cases h
  split at h
  · cases h
  obtain ⟨st₁, hpages, h⟩ := bind_eq_ok h
  cases h
  have hdraws := pages_draw hpages
  rw [if_pos (not_not.mp hload)]
  refine ⟨ph.pages.length, hdraws.free, hdraws.mapped, ?_⟩
  rw [← charge_eq, UInt64.toNat_add, hdraws.bytes, Nat.mod_add_mod, add_zero]

lemma loadHeader_draws {i : Nat} (h : loadHeader src bytes ehdr st i = .ok st') :
    ∃ n, Draws st n (4096 * n + ((segmentsAt bytes ehdr [i]).map NormPhdr.excess).sum) st' := by
  unfold loadHeader at h
  obtain ⟨off, hoff, h⟩ := bind_eq_ok h
  rw [headerOffset_eq_ok hoff] at h
  obtain ⟨n, hdraws⟩ := loadSegment_draws h
  refine ⟨n, ?_⟩
  convert hdraws using 2
  by_cases hload : (readPhdr bytes (ehdr.ePhoff.toNat + i * ehdr.ePhentsize.toNat) elfClass).pType =
      ptLoad <;> simp [segmentsAt, hload]

lemma headers_draw {is : List Nat} (h : is.foldlM (loadHeader src bytes ehdr) st = .ok st') :
    ∃ n, Draws st n (4096 * n + ((segmentsAt bytes ehdr is).map NormPhdr.excess).sum) st' := by
  refine foldlM_invariant (fun past t => ∃ n, Draws st n (4096 * n +
    ((segmentsAt bytes ehdr past).map NormPhdr.excess).sum) t) ?_ ⟨0, .refl st⟩ h
  rintro past i s t ⟨n, hs⟩ hheader
  obtain ⟨n', ht⟩ := loadHeader_draws hheader
  refine ⟨n + n', ?_⟩
  convert hs.trans ht using 1
  simp only [segmentsAt, map_append, filter_append, sum_append]
  omega

lemma newTable_draws {pt : PageTable} (h : m.newTable cr3 = .ok (m', pt)) :
    free m'.frames + 1 = free m.frames ∧ pt.mapped = [] := by
  unfold Ram.newTable at h
  split at h
  · cases h
  rename_i halloc
  cases h
  have hfree := free_allocFrame halloc
  exact ⟨hfree, rfl⟩

lemma free_segmentLeaves : free (segmentLeaves src st ph) ≤ free st.ram.frames := by
  have hok : ∀ s va t, mapPage src ph s va = .ok t → free t.ram.frames ≤ free s.ram.frames :=
    fun _ _ _ hpage => (Nat.le_add_right _ _).trans (mapPage_draws hpage).free
  unfold segmentLeaves
  split
  · exact le_rfl
  split
  · exact le_rfl
  split
  · exact le_rfl
  · exact leaves_le free hok (fun _ _ => free_pageLeaves) _ st

lemma free_headerLeaves {i : Nat} : free (headerLeaves src bytes ehdr st i) ≤ free st.ram.frames := by
  unfold headerLeaves
  split
  · exact le_rfl
  · exact free_segmentLeaves

/-- A load that gets its root table keeps it. -/
lemma free_loadFromLeaves {ram : Ram} {pt : PageTable} (hcheck : checkHeader src = .ok (bytes, ehdr))
    (hnew : m.newTable cr3 = .ok (ram, pt)) : free (loadFromLeaves src m cr3) < free m.frames := by
  have hok : ∀ s i t, loadHeader src bytes ehdr s i = .ok t →
      free t.ram.frames ≤ free s.ram.frames := by
    intro s i t hheader
    obtain ⟨n, hdraws⟩ := loadHeader_draws hheader
    exact (Nat.le_add_right _ _).trans hdraws.free
  rw [loadFromLeaves, hcheck, hnew, ← (newTable_draws hnew).1, Nat.lt_succ_iff]
  exact leaves_le free hok (fun _ _ => free_headerLeaves) _ ⟨ram, pt, 0⟩

lemma loadFromLeaves_of_ok (h : loadFrom src m cr3 = .ok (m', elf)) :
    loadFromLeaves src m cr3 = m'.frames := by
  unfold loadFrom at h
  obtain ⟨⟨bytes, ehdr⟩, hcheck, h⟩ := bind_eq_ok h
  obtain ⟨⟨m₁, pt⟩, hnew, h⟩ := bind_eq_ok h
  obtain ⟨st, hloop, h⟩ := bind_eq_ok h
  cases h
  rw [loadFromLeaves, mapError_eq_ok hcheck, mapError_eq_ok hnew]
  exact leaves_of_ok hloop

lemma refused_costs_nothing_iff {e : LoadError} (h : loadFrom src m cr3 = .error (.error e)) :
    (loadFromLeaves src m cr3).pool = m.frames.pool ↔
      (∃ e, checkHeader src = .error e) ∨ m.frames.pool = ∅ := by
  cases hcheck : checkHeader src with
  | error e' => simp [loadFromLeaves, hcheck]
  | ok found =>
    cases hnew : m.newTable cr3 with
    | ok made =>
      have hless := free_loadFromLeaves hcheck hnew
      have hne : m.frames.pool ≠ ∅ := fun hnone => by simp [free, hnone] at hless
      simp only [hne, or_false, reduceCtorEq, exists_false, iff_false]
      exact fun heq => hless.ne (congrArg Finset.card heq)
    | error e' =>
      -- a panic of the allocator is no refusal
      have hempty : m.frames.pool = ∅ := by
        rcases m.frames.alloc_cases with ⟨-, hempty⟩ | ⟨-, -, -, hpanic⟩ | ⟨_, _, -, hsome, -⟩
        · exact hempty
        · simp [loadFrom, hcheck, Ram.newTable, Ram.allocFrame, hpanic, Except.mapError, ofMapError,
            bind, Except.bind] at h
        · simp [Ram.newTable, Ram.allocFrame, hsome] at hnew
      simp [loadFromLeaves, hnew, hempty]

lemma charged_exactly_iff (haddr : m.Addressable) (h : loadFrom src m cr3 = .ok (m', elf)) :
    elf.mappedBytes.toNat = 4096 * elf.pageTable.mapped.length ↔ 2 ^ 64 ∣ src.excess := by
  unfold loadFrom at h
  obtain ⟨⟨bytes, ehdr⟩, hcheck, h⟩ := bind_eq_ok h
  obtain ⟨⟨m₁, pt⟩, hnew, h⟩ := bind_eq_ok h
  obtain ⟨st, hloop, h⟩ := bind_eq_ok h
  cases h
  obtain ⟨hone, hnone⟩ := newTable_draws (mapError_eq_ok hnew)
  obtain ⟨n, hdraws⟩ := headers_draw hloop
  have hexcess : src.excess = ((segmentsAt bytes ehdr (range ehdr.ePhnum.toNat)).map
      NormPhdr.excess).sum := by
    rw [ImageSource.excess, ImageSource.segments, mapError_eq_ok hcheck]
  have hframes : free m.frames ≤ 2 ^ 40 := by
    simpa using Finset.card_le_card fun idx hidx => Finset.mem_range.mpr (haddr idx hidx)
  have hfree : free st.ram.frames + n ≤ free m₁.frames := hdraws.free
  have hmapped := hdraws.mapped
  have hbytes := hdraws.bytes
  rw [show (0 : UInt64).toNat = 0 from rfl] at hbytes
  rw [hnone, length_nil] at hmapped
  rw [hbytes, hmapped]
  omega

/-- **What a load costs.**  A refused image costs nothing exactly if its header was refused
or there was no frame; a loaded one is charged exactly if the negative differences of its
segments add up to nothing. -/
theorem load_cost_iff (haddress : m.Addressable) :
    (∀ e, loadFrom src m cr3 = .error (.error e) →
      ((loadFromLeaves src m cr3).pool = m.frames.pool ↔
        (∃ e, checkHeader src = .error e) ∨ m.frames.pool = ∅)) ∧
    ∀ m' elf, loadFrom src m cr3 = .ok (m', elf) →
      (elf.mappedBytes.toNat = 4096 * elf.pageTable.mapped.length ↔ 2 ^ 64 ∣ src.excess) :=
  ⟨fun _ => refused_costs_nothing_iff, fun _ _ => charged_exactly_iff haddress⟩

/-- A user segment is charged its two pages. -/
theorem load_cost_user_segment : ∃ m elf, smallMachine.Addressable ∧
    loadFrom (oneSegment 0x400800 100 0x1000) smallMachine 0x1000 = .ok (m, elf) ∧
      elf.mappedBytes.toNat = 4096 * elf.pageTable.mapped.length := by
  have hload : (loadFrom (oneSegment 0x400800 100 0x1000) smallMachine 0x1000).toOption.isSome := by
    decide +kernel
  obtain ⟨⟨m, elf⟩, hload⟩ := Option.isSome_iff_exists.mp hload
  have hok := eq_ok_of_toOption hload
  refine ⟨m, elf, smallMachine_addressable, hok, ?_⟩
  exact ((load_cost_iff smallMachine_addressable).2 m elf hok).mpr (by decide +kernel)

/-- A header of a segment with more bytes in the file than in memory costs a frame, and
a segment whose end wraps is charged although it has no page. -/
theorem load_costs :
    (∃ e, loadFrom (oneSegment 0x400000 8 4) smallMachine 0x1000 = .error (.error e) ∧
      (loadFromLeaves (oneSegment 0x400000 8 4) smallMachine 0x1000).pool ≠
        smallMachine.frames.pool) ∧
    ∃ m elf, loadFrom (oneSegment 0x1000 8 0xFFFFFFFFFFFFF000) smallMachine 0x1000 = .ok (m, elf) ∧
      elf.pageTable.mapped.length = 0 ∧ elf.mappedBytes.toNat = 0xFFFFFFFFFFFFF000 := by
  constructor
  · have hload : (loadFrom (oneSegment 0x400000 8 4) smallMachine 0x1000).map (fun _ => ()) =
        .error (.error .badProgramHeader) := by
      decide +kernel
    cases hrefused : loadFrom (oneSegment 0x400000 8 4) smallMachine 0x1000 with
    | ok => simp [hrefused, Except.map] at hload
    | error e =>
      simp only [hrefused, Except.map, Except.error.injEq] at hload
      exact ⟨_, congrArg _ hload, by decide +kernel⟩
  · have hload : ((loadFrom (oneSegment 0x1000 8 0xFFFFFFFFFFFFF000) smallMachine
        0x1000).toOption.map fun r => decide (r.2.pageTable.mapped.length = 0 ∧
          r.2.mappedBytes.toNat = 0xFFFFFFFFFFFFF000)) = some true := by
      decide +kernel
    obtain ⟨⟨m, elf⟩, hload, hend⟩ := Option.map_eq_some_iff.mp hload
    exact ⟨m, elf, eq_ok_of_toOption hload, of_decide_eq_true hend⟩

end Charge

end Godspeed.Loader
