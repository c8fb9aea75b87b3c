import Godspeed.Loader.Load

/-!
# What a load leaves behind

A load is a list of pages, each of them of one segment, mapped in order.
`Mapped` says what is known after some of them, wherever they lie: every page is
recorded, and its frame holds the bytes of its segment (`mapPage_spec`,
`loadFrom_spec`).  As long as the pages are in the user half the tables form a
tree of their own, so what was recorded is what the walk finds.

`load_safe_iff` puts this together.  A header of the other half, or one whose
end wraps, is accepted all the same; `load_into_kernel_half` is such an image.
-/

namespace Godspeed.Loader

open Godspeed.Memory Fallible List NormPhdr UInt64

section Arithmetic

variable {ph : NormPhdr} {va vaEnd : UInt64}

lemma toNat_add_of_lt {a b : UInt64} (h : a.toNat + b.toNat < 2 ^ 64) :
    (a + b).toNat = a.toNat + b.toNat := by
  rw [UInt64.toNat_add, Nat.mod_eq_of_lt h]

lemma toNat_sub_of_le {a b : UInt64} (h : b ≤ a) : (a - b).toNat = a.toNat - b.toNat :=
  UInt64.toNat_sub_of_le a b h

lemma toNat_page (a : UInt64) : (a &&& ~~~0xFFF).toNat = a.toNat - a.toNat % 4096 := by
  rw [toNat_and_not_low]
  omega

lemma dvd_page (a : UInt64) : 4096 ∣ (a &&& ~~~0xFFF).toNat :=
  ⟨_, (toNat_and_not_low _).trans (mul_comm _ _)⟩

lemma map_pagesFrom {fuel : Nat} (hva : 4096 ∣ va.toNat) (hend : 4096 ∣ vaEnd.toNat)
    (hfuel : vaEnd.toNat ≤ va.toNat + fuel * 4096) : (pagesFrom vaEnd fuel va).map UInt64.toNat =
      range' va.toNat ((vaEnd.toNat - va.toNat) / 4096) 4096 := by
  induction fuel generalizing va with
  | zero =>
    rw [show (vaEnd.toNat - va.toNat) / 4096 = 0 by omega]
    rfl
  | succ fuel ih =>
    have hlt := vaEnd.toNat_lt
    rw [pagesFrom]
    by_cases hmore : va < vaEnd
    · have hmore' := lt_iff_toNat_lt.mp hmore
      -- both ends are aligned, so the next page is not past the end
      have hnext : (va + 4096).toNat = va.toNat + 4096 :=
        toNat_add_of_lt (by change va.toNat + 4096 < 2 ^ 64; omega)
      have hcount : (vaEnd.toNat - va.toNat) / 4096 =
          (vaEnd.toNat - (va.toNat + 4096)) / 4096 + 1 := by omega
      rw [if_pos hmore, map_cons, ih (by rw [hnext]; omega) (by rw [hnext]; omega), hnext, hcount,
        range'_succ]
    · have hmore' : ¬ va.toNat < vaEnd.toNat := fun h => hmore (lt_iff_toNat_lt.mpr h)
      rw [if_neg hmore, show (vaEnd.toNat - va.toNat) / 4096 = 0 by omega]
      rfl

lemma map_pages (ph : NormPhdr) : ph.pages.map UInt64.toNat =
    range' ph.vaStart.toNat ((ph.vaEnd.toNat - ph.vaStart.toNat) / 4096) 4096 := by
  have hlt := ph.vaEnd.toNat_lt
  exact map_pagesFrom (dvd_page _) (dvd_page _) (by omega)

lemma mem_pages_iff (x : UInt64) :
    x ∈ ph.pages ↔ ph.vaStart ≤ x ∧ x < ph.vaEnd ∧ 4096 ∣ x.toNat := by
  have hstart : 4096 ∣ ph.vaStart.toNat := dvd_page _
  have hend : 4096 ∣ ph.vaEnd.toNat := dvd_page _
  rw [← mem_map_of_injective fun _ _ => UInt64.toNat_inj.mp, map_pages, mem_range', le_iff_toNat_le,
    lt_iff_toNat_lt]
  constructor
  · rintro ⟨i, hi, heq⟩
    omega
  · intro hx
    exact ⟨(x.toNat - ph.vaStart.toNat) / 4096, by omega, by omega⟩

lemma toNat_vaEnd (h : ph.pVaddr.toNat + ph.pMemsz.toNat ≤ userEnd.toNat) :
    ph.vaEnd.toNat = (ph.pVaddr.toNat + ph.pMemsz.toNat + 4095) / 4096 * 4096 := by
  have hhalf : ph.pVaddr.toNat + ph.pMemsz.toNat ≤ 0x800000000000 := h
  have hsum : (ph.pVaddr + ph.pMemsz).toNat = ph.pVaddr.toNat + ph.pMemsz.toNat :=
    toNat_add_of_lt (by omega)
  have hround : (ph.pVaddr + ph.pMemsz + 4096).toNat = ph.pVaddr.toNat + ph.pMemsz.toNat + 4096 := by
    rw [toNat_add_of_lt (by rw [hsum]; change _ + 4096 < _; omega), hsum]
    rfl
  have hlast : (ph.pVaddr + ph.pMemsz + 4096 - 1).toNat =
      ph.pVaddr.toNat + ph.pMemsz.toNat + 4095 := by
    rw [toNat_sub_of_le (le_iff_toNat_le.mpr (by rw [hround]; change 1 ≤ _; omega)), hround]
    rfl
  rw [vaEnd, toNat_and_not_low, hlast]

lemma lt_userEnd_of_mem_pages (h : ph.InUserHalf) (hva : va ∈ ph.pages) : va < userEnd := by
  obtain ⟨hstart, hend, -⟩ := (mem_pages_iff va).mp hva
  rcases h with hhalf | ⟨-, hnone⟩
  · have hlast := toNat_vaEnd hhalf
    have hlt := lt_iff_toNat_lt.mp hend
    change va.toNat < 0x800000000000
    have hhalf' : ph.pVaddr.toNat + ph.pMemsz.toNat ≤ 0x800000000000 := hhalf
    omega
  · exact absurd (UInt64.lt_of_le_of_lt hstart hend) (UInt64.not_lt.mpr hnone)

lemma page_mem_pages {addr : UInt64} (h : ph.InUserHalf) (hlow : ph.pVaddr ≤ addr)
    (hhigh : addr.toNat < ph.pVaddr.toNat + ph.pMemsz.toNat) : addr &&& ~~~0xFFF ∈ ph.pages := by
  have hlow' := le_iff_toNat_le.mp hlow
  have hhalf : ph.pVaddr.toNat + ph.pMemsz.toNat ≤ userEnd.toNat := by
    rcases h with hhalf | ⟨hempty, -⟩
    · exact hhalf
    · rw [hempty] at hhigh
      change addr.toNat < ph.pVaddr.toNat + 0 at hhigh
      omega
  have hend := toNat_vaEnd hhalf
  have hpage := toNat_page addr
  rw [mem_pages_iff]
  refine ⟨?_, ?_, ?_⟩
  · rw [le_iff_toNat_le, vaStart, toNat_page]
    omega
  · rw [lt_iff_toNat_lt]
    omega
  · rw [hpage]
    omega

/-- What the loader has compared before it maps a segment. -/
def NormPhdr.Checked (ph : NormPhdr) : Prop :=
  ph.pFilesz ≤ ph.pMemsz ∧ ph.pOffset.toNat + ph.pFilesz.toNat < 2 ^ 64

lemma pageContent_spec {src : ImageSource} {page : Nat → UInt8} {addr : UInt64}
    (hhalf : ph.pVaddr.toNat + ph.pMemsz.toNat ≤ userEnd.toNat) (hchecked : ph.Checked)
    (hlow : ph.pVaddr ≤ addr) (hhigh : addr.toNat < ph.pVaddr.toNat + ph.pMemsz.toNat)
    (h : pageContent src ph (addr &&& ~~~0xFFF) = .ok page) :
    page (addr.toNat % 4096) = src.segmentByte ph (addr.toNat - ph.pVaddr.toNat) := by
  have hhalf' : ph.pVaddr.toNat + ph.pMemsz.toNat ≤ 0x800000000000 := hhalf
  have hlow' := le_iff_toNat_le.mp hlow
  obtain ⟨hfile, hoffset⟩ := hchecked
  have hfile' := le_iff_toNat_le.mp hfile
  have hva := toNat_page addr
  have hnext : ((addr &&& ~~~0xFFF) + 4096).toNat = addr.toNat - addr.toNat % 4096 + 4096 := by
    rw [toNat_add_of_lt (by rw [hva]; change _ + 4096 < _; omega), hva]
    rfl
  have hstop : (ph.pVaddr + ph.pFilesz).toNat = ph.pVaddr.toNat + ph.pFilesz.toNat :=
    toNat_add_of_lt (by omega)
  generalize addr &&& ~~~0xFFF = va at h hva hnext
  have hstart : (ph.copyStart va).toNat = max va.toNat ph.pVaddr.toNat := toNat_max _ _
  have hend : (ph.copyEnd va).toNat = min (addr.toNat - addr.toNat % 4096 + 4096)
      (ph.pVaddr.toNat + ph.pFilesz.toNat) := by
    rw [copyEnd, toNat_min, hnext, hstop]
  have hdst : ph.dstOff va = max va.toNat ph.pVaddr.toNat - va.toNat := by
    rw [dstOff, toNat_sub_of_le (le_iff_toNat_le.mpr (by omega)), hstart]
  unfold pageContent at h
  unfold ImageSource.segmentByte
  split at h
  next hcopy =>
    have hcopy' := lt_iff_toNat_lt.mp hcopy
    have hlen : ph.copyLen va = (ph.copyEnd va).toNat - (ph.copyStart va).toNat := by
      rw [copyLen, toNat_sub_of_le (le_iff_toNat_le.mpr (by omega))]
    have hsrc : ph.srcOff va = ph.pOffset.toNat + (max va.toNat ph.pVaddr.toNat - ph.pVaddr.toNat) := by
      rw [srcOff, toNat_sub_of_le (le_iff_toNat_le.mpr (by omega)), hstart]
      exact Nat.mod_eq_of_lt (by simp only [size]; omega)
    split at h
    · cases h
    split at h
    · cases h
    rename_i out hread
    cases h
    beta_reduce
    by_cases hin : addr.toNat - ph.pVaddr.toNat < ph.pFilesz.toNat
    · have hcond : ph.dstOff va ≤ addr.toNat % 4096 ∧
          addr.toNat % 4096 < ph.dstOff va + ph.copyLen va := by omega
      have hplace : ph.srcOff va + (addr.toNat % 4096 - ph.dstOff va) =
          ph.pOffset.toNat + (addr.toNat - ph.pVaddr.toNat) := by omega
      rw [if_pos hcond, if_pos hin, ImageSource.readInto_eq_some hread _ (by omega), hplace]
    · have hcond : ¬ (ph.dstOff va ≤ addr.toNat % 4096 ∧
          addr.toNat % 4096 < ph.dstOff va + ph.copyLen va) := by omega
      rw [if_neg hcond, if_neg hin]
  next hcopy =>
    have hcopy' : ¬ (ph.copyStart va).toNat < (ph.copyEnd va).toNat :=
      fun hlt => hcopy (lt_iff_toNat_lt.mpr hlt)
    cases h
    -- the file range ends before this page
    rw [if_neg (by omega)]

end Arithmetic

section Flags

variable {ph : NormPhdr} {idx : Nat}

lemma pageFlags_bits (ph : NormPhdr) :
    ph.pageFlags &&& 0x000FFFFFFFFFF000 = 0 ∧ entryPresent ph.pageFlags ∧
      ¬ (ph.pageFlags &&& flagWritable ≠ 0 ∧ ph.pageFlags &&& flagNoExec = 0) := by
  have hwx : segmentWritable ph.pFlags → segmentNoExec ph.pFlags := by
    intro hwritable
    rw [segmentWritable] at hwritable
    simp [segmentNoExec, hwritable]
  unfold pageFlags
  cases hwritable : segmentWritable ph.pFlags with
  | true =>
    rw [hwx hwritable]
    decide
  | false =>
    cases segmentNoExec ph.pFlags <;> decide

lemma entry_and {mask : UInt64} (h : idx < 2 ^ 40) (hmask : mask < 4096 ∨ mask = flagNoExec)
    (flags : UInt64) :
    ((framePhys idx &&& ~~~0xFFF) ||| flags) &&& mask = flags &&& mask := by
  have hnone : framePhys idx &&& mask = 0 := by
    rcases hmask with hmask | rfl
    · exact framePhys_and_low h hmask
    apply UInt64.toNat_inj.mp
    have hlt : (framePhys idx).toNat < 2 ^ 63 := by
      rw [toNat_framePhys h]
      omega
    rw [UInt64.toNat_and, show flagNoExec.toNat = 2 ^ 63 from rfl, Nat.and_two_pow,
      Nat.testBit_lt_two_pow hlt]
    rfl
  rw [framePhys_and_not_low h, or_and_distrib, hnone, UInt64.zero_or]

lemma entry_present (h : idx < 2 ^ 40) (ph : NormPhdr) :
    entryPresent ((framePhys idx &&& ~~~0xFFF) ||| ph.pageFlags) := by
  have hpresent := (pageFlags_bits ph).2.1
  rwa [entryPresent, entry_and h (.inl (by decide))]

lemma entry_phys (h : idx < 2 ^ 40) (ph : NormPhdr) :
    entryPhys ((framePhys idx &&& ~~~0xFFF) ||| ph.pageFlags) = framePhys idx := by
  rw [framePhys_and_not_low h, entryPhys_or h (pageFlags_bits ph).1]

end Flags

/-- What is known after the pages `done`, each with its segment, were mapped. -/
structure Mapped (src : ImageSource) (m₀ : Ram) (done : List (NormPhdr × UInt64))
    (st : Progress) : Prop where
  addressable : st.ram.Addressable
  origin : ∀ x ∈ st.pt.mapped, ∃ e ∈ done, x.va = e.2 ∧ x.flags = e.1.pageFlags
  filled : ∀ e ∈ done, ∃ x ∈ st.pt.mapped, x.va = e.2 ∧
    pageContent src e.1 e.2 = .ok (st.ram.pages x.phys)
  frames : ∀ x ∈ st.pt.mapped, ¬ st.ram.Available x.phys ∧ ∃ idx < 2 ^ 40, x.phys = framePhys idx
  tree : (∀ x ∈ st.pt.mapped, x.va < userEnd) → ∃ label, Ram.Tree m₀ st.ram st.pt label

section Steps

variable {src : ImageSource} {m₀ m : Ram} {done : List (NormPhdr × UInt64)} {st st' : Progress}
  {ph : NormPhdr} {va : UInt64} {bytes : List UInt8} {ehdr : NormEhdr}

/-- **One page.** -/
theorem mapPage_spec (hst : Mapped src m₀ done st) (h : mapPage src ph st va = .ok st') :
    Mapped src m₀ (done ++ [(ph, va)]) st' := by
  unfold mapPage at h
  obtain ⟨⟨m₁, phys⟩, halloc, h⟩ := bind_eq_ok h
  obtain ⟨page, hpage, h⟩ := bind_eq_ok h
  obtain ⟨⟨m₂, pt⟩, hmap, h⟩ := bind_eq_ok h
  cases h
  obtain ⟨hgrows₁, htables, havail, hgone, idx, hidx, rfl⟩ :=
    Ram.allocFrame_spec hst.addressable halloc
  have haddress₁ : (m₁.writePage (framePhys idx) page).Addressable :=
    hgrows₁.addressable hst.addressable
  replace hmap := mapError_eq_ok hmap
  obtain ⟨hgrows₂, rfl⟩ := Ram.map_grows haddress₁ hmap
  -- the frame of an older page is not the new one
  have hother : ∀ x ∈ st.pt.mapped, m₂.pages x.phys = st.ram.pages x.phys := by
    intro x hx
    have hne : x.phys ≠ framePhys idx := fun heq => (hst.frames x hx).1 (heq ▸ havail)
    rw [hgrows₂.pages_eq, Ram.writePage_of_ne m₁ page hne, hgrows₁.pages_eq]
  exact
    { addressable := hgrows₂.addressable haddress₁
      origin := by
        intro x hx
        rcases mem_cons.mp hx with rfl | hx
        · exact ⟨(ph, va), by simp, rfl, rfl⟩
        · obtain ⟨e, he, hfrom⟩ := hst.origin x hx
          exact ⟨e, mem_append_left _ he, hfrom⟩
      filled := by
        intro e he
        rcases mem_append.mp he with he | he
        · obtain ⟨x, hx, hva, hcontent⟩ := hst.filled e he
          exact ⟨x, mem_cons_of_mem _ hx, hva, by rw [hother x hx, hcontent]⟩
        · cases mem_singleton.mp he
          refine ⟨⟨va, framePhys idx, ph.pageFlags⟩, mem_cons_self, rfl, ?_⟩
          rw [hgrows₂.pages_eq, hpage, Ram.writePage_same]
      frames := by
        intro x hx
        rcases mem_cons.mp hx with rfl | hx
        · exact ⟨fun hnow => hgone (hgrows₂.available _ hnow), idx, hidx, rfl⟩
        · obtain ⟨hnot, hform⟩ := hst.frames x hx
          exact ⟨fun hnow => hnot (hgrows₁.available _ (hgrows₂.available _ hnow)), hform⟩
      tree := by
        intro huser
        have hva : va < userEnd := huser _ mem_cons_self
        obtain ⟨label, htree⟩ := hst.tree fun x hx => huser x (mem_cons_of_mem _ hx)
        have hbefore : Ram.Tree m₀ (m₁.writePage (framePhys idx) page) st.pt label :=
          htree.of_tables_eq htables hgrows₁.available haddress₁
        exact Ram.map_spec hbefore hva (entry_present hidx ph) hmap }

/-- The pages of some segments, in the order they are mapped. -/
def plan (phs : List NormPhdr) : List (NormPhdr × UInt64) :=
  phs.flatMap fun ph => ph.pages.map (Prod.mk ph)

/-- **One segment.** -/
theorem loadSegment_spec (hst : Mapped src m₀ done st) (h : loadSegment src st ph = .ok st') :
    (ph.pType ≠ ptLoad ∧ Mapped src m₀ done st') ∨
      (ph.pType = ptLoad ∧ ph.Checked ∧ Mapped src m₀ (done ++ plan [ph]) st') := by
  unfold loadSegment at h
  split at h
  next hother =>
    cases h
    exact .inl ⟨hother, hst⟩
  rename_i hload
  split at h
  · cases h
  rename_i hfile
  split at h
  · cases h
  rename_i stop hstop
  split at h
  · cases h
  obtain ⟨st₁, hpages, h⟩ := bind_eq_ok h
  cases h
  have hsum : ph.pOffset.toNat + ph.pFilesz.toNat < 2 ^ 64 := by
    unfold checkedAdd at hstop
    split at hstop
    · assumption
    · cases hstop
  have hmapped := foldlM_invariant (fun past st => Mapped src m₀ (done ++ past.map (Prod.mk ph)) st)
    (fun past va s t hs ht => by simpa using mapPage_spec hs ht)
    (by simpa using hst) hpages
  refine .inr ⟨not_not.mp hload, ⟨UInt64.not_lt.mp hfile, hsum⟩, ?_⟩
  have hplan : plan [ph] = ph.pages.map (Prod.mk ph) := by simp [plan]
  rw [hplan]
  exact ⟨hmapped.addressable, hmapped.origin, hmapped.filled, hmapped.frames, hmapped.tree⟩

lemma headerOffset_eq_ok {window i off : Nat} (h : headerOffset ehdr window i = .ok off) :
    off = ehdr.ePhoff.toNat + i * ehdr.ePhentsize.toNat := by
  unfold headerOffset at h
  split at h
  · cases h
  rename_i off' hsum
  have hoff : off' = ehdr.ePhoff.toNat + i * ehdr.ePhentsize.toNat := by
    obtain ⟨product, hproduct, hsum⟩ := Option.bind_eq_some_iff.mp hsum
    unfold checkedMul at hproduct
    unfold checkedAdd at hsum
    split at hproduct <;> cases hproduct
    split at hsum <;> cases hsum
    rfl
  split at h
  · cases h
  split at h
  · cases h
  · cases h
    exact hoff

lemma plan_append (phs qhs : List NormPhdr) : plan (phs ++ qhs) = plan phs ++ plan qhs := by
  simp [plan]

/-- **One turn of the header loop.** -/
theorem loadHeader_spec {past : List Nat} {i : Nat}
    (hst : Mapped src m₀ (plan (segmentsAt bytes ehdr past)) st)
    (hchecked : ∀ ph ∈ segmentsAt bytes ehdr past, ph.Checked)
    (h : loadHeader src bytes ehdr st i = .ok st') :
    Mapped src m₀ (plan (segmentsAt bytes ehdr (past ++ [i]))) st' ∧
      ∀ ph ∈ segmentsAt bytes ehdr (past ++ [i]), ph.Checked := by
  unfold loadHeader at h
  obtain ⟨off, hoff, h⟩ := bind_eq_ok h
  rw [headerOffset_eq_ok hoff] at h
  generalize hph : readPhdr bytes (ehdr.ePhoff.toNat + i * ehdr.ePhentsize.toNat) elfClass = ph at h
  rcases loadSegment_spec hst h with ⟨hother, hmapped⟩ | ⟨hload, hnew, hmapped⟩
  · have hnone : segmentsAt bytes ehdr (past ++ [i]) = segmentsAt bytes ehdr past := by
      simp [segmentsAt, hph, hother]
    rw [hnone]
    exact ⟨hmapped, hchecked⟩
  · have hone : segmentsAt bytes ehdr (past ++ [i]) = segmentsAt bytes ehdr past ++ [ph] := by
      simp [segmentsAt, hph, hload]
    rw [hone, plan_append]
    refine ⟨hmapped, fun q hq => ?_⟩
    rcases mem_append.mp hq with hq | hq
    · exact hchecked q hq
    · rw [mem_singleton.mp hq]
      exact hnew

/-- **`load_from`**: every page of every segment is mapped. -/
theorem loadFrom_spec {cr3 : UInt64} {elf : LoadedElf} (haddr : m₀.Addressable)
    (h : loadFrom src m₀ cr3 = .ok (m, elf)) :
    Mapped src m₀ (plan src.segments) ⟨m, elf.pageTable, elf.mappedBytes⟩ ∧
      ∀ ph ∈ src.segments, ph.Checked := by
  unfold loadFrom at h
  obtain ⟨⟨bytes, ehdr⟩, hcheck, h⟩ := bind_eq_ok h
  obtain ⟨⟨m₁, pt⟩, hnew, h⟩ := bind_eq_ok h
  obtain ⟨st, hloop, h⟩ := bind_eq_ok h
  cases h
  obtain ⟨⟨label, htree⟩, hgrows, hnone⟩ := Ram.newTable_spec haddr (mapError_eq_ok hnew)
  have hstart : Mapped src m₀ (plan (segmentsAt bytes ehdr [])) ⟨m₁, pt, 0⟩ :=
    { addressable := hgrows.addressable haddr
      origin := by simp [hnone]
      filled := by simp [plan, segmentsAt]
      frames := by simp [hnone]
      tree := fun _ => ⟨label, htree⟩ }
  have hsegments : src.segments = segmentsAt bytes ehdr (range ehdr.ePhnum.toNat) := by
    rw [ImageSource.segments, mapError_eq_ok hcheck]
  rw [hsegments]
  exact foldlM_invariant (fun past st => Mapped src m₀ (plan (segmentsAt bytes ehdr past)) st ∧
      ∀ ph ∈ segmentsAt bytes ehdr past, ph.Checked)
    (fun past i s t hs ht => loadHeader_spec hs.1 hs.2 ht)
    ⟨hstart, by simp [segmentsAt]⟩ hloop

end Steps

section Safety

variable {src : ImageSource} {m₀ m : Ram} {cr3 : UInt64} {elf : LoadedElf}

lemma mem_plan {phs : List NormPhdr} {ph : NormPhdr} {va : UInt64} :
    (ph, va) ∈ plan phs ↔ ph ∈ phs ∧ va ∈ ph.pages := by
  simp only [plan, mem_flatMap, mem_map, Prod.mk.injEq]
  constructor
  · rintro ⟨q, hq, w, hw, rfl, rfl⟩
    exact ⟨hq, hw⟩
  · rintro ⟨hph, hva⟩
    exact ⟨ph, hph, va, hva, rfl, rfl⟩

lemma entryFor_page (m : Ram) (root addr : UInt64) :
    m.entryFor root addr = m.entryFor root (addr &&& ~~~0xFFF) := by
  have hpage : addr.toNat / 4096 = (addr &&& ~~~0xFFF).toNat / 4096 := by
    rw [toNat_page]
    omega
  obtain ⟨hpath, hslot⟩ := indices_eq hpage
  rw [Ram.entryFor, Ram.entryFor, hpath, hslot]

lemma loadedSafely_of_inUserHalf {st : Progress} (hmapped : Mapped src m₀ (plan src.segments) st)
    (hchecked : ∀ ph ∈ src.segments, ph.Checked) (h : ∀ ph ∈ src.segments, ph.InUserHalf) :
    LoadedSafely src m₀ st.ram st.pt := by
  have huser : ∀ x ∈ st.pt.mapped, x.va < userEnd := by
    intro x hx
    obtain ⟨⟨ph, va⟩, he, hva, -⟩ := hmapped.origin x hx
    obtain ⟨hph, hpages⟩ := mem_plan.mp he
    rw [hva]
    exact lt_userEnd_of_mem_pages (h ph hph) hpages
  obtain ⟨label, htree⟩ := hmapped.tree huser
  -- the entry of a recorded page, and its bits
  have hentry : ∀ x ∈ st.pt.mapped, ∃ (ph : NormPhdr) (idx : Nat), idx < 2 ^ 40 ∧ x.phys = framePhys idx ∧
      st.ram.entryFor st.pt.root x.va = some ((framePhys idx &&& ~~~0xFFF) ||| ph.pageFlags) := by
    intro x hx
    obtain ⟨⟨ph, va⟩, -, -, hflags⟩ := hmapped.origin x hx
    obtain ⟨-, idx, hidx, hphys⟩ := hmapped.frames x hx
    exact ⟨ph, idx, hidx, hphys, by rw [htree.found x hx, hphys, hflags]⟩
  exact
    { user := huser
      shared := htree.kept
      wx := by
        intro x hx entry hfound
        obtain ⟨ph, idx, hidx, -, hthere⟩ := hentry x hx
        cases hfound.symm.trans hthere
        rw [entry_and hidx (.inl (by decide)), entry_and hidx (.inr rfl)]
        exact (pageFlags_bits ph).2.2
      holds := by
        intro ph hph addr hlow hhigh
        have hpage := page_mem_pages (h ph hph) hlow hhigh
        obtain ⟨x, hx, hva, hcontent⟩ := hmapped.filled _ (mem_plan.mpr ⟨hph, hpage⟩)
        replace hva : x.va = addr &&& ~~~0xFFF := hva
        obtain ⟨qh, idx, hidx, hphys, hthere⟩ := hentry x hx
        refine ⟨⟨x, hx, hva⟩, _, ?_, entry_present hidx qh, ?_⟩
        · rw [entryFor_page, ← hva]
          exact hthere
        have hhalf : ph.pVaddr.toNat + ph.pMemsz.toNat ≤ userEnd.toNat := by
          rcases h ph hph with hhalf | ⟨hempty, -⟩
          · exact hhalf
          · have hlow' := le_iff_toNat_le.mp hlow
            have hzero : ph.pMemsz.toNat = 0 := by rw [hempty]; rfl
            omega
        rw [entry_phys hidx qh, ← hphys]
        exact pageContent_spec hhalf (hchecked ph hph) hlow hhigh hcontent }

/-- Where the pages are in the user half and the bytes in place, the segments are
in the user half. -/
lemma inUserHalf_of_loadedSafely {st : Progress}
    (hmapped : Mapped src m₀ (plan src.segments) st) (h : LoadedSafely src m₀ st.ram st.pt)
    {ph : NormPhdr} (hph : ph ∈ src.segments) : ph.InUserHalf := by
  -- an address of the segment is in a recorded page
  have hbelow : ∀ addr : UInt64, ph.pVaddr ≤ addr →
      addr.toNat < ph.pVaddr.toNat + ph.pMemsz.toNat → addr.toNat < 0x800000000000 := by
    intro addr hlow hhigh
    obtain ⟨⟨x, hx, hva⟩, -⟩ := h.holds ph hph addr hlow hhigh
    have hlt := lt_iff_toNat_lt.mp (h.user x hx)
    rw [hva, toNat_page] at hlt
    change addr.toNat - addr.toNat % 4096 < 0x800000000000 at hlt
    omega
  by_cases hempty : ph.pMemsz = 0
  · by_cases hpages : ph.vaStart < ph.vaEnd
    · left
      have hmem : ph.vaStart ∈ ph.pages :=
        (mem_pages_iff _).mpr ⟨UInt64.le_refl _, hpages, _,
          (toNat_and_not_low _).trans (mul_comm _ _)⟩
      obtain ⟨x, hx, hva, -⟩ := hmapped.filled _ (mem_plan.mpr ⟨hph, hmem⟩)
      have hlt := lt_iff_toNat_lt.mp (h.user x hx)
      have hzero : ph.pMemsz.toNat = 0 := by rw [hempty]; rfl
      rw [hva, vaStart, toNat_page] at hlt
      change ph.pVaddr.toNat - ph.pVaddr.toNat % 4096 < 0x800000000000 at hlt
      change ph.pVaddr.toNat + ph.pMemsz.toNat ≤ 0x800000000000
      omega
    · exact .inr ⟨hempty, UInt64.not_lt.mp hpages⟩
  · left
    have hpos : 0 < ph.pMemsz.toNat :=
      Nat.pos_of_ne_zero fun hzero => hempty (UInt64.toNat_inj.mp hzero)
    have hfirst := hbelow ph.pVaddr (UInt64.le_refl _) (by omega)
    change ph.pVaddr.toNat + ph.pMemsz.toNat ≤ 0x800000000000
    by_contra hover
    -- the first address above the user half is one of the segment
    have hnat : (0x800000000000 : UInt64).toNat = 0x800000000000 := rfl
    have hbad := hbelow 0x800000000000 (le_iff_toNat_le.mpr (by omega)) (by omega)
    omega

/-- **A load is safe exactly if its segments are in the user half.** -/
theorem load_safe_iff (haddress : m₀.Addressable) (h : loadFrom src m₀ cr3 = .ok (m, elf)) :
    LoadedSafely src m₀ m elf.pageTable ↔ ∀ ph ∈ src.segments, ph.InUserHalf := by
  obtain ⟨hmapped, hchecked⟩ := loadFrom_spec haddress h
  constructor
  · intro hsafe ph hph
    exact inUserHalf_of_loadedSafely hmapped hsafe hph
  · intro huser
    exact loadedSafely_of_inUserHalf hmapped hchecked huser

/-- A number as `n` little-endian bytes. -/
def leBytes : Nat → Nat → List UInt8
  | 0, _ => []
  | n + 1, k => UInt8.ofNat (k % 256) :: leBytes n (k / 256)

/-- An image with one `PT_LOAD` header, writable and executable, whose file bytes
are the first of the image. -/
def oneSegment (vaddr filesz memsz : Nat) : ImageSource :=
  .kernel (elfMagic ++ [elfClass, elfData2Lsb] ++ List.replicate 10 0 ++
    leBytes 2 2 ++ leBytes 2 62 ++ leBytes 4 1 ++ leBytes 8 vaddr ++ leBytes 8 64 ++
    leBytes 8 0 ++ leBytes 4 0 ++ leBytes 2 64 ++ leBytes 2 56 ++ leBytes 2 1 ++ leBytes 6 0 ++
    leBytes 4 1 ++ leBytes 4 7 ++ leBytes 8 0 ++ leBytes 8 vaddr ++ leBytes 8 0 ++
    leBytes 8 filesz ++ leBytes 8 memsz ++ leBytes 8 4096)

/-- Sixteen free frames, and a running root at `0x1000` whose entry 256 is the
kernel's table at `0x2000`. -/
def smallMachine : Ram where
  frames :=
    { bitmap := [0, 0xFF, 0xFF]
      kpt := [0, 0, 0]
      bitmapPhys := 0
      guardStart := 0
      guardEnd := 0
      freeFrames := 16
      totalFrames := 16
      nextByte := 0
      maxValidFrame := 24
      maxRamFrame := 24
      doubleFrees := 0
      dmaReserves := List.replicate maxDmaReserves (0, 0)
      kpt_length := rfl
      covers := by decide
      addressable := by decide
      hint_le := by decide
      reserves_length := rfl }
  tables := fun t i => if t = 0x1000 ∧ i = 256 then 0x2003 else 0
  pages := fun _ _ => 0

lemma smallMachine_addressable : smallMachine.Addressable := by
  unfold Ram.Addressable
  decide +kernel

/-- A segment at the start of the kernel half is accepted, and the kernel's table
is written; a segment whose end wraps is accepted, and nothing is mapped. -/
theorem load_into_kernel_half :
    (∃ m elf, loadFrom (oneSegment 0xFFFF800000000000 8 8) smallMachine 0x1000 = .ok (m, elf) ∧
      (∃ x ∈ elf.pageTable.mapped, userEnd ≤ x.va) ∧ ¬ smallMachine.Available 0x2000 ∧
        m.tables 0x2000 0 ≠ smallMachine.tables 0x2000 0) ∧
    ∃ m elf, loadFrom (oneSegment 0x1000 8 0xFFFFFFFFFFFFF000) smallMachine 0x1000 = .ok (m, elf) ∧
      elf.pageTable.mapped = [] ∧
        ¬ LoadedSafely (oneSegment 0x1000 8 0xFFFFFFFFFFFFF000) smallMachine m elf.pageTable := by
  constructor
  · have hload : ((loadFrom (oneSegment 0xFFFF800000000000 8 8) smallMachine 0x1000).toOption.map
        fun r => decide ((∃ x ∈ r.2.pageTable.mapped, userEnd ≤ x.va) ∧
          r.1.tables 0x2000 0 ≠ smallMachine.tables 0x2000 0)) = some true := by
      decide +kernel
    obtain ⟨⟨m, elf⟩, hload, hend⟩ := Option.map_eq_some_iff.mp hload
    obtain ⟨hkernel, hwritten⟩ := of_decide_eq_true hend
    refine ⟨m, elf, eq_ok_of_toOption hload, hkernel, ?_, hwritten⟩
    unfold Ram.Available
    decide +kernel
  · have hload : ((loadFrom (oneSegment 0x1000 8 0xFFFFFFFFFFFFF000) smallMachine
        0x1000).toOption.map fun r => decide (r.2.pageTable.mapped = [])) = some true := by
      decide +kernel
    have hsegment : ∃ ph ∈ (oneSegment 0x1000 8 0xFFFFFFFFFFFFF000).segments,
        0 < ph.pMemsz.toNat := by
      decide +kernel
    obtain ⟨⟨m, elf⟩, hload, hend⟩ := Option.map_eq_some_iff.mp hload
    have hnone : elf.pageTable.mapped = [] := of_decide_eq_true hend
    refine ⟨m, elf, eq_ok_of_toOption hload, hnone, fun hsafe => ?_⟩
    obtain ⟨ph, hph, hpos⟩ := hsegment
    obtain ⟨⟨x, hx, -⟩, -⟩ := hsafe.holds ph hph ph.pVaddr (UInt64.le_refl _) (by omega)
    rw [hnone] at hx
    cases hx

/-- A segment of two pages in the user half is loaded safely. -/
theorem load_safe_user_segment : ∃ m elf, smallMachine.Addressable ∧
    loadFrom (oneSegment 0x400800 100 0x1000) smallMachine 0x1000 = .ok (m, elf) ∧
      elf.pageTable.mapped.length = 2 ∧
      LoadedSafely (oneSegment 0x400800 100 0x1000) smallMachine m elf.pageTable := by
  have hload : ((loadFrom (oneSegment 0x400800 100 0x1000) smallMachine 0x1000).toOption.map
      fun r => decide (r.2.pageTable.mapped.length = 2)) = some true := by
    decide +kernel
  have hhalf : ∀ ph ∈ (oneSegment 0x400800 100 0x1000).segments, ph.InUserHalf := by
    decide +kernel
  obtain ⟨⟨m, elf⟩, hload, hend⟩ := Option.map_eq_some_iff.mp hload
  have hok := eq_ok_of_toOption hload
  exact ⟨m, elf, smallMachine_addressable, hok, of_decide_eq_true hend,
    (load_safe_iff smallMachine_addressable hok).mpr hhalf⟩

end Safety

end Godspeed.Loader
