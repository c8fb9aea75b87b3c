import Godspeed.Loader.Image

/-!
# The service loader

`load_from` in `loader.rs` and the permission decision of `elf_flags.rs`.  The
header window is fetched once; each program header of type `PT_LOAD` is mapped
page by page into a new address space.

Addresses are 64-bit words that wrap, as the release build computes them.
Nothing compares a segment with the user half: the address of the first page and
the number of pages come from the header as they stand (`vaStart`, `vaEnd`).
`LoadedSafely` is what a load is for, and `InUserHalf` is the condition on a
header under which the loader gives it.
-/

namespace Godspeed.Loader

open Godspeed.Memory

/-- `LoadError`. -/
inductive LoadError
  | tooSmall
  | badMagic
  | notElf64
  | wrongArch
  | notExecutable
  | badProgramHeader
  | segmentOutOfBounds
  | mapFailed (e : MapError)
  | frameAllocFailed
  deriving DecidableEq, Repr

/-- `From<MapError> for LoadError`. -/
def ofMapError : Halt MapError → Halt LoadError
  | .panic => .panic
  | .error e => .error (.mapFailed e)

/-- `PF_X`. -/
def pfX : UInt32 := 1

/-- `PF_W`. -/
def pfW : UInt32 := 2

/-- `segment_writable`. -/
def segmentWritable (pFlags : UInt32) : Bool := pFlags &&& pfW ≠ 0

/-- `segment_no_exec`. -/
def segmentNoExec (pFlags : UInt32) : Bool := pFlags &&& pfW ≠ 0 || !(pFlags &&& pfX ≠ 0)

variable (ph : NormPhdr) (src : ImageSource) (va : UInt64)

namespace NormPhdr

def pageFlags : UInt64 :=
  flagPresent ||| flagUser |||
    (if segmentWritable ph.pFlags then flagWritable else 0) |||
    (if segmentNoExec ph.pFlags then flagNoExec else 0)

/-- `va_start`. -/
def vaStart : UInt64 := ph.pVaddr &&& ~~~0xFFF

/-- `va_end`. -/
def vaEnd : UInt64 := (ph.pVaddr + ph.pMemsz + 4096 - 1) &&& ~~~0xFFF

end NormPhdr

/-- The values of `va` in `while va < va_end`. -/
def pagesFrom (vaEnd : UInt64) : Nat → UInt64 → List UInt64
  | 0, _ => []
  | fuel + 1, va => if va < vaEnd then va :: pagesFrom vaEnd fuel (va + 4096) else []

/-- The pages of a segment.  An address space has `2 ^ 52` pages, so the loop
ends by itself (`mem_pages_iff`). -/
def NormPhdr.pages : List UInt64 := pagesFrom ph.vaEnd (2 ^ 52) ph.vaStart

namespace NormPhdr

/-- `copy_start` for the page at `va`. -/
def copyStart : UInt64 := max va ph.pVaddr

/-- `copy_end`. -/
def copyEnd : UInt64 := min (va + 4096) (ph.pVaddr + ph.pFilesz)

/-- `copy_len`. -/
def copyLen : Nat := (ph.copyEnd va - ph.copyStart va).toNat

/-- `src_off`. -/
def srcOff : Nat :=
  usizeAdd ph.pOffset.toNat (ph.copyStart va - ph.pVaddr).toNat

/-- `dst_off`. -/
def dstOff : Nat := (ph.copyStart va - va).toNat

end NormPhdr

/-- What is written into the frame of one page: the overlap with the file range,
after zeroes. -/
def pageContent (ph : NormPhdr) (va : UInt64) : Except (Halt LoadError) (Nat → UInt8) :=
  if ph.copyStart va < ph.copyEnd va then
    if 4096 < ph.dstOff va + ph.copyLen va then .error .panic
    else
      match src.readInto (ph.srcOff va) (ph.copyLen va) with
      | none => .error (.error .segmentOutOfBounds)
      | some out =>
        .ok fun i =>
          if ph.dstOff va ≤ i ∧ i < ph.dstOff va + ph.copyLen va then out.getD (i - ph.dstOff va) 0
          else 0
  else .ok fun _ => 0

/-- What the loop over the program headers changes. -/
structure Progress where
  ram : Ram
  pt : PageTable
  mappedBytes : UInt64

def mapPage (ph : NormPhdr) (st : Progress) (va : UInt64) : Except (Halt LoadError) Progress := do
  let (ram, phys) ← st.ram.allocFrame LoadError.frameAllocFailed
  let page ← pageContent src ph va
  let (ram, pt) ← ((ram.writePage phys page).map st.pt va phys ph.pageFlags).mapError ofMapError
  .ok { st with ram := ram, pt := pt }

/-- The body of the header loop, once the header is read. -/
def loadSegment (st : Progress) (ph : NormPhdr) : Except (Halt LoadError) Progress :=
  if ph.pType ≠ ptLoad then .ok st
  else if ph.pMemsz < ph.pFilesz then .error (.error .badProgramHeader)
  else
    match checkedAdd ph.pOffset.toNat ph.pFilesz.toNat with
    | none => .error (.error .segmentOutOfBounds)
    | some stop =>
      if src.len < stop then .error (.error .segmentOutOfBounds)
      else do
        let st ← ph.pages.foldlM (mapPage src ph) st
        .ok { st with mappedBytes := st.mappedBytes + (ph.vaEnd - ph.vaStart) }

/-- The offset of the program header `i`, inside the window. -/
def headerOffset (ehdr : NormEhdr) (window i : Nat) : Except (Halt LoadError) Nat :=
  match (checkedMul i ehdr.ePhentsize.toNat).bind (checkedAdd ehdr.ePhoff.toNat) with
  | none => .error (.error .badProgramHeader)
  | some off =>
    match checkedAdd off (phdrSize elfClass) with
    | none => .error (.error .badProgramHeader)
    | some stop => if window < stop then .error (.error .badProgramHeader) else .ok off

def loadHeader (bytes : List UInt8) (ehdr : NormEhdr) (st : Progress)
    (i : Nat) : Except (Halt LoadError) Progress := do
  let off ← headerOffset ehdr bytes.length i
  loadSegment src st (readPhdr bytes off elfClass)

/-- `LoadedElf`. -/
structure LoadedElf where
  pageTable : PageTable
  entryVa : UInt64
  mappedBytes : UInt64

/-- The checks on the executable header. -/
def checkHeader : Except LoadError (List UInt8 × NormEhdr) :=
  match src.readInto 0 (min src.len headerWindow) with
  | none => .error .tooSmall
  | some bytes =>
    let ehdr := readEhdr bytes elfClass
    if src.len < 16 ∨ bytes.length < 16 then .error .tooSmall
    else if bytes.take 4 ≠ elfMagic then .error .badMagic
    else if bytes.getD eiClass 0 ≠ elfClass then .error .notElf64
    else if bytes.getD eiData 0 ≠ elfData2Lsb then .error .notElf64
    else if bytes.length < ehdrSize elfClass then .error .tooSmall
    else if ehdr.eType ≠ etExec then .error .notExecutable
    else if ehdr.eMachine ≠ elfMachine then .error .wrongArch
    else if ehdr.ePhentsize.toNat < phdrSize elfClass then .error .badProgramHeader
    else .ok (bytes, ehdr)

/-- `load_from`, with the frames and tables of the machine and the page-table
base of the running task. -/
def loadFrom (m : Ram) (cr3 : UInt64) : Except (Halt LoadError) (Ram × LoadedElf) := do
  let (bytes, ehdr) ← (checkHeader src).mapError Halt.error
  let (ram, pt) ← (m.newTable cr3).mapError ofMapError
  let st ← (List.range ehdr.ePhnum.toNat).foldlM (loadHeader src bytes ehdr) ⟨ram, pt, 0⟩
  .ok (st.ram, ⟨st.pt, ehdr.eEntry, st.mappedBytes⟩)

/-- The headers of type `PT_LOAD` among those with the given numbers. -/
def segmentsAt (bytes : List UInt8) (ehdr : NormEhdr) (is : List Nat) : List NormPhdr :=
  (is.map fun i => readPhdr bytes (ehdr.ePhoff.toNat + i * ehdr.ePhentsize.toNat) elfClass).filter
    fun ph => ph.pType = ptLoad

/-- The `PT_LOAD` headers of the image that was fetched. -/
def ImageSource.segments : List NormPhdr :=
  match checkHeader src with
  | .error _ => []
  | .ok (bytes, ehdr) => segmentsAt bytes ehdr (List.range ehdr.ePhnum.toNat)

/-- The byte of a segment at a distance from its start. -/
def ImageSource.segmentByte (ph : NormPhdr) (k : Nat) : UInt8 :=
  if k < ph.pFilesz.toNat then src.bytes.getD (ph.pOffset.toNat + k) 0 else 0

/-- The address is in a page that was mapped, and the walk from the root leads to
this byte. -/
def Holds (m : Ram) (pt : PageTable) (addr : UInt64) (byte : UInt8) : Prop :=
  (∃ x ∈ pt.mapped, x.va = addr &&& ~~~0xFFF) ∧
    ∃ entry, m.entryFor pt.root addr = some entry ∧ entryPresent entry = true ∧
      m.pages (entryPhys entry) (addr.toNat % 4096) = byte

/-- What a load is for: pages in the user half only, with no table changed that
was not allocated for them; no page writable and executable; and every byte of
every segment in place. -/
structure LoadedSafely (src : ImageSource) (m₀ m : Ram) (pt : PageTable) : Prop where
  user : ∀ x ∈ pt.mapped, x.va < userEnd
  shared : ∀ t, ¬ m₀.Available t → m.tables t = m₀.tables t
  wx : ∀ x ∈ pt.mapped, ∀ entry, m.entryFor pt.root x.va = some entry →
    ¬ (entry &&& flagWritable ≠ 0 ∧ entry &&& flagNoExec = 0)
  holds : ∀ ph ∈ src.segments, ∀ addr : UInt64, ph.pVaddr ≤ addr →
    addr.toNat < ph.pVaddr.toNat + ph.pMemsz.toNat →
      Holds m pt addr (src.segmentByte ph (addr.toNat - ph.pVaddr.toNat))

/-- The segment ends in the user half, or is empty and has no page. -/
def NormPhdr.InUserHalf : Prop :=
  ph.pVaddr.toNat + ph.pMemsz.toNat ≤ userEnd.toNat ∨ (ph.pMemsz = 0 ∧ ph.vaEnd ≤ ph.vaStart)

instance (ph : NormPhdr) : Decidable ph.InUserHalf :=
  inferInstanceAs (Decidable (_ ∨ _))

end Godspeed.Loader
