import Godspeed.Memory.PageTable

/-!
# ELF images

The parsing half of `loader.rs`: the fields the loader reads from the executable
header and the program headers, for both ELF classes, and the places an image
may be read from.  A field is read with `getD`: no read goes past the size its
caller has compared with the length of the buffer, so the value given for a
missing byte is never used.
-/

namespace Godspeed.Loader

open Godspeed.Memory

/-- `ELF_MAGIC`. -/
def elfMagic : List UInt8 := [0x7f, 0x45, 0x4c, 0x46]

/-- `ELFCLASS64`. -/
def elfClass64 : UInt8 := 2

/-- `ELFDATA2LSB`. -/
def elfData2Lsb : UInt8 := 1

/-- `ET_EXEC`. -/
def etExec : UInt16 := 2

/-- `PT_LOAD`. -/
def ptLoad : UInt32 := 1

/-- `ELF_MACHINE` of x86_64. -/
def elfMachine : UInt16 := 62

/-- `ELF_CLASS` of x86_64. -/
def elfClass : UInt8 := 2

/-- `EI_CLASS`. -/
def eiClass : Nat := 4

/-- `EI_DATA`. -/
def eiData : Nat := 5

/-- `HEADER_WINDOW`. -/
def headerWindow : Nat := 4096

/-- `ehdr_size`. -/
def ehdrSize (cls : UInt8) : Nat := if cls = elfClass64 then 64 else 52

/-- `phdr_size`. -/
def phdrSize (cls : UInt8) : Nat := if cls = elfClass64 then 56 else 32

/-- A little-endian number of `n` bytes. -/
def leNat (b : List UInt8) (o : Nat) : Nat → Nat
  | 0 => 0
  | n + 1 => (b.getD o 0).toNat + 256 * leNat b (o + 1) n

variable (b : List UInt8) (o : Nat)

/-- `rd16`. -/
def rd16 : UInt16 := UInt16.ofNat (leNat b o 2)

/-- `rd32`. -/
def rd32 : UInt32 := UInt32.ofNat (leNat b o 4)

/-- `rd64`. -/
def rd64 : UInt64 := UInt64.ofNat (leNat b o 8)

/-- `rdaddr`. -/
def rdaddr (cls : UInt8) : UInt64 :=
  if cls = elfClass64 then rd64 b o else (rd32 b o).toUInt64

/-- `NormEhdr`. -/
structure NormEhdr where
  eType : UInt16
  eMachine : UInt16
  eEntry : UInt64
  ePhoff : UInt64
  ePhentsize : UInt16
  ePhnum : UInt16
  deriving DecidableEq, Repr

/-- `NormPhdr`. -/
structure NormPhdr where
  pType : UInt32
  pFlags : UInt32
  pOffset : UInt64
  pVaddr : UInt64
  pFilesz : UInt64
  pMemsz : UInt64
  deriving DecidableEq, Repr

/-- `read_ehdr`. -/
def readEhdr (cls : UInt8) : NormEhdr :=
  let wide := cls = elfClass64
  { eType := rd16 b 16
    eMachine := rd16 b 18
    eEntry := rdaddr b 24 cls
    ePhoff := rdaddr b (if wide then 32 else 28) cls
    ePhentsize := rd16 b (if wide then 54 else 42)
    ePhnum := rd16 b (if wide then 56 else 44) }

/-- `read_phdr`. -/
def readPhdr (off : Nat) (cls : UInt8) : NormPhdr :=
  if cls = elfClass64 then
    { pType := rd32 b off
      pFlags := rd32 b (off + 4)
      pOffset := rd64 b (off + 8)
      pVaddr := rd64 b (off + 16)
      pFilesz := rd64 b (off + 32)
      pMemsz := rd64 b (off + 40) }
  else
    { pType := rd32 b off
      pFlags := rd32 b (off + 24)
      pOffset := (rd32 b (off + 4)).toUInt64
      pVaddr := (rd32 b (off + 8)).toUInt64
      pFilesz := (rd32 b (off + 16)).toUInt64
      pMemsz := (rd32 b (off + 20)).toUInt64 }

/-- `ImageSource`.  A user image is the bytes at its range and which ranges of it
can be read. -/
inductive ImageSource
  | kernel (bytes : List UInt8)
  | user (bytes : List UInt8) (readable : Nat → Nat → Bool)

namespace ImageSource

def bytes : ImageSource → List UInt8
  | kernel bytes => bytes
  | user bytes _ => bytes

/-- `ImageSource::len`. -/
def len (src : ImageSource) : Nat := src.bytes.length

end ImageSource

/-- `checked_add` on `usize`. -/
def checkedAdd (m n : Nat) : Option Nat := if m + n < UInt64.size then some (m + n) else none

/-- `checked_mul` on `usize`. -/
def checkedMul (m n : Nat) : Option Nat := if m * n < UInt64.size then some (m * n) else none

/-- `ImageSource::read_into`, for a destination of `n` bytes. -/
def ImageSource.readInto (src : ImageSource) (off n : Nat) : Option (List UInt8) :=
  match checkedAdd off n with
  | none => none
  | some stop =>
    if src.len < stop then none
    else
      match src with
      | .kernel bytes => some ((bytes.drop off).take n)
      | .user bytes readable => if readable off n then some ((bytes.drop off).take n) else none

lemma ImageSource.readInto_eq_some {src : ImageSource} {off n : Nat} {out : List UInt8}
    (h : src.readInto off n = some out) :
    ∀ i < n, out.getD i 0 = src.bytes.getD (off + i) 0 := by
  have hout : out = (src.bytes.drop off).take n := by
    unfold readInto at h
    split at h
    · cases h
    split at h
    · cases h
    split at h
    · cases h
      rfl
    split at h
    · cases h
      rfl
    · cases h
  intro i hi
  subst hout
  simp only [List.getD_eq_getElem?_getD, List.getElem?_take, List.getElem?_drop]
  rw [if_pos hi]

end Godspeed.Loader
