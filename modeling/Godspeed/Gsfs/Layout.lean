import Godspeed.Lib.Word
import Mathlib.Data.List.Basic

/-!
# The blocks of a GSFS0008 volume

The layouts of `services/fs/src/main.rs` and the checksum of `crc32.rs`.  A block
is a word of 4096 bits whose bytes are in little-endian order, so that a field is
read and written by its byte offset (`Word.num`, `Word.put`).

* a directory block has seven records of 64 bytes, the checksum of the records at
  448, and the times of the records with a checksum of their own behind it;
* a data block has 508 bytes and their checksum;
* an extent block has a count, up to 31 runs and the checksum of the first 508
  bytes, which is where a data block has it;
* the superblock has its checksum at 136; the commit record of the journal names
  the home of each block and carries a checksum over their checksums.
-/

namespace Godspeed.Gsfs

open Word

/-- `[u8; BLOCK]`. -/
abbrev Block := BitVec 4096

/-- `BITS_PER_BMBLOCK`. -/
def bitsPerBmblock : Nat := 4096

variable (b : Block)

/-- `u32_at`. -/
def u32At (o : Nat) : Nat := num b o 4

/-- `u64_at`. -/
def u64At (o : Nat) : Nat := num b o 8

section Checksum

def crcBit (c : Nat) : Nat :=
  if c % 2 = 1 then 0xEDB88320 ^^^ (c >>> 1) else c >>> 1

/-- `TABLE[i]`. -/
def crcEntry (i : Nat) : Nat :=
  crcBit (crcBit (crcBit (crcBit (crcBit (crcBit (crcBit (crcBit i)))))))

/-- The loop of `crc32`. -/
def crcLoop : List UInt8 → Nat → Nat
  | [], crc => crc
  | b :: rest, crc => forced (crcEntry ((crc ^^^ b.toNat) &&& 0xFF) ^^^ (crc >>> 8)) (crcLoop rest)

/-- `crc32`. -/
def crc32 (data : List UInt8) : Nat := crcLoop data 0xFFFFFFFF ^^^ 0xFFFFFFFF

/-- The checksum of `n` bytes of a block. -/
def crcAt (o n : Nat) : Nat := crc32 (toBytes n (num b o n))

end Checksum

section Directory

/-- `RECS_PER_BLOCK`. -/
def recsPerBlock : Nat := 7

/-- `NAME_MAX`. -/
def nameMax : Nat := 38

/-- `REC_SEALED_BIT`. -/
def recSealedBit : Nat := 2 ^ 63

/-- `ITYPE_FREE`. -/
def itypeFree : Nat := 0

/-- `ITYPE_FILE`. -/
def itypeFile : Nat := 1

/-- `ITYPE_DIR`. -/
def itypeDir : Nat := 2

/-- `ITYPE_FILE_FRAG`. -/
def itypeFileFrag : Nat := 3

/-- `is_file`. -/
def isFile (itype : Nat) : Bool := itype = itypeFile || itype = itypeFileFrag

variable (b : Block) (slot : Nat)

/-- The checksum over the records of a directory block is right. -/
def dirCrcOk : Bool := u32At b 448 = crcAt b 0 448

/-- `dir_times_stamp`. -/
def dirTimesStamp : Block := put b 508 4 (crcAt b 452 56)

/-- Both checksums of a directory block, as `td_write` stamps them. -/
def dirStamp : Block := dirTimesStamp (put b 448 4 (crcAt b 0 448))

def recType : Nat := num b (slot * 64) 1

def recNameLen : Nat := num b (slot * 64 + 1) 1

def recName : List UInt8 :=
  toBytes (recNameLen b slot) (num b (slot * 64 + 2) (recNameLen b slot))

/-- `rec_size`. -/
def recSize : Nat := u64At b (slot * 64 + 40) % recSealedBit

/-- `rec_is_sealed`. -/
def recIsSealed : Bool := recSealedBit ≤ u64At b (slot * 64 + 40)

/-- `first_block` of a record. -/
def recFirst : Nat := u64At b (slot * 64 + 48)

/-- `block_count` of a record. -/
def recCount : Nat := u64At b (slot * 64 + 56)

/-- A record that `dir_find` compares: in use, with a name of a possible length. -/
def recNamed (name : List UInt8) : Bool :=
  recType b slot ≠ itypeFree && recNameLen b slot ≠ 0 && recNameLen b slot ≤ nameMax &&
    recName b slot = name

/-- `rec_set_size`. -/
def recSetSize (slot size : Nat) : Block :=
  put b (slot * 64 + 40) 8
    (size % recSealedBit + u64At b (slot * 64 + 40) / recSealedBit * recSealedBit)

/-- `rec_seal`. -/
def recSeal : Block :=
  put b (slot * 64 + 40) 8 (u64At b (slot * 64 + 40) % recSealedBit + recSealedBit)

/-- `encode_rec`. -/
def encodeRec (slot itype : Nat) (name : List UInt8) (size first count : Nat) : Block :=
  let name := name.take nameMax
  let b := put b (slot * 64) 64 0
  let b := put b (slot * 64) 1 itype
  let b := put b (slot * 64 + 1) 1 name.length
  let b := put b (slot * 64 + 2) name.length (ofBytes name)
  let b := put b (slot * 64 + 40) 8 (size % recSealedBit)
  let b := put b (slot * 64 + 48) 8 first
  put b (slot * 64 + 56) 8 count

/-- The name of a record replaced, as `rename` does. -/
def recSetName (name : List UInt8) : Block :=
  let b := put b (slot * 64 + 1) 1 name.length
  let b := put b (slot * 64 + 2) nameMax 0
  put b (slot * 64 + 2) name.length (ofBytes name)

/-- The extent of a record replaced, as `persist_entry` does. -/
def recSetExtent (slot first count : Nat) : Block :=
  put (put b (slot * 64 + 48) 8 first) (slot * 64 + 56) 8 count

/-- `TIME_UNKNOWN`. -/
def timeUnknown : Nat := 0

/-- `dir_times_get`. -/
def dirTimesGet : Nat × Nat :=
  if recsPerBlock ≤ slot then (timeUnknown, timeUnknown)
  else if u32At b 508 ≠ crcAt b 452 56 then (timeUnknown, timeUnknown)
  else (u32At b (452 + slot * 8), u32At b (452 + slot * 8 + 4))

/-- `dir_times_set`. -/
def dirTimesSet (slot mtime ctime : Nat) : Block :=
  if recsPerBlock ≤ slot then b
  else put (put b (452 + slot * 8) 4 mtime) (452 + slot * 8 + 4) 4 ctime

end Directory

section Files

/-- `DATA_PAYLOAD`. -/
def dataPayload : Nat := 508

/-- `MAX_FILE_BYTES`. -/
def maxFileBytes : Nat := 7 * dataPayload

/-- `data_block`. -/
def dataBlock (payload : List UInt8) : Block :=
  let b := put (0 : Block) 0 dataPayload (ofBytes (payload.take dataPayload))
  put b 508 4 (crcAt b 0 dataPayload)

/-- The checksum of a data block is right. -/
def dataCrcOk : Bool := u32At b 508 = crcAt b 0 dataPayload

/-- `EXT_MAX`. -/
def extMax : Nat := 31

/-- The checksum of an extent block is right. -/
def extCrcOk : Bool := u32At b 508 = crcAt b 0 508

def extRuns : List (Nat × Nat) :=
  (List.range (min (u32At b 0) extMax)).map fun i => (u64At b (8 + i * 16), u64At b (8 + i * 16 + 8))

/-- Write the runs from number `i` on. -/
def putRuns (b : Block) : Nat → List (Nat × Nat) → Block
  | _, [] => b
  | i, (start, len) :: rest =>
    putRuns (put (put b (8 + i * 16) 8 start) (8 + i * 16 + 8) 8 len) (i + 1) rest

/-- The block `ext_write` builds. -/
def extBlock (runs : List (Nat × Nat)) : Block :=
  let b := putRuns (put (0 : Block) 0 4 runs.length) 0 runs
  put b 508 4 (crcAt b 0 508)

/-- `nth_data_block`. -/
def nthDataBlock : List (Nat × Nat) → Nat → Option Nat
  | [], _ => none
  | (start, len) :: rest, n => if n < len then some (start + n) else nthDataBlock rest (n - len)

end Files

section Superblock

/-- `LABEL_MAX`. -/
def labelMax : Nat := 31

/-- `FEAT_INCOMPAT_EXTENTS`. -/
def featIncompatExtents : Nat := 1

/-- `FEAT_RO_COMPAT_SEALED`. -/
def featRoCompatSealed : Nat := 1

/-- `FEAT_COMPAT_BACKUP_SB`. -/
def featCompatBackupSb : Nat := 1

/-- `SB_MAGIC` as a number. -/
def sbMagic : Nat := ofBytes [0x47, 0x53, 0x46, 0x53, 0x30, 0x30, 0x30, 0x38]

/-- `SbFields`.  A label is the number with its bytes. -/
structure SbFields where
  rootFirstBlock : Nat
  rootBlockCount : Nat
  freeBlocks : Nat
  flags : Nat
  labelLen : Nat
  label : Nat
  featCompat : Nat
  featRoCompat : Nat
  featIncompat : Nat
  deriving DecidableEq, Repr

def sbFields : SbFields where
  rootFirstBlock := u64At b 48
  rootBlockCount := u64At b 56
  freeBlocks := u64At b 64
  flags := u32At b 72
  labelLen := min (num b 76 1) labelMax
  label := num b 77 (min (num b 76 1) labelMax)
  featCompat := u32At b 124
  featRoCompat := u32At b 128
  featIncompat := u32At b 132

/-- A superblock with these fields, as `persist_super` writes it. -/
def sbUpdate (f : SbFields) : Block :=
  let ll := min f.labelLen labelMax
  let b := put b 48 8 f.rootFirstBlock
  let b := put b 56 8 f.rootBlockCount
  let b := put b 64 8 f.freeBlocks
  let b := put b 72 4 f.flags
  let b := put b 76 1 ll
  let b := put b 77 labelMax 0
  let b := put b 77 ll f.label
  let b := put b 124 4 f.featCompat
  let b := put b 128 4 f.featRoCompat
  let b := put b 132 4 f.featIncompat
  put b 136 4 (crcAt b 0 136)

end Superblock

section Journal

/-- `TXN_CAP`. -/
def txnCap : Nat := 56

/-- `JOURNAL_MAGIC`. -/
def journalMagic : Nat := 0x474A3034

/-- The home addresses of a commit record, from number `i` on. -/
def putHomes (b : Block) : Nat → List Nat → Block
  | _, [] => b
  | i, lba :: rest => putHomes (put b (8 + i * 8) 8 lba) (i + 1) rest

/-- The checksum over the checksums of some blocks. -/
def payloadCrc (blocks : List Block) : Nat :=
  crc32 (blocks.flatMap fun b => toBytes 4 (crcAt b 0 512))

/-- The commit record of some staged blocks. -/
def commitRecord (staged : List (Nat × Block)) : Block :=
  let n := staged.length
  let b := putHomes (put (put (0 : Block) 0 4 journalMagic) 4 4 n) 0 (staged.map Prod.fst)
  let b := put b (8 + n * 8) 4 (payloadCrc (staged.map Prod.snd))
  put b 508 4 (crcAt b 0 (12 + n * 8))

end Journal

section Paths

/-- `components`. -/
def components (path : List UInt8) : List (List UInt8) :=
  (path.splitOn 0x2f).filter fun c => !c.isEmpty

/-- `valid_name`. -/
def validName (name : List UInt8) : Bool :=
  !name.isEmpty && name.length ≤ nameMax && !name.any fun b => b = 0x2f || b < 0x20 || b = 0x7f

/-- `path_is_ancestor`. -/
def pathIsAncestor (src dst : List UInt8) : Bool :=
  if dst.length < src.length then false
  else if dst.take src.length ≠ src then false
  else if dst.length = src.length then true
  else if src = [0x2f] then true
  else dst.getD src.length 0 = 0x2f

/-- `Fs::path_in_subtree`. -/
def pathInSubtree (candidate dir : List UInt8) : Bool :=
  candidate = dir ||
    (dir.length < candidate.length && candidate.take dir.length = dir &&
      candidate.getD dir.length 0 = 0x2f)

end Paths

end Godspeed.Gsfs
