import Godspeed.Gsfs.Serve

/-!
# Mounting and formatting

The volume that a mount builds from the superblock read before and after a recovery, and
the volume that `format_into` leaves.  The feature masks are those of the first reading.
-/

namespace Godspeed.Gsfs

open Word Prog

/-- The bits of a mask that are not known: `mask & !known`. -/
def unknownBits (mask known : Nat) : Nat := mask ^^^ (mask &&& known)

/-- The volume that `mount_into` builds, from the superblock read first and the one
read after the recovery. -/
def mountedFs (before sb : Block) : Fs where
  totalBlocks := u64At sb 16
  bitmapStart := u64At sb 24
  dataStart := u64At sb 40
  journalStart := u64At sb 108
  rootFirstBlock := (sbFields sb).rootFirstBlock
  rootBlockCount := (sbFields sb).rootBlockCount
  freeBlocks := (sbFields sb).freeBlocks
  flags := (sbFields sb).flags
  label := (sbFields sb).label
  labelLen := (sbFields sb).labelLen
  featCompat := (sbFields before).featCompat
  featRoCompat := (sbFields before).featRoCompat
  featIncompat := (sbFields before).featIncompat
  readOnly := unknownBits (sbFields before).featRoCompat featRoCompatSealed ≠ 0
  quiescedUntil := 0
  walkCache := none
  sbPersisted := none
  ioFailStreak := 0
  txnActive := false
  staged := []
  txnOverflow := false
  openFiles := []

section Formatting

/-- `JOURNAL_BLOCKS`. -/
def journalLength : Nat := 64

variable (capacity : Nat)

/-- `bitmap_blocks` of a disk. -/
def bitmapBlocks : Nat := (capacity + bitsPerBmblock - 1) / bitsPerBmblock

/-- `data_start` of a disk. -/
def dataStartOf : Nat := 1 + bitmapBlocks capacity + journalLength

def freshSuper (label : List UInt8) : Block :=
  let b := put (0 : Block) 0 8 sbMagic
  let b := put b 8 4 8
  let b := put b 12 4 512
  let b := put b 16 8 capacity
  let b := put b 24 8 1
  let b := put b 32 8 (bitmapBlocks capacity)
  let b := put b 40 8 (dataStartOf capacity)
  let b := put b 108 8 (1 + bitmapBlocks capacity)
  let b := put b 116 8 journalLength
  sbUpdate b
    { rootFirstBlock := dataStartOf capacity
      rootBlockCount := 1
      freeBlocks := capacity - (dataStartOf capacity + 1) - 1
      flags := 0
      labelLen := min label.length labelMax
      label := ofBytes (label.take labelMax)
      featCompat := featCompatBackupSb
      featRoCompat := 0
      featIncompat := 0 }

/-- The bitmap block number `k` of a new volume: system blocks, root and backup. -/
def freshBitmap (capacity k : Nat) : Block :=
  let used := dataStartOf capacity + 1 - k * bitsPerBmblock
  let b := setBits (0 : Block) 0 used true
  if (capacity - 1) / bitsPerBmblock = k then setBits b ((capacity - 1) % bitsPerBmblock) 1 true
  else b

/-- The disk after `format_into`. -/
def freshDisk (disk : Nat → Block) (capacity : Nat) (label : List UInt8) : Nat → Block := fun lba =>
  if lba = 0 ∨ lba = capacity - 1 then freshSuper capacity label
  else if lba < 1 + bitmapBlocks capacity then freshBitmap capacity (lba - 1)
  else if lba = 1 + bitmapBlocks capacity then 0
  else if lba = dataStartOf capacity then dirStamp 0
  else disk lba

/-- The volume with a given memory and disk, all of whose reads and flushes succeed. -/
def undisturbed (fs : Fs) (disk : Nat → Block) : World where
  fs := fs
  disk := disk
  log := []
  now := 0
  flush := fun _ => true
  fault := fun _ _ => false
  tick := 0

end Formatting

def serveAll (secs : Int) : List Request → World → World
  | [], w => w
  | r :: rest, w => serveAll secs rest (serve secs r w).2

end Godspeed.Gsfs
