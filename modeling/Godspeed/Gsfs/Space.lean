import Godspeed.Lib.Runs
import Godspeed.Gsfs.Volume

/-!
# Superblock, bitmap and extents

The allocation half of `services/fs/src/main.rs`.  `alloc_run` takes a stretch of
blocks that are clear in the bitmap; when no stretch is long enough a file gets up
to 31 of them and an extent block that lists them (`allocFile`).  The count of
free blocks, the root and the feature masks are kept in memory and written to both
superblocks with each change (`persistSuper`).

A refusal leaves what was changed in memory as it is: only staged blocks are
dropped by the transaction.
-/

namespace Godspeed.Gsfs

open Word Prog World

/-- The superblock fields of the mounted volume. -/
def Fs.sbFields (fs : Fs) : SbFields where
  rootFirstBlock := fs.rootFirstBlock
  rootBlockCount := fs.rootBlockCount
  freeBlocks := fs.freeBlocks
  flags := fs.flags
  labelLen := fs.labelLen
  label := fs.label
  featCompat := fs.featCompat
  featRoCompat := fs.featRoCompat
  featIncompat := fs.featIncompat

/-- `persist_super`. -/
def persistSuper : FsM Unit := do
  let fs ← Prog.read fs
  if fs.sbPersisted = some fs.sbFields then pure ()
  else
    let sb ← tbReadOr 0 .superblockReadFailed
    tbWriteOr 0 (sbUpdate sb fs.sbFields) .superblockWriteFailed
    tbWriteOr (fs.totalBlocks - 1) (sbUpdate sb fs.sbFields) .backupSuperblockWriteFailed
    modify <| onFs fun fs' => { fs' with sbPersisted := some fs.sbFields }

variable (w : World) (blocks : Nat)

section Bitmap

def World.bitAt (idx : Nat) : Bool :=
  (w.read (w.fs.bitmapStart + idx / bitsPerBmblock)).getLsbD (idx % bitsPerBmblock)

/-- A block that may be allocated: its bit is clear and it is not one of the root. -/
def World.allocatable (idx : Nat) : Bool :=
  !(w.fs.rootFirstBlock ≤ idx && idx < w.fs.rootFirstBlock + w.fs.rootBlockCount) && !w.bitAt idx

/-- One bitmap block of `bm_set_range`: the bits of `[first, stop)` that are in it. -/
def bmSetBlock (first stop : Nat) (used : Bool) (k : Nat) : FsM Unit := do
  let lba ← Prog.read fun w : World => w.fs.bitmapStart + k
  let blk ← tbReadOr lba .bitmapReadFailed
  let lo := max first (k * bitsPerBmblock)
  let hi := min stop ((k + 1) * bitsPerBmblock)
  tbWriteOr lba (setBits blk (lo - k * bitsPerBmblock) (hi - lo) used) .bitmapWriteFailed

variable (first count : Nat)

/-- The bitmap blocks that hold the bits of `[first, first + count)`. -/
def bmBlocks : List Nat :=
  if count = 0 then []
  else List.range' (first / bitsPerBmblock)
    ((first + count - 1) / bitsPerBmblock - first / bitsPerBmblock + 1)

/-- `bm_set_range`. -/
def bmSetRange (used : Bool) : FsM Unit :=
  forEach (bmBlocks first count) (bmSetBlock first (first + count) used)

/-- Take blocks off the free count and write it. -/
def takeBlocks (n : Nat) : FsM Unit := do
  modify <| onFs fun fs => { fs with freeBlocks := fs.freeBlocks - n }
  persistSuper

/-- One read gets all bitmap blocks from that of `first` to that of `last`. -/
def World.bitmapSeen (first last : Nat) : Bool :=
  (List.range' (first / bitsPerBmblock) (last / bitsPerBmblock + 1 - first / bitsPerBmblock)).all
    fun k => !w.faulty (w.fs.bitmapStart + k)

/-- A search in the bitmap: it starts at `from`, and its answer is used only if the
bitmap blocks up to the last block `last` it looks at were read. -/
def searchBitmap {α : Type} (start : World → Nat) (search : World → Option α) (last : World → α → Nat) :
    FsM (Option (Option α)) := fun w =>
  let found := search w
  let seen := w.bitmapSeen (start w) ((found.map (last w)).getD (w.fs.totalBlocks - 1))
  (.ok (if seen then some found else none), w.ticked)

/-- `alloc_run`. -/
def allocRun (n : Nat) : FsM Nat := do
  if n = 0 then refuse .zeroAlloc
  else
    let answer ← searchBitmap (fun w => w.fs.dataStart)
      (fun w => Runs.firstRun w.allocatable n (w.fs.totalBlocks - w.fs.dataStart) w.fs.dataStart 0)
      (fun _ start => start + n - 1)
    let found ← ofOption answer .bitmapReadFailed
    let start ← ofOption found .noSpace
    bmSetRange start n true
    takeBlocks n
    pure start

/-- `free_run`. -/
def freeRun : FsM Unit := do
  if count = 0 then pure ()
  else
    bmSetRange first count false
    modify <| onFs fun fs => { fs with freeBlocks := fs.freeBlocks + count }
    persistSuper

/-- `find_free_run`. -/
def World.findFreeRun (start : Nat) : Option (Nat × Nat) :=
  Runs.nextRun w.allocatable (w.fs.totalBlocks - max start w.fs.dataStart) (max start w.fs.dataStart) 0

end Bitmap

/-- `ext_of` of the extent block at an address. -/
def extOf (rd : Nat → Block) (lba : Nat) : Option (List (Nat × Nat)) :=
  if extCrcOk (rd lba) then some (extRuns (rd lba)) else none

/-- Clear the bits of some runs, going on whatever happens. -/
def clearRuns (runs : List (Nat × Nat)) : FsM Unit :=
  forEach runs fun run => do
    let _ ← attempt (bmSetRange run.1 run.2 false)
    pure ()

/-- The loop of `alloc_extents`, with room for `room` more runs. -/
def allocRuns : Nat → Nat → Nat → List (Nat × Nat) → FsM (List (Nat × Nat))
  | room, need, start, out =>
    if need = 0 then pure out
    else
      match room with
      | 0 => do
        clearRuns out
        refuse .fileTooFragmented
      | room + 1 => do
        -- a bitmap block that cannot be read ends the search like a full disk
        let answer ← searchBitmap (fun w => max start w.fs.dataStart)
          (fun w => w.findFreeRun start) (fun w run => min (run.1 + run.2) (w.fs.totalBlocks - 1))
        match answer.join with
        | none => do
          clearRuns out
          refuse .noSpace
        | some (first, len) => do
          bmSetRange first (min len need) true
          allocRuns room (need - min len need) (first + len) (out ++ [(first, min len need)])

/-- `alloc_extents`. -/
def allocExtents : FsM (List (Nat × Nat)) := do
  let start ← Prog.read fun w : World => w.fs.dataStart
  let runs ← allocRuns extMax blocks start []
  takeBlocks blocks
  pure runs

/-- Give some runs back, going on whatever happens. -/
def freeRuns (runs : List (Nat × Nat)) : FsM Unit :=
  forEach runs fun run => do
    let _ ← attempt (freeRun run.1 run.2)
    pure ()

/-- The fragmented form of `alloc_file`. -/
def allocFragmented : FsM (Nat × Nat × Nat) := do
  let runs ← allocExtents blocks
  let ext ← attempt (allocRun 1)
  match ext with
  | .error e =>
    freeRuns runs
    refuse e
  | .ok lba =>
    let ok ← tbWrite lba (extBlock runs)
    if ok then
      let fs ← Prog.read fs
      if fs.featIncompat &&& featIncompatExtents = 0 then
        modify <| onFs fun fs =>
          { fs with featIncompat := fs.featIncompat ||| featIncompatExtents }
        persistSuper
      else pure ()
      pure (itypeFileFrag, lba, 1)
    else
      freeRuns [(lba, 1)]
      freeRuns runs
      refuse .extentBlockWriteFailed

/-- `alloc_file`. -/
def allocFile : FsM (Nat × Nat × Nat) := do
  let run ← attempt (allocRun blocks)
  match run with
  | .ok first => pure (itypeFile, first, blocks)
  | .error .noSpace => allocFragmented blocks
  | .error e => refuse e

/-- `free_file`. -/
def freeFile (e : Entry) : FsM Unit := do
  if e.itype = itypeFileFrag then
    let found ← scan fun rd => extOf rd e.firstBlock
    let runs ← ofOption found .extentBlockReadFailed
    forEach runs fun run => freeRun run.1 run.2
    freeRun e.firstBlock e.blockCount
  else freeRun e.firstBlock e.blockCount

end Godspeed.Gsfs
