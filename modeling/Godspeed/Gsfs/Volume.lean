import Godspeed.Lib.Program
import Godspeed.Gsfs.Layout

/-!
# A mounted volume and its transactions

`Fs` is the in-memory view of a mounted volume, `World` puts the disk beside it.
While a transaction is open, structural writes are staged and read back from
there (`World.read`); `commitTxn` sends them through the journal.  Every block
that reaches the disk is appended to `log`, so that a power cut is a prefix of
the log.

All block writes succeed.  A read may fail: `fault` says which blocks the read
number `tick` does not get, where a scan over the blocks of a directory counts as
one read.  A block that is read again after a wrong checksum fails when the last of
the attempts does.  What the drive answers to a flush is an input too (`flush`, by
the number of blocks written so far), and so is the wall clock that stamps records
(`now`).  A path looked up outside a transaction is remembered in `walkCache` and
forgotten at the next structural write.
-/

namespace Godspeed.Gsfs

open Word Prog

inductive Refusal
  | txnTooLarge
  | superblockReadFailed
  | superblockWriteFailed
  | backupSuperblockWriteFailed
  | zeroAlloc
  | noSpace
  | bitmapReadFailed
  | bitmapWriteFailed
  | fileTooFragmented
  | extentBlockWriteFailed
  | extentBlockReadFailed
  | extentOutOfRange
  | dirReadFailed
  | dirWriteFailed
  | dirCopyFailed
  | dirGrowInitFailed
  | dirBlockInitFailed
  | recordReadFailed
  | recordWriteFailed
  | blockWriteFailed
  | entryNotFound
  | notFound
  | pathNotFound
  | sourceNotFound
  | destPathNotFound
  | createdDirNotFound
  | parentNotDirectory
  | destNotDirectory
  | componentNotDirectory
  | badName
  | badNewName
  | badDestName
  | alreadyExists
  | nameAlreadyExists
  | destExists
  | fileTooLarge
  | fileSealed
  | pathIsDirectory
  | notFile
  | unalignedOffset
  | writePastExtent
  | onlyFileSealed
  | cannotSealRoot
  | cannotDeleteRoot
  | directoryNotEmpty
  | treeTooDeep
  | walkAbandoned
  | cannotMoveRoot
  | moveIntoItself
  | pathTooLong
  | tooManyOpenFiles
  | mintFailed
  | grantFailed
  | readOnly
  | shuttingDown
  deriving DecidableEq, Repr

/-- `Loc`. -/
structure Loc where
  block : Nat
  slot : Nat
  deriving DecidableEq, Repr

/-- `Entry`. -/
structure Entry where
  itype : Nat
  isSealed : Bool
  size : Nat
  firstBlock : Nat
  blockCount : Nat
  loc : Option Loc
  deriving DecidableEq, Repr

/-- `OpenFile`. -/
structure OpenFile where
  rid : Nat
  appendOnly : Bool
  writeHwm : Nat
  path : List UInt8
  deriving DecidableEq, Repr

/-- `Fs`. -/
structure Fs where
  totalBlocks : Nat
  bitmapStart : Nat
  dataStart : Nat
  journalStart : Nat
  rootFirstBlock : Nat
  rootBlockCount : Nat
  freeBlocks : Nat
  flags : Nat
  label : Nat
  labelLen : Nat
  featCompat : Nat
  featRoCompat : Nat
  featIncompat : Nat
  readOnly : Bool
  quiescedUntil : Int
  walkCache : Option (List UInt8 × Entry)
  sbPersisted : Option SbFields
  ioFailStreak : Nat
  txnActive : Bool
  staged : List (Nat × Block)
  txnOverflow : Bool
  openFiles : List OpenFile

/-- The volume, its disk and what comes from outside. -/
structure World where
  fs : Fs
  disk : Nat → Block
  log : List (Nat × Block)
  now : Nat
  flush : Nat → Bool
  fault : Nat → Nat → Bool
  tick : Nat

abbrev FsM := Prog World Refusal

def applyWrites (disk : Nat → Block) (writes : List (Nat × Block)) : Nat → Block :=
  writes.foldl (fun d e => Function.update d e.1 e.2) disk

namespace World

variable (w : World) (lba : Nat)

/-- `tb_read`: a block as the open transaction sees it. -/
def read : Block :=
  if w.fs.txnActive then ((w.fs.staged.lookup lba)).getD (w.disk lba) else w.disk lba

/-- The read number `tick` does not get this block.  Staged blocks are in memory. -/
def faulty : Bool :=
  w.fault w.tick lba && !(w.fs.txnActive && w.fs.staged.any fun e => e.1 == lba)

/-- What the read number `tick` sees; a block it does not get is shown as zeros,
which pass no check. -/
def sight : Block := if w.faulty lba then 0 else w.read lba

def ticked : World := { w with tick := w.tick + 1 }

def onFs (f : Fs → Fs) (w : World) : World := { w with fs := f w.fs }

/-- `block_write`. -/
def blockWrite (b : Block) : World :=
  { w with disk := Function.update w.disk lba b, log := w.log ++ [(lba, b)] }

/-- `block_write` of several blocks in order. -/
def blockWrites (writes : List (Nat × Block)) : World :=
  { w with disk := applyWrites w.disk writes, log := w.log ++ writes }

end World

/-- The staged blocks with one more written; `none` if there is no room. -/
def stage (staged : List (Nat × Block)) (lba : Nat) (b : Block) : Option (List (Nat × Block)) :=
  if staged.any fun e => e.1 == lba then
    some (staged.map fun e => if e.1 = lba then (lba, b) else e)
  else if txnCap ≤ staged.length then none
  else some (staged ++ [(lba, b)])

/-- `tb_write`. -/
def tbWrite (lba : Nat) (b : Block) : FsM Bool := fun w =>
  let w := w.onFs fun fs => { fs with walkCache := none }
  if w.fs.txnActive then
    match stage w.fs.staged lba b with
    | some staged => (.ok true, w.onFs fun fs => { fs with staged := staged })
    | none => (.ok false, w.onFs fun fs => { fs with txnOverflow := true })
  else (.ok true, w.blockWrite lba b)

variable (lba : Nat) {α : Type}

/-- `tb_write`, refusing when there is no room. -/
def tbWriteOr (b : Block) (e : Refusal) : FsM Unit := do
  let ok ← tbWrite lba b
  require ok e

def scan (f : (Nat → Block) → α) : FsM α := fun w => (.ok (f w.sight), w.ticked)

/-- `tb_read`, refusing when the block cannot be read. -/
def tbReadOr (lba : Nat) (e : Refusal) : FsM Block := fun w =>
  if w.faulty lba then (.error e, w.ticked) else (.ok (w.read lba), w.ticked)

/-- `td_read` of a block that is read as `rd` says. -/
def tdRead (rd : Nat → Block) (lba : Nat) : Option Block :=
  if dirCrcOk (rd lba) then some (rd lba) else none

/-- `td_read`, refusing when there is no block with a right checksum. -/
def tdReadOr (e : Refusal) : FsM Block := do
  let blk ← scan fun rd => tdRead rd lba
  ofOption blk e

/-- `td_write`, refusing when there is no room. -/
def tdWriteOr (b : Block) (e : Refusal) : FsM Unit := tbWriteOr lba (dirStamp b) e

/-- `begin_txn`. -/
def beginTxn : FsM Unit := modify <| World.onFs fun fs =>
  { fs with walkCache := none, txnActive := true, staged := [], txnOverflow := false }

/-- `abort_txn`. -/
def abortTxn : FsM Unit := modify <| World.onFs fun fs =>
  { fs with walkCache := none, txnActive := false, staged := [], txnOverflow := false }

/-- The blocks that `commit_txn` writes before the journal is invalidated: the
staged blocks to the journal, the commit record, the staged blocks home. -/
def commitWrites (journalStart : Nat) (staged : List (Nat × Block)) : List (Nat × Block) :=
  staged.mapIdx (fun i e => (journalStart + 1 + i, e.2)) ++
    [(journalStart, commitRecord staged)] ++ staged

/-- `commit_txn`. -/
def commitTxn : FsM Unit := do
  let fs ← Prog.read World.fs
  if fs.txnOverflow then
    abortTxn
    refuse .txnTooLarge
  else if fs.staged = [] then modify <| World.onFs fun fs => { fs with txnActive := false }
  else
    modify <| World.onFs fun fs => { fs with txnActive := false }
    modify fun w => w.blockWrites (commitWrites fs.journalStart fs.staged)
    let durable ← Prog.read fun w => w.flush w.log.length
    -- without a confirmed flush the record stays where it is
    if durable then modify fun w => w.blockWrite fs.journalStart 0 else pure ()

/-- `end_txn` around a request that ran in a transaction. -/
def endTxn (body : FsM α) : FsM α := do
  let result ← attempt body
  match result with
  | .ok a =>
    commitTxn
    pure a
  | .error e =>
    abortTxn
    refuse e

def inTxn (body : FsM α) : FsM α := do
  beginTxn
  endTxn body

end Godspeed.Gsfs
