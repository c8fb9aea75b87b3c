import Godspeed.Gsfs.Files

/-!
# `drives check` and `drives scrub`

`check` clears the bitmap, walks the tree from the root and marks what it meets; the
bits and the free count are rebuilt from the walk.  Its writes are not journaled.
`scrub` is the same walk without the marks, a second implementation in the source.
A walk gives up when a directory is too deep and when the fourth data block in a row
cannot be verified; the length of the current row is kept in `ioFailStreak` from one
walk to the next.

The count of set bits before the walk is left out: it is only logged.
-/

namespace Godspeed.Gsfs

open Word Prog

/-- The counts of a walk; the first three are `u32`. -/
structure Tally where
  files : Nat
  dirs : Nat
  bad : Nat
  blocks : Nat
  deriving DecidableEq, Repr

namespace Tally

variable (st : Tally)

def file : Tally := { st with files := (st.files + 1) % 2 ^ 32 }

def dir : Tally := { st with dirs := (st.dirs + 1) % 2 ^ 32 }

/-- One more file or directory block that is damaged, unless it was found in order. -/
def verdict (ok : Bool) : Tally :=
  if ok then st else { st with bad := (st.bad + 1) % 2 ^ 32 }

def add (n : Nat) : Tally := { st with blocks := st.blocks + n }

end Tally

/-- `WALK_FAIL_MAX`. -/
def walkFailMax : Nat := 4

/-- `note_walk_read`. -/
def noteWalkRead (ok : Bool) : FsM Unit := do
  if ok then modify <| World.onFs fun fs => { fs with ioFailStreak := 0 }
  else
    modify <| World.onFs fun fs => { fs with ioFailStreak := fs.ioFailStreak + 1 }
    let streak ← Prog.read fun w : World => w.fs.ioFailStreak
    require (streak < walkFailMax) .walkAbandoned

/-- Verify some data blocks; whether all of them and `ok` were in order. -/
def verifyData (blocks : List Nat) (ok : Bool) : FsM Bool :=
  foldEach blocks ok fun lba ok => do
    let got ← scan fun rd => (dataRead rd lba).isSome
    noteWalkRead got
    pure (ok && got)

/-- The runs of a fragmented file: marked and verified one after the other. -/
def checkRuns (runs : List (Nat × Nat)) (st : Tally) : FsM (Bool × Tally) :=
  foldEach runs (true, st) fun run acc => do
    bmSetRange run.1 run.2 true
    let ok ← verifyData (extent run.1 run.2) acc.1
    pure (ok, acc.2.add run.2)

/-- `check_subtree`, with `levels` levels left. -/
def checkSubtree : Nat → Nat × Nat × Nat → Tally → FsM Tally
  | 0, _, _ => refuse .treeTooDeep
  | levels + 1, (itype, first, count), st => do
    bmSetRange first count true
    let st := st.add count
    if itype = itypeDir then
      foldEach (extent first count) st.dir fun block st => do
        let blk ← scan fun rd => tdRead rd block
        match blk with
        | none => pure (st.verdict false)
        | some blk => foldEach (kids blk) st (checkSubtree levels)
    else if itype = itypeFileFrag then
      let found ← scan fun rd => extOf rd first
      match found with
      | none => pure (st.file.verdict false)
      | some runs => do
        let (ok, st) ← checkRuns runs st.file
        pure (st.verdict ok)
    else
      let ok ← verifyData (extent first count) true
      pure (st.file.verdict ok)

/-- What `check` reports. -/
structure CheckReport where
  tally : Tally
  storedBefore : Nat
  deriving DecidableEq, Repr

/-- `check`. -/
def check : FsM CheckReport := do
  let fs ← Prog.read World.fs
  modify fun w => w.blockWrites
    ((List.range' fs.bitmapStart (fs.journalStart - fs.bitmapStart)).map fun lba => (lba, 0))
  bmSetRange 0 fs.dataStart true
  bmSetRange (fs.totalBlocks - 1) 1 true
  let st ← checkSubtree (maxTreeDepth + 1) (itypeDir, fs.rootFirstBlock, fs.rootBlockCount)
    ⟨0, 0, 0, fs.dataStart + 1⟩
  modify <| World.onFs fun fs => { fs with freeBlocks := fs.totalBlocks - st.blocks }
  persistSuper
  pure ⟨st, fs.freeBlocks⟩

/-- The runs of a fragmented file, verified one after the other. -/
def scrubRuns (runs : List (Nat × Nat)) (st : Tally) : FsM (Bool × Tally) :=
  foldEach runs (true, st) fun run acc => do
    let ok ← verifyData (extent run.1 run.2) acc.1
    pure (ok, acc.2.add run.2)

/-- `scrub_subtree`, with `levels` levels left. -/
def scrubSubtree : Nat → Nat × Nat × Nat → Tally → FsM Tally
  | 0, _, _ => refuse .treeTooDeep
  | levels + 1, (itype, first, count), st => do
    if itype = itypeDir then
      foldEach (extent first count) st.dir fun block st => do
        let blk ← scan fun rd => tdRead rd block
        match blk with
        | none => pure ((st.add 1).verdict false)
        | some blk => foldEach (kids blk) (st.add 1) (scrubSubtree levels)
    else if itype = itypeFileFrag then
      let found ← scan fun rd => extOf rd first
      match found with
      | none => pure ((st.file.add count).verdict false)
      | some runs => do
        let (ok, st) ← scrubRuns runs (st.file.add count)
        pure (st.verdict ok)
    else
      let ok ← verifyData (extent first count) true
      pure ((st.file.add count).verdict ok)

/-- `scrub`. -/
def scrub : FsM Tally := do
  let fs ← Prog.read World.fs
  scrubSubtree (maxTreeDepth + 1) (itypeDir, fs.rootFirstBlock, fs.rootBlockCount) ⟨0, 0, 0, 0⟩

end Godspeed.Gsfs
