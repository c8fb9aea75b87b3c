import Godspeed.Gsfs.Directory

/-!
# The operations on files and directories

The bodies of the requests, as `serve_once` runs them in a transaction; data
blocks of `write_path` and of a plain `write_at` go to the disk directly.
`deleteTree` runs its own transactions.  Open files are kept in a table by the
number of the resource that stands for them.
-/

namespace Godspeed.Gsfs

open Word Prog

variable (path : List UInt8) (rd : Nat → Block) (e : Entry) (data : List UInt8)

section Making

/-- A new empty directory block, entered in the parent. -/
def addDir (parent : Entry) (name : List UInt8) : FsM Entry := do
  let first ← allocRun 1
  tdWriteOr first 0 .dirBlockInitFailed
  dirAdd parent ⟨name, itypeDir, 0, first, 1⟩

/-- `mkdir`. -/
def mkdir : FsM Unit := do
  let (parent, name) ← walkParentOr path .pathNotFound
  require (parent.itype = itypeDir) .parentNotDirectory
  require (validName name) .badName
  let there ← scan fun rd => dirFind rd parent name
  require there.isNone .alreadyExists
  let _ ← addDir parent name
  pure ()

/-- The loop of `mkdir_parents`. -/
def mkdirFrom : Entry → List (List UInt8) → FsM Unit
  | _, [] => pure ()
  | cur, comp :: rest => do
    require (cur.itype = itypeDir) .componentNotDirectory
    let there ← scan fun rd => dirFind rd cur comp
    match there with
    | some child => mkdirFrom child rest
    | none =>
      require (validName comp) .badName
      let cur ← addDir cur comp
      let made ← scan fun rd => dirFind rd cur comp
      let child ← ofOption made .createdDirNotFound
      mkdirFrom child rest

/-- `mkdir_parents`. -/
def mkdirParents : FsM Unit := do
  let root ← Prog.read fun w : World => w.fs.rootEntry
  mkdirFrom root (components path)

end Making

section Writing

/-- The payload of the data block number `i`. -/
def payloadAt (i : Nat) : List UInt8 :=
  (data.drop (i * dataPayload)).take dataPayload

/-- The data blocks of `len` bytes. -/
def blocksFor (len : Nat) : Nat := max ((len + dataPayload - 1) / dataPayload) 1

/-- The loop of `write_path` over a contiguous extent. -/
def fillExtent (first blocks : Nat) : FsM Unit :=
  forEach (List.range blocks) fun i =>
    modify fun w => w.blockWrite (first + i) (dataBlock (payloadAt data i))

/-- The loop of `write_path` over the blocks of the runs. -/
def fillRuns (data : List UInt8) : Nat → List Nat → FsM Unit
  | _, [] => pure ()
  | produced, lba :: rest =>
    if data.length ≤ produced * dataPayload ∧ 0 < produced then pure ()
    else do
      modify fun w : World => w.blockWrite lba (dataBlock (payloadAt data produced))
      fillRuns data (produced + 1) rest

def runBlocks (runs : List (Nat × Nat)) : List Nat := runs.flatMap fun run => extent run.1 run.2

/-- Write the data of a new file to the blocks it was given. -/
def fillFile (itype first blocks : Nat) : FsM Unit := do
  if itype = itypeFile then fillExtent data first blocks
  else
    let found ← scan fun rd => extOf rd first
    let runs ← ofOption found .extentBlockReadFailed
    fillRuns data 0 (runBlocks runs)

/-- The end of `write_path` and `write_new`: the record is pointed at the new
blocks and the old ones are freed, or a record is added. -/
def enterFile (parent : Entry) (name : List UInt8) (existing : Option Entry) (size itype first count : Nat) :
    FsM Unit :=
  match existing with
  | some e => do
    persistEntry ⟨itype, false, size, first, count, e.loc⟩
    freeFile e
  | none => do
    let added ← attempt (dirAdd parent ⟨name, itype, size, first, count⟩)
    match added with
    | .ok _ => pure ()
    | .error why =>
      let _ ← attempt (freeFile ⟨itype, false, size, first, count, none⟩)
      refuse why

/-- The checks at the start of `write_path` and `write_new`: the parent, the name
and the file that is replaced. -/
def openSlot : FsM (Entry × List UInt8 × Option Entry) := do
  let (parent, name) ← walkParentOr path .pathNotFound
  require (parent.itype = itypeDir) .parentNotDirectory
  require (validName name) .badName
  let existing ← scan fun rd => dirFind rd parent name
  pure (parent, name, existing)

/-- `write_path`. -/
def writePath (path data : List UInt8) : FsM Unit := do
  require (data.length ≤ maxFileBytes) .fileTooLarge
  let (parent, name, existing) ← openSlot path
  require (existing.all fun e => !e.isSealed) .fileSealed
  require (existing.all fun e => isFile e.itype) .pathIsDirectory
  let (itype, first, count) ← allocFile (blocksFor data.length)
  fillFile data itype first (blocksFor data.length)
  enterFile parent name existing data.length itype first count

/-- The blocks `write_new` asks for; the sum wraps. -/
def blocksForNew (total : Nat) : Nat := max ((total + dataPayload - 1) % 2 ^ 64 / dataPayload) 1

/-- `write_new`. -/
def writeNew (total : Nat) : FsM Unit := do
  let (parent, name, existing) ← openSlot path
  require (existing.all fun e => isFile e.itype) .pathIsDirectory
  require (existing.all fun e => !e.isSealed) .fileSealed
  let (itype, first, count) ← allocFile (blocksForNew total)
  enterFile parent name existing total itype first count

/-- The address of the data block number `idx` of a file. -/
def dataLba (runs : Option (List (Nat × Nat))) (idx : Nat) : Option Nat :=
  match runs with
  | none => some (e.firstBlock + idx)
  | some runs => nthDataBlock runs idx

/-- The runs of a file, for a fragmented one. -/
def fileRuns : Option (Option (List (Nat × Nat))) :=
  if e.itype = itypeFileFrag then (extOf rd e.firstBlock).map some else some none

/-- The loop of a journaled `write_at`. -/
def stageChunk (runs : Option (List (Nat × Nat))) (base : Nat) (chunk : List UInt8) :
    List Nat → FsM Unit :=
  fun is => forEach is fun i => do
    let lba ← ofOption (dataLba e runs (base + i)) .extentOutOfRange
    tbWriteOr lba (dataBlock (payloadAt chunk i)) .blockWriteFailed

/-- `WRITE_RUN_MAX`. -/
def writeRunMax : Nat := 7

/-- The loop of a direct `write_at`; `run` are the blocks that were collected and
not yet sent. -/
def sendChunk (e : Entry) (runs : Option (List (Nat × Nat))) (base : Nat) (chunk : List UInt8) :
    List Nat → Nat → List Block → FsM Unit
  | [], runLba, run => modify fun w => w.blockWrites (run.mapIdx fun i b => (runLba + i, b))
  | i :: rest, runLba, run => do
    let lba ← ofOption (dataLba e runs (base + i)) .extentOutOfRange
    let block := dataBlock (payloadAt chunk i)
    if run ≠ [] ∧ (lba ≠ runLba + run.length ∨ run.length = writeRunMax) then
      modify fun w => w.blockWrites (run.mapIdx fun i b => (runLba + i, b))
      sendChunk e runs base chunk rest lba [block]
    else if run = [] then sendChunk e runs base chunk rest lba [block]
    else sendChunk e runs base chunk rest runLba (run ++ [block])

/-- `write_at`. -/
def writeAt (offset : Nat) (chunk : List UInt8) (journal : Bool) : FsM Unit := do
  let e ← walkOr path .notFound
  require (isFile e.itype) .notFile
  require (!e.isSealed) .fileSealed
  require (offset % dataPayload = 0) .unalignedOffset
  let totalBlocks :=
    if e.itype = itypeFile then e.blockCount else (e.size + dataPayload - 1) / dataPayload
  require ((offset + chunk.length) % 2 ^ 64 ≤ totalBlocks * dataPayload) .writePastExtent
  let found ← scan fun rd => fileRuns rd e
  let runs ← ofOption found .extentBlockReadFailed
  let is := List.range ((chunk.length + dataPayload - 1) / dataPayload)
  if journal then stageChunk e runs (offset / dataPayload) chunk is
  else sendChunk e runs (offset / dataPayload) chunk is 0 []

end Writing

section Reading

inductive ReadResult
  | missing
  | damaged
  | bytes (data : List UInt8)
  deriving DecidableEq, Repr

/-- `data_read`. -/
def dataRead (lba : Nat) : Option (List UInt8) :=
  if dataCrcOk (rd lba) then some (toBytes dataPayload (num (rd lba) 0 dataPayload)) else none

/-- The loop of `read_at`: `n` bytes from position `pos`. -/
def readLoop (rd : Nat → Block) (e : Entry) (runs : Option (List (Nat × Nat))) :
    Nat → Nat → Nat → Option (List UInt8)
  | 0, _, _ => some []
  | fuel + 1, pos, n =>
    if n = 0 then some []
    else
      match (dataLba e runs (pos / dataPayload)).bind (dataRead rd) with
      | none => none
      | some blk =>
        let take := min (dataPayload - pos % dataPayload) n
        (readLoop rd e runs fuel (pos + take) (n - take)).map fun rest =>
          (blk.drop (pos % dataPayload)).take take ++ rest

/-- Bytes of a file that was found; from here on a block that cannot be read is
damage. -/
def readRange (offset n : Nat) : ReadResult :=
  match fileRuns rd e with
  | none => .damaged
  | some runs =>
    match readLoop rd e runs n offset n with
    | none => .damaged
    | some data => .bytes data

/-- `read_at` once the file is found. -/
def readEntry (offset len : Nat) : ReadResult :=
  if e.size ≤ offset then .bytes [] else readRange rd e offset (min len (e.size - offset))

/-- `read_at`. -/
def readAt (offset len : Nat) : FsM ReadResult := do
  let found ← walk path
  match found with
  | none => pure .missing
  | some e =>
    if isFile e.itype then scan fun rd => readEntry rd e offset (min len maxFileBytes)
    else pure .missing

/-- `read_path`: the whole of a file that fits into one answer. -/
def readPath : FsM ReadResult := do
  let found ← walk path
  match found with
  | none => pure .missing
  | some e =>
    if isFile e.itype ∧ e.size ≤ maxFileBytes then scan fun rd => readRange rd e 0 e.size
    else pure .missing

end Reading

section OpenFiles

/-- `MAX_OPEN`. -/
def maxOpen : Nat := 64

/-- `OPEN_PATH_MAX`. -/
def openPathMax : Nat := 96

def onOpenFiles (f : List OpenFile → List OpenFile) : FsM Unit :=
  modify <| World.onFs fun fs => { fs with openFiles := f fs.openFiles }

/-- `revoke_open_by_path`. -/
def revokeOpenByPath : FsM Unit :=
  onOpenFiles fun table => table.filter fun o => !(o.path = path)

/-- `revoke_open_subtree`. -/
def revokeOpenSubtree : FsM Unit :=
  onOpenFiles fun table => table.filter fun o => !pathInSubtree o.path path

/-- `open_free`. -/
def openFree (rid : Nat) : FsM Unit :=
  onOpenFiles fun table => table.filter fun o => !(o.rid = rid)

def Fs.openFile? (fs : Fs) (rid : Nat) : Option OpenFile := fs.openFiles.find? fun o => o.rid = rid

/-- `open_bump_hwm`. -/
def openBumpHwm (rid upTo : Nat) : FsM Unit :=
  onOpenFiles fun table => table.map fun o =>
    if o.rid = rid ∧ o.writeHwm < upTo then { o with writeHwm := upTo } else o

end OpenFiles

section Changing

/-- `rename`. -/
def rename (path newname : List UInt8) : FsM Unit := do
  require (validName newname) .badNewName
  let (parent, oldname) ← walkParentOr path .pathNotFound
  require (parent.itype = itypeDir) .parentNotDirectory
  let there ← scan fun rd => dirFind rd parent newname
  require there.isNone .nameAlreadyExists
  let (loc, blk) ← findPlace oldname (extent parent.firstBlock parent.blockCount)
  tdWriteOr loc.block (recSetName blk loc.slot newname) .dirWriteFailed
  revokeOpenSubtree path

/-- `seal`. -/
def sealFile : FsM Unit := do
  let e ← walkOr path .notFound
  require (isFile e.itype) .onlyFileSealed
  let loc ← ofOption e.loc .cannotSealRoot
  if e.isSealed then pure ()
  else
    let fs ← Prog.read World.fs
    if fs.featRoCompat &&& featRoCompatSealed = 0 then
      modify <| World.onFs fun fs => { fs with featRoCompat := fs.featRoCompat ||| featRoCompatSealed }
      persistSuper
    else pure ()
    let blk ← tdReadOr loc.block .recordReadFailed
    tdWriteOr loc.block (recSeal blk loc.slot) .recordWriteFailed

/-- `relabel`. -/
def relabel (label : List UInt8) : FsM Unit := do
  modify <| World.onFs fun fs =>
    { fs with
      label := ofBytes (label.take labelMax)
      labelLen := min label.length labelMax }
  persistSuper

/-- `delete`. -/
def delete : FsM Unit := do
  let e ← walkOr path .notFound
  require e.loc.isSome .cannotDeleteRoot
  if e.itype = itypeDir then
    let found ← scan fun rd => dirIsEmpty rd (extent e.firstBlock e.blockCount)
    let isEmpty ← ofOption found .dirReadFailed
    require isEmpty .directoryNotEmpty
  else pure ()
  let (parent, name) ← walkParentOr path .notFound
  dirRemove parent name
  revokeOpenByPath path
  freeFile e

/-- `move_path`. -/
def movePath (src dst : List UInt8) : FsM Unit := do
  let e ← walkOr src .sourceNotFound
  require e.loc.isSome .cannotMoveRoot
  require (!pathIsAncestor src dst) .moveIntoItself
  let (dparent, dname) ← walkParentOr dst .destPathNotFound
  require (dparent.itype = itypeDir) .destNotDirectory
  require (validName dname) .badDestName
  let there ← scan fun rd => dirFind rd dparent dname
  require there.isNone .destExists
  let (sparent, sname) ← walkParentOr src .sourceNotFound
  if sparent.firstBlock = dparent.firstBlock then rename src dname
  else
    let _ ← dirAdd dparent ⟨dname, e.itype, e.size, e.firstBlock, e.blockCount⟩
    dirRemove sparent sname
    revokeOpenSubtree src

/-- `MAX_TREE_DEPTH`. -/
def maxTreeDepth : Nat := 64

/-- `free_run_txn`. -/
def freeRunTxn (first count : Nat) : FsM Unit := inTxn (freeRun first count)

/-- The records in use of a directory block, as `free_subtree` takes them. -/
def kids (blk : Block) : List (Nat × Nat × Nat) :=
  (List.range recsPerBlock).filterMap fun slot =>
    if recType blk slot = itypeFree then none
    else some (recType blk slot, recFirst blk slot, recCount blk slot)

/-- `free_subtree`, with `depth` levels left. -/
def freeSubtree : Nat → Nat × Nat × Nat → FsM Unit
  | 0, _ => refuse .treeTooDeep
  | depth + 1, (itype, first, count) => do
    if itype = itypeDir then
      forEach (extent first count) fun block => do
        let blk ← tdReadOr block .dirReadFailed
        forEach (kids blk) (freeSubtree depth)
    else if itype = itypeFileFrag then
      let found ← scan fun rd => extOf rd first
      match found with
      | some runs => forEach runs fun run => freeRunTxn run.1 run.2
      | none => pure ()
    else pure ()
    freeRunTxn first count

/-- `delete_tree`. -/
def deleteTree : FsM Unit := do
  let e ← walkOr path .notFound
  require e.loc.isSome .cannotDeleteRoot
  let (parent, name) ← walkParentOr path .notFound
  inTxn (dirRemove parent name)
  revokeOpenSubtree path
  -- the entry is gone; what cannot be reclaimed is only reported
  let _ ← attempt (freeSubtree (maxTreeDepth + 1) (e.itype, e.firstBlock, e.blockCount))
  pure ()

end Changing

end Godspeed.Gsfs
