import Godspeed.Gsfs.Space

/-!
# The directory tree

Look-up by name, and the changes of one directory: a record is added in the first
free slot, or after the directory was moved to a larger extent (`growDir`); it is
written back (`persistEntry`) or removed.  Look-ups are functions of what the
blocks read as; they answer `none` for a missing name and for a directory block
whose checksum is wrong.

`persistEntry` writes the size and the extent of a record.  The type byte stays as
it is.
-/

namespace Godspeed.Gsfs

open Word Prog

def extent (first count : Nat) : List Nat := List.range' first count

/-- `root_entry`. -/
def Fs.rootEntry (fs : Fs) : Entry where
  itype := itypeDir
  isSealed := false
  size := 0
  firstBlock := fs.rootFirstBlock
  blockCount := fs.rootBlockCount
  loc := none

def entryAt (blk : Block) (block slot : Nat) : Entry where
  itype := recType blk slot
  isSealed := recIsSealed blk slot
  size := recSize blk slot
  firstBlock := recFirst blk slot
  blockCount := recCount blk slot
  loc := some ⟨block, slot⟩

def slotFind (blk : Block) (name : List UInt8) : Option Nat :=
  (List.range recsPerBlock).find? fun slot => recNamed blk slot name

/-- `dir_find` over the blocks of a directory. -/
def findIn (rd : Nat → Block) (name : List UInt8) : List Nat → Option Entry
  | [] => none
  | block :: rest =>
    match tdRead rd block with
    | none => none
    | some blk =>
      match slotFind blk name with
      | some slot => some (entryAt blk block slot)
      | none => findIn rd name rest

/-- `dir_find`. -/
def dirFind (rd : Nat → Block) (dir : Entry) (name : List UInt8) : Option Entry :=
  findIn rd name (extent dir.firstBlock dir.blockCount)

/-- The loop of `walk`. -/
def walkFrom (rd : Nat → Block) : Entry → List (List UInt8) → Option Entry
  | cur, [] => some cur
  | cur, comp :: rest =>
    if cur.itype = itypeDir then (dirFind rd cur comp).bind fun next => walkFrom rd next rest
    else none

/-- `WALK_CACHE_PATH`. -/
def walkCachePath : Nat := 256

variable (path : List UInt8) (dir : Entry)

/-- `walk`. -/
def walk : FsM (Option Entry) := fun w =>
  let cacheable := !w.fs.txnActive && path.length ≤ walkCachePath
  match w.fs.walkCache.filter fun c => cacheable && c.1 = path with
  | some c => (.ok (some c.2), w)
  | none =>
    match walkFrom w.sight w.fs.rootEntry (components path) with
    | none => (.ok none, w.ticked)
    | some e =>
      (.ok (some e), if cacheable then w.ticked.onFs fun fs => { fs with walkCache := some (path, e) }
        else w.ticked)

/-- `walk`, refusing when there is nothing at the path. -/
def walkOr (e : Refusal) : FsM Entry := do
  let found ← walk path
  ofOption found e

/-- `walk_parent` from the root. -/
def walkParent (rd : Nat → Block) (root : Entry) (path : List UInt8) : Option (Entry × List UInt8) :=
  match (components path).getLast? with
  | none => none
  | some name => (walkFrom rd root (components path).dropLast).map fun e => (e, name)

/-- `walk_parent`, refusing when there is no such directory. -/
def walkParentOr (e : Refusal) : FsM (Entry × List UInt8) := do
  let root ← Prog.read fun w : World => w.fs.rootEntry
  let found ← scan fun rd => walkParent rd root path
  ofOption found e

/-- `persist_entry`. -/
def persistEntry (e : Entry) : FsM Unit :=
  match e.loc with
  | none => do
    modify <| World.onFs fun fs =>
      { fs with rootFirstBlock := e.firstBlock, rootBlockCount := e.blockCount }
    persistSuper
  | some loc => do
    let blk ← tdReadOr loc.block .recordReadFailed
    let now ← Prog.read World.now
    let mtime := if e.size ≠ recSize blk loc.slot then now else (dirTimesGet blk loc.slot).1
    let blk := dirTimesSet blk loc.slot mtime now
    let blk := recSetSize blk loc.slot e.size
    let blk := recSetExtent blk loc.slot e.firstBlock e.blockCount
    tdWriteOr loc.block blk .recordWriteFailed

def copyDirBlock (first newFirst bi : Nat) : FsM Unit := do
  let blk ← tdReadOr (first + bi) .dirReadFailed
  tdWriteOr (newFirst + bi) blk .dirCopyFailed

/-- `grow_dir`. -/
def growDir : FsM Entry := do
  let newFirst ← allocRun (dir.blockCount + 1)
  forEach (List.range dir.blockCount) (copyDirBlock dir.firstBlock newFirst)
  tdWriteOr (newFirst + dir.blockCount) 0 .dirGrowInitFailed
  let grown := { dir with firstBlock := newFirst, blockCount := dir.blockCount + 1 }
  persistEntry grown
  freeRun dir.firstBlock dir.blockCount
  pure grown

def freeSlot (blk : Block) : Option Nat :=
  (List.range recsPerBlock).find? fun slot => recType blk slot = itypeFree

/-- The first block with a free slot, with the slot and what was read. -/
def freePlace : List Nat → FsM (Option (Loc × Block))
  | [] => pure none
  | block :: rest => do
    let blk ← tdReadOr block .dirReadFailed
    match freeSlot blk with
    | some slot => pure (some (⟨block, slot⟩, blk))
    | none => freePlace rest

structure NewRec where
  name : List UInt8
  itype : Nat
  size : Nat
  first : Nat
  count : Nat

/-- Write a new record into a slot of a block that was read. -/
def placeRec (loc : Loc) (blk : Block) (r : NewRec) : FsM Unit := do
  let now ← Prog.read World.now
  let blk := encodeRec blk loc.slot r.itype r.name r.size r.first r.count
  tdWriteOr loc.block (dirTimesSet blk loc.slot now now) .dirWriteFailed

/-- `dir_add`; the directory as it is afterwards. -/
def dirAdd (r : NewRec) : FsM Entry := do
  let place ← freePlace (extent dir.firstBlock dir.blockCount)
  match place with
  | some (loc, blk) =>
    placeRec loc blk r
    pure dir
  | none =>
    let grown ← growDir dir
    let block := grown.firstBlock + grown.blockCount - 1
    let blk ← tdReadOr block .dirReadFailed
    placeRec ⟨block, 0⟩ blk r
    pure grown

/-- The first record with this name, over the blocks of a directory, with what was
read. -/
def findPlace (name : List UInt8) : List Nat → FsM (Loc × Block)
  | [] => refuse .entryNotFound
  | block :: rest => do
    let blk ← tdReadOr block .dirReadFailed
    match slotFind blk name with
    | some slot => pure (⟨block, slot⟩, blk)
    | none => findPlace name rest

/-- `dir_remove`. -/
def dirRemove (name : List UInt8) : FsM Unit := do
  let (loc, blk) ← findPlace name (extent dir.firstBlock dir.blockCount)
  tdWriteOr loc.block (put blk (loc.slot * 64) 1 itypeFree) .dirWriteFailed

/-- `dir_is_empty`. -/
def dirIsEmpty (rd : Nat → Block) : List Nat → Option Bool
  | [] => some true
  | block :: rest =>
    match tdRead rd block with
    | none => none
    | some blk =>
      if (List.range recsPerBlock).any fun slot => recType blk slot ≠ itypeFree then some false
      else dirIsEmpty rd rest

end Godspeed.Gsfs
