import Godspeed.Gsfs.Check

/-!
# Requests

`serve_once` and `serve_filecap`, from the decoded request on: which operation a
request runs, whether it runs as one transaction, and what it is answered.  The
numbers in a request are those of its fields, so they are below `2 ^ 64`.

A file capability names its file by the path it was opened with.
-/

namespace Godspeed.Gsfs

open Word Prog

/-- `RIGHT_READ`. -/
def rightRead : Nat := 1

/-- `RIGHT_WRITE`. -/
def rightWrite : Nat := 2

/-- `OPEN_APPEND_ONLY`. -/
def openAppendOnly : Nat := 64

/-- A request by name or through a file capability. -/
inductive Request
  | writeFile (path data : List UInt8)
  | readFile (path : List UInt8)
  | writeNew (path : List UInt8) (total : UInt64)
  | writeAt (path : List UInt8) (offset : UInt64) (chunk : List UInt8)
  | writeAtJ (path : List UInt8) (offset : UInt64) (chunk : List UInt8)
  | readAt (path : List UInt8) (offset : UInt64) (len : UInt32)
  | statFile (path : List UInt8)
  | seal (path : List UInt8)
  | mkdir (path : List UInt8)
  | mkdirP (path : List UInt8)
  | rename (path newname : List UInt8)
  | delete (path : List UInt8)
  | deleteTree (path : List UInt8)
  | move (src dst : List UInt8)
  | label (label : List UInt8)
  | check
  | scrub
  /-- `OP_OPEN`, with the number of the resource the kernel mints for it. -/
  | openFile (path : List UInt8) (want : Nat) (minted : Option Nat)
  | capRead (rid right : Nat) (offset : UInt64) (len : UInt32)
  | capWrite (rid right : Nat) (offset : UInt64) (chunk : List UInt8)
  | capStat (rid right : Nat)
  | capClose (rid : Nat)
  deriving DecidableEq, Repr

/-- What a request is answered when it is not refused. -/
inductive Reply
  | ok
  | content (bytes : List UInt8)
  | stat (found : Option (Nat × Bool))
  | notFound
  | damaged
  | denied
  | checked (report : CheckReport)
  | scrubbed (tally : Tally)
  deriving DecidableEq, Repr

def Reply.ofRead : ReadResult → Reply
  | .missing => .notFound
  | .damaged => .damaged
  | .bytes data => .content data

/-- `op_is_mutating`, for the requests by name, and `OP_LABEL` and `OP_CHECK` beside
it. -/
def Request.mutates : Request → Bool
  | .writeFile .. | .writeNew .. | .writeAt .. | .writeAtJ .. | .mkdir .. | .mkdirP .. | .rename ..
  | .delete .. | .deleteTree .. | .move .. | .seal .. | .label .. | .check => true
  | _ => false

/-- `open_file`, after the rights were narrowed. -/
def openPath (path : List UInt8) (want : Nat) (minted : Option Nat) : FsM Reply := do
  let e ← walkOr path .notFound
  require (isFile e.itype) .notFile
  require (path.length ≤ openPathMax) .pathTooLong
  let table ← Prog.read fun w : World => w.fs.openFiles
  require (table.length < maxOpen) .tooManyOpenFiles
  let rid ← ofOption minted .mintFailed
  onOpenFiles fun table => table ++ [⟨rid, want &&& openAppendOnly ≠ 0, 0, path⟩]
  pure .ok

/-- `OP_OPEN`. -/
def serveOpen (path : List UInt8) (want : Nat) (minted : Option Nat) : FsM Reply := do
  let want := want &&& (rightRead ||| rightWrite ||| openAppendOnly)
  if want &&& (rightWrite ||| openAppendOnly) = 0 then openPath path want minted
  else
    let found ← walk path
    -- a sealed file yields no writable capability
    if found.any Entry.isSealed then
      if want &&& rightRead = 0 then pure .denied else openPath path (want &&& rightRead) minted
    else openPath path want minted

/-- A request through a file capability, for the file it stands for. -/
def serveFilecap (rid : Nat) (f : OpenFile → FsM Reply) : FsM Reply := do
  let o ← Prog.read fun w : World => w.fs.openFile? rid
  match o with
  | none => pure .notFound
  | some o => f o

/-- `FOP_WRITE`. -/
def serveCapWrite (rid right offset : Nat) (chunk : List UInt8) : FsM Reply :=
  serveFilecap rid fun o => do
    let fs ← Prog.read World.fs
    if right &&& rightWrite = 0 then pure .denied
    else if fs.readOnly then refuse .readOnly
    else if o.appendOnly ∧ offset < o.writeHwm then pure .denied
    else
      writeAt o.path offset chunk false
      openBumpHwm rid ((offset + chunk.length) % 2 ^ 64)
      pure .ok

def perform : Request → FsM Reply
  | .writeFile path data => do inTxn (writePath path data); pure .ok
  | .readFile path => do return .ofRead (← readPath path)
  | .writeNew path total => do inTxn (writeNew path total.toNat); pure .ok
  | .writeAt path offset chunk => do writeAt path offset.toNat chunk false; pure .ok
  | .writeAtJ path offset chunk => do inTxn (writeAt path offset.toNat chunk true); pure .ok
  | .readAt path offset len => do return .ofRead (← readAt path offset.toNat len.toNat)
  | .statFile path => do return .stat ((← walk path).map fun e => (e.size, e.itype = itypeDir))
  | .seal path => do inTxn (sealFile path); pure .ok
  | .mkdir path => do inTxn (mkdir path); pure .ok
  | .mkdirP path => do inTxn (mkdirParents path); pure .ok
  | .rename path newname => do inTxn (rename path newname); pure .ok
  | .delete path => do inTxn (delete path); pure .ok
  | .deleteTree path => do deleteTree path; pure .ok
  | .move src dst => do inTxn (movePath src dst); pure .ok
  | .label label => do inTxn (relabel label); pure .ok
  | .check => do return .checked (← check)
  | .scrub => do return .scrubbed (← scrub)
  | .openFile path want minted => serveOpen path want minted
  | .capRead rid right offset len =>
    serveFilecap rid fun o =>
      if right &&& rightRead = 0 then pure .denied
      else do return .ofRead (← readAt o.path offset.toNat len.toNat)
  | .capWrite rid right offset chunk => serveCapWrite rid right offset.toNat chunk
  | .capStat rid right =>
    serveFilecap rid fun o =>
      if right &&& rightRead = 0 then pure .denied
      else do
        match ← walk o.path with
        | none => pure .notFound
        | some e => pure (.stat (some (e.size, false)))
  | .capClose rid => do
    openFree rid
    pure .ok

/-- `serve_once`: a request that writes is refused while the machine shuts down
and on a read-only mount. -/
def serve (secs : Int) (r : Request) : FsM Reply := do
  let fs ← Prog.read World.fs
  require (!(r.mutates && secs < fs.quiescedUntil)) .shuttingDown
  require (!(r.mutates && fs.readOnly)) .readOnly
  perform r

end Godspeed.Gsfs
