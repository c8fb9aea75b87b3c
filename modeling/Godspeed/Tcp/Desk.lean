import Godspeed.Capability.Basic
import Godspeed.Lib.Transition
import Godspeed.Tcp.Table

/-!
# The service around the connection table

`service_main` and `poll_frames` of net-stack, as far as they touch the table: the requests
LISTEN, CONNECT and TRANSACT, the invocations of listener and connection capabilities, the
frames, the polls and the reaping of finished connections.  The kernel mints a resource id that
is not live, or refuses; a capability that is sent along may fail to reach its client.  A
`CONNECT` is served until its handshake has ended and a `TRANSACT` to its end: no other request
is looked at meanwhile.  The connection of a `TRANSACT` has the id 1, which is never minted.

The last four fields are an observer's: when each listener was registered and each passive
open was made, and the connections that `ACCEPT` has handed over.
-/

namespace Godspeed.Tcp

open Capability Slots

/-- A capability of a client on a resource of this service. -/
structure Held where
  client : ℕ
  rid : ℕ
  rights : Rights
  deriving DecidableEq

/-- A connection that `ACCEPT` has handed over. -/
structure Handover where
  /-- The client that it went to. -/
  client : ℕ
  /-- The port of the listener, and when that was registered. -/
  port : ℕ
  since : ℕ
  /-- The port that the connection was made to, and when. -/
  localPort : ℕ
  born : ℕ
  /-- The client had a capability on a listener of that port. -/
  entitled : Bool

/-- An outbound connection whose handshake `tcp_open` waits for. -/
structure Dial where
  client : ℕ
  rid : ℕ
  slot : Fin maxConns

/-- A transaction that `tcp_transact` is in the middle of. -/
structure Transact where
  slot : Fin maxConns
  request : List UInt8
  wrote : Bool

/-- The id that `tcp_transact` gives its connection. -/
def transactId : ℕ := 1

structure Desk where
  table : Table
  /-- The resource ids that are live. -/
  live : List ℕ
  caps : List Held
  dial : Option Dial
  transact : Option Transact
  /-- The machine has a usable clock (`have_clock`). -/
  clocked : Bool
  tick : ℕ
  since : Fin maxListen → ℕ
  born : Fin maxConns → ℕ
  handed : List Handover

/-- `RECLAIM_IDLE_MS`. -/
def reclaimIdleMs : ℕ := 15000

/-- The rights of a capability that the service mints. -/
def mintedRights : Rights := (Rights.READ.union .WRITE).union .GRANT

/-- What a client asks of a connection. -/
inductive Use
  | recv (max : ℕ)
  | send (data : List UInt8)
  | close
  | stat

namespace Desk

variable (d : Desk) (rid : ℕ)

/-- `now_ms`. -/
def time (now : ℕ) : Option ℕ := if d.clocked then some now else none

/-- A resource id that the kernel may mint. -/
def mintable : Bool := isDelegated rid && !d.live.contains rid

def mint : Desk := { d with live := rid :: d.live }

/-- `resource::revoke`: the capabilities on the resource are void. -/
def revoke : Desk :=
  { d with
    live := d.live.filter fun r => r != rid
    caps := d.caps.filter fun h => h.rid != rid }

/-- A capability on the resource reaches the client. -/
def grant (client rid : ℕ) : Desk :=
  { d with caps := ⟨client, rid, mintedRights⟩ :: d.caps }

/-- The client can invoke the resource with this right. -/
def holds (client rid : ℕ) (right : Rights) : Bool :=
  d.caps.any fun h => h.client == client && h.rid == rid && h.rights.contains right

/-- The client has a capability on a listener of the port. -/
def entitled (client port : ℕ) : Bool :=
  (List.finRange maxListen).any fun k =>
    (d.table.listeners k).port == port && port != 0 &&
      d.caps.any fun h => h.client == client && h.rid == (d.table.listeners k).rid

/-! ## The requests -/

/-- LISTEN, once the kernel has minted `rid`. -/
def serveListen (client port rid : ℕ) (granted : Bool) : Desk :=
  match d.table.listen port rid, first d.table.listeners fun l => l.port == 0 with
  | some table, some k =>
    if granted then
      { d.mint rid with table, since := Function.update d.since k d.tick }.grant client rid
    else { d.mint rid with table := (table.unlisten rid).getD table }.revoke rid
  | _, _ => (d.mint rid).revoke rid

/-- The part of CONNECT that makes room: an abandoned connection is released. -/
def makeRoom (now : ℕ) : Desk :=
  if d.table.freeSlot.isSome then d
  else
    match d.table.reclaimIdle now reclaimIdleMs with
    | some (table, rid) => { d with table }.revoke rid
    | none => d

/-- CONNECT, once the kernel has minted `rid`: `tcp_open` until it waits for the handshake. -/
def startOpen (client rid now : ℕ) (iss : Seq) (dst dport : ℕ) (radio : Bool) : Desk :=
  match d.table.connect rid now iss dst dport with
  | (table, some i) =>
    { d.mint rid with
      table := table.onSlot i fun c => ((if radio then c.smallWindow else c).synOut now).1
      dial := some ⟨client, rid, i⟩ }
  | (table, none) => { d.mint rid with table }.revoke rid

/-- TRANSACT: `tcp_transact` until its loop. -/
def startTransact (now : ℕ) (iss : Seq) (dst dport : ℕ) (request : List UInt8) : Desk :=
  match d.table.connect transactId now iss dst dport with
  | (table, some i) =>
    { d with
      table := table.onSlot i fun c => (c.synOut now).1
      transact := some ⟨i, request, false⟩ }
  | (table, none) => { d with table }

/-- The end of `tcp_transact`: a FIN if one is owed, and the slot is released. -/
def endTransact (i : Fin maxConns) (now : ℕ) : Desk :=
  { d with
    table := (((d.table.onRid transactId Conn.close).onSlot i fun c =>
      (c.pollOne (d.time now)).1).forget transactId)
    transact := none }

/-- The connection is nobody's any more: its slot is released. -/
def release : Desk := { d with table := d.table.forget rid }.revoke rid

/-- ACCEPT through the listener in slot `k`, of the pending connection in slot `i`, once the
kernel has minted `rid`. -/
def serveAccept (client : ℕ) (k : Fin maxListen) (i : Fin maxConns) (rid : ℕ)
    (granted : Bool) : Desk :=
  let taken := { d.mint rid with table := d.table.onSlot i fun c => { c with rid } }
  if granted then
    { taken.grant client rid with
      handed :=
        { client
          port := (d.table.listeners k).port
          since := d.since k
          localPort := (d.table.conns i).localPort
          born := d.born i
          entitled := d.entitled client (d.table.conns i).localPort } :: d.handed }
  else { taken with table := taken.table.onSlot i fun c => { c with rid := 0 } }.revoke rid

/-- An invocation of a connection capability. -/
def serveUse (t : Table) (rid : ℕ) (right : Rights) : Use → Table
  | .recv max => if right.contains .READ then t.onRid rid fun c => (c.read max).1 else t
  | .send data => if right.contains .WRITE then t.onRid rid fun c => (c.write data).1 else t
  | .close => if right.contains .WRITE then t.onRid rid Conn.close else t
  | .stat => t

inductive Act
  | listen (client port : ℕ) (minted : Option ℕ) (granted : Bool)
  | connect (client : ℕ) (minted : Option ℕ) (now : ℕ) (iss : Seq) (dst dport : ℕ) (radio : Bool)
  | connected (granted : Bool)
  | gaveUp
  | transact (now : ℕ) (iss : Seq) (dst dport : ℕ) (request : List UInt8)
  | transactWrite
  | transactRead (max : ℕ)
  | transactClose
  | transactEnd (now : ℕ)
  | accept (client rid : ℕ) (right : Rights) (minted : Option ℕ) (granted : Bool)
  | closeListener (client rid : ℕ) (right : Rights)
  | use (client rid : ℕ) (right : Rights) (now : ℕ) (what : Use)
  | frame (now : ℕ) (iss : Seq) (seg : Seg)
  | poll (i : Fin maxConns) (now : ℕ)
  | flush
  | reap (i : Fin maxConns)
  | share (k client : ℕ) (mask : Rights)
  | drop (k : ℕ)

/-- The requests that wait while a CONNECT or a TRANSACT is served. -/
def Act.waits : Act → Bool
  | .listen .. | .connect .. | .transact .. | .accept .. | .closeListener .. | .use .. | .reap _ => true
  | _ => false

/-- What a step does, when nothing keeps it waiting. -/
def act : Act → Option Desk
  | .listen client port minted granted =>
    match minted with
    | none => some d
    | some rid =>
      if port = 0 then some d
      else if d.mintable rid then some (d.serveListen client port rid granted)
      else none
  | .connect client minted now iss dst dport radio =>
    if d.clocked then
      match minted with
      | none => some (d.makeRoom now)
      | some rid =>
        if (d.makeRoom now).mintable rid then
          some ((d.makeRoom now).startOpen client rid now iss dst dport radio)
        else none
    else some d
  | .connected granted =>
    match d.dial with
    | some dial =>
      if (d.table.conns dial.slot).state = .established then
        if granted then some ({ d with dial := none }.grant dial.client dial.rid)
        else some ({ d with dial := none }.release dial.rid)
      else none
    | none => none
  | .gaveUp => d.dial.map fun dial => { d with dial := none }.release dial.rid
  | .transact now iss dst dport request =>
    if d.clocked then some (d.startTransact now iss dst dport request) else some d
  | .transactWrite =>
    d.transact.bind fun x =>
      if x.wrote = false ∧ (d.table.conns x.slot).state = .established then
        some { d with
          table := d.table.onRid transactId fun c => (c.write x.request).1
          transact := some { x with wrote := true } }
      else none
  | .transactRead max =>
    d.transact.map fun _ => { d with table := d.table.onRid transactId fun c => (c.read max).1 }
  | .transactClose =>
    d.transact.bind fun x =>
      if x.wrote = true ∧ (d.table.conns x.slot).state = .closeWait then
        some { d with table := d.table.onRid transactId Conn.close }
      else none
  | .transactEnd now => d.transact.map fun x => d.endTransact x.slot now
  | .accept client rid right minted granted =>
    if d.holds client rid right then
      match d.table.listener rid, d.table.pendingAccept, minted with
      | some k, some i, some crid =>
        if right.contains .WRITE then
          if d.mintable crid then some (d.serveAccept client k i crid granted) else none
        else some d
      | _, _, _ => some d
    else none
  | .closeListener client rid right =>
    if d.holds client rid right then
      if right.contains .WRITE then
        match d.table.unlisten rid with
        | some table => some ({ d with table }.revoke rid)
        | none => some d
      else some d
    else none
  | .use client rid right now what =>
    if d.holds client rid right then
      match d.table.listener rid,
        first d.table.conns fun c => c.ownedBy rid && c.state != .closed with
      | none, some i =>
        some { d with
          table := serveUse (d.table.onSlot i fun c => { c with usedMs := (d.time now).getD 0 })
            rid right what }
      | _, _ => some d
    else none
  | .frame now iss seg =>
    some { d with
      table := d.table.onFrame ((d.time now).getD 0) iss seg
      born :=
        match d.table.answers seg, d.table.freeSlot with
        | true, some i => Function.update d.born i d.tick
        | _, _ => d.born }
  | .poll i now =>
    some { d with table := d.table.onSlot i fun c => (c.pollOne (d.time now)).1 }
  | .flush =>
    some { d with table := { d.table with conns := fun i => (d.table.conns i).flushAcks } }
  | .reap i =>
    if (d.table.conns i).reapable then some (d.release (d.table.conns i).rid) else some d
  | .share k client mask =>
    d.caps[k]?.bind fun h =>
      if h.rights.contains .GRANT then
        some { d with caps := ⟨client, h.rid, h.rights.narrow mask⟩ :: d.caps }
      else none
  | .drop k => some { d with caps := d.caps.eraseIdx k }

/-- A request is being served. -/
def busy : Bool := d.dial.isSome || d.transact.isSome

def step (a : Act) : Option Desk :=
  if a.waits = true ∧ d.busy = true then none
  else (d.act a).map fun d' => { d' with tick := d.tick + 1 }

/-- The service at its start; other resource ids may be live. -/
def start (arena : Fin maxConns → List UInt8) (live : List ℕ) (clocked : Bool) : Desk where
  table := Table.new arena
  live
  caps := []
  dial := none
  transact := none
  clocked
  tick := 0
  since := fun _ => 0
  born := fun _ => 0
  handed := []

end Desk

end Godspeed.Tcp
