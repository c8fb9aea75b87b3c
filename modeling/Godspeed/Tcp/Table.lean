import Godspeed.Lib.Slots
import Godspeed.Tcp.Owed

/-!
# The connection table

`Tcp`: two connection slots, two listener slots and the next local port of an active open.
A slot is found by the resource id of its owner (`by_rid`) or by the ports and the address of
a segment (`find`); a listener whose port is 0 is a free one.  An unclaimed connection has no
owner and no link to the listener whose port it was opened on.
-/

namespace Godspeed.Tcp

open Slots Function

/-- `MAX_LISTEN`. -/
def maxListen : ℕ := 2

/-- `Listener`; port 0 is a free slot. -/
structure Listener where
  port : ℕ
  rid : ℕ
  deriving DecidableEq

/-- `Listener::free`. -/
def Listener.free : Listener := ⟨0, 0⟩

/-- `Tcp`. -/
structure Table where
  conns : Fin maxConns → Conn
  listeners : Fin maxListen → Listener
  nextPort : ℕ

/-- `Tcp::new`, over the arenas of the slots. -/
def Table.new (arena : Fin maxConns → List UInt8) : Table :=
  ⟨fun i => Conn.free (arena i), fun _ => .free, 49152⟩

/-- The connection that `by_rid` looks for. -/
def Conn.ownedBy (rid : ℕ) (c : Conn) : Bool := c.rid == rid && c.rid != 0

/-- The connection that `find` looks for. -/
def Conn.meets (lport rip rport : ℕ) (c : Conn) : Bool :=
  c.state != .closed && c.localPort == lport && c.remotePort == rport && c.remoteIp == rip

/-- The states of a connection that `pending_accept` hands out. -/
def State.handedOut : State → Bool
  | .established | .closeWait | .finWait1 | .finWait2 => true
  | _ => false

/-- The connection that `pending_accept` looks for: its handshake is over, and it has no
owner. -/
def Conn.awaitsAccept (c : Conn) : Bool := c.rid == 0 && c.accepted && c.state.handedOut

variable (t : Table)

namespace Table

variable (t : Table) (rid : ℕ)

/-- `free_slot`. -/
def freeSlot : Option (Fin maxConns) := first t.conns fun c => !c.inUse

/-- `find`. -/
def find (lport rip rport : ℕ) : Option (Fin maxConns) :=
  first t.conns (Conn.meets lport rip rport)

/-- `listen`: refused on port 0, on a port that has a listener, and when every listener slot
is taken. -/
def listen (port rid : ℕ) : Option Table :=
  if port = 0 then none
  else if (first t.listeners fun l => l.port == port).isSome then none
  else (first t.listeners fun l => l.port == 0).map fun k =>
    { t with listeners := update t.listeners k ⟨port, rid⟩ }

/-- The listener that `unlisten` looks for. -/
def listener : Option (Fin maxListen) :=
  first t.listeners fun l => l.rid == rid && l.port != 0

/-- `unlisten`. -/
def unlisten : Option Table :=
  (t.listener rid).map fun k =>
    { t with listeners := update t.listeners k .free }

/-- `listening_on`. -/
def listeningOn (port : ℕ) : Bool :=
  (first t.listeners fun l => l.port == port).isSome

/-- `pending_accept`. -/
def pendingAccept : Option (Fin maxConns) := first t.conns Conn.awaitsAccept

/-- `connect`: the port moves on, and a free slot is opened if there is one. -/
def connect (t : Table) (rid now : ℕ) (iss : Seq) (dst dport : ℕ) : Table × Option (Fin maxConns) :=
  let port := t.nextPort
  let t := { t with nextPort := if t.nextPort ≥ 65000 then 49152 else t.nextPort + 1 }
  match t.freeSlot with
  | none => (t, none)
  | some i =>
    ({ t with
        conns := update t.conns i ((t.conns i).connect rid now iss port dst dport) },
      some i)

/-- Work on the connection that `by_rid` finds. -/
def onRid (f : Conn → Conn) : Table :=
  { t with conns := writeFirst (Conn.ownedBy rid) f t.conns }

/-- `forget`. -/
def forget : Table := t.onRid rid Conn.reset

def onSlot (i : Fin maxConns) (f : Conn → Conn) : Table :=
  { t with conns := update t.conns i (f (t.conns i)) }

/-- `reclaim_idle`: the owned connection that its client has left alone for longest, released;
with the resource id it had. -/
def reclaimIdle (now idleMs : ℕ) : Option (Table × ℕ) :=
  (best t.conns fun c =>
      if c.rid ≠ 0 ∧ idleMs ≤ now - c.usedMs then some (now - c.usedMs) else none).map
    fun i => (t.onSlot i Conn.reset, (t.conns i).rid)

/-- A SYN that no connection takes, for a port that is listened on. -/
def answers (seg : Seg) : Bool :=
  (t.find seg.dstPort seg.srcIp seg.srcPort).isNone && seg.syn && !seg.ack &&
    t.listeningOn seg.dstPort

/-- `on_frame`: a passive open, or a segment for the connection it meets. -/
def onFrame (now : ℕ) (iss : Seq) (seg : Seg) : Table :=
  if t.answers seg then
    match t.freeSlot with
    | some i => t.onSlot i fun c => c.passiveOpen now iss seg
    | none => t
  else
    { t with
      conns := writeFirst (Conn.meets seg.dstPort seg.srcIp seg.srcPort)
        (fun c => c.onSegment now seg) t.conns }

end Table

end Godspeed.Tcp
