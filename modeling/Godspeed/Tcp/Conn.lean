import Godspeed.Lib.Ring
import Godspeed.Lib.Spans

/-!
# A TCP connection: its state and its arenas

The connection of the network service (`services/net-stack/src/tcp.rs`): the states of the
protocol, the record of one connection and the functions on its receive arena, its window,
its congestion window and its round-trip estimate.  A segment is taken as `parse` returns it
from a frame whose checksums are right; building and parsing frames, the addresses of the
link layer, the log and the counters of `Spent` are outside the model.

The record is grouped as the comments of the source group it: the send sequence space
(`Send`), the receive sequence space with its arena (`Recv`), the round-trip estimate (`Rtt`)
and congestion control (`Congestion`).  The send arena is the list of its `snd_len` bytes.
The receive arena is the region of the slot, whatever its size; the small arena is the
region of `RCV_SMALL` bytes.
-/

namespace Godspeed.Tcp

open Serial

/-! ## Bounds -/

def maxConns : ℕ := 2
def sndBuf : ℕ := 2048
def rcvBig : ℕ := 256 * 1024
def rcvRadio : ℕ := 32 * 1024
def maxOoo : ℕ := 16
def mss : ℕ := 1460
def ackEvery : ℕ := 8 * mss
def wsMax : ℕ := 14
def mssDefault : ℕ := 536
def iwCeil : ℕ := 4380
def rtoMinMs : ℕ := 200
def rtoMaxMs : ℕ := 8000
def maxRetx : ℕ := 6
def finWait2Ms : ℕ := 2000

/-- The largest value of a 32-bit counter; additions to it saturate. -/
def u32Max : ℕ := 2 ^ 32 - 1

def satAdd (a b : ℕ) : ℕ := min (a + b) u32Max

abbrev Seq := BitVec 32

/-- `seq_lt`: the signed difference is negative. -/
def seqLt (a b : Seq) : Bool := before a b

/-- `seq_le`. -/
def seqLe (a b : Seq) : Bool := notAfter a b

/-- `seq_gt`. -/
def seqGt (a b : Seq) : Bool := after a b

/-! ## The record of a connection -/

inductive State
  | closed | synSent | synReceived | established | finWait1 | finWait2 | closeWait | lastAck
  | timeWait
  deriving DecidableEq, Repr

inductive Fault
  | none | reset | retxExhausted | connectTimeout
  deriving DecidableEq, Repr

/-- The send sequence space: `buf` holds the bytes from number `una` on that the peer has
not acknowledged. -/
structure Send where
  una : Seq
  nxt : Seq
  wnd : ℕ
  iss : Seq
  shift : ℕ
  buf : List UInt8
  deriving DecidableEq

/-- The receive sequence space: `len` bytes of the arena from `head` on are received and not
read, and the spans of `ooo` are in their places beyond them. -/
structure Recv where
  nxt : Seq
  arena : List UInt8
  limit : ℕ
  head : ℕ
  len : ℕ
  shift : ℕ
  ooo : List (Seq × Seq)
  ackOwed : ℕ
  lastAdv : ℕ
  deriving DecidableEq

/-- The round-trip estimate and the segment being timed. -/
structure Rtt where
  srtt : ℕ
  rttvar : ℕ
  rto : ℕ
  timedSeq : Seq
  timedAt : ℕ
  timing : Bool
  deriving DecidableEq

structure Congestion where
  sndMss : ℕ
  cwnd : ℕ
  ssthresh : ℕ
  dupAcks : ℕ
  recover : Seq
  inRecovery : Bool
  fastRetx : Bool
  deriving DecidableEq

/-- One slot of the connection table.  Times are milliseconds of the service's clock. -/
structure Conn where
  state : State
  fault : Fault
  rid : ℕ
  accepted : Bool
  localPort : ℕ
  remoteIp : ℕ
  remotePort : ℕ
  snd : Send
  rcv : Recv
  peerWs : Option ℕ
  rtt : Rtt
  cc : Congestion
  retxAt : ℕ
  retxCount : ℕ
  stateDeadline : ℕ
  closePending : Bool
  readerGone : Bool
  usedMs : ℕ
  ackDue : Bool
  probeAt : ℕ
  probeBackoff : ℕ
  deriving DecidableEq

/-- `Conn::free`, over the arena of the slot. -/
def Conn.free (arena : List UInt8) : Conn where
  state := .closed
  fault := .none
  rid := 0
  accepted := false
  localPort := 0
  remoteIp := 0
  remotePort := 0
  snd := ⟨0, 0, 0, 0, 0, []⟩
  rcv := ⟨0, arena, rcvBig, 0, 0, 0, [], 0, 0⟩
  peerWs := none
  rtt := ⟨0, 0, rtoMinMs, 0, 0, false⟩
  cc := ⟨mssDefault, 0, u32Max / 2, 0, 0, false, false⟩
  retxAt := 0
  retxCount := 0
  stateDeadline := 0
  closePending := false
  readerGone := false
  usedMs := 0
  ackDue := false
  probeAt := 0
  probeBackoff := 0

variable (c : Conn)

/-- `Conn::reset`: free for a new connection, keeping the slot's arena. -/
def Conn.reset : Conn := Conn.free c.rcv.arena

/-- `in_use`. -/
def Conn.inUse : Bool := c.state != .closed || c.rid != 0

/-- `reapable`: closed by the protocol, owned, and nothing left that its client will read. -/
def Conn.reapable : Bool :=
  c.rid != 0 && c.state == .closed && (c.rcv.len == 0 || c.readerGone)

/-- A parsed segment addressed to one of our ports.  An IPv4 datagram bounds the payload. -/
structure Seg where
  srcIp : ℕ
  srcPort : ℕ
  dstPort : ℕ
  seq : Seq
  ackNo : Seq
  syn : Bool
  ack : Bool
  fin : Bool
  rst : Bool
  wnd : BitVec 16
  mss : Option ℕ
  ws : Option (Fin 15)
  payload : List UInt8
  bounded : payload.length < 2 ^ 16

/-- The number of the place after the payload, where a FIN of the segment lies. -/
def Seg.finSeq (seg : Seg) : Seq := seg.seq + BitVec.ofNat 32 seg.payload.length

structure Frame where
  dstIp : ℕ
  srcPort : ℕ
  dstPort : ℕ
  seq : Seq
  ackNo : Seq
  syn : Bool
  ack : Bool
  fin : Bool
  psh : Bool
  wnd : ℕ
  ws : Option ℕ
  payload : List UInt8
  deriving DecidableEq

/-! ## The receive arena and the window -/

variable (r : Recv) (g : Congestion) (c : Conn) (syn : Bool)

/-- `rcv_cap`: the size of the arena, and no more than this connection may offer. -/
def Recv.cap : ℕ := min (min r.arena.length rcvBig) r.limit

/-- `window`: the free space of the arena. -/
def Recv.window : ℕ := r.cap - r.len

/-- The loop of `our_ws`. -/
def ourWsFrom (cap : ℕ) : ℕ → ℕ → ℕ
  | 0, shift => shift
  | fuel + 1, shift =>
    if cap >>> shift > 0xffff ∧ shift < wsMax then ourWsFrom cap fuel (shift + 1) else shift

/-- `our_ws`: the smallest shift that fits the arena's free space in the 16-bit field. -/
def Recv.ourWs : ℕ := ourWsFrom r.cap wsMax 0

/-- `advertisable`: the most the window field can tell the peer now. -/
def Recv.advertisable : ℕ := min (r.window >>> r.shift) 0xffff <<< r.shift

/-- The window field of `adv`: never scaled on a SYN. -/
def Recv.field : ℕ :=
  if syn then min r.window 0xffff else min (r.window >>> r.shift) 0xffff

/-- What the window field of `adv` tells the peer, in bytes. -/
def Recv.told : ℕ :=
  if syn then r.field true else r.field false <<< r.shift

/-- `adv`: record what the peer is told; nothing received is owed an acknowledgement any
more. -/
def Recv.adv : Recv := { r with ackOwed := 0, lastAdv := r.told syn }

/-- `peer_window`: the peer's window in bytes, shifted by its scale except on a SYN. -/
def Send.peerWindow (s : Send) (field : BitVec 16) (syn : Bool) : ℕ :=
  if syn then field.toNat else field.toNat <<< s.shift

/-- `rcv_place`: write bytes `off` past the ring's end without counting them as received;
how many fitted in the free space. -/
def Recv.place (off : ℕ) (data : List UInt8) : Recv × ℕ :=
  let free := r.cap - r.len
  if off ≥ free then (r, 0)
  else
    let n := min data.length (free - off)
    ({ r with arena := Ring.put r.cap r.arena ((r.head + r.len + off) % r.cap) (data.take n) }, n)

/-- `rcv_pop`: take up to `k` bytes from the ring's front. -/
def Recv.pop (k : ℕ) : Recv × List UInt8 :=
  let n := min k r.len
  ({ r with head := (r.head + n) % r.cap, len := r.len - n }, Ring.get r.cap r.arena r.head n)

/-- `deliver`: append in-order payload, then count the held spans that the gap was blocking. -/
def Recv.deliver (seq : Seq) (data : List UInt8) : Recv :=
  let skip := (r.nxt - seq).toNat
  if skip ≥ data.length then r
  else
    let placed := r.place 0 (data.drop skip)
    let drained := Spans.drain r.ooo.length (r.nxt + BitVec.ofNat 32 placed.2)
      (r.len + placed.2) r.ooo
    { placed.1 with nxt := drained.1, len := drained.2.1, ooo := drained.2.2 }

/-- `hold_ooo`: put an out-of-order segment in its place in the arena and record its span,
or drop it if no span can be had. -/
def Recv.holdOoo (seq : Seq) (data : List UInt8) : Recv :=
  let off := (seq - r.nxt).toNat
  if data = [] ∨ off ≥ r.window then r
  else
    let data := data.take (r.window - off)
    let merge := Spans.absorb r.ooo.length 0 seq (seq + BitVec.ofNat 32 data.length) false r.ooo
    if !merge.2.2.1 ∧ r.ooo.length = maxOoo then r
    else { (r.place off data).1 with ooo := merge.2.2.2 ++ [(merge.1, merge.2.1)] }

/-! ## Round trips and congestion -/

/-- `rtt_sample`: fold one sample into the estimate and recompute the timeout. -/
def Rtt.sample (t : Rtt) (r : ℕ) : Rtt :=
  let srtt := if t.srtt = 0 then r else (7 * t.srtt + r) / 8
  let rttvar :=
    if t.srtt = 0 then r / 2
    else (3 * t.rttvar + (if t.srtt > r then t.srtt - r else r - t.srtt)) / 4
  { t with srtt, rttvar, rto := max rtoMinMs (min (srtt + 4 * rttvar) rtoMaxMs) }

/-- The sample a handshake or an acknowledgement gives, when the timed segment is covered. -/
def Rtt.settle (t : Rtt) (now : ℕ) (covered : Bool) : Rtt :=
  if t.timing && covered && decide (t.timedAt ≤ now) then
    { t.sample (now - t.timedAt) with timing := false }
  else t

/-- `smss`: the segment size to send with. -/
def Congestion.smss : ℕ := max (min g.sndMss mss) 1

/-- `cc_open`. -/
def Congestion.open : Congestion :=
  { g with
    cwnd := min (4 * g.smss) (max (2 * g.smss) iwCeil)
    ssthresh := u32Max / 2
    dupAcks := 0
    inRecovery := false
    fastRetx := false }

/-- `cc_acked`: an acknowledgement of new data grows the window. -/
def Congestion.acked (n : ℕ) : Congestion :=
  if g.cwnd < g.ssthresh then { g with cwnd := satAdd g.cwnd (min n g.smss) }
  else { g with cwnd := satAdd g.cwnd (max (g.smss * g.smss / max g.cwnd 1) 1) }

/-- `cc_lost`. -/
def Congestion.lost (inflight : ℕ) : Congestion :=
  { g with ssthresh := max (inflight / 2) (2 * g.smss) }

/-- The peer's segment size, when its SYN offered one that is not absurdly small. -/
def Congestion.offer : Option ℕ → Congestion
  | some m => if m ≥ 88 then { g with sndMss := m } else g
  | none => g

/-! ## Opening -/

/-- `connect` on a free slot: an active open from `port`, its SYN not yet sent. -/
def Conn.connect (rid now : ℕ) (iss : Seq) (port dst dport : ℕ) : Conn :=
  { c.reset with
    rid
    usedMs := now
    state := .synSent
    localPort := port
    remoteIp := dst
    remotePort := dport
    snd := { c.reset.snd with iss, una := iss, nxt := iss + 1 }
    retxAt := now + rtoMinMs
    stateDeadline := now + 10000 }

/-- `small_window`: over a radio a connection offers less; settled before the SYN. -/
def Conn.smallWindow : Conn := { c with rcv := { c.rcv with limit := rcvRadio } }

/-- The passive open of `on_frame` on a free slot: a SYN for a port that is listened on. -/
def Conn.passiveOpen (now : ℕ) (iss : Seq) (seg : Seg) : Conn :=
  { c.reset with
    accepted := true
    localPort := seg.dstPort
    remoteIp := seg.srcIp
    remotePort := seg.srcPort
    snd := { c.reset.snd with
      iss
      una := iss
      nxt := iss + 1
      wnd := seg.wnd.toNat
      shift := (seg.ws.map Fin.val).getD 0 }
    rcv := { c.reset.rcv with
      nxt := seg.seq + 1
      shift := if seg.ws.isSome then c.reset.rcv.ourWs else 0 }
    peerWs := seg.ws.map Fin.val
    cc := (c.reset.cc.offer seg.mss).open
    state := .synReceived
    retxAt := now + rtoMinMs
    stateDeadline := now + 10000
    ackDue := true }

/-! ## The client's side -/

/-- `write`: how much of the data fits in the send arena is accepted. -/
def Conn.write (data : List UInt8) : Conn × ℕ :=
  if c.state = .established ∨ c.state = .closeWait then
    let n := min data.length (sndBuf - c.snd.buf.length)
    ({ c with snd := { c.snd with buf := c.snd.buf ++ data.take n } }, n)
  else (c, 0)

/-- `read`. -/
def Conn.read (k : ℕ) : Conn × List UInt8 :=
  ({ c with rcv := (c.rcv.pop k).1 }, (c.rcv.pop k).2)

/-- `close`: the client reads nothing more, and an open connection sends its FIN once the
send arena has drained. -/
def Conn.close : Conn :=
  { c with
    readerGone := true
    rcv := { c.rcv with len := 0, head := 0, ooo := [] }
    closePending :=
      c.closePending || decide (c.state = .established ∨ c.state = .closeWait) }

end Godspeed.Tcp
