import Godspeed.Tcp.Conn

/-!
# A segment for a connection

`Conn.onSegment` is the part of `Tcp::on_frame` that works on the connection a segment was
matched to: a reset, the two handshakes, and in the synchronised states the
acknowledgement, the data and the FIN, in this order.  Nothing is sent from here; what the
segment obliges the connection to send is recorded in `ackDue` and `ackOwed`.
-/

namespace Godspeed.Tcp

open Serial Conn

/-! ## The handshakes -/

variable (c : Conn) (now : ℕ) (seg : Seg)

/-- The handshake is over: no timer runs, and the round trip of the SYN is a sample. -/
def Conn.opened : Conn :=
  { c with
    state := .established
    retxAt := 0
    retxCount := 0
    stateDeadline := 0
    rtt := c.rtt.settle now true }

/-- A segment in `SynSent`: only a SYN that acknowledges ours is of use. -/
def Conn.answerSyn : Conn :=
  if seg.syn && seg.ack then
    if seg.ackNo ≠ c.snd.nxt then { c with fault := .reset, state := .closed }
    else
      let c := { c with
        snd := { c.snd with
          una := seg.ackNo
          wnd := seg.wnd.toNat
          shift := (seg.ws.map Fin.val).getD 0 }
        rcv := { c.rcv with
          nxt := seg.seq + 1
          shift := if seg.ws.isSome then c.rcv.ourWs else 0 }
        cc := (c.cc.offer seg.mss).open
        ackDue := true }
      c.opened now
  else c

/-- The data that the third leg of a passive open may carry. -/
def Conn.firstData : Conn :=
  if seg.payload ≠ [] ∧ seg.seq = c.rcv.nxt then
    { c with rcv := c.rcv.deliver seg.seq seg.payload, ackDue := true }
  else c

/-- The FIN that the third leg of a passive open may carry. -/
def Conn.firstFin : Conn :=
  if seg.fin ∧ seg.finSeq = c.rcv.nxt then
    { c with rcv := { c.rcv with nxt := c.rcv.nxt + 1 }, state := .closeWait, ackDue := true }
  else c

/-- A segment in `SynReceived`: the third leg of a passive open. -/
def Conn.completeOpen : Conn :=
  if seg.ack ∧ seg.ackNo = c.snd.nxt then
    let snd := { c.snd with una := seg.ackNo, wnd := c.snd.peerWindow seg.wnd false }
    ((({ c with snd }.opened now).firstData seg).firstFin seg)
  else c

/-! ## The acknowledgement -/

/-- Congestion control on an acknowledgement of `n` new places: inside recovery the rule is
NewReno's. -/
def Congestion.onAck (g : Congestion) (ackNo : Seq) (n : ℕ) : Congestion :=
  let g :=
    if g.inRecovery then
      if seqLe g.recover ackNo then { g with inRecovery := false, cwnd := g.ssthresh }
      else { g with fastRetx := true }
    else g.acked n
  { g with dupAcks := 0 }

/-- Something new is acknowledged: the bytes covered leave the send arena. -/
def Conn.advance : Conn :=
  let acked := (seg.ackNo - c.snd.una).toNat
  let rtt := c.rtt.settle now (seqLe c.rtt.timedSeq seg.ackNo)
  { c with
    snd := { c.snd with una := seg.ackNo, buf := c.snd.buf.drop (min acked c.snd.buf.length) }
    retxCount := 0
    probeAt := 0
    probeBackoff := 0
    cc := c.cc.onAck seg.ackNo acked
    rtt
    retxAt := if seg.ackNo = c.snd.nxt then 0 else now + rtt.rto }

/-- What a complete acknowledgement does to a closing connection. -/
def Conn.settleClose : Conn :=
  if c.state = .finWait1 ∧ c.snd.una = c.snd.nxt then
    { c with
      state := .finWait2
      stateDeadline := if c.readerGone then now + finWait2Ms else c.stateDeadline }
  else if c.state = .lastAck ∧ c.snd.una = c.snd.nxt then { c with state := .closed }
  else c

/-- The five conditions under which an acknowledgement is a duplicate. -/
def Conn.isDupAck : Bool :=
  seg.ackNo == c.snd.una && seg.payload.isEmpty && !seg.syn && !seg.fin
    && c.snd.peerWindow seg.wnd false == c.snd.wnd && c.snd.nxt != c.snd.una

/-- A duplicate acknowledgement; the third starts a fast retransmission. -/
def Congestion.onDupAck (g : Congestion) (inflight : ℕ) (nxt : Seq) : Congestion :=
  let g := { g with dupAcks := min (g.dupAcks + 1) 255 }
  if g.inRecovery then { g with cwnd := satAdd g.cwnd g.smss }
  else if g.dupAcks = 3 then
    let g := g.lost inflight
    { g with
      recover := nxt
      inRecovery := true
      cwnd := satAdd g.ssthresh (3 * g.smss)
      fastRetx := true }
  else g

/-- The acknowledgement number covers something outstanding. -/
def Conn.acksNew : Bool :=
  seqGt seg.ackNo c.snd.una && seqLe seg.ackNo c.snd.nxt

/-- The window the peer tells with an acknowledgement. -/
def Conn.noteWnd : Conn :=
  { c with snd := { c.snd with wnd := c.snd.peerWindow seg.wnd seg.syn } }

/-- The acknowledgement of a segment in a synchronised state.  A connection in `LastAck`
that is closed by it returns before the window is noted. -/
def Conn.takeAck : Conn :=
  if c.acksNew seg then
    let c := (c.advance now seg).settleClose now
    if c.state = .closed then c else c.noteWnd seg
  else if c.isDupAck seg then
    { c with cc := c.cc.onDupAck (c.snd.nxt - c.snd.una).toNat c.snd.nxt }.noteWnd seg
  else c.noteWnd seg

/-! ## The data and the FIN -/

/-- The data of a segment in a synchronised state, and whether it is answered at once. -/
def Conn.takeData : Conn × Bool :=
  if seg.payload = [] ∨ c.state = .timeWait then (c, false)
  else if seg.seq = c.rcv.nxt then
    let rcv := c.rcv.deliver seg.seq seg.payload
    let took := (rcv.nxt - c.rcv.nxt).toNat
    let owed := satAdd rcv.ackOwed took
    ({ c with rcv := { rcv with ackOwed := owed } },
      !c.rcv.ooo.isEmpty || decide (took < seg.payload.length) || decide (ackEvery ≤ owed))
  else if seqGt seg.seq c.rcv.nxt
      && seqLt seg.seq (c.rcv.nxt + BitVec.ofNat 32 c.rcv.window) then
    ({ c with rcv := c.rcv.holdOoo seg.seq seg.payload }, true)
  else (c, true)

/-- The FIN of a segment in a synchronised state, only when it is the next thing in
sequence. -/
def Conn.takeFin : Conn × Bool :=
  if seg.fin ∧ seg.finSeq = c.rcv.nxt then
    let c := { c with rcv := { c.rcv with nxt := c.rcv.nxt + 1 } }
    (match c.state with
      | .established => { c with state := .closeWait }
      | .finWait1 | .finWait2 => { c with state := .timeWait, stateDeadline := now + 2000 }
      | _ => c, true)
  else (c, false)

/-- The data and the FIN of a segment, and the acknowledgement they are owed. -/
def Conn.takeText : Conn :=
  let data := c.takeData seg
  let fin := data.1.takeFin now seg
  if data.2 || fin.2 then { fin.1 with ackDue := true } else fin.1

def Conn.synchronised : Conn :=
  let c := if seg.ack then c.takeAck now seg else c
  if c.state = .closed then c else c.takeText now seg

/-- `on_frame` from the matched connection on; a closed connection is never matched. -/
def Conn.onSegment : Conn :=
  if c.state = .closed then c
  else if seg.rst then { c with fault := .reset, state := .closed }
  else
    match c.state with
    | .synSent => c.answerSyn now seg
    | .synReceived => c.completeOpen now seg
    | _ => c.synchronised now seg

/-! ## What the parts leave alone -/

/-- The state that a complete acknowledgement moves a connection to. -/
def State.whenAcked : State → State
  | .finWait1 => .finWait2
  | .lastAck => .closed
  | s => s

variable (c : Conn) (now : ℕ) (seg : Seg)

lemma settleClose_state : (c.settleClose now).state =
    if c.snd.una = c.snd.nxt then c.state.whenAcked else c.state := by
  unfold settleClose
  by_cases hall : c.snd.una = c.snd.nxt
  · cases hs : c.state <;> simp [hall, hs, State.whenAcked]
  · simp [hall]

@[simp] lemma settleClose_rcv : (c.settleClose now).rcv = c.rcv := by
  unfold settleClose
  split
  · rfl
  · split <;> rfl

@[simp] lemma settleClose_snd : (c.settleClose now).snd = c.snd := by
  unfold settleClose
  split
  · rfl
  · split <;> rfl

@[simp] lemma settleClose_ackDue : (c.settleClose now).ackDue = c.ackDue := by
  unfold settleClose
  split
  · rfl
  · split <;> rfl

/-- The state after the acknowledgement: a complete one moves a closing connection on. -/
lemma takeAck_state : (c.takeAck now seg).state =
    if c.acksNew seg ∧ seg.ackNo = c.snd.nxt then c.state.whenAcked else c.state := by
  have hclose : ((c.advance now seg).settleClose now).state =
      if seg.ackNo = c.snd.nxt then c.state.whenAcked else c.state :=
    settleClose_state (c.advance now seg) now
  unfold takeAck
  split
  next hnew =>
    have hstate : ∀ d : Conn, (if d.state = State.closed then d else d.noteWnd seg).state
        = d.state := by
      intro d
      split <;> rfl
    rw [hstate, hclose]
    simp [hnew]
  next hnew =>
    split <;> simp [hnew, noteWnd]

@[simp] lemma takeAck_rcv : (c.takeAck now seg).rcv = c.rcv := by
  unfold takeAck
  split
  · dsimp only
    split <;> simp [noteWnd, advance]
  · split <;> rfl

@[simp] lemma takeAck_ackDue : (c.takeAck now seg).ackDue = c.ackDue := by
  unfold takeAck
  split
  · dsimp only
    split <;> simp [noteWnd, advance]
  · split <;> rfl

/-- The send side after the acknowledgement: only its window is noted besides. -/
lemma takeAck_snd : ∃ wnd, (c.takeAck now seg).snd = { (if c.acksNew seg then { c.snd with
          una := seg.ackNo
          buf := c.snd.buf.drop (min (seg.ackNo - c.snd.una).toNat c.snd.buf.length) }
      else c.snd) with wnd } := by
  unfold takeAck
  split
  · dsimp only
    split
    · exact ⟨c.snd.wnd, by simp [advance]⟩
    · exact ⟨_, by simp only [noteWnd, settleClose_snd]; rfl⟩
  · split <;> exact ⟨_, rfl⟩

/-- The state that a FIN of the peer moves a connection to. -/
def State.onFin : State → State
  | .established => .closeWait
  | .finWait1 | .finWait2 => .timeWait
  | s => s

lemma takeData_state : (c.takeData seg).1.state = c.state := by
  unfold takeData
  split
  · rfl
  split
  · rfl
  split <;> rfl

lemma takeFin_state : (c.takeFin now seg).1.state =
    if seg.fin ∧ seg.finSeq = c.rcv.nxt then c.state.onFin else c.state := by
  unfold takeFin
  split
  · cases hs : c.state <;> simp [State.onFin]
  · rfl

lemma takeText_state : (c.takeText now seg).state =
    if seg.fin ∧ seg.finSeq = (c.takeData seg).1.rcv.nxt then c.state.onFin else c.state := by
  rw [← takeData_state c seg, ← takeFin_state]
  unfold takeText
  dsimp only
  split <;> rfl

lemma takeText_rcv : (c.takeText now seg).rcv = ((c.takeData seg).1.takeFin now seg).1.rcv := by
  unfold takeText
  dsimp only
  split <;> rfl

@[simp] lemma takeText_snd : (c.takeText now seg).snd = c.snd := by
  have hdata : (c.takeData seg).1.snd = c.snd := by
    unfold takeData
    split
    · rfl
    split
    · rfl
    split <;> rfl
  have hfin : ((c.takeData seg).1.takeFin now seg).1.snd = (c.takeData seg).1.snd := by
    unfold takeFin
    split
    · dsimp only
      split <;> rfl
    · rfl
  unfold takeText
  dsimp only
  split <;> exact hfin.trans hdata

lemma takeData_nxt : (c.takeData seg).1.rcv.nxt = c.rcv.nxt ∨ seg.seq = c.rcv.nxt := by
  have hhold : (c.rcv.holdOoo seg.seq seg.payload).nxt = c.rcv.nxt := by
    have hplace : ∀ off data, (c.rcv.place off data).1.nxt = c.rcv.nxt := by
      intro off data
      unfold Recv.place
      dsimp only
      split <;> rfl
    unfold Recv.holdOoo
    dsimp only
    split
    · rfl
    · split
      · rfl
      · exact hplace _ _
  unfold takeData
  split
  · exact .inl rfl
  split
  · exact .inr ‹_›
  split
  · exact .inl hhold
  · exact .inl rfl

/-- What a handshake that is completed leaves on the send side. -/
structure Completes (c c' : Conn) (seg : Seg) : Prop where
  ack : seg.ack = true
  ackNo : seg.ackNo = c.snd.nxt
  una : c'.snd.una = seg.ackNo
  nxt : c'.snd.nxt = c.snd.nxt
  iss : c'.snd.iss = c.snd.iss
  buf : c'.snd.buf = c.snd.buf

/-- A segment in `SynSent` is ignored, refused, or completes the handshake. -/
lemma answerSyn_cases : c.answerSyn now seg = c ∨
    ((c.answerSyn now seg).snd = c.snd ∧ (c.answerSyn now seg).state = .closed ∧
      (c.answerSyn now seg).fault = .reset) ∨
    (Completes c (c.answerSyn now seg) seg ∧ (c.answerSyn now seg).state = .established) := by
  unfold answerSyn
  split
  next hboth =>
    rw [Bool.and_eq_true] at hboth
    split
    · exact .inr (.inl ⟨rfl, rfl, rfl⟩)
    next hack =>
      exact .inr (.inr ⟨⟨hboth.2, not_not.mp hack, rfl, rfl, rfl, rfl⟩, rfl⟩)
  · exact .inl rfl

/-- A segment in `SynReceived` is ignored or completes the handshake, and may bring the
peer's FIN at once. -/
lemma completeOpen_cases : c.completeOpen now seg = c ∨ (Completes c (c.completeOpen now seg) seg ∧
      ((c.completeOpen now seg).state = .established ∨
        (c.completeOpen now seg).state = .closeWait)) := by
  have hdata : ∀ d : Conn, (d.firstData seg).snd = d.snd ∧ (d.firstData seg).state = d.state := by
    intro d
    unfold firstData
    split <;> exact ⟨rfl, rfl⟩
  have hfin : ∀ d : Conn, (d.firstFin seg).snd = d.snd ∧
      ((d.firstFin seg).state = d.state ∨ (d.firstFin seg).state = .closeWait) := by
    intro d
    unfold firstFin
    split
    · exact ⟨rfl, .inr rfl⟩
    · exact ⟨rfl, .inl rfl⟩
  unfold completeOpen
  split
  next hack =>
    refine .inr ⟨⟨hack.1, hack.2, ?_, ?_, ?_, ?_⟩, ?_⟩
    iterate 4 rw [(hfin _).1, (hdata _).1]; rfl
    rcases (hfin _).2 with hs | hs
    · rw [hs, (hdata _).2]
      exact .inl rfl
    · exact .inr hs
  · exact .inl rfl

end Godspeed.Tcp
