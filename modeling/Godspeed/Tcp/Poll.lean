import Godspeed.Tcp.Conn

/-!
# One step of a connection's own progress

`Conn.pollOne` is `Tcp::poll_one`: it expires a deadline, retransmits if that is due, or
sends what is owed or what the peer's window allows, one frame a call at most.  The clock is
`none` on a machine whose clock is not calibrated; timers are then inert.

Every way through the function is a constructor of `Polled`, and `polled` says that there
is no other: what a poll keeps is proved by cases on it.
-/

namespace Godspeed.Tcp

open Serial Conn

variable (c : Conn) (clock : Option ℕ) (now : ℕ)

/-- A frame of this connection that acknowledges what was received and tells the window. -/
def Conn.reply (seq : Seq) (fin psh : Bool) (payload : List UInt8) : Conn × Option Frame :=
  ({ c with rcv := c.rcv.adv false },
    some
      { dstIp := c.remoteIp, srcPort := c.localPort, dstPort := c.remotePort
        seq, ackNo := c.rcv.nxt, syn := false, ack := true, fin, psh
        wnd := c.rcv.field false, ws := none, payload })

/-- A frame of this connection with a SYN. -/
def Conn.synFrame (ack : Bool) (ackNo : Seq) (ws : Option ℕ) : Conn × Option Frame :=
  ({ c with rcv := c.rcv.adv true },
    some
      { dstIp := c.remoteIp, srcPort := c.localPort, dstPort := c.remotePort
        seq := c.snd.iss, ackNo, syn := true, ack, fin := false, psh := false
        wnd := c.rcv.field true, ws, payload := [] })

/-- `syn_frame`: the SYN that opens a connection, timed. -/
def Conn.synOut : Conn × Option Frame :=
  { c with rtt := { c.rtt with timing := true, timedSeq := c.snd.nxt, timedAt := now } }.synFrame
    false 0 (some c.rcv.ourWs)

def Conn.expired : Option ℕ → Bool
  | some now => c.stateDeadline != 0 && decide (c.stateDeadline ≤ now)
  | none => false

/-- The deadlines: of the states that have one, three are closed by it. -/
def Conn.expire : Conn :=
  if c.expired clock then
    match c.state with
    | .synSent => { c with fault := .connectTimeout, state := .closed }
    | .timeWait | .finWait2 => { c with state := .closed }
    | _ => { c with stateDeadline := 0 }
  else c

/-- The retransmission timer has run out. -/
def Conn.retxDue : Option ℕ → Bool
  | some now => c.retxAt != 0 && decide (c.retxAt ≤ now)
  | none => false

/-- Start the retransmission timer if it does not run. -/
def Conn.armRetx : Conn :=
  if c.retxAt = 0 then { c with retxAt := now + c.rtt.rto } else c

/-- The oldest bytes of the send arena, up to one segment, once more. -/
def Conn.resend : Conn × Option Frame :=
  c.reply c.snd.una false true (c.snd.buf.take (min c.snd.buf.length c.cc.smss))

/-- The fast retransmission, when there is something to resend. -/
def Conn.fastResend : Conn × Option Frame :=
  ({ c with cc := { c.cc with fastRetx := false }, rtt := { c.rtt with timing := false } }.armRetx
    now).resend

/-- The bookkeeping of a timeout: back off, collapse the congestion window, stop timing. -/
def Conn.backOff : Conn :=
  let rto := min (c.rtt.rto * 2) rtoMaxMs
  { c with
    retxCount := c.retxCount + 1
    rtt := { c.rtt with rto, timing := false }
    retxAt := now + rto
    cc := { c.cc.lost (c.snd.nxt - c.snd.una).toNat with
      cwnd := c.cc.smss
      dupAcks := 0
      inRecovery := false
      fastRetx := false } }

/-- The retransmission timer has run out: give up, or resend what is outstanding. -/
def Conn.retransmit : Conn × Option Frame :=
  if c.retxCount + 1 > maxRetx then
    ({ c with retxCount := c.retxCount + 1, fault := .retxExhausted, state := .closed }, none)
  else
    let c := c.backOff now
    if c.state = .synSent then c.synFrame false 0 (some c.rcv.ourWs)
    else if c.snd.buf ≠ [] then c.resend
    else if c.state = .finWait1 ∨ c.state = .lastAck then c.reply (c.snd.nxt - 1) true false []
    else (c, none)

/-- The SYN-ACK a passive open owes.  Its own timer is never due here: the retransmission
above has been taken then. -/
def Conn.pollSynAck : Conn × Option Frame :=
  if c.ackDue then
    { c with ackDue := false }.synFrame true c.rcv.nxt (c.peerWs.map fun _ => c.rcv.shift)
  else (c, none)

/-- The states in which a window that has reopened is told to the peer. -/
def State.tellsWindow : State → Bool
  | .established | .closeWait | .finWait1 | .finWait2 => true
  | _ => false

/-- The window has reopened by a segment or by half of the arena. -/
def Conn.windowUpdateDue : Bool :=
  c.state.tellsWindow && decide (min mss (c.rcv.cap / 2) ≤ c.rcv.advertisable - c.rcv.lastAdv)

def Conn.sendNew (now off allowed : ℕ) : Conn × Option Frame :=
  let n := min (c.snd.buf.length - off) (min c.cc.smss allowed)
  let nxt := c.snd.nxt + BitVec.ofNat 32 n
  let rtt := if c.rtt.timing then c.rtt
    else { c.rtt with timing := true, timedSeq := nxt, timedAt := now }
  ({ c with probeAt := 0, snd := { c.snd with nxt }, rtt }.armRetx now).reply c.snd.nxt false true
    ((c.snd.buf.drop off).take n)

/-- The probe itself: one byte beyond the window. -/
def Conn.sendProbe (now off : ℕ) : Conn × Option Frame :=
  let backoff := min (max (c.probeBackoff * 2) rtoMinMs) rtoMaxMs
  ({ c with
      probeBackoff := backoff
      probeAt := now + backoff
      snd := { c.snd with nxt := c.snd.nxt + 1 } }.armRetx now).reply c.snd.nxt false false
    ((c.snd.buf.drop off).take 1)

def Conn.armProbe : Conn :=
  { c with probeBackoff := c.rtt.rto, probeAt := now + c.rtt.rto }

/-- The peer's window is shut: probe it when the probe timer runs out. -/
def Conn.probe (off : ℕ) : Conn × Option Frame :=
  match clock with
  | none => (c, none)
  | some now =>
    if c.snd.wnd ≠ 0 then (c, none)
    else if c.probeAt = 0 then (c.armProbe now, none)
    else if c.probeAt ≤ now then c.sendProbe now off
    else (c, none)

/-- Our FIN, once everything accepted from the client has been sent. -/
def Conn.sendFin : Conn × Option Frame :=
  ({ c with
      closePending := false
      snd := { c.snd with nxt := c.snd.nxt + 1 }
      state := if c.state = State.closeWait then State.lastAck else State.finWait1 }.armRetx now).reply
    c.snd.nxt true false []

/-- What an open connection sends of its own: new data, a probe, or its FIN. -/
def Conn.pollSend : Conn × Option Frame :=
  let off := (c.snd.nxt - c.snd.una).toNat
  if off < c.snd.buf.length then
    let allowed := min c.snd.wnd c.cc.cwnd - off
    if allowed > 0 then c.sendNew (clock.getD 0) off allowed else c.probe clock off
  else if c.closePending ∧ off = c.snd.buf.length then c.sendFin (clock.getD 0)
  else (c, none)

/-- `poll_one` after the deadlines and the fast retransmission. -/
def Conn.pollRest : Conn × Option Frame :=
  if c.retxDue clock then c.retransmit (clock.getD 0)
  else if c.state = .synReceived then c.pollSynAck
  else if c.ackDue then { c with ackDue := false }.reply c.snd.nxt false false []
  else if c.windowUpdateDue then c.reply c.snd.nxt false false []
  else if c.state = .established ∨ c.state = .closeWait then c.pollSend clock
  else (c, none)

/-- The fast retransmission is asked for once. -/
def Conn.calm : Conn := { c with cc := { c.cc with fastRetx := false } }

/-- `poll_one` on a connection that its deadlines have not closed. -/
def Conn.pollLive : Conn × Option Frame :=
  if c.cc.fastRetx ∧ c.snd.buf ≠ [] then c.fastResend (clock.getD 0)
  else c.calm.pollRest clock

/-- `poll_one`. -/
def Conn.pollOne : Conn × Option Frame :=
  if c.state = .closed then (c, none)
  else
    let c := c.expire clock
    if c.state = .closed then (c, none) else c.pollLive clock

/-! ## The ways through a poll -/

/-- The ways through `pollLive`: the connection and the frame it leaves. -/
inductive Polled (clock : Option ℕ) (c : Conn) : Conn × Option Frame → Prop
  | fastResend (hfast : c.cc.fastRetx = true) (hbuf : c.snd.buf ≠ []) :
      Polled clock c (c.fastResend (clock.getD 0))
  | gaveUp (hdue : c.retxDue clock = true) (hmany : maxRetx < c.retxCount + 1) :
      Polled clock c ({ c.calm with
        retxCount := c.retxCount + 1, fault := .retxExhausted, state := .closed }, none)
  | resentSyn (hdue : c.retxDue clock = true) (hfew : c.retxCount + 1 ≤ maxRetx)
      (hstate : c.state = .synSent) :
      Polled clock c ((c.calm.backOff (clock.getD 0)).synFrame false 0 (some c.rcv.ourWs))
  | resentData (hdue : c.retxDue clock = true) (hfew : c.retxCount + 1 ≤ maxRetx)
      (hstate : c.state ≠ .synSent) (hbuf : c.snd.buf ≠ []) :
      Polled clock c (c.calm.backOff (clock.getD 0)).resend
  | resentFin (hdue : c.retxDue clock = true) (hfew : c.retxCount + 1 ≤ maxRetx)
      (hstate : c.state = .finWait1 ∨ c.state = .lastAck) (hbuf : c.snd.buf = []) :
      Polled clock c ((c.calm.backOff (clock.getD 0)).reply (c.snd.nxt - 1) true false [])
  | backedOff (hdue : c.retxDue clock = true) (hfew : c.retxCount + 1 ≤ maxRetx)
      (hsyn : c.state ≠ .synSent) (hstate : ¬(c.state = .finWait1 ∨ c.state = .lastAck))
      (hbuf : c.snd.buf = []) :
      Polled clock c (c.calm.backOff (clock.getD 0), none)
  | synAck (hstate : c.state = .synReceived) (hdue : c.ackDue = true)
      (htimer : c.retxDue clock = false) :
      Polled clock c ({ c.calm with ackDue := false }.synFrame true c.rcv.nxt
        (c.peerWs.map fun _ => c.rcv.shift))
  | ack (hstate : c.state ≠ .synReceived) (hdue : c.ackDue = true)
      (htimer : c.retxDue clock = false) :
      Polled clock c ({ c.calm with ackDue := false }.reply c.snd.nxt false false [])
  | window (hstate : c.state.tellsWindow = true) (hdue : c.ackDue = false)
      (htimer : c.retxDue clock = false) :
      Polled clock c (c.calm.reply c.snd.nxt false false [])
  | newData (hopen : c.state = .established ∨ c.state = .closeWait)
      (hmore : (c.snd.nxt - c.snd.una).toNat < c.snd.buf.length)
      (hallowed : 0 < min c.snd.wnd c.cc.cwnd - (c.snd.nxt - c.snd.una).toNat) :
      Polled clock c (c.calm.sendNew (clock.getD 0) (c.snd.nxt - c.snd.una).toNat
        (min c.snd.wnd c.cc.cwnd - (c.snd.nxt - c.snd.una).toNat))
  | armProbe (now : ℕ) (hdue : c.retxDue clock = false) :
      Polled clock c (c.calm.armProbe now, none)
  | probe (now : ℕ) (hopen : c.state = .established ∨ c.state = .closeWait)
      (hmore : (c.snd.nxt - c.snd.una).toNat < c.snd.buf.length) (hshut : c.snd.wnd = 0) :
      Polled clock c (c.calm.sendProbe now (c.snd.nxt - c.snd.una).toNat)
  | fin (hopen : c.state = .established ∨ c.state = .closeWait) (hpending : c.closePending = true)
      (hsent : (c.snd.nxt - c.snd.una).toNat = c.snd.buf.length) :
      Polled clock c (c.calm.sendFin (clock.getD 0))
  | nothing (hdue : c.retxDue clock = false) : Polled clock c (c.calm, none)

lemma polled (c : Conn) : Polled clock c (c.pollLive clock) := by
  unfold pollLive
  split
  next hfast =>
    exact .fastResend hfast.1 hfast.2
  unfold pollRest
  split
  · -- the retransmission timer has run out
    rename_i hdue
    unfold retransmit
    split
    next hmany =>
      exact .gaveUp hdue hmany
    rename_i hfew
    have hfew : c.retxCount + 1 ≤ maxRetx := not_lt.mp hfew
    dsimp only
    split
    next hstate =>
      exact .resentSyn hdue hfew hstate
    rename_i hsyn
    split
    next hbuf =>
      exact .resentData hdue hfew hsyn hbuf
    rename_i hbuf
    have hbuf : c.snd.buf = [] := not_not.mp hbuf
    split
    next hstate =>
      exact .resentFin hdue hfew hstate hbuf
    next hstate =>
      exact .backedOff hdue hfew hsyn hstate hbuf
  rename_i htimer
  have htimer : c.retxDue clock = false := Bool.eq_false_iff.mpr htimer
  split
  next hstate =>
    unfold pollSynAck
    split
    next hdue =>
      exact .synAck hstate hdue htimer
    · exact .nothing htimer
  rename_i hstate
  split
  next hdue =>
    exact .ack hstate hdue htimer
  rename_i hdue
  have hdue : c.ackDue = false := Bool.eq_false_iff.mpr hdue
  split
  next hwin =>
    rw [windowUpdateDue, Bool.and_eq_true] at hwin
    exact .window hwin.1 hdue htimer
  split
  next hopen =>
    unfold pollSend
    dsimp only
    split
    next hmore =>
      split
      next hallowed =>
        exact .newData hopen hmore hallowed
      unfold probe
      split
      · exact .nothing htimer
      split
      · exact .nothing htimer
      rename_i hshut
      split
      · exact .armProbe _ htimer
      split
      · exact .probe _ hopen hmore (not_not.mp hshut)
      · exact .nothing htimer
    · split
      next hfin =>
        exact .fin hopen hfin.1 hfin.2
      · exact .nothing htimer
  · exact .nothing htimer

/-! ## A poll on the send side -/

/-- What a poll does on the send side: nothing, resend the oldest bytes, send new ones, or
send the FIN. -/
inductive Sends (clock : Option ℕ) (c : Conn) (r : Conn × Option Frame) : Prop
  | quiet (hsnd : r.1.snd = c.snd)
      (hstate : r.1.state = c.state ∨ (r.1.state = .closed ∧ r.1.fault = .retxExhausted))
      (hbare : ∀ f, r.2 = some f → f.payload = [])
      (hfin : ∀ f, r.2 = some f → f.fin = true → c.state = .finWait1 ∨ c.state = .lastAck)
  | resend (f : Frame) (hdue : c.cc.fastRetx = true ∨ c.retxDue clock = true)
      (hsnd : r.1.snd = c.snd) (hstate : r.1.state = c.state) (hframe : r.2 = some f)
      (hseq : f.seq = c.snd.una)
      (hload : f.payload = c.snd.buf.take (min c.snd.buf.length c.cc.smss))
      (hfin : f.fin = false)
  | fresh (f : Frame) (n : ℕ) (hopen : c.state = .established ∨ c.state = .closeWait)
      (hsnd : r.1.snd = { c.snd with nxt := c.snd.nxt + BitVec.ofNat 32 n })
      (hstate : r.1.state = c.state) (hframe : r.2 = some f) (hseq : f.seq = c.snd.nxt)
      (hload : f.payload = (c.snd.buf.drop (c.snd.nxt - c.snd.una).toNat).take n) (hpos : 0 < n)
      (hfits : (c.snd.nxt - c.snd.una).toNat + n ≤ c.snd.buf.length)
      (hwnd : (c.snd.nxt - c.snd.una).toNat + n ≤ c.snd.wnd ∨ (c.snd.wnd = 0 ∧ n = 1))
      (hfin : f.fin = false)
  | fin (f : Frame) (hopen : c.state = .established ∨ c.state = .closeWait)
      (hsent : (c.snd.nxt - c.snd.una).toNat = c.snd.buf.length)
      (hsnd : r.1.snd = { c.snd with nxt := c.snd.nxt + 1 })
      (hstate : r.1.state = .finWait1 ∨ r.1.state = .lastAck) (hframe : r.2 = some f)
      (hload : f.payload = []) (hfin : f.fin = true)

lemma armRetx_keeps :
    (c.armRetx now).snd = c.snd ∧ (c.armRetx now).state = c.state ∧ (c.armRetx now).rcv = c.rcv ∧
      (c.armRetx now).cc = c.cc := by
  unfold armRetx
  split <;> exact ⟨rfl, rfl, rfl, rfl⟩

lemma expire_keeps : (c.expire clock).snd = c.snd ∧
    (c.expire clock).cc = c.cc ∧ (c.expire clock).retxDue clock = c.retxDue clock := by
  unfold expire
  split
  · split <;> refine ⟨rfl, rfl, ?_⟩ <;> cases clock <;> rfl
  · exact ⟨rfl, rfl, rfl⟩

lemma pollLive_sends (c : Conn) : Sends clock c (c.pollLive clock) := by
  have hway := polled clock c
  generalize c.pollLive clock = r at hway
  cases hway with
  | fastResend hfast hbuf =>
    obtain ⟨hsnd, hstate, -, hcc⟩ := armRetx_keeps { c with
      cc := { c.cc with fastRetx := false }, rtt := { c.rtt with timing := false } } (clock.getD 0)
    refine .resend _ (.inl hfast) hsnd hstate rfl ?_ ?_ rfl
    · simp only [hsnd]
    · simp only [hsnd, hcc]
      rfl
  | gaveUp hdue hmany => exact .quiet rfl (.inr ⟨rfl, rfl⟩) (by simp) (by simp)
  | resentSyn hdue hfew hstate
  | synAck hstate hdue htimer | ack hstate hdue htimer | window hstate hdue htimer =>
    refine .quiet rfl (.inl rfl) ?_ ?_
    · rintro f ⟨⟩
      rfl
    · rintro f ⟨⟩ hf
      simp at hf
  | resentData hdue hfew hstate hbuf => exact .resend _ (.inr hdue) rfl rfl rfl rfl rfl rfl
  | resentFin hdue hfew hstate hbuf =>
    refine .quiet rfl (.inl rfl) ?_ fun _ _ _ => hstate
    rintro f ⟨⟩
    rfl
  | backedOff hdue hfew hsyn hstate hbuf | armProbe now hdue | nothing hdue =>
    exact .quiet rfl (.inl rfl) (by simp) (by simp)
  | newData hopen hmore hallowed =>
    have hone : 1 ≤ c.cc.smss := le_max_right _ _
    refine .fresh _ (min (c.snd.buf.length - (c.snd.nxt - c.snd.una).toNat) (min c.cc.smss
      (min c.snd.wnd c.cc.cwnd - (c.snd.nxt - c.snd.una).toNat))) hopen
      (armRetx_keeps _ _).1 (armRetx_keeps _ _).2.1 rfl rfl rfl ?_ ?_ ?_ rfl
    all_goals omega
  | probe now hopen hmore hshut =>
    exact .fresh _ 1 hopen (armRetx_keeps _ _).1 (armRetx_keeps _ _).2.1 rfl rfl rfl Nat.one_pos
      hmore (.inr ⟨hshut, rfl⟩) rfl
  | fin hopen hpend hsent =>
    refine .fin _ hopen hsent (armRetx_keeps _ _).1 ?_ rfl rfl rfl
    rw [show (c.calm.sendFin (clock.getD 0)).1.state =
      if c.state = .closeWait then State.lastAck else State.finWait1 from (armRetx_keeps _ _).2.1]
    split
    · exact .inr rfl
    · exact .inl rfl

/-! ## A poll on the receive side -/

/-- On the receive side a poll only notes what it told the peer, and it tells the window. -/
structure Tells (c : Conn) (r : Conn × Option Frame) : Prop where
  rcv : ∃ owed adv, r.1.rcv = { c.rcv with ackOwed := owed, lastAdv := adv }
  wnd : ∀ f, r.2 = some f → f.wnd = c.rcv.field f.syn

variable {c d : Conn}

lemma reply_tells (h : d.rcv = c.rcv) (seq : Seq) (fin psh : Bool) (payload : List UInt8) :
    Tells c (d.reply seq fin psh payload) := by
  refine ⟨⟨0, c.rcv.told false, ?_⟩, ?_⟩
  · rw [← h]
    rfl
  · rintro f ⟨⟩
    rw [← h]

lemma synFrame_tells (h : d.rcv = c.rcv) (ack : Bool) (ackNo : Seq) (ws : Option ℕ) :
    Tells c (d.synFrame ack ackNo ws) := by
  refine ⟨⟨0, c.rcv.told true, ?_⟩, ?_⟩
  · rw [← h]
    rfl
  · rintro f ⟨⟩
    rw [← h]

lemma silent_tells (h : d.rcv = c.rcv) : Tells c (d, none) :=
  ⟨⟨c.rcv.ackOwed, c.rcv.lastAdv, h⟩, by simp⟩

lemma pollLive_tells (c : Conn) : Tells c (c.pollLive clock) := by
  have harm : ∀ (d : Conn) (now : ℕ), d.rcv = c.rcv → (d.armRetx now).rcv = c.rcv :=
    fun d now hd => (armRetx_keeps d now).2.2.1.trans hd
  have hway := polled clock c
  generalize c.pollLive clock = r at hway
  cases hway with
  | fastResend | newData | probe | fin =>
    apply reply_tells
    exact harm _ _ rfl
  | resentData | resentFin | ack | window =>
    apply reply_tells
    rfl
  | resentSyn | synAck =>
    apply synFrame_tells
    rfl
  | gaveUp | backedOff | armProbe | nothing => exact silent_tells rfl

lemma expire_rcv (c : Conn) (clock : Option ℕ) : (c.expire clock).rcv = c.rcv := by
  unfold expire
  split
  · split <;> rfl
  · rfl

lemma pollOne_tells (c : Conn) : Tells c (c.pollOne clock) := by
  unfold pollOne
  split
  · exact silent_tells rfl
  dsimp only
  split
  · exact silent_tells (expire_rcv c clock)
  · obtain ⟨hrcv, hwnd⟩ := pollLive_tells clock (c.expire clock)
    rw [expire_rcv] at hrcv hwnd
    exact ⟨hrcv, hwnd⟩

end Godspeed.Tcp
