import Godspeed.Tcp.Owed

/-!
# What stays of a connection, and what an unclaimed one can become

A segment, a poll and the requests of a client leave a connection its owner, its ports and
its peer (`Conn.face`), and a closed connection closed.

`Conn.Waiting` is what is known about a connection that a peer has opened and no client has
claimed: nothing is in its send arena and nobody has closed it, so it is in the handshake
with its retransmission timer armed, or it is established, or the peer has sent its FIN.
Segments and polls keep it so, or close it (`Waiting.onSegment`, `Waiting.pollOne`); and one
whose handshake does not end is closed by its timer (`Conn.Armed.ends`).  That timer resends
nothing, though: a SYN-ACK that is lost is lost for good (`resendsSynAck_iff`).
-/

namespace Godspeed.Tcp

open Conn

/-- The owner, the ports and the peer of a connection. -/
structure Face where
  rid : ℕ
  accepted : Bool
  localPort : ℕ
  remoteIp : ℕ
  remotePort : ℕ

def Conn.face (c : Conn) : Face :=
  ⟨c.rid, c.accepted, c.localPort, c.remoteIp, c.remotePort⟩

/-- The same connection, which is being closed by its client or not. -/
def Conn.SameFace (c c' : Conn) : Prop := c'.face = c.face ∧ c'.closePending = c.closePending

section Faces

variable (c : Conn) (now : ℕ) (seg : Seg)

lemma Conn.SameFace.trans {c c' c'' : Conn} (h : c.SameFace c') (h' : c'.SameFace c'') :
    c.SameFace c'' := ⟨h'.1.trans h.1, h'.2.trans h.2⟩

lemma takeAck_face : c.SameFace (c.takeAck now seg) := by
  have hclose : ∀ d : Conn, d.SameFace (d.settleClose now) := by
    intro d
    unfold settleClose
    split
    · exact ⟨rfl, rfl⟩
    · split <;> exact ⟨rfl, rfl⟩
  unfold takeAck
  split
  · dsimp only
    have hdone := hclose (c.advance now seg)
    split <;> exact hdone
  · split <;> exact ⟨rfl, rfl⟩

lemma takeText_face : c.SameFace (c.takeText now seg) := by
  have hdata : c.SameFace (c.takeData seg).1 := by
    unfold takeData
    split
    · exact ⟨rfl, rfl⟩
    split
    · exact ⟨rfl, rfl⟩
    split <;> exact ⟨rfl, rfl⟩
  have hfin : ∀ d : Conn, d.SameFace (d.takeFin now seg).1 := by
    intro d
    unfold takeFin
    split
    · dsimp only
      split <;> exact ⟨rfl, rfl⟩
    · exact ⟨rfl, rfl⟩
  unfold takeText
  dsimp only
  split <;> exact hdata.trans (hfin _)

lemma answerSyn_face : c.SameFace (c.answerSyn now seg) := by
  unfold answerSyn
  split
  · split <;> exact ⟨rfl, rfl⟩
  · exact ⟨rfl, rfl⟩

lemma completeOpen_face : c.SameFace (c.completeOpen now seg) := by
  have hdata : ∀ d : Conn, d.SameFace (d.firstData seg) := by
    intro d
    unfold firstData
    split <;> exact ⟨rfl, rfl⟩
  have hfin : ∀ d : Conn, d.SameFace (d.firstFin seg) := by
    intro d
    unfold firstFin
    split <;> exact ⟨rfl, rfl⟩
  have hlegs : ∀ d : Conn, c.SameFace d → c.SameFace ((d.firstData seg).firstFin seg) :=
    fun d hd => (hd.trans (hdata d)).trans (hfin _)
  unfold completeOpen
  split
  · exact hlegs _ ⟨rfl, rfl⟩
  · exact ⟨rfl, rfl⟩

lemma onSegment_face : c.SameFace (c.onSegment now seg) := by
  have hsync : c.SameFace (c.synchronised now seg) := by
    have hack : c.SameFace (if seg.ack then c.takeAck now seg else c) := by
      split
      · exact takeAck_face c now seg
      · exact ⟨rfl, rfl⟩
    unfold synchronised
    dsimp only
    generalize (if seg.ack then c.takeAck now seg else c) = d at hack ⊢
    split
    · exact hack
    · exact hack.trans (takeText_face d now seg)
  unfold onSegment
  split
  · exact ⟨rfl, rfl⟩
  split
  · exact ⟨rfl, rfl⟩
  split
  · exact answerSyn_face c now seg
  · exact completeOpen_face c now seg
  · exact hsync

lemma onSegment_of_closed {c : Conn} (h : c.state = .closed) (now : ℕ) (seg : Seg) :
    c.onSegment now seg = c := by
  unfold onSegment
  rw [if_pos h]

lemma armRetx_face : (c.armRetx now).face = c.face := by
  unfold armRetx
  split <;> rfl

lemma pollOne_face (clock : Option ℕ) : (c.pollOne clock).1.face = c.face := by
  have hexpire : (c.expire clock).face = c.face := by
    unfold expire
    split
    · split <;> rfl
    · rfl
  have hlive : ∀ d : Conn, (d.pollLive clock).1.face = d.face := by
    intro d
    have hway := polled clock d
    generalize d.pollLive clock = r at hway
    cases hway with
    | fastResend | newData | probe | fin => exact armRetx_face _ _
    | gaveUp | resentSyn | resentData | resentFin | backedOff | synAck | ack | window | armProbe
    | nothing => rfl
  unfold pollOne
  split
  · rfl
  dsimp only
  split
  · exact hexpire
  · rw [hlive, hexpire]

lemma pollOne_of_closed {c : Conn} (h : c.state = .closed) (clock : Option ℕ) :
    (c.pollOne clock).1 = c := by
  unfold pollOne
  rw [if_pos h]

/-- The deadline of these states closes nothing: it is cleared. -/
lemma expire_eq {c : Conn} (hstate : c.state = .synReceived ∨ c.state = .established ∨
    c.state = .closeWait) (clock : Option ℕ) :
    ∃ deadline, c.expire clock = { c with stateDeadline := deadline } := by
  unfold expire
  split
  · rcases hstate with hs | hs | hs <;> rw [hs] <;> exact ⟨0, rfl⟩
  · exact ⟨c.stateDeadline, rfl⟩

lemma flushAcks_face : c.flushAcks.face = c.face ∧ c.flushAcks.state = c.state := by
  unfold flushAcks
  split <;> exact ⟨rfl, rfl⟩

end Faces

/-! ## An unclaimed connection -/

/-- The handshake of a passive open, with its retransmission timer armed. -/
structure Conn.Armed (c : Conn) : Prop where
  state : c.state = .synReceived
  timer : c.retxAt ≠ 0
  rto : 0 < c.rtt.rto

/-- A connection that a peer has opened, and that nobody has written to or closed. -/
structure Conn.Waiting (c : Conn) : Prop where
  accepted : c.accepted = true
  quiet : c.closePending = false ∧ c.snd.buf = []
  stage : c.Armed ∨ c.state = .established ∨ c.state = .closeWait

namespace Conn.Waiting

variable {c : Conn}

lemma of_passiveOpen (c : Conn) (now : ℕ) (iss : Seq) (seg : Seg) :
    (c.passiveOpen now iss seg).Waiting :=
  ⟨rfl, ⟨rfl, rfl⟩, .inl ⟨rfl, ne_of_gt (Nat.add_pos_right now (by decide)), by
    change 0 < rtoMinMs
    decide⟩⟩

lemma synchronised (h : c.Waiting) (hopen : c.state = .established ∨ c.state = .closeWait)
    (now : ℕ) (seg : Seg) :
    (c.synchronised now seg).snd.buf = [] ∧ ((c.synchronised now seg).state = .established ∨
        (c.synchronised now seg).state = .closeWait) := by
  have hack : (if seg.ack then c.takeAck now seg else c).snd.buf = [] ∧
      (if seg.ack then c.takeAck now seg else c).state = c.state := by
    split
    · constructor
      · obtain ⟨wnd, hsnd⟩ := takeAck_snd c now seg
        rw [hsnd]
        split <;> simp [h.quiet.2]
      · rw [takeAck_state]
        split
        · rcases hopen with hs | hs <;> rw [hs] <;> rfl
        · rfl
    · exact ⟨h.quiet.2, rfl⟩
  unfold Conn.synchronised
  generalize (if seg.ack then c.takeAck now seg else c) = d at hack ⊢
  rw [if_neg (by rw [hack.2]; rcases hopen with hs | hs <;> rw [hs] <;> decide)]
  rw [takeText_snd, takeText_state, hack.2]
  refine ⟨hack.1, ?_⟩
  split
  · rcases hopen with hs | hs <;> rw [hs] <;> exact .inr rfl
  · exact hopen

lemma onSegment (h : c.Waiting) (now : ℕ) (seg : Seg) :
    (c.onSegment now seg).state = .closed ∨ (c.onSegment now seg).Waiting := by
  obtain ⟨hface, hpend⟩ := onSegment_face c now seg
  have hkept : (c.onSegment now seg).snd.buf = [] →
      ((c.onSegment now seg).Armed ∨ (c.onSegment now seg).state = .established ∨
        (c.onSegment now seg).state = .closeWait) → (c.onSegment now seg).Waiting :=
    fun hbuf hstage => ⟨(congrArg Face.accepted hface).trans h.accepted,
      ⟨hpend.trans h.quiet.1, hbuf⟩, hstage⟩
  by_cases hclosed : (c.onSegment now seg).state = .closed
  · exact .inl hclosed
  refine .inr ?_
  rcases h.stage with harmed | hopen
  · have hcases := completeOpen_cases c now seg
    have hseg : c.onSegment now seg = if seg.rst then { c with fault := .reset, state := .closed }
        else c.completeOpen now seg := by
      unfold Conn.onSegment
      simp [harmed.state]
    by_cases hrst : seg.rst
    · rw [hseg, if_pos hrst] at hclosed
      exact absurd rfl hclosed
    rw [if_neg hrst] at hseg
    rcases hcases with hsame | ⟨hdone, hstate⟩
    · rw [hseg, hsame]
      exact h
    refine hkept ?_ (.inr ?_)
    · rw [hseg, hdone.buf]
      exact h.quiet.2
    · rw [hseg]
      exact hstate
  · by_cases hrst : seg.rst
    · refine absurd ?_ hclosed
      unfold Conn.onSegment
      split
      · assumption
      · rfl
    · have hsync : c.state.synchronised := by
        rcases hopen with hs | hs <;> rw [hs] <;> rfl
      have hseg := onSegment_of_synchronised now hsync (by simpa using hrst)
      obtain ⟨hbuf, hstate⟩ := h.synchronised hopen now seg
      exact hkept (by rw [hseg]; exact hbuf) (.inr (by rw [hseg]; exact hstate))

section

variable (h : c.Waiting)
include h

/-- A connection that differs in nothing that matters while it is unclaimed. -/
lemma congr {c' : Conn} (hface : c'.face = c.face)
    (hpend : c'.closePending = c.closePending) (hbuf : c'.snd.buf = c.snd.buf)
    (hstate : c'.state = c.state) (htimer : c.retxAt ≠ 0 → c'.retxAt ≠ 0)
    (hrto : 0 < c.rtt.rto → 0 < c'.rtt.rto) : c'.Waiting := by
  refine ⟨(congrArg Face.accepted hface).trans h.accepted,
    ⟨hpend.trans h.quiet.1, hbuf.trans h.quiet.2⟩, ?_⟩
  rw [hstate]
  exact h.stage.imp_left fun harmed =>
    ⟨hstate.trans harmed.state, htimer harmed.timer, hrto harmed.rto⟩

lemma pollLive (clock : Option ℕ) :
    (c.pollLive clock).1.state = .closed ∨ (c.pollLive clock).1.Waiting := by
  have hstate : c.state = .synReceived ∨ c.state = .established ∨ c.state = .closeWait :=
    h.stage.imp_left Armed.state
  have hbuf := h.quiet.2
  have hway := polled clock c
  generalize c.pollLive clock = r at hway
  cases hway with
  | fastResend hfast hdata | resentData hdue hfew hsyn hdata => exact absurd hbuf hdata
  | gaveUp => exact .inl rfl
  | resentSyn hdue hfew hsyn =>
    rw [hsyn] at hstate
    simp at hstate
  | resentFin hdue hfew hfin =>
    rcases hfin with hs | hs <;> rw [hs] at hstate <;> simp at hstate
  | backedOff hdue hfew =>
    have hpos : 0 < c.rtt.rto → 0 < min (c.rtt.rto * 2) rtoMaxMs := by
      rw [rtoMaxMs]
      omega
    refine .inr ?_
    rcases h.stage with harmed | hopen
    · refine h.congr rfl rfl rfl rfl (fun _ => ?_) hpos
      exact ne_of_gt (Nat.add_pos_right _ (hpos harmed.rto))
    · exact ⟨h.accepted, h.quiet, .inr hopen⟩
  | synAck | ack | window | armProbe | nothing => exact .inr (h.congr rfl rfl rfl rfl id id)
  | newData _ hmore | probe _ _ hmore =>
    rw [hbuf] at hmore
    exact absurd hmore (Nat.not_lt_zero _)
  | fin _ hpend =>
    rw [h.quiet.1] at hpend
    cases hpend

lemma ne_closed : c.state ≠ .closed := by
  rcases h.stage with harmed | hs | hs
  · rw [harmed.state]
    decide
  · rw [hs]
    decide
  · rw [hs]
    decide

lemma pollOne (clock : Option ℕ) :
    (c.pollOne clock).1.state = .closed ∨ (c.pollOne clock).1.Waiting := by
  obtain ⟨deadline, hexpire⟩ := expire_eq (h.stage.imp_left Armed.state) clock
  have hwaiting : Waiting { c with stateDeadline := deadline } := h.congr rfl rfl rfl rfl id id
  unfold Conn.pollOne
  rw [if_neg h.ne_closed, hexpire]
  rw [if_neg h.ne_closed]
  exact hwaiting.pollLive clock

end

end Conn.Waiting

/-! ## The timer of a handshake -/

/-- A connection after `n` polls at these times, and nothing else. -/
def Conn.polls (c : Conn) (times : ℕ → Option ℕ) : ℕ → Conn
  | 0 => c
  | n + 1 => ((c.polls times n).pollOne (times n)).1

/-- A connection after `n` polls, with the clock read at each. -/
abbrev Conn.later (c : Conn) (times : ℕ → ℕ) : ℕ → Conn := c.polls fun j => some (times j)

/-- What one poll makes of a handshake.  A timer that has run out is counted and re-armed at
twice the interval, or ends the connection, and no frame leaves; otherwise a SYN-ACK leaves
exactly when one is owed. -/
structure Conn.Answered (c : Conn) (now : ℕ) (r : Conn × Option Frame) : Prop where
  again : c.retxDue (some now) = true → c.retxCount < maxRetx →
    r.2 = none ∧ r.1.state = .synReceived ∧ r.1.retxCount = c.retxCount + 1 ∧
      r.1.rtt.rto = min (c.rtt.rto * 2) rtoMaxMs ∧ r.1.retxAt = now + r.1.rtt.rto
  last : c.retxDue (some now) = true → maxRetx ≤ c.retxCount →
    r.2 = none ∧ r.1.state = .closed ∧ r.1.fault = .retxExhausted
  owed : c.retxDue (some now) = false →
    r.2.isSome = c.ackDue ∧ r.1.ackDue = false ∧ r.1.state = .synReceived ∧
      r.1.retxAt = c.retxAt ∧ r.1.retxCount = c.retxCount ∧ r.1.rtt.rto = c.rtt.rto
  same : r.1.snd = c.snd

/-- A handshake begun as `c` and now at `d`: given up for its retransmissions, or with its
sequence number unchanged, and answered so by a poll. -/
def Conn.Tried (c d : Conn) (now : ℕ) : Prop :=
  (d.state = .closed ∧ d.fault = .retxExhausted) ∨
    (d.state = .synReceived ∧ d.snd = c.snd ∧ d.Answered now (d.pollOne (some now)))

/-- A SYN-ACK goes out at each expiry of the timer that is not the last, with the numbers of the
connection and the timer re-armed at twice the interval, and the last expiry ends it. -/
def Conn.ResendsSynAck (c : Conn) (times : ℕ → ℕ) : Prop :=
  ∀ n, (c.later times n).state = .synReceived →
    (c.later times n).retxDue (some (times n)) = true →
    let d := c.later times n
    let r := d.pollOne (some (times n))
    if d.retxCount < maxRetx then
      (∃ f, r.2 = some f ∧ f.syn = true ∧ f.ack = true ∧ f.seq = c.snd.iss ∧ f.ackNo = c.rcv.nxt) ∧
        r.1.retxCount = d.retxCount + 1 ∧ r.1.rtt.rto = min (d.rtt.rto * 2) rtoMaxMs ∧
        r.1.retxAt = times n + r.1.rtt.rto
    else r.1.state = .closed ∧ r.1.fault = .retxExhausted

section Handshake

variable {c : Conn} (hstate : c.state = .synReceived) (hbuf : c.snd.buf = [])
include hstate hbuf

lemma pollRest_answered (now : ℕ) : c.Answered now (c.pollRest (some now)) := by
  unfold pollRest
  by_cases hdue : c.retxDue (some now)
  · -- the general block takes the expiry, and has nothing to resend in this state
    rw [if_pos hdue]
    unfold retransmit
    by_cases hlast : maxRetx ≤ c.retxCount
    · rw [if_pos (by omega)]
      constructor <;> simp [hdue, hlast]
    · rw [if_neg (by omega)]
      constructor <;> simp [backOff, hdue, hlast, hstate, hbuf]
  · rw [if_pos hstate]
    unfold pollSynAck
    cases howed : c.ackDue <;> constructor <;> simp_all [synFrame, Recv.adv]

lemma pollOne_answered (now : ℕ) : c.Answered now (c.pollOne (some now)) := by
  obtain ⟨deadline, hexpire⟩ := expire_eq (.inl hstate) (some now)
  have hlive : c.pollOne (some now) =
      (calm { c with stateDeadline := deadline }).pollRest (some now) := by
    unfold pollOne pollLive
    simp [hexpire, hstate, hbuf]
  rw [hlive]
  obtain ⟨hagain, hlast, howed, hsame⟩ :=
    pollRest_answered (c := calm { c with stateDeadline := deadline }) hstate hbuf now
  exact ⟨hagain, hlast, howed, hsame⟩

/-- However often a connection in the handshake is polled while no segment comes, it has been
given up, or the next poll answers it so. -/
lemma Conn.tried (times : ℕ → ℕ) (n : ℕ) : c.Tried (c.later times n) (times n) := by
  induction n with
  | zero => exact .inr ⟨hstate, rfl, pollOne_answered hstate hbuf (times 0)⟩
  | succ n ih =>
    show c.Tried ((c.later times n).pollOne (some (times n))).1 _
    generalize c.later times n = d at ih ⊢
    rcases ih with ⟨hclosed, hfault⟩ | ⟨-, hsnd, hpoll⟩
    · rw [pollOne_of_closed hclosed]
      exact .inl ⟨hclosed, hfault⟩
    have hkept := hpoll.same.trans hsnd
    have hopen (h : (d.pollOne (some (times n))).1.state = .synReceived) :
        c.Tried (d.pollOne (some (times n))).1 (times (n + 1)) :=
      .inr ⟨h, hkept, pollOne_answered h (by rw [hkept]; exact hbuf) _⟩
    by_cases hdue : d.retxDue (some (times n))
    · rcases lt_or_ge d.retxCount maxRetx with hfew | hmany
      · exact hopen (hpoll.again hdue hfew).2.1
      · exact .inl (hpoll.last hdue hmany).2
    · exact hopen (hpoll.owed (Bool.eq_false_iff.mpr hdue)).2.2.1

/-- While the timer has not run out, polls leave it and its count as they are. -/
lemma Conn.timer_of_early {times : ℕ → ℕ} {n : ℕ} (hearly : ∀ j < n, c.retxDue (some (times j)) = false) :
    (c.later times n).state = .synReceived ∧ (c.later times n).retxAt = c.retxAt ∧
      (c.later times n).retxCount = c.retxCount ∧ (c.later times n).rtt.rto = c.rtt.rto := by
  induction n with
  | zero => exact ⟨hstate, rfl, rfl, rfl⟩
  | succ n ih =>
    obtain ⟨hopen, hat, hcount, hrto⟩ := ih fun j hj => hearly j (by omega)
    have hnot : (c.later times n).retxDue (some (times n)) = false := by
      rw [retxDue, hat]
      exact hearly n (by omega)
    rcases c.tried hstate hbuf times n with ⟨hclosed, -⟩ | ⟨-, -, hpoll⟩
    · rw [hopen] at hclosed
      cases hclosed
    · obtain ⟨-, -, hopen', hat', hcount', hrto'⟩ := hpoll.owed hnot
      exact ⟨hopen', hat'.trans hat, hcount'.trans hcount, hrto'.trans hrto⟩

/-- The first poll that is late enough finds the timer run out. -/
lemma Conn.first_due {times : ℕ → ℕ} (hrun : c.retxAt ≠ 0) (hlate : ∃ n, c.retxAt ≤ times n) :
    ∃ n, (c.later times n).state = .synReceived ∧
      (c.later times n).retxDue (some (times n)) = true ∧
      (c.later times n).retxCount = c.retxCount ∧ (c.later times n).rtt.rto = c.rtt.rto ∧
      (c.later times n).snd = c.snd ∧
      (c.later times n).Answered (times n) ((c.later times n).pollOne (some (times n))) := by
  have hearly : ∀ j < Nat.find hlate, c.retxDue (some (times j)) = false := by
    intro j hj
    have := Nat.find_min hlate hj
    simp [retxDue, this]
  obtain ⟨hopen, hat, hcount, hrto⟩ := c.timer_of_early hstate hbuf hearly
  refine ⟨Nat.find hlate, hopen, ?_, hcount, hrto, ?_⟩
  · simp [retxDue, hat, hrun, Nat.find_spec hlate]
  · rcases c.tried hstate hbuf times (Nat.find hlate) with ⟨hclosed, -⟩ | ⟨-, hsnd, hpoll⟩
    · rw [hopen] at hclosed
      cases hclosed
    · exact ⟨hsnd, hpoll⟩

/-- Once the timer has run out as often as it may, the next expiry ends the handshake. -/
lemma Conn.many_of_open {times : ℕ → ℕ} (hmany : maxRetx ≤ c.retxCount) {n : ℕ}
    (hopen : (c.later times n).state = .synReceived) :
    maxRetx ≤ (c.later times n).retxCount := by
  induction n with
  | zero => exact hmany
  | succ n ih =>
    change ((c.later times n).pollOne _).1.state = _ at hopen
    rcases c.tried hstate hbuf times n with ⟨hclosed, -⟩ | ⟨hbefore, -, hpoll⟩
    · rw [pollOne_of_closed hclosed, hclosed] at hopen
      cases hopen
    by_cases hdue : (c.later times n).retxDue (some (times n)) = true
    · rw [(hpoll.last hdue (ih hbefore)).2.1] at hopen
      cases hopen
    · exact (ih hbefore).trans_eq (hpoll.owed (Bool.eq_false_iff.mpr hdue)).2.2.2.2.1.symm

/-- **A passive open resends its SYN-ACK only where its timer never has it do so**: where the
timer does not run, or has run out as often as it may, or is never polled late enough. -/
theorem resendsSynAck_iff (times : ℕ → ℕ) :
    c.ResendsSynAck times ↔ c.retxAt = 0 ∨ maxRetx ≤ c.retxCount ∨ ∀ n, times n < c.retxAt := by
  constructor
  · intro h
    by_contra! hcon
    obtain ⟨hrun, hfew, hlate⟩ := hcon
    -- at the first poll that is late enough no frame leaves
    obtain ⟨n, hopen, hdue, hcount, -, -, hpoll⟩ := c.first_due hstate hbuf hrun hlate
    have hsent := h n hopen hdue
    simp only [hcount, if_pos hfew] at hsent
    obtain ⟨⟨f, hf, -⟩, -⟩ := hsent
    rw [(hpoll.again hdue (hcount ▸ hfew)).1] at hf
    cases hf
  · intro h n hopen hdue
    have hmany : maxRetx ≤ (c.later times n).retxCount := by
      refine c.many_of_open hstate hbuf ?_ hopen
      by_contra! hfew
      have hnever : ∀ t, c.retxDue (some (times t)) = false := by
        intro t
        rcases h with h | h | h
        · simp [retxDue, h]
        · omega
        · have := h t
          simp [retxDue, this]
      obtain ⟨-, hat, -⟩ := c.timer_of_early (n := n) hstate hbuf fun j _ => hnever j
      rw [retxDue, hat] at hdue
      exact absurd hdue (by simpa [retxDue] using hnever n)
    rcases c.tried hstate hbuf times n with ⟨hclosed, -⟩ | ⟨-, -, hpoll⟩
    · rw [hopen] at hclosed
      cases hclosed
    simp only [if_neg (not_lt.mpr hmany)]
    exact (hpoll.last hdue hmany).2

end Handshake

/-- A connection that a peer has just opened. -/
def called : Conn := (free []).passiveOpen 0 100 (peerSeg 500 0 true false false [])

theorem resendsSynAck_called :
    called.ResendsSynAck (fun j => j % 200) ∧ ¬ called.ResendsSynAck fun j => 1000 * j := by
  have h := resendsSynAck_iff (c := called) rfl rfl
  constructor
  · exact (h _).mpr (.inr (.inr fun n => Nat.mod_lt n (by decide)))
  · rw [h]
    rintro (h | h | h)
    · revert h
      decide
    · revert h
      decide
    · exact absurd (h 5) (by decide)

/-- One SYN-ACK leaves at the first poll.  Were it lost, none would follow: the timer runs out
again and again without a frame, until the connection is given up. -/
theorem synAck_not_resent :
    let d := called.polls fun j => some (10000 * j)
    ((d 0).pollOne (some 0)).2.isSome = true ∧
    (∀ n < 7, (d (n + 1)).retxDue (some (10000 * (n + 1))) = true ∧
      ((d (n + 1)).pollOne (some (10000 * (n + 1)))).2 = none) ∧
    (d 8).state = .closed ∧ (d 8).fault = .retxExhausted := by
  decide

/-! ## An open that nobody completes -/

/-- Its timers close the connection, whenever the clock goes on and it is polled again and
again. -/
def Conn.Ends (clock : ℕ → Option ℕ) (c : Conn) : Prop :=
  ∀ times : ℕ → ℕ, (∀ t m, ∃ k, m ≤ k ∧ t ≤ times k) →
    ∃ k, (c.polls (fun j => clock (times j)) k).state = .closed

lemma Conn.polls_add (c : Conn) (times : ℕ → Option ℕ) (n m : ℕ) :
    c.polls times (n + m) = (c.polls times n).polls (fun j => times (n + j)) m := by
  induction m with
  | zero => rfl
  | succ m ih =>
    change ((c.polls times (n + m)).pollOne (times (n + m))).1 = _
    rw [ih]
    rfl

/-- The timer runs out once more: the connection is closed, or one more retransmission is
counted. -/
lemma Conn.Armed.next_timeout {c : Conn} (h : c.Armed) (hbuf : c.snd.buf = []) {times : ℕ → ℕ}
    (hclock : ∀ t m, ∃ k, m ≤ k ∧ t ≤ times k) :
    ∃ n, (c.later times n).state = .closed ∨ ((c.later times n).Armed ∧
      (c.later times n).snd.buf = [] ∧ (c.later times n).retxCount = c.retxCount + 1 ∧
        c.retxCount < maxRetx) := by
  obtain ⟨n, -, hdue, hcount, hrto, hsnd, hpoll⟩ := c.first_due h.state hbuf h.timer
    ((hclock c.retxAt 0).imp fun _ hn => hn.2)
  refine ⟨n + 1, ?_⟩
  change ((c.later times n).pollOne (some (times n))).1.state = _ ∨ _
  rcases lt_or_ge (c.later times n).retxCount maxRetx with hfew | hmany
  · obtain ⟨-, hstate, hcount', hrto', hat⟩ := hpoll.again hdue hfew
    have hpos : 0 < ((c.later times n).pollOne (some (times n))).1.rtt.rto := by
      have := h.rto
      rw [hrto', hrto, rtoMaxMs]
      omega
    refine .inr ⟨⟨hstate, ?_, hpos⟩, ?_, hcount'.trans (by rw [hcount]), hcount ▸ hfew⟩
    · exact hat ▸ ne_of_gt (Nat.add_pos_right _ hpos)
    · exact (congrArg (·.buf) (hpoll.same.trans hsnd)).trans hbuf
  · exact .inl (hpoll.last hdue hmany).2.1

/-- **A handshake that does not end is closed by its timer.** -/
theorem Conn.Armed.ends {c : Conn} (h : c.Armed) (hbuf : c.snd.buf = []) : c.Ends some := by
  -- by induction on the number of retransmissions that are left
  obtain ⟨left, hleft⟩ : ∃ left, maxRetx ≤ c.retxCount + left := ⟨maxRetx, Nat.le_add_left _ _⟩
  induction left generalizing c with
  | zero =>
    intro times hclock
    obtain ⟨n, hclosed | ⟨-, -, -, hfew⟩⟩ := h.next_timeout hbuf hclock
    · exact ⟨n, hclosed⟩
    · omega
  | succ left ih =>
    intro times hclock
    obtain ⟨n, hclosed | ⟨harmed, hempty, hcount, -⟩⟩ := h.next_timeout hbuf hclock
    · exact ⟨n, hclosed⟩
    obtain ⟨m, hm⟩ := ih harmed hempty (by omega) (fun j => times (n + j)) fun t m => by
      obtain ⟨k, hmk, hk⟩ := hclock t (n + m)
      exact ⟨k - n, by omega, by rwa [Nat.add_sub_cancel' (by omega)]⟩
    exact ⟨n + m, by rw [polls_add]; exact hm⟩

end Godspeed.Tcp
