import Godspeed.Tcp.Sending

/-!
# What a clean close means

A connection that ends with no fault has had everything acknowledged, our FIN too: this is
so in every run in which a FIN of the peer that arrives in `FinWait1` acknowledges everything
we sent (`Life.FinCovers`).  When the peer closes at the same time and its FIN arrives before
our data or our FIN is acknowledged, the connection goes to TIME_WAIT, whose deadline does
not look at the send arena, and ends with no fault although bytes were given up.
-/

namespace Godspeed.Tcp

open Serial Transition Life Option Books

/-- A FIN that may be taken in `FinWait1` acknowledges everything we sent. -/
def Life.FinCovers (t : Life) : Act → Prop
  | .segment _ seg => t.conn.state = .finWait1 → seg.fin = true →
      (seg.finSeq = t.conn.rcv.nxt ∨ seg.seq = t.conn.rcv.nxt) →
      seg.ack = true ∧ seg.ackNo = t.conn.snd.nxt
  | _ => True

instance (t : Life) (a : Act) : Decidable (t.FinCovers a) := by
  unfold FinCovers
  split <;> infer_instance

/-- Everything that was written is acknowledged, and so are our SYN and our FIN. -/
def Life.AllAcked (t : Life) : Prop :=
  t.acked = t.written.length + 2 ∧ t.finSent = true ∧ t.conn.snd.buf = []

/-- A connection in TIME_WAIT, and one that has ended with no fault, has everything
acknowledged. -/
structure Life.Clean (t : Life) : Prop where
  waiting : t.conn.state = .timeWait → t.AllAcked
  closed : t.conn.state = .closed → t.conn.fault = .none → t.AllAcked

variable {t : Life}

section

variable (h : Books t)
include h

lemma Books.allAcked_of_finWait2 (hs : t.conn.state = .finWait2) : t.AllAcked := by
  obtain ⟨ph, hph, hholds⟩ := h.phase
  rw [hs] at hph
  obtain rfl : ph = .done := hph
  exact ⟨hholds.1, hholds.2.2.2.2, List.eq_nil_of_length_eq_zero hholds.2.1⟩

lemma Books.allAcked_of_out (hfin : t.finSent) (hout : t.conn.outstanding = 0) : t.AllAcked := by
  obtain ⟨ph, -, hholds⟩ := h.phase
  cases ph with
  | syn | data => exact absurd (hfin.symm.trans hholds.2.2.2) (by decide)
  | fin =>
    have hone : t.conn.outstanding = t.conn.snd.buf.length + 1 := hholds.2.1
    omega
  | done => exact ⟨hholds.1, hfin, List.eq_nil_of_length_eq_zero hholds.2.1⟩

lemma Books.out_of_allAcked (hall : t.AllAcked) : t.conn.outstanding = 0 := by
  obtain ⟨hacked, hfin, hbuf⟩ := hall
  obtain ⟨ph, -, hholds⟩ := h.phase
  cases ph with
  | syn | data => exact absurd (hfin.symm.trans hholds.2.2.2) (by decide)
  | fin =>
    have hcount : t.acked + t.conn.snd.buf.length = t.written.length + 1 := hholds.1
    omega
  | done => exact hholds.2.2.1

lemma Books.finSent_of_closing (hs : t.conn.state = .finWait1 ∨ t.conn.state = .lastAck) :
    t.finSent ∧ 0 < t.conn.outstanding := by
  obtain ⟨ph, hph, hholds⟩ := h.phase
  have hfin : ph = .fin := by
    rcases hs with hs | hs <;> rw [hs] at hph <;> exact hph
  subst hfin
  have hone : t.conn.outstanding = t.conn.snd.buf.length + 1 := hholds.2.1
  exact ⟨hholds.2.2.2, by omega⟩

lemma Books.acksNew_of_all {seg : Seg} (hall : seg.ackNo = t.conn.snd.nxt)
    (hout : 0 < t.conn.outstanding) : t.conn.acksNew seg := by
  have hle := h.out_le
  have hnxt : num t.conn.snd.una t.conn.outstanding = t.conn.snd.nxt := num_sub_toNat ..
  rw [sndBuf] at hle
  rw [Conn.acksNew, Bool.and_eq_true, hall, ← hnxt]
  constructor
  · have hgt := (after_num_iff t.conn.snd.una (by omega) (by omega)).mpr hout
    rwa [num_zero] at hgt
  · exact (notAfter_num_iff t.conn.snd.una (by omega) (by omega)).mpr le_rfl

end

namespace Life.Clean

variable {t : Life} {c : Conn} {t' : Life}

lemma of_fresh (h : Fresh c) : (start c).Clean := by
  cases h <;> exact ⟨nofun, nofun⟩

lemma frame (h : t.Clean) (hstate : c.state = t.conn.state) (hfault : c.fault = t.conn.fault)
    (hsnd : c.snd = t.conn.snd) : Clean { t with conn := c } := by
  constructor
  · intro hs
    simpa only [AllAcked, hsnd] using h.waiting (hstate ▸ hs)
  · intro hs hf
    simpa only [AllAcked, hsnd] using h.closed (hstate ▸ hs) (hfault ▸ hf)

lemma of_state (hwait : c.state ≠ .timeWait) (hopen : c.state ≠ .closed) {written : List UInt8}
    {acked sent : ℕ} {fin : Bool} : Clean ⟨c, written, acked, sent, fin⟩ :=
  ⟨fun hs => absurd hs hwait, fun hs => absurd hs hopen⟩

lemma write (h : t.Clean) (data : List UInt8) (hstep : t.step (.write data) = some t') :
    t'.Clean := by
  cases hstep
  unfold Conn.write
  split
  next hopen =>
    exact of_state (by rcases hopen with hs | hs <;> simp [hs])
      (by rcases hopen with hs | hs <;> simp [hs])
  · simpa using h

lemma takeAck (h : t.Clean) (hb : Books t) (now : ℕ) (seg : Seg) (hack : seg.ack)
    (hs : t.conn.state.synchronised) : Clean (t.told seg (t.conn.takeAck now seg)) := by
  have hbooks := hb.takeAck now seg hack hs
  obtain ⟨wnd, hsnd⟩ := takeAck_snd t.conn now seg
  constructor
  · intro hwait
    have hall := h.waiting ((takeAck_timeWait_iff ..).mp hwait)
    have hold : t.conn.acksNew seg = false := by
      rw [Bool.eq_false_iff]
      intro hnew
      have hspec := hb.acksNew_spec hnew
      have hout := hb.out_of_allAcked hall
      omega
    simp only [hold, Bool.false_eq_true, if_false] at hsnd
    rw [told_of_una (by rw [hsnd])]
    simpa only [AllAcked, hsnd] using hall
  · intro hclosed _
    have hlast : t.conn.acksNew seg ∧ seg.ackNo = t.conn.snd.nxt ∧ t.conn.state = .lastAck := by
      have hlive : t.conn.state ≠ .closed := by
        intro hc
        simp [hc, State.synchronised] at hs
      rw [told, takeAck_state] at hclosed
      split at hclosed
      next hend =>
        exact ⟨hend.1, hend.2, (whenAcked_eq_closed hs).mp hclosed⟩
      · exact absurd hclosed hlive
    obtain ⟨hnew, hnxt, hstate⟩ := hlast
    refine hbooks.allAcked_of_out (hb.finSent_of_closing (.inr hstate)).1 ?_
    rw [if_pos hnew] at hsnd
    simp only [told, Conn.outstanding, hsnd, hnxt, BitVec.sub_self]
    rfl

lemma onFin_eq_timeWait {s : State} : s.onFin = .timeWait ↔
    s = .timeWait ∨ s = .finWait1 ∨ s = .finWait2 := by
  cases s <;> simp [State.onFin]

lemma onFin_eq_closed {s : State} : s.onFin = .closed ↔ s = .closed := by
  cases s <;> simp [State.onFin]

variable (h : t.Clean)
include h

/-- The data and the FIN lead to TIME_WAIT only from where everything is acknowledged, unless
the FIN is taken in `FinWait1`. -/
lemma takeText (hb : Books t) (now : ℕ) (seg : Seg) (hlive : t.conn.state ≠ .closed)
    (hfin : t.conn.state = .finWait1 → ¬(seg.fin ∧ seg.finSeq = (t.conn.takeData seg).1.rcv.nxt)) :
    Clean { t with conn := t.conn.takeText now seg } := by
  have hstate := takeText_state t.conn now seg
  constructor
  · intro hwait
    have hall : t.AllAcked := by
      simp only [hstate] at hwait
      split at hwait
      next htaken =>
        rcases onFin_eq_timeWait.mp hwait with hs | hs | hs
        · exact h.waiting hs
        · exact absurd htaken (hfin hs)
        · exact hb.allAcked_of_finWait2 hs
      · exact h.waiting hwait
    simpa only [AllAcked, takeText_snd] using hall
  · intro hclosed
    simp only [hstate] at hclosed
    split at hclosed
    · exact absurd (onFin_eq_closed.mp hclosed) hlive
    · exact absurd hclosed hlive

lemma synchronised (hb : Books t) (now : ℕ) (seg : Seg)
    (hs : t.conn.state.synchronised) (hok : t.FinCovers (.segment now seg)) :
    Clean (t.told seg (t.conn.synchronised now seg)) := by
  cases hack : seg.ack with
  | false =>
    rw [told_of_una (by rw [synchronised_una, hack]; rfl), Conn.synchronised]
    simp only [hack, Bool.false_eq_true, if_false]
    split
    · exact h
    rename_i hlive
    refine h.takeText hb now seg hlive fun hfw htaken => ?_
    have hnext : seg.finSeq = t.conn.rcv.nxt ∨ seg.seq = t.conn.rcv.nxt := by
      rcases takeData_nxt t.conn seg with hnxt | hseq
      · exact .inl (htaken.2.trans hnxt)
      · exact .inr hseq
    have hcovers := (hok hfw htaken.1 hnext).1
    rw [hack] at hcovers
    exact absurd hcovers (by decide)
  | true =>
    rw [told_congr (c := t.conn.takeAck now seg) (by rw [synchronised_una, hack]; rfl),
      Conn.synchronised]
    simp only [hack, if_true]
    have htake := h.takeAck hb now seg hack hs
    split
    · exact htake
    rename_i hlive
    refine htake.takeText (hb.takeAck now seg hack hs) now seg hlive fun hfw htaken => ?_
    -- the connection is still in `FinWait1` after an acknowledgement of everything
    have hstate := takeAck_state t.conn now seg
    rw [told] at hfw
    have hwas : t.conn.state = .finWait1 := by
      rw [hstate] at hfw
      split at hfw
      · cases hc : t.conn.state <;> simp_all [State.whenAcked]
      · exact hfw
    have hnext : seg.finSeq = t.conn.rcv.nxt ∨ seg.seq = t.conn.rcv.nxt := by
      rcases takeData_nxt (t.conn.takeAck now seg) seg with hnxt | hseq
      · exact .inl (htaken.2.trans (hnxt.trans (by rw [takeAck_rcv])))
      · exact .inr (hseq.trans (by rw [takeAck_rcv]))
    have hcovers := (hok hwas htaken.1 hnext).2
    have hnew := hb.acksNew_of_all hcovers (hb.finSent_of_closing (.inl hwas)).2
    rw [if_pos ⟨hnew, hcovers⟩, hwas] at hstate
    rw [hstate] at hfw
    exact absurd hfw (by decide)

lemma segment (hb : Books t) (now : ℕ) (seg : Seg)
    (hok : t.FinCovers (.segment now seg)) (hstep : t.step (.segment now seg) = some t') :
    t'.Clean := by
  cases hstep
  change Clean (t.told seg (t.conn.onSegment now seg))
  unfold Conn.onSegment
  split
  · rw [told_of_una rfl]
    exact h
  split
  · exact ⟨nofun, nofun⟩
  split
  next hs =>
    rcases answerSyn_cases t.conn now seg with hsame | ⟨-, hclosed, hfault⟩ | ⟨-, hopen⟩
    · exact of_state (by rw [hsame, hs]; decide) (by rw [hsame, hs]; decide)
    · refine ⟨fun hw => ?_, fun _ hf => ?_⟩
      · exact absurd (hclosed.symm.trans hw) (by decide)
      · exact absurd (hfault.symm.trans hf) (by decide)
    · exact of_state (by rw [hopen]; decide) (by rw [hopen]; decide)
  next hs =>
    rcases completeOpen_cases t.conn now seg with hsame | ⟨-, hopen⟩
    · exact of_state (by rw [hsame, hs]; decide) (by rw [hsame, hs]; decide)
    · rcases hopen with ho | ho <;> exact of_state (by rw [ho]; decide) (by rw [ho]; decide)
  · refine h.synchronised hb now seg ?_ hok
    cases hs : t.conn.state <;> simp_all [State.synchronised]

lemma expire (hb : Books t) (clock : Option ℕ) : Clean { t with conn := t.conn.expire clock } := by
  unfold Conn.expire
  split
  · split
    · exact ⟨nofun, nofun⟩
    next hs =>
      exact ⟨nofun, fun _ _ => h.waiting hs⟩
    next hs =>
      exact ⟨nofun, fun _ _ => hb.allAcked_of_finWait2 hs⟩
    · exact h.frame rfl rfl rfl
  · exact h

lemma pollLive (hlive : t.conn.state ≠ .closed) (clock : Option ℕ) :
    (t.polled (t.conn.pollLive clock)).Clean := by
  have hkept : ∀ r : Conn × Option Frame, r.1.snd = t.conn.snd → r.1.state = t.conn.state →
      (t.polled r).Clean := by
    intro r hsnd hstate
    refine ⟨fun hw => ?_, fun hc => absurd (hstate.symm.trans hc) hlive⟩
    obtain ⟨hacked, hfin, hbuf⟩ := h.waiting (hstate.symm.trans hw)
    exact ⟨hacked, by simp [polled, hfin], by simpa only [polled, hsnd] using hbuf⟩
  cases pollLive_sends clock t.conn with
  | quiet hsnd hstate hbare hfin =>
    rcases hstate with hs | ⟨hs, hf⟩
    · exact hkept _ hsnd hs
    · refine ⟨fun hw => absurd (hs.symm.trans hw) (by decide), fun _ hnone => ?_⟩
      exact absurd (hf.symm.trans hnone) (by decide)
  | resend f hdue hsnd hstate hframe hseq hload hfin => exact hkept _ hsnd hstate
  | fresh f n hopen hsnd hstate hframe hseq hload hpos hfits hwnd hfin =>
    rw [← hstate] at hopen
    refine ⟨fun hw => ?_, fun hc => ?_⟩
    · rcases hopen with hs | hs <;> exact absurd (hs.symm.trans hw) (by decide)
    · rcases hopen with hs | hs <;> exact absurd (hs.symm.trans hc) (by decide)
  | fin f hopen hsent hsnd hstate hframe hload hfin =>
    refine ⟨fun hw => ?_, fun hc => ?_⟩
    · rcases hstate with hs | hs <;> exact absurd (hs.symm.trans hw) (by decide)
    · rcases hstate with hs | hs <;> exact absurd (hs.symm.trans hc) (by decide)

lemma poll (hb : Books t) (clock : Option ℕ)
    (hstep : t.step (.poll clock) = some t') : t'.Clean := by
  rw [step, polled_pollOne] at hstep
  cases hstep
  split
  · exact h
  split
  · exact h.expire hb clock
  next hlive =>
    exact (h.expire hb clock).pollLive hlive clock

/-- **The step lemma.** -/
theorem step (hb : Books t) {a : Act} (hok : t.FinCovers a)
    (hstep : t.step a = some t') : t'.Clean := by
  cases a with
  | write data => exact h.write data hstep
  | read k | close =>
    cases hstep
    exact h.frame rfl rfl rfl
  | flush =>
    cases hstep
    unfold Conn.flushAcks
    split
    · exact h.frame rfl rfl rfl
    · exact h
  | segment now seg => exact h.segment hb now seg hok hstep
  | poll clock => exact h.poll hb clock hstep

end Life.Clean

/-- **A clean close means that everything arrived.**  In every run of one connection in which
a FIN that is taken in `FinWait1` acknowledges everything we sent: a connection that has ended
with no fault has had every accepted byte, and our FIN, acknowledged. -/
theorem clean_close {c : Conn} (hfresh : Fresh c) {t : Life}
    (hrun : Reaches step FinCovers (start c) t) (hclosed : t.conn.state = .closed)
    (hfault : t.conn.fault = .none) : t.AllAcked := by
  have hclean : t.Clean :=
    hrun.invariant_of (fun _ hr => of_reaches hfresh hr) (Clean.of_fresh hfresh)
      fun _ _ _ hb h hok hstep => h.step hb hok hstep
  exact hclean.closed hclosed hfault

/-- One byte is written, the client closes, the byte and the FIN are sent, and a FIN of the
peer arrives that acknowledges up to `ackNo`. -/
def writeAndClose (ackNo : Seq) : List Act :=
  [.segment 5 (peerSeg 500 101 true true false []), .poll (some 6), .write [1], .close,
    .poll (some 7), .poll (some 8), .segment 20 (peerSeg 501 ackNo false true true []),
    .poll (some 2020)]

theorem clean_close_dialling : ∃ t, Reaches step FinCovers (start dialling) t ∧
    t.conn.state = .closed ∧ t.conn.fault = .none ∧ t.written = [1] ∧ t.AllAcked := by
  obtain ⟨t, hrun, hclosed, hfault, hwritten⟩ :
      ∃ t, Reaches step FinCovers (start dialling) t ∧ t.conn.state = .closed ∧
        t.conn.fault = .none ∧ t.written = [1] := exists_reaches (writeAndClose 103) (by decide)
  exact ⟨t, hrun, hclosed, hfault, hwritten,
    clean_close (.dialled _ 7 0 100 49152 9 80) hrun hclosed hfault⟩

/-- The peer closes at the same time: its FIN arrives while our byte and our FIN are not
acknowledged, and two seconds later the connection has ended with no fault. -/
theorem given_up_without_fault : ∃ t, Reaches step Free (start dialling) t ∧
    t.conn.state = .closed ∧ t.conn.fault = .none ∧ t.conn.readerGone = true ∧
    t.written = [1] ∧ t.acked = 1 :=
  exists_reaches (writeAndClose 101) (by decide)

end Godspeed.Tcp
