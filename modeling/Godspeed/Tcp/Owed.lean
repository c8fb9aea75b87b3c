import Godspeed.Tcp.Segment
import Godspeed.Tcp.Poll

/-!
# The acknowledgement that a segment is owed

A segment that occupies sequence space has to be answered: the peer resends it until it is.
In the source the answer is recorded by separate parts for data and FIN, and by none for a
SYN, so some of these segments leave nothing owed.  The main result says exactly which are
answered; `Conn.OwesAck.emits` says that what is owed goes out with the next poll at which no
timer has run out.

A SYN or SYN-ACK that is resent because our acknowledgement was lost, and a bare FIN that is
resent for the same reason, are met with silence.
-/

namespace Godspeed.Tcp

open Serial Conn

def State.synchronised : State → Bool
  | .established | .finWait1 | .finWait2 | .closeWait | .lastAck | .timeWait => true
  | _ => false

/-- The segment occupies sequence space: a SYN, a FIN or data. -/
def Seg.occupies (seg : Seg) : Bool := seg.syn || seg.fin || !seg.payload.isEmpty

/-- An acknowledgement is owed: at once, or when the burst pauses. -/
def Conn.OwesAck (c : Conn) : Prop :=
  c.state ≠ .closed ∧ (c.ackDue = true ∨ 0 < c.rcv.ackOwed)

instance (c : Conn) : Decidable c.OwesAck := inferInstanceAs (Decidable (_ ∧ _))

/-- `flush_acks` on one connection: the burst has paused. -/
def Conn.flushAcks (c : Conn) : Conn :=
  if 0 < c.rcv.ackOwed ∧ c.state ≠ .closed then { c with ackDue := true } else c

/-! ## What is owed goes out -/

variable {c : Conn} {seg : Seg} (now : ℕ)

lemma Conn.OwesAck.flushed (h : c.OwesAck) :
    c.flushAcks.ackDue ∧ c.flushAcks.state = c.state ∧ c.flushAcks.rcv.nxt = c.rcv.nxt := by
  obtain ⟨hstate, hdue | howed⟩ := h
  · unfold flushAcks
    split <;> simp [hdue]
  · rw [flushAcks, if_pos ⟨howed, hstate⟩]
    exact ⟨rfl, rfl, rfl⟩

lemma flushAcks_timers (c : Conn) (clock : Option ℕ) : c.flushAcks.expired clock = c.expired clock ∧
      c.flushAcks.retxDue clock = c.retxDue clock := by
  unfold flushAcks
  split
  · cases clock <;> exact ⟨rfl, rfl⟩
  · exact ⟨rfl, rfl⟩

/-- **What is owed goes out.**  After the burst has paused, a poll at which no timer has run
out emits a segment that acknowledges `rcv_nxt`. -/
theorem Conn.OwesAck.emits (h : c.OwesAck) (hstate : c.state.synchronised) {clock : Option ℕ}
    (hdeadline : c.expired clock = false) (htimer : c.retxDue clock = false) :
    ∃ f, (c.flushAcks.pollOne clock).2 = some f ∧ f.ack ∧ f.ackNo = c.rcv.nxt := by
  obtain ⟨hdue, hsame, hnxt⟩ := h.flushed
  obtain ⟨hexpired, hretx⟩ := flushAcks_timers c clock
  have hlive : c.flushAcks.state ≠ .closed := hsame ▸ h.1
  have hsyn : c.flushAcks.state ≠ .synReceived := by
    rw [hsame]
    rintro hrec
    simp [hrec, State.synchronised] at hstate
  have hexpire : c.flushAcks.expire clock = c.flushAcks := by
    rw [expire, hexpired, hdeadline]
    rfl
  rw [pollOne]
  simp only [hexpire, if_neg hlive]
  unfold pollLive
  split
  · -- a fast retransmission goes first; it acknowledges as well
    refine ⟨_, rfl, rfl, ?_⟩
    unfold armRetx
    split <;> exact hnxt
  · have hcalm : c.flushAcks.calm.retxDue clock = false := by
      rw [← htimer, ← hretx]
      cases clock <;> rfl
    unfold pollRest
    rw [hcalm]
    simp only [show c.flushAcks.calm.state = c.flushAcks.state from rfl,
      hsyn, show c.flushAcks.calm.ackDue = true from hdue]
    exact ⟨_, rfl, rfl, hnxt⟩

/-! ## Data and FIN -/

section

variable (c : Conn) (now : ℕ) (seg : Seg)

/-- Data outside TIME_WAIT is answered: at once, or with what is owed when the burst
pauses. -/
lemma takeData_answers (hdata : seg.payload ≠ []) (hstate : c.state ≠ .timeWait) :
    (c.takeData seg).2 ∨ 0 < (c.takeData seg).1.rcv.ackOwed := by
  have hlen : 0 < seg.payload.length := List.length_pos_of_ne_nil hdata
  unfold takeData
  rw [if_neg (by simp [hdata, hstate])]
  split
  · dsimp only
    -- what was not taken whole is answered at once; what was, is owed
    rcases lt_or_ge ((c.rcv.deliver seg.seq seg.payload).nxt - c.rcv.nxt).toNat
      seg.payload.length with hshort | hwhole
    · exact .inl (by rw [decide_eq_true hshort, Bool.or_true, Bool.true_or])
    · refine .inr ?_
      rw [satAdd, u32Max]
      omega
  · left
    split <;> rfl

lemma takeFin_answers : (c.takeFin now seg).2 = decide (seg.fin ∧ seg.finSeq = c.rcv.nxt) := by
  unfold takeFin
  split
  next hfin =>
    exact (decide_eq_true hfin).symm
  next hfin =>
    exact (decide_eq_false hfin).symm

lemma takeFin_keeps : (c.takeFin now seg).1.ackDue = c.ackDue ∧
    (c.takeFin now seg).1.rcv.ackOwed = c.rcv.ackOwed := by
  unfold takeFin
  split
  · dsimp only
    split <;> exact ⟨rfl, rfl⟩
  · exact ⟨rfl, rfl⟩

lemma takeFin_live (hlive : c.state ≠ .closed) : (c.takeFin now seg).1.state ≠ .closed := by
  unfold takeFin
  split
  · dsimp only
    split <;> simp_all
  · exact hlive

lemma owesAck_takeText_iff (hlive : c.state ≠ .closed) :
    (c.takeText now seg).OwesAck ↔ c.ackDue ∨ 0 < c.rcv.ackOwed ∨
      (seg.payload ≠ [] ∧ c.state ≠ .timeWait) ∨
      (seg.fin ∧ seg.finSeq = c.rcv.nxt) := by
  have hdlive : (c.takeData seg).1.state ≠ .closed := takeData_state c seg ▸ hlive
  have hflive := takeFin_live (c.takeData seg).1 now seg hdlive
  obtain ⟨hfdue, hfowed⟩ := takeFin_keeps (c.takeData seg).1 now seg
  have hfin := takeFin_answers (c.takeData seg).1 now seg
  by_cases hidle : seg.payload = [] ∨ c.state = .timeWait
  · -- no data is taken: what is owed is what was, and the FIN that is next
    have hdata : c.takeData seg = (c, false) := by rw [takeData, if_pos hidle]
    have hnot : ¬(seg.payload ≠ [] ∧ c.state ≠ .timeWait) := by tauto
    rw [hdata] at hflive hfdue hfowed hfin
    unfold takeText
    simp only [hdata, hfin, Bool.false_or, decide_eq_true_eq]
    split
    next hnext =>
      simp [OwesAck, hflive, hnext]
    next hnext =>
      simp [OwesAck, hflive, hfdue, hfowed, hnext, hnot]
  · obtain ⟨hdata, hstate⟩ := not_or.mp hidle
    have howes : (c.takeText now seg).OwesAck := by
      unfold takeText
      dsimp only
      split
      · exact ⟨hflive, .inl rfl⟩
      rename_i hquiet
      rcases takeData_answers c seg hdata hstate with hneed | howed
      · exact absurd (by simp [hneed]) hquiet
      · exact ⟨hflive, .inr (hfowed ▸ howed)⟩
    exact iff_of_true howes (.inr (.inr (.inl ⟨hdata, hstate⟩)))

end

/-! ## Which segments are answered -/

/-- The segment completes our own close: everything outstanding in `LastAck` is
acknowledged, and the connection is gone before anything else is looked at. -/
def Conn.endsBy (c : Conn) (seg : Seg) : Bool :=
  c.state == .lastAck && seg.ack && c.acksNew seg && seg.ackNo == c.snd.nxt

/-- The condition under which a segment leaves an acknowledgement owed. -/
def Conn.Answers (c : Conn) (seg : Seg) : Prop :=
  c.endsBy seg = false ∧
    (c.ackDue = true ∨ 0 < c.rcv.ackOwed ∨ (seg.payload ≠ [] ∧ c.state ≠ .timeWait) ∨
      (seg.fin = true ∧ seg.finSeq = c.rcv.nxt))

instance (c : Conn) (seg : Seg) : Decidable (c.Answers seg) := inferInstanceAs (Decidable (_ ∧ _))

lemma whenAcked_eq_closed {s : State} (hs : s.synchronised) :
    s.whenAcked = .closed ↔ s = .lastAck := by
  cases s <;> simp_all [State.whenAcked, State.synchronised]

lemma whenAcked_eq_timeWait {s : State} : s.whenAcked = .timeWait ↔ s = .timeWait := by
  cases s <;> simp [State.whenAcked]

lemma takeAck_closed_iff (hs : c.state.synchronised) (hack : seg.ack) :
    (c.takeAck now seg).state = .closed ↔ c.endsBy seg := by
  have hlive : c.state ≠ .closed := by
    intro hclosed
    simp [hclosed, State.synchronised] at hs
  rw [takeAck_state]
  by_cases hall : c.acksNew seg ∧ seg.ackNo = c.snd.nxt
  · rw [if_pos hall, whenAcked_eq_closed hs]
    simp [endsBy, hack, hall]
  rw [if_neg hall]
  refine iff_of_false hlive fun hends => hall ?_
  simp only [endsBy, Bool.and_eq_true, beq_iff_eq] at hends
  exact ⟨hends.1.2, hends.2⟩

lemma takeAck_timeWait_iff (c : Conn) (now : ℕ) (seg : Seg) :
    (c.takeAck now seg).state = .timeWait ↔ c.state = .timeWait := by
  rw [takeAck_state]
  split
  · exact whenAcked_eq_timeWait
  · exact .rfl

lemma onSegment_of_synchronised (hs : c.state.synchronised)
    (hrst : seg.rst = false) : c.onSegment now seg = c.synchronised now seg := by
  unfold onSegment
  cases hstate : c.state <;> simp_all [State.synchronised]

lemma synchronised_state (hs : c.state.synchronised) : (c.synchronised now seg).state.synchronised ∨
      (c.synchronised now seg).state = .closed := by
  have hack : (if seg.ack then c.takeAck now seg else c).state.synchronised ∨
      (if seg.ack then c.takeAck now seg else c).state = .closed := by
    split
    · rw [takeAck_state]
      split
      · cases hstate : c.state <;> simp_all [State.whenAcked, State.synchronised]
      · exact .inl hs
    · exact .inl hs
  unfold synchronised
  generalize (if seg.ack then c.takeAck now seg else c) = d at hack
  dsimp only
  split
  · exact .inr ‹_›
  rename_i hlive
  left
  have hd : (d.takeData seg).1.state.synchronised := by
    rw [takeData_state]
    exact hack.resolve_right hlive
  have hfin : ((d.takeData seg).1.takeFin now seg).1.state.synchronised := by
    unfold takeFin
    split
    · dsimp only
      split <;> simp_all [State.synchronised]
    · exact hd
  unfold takeText
  dsimp only
  split <;> exact hfin

/-- **Which segments are answered.**  For a connection in a synchronised state and a segment
without RST: an acknowledgement is owed afterwards exactly when one was owed before, when
the segment brings data outside TIME_WAIT, or when its FIN is next in sequence, unless it
completes our own close; and what is owed goes out with a poll at which no timer has run
out. -/
theorem retransmission_answered_iff (c : Conn) (now : ℕ) (seg : Seg)
    (hs : c.state.synchronised = true) (hrst : seg.rst = false) :
    ((c.onSegment now seg).OwesAck ↔ c.Answers seg) ∧
      ((c.onSegment now seg).OwesAck → ∀ clock, (c.onSegment now seg).expired clock = false →
        (c.onSegment now seg).retxDue clock = false →
        ∃ f, ((c.onSegment now seg).flushAcks.pollOne clock).2 = some f ∧ f.ack = true ∧
          f.ackNo = (c.onSegment now seg).rcv.nxt) := by
  rw [onSegment_of_synchronised now hs hrst]
  have hlive : c.state ≠ .closed := by
    intro hclosed
    simp [hclosed, State.synchronised] at hs
  refine ⟨?_, fun howes clock hdeadline htimer =>
    howes.emits ((synchronised_state now hs).resolve_right howes.1) hdeadline htimer⟩
  unfold synchronised Answers
  cases hack : seg.ack with
  | false =>
    simp only [Bool.false_eq_true, if_false]
    rw [if_neg hlive, owesAck_takeText_iff _ _ _ hlive]
    simp [endsBy, hack]
  | true =>
    rw [if_pos rfl]
    by_cases hends : c.endsBy seg
    · have hclosed := (takeAck_closed_iff now hs hack).mpr hends
      simp [OwesAck, hclosed, hends]
    · have hopen := mt (takeAck_closed_iff now hs hack).mp hends
      rw [if_neg hopen, owesAck_takeText_iff _ _ _ hopen]
      simp [hends, takeAck_timeWait_iff]

/-! ## Silence -/

/-- A segment from the peer of the schedules below. -/
def peerSeg (seq ackNo : Seq) (syn ack fin : Bool) (payload : List UInt8) : Seg where
  srcIp := 9
  srcPort := 80
  dstPort := 49152
  seq
  ackNo
  syn
  ack
  fin
  rst := false
  wnd := 8192
  mss := none
  ws := none
  payload := payload.take mss
  bounded := lt_of_le_of_lt (List.length_take_le mss payload) (by decide)

/-- An outbound connection after its handshake, our acknowledgement sent. -/
def dialled : Conn :=
  (((free (List.replicate 16 0)).connect 7 0 100 49152 9 80).onSegment 5
    (peerSeg 500 101 true true false []) |>.pollOne (some 6)).1

/-- The same connection after the peer's FIN, our acknowledgement sent. -/
def halfClosed : Conn :=
  ((dialled.onSegment 10 (peerSeg 501 101 false true true [])).pollOne (some 11)).1

/-- A segment that a synchronised connection leaves without an answer. -/
def Unanswered (c : Conn) (seg : Seg) : Prop :=
  c.state.synchronised = true ∧ seg.rst = false ∧ seg.occupies = true ∧
    ¬(c.onSegment 1000 seg).OwesAck

instance (c : Conn) (seg : Seg) : Decidable (Unanswered c seg) :=
  inferInstanceAs (Decidable (_ ∧ _))

/-- A peer that resends its SYN-ACK or its bare FIN, because our acknowledgement was lost, is
met with silence. -/
theorem silent_on_resend : Unanswered dialled (peerSeg 500 101 true true false []) ∧
    Unanswered halfClosed (peerSeg 501 101 false true true []) := by
  decide

/-- Data to the same connection is answered. -/
theorem retransmission_answered_iff_data :
    (dialled.onSegment 20 (peerSeg 501 101 false true false [1, 2])).OwesAck :=
  (retransmission_answered_iff dialled 20 (peerSeg 501 101 false true false [1, 2]) (by decide)
    (by decide)).1.mpr (by decide)

end Godspeed.Tcp
