import Godspeed.Tcp.Table

/-!
# A segment from outside the window

RFC 793 has a segment dropped, and at most answered, when neither its first nor its last
sequence number lies in the receive window.  `on_frame` does not test this in one place.  The
data of such a segment is always dropped, and its FIN too unless the window is shut; but a RST
closes the connection whatever its number is, and the acknowledgement and the window of the
segment are used without a look at its number.

`undisturbed_iff` says exactly which of these segments leave the connection as it is, up to
the acknowledgement that becomes owed (`Conn.Undisturbed`).
-/

namespace Godspeed.Tcp

open Serial Slots Conn Spans BitVec Congestion

/-- The last sequence number of a segment with data or a FIN. -/
def Seg.last (seg : Seg) : Seq := seg.finSeq + (if seg.fin then 1 else 0) - 1

/-- The number does not lie in the receive window. -/
def Recv.Misses (r : Recv) (n : Seq) : Prop := r.window ≤ (n - r.nxt).toNat

instance (r : Recv) (n : Seq) : Decidable (r.Misses n) := inferInstanceAs (Decidable (_ ≤ _))

variable (c : Conn) (seg : Seg)

/-- The segment lies outside the receive window: its first number, and with data or a FIN its
last one. -/
def Conn.Outside : Prop :=
  c.rcv.Misses seg.seq ∧ (seg.payload ≠ [] ∨ seg.fin = true → c.rcv.Misses seg.last)

instance (c : Conn) (seg : Seg) : Decidable (c.Outside seg) := inferInstanceAs (Decidable (_ ∧ _))

/-- The connection is as it was, up to the acknowledgement it owes. -/
def Conn.Undisturbed (c c' : Conn) : Prop :=
  ∃ due owed, c' = { c with ackDue := due, rcv := { c.rcv with ackOwed := owed } }

/-- A further duplicate acknowledgement changes nothing: the count is at its end, and so is the
congestion window if it would grow. -/
def Congestion.Deaf (g : Congestion) : Prop := g.dupAcks = 255 ∧ (g.inRecovery = true → g.cwnd = u32Max)

instance (g : Congestion) : Decidable g.Deaf := inferInstanceAs (Decidable (_ ∧ _))

/-- The acknowledgement of the segment tells nothing: it covers nothing outstanding, counts as
no duplicate, and repeats the window. -/
def Conn.AckIdle : Prop :=
  c.acksNew seg = false ∧ (c.isDupAck seg = true → c.cc.Deaf) ∧
    c.snd.peerWindow seg.wnd seg.syn = c.snd.wnd

instance (c : Conn) (seg : Seg) : Decidable (c.AckIdle seg) := inferInstanceAs (Decidable (_ ∧ _))

/-- No held span starts at or before the next number. -/
def Recv.Settled (r : Recv) : Prop := ∀ span ∈ r.ooo, notAfter span.1 r.nxt = false

instance (r : Recv) : Decidable r.Settled := inferInstanceAs (Decidable (∀ _ ∈ _, _))

/-- The text of the segment is of no use to a shut window: its FIN is not next in sequence, and
data that is next finds no span to count. -/
def Conn.TextIdle : Prop :=
  (seg.fin = true → seg.finSeq ≠ c.rcv.nxt) ∧
    (seg.payload ≠ [] → c.state ≠ .timeWait → seg.seq = c.rcv.nxt → c.rcv.Settled)

instance (c : Conn) (seg : Seg) : Decidable (c.TextIdle seg) := inferInstanceAs (Decidable (_ ∧ _))

/-- The condition under which a segment from outside the window does no harm. -/
def Conn.Harmless : Prop :=
  seg.rst = false ∧ (seg.ack = true → c.AckIdle seg) ∧ (c.rcv.window = 0 → c.TextIdle seg)

instance (c : Conn) (seg : Seg) : Decidable (c.Harmless seg) := inferInstanceAs (Decidable (_ ∧ _))

/-! ## The acknowledgement -/

section Acknowledgement

variable {c : Conn} {seg : Seg}

lemma onDupAck_eq_iff (g : Congestion) (inflight : ℕ) (nxt : Seq) :
    g.onDupAck inflight nxt = g ↔ g.Deaf := by
  have hsmss : 0 < g.smss := lt_of_lt_of_le Nat.zero_lt_one (le_max_right _ _)
  have hsat : satAdd g.cwnd g.smss = g.cwnd ↔ g.cwnd = u32Max := by
    unfold satAdd
    omega
  have hcount : min (g.dupAcks + 1) 255 = g.dupAcks ↔ g.dupAcks = 255 := by omega
  unfold onDupAck Deaf
  obtain ⟨sndMss, cwnd, ssthresh, dupAcks, recover, inRecovery, fastRetx⟩ := g
  cases inRecovery with
  | true =>
    simp only [Congestion.mk.injEq, if_true]
    tauto
  | false =>
    simp only [Bool.false_eq_true, if_false, false_implies]
    by_cases hthree : min (dupAcks + 1) 255 = 3
    · rw [if_pos hthree]
      refine iff_of_false (fun h => ?_) (by omega)
      simp [Congestion.mk.injEq] at h
    · rw [if_neg hthree]
      simp only [Congestion.mk.injEq, and_true, true_and]
      exact hcount

lemma noteWnd_eq (c : Conn) (seg : Seg) (h : c.snd.peerWindow seg.wnd seg.syn = c.snd.wnd) :
    c.noteWnd seg = c := by
  unfold noteWnd
  rw [h]

lemma takeAck_of_idle (now : ℕ) (h : c.AckIdle seg) : c.takeAck now seg = c := by
  obtain ⟨hold, hdup, hwnd⟩ := h
  unfold takeAck
  rw [hold]
  by_cases hd : c.isDupAck seg
  · rw [if_pos hd, (onDupAck_eq_iff _ _ _).mpr (hdup hd)]
    exact noteWnd_eq c seg hwnd
  · rw [if_neg hd]
    exact noteWnd_eq c seg hwnd

lemma una_ne_of_acksNew (h : c.acksNew seg) : seg.ackNo ≠ c.snd.una := by
  intro heq
  simp [acksNew, heq, seqGt, after] at h

lemma takeAck_marks (now : ℕ) (h : ¬ c.AckIdle seg) :
    (c.takeAck now seg).snd ≠ c.snd ∨ (c.takeAck now seg).cc ≠ c.cc := by
  by_cases hnew : c.acksNew seg
  · left
    obtain ⟨wnd, hsnd⟩ := takeAck_snd c now seg
    rw [hsnd, if_pos hnew]
    exact fun heq => una_ne_of_acksNew hnew (congrArg Send.una heq)
  unfold takeAck
  rw [if_neg hnew]
  by_cases hdup : c.isDupAck seg
  · rw [if_pos hdup]
    by_cases hdeaf : c.cc.Deaf
    · left
      refine fun heq => h ⟨Bool.eq_false_iff.mpr hnew, fun _ => hdeaf, ?_⟩
      exact congrArg Send.wnd heq
    · right
      exact fun heq => hdeaf ((onDupAck_eq_iff _ _ _).mp heq)
  · rw [if_neg hdup]
    left
    refine fun heq => h ⟨Bool.eq_false_iff.mpr hnew, fun hd => absurd hd hdup, ?_⟩
    exact congrArg Send.wnd heq

@[simp] lemma takeText_cc (c : Conn) (now : ℕ) (seg : Seg) : (c.takeText now seg).cc = c.cc := by
  have hdata : (c.takeData seg).1.cc = c.cc := by
    unfold takeData
    split
    · rfl
    split
    · rfl
    split <;> rfl
  have hfin : ((c.takeData seg).1.takeFin now seg).1.cc = (c.takeData seg).1.cc := by
    unfold takeFin
    split
    · dsimp only
      split <;> rfl
    · rfl
  unfold takeText
  dsimp only
  split <;> exact hfin.trans hdata

end Acknowledgement

/-! ## The text -/

section Text

variable {c : Conn} {seg : Seg} {r : Recv}

lemma not_ahead_of_misses {n : Seq} (h : r.Misses n) :
    (seqGt n r.nxt && seqLt n (r.nxt + BitVec.ofNat 32 r.window)) = false := by
  unfold Recv.Misses at h
  unfold seqGt seqLt after before
  rw [← sub_sub]
  generalize n - r.nxt = d at h
  rw [Bool.and_eq_false_iff, decide_eq_false_iff_not, decide_eq_false_iff_not]
  simp only [toInt_eq_toNat_cond, toNat_sub, toNat_ofNat]
  omega

lemma length_drain_le (fuel : ℕ) (front : Seq) (count : ℕ) (table : List (Seq × Seq)) :
    (drain fuel front count table).2.2.length ≤ table.length := by
  induction fuel generalizing front count table with
  | zero => exact le_refl _
  | succ fuel ih =>
    unfold drain
    split
    · exact le_refl _
    split
    · exact le_refl _
    rename_i hk
    have hshorter := length_swapRemove hk
    split
    · exact (ih _ _ _).trans (by omega)
    · exact (ih _ _ _).trans (by omega)

lemma drain_of_settled (h : r.Settled) (fuel : ℕ) :
    drain fuel r.nxt r.len r.ooo = (r.nxt, r.len, r.ooo) := by
  have hnone : r.ooo.findIdx? (fun span => notAfter span.1 r.nxt) = none :=
    List.findIdx?_eq_none_iff.mpr fun span hspan => h span hspan
  cases fuel with
  | zero => rfl
  | succ fuel =>
    unfold drain
    rw [hnone]

lemma drain_of_not_settled (h : ¬ r.Settled) :
    (drain r.ooo.length r.nxt r.len r.ooo).2.2 ≠ r.ooo := by
  have hidx : ¬ r.ooo.findIdx? (fun span => notAfter span.1 r.nxt) = none := by
    rw [List.findIdx?_eq_none_iff]
    exact h
  obtain ⟨k, hk⟩ := Option.ne_none_iff_exists'.mp hidx
  obtain ⟨hlt, -⟩ := List.findIdx?_eq_some_iff_getElem.mp hk
  have hget : r.ooo[k]? = some r.ooo[k] := List.getElem?_eq_getElem hlt
  have hshorter := length_swapRemove hget
  intro heq
  have hlen := congrArg List.length heq
  obtain ⟨fuel, hfuel⟩ : ∃ fuel, r.ooo.length = fuel + 1 := ⟨r.ooo.length - 1, by omega⟩
  rw [hfuel, drain, hk] at hlen
  simp only [hget] at hlen
  split at hlen
  · have := length_drain_le fuel r.ooo[k].2 (r.len + (r.ooo[k].2 - r.nxt).toNat) (swapRemove r.ooo k)
    omega
  · have := length_drain_le fuel r.nxt r.len (swapRemove r.ooo k)
    omega

lemma deliver_shut {data : List UInt8} (hshut : r.window = 0) (hdata : data ≠ []) :
    r.deliver r.nxt data = { r with
        nxt := (drain r.ooo.length r.nxt r.len r.ooo).1
        len := (drain r.ooo.length r.nxt r.len r.ooo).2.1
        ooo := (drain r.ooo.length r.nxt r.len r.ooo).2.2 } := by
  have hlen : 0 < data.length := List.length_pos_of_ne_nil hdata
  have hplace : r.place 0 data = (r, 0) := by
    unfold Recv.place
    rw [if_pos (show 0 ≥ r.cap - r.len from le_of_eq hshut)]
  unfold Recv.deliver
  simp only [sub_self, toNat_zero, List.drop_zero, hplace, ofNat_eq_ofNat, BitVec.add_zero,
    add_zero, not_le.mpr hlen, if_false]

/-- The data of a segment from outside the window is dropped, but a shut window looks at its
spans. -/
lemma undisturbed_takeData_iff (hout : c.rcv.Misses seg.seq) : (c.Undisturbed (c.takeData seg).1 ↔
      (seg.payload ≠ [] → c.state ≠ .timeWait → seg.seq = c.rcv.nxt → c.rcv.Settled)) ∧
    (¬ c.Undisturbed (c.takeData seg).1 → (c.takeData seg).1.rcv.ooo ≠ c.rcv.ooo) := by
  have hself : c.Undisturbed c := ⟨c.ackDue, c.rcv.ackOwed, rfl⟩
  unfold takeData
  by_cases hidle : seg.payload = [] ∨ c.state = .timeWait
  · rw [if_pos hidle]
    refine ⟨iff_of_true hself fun hdata hstate => ?_, fun h => absurd hself h⟩
    rcases hidle with hnil | htw
    · exact absurd hnil hdata
    · exact absurd htw hstate
  rw [if_neg hidle]
  obtain ⟨hdata, hstate⟩ := not_or.mp hidle
  by_cases hnext : seg.seq = c.rcv.nxt
  · have hshut : c.rcv.window = 0 := by
      unfold Recv.Misses at hout
      rw [hnext, sub_self] at hout
      exact Nat.le_zero.mp hout
    rw [if_pos hnext, hnext, deliver_shut hshut hdata]
    by_cases hset : c.rcv.Settled
    · rw [drain_of_settled hset]
      have hsame : c.Undisturbed { c with rcv := { c.rcv with ackOwed := satAdd c.rcv.ackOwed 0 } } :=
        ⟨c.ackDue, _, rfl⟩
      simp only [sub_self]
      exact ⟨iff_of_true hsame fun _ _ _ => hset, fun h => absurd hsame h⟩
    · have hooo := drain_of_not_settled hset
      refine ⟨iff_of_false ?_ fun h => hset (h hdata hstate rfl), fun _ => hooo⟩
      rintro ⟨due, owed, heq⟩
      exact hooo (congrArg (fun d : Conn => d.rcv.ooo) heq)
  · rw [if_neg hnext, if_neg (by rw [not_ahead_of_misses hout]; exact Bool.false_ne_true)]
    exact ⟨iff_of_true hself fun _ _ h => absurd h hnext, fun h => absurd hself h⟩

lemma takeFin_ooo (c : Conn) (now : ℕ) (seg : Seg) : (c.takeFin now seg).1.rcv.ooo = c.rcv.ooo := by
  unfold takeFin
  split
  · dsimp only
    split <;> rfl
  · rfl

lemma takeFin_nxt (c : Conn) (now : ℕ) (seg : Seg) (h : seg.fin ∧ seg.finSeq = c.rcv.nxt) :
    (c.takeFin now seg).1.rcv.nxt = c.rcv.nxt + 1 := by
  unfold takeFin
  rw [if_pos h]
  dsimp only
  split <;> rfl

lemma undisturbed_takeText_iff (now : ℕ) (hout : c.Outside seg) :
    c.Undisturbed (c.takeText now seg) ↔ (c.rcv.window = 0 → c.TextIdle seg) := by
  obtain ⟨hdata, hooo⟩ := undisturbed_takeData_iff hout.1
  -- with an open window neither end of the segment is next in sequence
  have hopen : 0 < c.rcv.window → (seg.fin → seg.finSeq ≠ c.rcv.nxt) ∧ seg.seq ≠ c.rcv.nxt := by
    intro hpos
    refine ⟨fun hfin heq => ?_, fun heq => ?_⟩
    · have hlast := hout.2 (.inr hfin)
      unfold Recv.Misses Seg.last at hlast
      rw [if_pos hfin, heq, add_sub_cancel, sub_self] at hlast
      exact absurd hpos (not_lt.mpr hlast)
    · have hfirst := hout.1
      unfold Recv.Misses at hfirst
      rw [heq, sub_self] at hfirst
      exact absurd hpos (not_lt.mpr hfirst)
  have hcond : (c.rcv.window = 0 → c.TextIdle seg) ↔
      (seg.fin → seg.finSeq ≠ c.rcv.nxt) ∧ c.Undisturbed (c.takeData seg).1 := by
    rw [hdata]
    constructor
    · intro h
      rcases Nat.eq_zero_or_pos c.rcv.window with hzero | hpos
      · exact h hzero
      · exact ⟨(hopen hpos).1, fun _ _ hnext => absurd hnext (hopen hpos).2⟩
    · exact fun h _ => h
  rw [hcond]
  by_cases hkept : c.Undisturbed (c.takeData seg).1
  · obtain ⟨due, owed, hd⟩ := hkept
    by_cases hfin : seg.fin ∧ seg.finSeq = c.rcv.nxt
    · refine iff_of_false ?_ fun h => h.1 hfin.1 hfin.2
      rintro ⟨due', owed', heq⟩
      have hnext : seg.fin ∧ seg.finSeq = (c.takeData seg).1.rcv.nxt := by
        rw [hd]
        exact hfin
      have hnxt := congrArg (fun d : Conn => d.rcv.nxt) heq
      rw [takeText_rcv, takeFin_nxt _ _ _ hnext, hd] at hnxt
      exact absurd hnxt (by simp)
    · refine iff_of_true ?_ ⟨fun h heq => hfin ⟨h, heq⟩, hd ▸ ⟨due, owed, rfl⟩⟩
      have hnofin : (c.takeData seg).1.takeFin now seg = ((c.takeData seg).1, false) := by
        unfold takeFin
        rw [if_neg]
        rw [hd]
        exact hfin
      unfold takeText
      simp only [hnofin]
      split
      · exact ⟨true, owed, by rw [hd]⟩
      · exact ⟨due, owed, hd⟩
  · refine iff_of_false ?_ fun h => hkept h.2
    rintro ⟨due, owed, heq⟩
    refine hooo hkept ?_
    rw [← takeFin_ooo _ now seg, ← takeText_rcv, heq]

end Text

/-! ## A segment from outside -/

/-- A segment from outside the window leaves a synchronised connection alone exactly under the
condition. -/
lemma undisturbed_onSegment_iff {c : Conn} {seg : Seg} (now : ℕ) (hs : c.state.synchronised)
    (hout : c.Outside seg) : c.Undisturbed (c.onSegment now seg) ↔ c.Harmless seg := by
  have hlive : c.state ≠ .closed := by
    intro hclosed
    simp [hclosed, State.synchronised] at hs
  unfold Harmless
  cases hrst : seg.rst with
  | true =>
    refine iff_of_false ?_ fun h => by cases h.1
    rintro ⟨due, owed, heq⟩
    have hstate := congrArg state heq
    rw [onSegment, if_neg hlive, if_pos hrst] at hstate
    exact hlive hstate.symm
  | false =>
    rw [onSegment_of_synchronised now hs hrst, synchronised, ← undisturbed_takeText_iff now hout]
    by_cases hidle : seg.ack → c.AckIdle seg
    · have hsame : (if seg.ack = true then c.takeAck now seg else c) = c := by
        split
        · exact takeAck_of_idle now (hidle ‹_›)
        · rfl
      simp only [hsame, if_neg hlive, true_and]
      exact ⟨fun h => ⟨hidle, h⟩, And.right⟩
    obtain ⟨hack, hnot⟩ := Classical.not_imp.mp hidle
    refine iff_of_false ?_ fun h => hidle h.2.1
    rintro ⟨due, owed, heq⟩
    rw [if_pos hack] at heq
    have hkeep : ((if (c.takeAck now seg).state = .closed then c.takeAck now seg
        else (c.takeAck now seg).takeText now seg)).snd = (c.takeAck now seg).snd ∧
        ((if (c.takeAck now seg).state = .closed then c.takeAck now seg
        else (c.takeAck now seg).takeText now seg)).cc = (c.takeAck now seg).cc := by
      split
      · exact ⟨rfl, rfl⟩
      · exact ⟨takeText_snd _ _ _, takeText_cc _ _ _⟩
    have hsame : (c.takeAck now seg).snd = c.snd ∧ (c.takeAck now seg).cc = c.cc := by
      rw [← hkeep.1, ← hkeep.2, heq]
      exact ⟨rfl, rfl⟩
    rcases takeAck_marks now hnot with hsnd | hcc
    · exact hsnd hsame.1
    · exact hcc hsame.2

/-- **What an outsider can do.**  A segment whose addresses and ports are those of a synchronised
connection, and which lies outside its receive window, leaves the connection as it is, up to the
acknowledgement that becomes owed, exactly if it carries no RST, its acknowledgement tells
nothing, and to a shut window its text is of no use either. -/
theorem undisturbed_iff (t : Table) (now : ℕ) (iss : Seq) (seg : Seg) (i : Fin maxConns)
    (hfind : t.find seg.dstPort seg.srcIp seg.srcPort = some i)
    (hs : (t.conns i).state.synchronised = true) (hout : (t.conns i).Outside seg) :
    (t.conns i).Undisturbed ((t.onFrame now iss seg).conns i) ↔ (t.conns i).Harmless seg := by
  have hanswers : t.answers seg = false := by
    unfold Table.answers
    rw [hfind]
    rfl
  have hconn : (t.onFrame now iss seg).conns i = (t.conns i).onSegment now seg := by
    unfold Table.onFrame
    rw [hanswers]
    simp only [Bool.false_eq_true, if_false]
    rw [writeFirst_of_first hfind, Function.update_self]
  rw [hconn]
  exact undisturbed_onSegment_iff now hs hout

/-- A table with one connection, eight bytes of which are on their way. -/
def busyTable : Table :=
  let c := ((dialled.write [1, 2, 3, 4, 5, 6, 7, 8]).1.pollOne (some 7)).1
  { Table.new (fun _ => List.replicate 16 0) with
    conns := fun i => if i = ⟨0, Nat.zero_lt_two⟩ then c else free [] }

/-- A segment of somebody who knows the four-tuple and no sequence number of the connection. -/
def blindSeg (ackNo : Seq) (ack rst : Bool) (wnd : BitVec 16) : Seg :=
  { peerSeg 9000000 ackNo false ack false [] with rst, wnd }

/-- An old segment of the peer, come again, changes nothing. -/
theorem undisturbed_iff_resent :
    (busyTable.conns ⟨0, by decide⟩).Undisturbed
      ((busyTable.onFrame 50 0 (peerSeg 499 101 false true false [7])).conns ⟨0, by decide⟩) :=
  (undisturbed_iff busyTable 50 0 (peerSeg 499 101 false true false [7]) ⟨0, by decide⟩ (by decide) (by decide)
    (by decide)).mpr (by decide)

/-- A RST of any number closes the connection, a bare segment shuts its window, and a guess of
the acknowledgement number that lies among the bytes on their way drops these from the send
arena. -/
theorem outsider_disturbs :
    (busyTable.conns ⟨0, by decide⟩).Outside (blindSeg 0 false true 0) ∧
    (busyTable.conns ⟨0, by decide⟩).state = .established ∧
    ((busyTable.onFrame 50 0 (blindSeg 0 false true 0)).conns ⟨0, by decide⟩).state = .closed ∧
    (busyTable.conns ⟨0, by decide⟩).Outside (blindSeg 0 true false 0) ∧
    (busyTable.conns ⟨0, by decide⟩).snd.wnd = 8192 ∧
    ((busyTable.onFrame 50 0 (blindSeg 0 true false 0)).conns ⟨0, by decide⟩).snd.wnd = 0 ∧
    (busyTable.conns ⟨0, by decide⟩).Outside (blindSeg 109 true false 8192) ∧
    (busyTable.conns ⟨0, by decide⟩).snd.buf = [1, 2, 3, 4, 5, 6, 7, 8] ∧
    ((busyTable.onFrame 50 0 (blindSeg 109 true false 8192)).conns ⟨0, by decide⟩).snd.buf = [] := by
  decide

end Godspeed.Tcp
