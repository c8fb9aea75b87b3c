import Godspeed.Tcp.Life

/-!
# What a connection sends

Over every run of one connection, whatever the peer sends: the bytes on the wire are the
accepted ones at the positions their numbers name, the first transmissions are consecutive,
a byte stays in the send arena until it is acknowledged, and `snd_nxt` never runs further
ahead of `snd_una` than the arena and an outstanding FIN.

The peer's window is respected by new data, but not by retransmissions: these take up to a
segment from the front of the arena, whether it has been sent or not.  The results are
therefore about the runs in which a retransmission finds nothing unsent there beyond the
peer's window (`Life.ResendFits`).
-/

namespace Godspeed.Tcp

open Serial Transition Life List

variable (t : Life)

/-- A retransmission takes no byte that is unsent and beyond the peer's window. -/
def Life.ResendFits : Act → Prop
  | .poll clock => t.conn.cc.fastRetx = true ∨ t.conn.retxDue clock = true →
      min t.conn.snd.buf.length t.conn.cc.smss ≤ max t.conn.outstanding t.conn.snd.wnd
  | _ => True

instance (t : Life) (a : Act) : Decidable (t.ResendFits a) := by
  unfold ResendFits
  split <;> infer_instance

/-- The payload of a frame is the accepted stream from the position on that its number
names; it leaves no gap behind what has been on the wire; and what has not been on the wire
is within the peer's window, or is the one byte that probes a window that is shut. -/
def Life.Carries (f : Frame) : Prop :=
  ∃ p, f.seq = num (t.conn.snd.iss + 1) p ∧
    f.payload = (t.written.drop p).take f.payload.length ∧ p ≤ t.sent ∧
    ∀ q, p ≤ q → q < p + f.payload.length →
      q < t.sent ∨ q < t.gone + t.conn.snd.wnd ∨ (t.conn.snd.wnd = 0 ∧ f.payload.length = 1)

/-- The phantom place of a FIN that is sent and not acknowledged. -/
def Life.finOut : ℕ := if t.finSent ∧ t.acked < t.written.length + 2 then 1 else 0

/-- What holds of a connection that sends what was written. -/
structure Life.SendsWritten (t : Life) : Prop where
  /-- A byte has left the send arena only when the peer has acknowledged its place, which is
  one further than the byte, behind the SYN. -/
  leaves : ∀ k, k < t.gone → k + 1 < t.acked
  /-- The numbers are in order once our SYN is acknowledged. -/
  ordered : 1 ≤ t.acked → seqLe t.conn.snd.una t.conn.snd.nxt = true ∧
    seqLe t.conn.snd.nxt
      (t.conn.snd.una + BitVec.ofNat 32 (t.conn.snd.buf.length + t.finOut)) = true
  /-- What a poll sends. -/
  carries : ∀ clock f, t.ResendFits (.poll clock) → (t.conn.pollOne clock).2 = some f →
    f.payload ≠ [] → t.Carries f

namespace Books

variable {t : Life}

variable (h : Books t)
include h

lemma leaves (k : ℕ) (hk : k < t.gone) : k + 1 < t.acked := by
  obtain ⟨ph, -, hholds⟩ := h.phase
  rw [gone] at hk
  cases ph <;> simp only [Phase.Holds, accounts] at hholds <;> omega

lemma ordered (hacked : 1 ≤ t.acked) : seqLe t.conn.snd.una t.conn.snd.nxt ∧ seqLe t.conn.snd.nxt
        (t.conn.snd.una + BitVec.ofNat 32 (t.conn.snd.buf.length + t.finOut)) := by
  have hout : t.conn.outstanding ≤ t.conn.snd.buf.length + t.finOut := by
    obtain ⟨ph, -, hholds⟩ := h.phase
    rw [finOut]
    cases ph with
    | syn =>
      have hzero : t.acked = 0 := hholds.1
      omega
    | data =>
      have hle : t.conn.outstanding ≤ t.conn.snd.buf.length := hholds.2.1
      omega
    | fin =>
      obtain ⟨hcount, hle, -, hfin⟩ := hholds
      simp only [accounts] at hcount hle hfin
      rw [if_pos ⟨hfin, by omega⟩]
      omega
    | done =>
      have hzero : t.conn.outstanding = 0 := hholds.2.2.1
      omega
  have hroom := h.room
  have hfin : t.finOut ≤ 1 := by
    rw [finOut]
    split <;> omega
  have hnxt : t.conn.snd.nxt = num t.conn.snd.una t.conn.outstanding :=
    (num_sub_toNat t.conn.snd.una t.conn.snd.nxt).symm
  rw [sndBuf] at hroom
  constructor
  · have hle := (notAfter_num_iff t.conn.snd.una (q := t.conn.outstanding) (by omega)
      (by omega)).mpr (Nat.zero_le _)
    rwa [num_zero, ← hnxt] at hle
  · rw [hnxt]
    exact (notAfter_num_iff t.conn.snd.una (by omega) (by omega)).mpr hout

/-- In a phase with bytes in the arena, the first of them has the number that `snd_una`
stands for. -/
lemma una_of_buf (hbuf : t.conn.snd.buf ≠ []) :
    t.conn.snd.una = num (t.conn.snd.iss + 1) t.gone := by
  have hpos : 0 < t.conn.snd.buf.length := length_pos_of_ne_nil hbuf
  have hle := h.buf_le
  have hacked : t.acked = 1 + t.gone := by
    obtain ⟨ph, -, hholds⟩ := h.phase
    rw [gone]
    cases ph <;> simp only [Phase.Holds, accounts] at hholds <;> omega
  rw [h.una, hacked, ← num_num]
  rfl

lemma out_sent : t.gone ≤ t.sent ∧ (t.gone + t.conn.outstanding ≤ t.sent ∨
      (t.conn.snd.buf.length ≤ t.conn.outstanding ∧ t.sent = t.written.length)) := by
  have hle := h.buf_le
  obtain ⟨ph, -, hholds⟩ := h.phase
  rw [gone]
  cases ph <;> simp only [Phase.Holds, accounts] at hholds <;> omega

lemma slice (off n : ℕ) :
    (t.conn.snd.buf.drop off).take n = (t.written.drop (t.gone + off)).take n := by
  rw [← h.drop_gone, drop_drop]

lemma carries_live {clock : Option ℕ} {f : Frame}
    (hfits : t.conn.cc.fastRetx ∨ t.conn.retxDue clock →
      min t.conn.snd.buf.length t.conn.cc.smss ≤ max t.conn.outstanding t.conn.snd.wnd)
    (hsome : (t.conn.pollLive clock).2 = some f) (hload : f.payload ≠ []) : t.Carries f := by
  have hle := h.buf_le
  cases pollLive_sends clock t.conn with
  | quiet hsnd hstate hbare hfin => exact absurd (hbare f hsome) hload
  | fin g hopen hsent hsnd hstate hframe hnone hfin =>
    cases hframe.symm.trans hsome
    exact absurd hnone hload
  | resend g hdue hsnd hstate hframe hseq hpay hfin =>
    obtain rfl := Option.some_inj.mp (hframe.symm.trans hsome)
    have hbuf : t.conn.snd.buf ≠ [] := by
      rintro hnil
      simp [hpay, hnil] at hload
    have hlen : g.payload.length = min t.conn.snd.buf.length t.conn.cc.smss := by
      rw [hpay, length_take]
      omega
    obtain ⟨hgone, hsent⟩ := h.out_sent
    refine ⟨t.gone, hseq.trans (h.una_of_buf hbuf), ?_, hgone, fun q hp hq => ?_⟩
    · have hslice := h.slice 0 g.payload.length
      rwa [drop_zero, hlen, ← hpay, ← hlen] at hslice
    -- a byte that is resent has been sent, or lies within the window
    have hmax := hfits hdue
    rw [gone] at *
    omega
  | fresh g n hopen hsnd hstate hframe hseq hpay hpos hin hwnd hfin =>
    obtain rfl := Option.some_inj.mp (hframe.symm.trans hsome)
    have hbuf : t.conn.snd.buf ≠ [] := by
      rintro hnil
      simp [hnil] at hin
      omega
    have hlen : g.payload.length = n := by
      rw [hpay, length_take, length_drop]
      omega
    have hnum : t.conn.snd.nxt = num (t.conn.snd.iss + 1) (t.gone + t.conn.outstanding) := by
      rw [← num_num, ← h.una_of_buf hbuf, Conn.outstanding, num_sub_toNat]
    obtain ⟨-, hsent⟩ := h.out_sent
    rw [← Conn.outstanding] at hpay hin hwnd
    refine ⟨t.gone + t.conn.outstanding, hseq.trans hnum, ?_, ?_, fun q hp hq => ?_⟩
    · rw [hlen, hpay, h.slice]
    · omega
    · omega

lemma carries {clock : Option ℕ} {f : Frame} (hfits : t.ResendFits (.poll clock))
    (hsome : (t.conn.pollOne clock).2 = some f) (hload : f.payload ≠ []) : t.Carries f := by
  obtain ⟨hsnd, hcc, hretx⟩ := expire_keeps t.conn clock
  unfold Conn.pollOne at hsome
  split at hsome
  · simp at hsome
  dsimp only at hsome
  split at hsome
  · simp at hsome
  · have hcarries := (h.expire clock).carries_live
      (by simpa only [Conn.outstanding, hsnd, hcc, hretx, ResendFits] using hfits) hsome hload
    simpa only [Carries, gone, hsnd] using hcarries

end Books

/-- **A connection sends what was written.**  In every run of one connection in which each
retransmission finds nothing unsent and beyond the peer's window at the front of the arena. -/
theorem sends_written {c : Conn} (hfresh : Fresh c) {t : Life}
    (hrun : Reaches step ResendFits (start c) t) : t.SendsWritten := by
  have hbooks := Books.of_reaches hfresh hrun
  exact ⟨hbooks.leaves, hbooks.ordered, fun _ _ hfits => hbooks.carries hfits⟩

/-- An outbound connection whose SYN has just been sent. -/
def dialling : Conn :=
  (((Conn.free (List.replicate 16 0)).connect 7 0 100 49152 9 80).synOut 0).1

/-- The handshake with a peer that tells the window `wnd`, and three bytes written. -/
def openAndWrite (wnd : BitVec 16) : List Act :=
  [.segment 5 { peerSeg 500 101 true true false [] with wnd }, .poll (some 6), .write [1, 2, 3]]

theorem sends_written_dialling : ∃ t, Reaches step ResendFits (start dialling) t ∧
    ((t.conn.pollOne (some 7)).2.map fun f => f.payload) = some [1, 2, 3] ∧ t.SendsWritten := by
  exact exists_reaches_and (openAndWrite 8192) (by decide)
    fun _ hrun _ => sends_written (.dialled _ 7 0 100 49152 9 80) hrun

/-- A peer that has shut its window is sent three bytes at once: the probe of one byte is not
acknowledged in time, and its retransmission takes the unsent bytes behind it along. -/
theorem resend_beyond_window : ∃ t, Reaches step Free (start dialling) t ∧
    t.conn.snd.wnd = 0 ∧ t.sent = 1 ∧
    ((t.conn.pollOne (some 1000)).2.map fun f => f.payload) = some [1, 2, 3] :=
  exists_reaches (openAndWrite 0 ++ [.poll (some 7), .poll (some 300)]) (by decide)

end Godspeed.Tcp
