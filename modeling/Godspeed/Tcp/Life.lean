import Godspeed.Lib.Transition
import Godspeed.Tcp.Owed

/-!
# The life of one connection

A connection from its opening on, driven by its client (`write`, `read`, `close`), by the
segments of a peer that need not be honest, and by polls at any time.  Beside the connection
a `Life` keeps what an observer would note down: the bytes that `write` accepted, how many
sequence places the peer has acknowledged, how many bytes have been on the wire, and whether
our FIN has.

`Books` is what the accounts say in every state: the send arena holds the end of what was
accepted, `snd_una` stands behind what was acknowledged, and what is outstanding is counted
by the phase of the connection (`Phase`): its SYN, data, data and FIN, or nothing any more.
`Books.of_reaches` is the run lemma; what the results about sending and closing need is read
off it.
-/

namespace Godspeed.Tcp

open Serial Transition List Option Conn

/-- Places sent and not acknowledged, phantom places of SYN and FIN included. -/
def Conn.outstanding (c : Conn) : ℕ := (c.snd.nxt - c.snd.una).toNat

/-- A connection and what an observer has noted down. -/
structure Life where
  conn : Conn
  /-- The bytes that `write` accepted, in order. -/
  written : List UInt8
  /-- The places that the peer has acknowledged, counted from the SYN on. -/
  acked : ℕ
  /-- The accepted bytes that have been on the wire. -/
  sent : ℕ
  /-- Our FIN has been on the wire. -/
  finSent : Bool

namespace Life

variable (t : Life)

/-- The accepted bytes that have left the send arena. -/
def gone : ℕ := t.written.length - t.conn.snd.buf.length

/-- The position in the accepted stream of the byte with number `seq`. -/
def position (seq : Seq) : ℕ := t.gone + (seq - t.conn.snd.una).toNat

/-- The place up to which the bytes of a frame reach. -/
def reach (f : Frame) : ℕ :=
  if f.payload = [] then 0 else t.position f.seq + f.payload.length

/-- What a poll that leaves a connection and a frame adds to the accounts. -/
def polled (r : Conn × Option Frame) : Life :=
  { t with
    conn := r.1
    sent := max t.sent ((r.2.map t.reach).getD 0)
    finSent := t.finSent || r.2.any fun f => f.fin }

/-- What a segment that leaves the connection as `c` adds to the accounts. -/
def told (seg : Seg) (c : Conn) : Life :=
  { t with
    conn := c
    acked :=
      if seg.ack ∧ c.snd.una = seg.ackNo then t.acked + (seg.ackNo - t.conn.snd.una).toNat
      else t.acked }

inductive Act
  | write (data : List UInt8)
  | read (k : ℕ)
  | close
  | flush
  | segment (now : ℕ) (seg : Seg)
  | poll (clock : Option ℕ)

def step : Act → Option Life
  | .write data =>
    some { t with
      conn := (t.conn.write data).1
      written := t.written ++ data.take (t.conn.write data).2 }
  | .read k => some { t with conn := (t.conn.read k).1 }
  | .close => some { t with conn := t.conn.close }
  | .flush => some { t with conn := t.conn.flushAcks }
  | .segment now seg =>
    some { t with
      conn := t.conn.onSegment now seg
      acked :=
        if seg.ack ∧ (t.conn.onSegment now seg).snd.una = seg.ackNo then
          t.acked + (seg.ackNo - t.conn.snd.una).toNat
        else t.acked }
  | .poll clock => some (t.polled (t.conn.pollOne clock))

def start (c : Conn) : Life := ⟨c, [], 0, 0, false⟩

end Life

/-- A connection that has just been opened: actively, over a radio or not, its SYN sent; or
passively. -/
inductive Fresh : Conn → Prop
  | dialled (c : Conn) (rid now : ℕ) (iss : Seq) (port dst dport : ℕ) :
      Fresh ((c.connect rid now iss port dst dport).synOut now).1
  | radio (c : Conn) (rid now : ℕ) (iss : Seq) (port dst dport : ℕ) :
      Fresh ((c.connect rid now iss port dst dport).smallWindow.synOut now).1
  | answered (c : Conn) (now : ℕ) (iss : Seq) (seg : Seg) : Fresh (c.passiveOpen now iss seg)

/-! ## The accounts -/

/-- The numbers of the accounts: bytes accepted, bytes in the send arena, places
acknowledged, places outstanding, bytes that have been on the wire, and our FIN. -/
structure Accounts where
  written : ℕ
  buf : ℕ
  acked : ℕ
  out : ℕ
  sent : ℕ
  fin : Bool

/-- Where the send side of a connection stands. -/
inductive Phase
  /-- Only our SYN is out. -/
  | syn
  /-- Data may be out. -/
  | data
  /-- Everything has been sent and our FIN is out. -/
  | fin
  /-- Everything is acknowledged, our FIN too. -/
  | done
  deriving DecidableEq

def Phase.Holds (a : Accounts) : Phase → Prop
  | .syn => a.acked = 0 ∧ a.out = 1 ∧ a.written = 0 ∧ a.fin = false
  | .data => a.acked + a.buf = a.written + 1 ∧ a.out ≤ a.buf ∧
      a.written + a.out ≤ a.sent + a.buf ∧ a.fin = false
  | .fin => a.acked + a.buf = a.written + 1 ∧ a.out = a.buf + 1 ∧ a.sent = a.written ∧
      a.fin = true
  | .done => a.acked = a.written + 2 ∧ a.buf = 0 ∧ a.out = 0 ∧ a.sent = a.written ∧ a.fin = true

def State.Allows : State → Phase → Prop
  | .synSent, ph | .synReceived, ph => ph = .syn
  | .established, ph | .closeWait, ph => ph = .data
  | .finWait1, ph | .lastAck, ph => ph = .fin
  | .finWait2, ph => ph = .done
  | .timeWait, ph => ph = .fin ∨ ph = .done
  | .closed, _ => True

def Life.accounts (t : Life) : Accounts where
  written := t.written.length
  buf := t.conn.snd.buf.length
  acked := t.acked
  out := t.conn.outstanding
  sent := t.sent
  fin := t.finSent

/-- What the accounts of a life say in every state. -/
structure Books (t : Life) : Prop where
  suffix : t.conn.snd.buf <:+ t.written
  room : t.conn.snd.buf.length ≤ sndBuf
  una : t.conn.snd.una = num t.conn.snd.iss t.acked
  wire : t.sent ≤ t.written.length
  phase : ∃ ph, t.conn.state.Allows ph ∧ ph.Holds t.accounts

open Life

namespace Books

variable {t : Life} {c : Conn} {t' : Life} {seg : Seg} {r : Conn × Option Frame} {f : Frame}

lemma of_fresh (h : Fresh c) : Books (start c) := by
  have hsyn : ∀ iss : Seq, (iss + 1 - iss).toNat = 1 := by
    intro iss
    rw [show iss + 1 - iss = 1 by rw [BitVec.add_comm, BitVec.add_sub_cancel]]
    rfl
  cases h with
  | dialled c rid now iss port dst dport | radio c rid now iss port dst dport
  | answered c now iss seg =>
    refine ⟨suffix_refl _, Nat.zero_le _, (num_zero _).symm, le_rfl, .syn, rfl, rfl, ?_, rfl, rfl⟩
    exact hsyn iss

lemma acked_phase {s : State} {a : Accounts} {ph : Phase} {d : ℕ} (hs : s.synchronised)
    (hallow : s.Allows ph) (hholds : ph.Holds a) (hpos : 0 < d) (hle : d ≤ a.out) :
    ∃ ph' : Phase, (if d = a.out then s.whenAcked else s).Allows ph' ∧ ph'.Holds { a with
        acked := a.acked + d, out := a.out - d, buf := a.buf - min d a.buf } := by
  have hne : ph ≠ .syn := by
    rintro rfl
    cases s <;> simp [State.Allows, State.synchronised] at hallow hs
  cases ph with
  | syn => exact absurd rfl hne
  | data =>
    refine ⟨.data, ?_, ?_⟩
    · cases s <;> simp_all [State.Allows, State.whenAcked]
    · obtain ⟨hacked, hout, hsent, hfin⟩ := hholds
      refine ⟨?_, ?_, ?_, hfin⟩ <;> simp only <;> omega
  | fin =>
    obtain ⟨hacked, hout, hsent, hfin⟩ := hholds
    by_cases hall : d = a.out
    · refine ⟨.done, ?_, ?_, ?_, ?_, hsent, hfin⟩
      · cases s <;> simp_all [State.Allows, State.whenAcked]
      all_goals simp only; omega
    · refine ⟨.fin, ?_, ?_, ?_, hsent, hfin⟩
      · rw [if_neg hall]
        exact hallow
      all_goals simp only; omega
  | done =>
    obtain ⟨-, -, hout, -⟩ := hholds
    omega

lemma told_of_una (huna : c.snd.una = t.conn.snd.una) : t.told seg c = { t with conn := c } := by
  unfold told
  split
  next hack =>
    rw [← hack.2, huna, BitVec.sub_self]
    rfl
  · rfl

lemma told_congr {c' : Conn} (hsnd : c'.snd = c.snd) :
    t.told seg c' = { t.told seg c with conn := c' } := by
  simp only [told, hsnd]

lemma allows_data {s : State} (h : s = .established ∨ s = .closeWait) : s.Allows .data := by
  rcases h with rfl | rfl <;> rfl

lemma allows_onFin {s : State} {ph : Phase} (h : s.Allows ph) : s.onFin.Allows ph := by
  cases s <;> simp_all [State.Allows, State.onFin]

lemma synchronised_una (c : Conn) (now : ℕ) (seg : Seg) : (c.synchronised now seg).snd =
    (if seg.ack then c.takeAck now seg else c).snd := by
  unfold synchronised
  dsimp only
  generalize (if seg.ack then c.takeAck now seg else c) = d
  split
  · rfl
  · exact takeText_snd ..

lemma outstanding_add (c : Conn) {n : ℕ} (hn : c.outstanding + n < 2 ^ 32) :
    (c.snd.nxt + BitVec.ofNat 32 n - c.snd.una).toNat = c.outstanding + n := by
  have hnxt : num c.snd.una c.outstanding = c.snd.nxt := num_sub_toNat ..
  have hdist := toNat_num_sub_num c.snd.una (Nat.zero_le (c.outstanding + n)) (by omega)
  rwa [num_zero, num_add, hnxt] at hdist

lemma bare_reach (hnone : f.payload = []) : t.reach f ≤ t.written.length := by
  rw [reach, if_pos hnone]
  exact Nat.zero_le _

/-- A poll is the deadlines, and a live poll of what they have not closed. -/
lemma polled_pollOne (t : Life) (clock : Option ℕ) : t.polled (t.conn.pollOne clock) =
    if t.conn.state = .closed then t
    else if (t.conn.expire clock).state = .closed then { t with conn := t.conn.expire clock }
    else Life.polled { t with conn := t.conn.expire clock }
      ((t.conn.expire clock).pollLive clock) := by
  have hnone : ∀ c : Conn, t.polled (c, none) = { t with conn := c } := by
    simp [Life.polled]
  unfold pollOne
  split
  · exact hnone _
  dsimp only
  split
  · exact hnone _
  -- the deadlines do not touch what the reach of a frame is counted from
  have hreach : reach { t with conn := t.conn.expire clock } = t.reach := by
    funext f
    simp only [reach, position, gone, (expire_keeps t.conn clock).1]
  simp only [Life.polled, hreach]

variable (h : Books t)
include h

lemma buf_le : t.conn.snd.buf.length ≤ t.written.length := h.suffix.length_le

lemma out_le : t.conn.outstanding ≤ sndBuf + 1 := by
  obtain ⟨ph, -, hph⟩ := h.phase
  have hroom := h.room
  cases ph <;> simp only [Phase.Holds, accounts] at hph hroom ⊢ <;> omega

lemma nxt : t.conn.snd.nxt = num t.conn.snd.iss (t.acked + t.conn.outstanding) := by
  rw [← num_num, ← h.una, outstanding, num_sub_toNat]

lemma frame (hsnd : c.snd = t.conn.snd)
    (hallow : ∀ ph, t.conn.state.Allows ph → c.state.Allows ph) : Books { t with conn := c } := by
  obtain ⟨ph, hph, hholds⟩ := h.phase
  refine ⟨?_, ?_, ?_, h.wire, ph, hallow ph hph, ?_⟩
  · simpa only [hsnd] using h.suffix
  · simpa only [hsnd] using h.room
  · simpa only [hsnd] using h.una
  · simpa only [accounts, outstanding, hsnd] using hholds

lemma data (hopen : t.conn.state = .established ∨ t.conn.state = .closeWait) :
    Phase.data.Holds t.accounts := by
  obtain ⟨ph, hph, hholds⟩ := h.phase
  have hdata : ph = .data := by
    rcases hopen with hs | hs <;> rw [hs] at hph <;> exact hph
  exact hdata ▸ hholds

/-! ### The client -/

lemma write (data : List UInt8) (hstep : t.step (.write data) = some t') : Books t' := by
  cases hstep
  unfold write
  by_cases hopen : t.conn.state = .established ∨ t.conn.state = .closeWait
  · rw [if_pos hopen]
    obtain ⟨old, hold⟩ := h.suffix
    have hroom := h.room
    obtain ⟨hacked, hout, hsent, hfin⟩ := h.data hopen
    refine ⟨⟨old, ?_⟩, ?_, h.una, ?_, .data, allows_data hopen, ?_, ?_, ?_, hfin⟩
    · simp [← hold]
    · simp only [length_append, length_take]
      omega
    · have hwire := h.wire
      simp only [length_append]
      omega
    · simp only [accounts, length_append] at hacked ⊢
      omega
    · simp only [accounts, outstanding, length_append] at hout ⊢
      omega
    · simp only [accounts, outstanding, length_append] at hsent ⊢
      omega
  · rw [if_neg hopen]
    simpa using h

/-! ### Segments -/

/-- An acknowledgement that covers something new covers at most what is outstanding. -/
lemma acksNew_spec (hnew : t.conn.acksNew seg) : 0 < (seg.ackNo - t.conn.snd.una).toNat ∧
      (seg.ackNo - t.conn.snd.una).toNat ≤ t.conn.outstanding := by
  rw [acksNew, Bool.and_eq_true] at hnew
  obtain ⟨hgt, hle⟩ := hnew
  obtain ⟨hpos, hhalf⟩ := pos_of_after hgt
  have hout := h.out_le
  rw [sndBuf] at hout
  refine ⟨hpos, ?_⟩
  rw [← num_sub_toNat t.conn.snd.una seg.ackNo, ← num_sub_toNat t.conn.snd.una t.conn.snd.nxt,
    seqLe, notAfter_num_iff] at hle
  · exact hle
  · have := (t.conn.snd.nxt - t.conn.snd.una).isLt
    omega
  · rw [outstanding] at hout
    omega

/-- The acknowledgement of a segment: what it covers leaves the send arena, and the accounts
are moved on by as much. -/
lemma takeAck (now : ℕ) (seg : Seg) (hack : seg.ack) (hs : t.conn.state.synchronised) :
    Books (t.told seg (t.conn.takeAck now seg)) := by
  obtain ⟨wnd, hsnd⟩ := takeAck_snd t.conn now seg
  have hstate := takeAck_state t.conn now seg
  by_cases hnew : t.conn.acksNew seg
  · obtain ⟨hpos, hle⟩ := h.acksNew_spec hnew
    rw [if_pos hnew] at hsnd
    rw [told, if_pos ⟨hack, by rw [hsnd]⟩]
    -- the acknowledgement number and the next number, counted from `snd_una`
    have hto := num_sub_toNat t.conn.snd.una seg.ackNo
    have hnxt := num_sub_toNat t.conn.snd.una t.conn.snd.nxt
    have hrest : (t.conn.snd.nxt - seg.ackNo).toNat =
        t.conn.outstanding - (seg.ackNo - t.conn.snd.una).toNat := by
      conv_lhs => rw [← hnxt, ← hto]
      exact toNat_num_sub_num _ hle (by omega)
    have hall : seg.ackNo = t.conn.snd.nxt ↔
        (seg.ackNo - t.conn.snd.una).toNat = t.conn.outstanding := by
      constructor
      · intro heq
        rw [heq]
        rfl
      · intro heq
        rw [← hto, heq]
        exact hnxt
    obtain ⟨ph, hallow, hholds⟩ := h.phase
    obtain ⟨ph', hallow', hholds'⟩ := acked_phase hs hallow hholds hpos hle
    refine ⟨?_, ?_, ?_, h.wire, ph', ?_, ?_⟩
    · rw [hsnd]
      exact (drop_suffix _ _).trans h.suffix
    · have hroom := h.room
      rw [hsnd]
      simp only [length_drop]
      omega
    · rw [hsnd, ← num_num, ← h.una, hto]
    · rw [hstate]
      by_cases hd : (seg.ackNo - t.conn.snd.una).toNat = t.accounts.out
      · rw [if_pos ⟨hnew, hall.mpr hd⟩]
        rwa [if_pos hd] at hallow'
      · rw [if_neg fun hc => hd (hall.mp hc.2)]
        rwa [if_neg hd] at hallow'
    · simpa only [accounts, hsnd, outstanding, length_drop, hrest] using hholds'
  · rw [if_neg hnew] at hsnd
    rw [if_neg (fun hc => hnew hc.1)] at hstate
    rw [told_of_una (by rw [hsnd])]
    obtain ⟨ph, hallow, hholds⟩ := h.phase
    refine ⟨?_, ?_, ?_, h.wire, ph, ?_, ?_⟩
    · rw [hsnd]
      exact h.suffix
    · rw [hsnd]
      exact h.room
    · rw [hsnd]
      exact h.una
    · rw [hstate]
      exact hallow
    · simpa only [accounts, hsnd, outstanding] using hholds

lemma handshake (hsyn : ∀ ph, t.conn.state.Allows ph → ph = .syn)
    (hdone : Completes t.conn c seg) (hstate : c.state = .established ∨ c.state = .closeWait) :
    Books (t.told seg c) := by
  obtain ⟨ph, hallow, hholds⟩ := h.phase
  obtain rfl := hsyn ph hallow
  obtain ⟨hacked, hout, hwritten, hfin⟩ := hholds
  have hle := h.buf_le
  have hd : (seg.ackNo - t.conn.snd.una).toNat = t.conn.outstanding := by
    rw [hdone.ackNo]
    rfl
  have hsame : (c.snd.nxt - c.snd.una).toNat = 0 := by
    rw [hdone.una, hdone.nxt, hdone.ackNo, BitVec.sub_self]
    rfl
  simp only [accounts] at hacked hout hwritten
  rw [told, if_pos ⟨hdone.ack, hdone.una⟩]
  refine ⟨hdone.buf ▸ h.suffix, hdone.buf ▸ h.room, ?_, h.wire, .data, ?_, ?_, ?_, ?_, hfin⟩
  · rw [hdone.una, hdone.ackNo, hdone.iss]
    exact h.nxt
  · exact allows_data hstate
  · simp only [accounts, hdone.buf]
    omega
  · simp only [accounts, outstanding, hsame]
    exact Nat.zero_le _
  · simp only [accounts, outstanding, hsame, hwritten]
    exact Nat.zero_le _

lemma answerSyn (now : ℕ) (seg : Seg) (hs : t.conn.state = .synSent) :
    Books (t.told seg (t.conn.answerSyn now seg)) := by
  rcases answerSyn_cases t.conn now seg with hsame | ⟨hsnd, hclosed, -⟩ | ⟨hdone, hopen⟩
  · rw [told_of_una (by rw [hsame]), hsame]
    exact h
  · rw [told_of_una (by rw [hsnd])]
    refine h.frame hsnd fun _ _ => ?_
    rw [hclosed]
    trivial
  · refine h.handshake (fun ph hph => ?_) hdone (.inl hopen)
    rwa [hs] at hph

lemma completeOpen (now : ℕ) (seg : Seg) (hs : t.conn.state = .synReceived) :
    Books (t.told seg (t.conn.completeOpen now seg)) := by
  rcases completeOpen_cases t.conn now seg with hsame | ⟨hdone, hopen⟩
  · rw [told_of_una (by rw [hsame]), hsame]
    exact h
  · refine h.handshake (fun ph hph => ?_) hdone hopen
    rwa [hs] at hph

lemma synchronised (now : ℕ) (seg : Seg) (hs : t.conn.state.synchronised) :
    Books (t.told seg (t.conn.synchronised now seg)) := by
  -- the data and the FIN do not touch the send side
  have htext : ∀ {u : Life}, Books u → Books { u with
      conn := if u.conn.state = .closed then u.conn else u.conn.takeText now seg } := by
    intro u hu
    split
    · exact hu
    refine hu.frame (takeText_snd ..) fun ph hph => ?_
    rw [takeText_state]
    split
    · exact allows_onFin hph
    · exact hph
  cases hack : seg.ack with
  | false =>
    rw [told_of_una (by rw [synchronised_una, hack]; rfl), Conn.synchronised, hack]
    exact htext h
  | true =>
    rw [told_congr (c := t.conn.takeAck now seg) (by rw [synchronised_una, hack]; rfl),
      Conn.synchronised, hack]
    exact htext (h.takeAck now seg hack hs)

lemma segment (now : ℕ) (seg : Seg) (hstep : t.step (.segment now seg) = some t') : Books t' := by
  cases hstep
  change Books (t.told seg (t.conn.onSegment now seg))
  unfold onSegment
  split
  · rw [told_of_una rfl]
    exact h
  split
  · rw [told_of_una (by rfl)]
    exact h.frame rfl fun _ _ => trivial
  split
  next hs =>
    exact h.answerSyn now seg hs
  next hs =>
    exact h.completeOpen now seg hs
  · refine h.synchronised now seg ?_
    cases hs : t.conn.state <;> simp_all [State.synchronised]

/-! ### Polls -/

/-- The bytes of the accepted stream from `snd_una` on are those of the send arena. -/
lemma drop_gone : t.written.drop t.gone = t.conn.snd.buf := by
  obtain ⟨old, hold⟩ := h.suffix
  have hgone : t.gone = old.length := by
    rw [gone, ← hold, length_append]
    omega
  rw [hgone, ← hold, drop_left]

/-- A poll that does not move the send side: what it resends has been accepted, and a FIN it
resends has been on the wire. -/
lemma kept (hsnd : r.1.snd = t.conn.snd)
    (hallow : ∀ ph, t.conn.state.Allows ph → r.1.state.Allows ph)
    (hreach : ∀ f, r.2 = some f → t.reach f ≤ t.written.length)
    (hfin : ∀ f, r.2 = some f → f.fin → t.finSent) : Books (t.polled r) := by
  have hr : (r.2.map t.reach).getD 0 ≤ t.written.length := by
    cases hf : r.2 with
    | none => exact Nat.zero_le _
    | some f => exact hreach f hf
  have hfs : (t.finSent || r.2.any fun f => f.fin) = t.finSent := by
    cases hf : r.2 with
    | none => simp
    | some f =>
      cases hff : f.fin with
      | false => simp [hff]
      | true => simp [hfin f hf hff]
  obtain ⟨ph, hph, hholds⟩ := h.phase
  have hwire := h.wire
  refine ⟨?_, ?_, ?_, ?_, ph, hallow ph hph, ?_⟩
  · simpa only [Life.polled, hsnd] using h.suffix
  · simpa only [Life.polled, hsnd] using h.room
  · simpa only [Life.polled, hsnd] using h.una
  · exact max_le hwire hr
  · have hout : r.1.outstanding = t.conn.outstanding := by rw [outstanding, hsnd]; rfl
    simp only [accounts, Life.polled, hsnd, hfs, hout] at hholds ⊢
    cases ph with
    | syn => exact hholds
    | data | fin =>
      obtain ⟨hacked, hle, hsent, hfin⟩ := hholds
      exact ⟨hacked, hle, by simp only at hsent ⊢; omega, hfin⟩
    | done =>
      obtain ⟨hacked, hbuf, hle, hsent, hfin⟩ := hholds
      exact ⟨hacked, hbuf, hle, by simp only at hsent ⊢; omega, hfin⟩

section

variable (hopen : t.conn.state = .established ∨ t.conn.state = .closeWait)
include hopen

lemma grown {n : ℕ} (hfits : t.conn.outstanding + n ≤ t.conn.snd.buf.length)
    (hsnd : r.1.snd = { t.conn.snd with nxt := t.conn.snd.nxt + BitVec.ofNat 32 n })
    (hstate : r.1.state = t.conn.state) (hframe : r.2 = some f) (hseq : f.seq = t.conn.snd.nxt)
    (hlen : f.payload.length = n) (hpos : 0 < n) (hfin : f.fin = false) : Books (t.polled r) := by
  obtain ⟨hacked, hle, hsent, hfs⟩ := h.data hopen
  have hroom := h.room
  have hbuf := h.buf_le
  have hwire := h.wire
  have hout : r.1.outstanding = t.conn.outstanding + n := by
    rw [outstanding, hsnd]
    refine outstanding_add t.conn ?_
    rw [sndBuf] at hroom
    omega
  have hreach : t.reach f = t.written.length - t.conn.snd.buf.length + t.conn.outstanding + n := by
    have hne : f.payload ≠ [] := by
      rintro hnil
      simp [hnil] at hlen
      omega
    rw [reach, if_neg hne, hlen, hseq]
    rfl
  refine ⟨?_, ?_, ?_, ?_, .data, ?_, ?_, ?_, ?_, ?_⟩
  · simpa only [Life.polled, hsnd] using h.suffix
  · simpa only [Life.polled, hsnd] using h.room
  · simpa only [Life.polled, hsnd] using h.una
  · simp only [Life.polled, hframe, map_some, getD_some]
    omega
  · exact allows_data (hstate.symm ▸ hopen)
  · simpa only [accounts, Life.polled, hsnd] using hacked
  · simp only [accounts, Life.polled, hsnd, hout]
    exact hfits
  · simp only [accounts, Life.polled, hsnd, hframe, map_some, getD_some]
    omega
  · simpa [accounts, Life.polled, hframe, hfin] using hfs

lemma finished (hall : t.conn.outstanding = t.conn.snd.buf.length)
    (hsnd : r.1.snd = { t.conn.snd with nxt := t.conn.snd.nxt + 1 })
    (hstate : r.1.state = .finWait1 ∨ r.1.state = .lastAck) (hframe : r.2 = some f)
    (hnone : f.payload = []) (hfin : f.fin) : Books (t.polled r) := by
  obtain ⟨hacked, hle, hsent, hfs⟩ := h.data hopen
  have hroom := h.room
  have hwire := h.wire
  have hout : r.1.outstanding = t.conn.outstanding + 1 := by
    rw [outstanding, hsnd]
    refine outstanding_add t.conn (n := 1) ?_
    rw [sndBuf] at hroom
    omega
  have hreach : t.reach f = 0 := by rw [reach, if_pos hnone]
  simp only [accounts] at hacked hle hsent
  refine ⟨?_, ?_, ?_, ?_, .fin, ?_, ?_, ?_, ?_, ?_⟩
  · simpa only [Life.polled, hsnd] using h.suffix
  · simpa only [Life.polled, hsnd] using h.room
  · simpa only [Life.polled, hsnd] using h.una
  · simp only [Life.polled, hframe, map_some, getD_some]
    omega
  · rw [Life.polled]
    rcases hstate with hs | hs <;> rw [hs] <;> rfl
  · simpa only [accounts, Life.polled, hsnd] using hacked
  · simp only [accounts, Life.polled, hsnd, hout, hall]
  · simp only [accounts, Life.polled, hframe, map_some, getD_some]
    omega
  · simp [accounts, Life.polled, hframe, hfin]

end

lemma resend_reach (hseq : f.seq = t.conn.snd.una)
    (hlen : f.payload.length ≤ t.conn.snd.buf.length) : t.reach f ≤ t.written.length := by
  have hbuf := h.buf_le
  rw [reach]
  split
  · exact Nat.zero_le _
  · rw [position, hseq, BitVec.sub_self, gone]
    change _ + 0 + _ ≤ _
    omega

lemma pollLive (clock : Option ℕ) : Books (t.polled (t.conn.pollLive clock)) := by
  cases pollLive_sends clock t.conn with
  | quiet hsnd hstate hbare hfin =>
    refine h.kept hsnd (fun ph hph => ?_) (fun f hf => bare_reach (hbare f hf)) fun f hf hff => ?_
    · rcases hstate with hs | ⟨hs, -⟩
      · rwa [hs]
      · rw [hs]
        trivial
    · -- a FIN is resent only where it has been sent
      obtain ⟨ph, hph, hholds⟩ := h.phase
      have hphase : ph = .fin := by
        rcases hfin f hf hff with hs | hs <;> rw [hs] at hph <;> exact hph
      subst hphase
      exact hholds.2.2.2
  | resend f hdue hsnd hstate hframe hseq hload hfin =>
    refine h.kept hsnd (fun ph hph => hstate ▸ hph) ?_ ?_
    · intro g hg
      cases hframe.symm.trans hg
      exact h.resend_reach hseq (by rw [hload, length_take]; omega)
    · intro g hg hgf
      cases hframe.symm.trans hg
      rw [hfin] at hgf
      exact absurd hgf (by decide)
  | fresh f n hopen hsnd hstate hframe hseq hload hpos hfits hwnd hfin =>
    refine h.grown hopen hfits hsnd hstate hframe hseq ?_ hpos hfin
    rw [hload, length_take, length_drop]
    omega
  | fin f hopen hsent hsnd hstate hframe hload hfin =>
    exact h.finished hopen hsent hsnd hstate hframe hload hfin

/-- The deadlines do not touch the send side, and close no connection whose accounts forbid
it. -/
lemma expire (clock : Option ℕ) : Books { t with conn := t.conn.expire clock } := by
  refine h.frame (expire_keeps _ _).1 fun ph hph => ?_
  unfold Conn.expire
  split
  · split <;> simp_all [State.Allows]
  · exact hph

lemma poll (clock : Option ℕ) (hstep : t.step (.poll clock) = some t') : Books t' := by
  rw [step, polled_pollOne] at hstep
  cases hstep
  split
  · exact h
  split
  · exact h.expire clock
  · exact (h.expire clock).pollLive clock

/-- **The step lemma.** -/
theorem step {a : Life.Act} (hstep : t.step a = some t') : Books t' := by
  cases a with
  | write data => exact h.write data hstep
  | read k | close =>
    cases hstep
    exact h.frame rfl fun _ hph => hph
  | flush =>
    cases hstep
    refine h.frame ?_ ?_
    · unfold flushAcks
      split <;> rfl
    · unfold flushAcks
      split <;> exact fun _ hph => hph
  | segment now seg => exact h.segment now seg hstep
  | poll clock => exact h.poll clock hstep

omit h in
/-- **The run lemma**: the accounts hold in every state of every life. -/
theorem of_reaches (hfresh : Fresh c) {ok : Life → Life.Act → Prop} {t : Life}
    (hrun : Reaches Life.step ok (start c) t) : Books t :=
  hrun.invariant (of_fresh hfresh) fun _ _ _ h _ hstep => h.step hstep

end Books

end Godspeed.Tcp
