import Godspeed.Lib.Transition
import Godspeed.Tcp.Arena
import Godspeed.Tcp.Owed

/-!
# What a connection delivers

An open connection, a peer with a byte stream, and segments of that stream in any order,
duplicated, overlapping or lost, interleaved with reads and polls.  Beside the connection an
`Intake` keeps the bytes that the reads returned, the stretches of the stream that arrived
and fitted (in the arena, and in the table of stretches when they arrived ahead of a gap),
and how far the windows reach that the peer was told.

`Intake.Delivers` says that the reads return the stream in order and once.  It holds in the
runs in which every segment lies within half of the number space of what is expected, and
does not start before it and end behind it (`Intake.Clear`): a segment of the latter kind is
dropped whole, although its end is new.
-/

namespace Godspeed.Tcp

open Serial Spans Transition List Conn

/-- A connection and what an observer has noted down about its intake. -/
structure Intake where
  conn : Conn
  /-- The bytes that the reads returned. -/
  got : List UInt8
  /-- The stretches of the stream that arrived and fitted. -/
  arrived : List (ℕ × ℕ)
  /-- The place up to which the windows reach that the peer was told. -/
  edge : ℕ

/-- The segment is one of the stream `σ` whose first byte has the number after `irs`: what it
brings is the stream from place `p` on, and its FIN is at the end of the stream. -/
def Seg.OfStream (σ : List UInt8) (irs : Seq) (p : ℕ) (seg : Seg) : Prop :=
  seg.payload = (σ.drop p).take seg.payload.length ∧ p + seg.payload.length ≤ σ.length ∧
    (seg.payload ≠ [] ∨ seg.fin = true → seg.syn = false ∧ seg.seq = num (irs + 1) p) ∧
    (seg.fin = true → p + seg.payload.length = σ.length)

instance (σ : List UInt8) (irs : Seq) (p : ℕ) (seg : Seg) : Decidable (seg.OfStream σ irs p) :=
  inferInstanceAs (Decidable (_ ∧ _ ∧ _ ∧ _))

/-- The connection looks at the data of the segment. -/
def Conn.takes (c : Conn) (seg : Seg) : Bool :=
  c.state.synchronised && c.state != .timeWait && !seg.rst && !c.endsBy seg

namespace Intake

variable (t : Intake)

/-- The places received in order: those read, and those readable. -/
def front : ℕ := t.got.length + t.conn.rcv.len

def limit : ℕ := t.got.length + t.conn.rcv.cap

/-- What of a segment at place `p` fits: the part inside the arena, and out of order only if
the table of stretches has room. -/
def fitted (p : ℕ) (seg : Seg) : List (ℕ × ℕ) :=
  if t.conn.takes seg = true ∧ p < t.limit ∧
      (p ≤ t.front ∨ t.conn.rcv.roomFor seg.seq (min seg.payload.length (t.limit - p)) = true) then
    [(p, min (p + seg.payload.length) t.limit)]
  else []

/-- What a frame tells the peer about the window, in bytes. -/
def told (f : Frame) : ℕ :=
  if f.syn then f.wnd else f.wnd <<< t.conn.rcv.shift

inductive Act
  | segment (now p : ℕ) (seg : Seg)
  | read (k : ℕ)
  | poll (clock : Option ℕ)

/-- One step; only segments of the stream arrive. -/
def step (σ : List UInt8) (irs : Seq) (t : Intake) : Act → Option Intake
  | .segment now p seg =>
    if seg.OfStream σ irs p then
      some { t with
        conn := t.conn.onSegment now seg
        arrived := t.arrived ++ t.fitted p seg }
    else none
  | .read k => some { t with conn := (t.conn.read k).1, got := t.got ++ (t.conn.read k).2 }
  | .poll clock =>
    some { t with
      conn := (t.conn.pollOne clock).1
      edge := max t.edge (((t.conn.pollOne clock).2.map fun f => t.front + t.told f).getD 0) }

/-- The start: the window of our SYN is what the peer was told. -/
def start (c : Conn) : Intake := ⟨c, [], [], min c.rcv.cap 0xffff⟩

/-- The segment lies within half of the number space of what is expected, and does not start
before it and end behind it. -/
def Clear : Act → Prop
  | .segment _ p seg => seg.payload ≠ [] ∨ seg.fin = true →
      p < t.front + 2 ^ 31 ∧ t.front < p + 2 ^ 31 ∧
        (t.front ≤ p ∨ p + seg.payload.length ≤ t.front)
  | _ => True

instance (t : Intake) (a : Act) : Decidable (t.Clear a) := by
  unfold Clear
  split <;> infer_instance

/-- What holds of an intake that delivers the stream. -/
structure Delivers (σ : List UInt8) (irs : Seq) (t : Intake) : Prop where
  /-- The bytes read are the beginning of the stream. -/
  inOrder : t.got <+: σ
  /-- `rcv_nxt` stands behind the places received in order, and a FIN that ends the stream. -/
  expects : ∃ f ≤ 1, t.conn.rcv.nxt = num (irs + 1) (t.front + f) ∧ (f = 1 → t.front = σ.length)
  /-- These places are the longest prefix without a gap of what arrived and fitted. -/
  longest : (∀ q, q < t.front → Covers t.arrived q) ∧ ¬Covers t.arrived t.front
  /-- What arrived, fitted and is not read is in the ring, in the cell of its place. -/
  keeps : ∀ q, t.got.length ≤ q → Covers t.arrived q →
    t.conn.rcv.arena[(t.conn.rcv.head + (q - t.got.length)) % t.conn.rcv.cap]? = σ[q]?
  /-- A segment that is next in order and inside a window the peer was told is taken whole. -/
  whole : t.conn.state ∈ [.established, .finWait1, .finWait2, .closeWait] → ∀ now seg,
    seg.OfStream σ irs t.front → seg.payload ≠ [] → seg.rst = false →
    t.front + seg.payload.length ≤ t.edge →
    t.front + seg.payload.length ≤ t.got.length + (t.conn.onSegment now seg).rcv.len

end Intake

/-- An open connection on which nothing has been received: the handshake has just ended. -/
structure Opened (irs : Seq) (c : Conn) : Prop where
  state : c.state = .established
  nxt : c.rcv.nxt = irs + 1
  len : c.rcv.len = 0
  head : c.rcv.head = 0
  ooo : c.rcv.ooo = []
  arena : 0 < c.rcv.cap

/-! ## The receive side -/

/-- The receive side of a connection against the stream: `g` bytes have been read, `f` counts
the FIN of the peer, and the stretches that arrived are the unread ones and those held. -/
structure Sits (σ : List UInt8) (irs : Seq) (r : Recv) (g : ℕ) (arrived held : List (ℕ × ℕ))
    (f : ℕ) : Prop where
  filed : Filed σ (irs + 1) r g held
  nxt : r.nxt = num (irs + 1) (g + r.len + f)
  fin : f ≤ 1 ∧ (f = 1 → g + r.len = σ.length)
  arrived : ∀ q, Covers arrived q ↔ q < g + r.len ∨ Covers held q

variable {seg : Seg}

namespace Sits

variable {σ : List UInt8} {irs : Seq} {r : Recv} {g : ℕ} {arrived held : List (ℕ × ℕ)} {f : ℕ}

lemma congr (h : Sits σ irs r g arrived held f) {r' : Recv} (harena : r'.arena = r.arena)
    (hlimit : r'.limit = r.limit) (hhead : r'.head = r.head) (hlen : r'.len = r.len)
    (hooo : r'.ooo = r.ooo) (hnxt : r'.nxt = r.nxt) : Sits σ irs r' g arrived held f :=
  ⟨h.filed.congr harena hlimit hhead hlen hooo, by rw [hnxt, hlen]; exact h.nxt,
    by rw [hlen]; exact h.fin, by rw [hlen]; exact h.arrived⟩

lemma add (h : Sits σ irs r g arrived held f) {more : List (ℕ × ℕ)}
    (hmore : ∀ q, Covers more q → q < g + r.len) : Sits σ irs r g (arrived ++ more) held f := by
  refine ⟨h.filed, h.nxt, h.fin, fun q => ?_⟩
  rw [covers_append, h.arrived q]
  constructor
  · rintro (hold | hq)
    · exact hold
    · exact .inl (hmore q hq)
  · exact .inl

/-- The part of a segment at place `p` that fits. -/
def stretch (r : Recv) (g p : ℕ) (seg : Seg) : List (ℕ × ℕ) :=
  if p < g + r.cap ∧ (p ≤ g + r.len ∨
      r.roomFor seg.seq (min seg.payload.length (g + r.cap - p)) = true) then
    [(p, min (p + seg.payload.length) (g + r.cap))]
  else []

lemma covers_stretch {p q : ℕ} : Covers (stretch r g p seg) q ↔ (p < g + r.cap ∧ (p ≤ g + r.len ∨
      r.roomFor seg.seq (min seg.payload.length (g + r.cap - p)))) ∧
      p ≤ q ∧ q < min (p + seg.payload.length) (g + r.cap) := by
  unfold stretch
  split
  next hfits =>
    simp [Covers, hfits]
  next hfits =>
    simp [Covers, hfits]

end Sits

/-- A segment of the stream that is near to what is expected, and does not start before it and
end behind it. -/
structure Comes (σ : List UInt8) (irs : Seq) (front p : ℕ) (seg : Seg) : Prop where
  data : ∀ j, j < seg.payload.length → seg.payload[j]? = σ[p + j]?
  inside : p + seg.payload.length ≤ σ.length
  seq : seg.seq = num (irs + 1) p
  above : p < front + 2 ^ 31
  below : front < p + 2 ^ 31
  clear : front ≤ p ∨ p + seg.payload.length ≤ front

lemma Seg.OfStream.comes {σ : List UInt8} {irs : Seq} {p front : ℕ}
    (h : seg.OfStream σ irs p) (hbrings : seg.payload ≠ [] ∨ seg.fin)
    (hclear : p < front + 2 ^ 31 ∧ front < p + 2 ^ 31 ∧
      (front ≤ p ∨ p + seg.payload.length ≤ front)) : Comes σ irs front p seg := by
  obtain ⟨hdata, hin, hseq, -⟩ := h
  refine ⟨fun j hj => ?_, hin, (hseq hbrings).2, hclear.1, hclear.2.1, hclear.2.2⟩
  rw [hdata, getElem?_take_of_lt hj, getElem?_drop]

namespace Sits

variable {σ : List UInt8} {irs : Seq} {r : Recv} {g : ℕ} {arrived held : List (ℕ × ℕ)} {f : ℕ}
  {p : ℕ} {seg : Seg} {c : Conn}

/-- A segment with data that is not next in order, and not inside the window ahead, brings
nothing that fits. -/
lemma dropped (h : Sits σ irs r g arrived held f) (hcome : Comes σ irs (g + r.len) p seg)
    (hseq : seg.seq ≠ r.nxt) (hout : ¬((seqGt seg.seq r.nxt &&
      seqLt seg.seq (r.nxt + BitVec.ofNat 32 r.window)))) :
    Sits σ irs r g (arrived ++ stretch r g p seg) held f := by
  have hcap := r.cap_le.2
  have hwin : r.window ≤ r.cap := Nat.sub_le _ _
  obtain ⟨hf, hend⟩ := h.fin
  obtain ⟨-, hin, hnum, habove, hbelow, hclear⟩ := hcome
  rw [rcvBig] at hcap
  have hne : p ≠ g + r.len + f := by
    rintro rfl
    exact hseq (hnum.trans h.nxt.symm)
  have hgt := after_num_iff (irs + 1) (p := p) (q := g + r.len + f) (by omega) (by omega)
  refine h.add fun q hq => ?_
  obtain ⟨⟨hlimit, -⟩, hle, hlt⟩ := covers_stretch.mp hq
  by_cases hahead : g + r.len + f < p
  · -- ahead of what is expected, so outside of the window
    have hlt := before_num_iff (irs + 1) (p := p) (q := g + r.len + f + r.window) (by omega)
      (by omega)
    have hbeyond : ¬p < g + r.len + f + r.window := by
      intro hinside
      refine hout ?_
      rw [hnum, h.nxt, ← num_add, Bool.and_eq_true]
      exact ⟨hgt.mpr hahead, hlt.mpr hinside⟩
    rw [Recv.window] at hbeyond
    omega
  · -- before what is expected, so nothing of it is new
    omega

/-- **The data of a segment.** -/
theorem takeData (h : Sits σ irs c.rcv g arrived held f) (hcome : Comes σ irs (g + c.rcv.len) p seg)
    (hstate : c.state ≠ .timeWait) (hdata : seg.payload ≠ []) :
    ∃ held', Sits σ irs (c.takeData seg).1.rcv g (arrived ++ stretch c.rcv g p seg) held' f ∧
      (c.takeData seg).1.rcv.cap = c.rcv.cap ∧
      (p = g + c.rcv.len →
        c.rcv.len + min seg.payload.length c.rcv.window ≤ (c.takeData seg).1.rcv.len) ∧
      c.rcv.len ≤ (c.takeData seg).1.rcv.len := by
  have hpos : 0 < seg.payload.length := length_pos_of_ne_nil hdata
  have hcap := c.rcv.cap_le.2
  have hwin : c.rcv.window = c.rcv.cap - c.rcv.len := rfl
  obtain ⟨hf, hend⟩ := h.fin
  have hinside := hcome.inside
  have habove := hcome.above
  have hbelow := hcome.below
  rw [rcvBig] at hcap
  unfold Conn.takeData
  rw [if_neg (by simp [hdata, hstate])]
  split
  · -- next in order
    rename_i hseq
    have hplace : p = g + c.rcv.len + f :=
      (num_inj (irs + 1) (by omega) (by omega)).mp (hcome.seq.symm.trans (hseq.trans h.nxt))
    obtain rfl : f = 0 := by omega
    subst hplace
    obtain ⟨held', hfiled, hnxt, hcap', hmore, hcov⟩ :=
      h.filed.deliver h.nxt hdata hcome.data hinside
    rw [← hseq] at hfiled hnxt hcap' hmore hcov
    refine ⟨held', ⟨hfiled.congr rfl rfl rfl rfl rfl, hnxt, ⟨by omega, by omega⟩, fun q => ?_⟩,
      hcap', fun _ => hmore, le_trans (Nat.le_add_right _ _) hmore⟩
    rw [covers_append, covers_stretch, h.arrived q]
    refine Iff.trans (or_congr_right ?_) (hcov q).symm
    constructor
    · rintro ⟨-, hle, hlt⟩
      omega
    · rintro ⟨hle, hlt⟩
      exact ⟨⟨by omega, .inl le_rfl⟩, hle, by omega⟩
  next hseq =>
    split
    · -- ahead of a gap, inside the window
      rename_i hahead
      rw [hcome.seq, h.nxt, ← num_add, Bool.and_eq_true] at hahead
      have hgt := (after_num_iff (irs + 1) (by omega) (by omega)).mp hahead.1
      have hlt := (before_num_iff (irs + 1) (by omega) (by omega)).mp hahead.2
      obtain rfl : f = 0 := by omega
      have hgap : p ≠ g + c.rcv.len := by omega
      by_cases hroom : c.rcv.roomFor (num (irs + 1) p) (min seg.payload.length (g + c.rcv.cap - p))
      · obtain ⟨held', hfiled, hnxt, hlen, hcap', hcov⟩ := h.filed.holdOoo h.nxt (by omega)
          (by omega) hdata hcome.data hinside hroom
        rw [← hcome.seq] at hfiled hnxt hlen hcap'
        refine ⟨held', ⟨hfiled, ?_, ⟨by omega, by omega⟩, fun q => ?_⟩, hcap',
          fun hp => absurd hp hgap, hlen.ge⟩
        · simp only
          rw [hnxt, hlen]
          exact h.nxt
        · simp only
          rw [covers_append, covers_stretch, h.arrived q, hlen, hcov q, or_assoc]
          refine or_congr_right (or_congr_right ?_)
          constructor
          · rintro ⟨-, hle, hlt'⟩
            omega
          · rintro ⟨hle, hlt'⟩
            exact ⟨⟨by omega, .inr (hcome.seq ▸ hroom)⟩, hle, by omega⟩
      · -- no entry is left in the table: the segment is dropped
        have hsame : c.rcv.holdOoo seg.seq seg.payload = c.rcv := by
          rw [hcome.seq, h.filed.holdOoo_eq h.nxt (by omega) (by omega) hdata, if_neg hroom]
        rw [hsame]
        refine ⟨held, h.add fun q hq => ?_, rfl, fun hp => absurd hp hgap, le_rfl⟩
        obtain ⟨⟨-, hle | hyes⟩, -⟩ := covers_stretch.mp hq
        · omega
        · exact absurd (hcome.seq ▸ hyes) hroom
    next hout =>
      refine ⟨held, h.dropped hcome hseq hout, rfl, fun hp => ?_, le_rfl⟩
      -- next in order, and yet not the number expected: the stream has ended
      have hone : f = 1 := by
        by_contra hzero
        have : f = 0 := by omega
        subst this
        exact hseq (by rw [hcome.seq, hp, h.nxt, add_zero])
      omega

lemma takeFin (h : Sits σ irs c.rcv g arrived held f) {front : ℕ} (now : ℕ)
    (hfront : front ≤ g + c.rcv.len)
    (hcome : seg.fin → Comes σ irs front p seg ∧ p + seg.payload.length = σ.length) :
    ∃ f', Sits σ irs (c.takeFin now seg).1.rcv g arrived held f' ∧
      (c.takeFin now seg).1.rcv.cap = c.rcv.cap ∧ (c.takeFin now seg).1.rcv.len = c.rcv.len := by
  have hrcv : (c.takeFin now seg).1.rcv =
      if seg.fin ∧ seg.finSeq = c.rcv.nxt then { c.rcv with nxt := c.rcv.nxt + 1 }
      else c.rcv := by
    unfold Conn.takeFin
    split
    · dsimp only
      split <;> rfl
    · rfl
  rw [hrcv]
  split
  next hfin =>
    obtain ⟨hcome, hlast⟩ := hcome hfin.1
    obtain ⟨hf, hend⟩ := h.fin
    have hbound := seg.bounded
    have hread := h.filed.read
    have habove := hcome.above
    have hplace : σ.length = g + c.rcv.len + f := by
      refine (num_inj (irs + 1) (by omega) (by omega)).mp ?_
      rw [← h.nxt, ← hfin.2, Seg.finSeq, hcome.seq, ← num_add, hlast]
    obtain rfl : f = 0 := by omega
    refine ⟨1, ⟨h.filed.congr rfl rfl rfl rfl rfl, ?_, ⟨le_rfl, fun _ => hplace.symm⟩,
      h.arrived⟩, rfl, rfl⟩
    rw [num_succ, ← add_zero (g + c.rcv.len), ← h.nxt]
  · exact ⟨f, h, rfl, rfl⟩

/-- What a segment at place `p` makes of the receive side `r`, looked at or not: nothing else
than the part that fits is added, and data that is next in order fills the window. -/
def Takes (σ : List UInt8) (irs : Seq) (r : Recv) (g : ℕ) (arrived : List (ℕ × ℕ)) (p : ℕ)
    (seg : Seg) (looks : Bool) (r' : Recv) : Prop :=
  ∃ held f, Sits σ irs r' g (arrived ++ if looks then stretch r g p seg else []) held f ∧
    r'.cap = r.cap ∧
    (p = g + r.len → seg.payload ≠ [] → looks = true →
      r.len + min seg.payload.length r.window ≤ r'.len)

lemma takes_nothing (h : Sits σ irs r g arrived held f) (p : ℕ) (seg : Seg) :
    Takes σ irs r g arrived p seg false r :=
  ⟨held, f, h.add (by simp [Covers]), rfl, fun _ _ hyes => absurd hyes Bool.false_ne_true⟩

/-- **The data and the FIN of a segment.** -/
theorem takeText (h : Sits σ irs c.rcv g arrived held f) (now : ℕ) (hof : seg.OfStream σ irs p)
    (hcome : seg.payload ≠ [] ∨ seg.fin → Comes σ irs (g + c.rcv.len) p seg) :
    Takes σ irs c.rcv g arrived p seg (c.state != .timeWait) (c.takeText now seg).rcv := by
  have hdata : Takes σ irs c.rcv g arrived p seg (c.state != .timeWait) (c.takeData seg).1.rcv ∧
      c.rcv.len ≤ (c.takeData seg).1.rcv.len := by
    by_cases hwait : c.state = .timeWait
    · have hsame : (c.takeData seg).1 = c := by
        unfold Conn.takeData
        rw [if_pos (.inr hwait)]
      rw [hsame, hwait]
      exact ⟨h.takes_nothing p seg, le_rfl⟩
    have hlooks : (c.state != .timeWait) := by simpa using hwait
    rw [hlooks]
    by_cases hempty : seg.payload = []
    · have hsame : (c.takeData seg).1 = c := by
        unfold Conn.takeData
        rw [if_pos (.inl hempty)]
      rw [hsame]
      refine ⟨⟨held, f, h.add fun q hq => ?_, rfl, fun _ hne => absurd hempty hne⟩, le_rfl⟩
      obtain ⟨-, hle, hlt⟩ := covers_stretch.mp hq
      rw [hempty, length_nil] at hlt
      omega
    · obtain ⟨held', hsits, hcap, hwhole, hlen⟩ :=
        h.takeData (hcome (.inl hempty)) hwait hempty
      exact ⟨⟨held', f, hsits, hcap, fun hp _ _ => hwhole hp⟩, hlen⟩
  obtain ⟨⟨held', f', hsits, hcap, hwhole⟩, hlen⟩ := hdata
  obtain ⟨f'', hsits', hcap', hlen'⟩ := hsits.takeFin now (Nat.add_le_add_left hlen g)
    fun hfin => ⟨hcome (.inr hfin), hof.2.2.2 hfin⟩
  rw [takeText_rcv]
  exact ⟨held', f'', hsits', hcap'.trans hcap, fun hp hne hyes => hlen' ▸ hwhole hp hne hyes⟩

/-- **A segment on a connection that is open.** -/
theorem onSegment (h : Sits σ irs c.rcv g arrived held f) (now : ℕ)
    (hstate : c.state.synchronised ∨ c.state = .closed) (hof : seg.OfStream σ irs p)
    (hcome : seg.payload ≠ [] ∨ seg.fin → Comes σ irs (g + c.rcv.len) p seg) :
    Takes σ irs c.rcv g arrived p seg (c.takes seg) (c.onSegment now seg).rcv := by
  -- when the data is not looked at, the receive side stays
  have hstays : ∀ {r'}, r' = c.rcv → c.takes seg = false →
      Takes σ irs c.rcv g arrived p seg (c.takes seg) r' := by
    intro r' hsame htakes
    rw [hsame, htakes]
    exact h.takes_nothing p seg
  have hlooks : ∀ d : Conn, d.rcv = c.rcv → (d.state != .timeWait) = c.takes seg →
      Takes σ irs c.rcv g arrived p seg (c.takes seg) (d.takeText now seg).rcv := by
    intro d hrcv htakes
    rw [← hrcv] at h hcome
    have htext := h.takeText now hof hcome
    rwa [hrcv, htakes] at htext
  rcases hstate with hsync | hclosed
  swap
  · refine hstays ?_ (by simp [takes, hclosed, State.synchronised])
    unfold Conn.onSegment
    rw [if_pos hclosed]
  have hlive : c.state ≠ .closed := by
    intro hclosed
    simp [hclosed, State.synchronised] at hsync
  by_cases hrst : seg.rst
  · refine hstays ?_ (by simp [takes, hrst])
    unfold Conn.onSegment
    rw [if_neg hlive, if_pos hrst]
  rw [Bool.not_eq_true] at hrst
  rw [onSegment_of_synchronised now hsync hrst]
  unfold synchronised
  cases hack : seg.ack with
  | false =>
    simp only [Bool.false_eq_true, if_false]
    rw [if_neg hlive]
    exact hlooks c rfl (by simp [takes, hsync, hrst, endsBy, hack])
  | true =>
    rw [if_pos rfl]
    by_cases hends : c.endsBy seg
    · rw [if_pos ((takeAck_closed_iff now hsync hack).mpr hends)]
      exact hstays (takeAck_rcv ..) (by simp [takes, hends])
    rw [if_neg (mt (takeAck_closed_iff now hsync hack).mp hends)]
    refine hlooks _ (takeAck_rcv ..) ?_
    have hwait := takeAck_timeWait_iff c now seg
    rw [Bool.eq_iff_iff]
    simp [takes, hsync, hrst, hends, hwait]

end Sits

/-! ## The invariant of a run -/

lemma onSegment_open {c : Conn} (now : ℕ) (h : c.state.synchronised ∨ c.state = .closed) :
    (c.onSegment now seg).state.synchronised ∨ (c.onSegment now seg).state = .closed := by
  rcases h with hsync | hclosed
  · cases hrst : seg.rst with
    | false =>
      rw [onSegment_of_synchronised now hsync hrst]
      exact synchronised_state now hsync
    | true =>
      unfold onSegment
      split
      · exact .inl hsync
      · exact .inr rfl
  · unfold onSegment
    rw [if_pos hclosed]
    exact .inr hclosed

lemma pollOne_open {c : Conn} (clock : Option ℕ) (h : c.state.synchronised ∨ c.state = .closed) :
    (c.pollOne clock).1.state.synchronised ∨ (c.pollOne clock).1.state = .closed := by
  have hexpire : (c.expire clock).state.synchronised ∨ (c.expire clock).state = .closed := by
    unfold expire
    split
    · split
      · exact .inr rfl
      · exact .inr rfl
      · exact .inr rfl
      · exact h
    · exact h
  unfold pollOne
  split
  · exact h
  dsimp only
  split
  · exact hexpire
  cases pollLive_sends clock (c.expire clock) with
  | quiet _ hstate =>
    rcases hstate with hsame | hgone
    · rwa [hsame]
    · exact .inr hgone.1
  | resend _ _ _ hstate | fresh _ _ _ _ hstate => rwa [hstate]
  | fin _ _ _ _ hstate =>
    refine .inl ?_
    rcases hstate with hfin | hlast
    · rw [hfin]
      rfl
    · rw [hlast]
      rfl

namespace Intake

variable {σ : List UInt8} {irs : Seq} {t : Intake} {c : Conn}

structure Holds (σ : List UInt8) (irs : Seq) (t : Intake) : Prop where
  state : t.conn.state.synchronised = true ∨ t.conn.state = .closed
  sits : ∃ held f, Sits σ irs t.conn.rcv t.got.length t.arrived held f
  got : t.got = σ.take t.got.length
  edge : t.edge ≤ t.limit

lemma Holds.of_opened (h : Opened irs c) : (start c).Holds σ irs := by
  refine ⟨.inl (by rw [start, h.state]; rfl), ⟨[], 0, ⟨h.arena, ?_, ?_, ?_, ?_, ?_, ?_, ?_⟩,
    ?_, ⟨Nat.zero_le 1, by simp⟩, ?_⟩, by simp [start], ?_⟩
  · simp [start, h.head]
  · simp [start, h.len]
  · simp [Inside]
  · simp [start, h.ooo, number]
  · simp [start, h.len]
  · simp
  · simp [start, h.len, Covers]
  · simp [start, h.len, h.nxt]
  · simp [start, h.len]
  · simp [start, limit]

lemma told_le {f : Frame} (hwnd : f.wnd = c.rcv.field f.syn) :
    (if f.syn then f.wnd else f.wnd <<< c.rcv.shift) ≤ c.rcv.window := by
  rw [hwnd]
  cases f.syn with
  | true => exact min_le_left _ _
  | false =>
    simp only [Recv.field, Nat.shiftLeft_eq, Nat.shiftRight_eq_div_pow]
    calc min (c.rcv.window / 2 ^ c.rcv.shift) 0xffff * 2 ^ c.rcv.shift
        ≤ c.rcv.window / 2 ^ c.rcv.shift * 2 ^ c.rcv.shift :=
          Nat.mul_le_mul_right _ (min_le_left _ _)
      _ ≤ c.rcv.window := Nat.div_mul_le_self _ _

lemma Holds.read (h : t.Holds σ irs) (k : ℕ) :
    Holds σ irs { t with conn := (t.conn.read k).1, got := t.got ++ (t.conn.read k).2 } := by
  obtain ⟨hstate, ⟨held, f, hsits⟩, hgot, hedge⟩ := h
  obtain ⟨hbytes, hfiled, hfront⟩ := hsits.filed.pop k
  have hread := hsits.filed.read
  have hlen : (t.got ++ (t.conn.read k).2).length = t.got.length + min k t.conn.rcv.len := by
    rw [length_append]
    change _ + (t.conn.rcv.pop k).2.length = _
    rw [hbytes, length_take, length_drop]
    omega
  refine ⟨hstate, ⟨held, f, ?_, ?_, ?_, ?_⟩, ?_, ?_⟩
  · simp only [hlen]
    exact hfiled
  · simp only [hlen]
    exact hsits.nxt.trans (by rw [← hfront]; rfl)
  · simp only [hlen]
    exact ⟨hsits.fin.1, fun hone => hfront.trans (hsits.fin.2 hone)⟩
  · simp only [hlen]
    intro q
    rw [hsits.arrived q, ← hfront]
    rfl
  · simp only [hlen]
    rw [take_add, ← hbytes, ← hgot]
    rfl
  · refine le_trans hedge ?_
    simp only [limit]
    have hcap : (t.conn.read k).1.rcv.cap = t.conn.rcv.cap := rfl
    omega

lemma Holds.poll (h : t.Holds σ irs) (clock : Option ℕ) : Holds σ irs { t with
      conn := (t.conn.pollOne clock).1
      edge := max t.edge (((t.conn.pollOne clock).2.map fun f => t.front + t.told f).getD 0) } := by
  obtain ⟨hstate, ⟨held, f, hsits⟩, hgot, hedge⟩ := h
  obtain ⟨⟨owed, adv, hrcv⟩, hwnd⟩ := pollOne_tells clock t.conn
  refine ⟨pollOne_open clock hstate, ⟨held, f, ?_⟩, hgot, ?_⟩
  · simp only [hrcv]
    exact hsits.congr rfl rfl rfl rfl rfl rfl
  have hlimit : t.got.length + (t.conn.pollOne clock).1.rcv.cap = t.limit := by
    rw [hrcv]
    rfl
  change max t.edge _ ≤ t.got.length + (t.conn.pollOne clock).1.rcv.cap
  rw [hlimit]
  refine Nat.max_le.mpr ⟨hedge, ?_⟩
  cases hframe : (t.conn.pollOne clock).2 with
  | none => exact Nat.zero_le _
  | some f =>
    have htold := told_le (hwnd f hframe)
    have hfits := hsits.filed.fits
    simp only [Option.map_some, Option.getD_some, front, told, limit]
    rw [Recv.window] at htold
    omega

lemma fitted_eq (t : Intake) (p : ℕ) (seg : Seg) : t.fitted p seg =
    if t.conn.takes seg then Sits.stretch t.conn.rcv t.got.length p seg else [] := by
  unfold fitted Sits.stretch limit front
  by_cases htakes : t.conn.takes seg
  · simp only [htakes, true_and, if_true]
  · simp [htakes]

lemma Holds.segment (h : t.Holds σ irs) {now p : ℕ} (hof : seg.OfStream σ irs p)
    (hclear : t.Clear (.segment now p seg)) :
    Holds σ irs { t with
      conn := t.conn.onSegment now seg
      arrived := t.arrived ++ t.fitted p seg } := by
  obtain ⟨hstate, ⟨held, f, hsits⟩, hgot, hedge⟩ := h
  obtain ⟨held', f', hsits', hcap, -⟩ := hsits.onSegment now hstate hof
    fun hbrings => hof.comes hbrings (hclear hbrings)
  refine ⟨onSegment_open now hstate, ⟨held', f', ?_⟩, hgot, ?_⟩
  · rw [fitted_eq]
    exact hsits'
  · change t.edge ≤ t.got.length + (t.conn.onSegment now seg).rcv.cap
    rw [hcap]
    exact hedge

lemma Holds.step (h : t.Holds σ irs) {a : Act} (hclear : t.Clear a) {t' : Intake}
    (hstep : Intake.step σ irs t a = some t') : t'.Holds σ irs := by
  cases a with
  | segment now p seg =>
    simp only [Intake.step] at hstep
    split at hstep
    next hof =>
      cases hstep
      exact h.segment hof hclear
    · cases hstep
  | read k =>
    cases hstep
    exact h.read k
  | poll clock =>
    cases hstep
    exact h.poll clock

lemma Holds.of_reaches (hopen : Opened irs c)
    (hrun : Reaches (Intake.step σ irs) Clear (start c) t) : t.Holds σ irs :=
  hrun.invariant (.of_opened hopen) fun _ _ _ h hclear hstep => h.step hclear hstep

lemma Holds.delivers (h : t.Holds σ irs) : t.Delivers σ irs := by
  obtain ⟨hstate, ⟨held, f, hsits⟩, hgot, hedge⟩ := h
  have hfiled := hsits.filed
  refine ⟨?_, ⟨f, hsits.fin.1, hsits.nxt, hsits.fin.2⟩, ⟨fun q hq => ?_, fun hcov => ?_⟩,
    fun q hle hcov => ?_, fun hopen now seg hof hne hrst hin => ?_⟩
  · rw [hgot]
    exact take_prefix _ _
  · exact (hsits.arrived q).mpr (.inl hq)
  · rcases (hsits.arrived t.front).mp hcov with hlt | hheld
    · exact lt_irrefl _ hlt
    · exact lt_irrefl _ (hfiled.covers_lt hheld).1
  · have hcell : (t.conn.rcv.head + (q - t.got.length)) % t.conn.rcv.cap = q % t.conn.rcv.cap := by
      rw [hfiled.head, Nat.mod_add_mod, Nat.add_sub_cancel' hle]
    rw [hcell]
    exact hfiled.shows q hle ((hsits.arrived q).mp hcov)
  · have htakes : t.conn.takes seg := by
      simp only [mem_cons, not_mem_nil, or_false] at hopen
      rcases hopen with hs | hs | hs | hs <;>
        simp [takes, endsBy, hs, hrst, State.synchronised]
    obtain ⟨-, -, -, -, hwhole⟩ := hsits.onSegment now hstate hof fun hbrings => hof.comes hbrings
        ⟨Nat.lt_add_of_pos_right (by decide), Nat.lt_add_of_pos_right (by decide), .inl le_rfl⟩
    have hfull := hwhole rfl hne htakes
    have hwindow : seg.payload.length ≤ t.conn.rcv.window := by
      rw [limit] at hedge
      rw [front] at hin
      rw [Recv.window]
      omega
    rw [front]
    omega

end Intake

/-- **The stream is delivered in order and once.**  In every run in which no segment straddles
what is expected, what is read is the beginning of the stream, `rcv_nxt` stands behind the
longest prefix that arrived and fitted, what is in the ring stays there, and what is next in
order and inside a window told is taken whole. -/
theorem stream_delivered {σ : List UInt8} {irs : Seq} {c : Conn} {t : Intake}
    (hopen : Opened irs c) (hrun : Reaches (Intake.step σ irs) Intake.Clear (Intake.start c) t) :
    t.Delivers σ irs :=
  (Intake.Holds.of_reaches hopen hrun).delivers

/-- A stream of four bytes, the last two ahead of the first two, and a read. -/
def outOfOrder : List Intake.Act :=
  [.segment 10 2 (peerSeg 503 101 false true false [3, 4]),
    .segment 20 0 (peerSeg 501 101 false true false [1, 2]), .poll (some 21), .read 3]

theorem stream_delivered_dialled : ∃ t, Reaches (Intake.step [1, 2, 3, 4] 500) Intake.Clear
    (Intake.start dialled) t ∧ t.got = [1, 2, 3] ∧ t.Delivers [1, 2, 3, 4] 500 := by
  exact exists_reaches_and outOfOrder (by decide) fun _ hrun _ =>
    stream_delivered ⟨by decide, by decide, by decide, by decide, by decide, by decide⟩ hrun

/-- The first two bytes, and then the stream from the second byte on. -/
def straddling : List Intake.Act :=
  [.segment 10 0 (peerSeg 501 101 false true false [1, 2]),
    .segment 20 1 (peerSeg 502 101 false true false [2, 3, 4])]

/-- The second segment lies inside the window and is dropped whole: `rcv_nxt` stays behind the
second byte, although all four have arrived. -/
theorem straddling_dropped : ∃ t, Reaches (Intake.step [1, 2, 3, 4] 500) Free
    (Intake.start dialled) t ∧ t.edge = 16 ∧ t.conn.rcv.nxt = num (500 + 1) 2 ∧
      (∀ q < 4, Covers t.arrived q) ∧ ¬t.Delivers [1, 2, 3, 4] 500 := by
  obtain ⟨t, hrun, hedge, hnxt, hfront, harrived⟩ :
      ∃ t, Reaches (Intake.step [1, 2, 3, 4] 500) Free (Intake.start dialled) t ∧ t.edge = 16 ∧
        t.conn.rcv.nxt = num (500 + 1) 2 ∧ t.front = 2 ∧ t.arrived = [(0, 2), (1, 4)] :=
    exists_reaches straddling (by decide)
  refine ⟨t, hrun, hedge, hnxt, fun q hq => ?_, fun hdelivers => hdelivers.longest.2 ?_⟩
  · rw [harrived, covers_cons]
    by_cases hlow : q < 2
    · exact .inl ⟨Nat.zero_le q, hlow⟩
    · exact .inr ⟨(1, 4), by simp, by omega, hq⟩
  · rw [hfront, harrived]
    exact ⟨(1, 4), by simp, by decide, by decide⟩

end Godspeed.Tcp
