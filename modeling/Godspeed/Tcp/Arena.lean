import Godspeed.Tcp.Conn

/-!
# The receive arena and the peer's stream

The receive arena of a connection against the byte stream of its peer.  The first `g` bytes
of the stream have been read; `Filed` says that the arena holds, each in the cell of its
place, the bytes that are received and not read, and beyond them the stretches `held` that
arrived out of order.

Reading, delivering in order and holding out of order keep the relation (`Filed.pop`,
`Filed.deliver`, `Filed.holdOoo`), and each of the two that take data says which places it
adds.  Nothing here knows about the states of the protocol.
-/

namespace Godspeed.Tcp

open Serial Spans List Recv

/-- The arena `r` holds the stream `σ`, whose first byte has number `s`: `g` bytes have been
read, and the stretches of `held` lie beyond the unread ones. -/
structure Filed (σ : List UInt8) (s : Seq) (r : Recv) (g : ℕ) (held : List (ℕ × ℕ)) : Prop where
  pos : 0 < r.cap
  head : r.head = g % r.cap
  fits : r.len ≤ r.cap
  inside : Inside (g + r.len + 1) (g + r.cap) held
  ooo : r.ooo = number s held
  read : g + r.len ≤ σ.length
  ends : ∀ x ∈ held, x.2 ≤ σ.length
  shows : ∀ q, g ≤ q → q < g + r.len ∨ Covers held q → r.arena[q % r.cap]? = σ[q]?

/-- The table of stretches takes one more from `seq` on: it has an entry left, or the stretch
meets one that is there. -/
def Recv.roomFor (r : Recv) (seq : Seq) (n : ℕ) : Bool :=
  r.ooo.length != maxOoo || r.ooo.any (meets seq (seq + BitVec.ofNat 32 n))

lemma Recv.cap_le (r : Recv) : r.cap ≤ r.arena.length ∧ r.cap ≤ rcvBig := by
  unfold cap
  omega

namespace Filed

variable {σ : List UInt8} {s : Seq} {r : Recv} {g : ℕ} {held : List (ℕ × ℕ)} {data : List UInt8}
  {p : ℕ}

lemma span (_ : Filed σ s r g held) : 2 * (g + r.cap) < 2 * g + 2 ^ 32 := by
  have := r.cap_le.2
  rw [rcvBig] at this
  omega

section

variable (h : Filed σ s r g held)
include h

/-- The places held lie beyond what is received in order, and within the arena. -/
lemma covers_lt {q : ℕ} (hq : Covers held q) : g + r.len < q ∧ q < g + r.cap := by
  obtain ⟨x, hx, hle, hlt⟩ := hq
  obtain ⟨hlo, -, hhi⟩ := h.inside x hx
  omega

lemma congr {r' : Recv} (harena : r'.arena = r.arena)
    (hlimit : r'.limit = r.limit) (hhead : r'.head = r.head) (hlen : r'.len = r.len)
    (hooo : r'.ooo = r.ooo) : Filed σ s r' g held := by
  have hcap : r'.cap = r.cap := by rw [cap, cap, harena, hlimit]
  exact ⟨hcap ▸ h.pos, by rw [hhead, hcap]; exact h.head, by rw [hlen, hcap]; exact h.fits,
    by rw [hlen, hcap]; exact h.inside, by rw [hooo]; exact h.ooo, by rw [hlen]; exact h.read,
    h.ends, by rw [hlen, hcap, harena]; exact h.shows⟩

/-! ## Reading -/

/-- **A read** returns the next bytes of the stream. -/
theorem pop (k : ℕ) : (r.pop k).2 = (σ.drop g).take (min k r.len) ∧
      Filed σ s (r.pop k).1 (g + min k r.len) held ∧
      g + min k r.len + (r.pop k).1.len = g + r.len := by
  have hcap := r.cap_le.1
  have hfits := h.fits
  have hread := h.read
  refine ⟨?_, ⟨h.pos, ?_, ?_, ?_, h.ooo, ?_, h.ends, ?_⟩, ?_⟩
  · change Ring.get r.cap r.arena r.head (min k r.len) = _
    rw [h.head]
    exact Ring.get_eq_slice h.pos hcap (by omega) fun q hle hlt => h.shows q hle (.inl (by omega))
  · change (r.head + min k r.len) % r.cap = _
    rw [h.head, Nat.mod_add_mod]
    rfl
  · change r.len - min k r.len ≤ r.cap
    omega
  · intro x hx
    have hin := h.inside x hx
    change g + min k r.len + (r.len - min k r.len) + 1 ≤ x.1 ∧ x.1 < x.2 ∧
      x.2 ≤ g + min k r.len + r.cap
    omega
  · change g + min k r.len + (r.len - min k r.len) ≤ σ.length
    omega
  · intro q hle hq
    refine h.shows q (by omega) ?_
    rcases hq with hlt | hq
    · change q < g + min k r.len + (r.len - min k r.len) at hlt
      exact .inl (by omega)
    · exact .inr hq
  · change g + min k r.len + (r.len - min k r.len) = g + r.len
    omega

/-! ## Placing -/

omit h in
lemma place_keeps (r : Recv) (off : ℕ) (data : List UInt8) :
    (r.place off data).1 = { r with arena := (r.place off data).1.arena } := by
  unfold place
  dsimp only
  split <;> rfl

omit h in
lemma place_count (r : Recv) (off : ℕ) (data : List UInt8) :
    (r.place off data).2 = min data.length (r.window - off) := by
  unfold place window
  dsimp only
  split
  next hfull =>
    omega
  · rfl

/-- **The cells after placing** a piece of the stream `off` places beyond what is received:
the cells of its places hold it, and no other place of the arena is touched. -/
theorem place_shows {off : ℕ} (hdata : ∀ j, j < data.length → data[j]? = σ[g + r.len + off + j]?) :
    (r.place off data).1.cap = r.cap ∧ ∀ q, g ≤ q → q < g + r.cap →
        (g + r.len + off ≤ q ∧ q < g + r.len + off + (r.place off data).2 →
          (r.place off data).1.arena[q % r.cap]? = σ[q]?) ∧
        (¬(g + r.len + off ≤ q ∧ q < g + r.len + off + (r.place off data).2) →
          (r.place off data).1.arena[q % r.cap]? = r.arena[q % r.cap]?) := by
  have hcap := r.cap_le.1
  have hcount := place_count r off data
  rw [window] at hcount
  by_cases hfull : off ≥ r.cap - r.len
  · have hplace : r.place off data = (r, 0) := by
      unfold place
      exact if_pos hfull
    rw [hplace]
    exact ⟨rfl, fun q _ _ => ⟨fun hin => absurd hin (by omega), fun _ => rfl⟩⟩
  have hplace : (r.place off data).1.arena = Ring.put r.cap r.arena
      ((g + r.len + off) % r.cap) (data.take (min data.length (r.cap - r.len - off))) := by
    unfold place
    rw [if_neg hfull, h.head, add_assoc, Nat.mod_add_mod, ← add_assoc]
  have hlen : (data.take (min data.length (r.cap - r.len - off))).length =
      min data.length (r.cap - r.len - off) := by
    rw [length_take]
    omega
  have hlength : (r.place off data).1.arena.length = r.arena.length := by
    rw [hplace]
    exact Ring.length_put (le_of_lt (Nat.mod_lt _ h.pos)) hcap (by omega)
  refine ⟨?_, fun q hge hlt => ?_⟩
  · rw [place_keeps, cap, cap, hlength]
  rw [hplace, hcount]
  rcases lt_or_ge q (g + r.len + off) with hbelow | habove
  · rw [Ring.getElem?_put_below h.pos hcap hbelow (by omega)]
    exact ⟨fun hin => absurd hin (by omega), fun _ => rfl⟩
  rw [Ring.getElem?_put h.pos hcap (by omega) habove (by omega), hlen]
  constructor
  · intro hin
    rw [if_pos hin.2, getElem?_take_of_lt (by omega), hdata _ (by omega)]
    congr 1
    omega
  · intro hout
    rw [if_neg (by omega)]

/-! ## Delivering -/

omit h in
lemma front_le {p' : ℕ} (hp : p ≤ σ.length) (hends : ∀ x ∈ held, x.2 ≤ σ.length)
    (hcov : ∀ q, q < p' → q < p ∨ Covers held q) : p' ≤ σ.length := by
  by_contra hlong
  rcases hcov σ.length (by omega) with hlt | ⟨x, hx, -, hlt⟩
  · omega
  · have := hends x hx
    omega

/-- **In-order data** is delivered as far as the arena has room, with the stretches that it
reaches. -/
theorem deliver (hnxt : r.nxt = num s (g + r.len)) (hne : data ≠ [])
    (hdata : ∀ j, j < data.length → data[j]? = σ[g + r.len + j]?)
    (hin : g + r.len + data.length ≤ σ.length) :
    ∃ held', Filed σ s (r.deliver r.nxt data) g held' ∧
      (r.deliver r.nxt data).nxt = num s (g + (r.deliver r.nxt data).len) ∧
      (r.deliver r.nxt data).cap = r.cap ∧
      r.len + min data.length r.window ≤ (r.deliver r.nxt data).len ∧
      ∀ q, q < g + (r.deliver r.nxt data).len ∨ Covers held' q ↔ (q < g + r.len ∨ Covers held q) ∨
          (g + r.len ≤ q ∧ q < g + r.len + min data.length r.window) := by
  have hspan := h.span
  have hfits := h.fits
  have hpos : 0 < data.length := length_pos_of_ne_nil hne
  have hskip : (r.nxt - r.nxt).toNat = 0 := by
    rw [BitVec.sub_self]
    rfl
  have hcount : (r.place 0 data).2 = min data.length r.window := place_count r 0 data
  have hwin : r.window = r.cap - r.len := rfl
  have hfirst : ∀ j, j < data.length → data[j]? = σ[g + r.len + 0 + j]? := hdata
  obtain ⟨hcap, hshows⟩ := h.place_shows hfirst
  have hshort : 2 * (g + r.cap) < 2 * (g + r.len) + 2 ^ 32 := by omega
  obtain ⟨p', held', hdrain, hge, hle, hleft, hcov, hdone⟩ :=
    drain_spec hshort s r.ooo.length
      (g + r.len + (r.place 0 data).2) (r.len + (r.place 0 data).2) held
      (fun x hx => by have := h.inside x hx; omega) (by omega) (by omega)
  have hlen : held.length ≤ r.ooo.length := by
    rw [h.ooo, number, length_map]
  have hres : r.deliver r.nxt data =
      { (r.place 0 data).1 with nxt := num s p', len := p' - g, ooo := number s held' } := by
    unfold Recv.deliver
    dsimp only
    rw [hskip, if_neg (by omega), drop_zero, hnxt, ← num_add, h.ooo]
    rw [h.ooo] at hdrain
    rw [hdrain]
    congr 1
    change r.len + (r.place 0 data).2 + (p' - (g + r.len + (r.place 0 data).2)) = p' - g
    omega
  have hfront : g + (p' - g) = p' := by omega
  rw [hres]
  refine ⟨held', ⟨?_, ?_, ?_, ?_, rfl, ?_, ?_, ?_⟩, ?_, ?_, ?_, fun q => ?_⟩
  · exact hcap.symm ▸ h.pos
  · change (r.place 0 data).1.head = g % (r.place 0 data).1.cap
    rw [hcap, place_keeps]
    exact h.head
  · change p' - g ≤ (r.place 0 data).1.cap
    omega
  · intro x hx
    have hin' := h.inside x (hleft x hx)
    have hbeyond := hdone hlen x hx
    change g + (p' - g) + 1 ≤ x.1 ∧ x.1 < x.2 ∧ x.2 ≤ g + (r.place 0 data).1.cap
    omega
  · change g + (p' - g) ≤ σ.length
    rw [hfront]
    exact front_le (by omega) h.ends fun q hq => (hcov q).mp (.inl hq)
  · exact fun x hx => h.ends x (hleft x hx)
  · intro q hgq hq
    change (r.place 0 data).1.arena[q % (r.place 0 data).1.cap]? = σ[q]?
    rw [hfront] at hq
    rw [hcap]
    have hknown := (hcov q).mp hq
    have hlt : q < g + r.cap := by
      rcases hknown with hlt | hheld
      · omega
      · exact (h.covers_lt hheld).2
    obtain ⟨hnew, hold⟩ := hshows q hgq hlt
    by_cases hplaced : g + r.len + 0 ≤ q ∧ q < g + r.len + 0 + (r.place 0 data).2
    · exact hnew hplaced
    rw [hold hplaced]
    refine h.shows q hgq ?_
    rcases hknown with hlt' | hheld
    · exact .inl (by omega)
    · exact .inr hheld
  · change num s p' = num s (g + (p' - g))
    rw [hfront]
  · exact hcap
  · change r.len + min data.length r.window ≤ p' - g
    omega
  · change q < g + (p' - g) ∨ Covers held' q ↔ _
    rw [hfront, hcov q]
    constructor
    · rintro (hlt | hheld)
      · by_cases hold : q < g + r.len
        · exact .inl (.inl hold)
        · exact .inr (by omega)
      · exact .inl (.inr hheld)
    · rintro ((hlt | hheld) | hnew)
      · exact .inl (by omega)
      · exact .inr hheld
      · exact .inl (by omega)

/-! ## Holding -/

lemma holdOoo_eq (hnxt : r.nxt = num s (g + r.len)) (hlo : g + r.len < p)
    (hhi : p < g + r.cap) (hne : data ≠ []) :
    r.holdOoo (num s p) data = if r.roomFor (num s p) (min data.length (g + r.cap - p)) then
        { (r.place (p - (g + r.len)) (data.take (g + r.cap - p))).1 with
          ooo :=
            (absorb r.ooo.length 0 (num s p) (num s (p + min data.length (g + r.cap - p))) false
                r.ooo).2.2.2 ++
              [((absorb r.ooo.length 0 (num s p)
                  (num s (p + min data.length (g + r.cap - p))) false r.ooo).1,
                (absorb r.ooo.length 0 (num s p)
                  (num s (p + min data.length (g + r.cap - p))) false r.ooo).2.1)] }
      else r := by
  have hspan := h.span
  have hoff : (num s p - r.nxt).toNat = p - (g + r.len) := by
    rw [hnxt]
    exact toNat_num_sub_num s (by omega) (by omega)
  have hrest : r.window - (p - (g + r.len)) = g + r.cap - p := by
    rw [window]
    omega
  have hin : ¬(data = [] ∨ p - (g + r.len) ≥ r.window) := by
    rintro (hnil | hout)
    · exact hne hnil
    · rw [window] at hout
      omega
  have hlen : (data.take (g + r.cap - p)).length = min data.length (g + r.cap - p) := by
    rw [length_take]
    omega
  unfold holdOoo
  dsimp only
  rw [hoff, if_neg hin, hrest, hlen, ← num_add]
  -- a piece is merged exactly when it meets an entry
  by_cases hmeet : ∃ x ∈ r.ooo, meets (num s p) (num s (p + min data.length (g + r.cap - p))) x
  · have hmerged := absorb_merged_of_meets r.ooo.length 0 (num s p)
      (num s (p + min data.length (g + r.cap - p))) r.ooo (by omega) hmeet
    have hroom : r.roomFor (num s p) (min data.length (g + r.cap - p)) := by
      rw [roomFor, ← num_add, Bool.or_eq_true]
      exact .inr (any_eq_true.mpr hmeet)
    rw [if_neg (by simp [hmerged]), if_pos hroom]
  have hapart : ∀ x ∈ r.ooo, meets (num s p)
      (num s (p + min data.length (g + r.cap - p))) x = false := by
    intro x hx
    rw [Bool.eq_false_iff]
    exact fun hyes => hmeet ⟨x, hx, hyes⟩
  have hleft := absorb_of_apart r.ooo.length 0 (num s p)
    (num s (p + min data.length (g + r.cap - p))) r.ooo hapart
  have hroom : r.roomFor (num s p) (min data.length (g + r.cap - p)) =
      (r.ooo.length != maxOoo) := by
    rw [roomFor, ← num_add, any_eq_false.mpr fun x hx => by simp [hapart x hx], Bool.or_false]
  rw [hroom, hleft]
  by_cases hfull : r.ooo.length = maxOoo
  · simp [hfull]
  · simp [hfull]

/-- **Out-of-order data** inside the window is held, when the table of stretches has room. -/
theorem holdOoo (hnxt : r.nxt = num s (g + r.len)) (hlo : g + r.len < p)
    (hhi : p < g + r.cap) (hne : data ≠ []) (hdata : ∀ j, j < data.length → data[j]? = σ[p + j]?)
    (hin : p + data.length ≤ σ.length)
    (hroom : r.roomFor (num s p) (min data.length (g + r.cap - p))) :
    ∃ held', Filed σ s (r.holdOoo (num s p) data) g held' ∧
      (r.holdOoo (num s p) data).nxt = r.nxt ∧ (r.holdOoo (num s p) data).len = r.len ∧
      (r.holdOoo (num s p) data).cap = r.cap ∧
      ∀ q, Covers held' q ↔ Covers held q ∨ (p ≤ q ∧ q < p + min data.length (g + r.cap - p)) := by
  have hspan := h.span
  have hpos : 0 < data.length := length_pos_of_ne_nil hne
  have hwin : r.window - (p - (g + r.len)) = g + r.cap - p := by
    rw [window]
    omega
  have hpiece : ∀ j, j < (data.take (g + r.cap - p)).length →
      (data.take (g + r.cap - p))[j]? = σ[g + r.len + (p - (g + r.len)) + j]? := by
    intro j hj
    rw [length_take] at hj
    rw [getElem?_take_of_lt (by omega), hdata j (by omega),
      show g + r.len + (p - (g + r.len)) + j = p + j by omega]
  obtain ⟨hcap, hshows⟩ := h.place_shows hpiece
  have hcount := place_count r (p - (g + r.len)) (data.take (g + r.cap - p))
  rw [length_take] at hcount
  have hshort : 2 * (g + r.cap) < 2 * (g + r.len + 1) + 2 ^ 32 := by omega
  obtain ⟨x', y', merged, left, habsorb, habs⟩ := absorb_spec hshort s r.ooo.length 0 p
    (p + min data.length (g + r.cap - p)) false held h.inside (by omega) (by omega) (by omega)
  have hres := h.holdOoo_eq hnxt hlo hhi hne
  rw [if_pos hroom, h.ooo] at hres
  rw [h.ooo] at habsorb
  rw [habsorb] at hres
  have hwide := habs.wide
  have hx' : g + r.len + 1 ≤ x' := by
    rcases habs.start with heq | ⟨x, hx, heq⟩
    · omega
    · have := h.inside x hx
      omega
  have hcovers : ∀ q, Covers (left ++ [(x', y')]) q ↔
      Covers held q ∨ (p ≤ q ∧ q < p + min data.length (g + r.cap - p)) := by
    intro q
    rw [covers_perm (perm_append_singleton _ _), covers_cons, habs.covers q, or_comm]
  have hy' : y' ≤ σ.length := by
    by_contra hlong
    have hq : Covers (left ++ [(x', y')]) σ.length :=
      ⟨(x', y'), by simp, by simp only; omega, by simp only; omega⟩
    rcases (hcovers _).mp hq with ⟨x, hx, -, hlt⟩ | hpiece'
    · have := h.ends x hx
      omega
    · omega
  rw [hres]
  refine ⟨left ++ [(x', y')], ⟨?_, ?_, ?_, ?_, ?_, ?_, ?_, ?_⟩, ?_, ?_, hcap, hcovers⟩
  · exact hcap.symm ▸ h.pos
  · change (r.place _ _).1.head = g % (r.place _ _).1.cap
    rw [hcap, place_keeps]
    exact h.head
  · change (r.place _ _).1.len ≤ (r.place _ _).1.cap
    rw [hcap, place_keeps]
    exact h.fits
  · change Inside (g + (r.place _ _).1.len + 1) (g + (r.place _ _).1.cap) _
    rw [hcap, place_keeps]
    intro x hx
    rcases mem_append.mp hx with hx | hx
    · exact h.inside x (habs.left x hx)
    · obtain rfl := mem_singleton.mp hx
      simp only
      omega
  · simp [number]
  · change g + (r.place _ _).1.len ≤ σ.length
    rw [place_keeps]
    exact h.read
  · intro x hx
    rcases mem_append.mp hx with hx | hx
    · exact h.ends x (habs.left x hx)
    · obtain rfl := mem_singleton.mp hx
      exact hy'
  · intro q hgq hq
    change (r.place _ _).1.arena[q % (r.place _ _).1.cap]? = σ[q]?
    have hq : q < g + r.len ∨ Covers (left ++ [(x', y')]) q := by
      rcases hq with hlt | hcov
      · refine .inl ?_
        rwa [place_keeps] at hlt
      · exact .inr hcov
    rw [hcap]
    have hknown : (q < g + r.len ∨ Covers held q) ∨
        (p ≤ q ∧ q < p + min data.length (g + r.cap - p)) := by
      rcases hq with hlt | hcov
      · exact .inl (.inl hlt)
      · rcases (hcovers q).mp hcov with hheld | hnew
        · exact .inl (.inr hheld)
        · exact .inr hnew
    have hlt : q < g + r.cap := by
      rcases hknown with (hlt | hheld) | hnew
      · omega
      · exact (h.covers_lt hheld).2
      · omega
    obtain ⟨hnew, hold⟩ := hshows q hgq hlt
    by_cases hplaced : g + r.len + (p - (g + r.len)) ≤ q ∧ q < g + r.len + (p - (g + r.len)) +
          (r.place (p - (g + r.len)) (data.take (g + r.cap - p))).2
    · exact hnew hplaced
    rw [hold hplaced]
    refine h.shows q hgq ?_
    rcases hknown with hbefore | hpiece'
    · exact hbefore
    · exact absurd hpiece' (by omega)
  · change (r.place _ _).1.nxt = r.nxt
    rw [place_keeps]
  · change (r.place _ _).1.len = r.len
    rw [place_keeps]

end

end Filed

end Godspeed.Tcp
