import Mathlib.Data.List.TakeDrop

/-!
# A ring of cells

A stretch of a long sequence is kept in the first `cap` cells of an arena, place `q` of the
sequence in cell `q % cap`.  Writing (`put`) and reading (`get`) a run of places are each at
most two copies: up to the end of the ring, and on from its start.

The rules are over places, so that no head and no length appears in them: `put` changes the
cells of the places it writes and of no other place in the same revolution
(`getElem?_put`, `getElem?_put_below`), and `get` returns the places in order (`get_eq_slice`).
-/

namespace Ring

open List

variable {α : Type*}

/-- Copy `data` over the cells from `pos` on. -/
def overwrite (cells : List α) (pos : ℕ) (data : List α) : List α :=
  cells.take pos ++ data ++ cells.drop (pos + data.length)

/-- Copy `data` into the ring of `cap` cells from `pos` on, wrapping once. -/
def put (cap : ℕ) (cells : List α) (pos : ℕ) (data : List α) : List α :=
  let first := min data.length (cap - pos)
  overwrite (overwrite cells pos (data.take first)) 0 (data.drop first)

/-- Copy `n` cells out of the ring of `cap` cells from `pos` on, wrapping once. -/
def get (cap : ℕ) (cells : List α) (pos n : ℕ) : List α :=
  let first := min n (cap - pos)
  (cells.drop pos).take first ++ cells.take (n - first)

variable {cells data : List α} {cap pos : ℕ} {p q n : ℕ}

lemma length_overwrite (h : pos + data.length ≤ cells.length) :
    (overwrite cells pos data).length = cells.length := by
  simp [overwrite]
  omega

lemma getElem?_overwrite (h : pos + data.length ≤ cells.length) (i : ℕ) :
    (overwrite cells pos data)[i]? =
      if pos ≤ i ∧ i < pos + data.length then data[i - pos]? else cells[i]? := by
  have htake : (cells.take pos).length = pos := by rw [length_take]; omega
  unfold overwrite
  rw [append_assoc, getElem?_append, htake]
  split
  next hlt =>
    rw [if_neg (by omega), getElem?_take_of_lt hlt]
  rw [getElem?_append]
  split
  · rw [if_pos (by omega)]
  · rw [if_neg (by omega), getElem?_drop]
    congr 1
    omega

/-- Both parts of a write that wraps around lie inside the ring. -/
lemma put_fits (hpos : pos ≤ cap) (hcap : cap ≤ cells.length) (hlen : data.length ≤ cap) :
    pos + (data.take (min data.length (cap - pos))).length ≤ cells.length ∧
      0 + (data.drop (min data.length (cap - pos))).length ≤
        (overwrite cells pos (data.take (min data.length (cap - pos)))).length := by
  have hfirst : pos + (data.take (min data.length (cap - pos))).length ≤ cells.length := by
    rw [length_take]
    omega
  rw [length_overwrite hfirst, length_drop]
  omega

lemma length_put (hpos : pos ≤ cap) (hcap : cap ≤ cells.length) (hlen : data.length ≤ cap) :
    (put cap cells pos data).length = cells.length := by
  obtain ⟨hfirst, hrest⟩ := put_fits hpos hcap hlen
  unfold put
  rw [length_overwrite hrest, length_overwrite hfirst]

lemma getElem?_put_cell (hpos : pos < cap) (hcap : cap ≤ cells.length)
    (hlen : data.length ≤ cap) (i : ℕ) :
    (put cap cells pos data)[i]? = if i + cap < pos + data.length then data[i + cap - pos]?
      else if pos ≤ i ∧ i < cap ∧ i < pos + data.length then data[i - pos]? else cells[i]? := by
  obtain ⟨hfirst, hrest⟩ := put_fits (Nat.le_of_lt hpos) hcap hlen
  unfold put
  rw [getElem?_overwrite hrest, getElem?_overwrite hfirst, length_drop, length_take]
  by_cases hwrap : i + cap < pos + data.length
  · rw [if_pos (by omega), if_pos hwrap, getElem?_drop]
    congr 1
    omega
  · rw [if_neg (by omega), if_neg hwrap]
    by_cases hin : pos ≤ i ∧ i < cap ∧ i < pos + data.length
    · rw [if_pos (by omega), if_pos hin, getElem?_take_of_lt (by omega)]
    · rw [if_neg (by omega), if_neg hin]

/-- Within one revolution from place `p` on, the remainder is the offset, wrapped once. -/
lemma mod_of_revolution (hcap : 0 < cap) (hp : p ≤ q) (hq : q < p + cap) :
    q % cap = if p % cap + (q - p) < cap then p % cap + (q - p) else p % cap + (q - p) - cap := by
  have hlt := Nat.mod_lt p hcap
  have hsum : q % cap = (p % cap + (q - p)) % cap := by
    rw [Nat.mod_add_mod, Nat.add_sub_cancel' hp]
  rw [hsum]
  split
  · exact Nat.mod_eq_of_lt ‹_›
  · rw [Nat.mod_eq_sub_mod (by omega), Nat.mod_eq_of_lt (by omega)]

/-- **A write at place `p`**, seen at a place of the revolution that starts there. -/
theorem getElem?_put (h0 : 0 < cap) (hcap : cap ≤ cells.length) (hlen : data.length ≤ cap)
    (hp : p ≤ q) (hq : q < p + cap) :
    (put cap cells (p % cap) data)[q % cap]? =
      if q < p + data.length then data[q - p]? else cells[q % cap]? := by
  have hpos := Nat.mod_lt p h0
  have hmod := mod_of_revolution h0 hp hq
  rw [getElem?_put_cell hpos hcap hlen]
  split at hmod
  · rw [if_neg (by omega)]
    by_cases hin : q < p + data.length
    · rw [if_pos (by omega), if_pos hin]
      congr 1
      omega
    · rw [if_neg (by omega), if_neg hin]
  · rw [hmod]
    by_cases hin : q < p + data.length
    · rw [if_pos (by omega), if_pos hin]
      congr 1
      omega
    · rw [if_neg (by omega), if_neg (by omega), if_neg hin]

/-- A write does not touch the places before it whose cells it does not reach around to. -/
lemma getElem?_put_below (h0 : 0 < cap) (hcap : cap ≤ cells.length) (hq : q < p)
    (hfar : p + data.length ≤ q + cap) :
    (put cap cells (p % cap) data)[q % cap]? = cells[q % cap]? := by
  have hlater : (put cap cells (p % cap) data)[(q + cap) % cap]? = _ :=
    getElem?_put h0 hcap (by omega) (by omega) (by omega)
  rw [Nat.add_mod_right] at hlater
  rw [hlater, if_neg (by omega)]

lemma length_get (hpos : pos ≤ cap) (hcap : cap ≤ cells.length) (hn : n ≤ cap) :
    (get cap cells pos n).length = n := by
  simp only [get, length_append, length_take, length_drop]
  omega

lemma getElem?_get {j : ℕ} (h0 : 0 < cap) (hcap : cap ≤ cells.length) (hn : n ≤ cap) (hj : j < n) :
    (get cap cells (p % cap) n)[j]? = cells[(p + j) % cap]? := by
  have hpos := Nat.mod_lt p h0
  have hmod := mod_of_revolution (p := p) (q := p + j) h0 (by omega) (by omega)
  have hfirst : ((cells.drop (p % cap)).take (min n (cap - p % cap))).length =
      min n (cap - p % cap) := by
    rw [length_take, length_drop]
    omega
  unfold get
  rw [getElem?_append, hfirst, hmod]
  by_cases hin : j < min n (cap - p % cap)
  · rw [if_pos hin, if_pos (by omega), getElem?_take_of_lt hin, getElem?_drop]
    congr 1
    omega
  · rw [if_neg hin, if_neg (by omega), getElem?_take_of_lt (by omega)]
    congr 1
    omega

/-- **A read returns the places in order**, when their cells hold them. -/
theorem get_eq_slice {seq : List α} (h0 : 0 < cap) (hcap : cap ≤ cells.length) (hn : n ≤ cap)
    (hshow : ∀ q, p ≤ q → q < p + n → cells[q % cap]? = seq[q]?) :
    get cap cells (p % cap) n = (seq.drop p).take n := by
  have hlen : (get cap cells (p % cap) n).length = n :=
    length_get (Nat.le_of_lt (Nat.mod_lt p h0)) hcap hn
  refine ext_getElem? fun j => ?_
  rcases Nat.lt_or_ge j n with hj | hj
  · rw [getElem?_get h0 hcap hn hj, hshow _ (by omega) (by omega), getElem?_take_of_lt hj,
      getElem?_drop]
  · rw [getElem?_eq_none (by omega), getElem?_eq_none]
    rw [length_take]
    omega

end Ring
