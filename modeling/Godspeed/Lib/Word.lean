import Mathlib.Data.Nat.Bitwise

/-!
# Fields of a block of bytes

A block is one long word, its bytes in little-endian order.  `num` reads the
number in a range of bytes and `put` writes one; `setBits` sets or clears a range
of bits.  A field reads back as it was written (`num_put`), and a write leaves the
fields beside it alone (`num_put_of_disjoint`).  `toBytes` and `ofBytes` go
between numbers and lists of bytes.
-/

namespace Word

open BitVec

variable {w : Nat} (b : BitVec w)

/-- The number in the `n` bytes at `o`. -/
def num (o n : Nat) : Nat := (b.toNat >>> (8 * o)) % 2 ^ (8 * n)

/-- The bits from `lo` on, `n` of them. -/
def mask (w lo n : Nat) : BitVec w := BitVec.ofNat w (2 ^ n - 1) <<< lo

/-- Write the number into the `n` bytes at `o`. -/
def put (o n v : Nat) : BitVec w :=
  (b &&& ~~~ mask w (8 * o) (8 * n)) ||| BitVec.ofNat w (v % 2 ^ (8 * n)) <<< (8 * o)

/-- Give the bits from `lo` on, `n` of them, one value. -/
def setBits (lo n : Nat) (v : Bool) : BitVec w :=
  if v then b ||| mask w lo n else b &&& ~~~ mask w lo n

/-- `f n` with `n` evaluated first, so that a long loop builds up no term. -/
def forced {α : Type*} (n : Nat) (f : Nat → α) : α :=
  match n with
  | 0 => f 0
  | k + 1 => f (k + 1)

/-- The first `n` bytes of a number. -/
def toBytes : Nat → Nat → List UInt8
  | 0, _ => []
  | n + 1, v => UInt8.ofNat (v % 256) :: toBytes n (v / 256)

/-- The number with these bytes. -/
def ofBytes : List UInt8 → Nat
  | [] => 0
  | b :: rest => b.toNat + 256 * ofBytes rest

lemma testBit_num (o n i : Nat) :
    (num b o n).testBit i = (decide (i < 8 * n) && b.getLsbD (8 * o + i)) := by
  simp [num, getLsbD]

lemma getLsbD_mask (w lo n i : Nat) :
    (mask w lo n).getLsbD i = decide (i < w ∧ lo ≤ i ∧ i < lo + n) := by
  unfold mask
  simp only [getLsbD_shiftLeft, getLsbD_ofNat]
  by_cases hi : i < w <;> by_cases hlo : lo ≤ i <;> by_cases hn : i < lo + n <;>
    simp [hi, hlo, hn] <;> omega

lemma getLsbD_put (o n v i : Nat) : (put b o n v).getLsbD i =
      if 8 * o ≤ i ∧ i < 8 * o + 8 * n ∧ i < w then v.testBit (i - 8 * o) else b.getLsbD i := by
  unfold put
  simp only [getLsbD_or, getLsbD_and, getLsbD_not, getLsbD_mask, getLsbD_shiftLeft, getLsbD_ofNat]
  by_cases hw : i < w
  · by_cases hlo : 8 * o ≤ i
    · by_cases hhi : i < 8 * o + 8 * n
      · have hin : i - 8 * o < 8 * n := by omega
        have hiw : i - 8 * o < w := by omega
        simp [hw, hlo, hhi, hin, hiw]
      · have hout : ¬ i - 8 * o < 8 * n := by omega
        simp [hw, hhi, hout]
    · have hlt : i < 8 * o := by omega
      simp [hw, hlo]
  · simp [hw, getLsbD_of_ge b i (by omega)]

lemma getLsbD_setBits (lo n : Nat) (v : Bool) (i : Nat) : (setBits b lo n v).getLsbD i =
      if lo ≤ i ∧ i < lo + n ∧ i < w then v else b.getLsbD i := by
  unfold setBits
  cases v with
  | true =>
    simp only [if_true, getLsbD_or, getLsbD_mask]
    by_cases h : lo ≤ i ∧ i < lo + n ∧ i < w
    · simp [h]
    · rw [if_neg h, decide_eq_false (by omega), Bool.or_false]
  | false =>
    simp only [Bool.false_eq_true, if_false, getLsbD_and, getLsbD_not, getLsbD_mask]
    by_cases h : lo ≤ i ∧ i < lo + n ∧ i < w
    · simp [h]
    by_cases hw : i < w
    · have hout : ¬ (i < w ∧ lo ≤ i ∧ i < lo + n) := by omega
      rw [if_neg h, decide_eq_false hout, Bool.not_false, Bool.and_true, decide_eq_true hw,
        Bool.and_true]
    · simp [getLsbD_of_ge b i (by omega)]

/-- **A field reads back as written.** -/
theorem num_put {b : BitVec w} {o n v : Nat} (hfit : 8 * (o + n) ≤ w) (hv : v < 2 ^ (8 * n)) :
    num (put b o n v) o n = v := by
  refine Nat.eq_of_testBit_eq fun i => ?_
  rw [testBit_num, getLsbD_put]
  by_cases hi : i < 8 * n
  · rw [if_pos (by omega), decide_eq_true hi, Bool.true_and, Nat.add_sub_cancel_left]
  · have hzero : v.testBit i = false :=
      Nat.testBit_lt_two_pow (lt_of_lt_of_le hv (Nat.pow_le_pow_right (by decide) (by omega)))
    simp [hi, hzero]

/-- **A write leaves the fields beside it alone.** -/
theorem num_put_of_disjoint {b : BitVec w} {o n v o' n' : Nat} (h : o' + n' ≤ o ∨ o + n ≤ o') :
    num (put b o n v) o' n' = num b o' n' := by
  refine Nat.eq_of_testBit_eq fun i => ?_
  rw [testBit_num, testBit_num, getLsbD_put]
  by_cases hi : i < 8 * n'
  · rw [if_neg (by omega)]
  · simp [hi]

end Word
