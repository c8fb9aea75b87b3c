import Mathlib.Data.Finset.Card
import Mathlib.Data.Finset.Range
import Mathlib.Order.Interval.Finset.Nat

/-!
# Bit maps kept in bytes

A bit map is a list of bytes; bit `i` is bit `i % 8` of byte `i / 8`.  `set`
and `clear` are the usual read-modify-write of one byte.  `ones` reads the map
as the finite set of its set bits, and every later argument is about that set:
setting a bit inserts it (`ones_set`), clearing one erases it (`ones_clear`),
and the lowest bit of a byte that is not zero is one of them (`get_lowest`).

A bit beyond the last byte is clear, and writing one changes nothing.
-/

namespace Bitmap

open List Finset

variable (bytes : List (BitVec 8)) (i : Nat)

/-- Bit `i`. -/
def get : Bool :=
  (bytes.getD (i / 8) 0).getLsbD (i % 8)

/-- Set bit `i`. -/
def set : List (BitVec 8) :=
  bytes.modify (i / 8) fun byte => byte ||| 1#8 <<< (i % 8)

/-- Clear bit `i`. -/
def clear : List (BitVec 8) :=
  bytes.modify (i / 8) fun byte => byte &&& ~~~(1#8 <<< (i % 8))

/-- Set the `n` bits from `start` on. -/
def setRun (start n : Nat) : List (BitVec 8) :=
  (List.range' start n).foldl set bytes

/-- Clear the `n` bits from `start` on. -/
def clearRun (start n : Nat) : List (BitVec 8) :=
  (List.range' start n).foldl clear bytes

/-- The set bits. -/
def ones : Finset Nat :=
  (Finset.range (8 * bytes.length)).filter fun i => get bytes i = true

variable {bytes : List (BitVec 8)} {i j : Nat}

@[simp] lemma length_set : (set bytes i).length = bytes.length := by
  simp [set]

@[simp] lemma length_clear : (clear bytes i).length = bytes.length := by
  simp [clear]

lemma get_of_le (h : 8 * bytes.length ≤ i) : get bytes i = false := by
  have hbyte : bytes.length ≤ i / 8 := by omega
  simp [get, hbyte]

lemma lt_of_get (h : get bytes i) : i < 8 * bytes.length := by
  by_contra hle
  rw [get_of_le (by omega)] at h
  cases h

@[simp] lemma mem_ones : i ∈ ones bytes ↔ get bytes i := by
  simp only [ones, Finset.mem_filter, Finset.mem_range, and_iff_right_iff_imp]
  exact lt_of_get

lemma getD_modify (f : BitVec 8 → BitVec 8) (k m : Nat) (hm : m < bytes.length) :
    (bytes.modify k f).getD m 0 = if k = m then f (bytes.getD m 0) else bytes.getD m 0 := by
  simp only [getD_eq_getElem?_getD, getElem?_modify, getElem?_eq_getElem hm]
  split <;> rfl

lemma mod_eq_iff_of_div_eq (h : i / 8 = j / 8) : i % 8 = j % 8 ↔ i = j := by
  omega

lemma get_set (hi : i < 8 * bytes.length) :
    get (set bytes i) j = (get bytes j || decide (i = j)) := by
  by_cases hj : j < 8 * bytes.length
  · have hbyte : j / 8 < bytes.length := by omega
    simp only [get, set, getD_modify _ _ _ hbyte]
    by_cases hsame : i / 8 = j / 8
    · have hbit := mod_eq_iff_of_div_eq hsame
      have hsmall : i % 8 < 8 := Nat.mod_lt _ (by decide)
      simp [hsame, ← BitVec.twoPow_eq, hsmall, hbit]
    · have hne : i ≠ j := fun heq => hsame (by rw [heq])
      simp [hsame, hne]
  · have hne : i ≠ j := by omega
    rw [get_of_le (by simpa using hj), get_of_le (by omega)]
    simp [hne]

lemma get_clear : get (clear bytes i) j = (get bytes j && !decide (i = j)) := by
  by_cases hj : j < 8 * bytes.length
  · have hbyte : j / 8 < bytes.length := by omega
    simp only [get, clear, getD_modify _ _ _ hbyte]
    by_cases hsame : i / 8 = j / 8
    · have hbit := mod_eq_iff_of_div_eq hsame
      have hsmall : j % 8 < 8 := Nat.mod_lt _ (by decide)
      rw [if_pos hsame, BitVec.getLsbD_and, BitVec.getLsbD_not, ← BitVec.twoPow_eq,
        BitVec.getLsbD_twoPow]
      simp only [hsmall, Nat.mod_lt i (show 0 < 8 by decide), hbit, decide_true, Bool.true_and]
    · have hne : i ≠ j := fun heq => hsame (by rw [heq])
      simp [hsame, hne]
  · rw [get_of_le (by simpa using hj), get_of_le (by omega)]
    rfl

lemma ones_set (hi : i < 8 * bytes.length) : ones (set bytes i) = insert i (ones bytes) := by
  ext j
  simp only [mem_ones, get_set hi, mem_insert, Bool.or_eq_true, decide_eq_true_eq]
  rw [or_comm, eq_comm]

lemma ones_clear : ones (clear bytes i) = (ones bytes).erase i := by
  ext j
  simp only [mem_ones, get_clear, mem_erase, Bool.and_eq_true, Bool.not_eq_true',
    decide_eq_false_iff_not]
  rw [and_comm, eq_comm]

@[simp] lemma length_setRun (start n : Nat) : (setRun bytes start n).length = bytes.length := by
  unfold setRun
  induction n generalizing bytes start with
  | zero => rfl
  | succ n ih => rw [range'_succ, foldl_cons, ih, length_set]

@[simp] lemma length_clearRun (start n : Nat) :
    (clearRun bytes start n).length = bytes.length := by
  unfold clearRun
  induction n generalizing bytes start with
  | zero => rfl
  | succ n ih => rw [range'_succ, foldl_cons, ih, length_clear]

lemma ones_setRun {start n : Nat} (h : start + n ≤ 8 * bytes.length) :
    ones (setRun bytes start n) = ones bytes ∪ Finset.Ico start (start + n) := by
  unfold setRun
  induction n generalizing bytes start with
  | zero => simp
  | succ n ih =>
    have hstart : start < 8 * bytes.length := by omega
    rw [range'_succ, foldl_cons, ih (by rw [length_set]; omega), ones_set hstart]
    ext j
    simp only [mem_union]
    grind

lemma ones_clearRun {start n : Nat} :
    ones (clearRun bytes start n) = ones bytes \ Finset.Ico start (start + n) := by
  unfold clearRun
  induction n generalizing bytes start with
  | zero => simp
  | succ n ih =>
    rw [range'_succ, foldl_cons, ih, ones_clear]
    ext j
    simp only [mem_sdiff]
    grind

lemma ones_replicate (n : Nat) : ones (List.replicate n 0) = ∅ := by
  ext i
  by_cases hbyte : i / 8 < n
  · simp [get, hbyte]
  · simp [get, not_lt.mp hbyte]

lemma get_lowest {k : Nat} (h : bytes.getD k 0 ≠ 0) :
    get bytes (k * 8 + (bytes.getD k 0).ctz.toNat) := by
  have hlt : (bytes.getD k 0).ctz.toNat < 8 := by
    have hctz := BitVec.ctz_lt_iff_ne_zero.mpr h
    simpa [BitVec.lt_def] using hctz
  have hdiv : (k * 8 + (bytes.getD k 0).ctz.toNat) / 8 = k := by omega
  have hmod : (k * 8 + (bytes.getD k 0).ctz.toNat) % 8 = (bytes.getD k 0).ctz.toNat := by omega
  rw [get, hdiv, hmod]
  exact BitVec.getLsbD_true_ctz_of_ne_zero h

lemma get_eq_false_of_byte (h : bytes.getD (i / 8) 0 = 0) : get bytes i = false := by
  rw [get, h]
  exact BitVec.getLsbD_zero

end Bitmap
