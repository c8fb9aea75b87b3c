import Mathlib.Algebra.Group.Basic
import Mathlib.Data.BitVec

/-!
# Serial numbers

A long sequence is numbered by words of fixed width, so the numbers wrap.  `num s p` is
the number of place `p` of a sequence whose first place has number `s`; two numbers are
compared by the sign of their difference (`before`, `notAfter`, `after`).

The comparison is the order of the places as long as these are less than half of the
number space apart.  `toInt_num_sub_num` says so once; the rules for the comparisons and
for the distance of two numbers are its consequences.
-/

namespace Serial

variable {w : ℕ} {p q : ℕ} (a b : BitVec w)

/-- The number of place `p` of a sequence whose first place has number `s`. -/
def num (s : BitVec w) (p : ℕ) : BitVec w := s + BitVec.ofNat w p

/-- The signed difference says that `a` comes before `b`. -/
def before : Bool := (a - b).toInt < 0

/-- The signed difference says that `a` does not come after `b`. -/
def notAfter : Bool := (a - b).toInt ≤ 0

/-- The signed difference says that `a` comes after `b`. -/
def after : Bool := 0 < (a - b).toInt

@[simp] lemma num_zero (s : BitVec w) : num s 0 = s := by
  simp [num]

section

variable (s : BitVec w)
include s

lemma num_add (p n : ℕ) : num s (p + n) = num s p + BitVec.ofNat w n := by
  rw [num, num, BitVec.ofNat_add, ← BitVec.add_assoc]

lemma num_num (p n : ℕ) : num (num s p) n = num s (p + n) := (num_add s p n).symm

lemma num_succ (p : ℕ) : num s (p + 1) = num s p + 1 := num_add s p 1

/-- **The distance of two places** is the difference of their numbers, up to the wrap. -/
theorem toNat_num_sub_num (hle : p ≤ q) (hnear : q - p < 2 ^ w) :
    (num s q - num s p).toNat = q - p := by
  obtain ⟨n, rfl⟩ := Nat.exists_eq_add_of_le hle
  have hn : n < 2 ^ w := by omega
  have hdiff : num s (p + n) - num s p = BitVec.ofNat w n := by
    rw [num_add, add_sub_cancel_left]
  rw [hdiff, BitVec.toNat_ofNat, Nat.mod_eq_of_lt hn]
  omega

section

variable (hp : 2 * p < 2 * q + 2 ^ w)
include hp

section

variable (hq : 2 * q ≤ 2 * p + 2 ^ w)
include hq

/-- Less than half of the number space apart, the signed difference of two numbers is the
difference of the places. -/
lemma toInt_num_sub_num : (num s p - num s q).toInt = (p : ℤ) - q := by
  have hdiff : num s p - num s q = BitVec.ofInt w ((p : ℤ) - q) := by
    rw [num, num, add_sub_add_left_eq_sub, sub_eq_add_neg (p : ℤ), BitVec.ofInt_add,
      BitVec.ofInt_neg, BitVec.ofInt_natCast, BitVec.ofInt_natCast, BitVec.sub_eq_add_neg]
  rw [hdiff, BitVec.toInt_ofInt, Int.bmod_eq_of_le]
  · omega
  · omega

lemma before_num_iff : before (num s p) (num s q) ↔ p < q := by
  rw [before, toInt_num_sub_num s hp hq, decide_eq_true_iff]
  omega

lemma notAfter_num_iff : notAfter (num s p) (num s q) ↔ p ≤ q := by
  rw [notAfter, toInt_num_sub_num s hp hq, decide_eq_true_iff]
  omega

lemma after_num_iff : after (num s p) (num s q) ↔ q < p := by
  rw [after, toInt_num_sub_num s hp hq, decide_eq_true_iff]
  omega

end

end

/-- Places less than the number space apart have the same number only if they are the same. -/
lemma num_inj (hp : p < q + 2 ^ w) (hq : q < p + 2 ^ w) : num s p = num s q ↔ p = q := by
  refine ⟨fun heq => ?_, fun heq => heq ▸ rfl⟩
  rcases le_total p q with hle | hle
  · have hdist := toNat_num_sub_num s hle (by omega)
    rw [heq, BitVec.sub_self, BitVec.toNat_zero] at hdist
    omega
  · have hdist := toNat_num_sub_num s hle (by omega)
    rw [heq, BitVec.sub_self, BitVec.toNat_zero] at hdist
    omega

end

lemma num_sub_toNat (s a : BitVec w) : num s (a - s).toNat = a := by
  rw [num, BitVec.ofNat_toNat, BitVec.setWidth_eq, add_sub_cancel]

/-- What comes after the start lies in the first half of the number space from it. -/
lemma pos_of_after {a s : BitVec w} (h : after a s) :
    0 < (a - s).toNat ∧ 2 * (a - s).toNat < 2 ^ w := by
  rw [after, decide_eq_true_iff, BitVec.toInt_eq_toNat_cond] at h
  split at h <;> omega

end Serial
