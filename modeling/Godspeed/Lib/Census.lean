import Godspeed.Lib.FirstMatch
import Mathlib.Algebra.BigOperators.Group.Finset.Basic
import Mathlib.Algebra.BigOperators.Group.List.Basic
import Mathlib.Tactic.Abel

/-!
# Sums over a store, and what one write does to them

A store is a function from finitely many places, or a list of entries; each
place is weighed in a commutative monoid, for a census of items a multiset.
Writing one place changes the sum by what the place weighed before and after.
-/

namespace Census

open FirstMatch Function Finset

variable {ι β M : Type*} [AddCommMonoid M] (w : β → M)

lemma sum_update_add [Fintype ι] [DecidableEq ι] (f : ι → β) (i : ι) (b : β) :
    (∑ j, w (update f i b j)) + w (f i) = (∑ j, w (f j)) + w b := by
  have hrest : ∑ j ∈ univ.erase i, w (update f i b j) = ∑ j ∈ univ.erase i, w (f j) := by
    refine sum_congr rfl fun j hj => ?_
    rw [update_of_ne (ne_of_mem_erase hj)]
  rw [← add_sum_erase _ _ (mem_univ i), ← add_sum_erase univ (fun j => w (f j)) (mem_univ i), hrest,
    update_self]
  abel

lemma sum_modifyFirst_add {p : β → Bool} {f : β → β} {l : List β} {b : β} (h : l.find? p = some b) :
    ((modifyFirst p f l).map w).sum + w b = (l.map w).sum + w (f b) := by
  induction l with
  | nil => cases h
  | cons a l ih =>
    by_cases ha : p a
    · rw [List.find?_cons_of_pos ha] at h
      cases h
      simp only [modifyFirst, ha, if_true, List.map_cons, List.sum_cons]
      rw [add_right_comm, add_comm (w (f b)), add_right_comm]
    · rw [List.find?_cons_of_neg ha] at h
      simp only [modifyFirst, ha, if_false, Bool.false_eq_true, List.map_cons, List.sum_cons]
      rw [add_assoc, ih h, add_assoc]

end Census
