import Mathlib.Data.List.FinRange
import Mathlib.Logic.Function.Basic

/-!
# A table of fixed slots

A table of `n` slots that is searched from the front, and written through the slot the search
returned.  `first` is the search, and `writeFirst p f` applies `f` to the first slot that `p`
accepts; `best` is the search for the slot with the greatest score, the last of several.
-/

namespace Slots

open Function

variable {n : ℕ} {α : Type*} (t : Fin n → α)

/-- The first slot that `p` accepts. -/
def first (p : α → Bool) : Option (Fin n) :=
  (List.finRange n).find? fun i => p (t i)

/-- Apply `f` to the first slot that `p` accepts. -/
def writeFirst (p : α → Bool) (f : α → α) (t : Fin n → α) : Fin n → α :=
  match first t p with
  | some i => update t i (f (t i))
  | none => t

/-- The slot found so far, or `i` if its score is not lower. -/
def better (score : α → Option ℕ) (found : Option (Fin n)) (i : Fin n) : Option (Fin n) :=
  match score (t i), found.bind fun j => score (t j) with
  | some s, some s' => if s' ≤ s then some i else found
  | some _, none => some i
  | none, _ => found

/-- The slot with the greatest score, the last of several; slots without a score are left
out. -/
def best (score : α → Option ℕ) : Option (Fin n) :=
  (List.finRange n).foldl (better t score) none

variable {t : Fin n → α} {p : α → Bool} {f : α → α} {i : Fin n}

lemma first_spec (h : first t p = some i) : p (t i) := List.find?_some (p := fun i => p (t i)) h

lemma first_eq_none : first t p = none ↔ ∀ i, p (t i) = false := by
  simp [first]

lemma exists_first (h : p (t i)) : ∃ j, first t p = some j := by
  rcases Option.eq_none_or_eq_some (first t p) with hnone | hsome
  · rw [first_eq_none.mp hnone i] at h
    cases h
  · exact hsome

lemma first_of_unique (h : p (t i)) (hone : ∀ j, p (t j) → j = i) : first t p = some i := by
  obtain ⟨j, hj⟩ := exists_first h
  rw [hj, hone j (first_spec hj)]

lemma writeFirst_cases (p : α → Bool) (f : α → α) (t : Fin n → α) (j : Fin n) :
    writeFirst p f t j = t j ∨ (p (t j) ∧ writeFirst p f t j = f (t j)) := by
  unfold writeFirst
  cases hfirst : first t p with
  | none => exact .inl rfl
  | some i =>
    by_cases hj : j = i
    · subst hj
      exact .inr ⟨first_spec hfirst, update_self ..⟩
    · exact .inl (update_of_ne hj ..)

/-- What holds between a slot and itself, and between an accepted slot and its image, holds
between the slots before and after the write. -/
lemma writeFirst_rel {R : α → α → Prop} (hrefl : ∀ a, R a a)
    (h : ∀ a, p a → R a (f a)) (j : Fin n) : R (t j) (writeFirst p f t j) := by
  rcases writeFirst_cases p f t j with hsame | ⟨hp, hnew⟩
  · rw [hsame]
    exact hrefl _
  · rw [hnew]
    exact h _ hp

lemma update_rel {R : α → α → Prop} (hrefl : ∀ a, R a a) {b : α} (h : R (t i) b) (j : Fin n) :
    R (t j) (update t i b j) := by
  by_cases hj : j = i
  · subst hj
    rwa [update_self]
  · rw [update_of_ne hj]
    exact hrefl _

lemma writeFirst_of_first (h : first t p = some i) : writeFirst p f t = update t i (f (t i)) := by
  unfold writeFirst
  rw [h]

lemma better_spec {score : α → Option ℕ} {found : Option (Fin n)}
    (hfound : ∀ j, found = some j → (score (t j)).isSome) {j : Fin n}
    (h : better t score found i = some j) : (score (t j)).isSome := by
  unfold better at h
  cases hs : score (t i) with
  | none =>
    rw [hs] at h
    exact hfound j h
  | some s =>
    have hi : (score (t i)).isSome := by rw [hs]; rfl
    split at h
    · split at h
      · cases h
        exact hi
      · exact hfound j h
    · cases h
      exact hi
    · exact hfound j h

lemma best_spec {score : α → Option ℕ} (h : best t score = some i) : (score (t i)).isSome := by
  have hfold : ∀ (l : List (Fin n)) (found : Option (Fin n)),
      (∀ j, found = some j → (score (t j)).isSome) →
      ∀ j, l.foldl (better t score) found = some j → (score (t j)).isSome := by
    intro l
    induction l with
    | nil => exact fun found hfound j hj => hfound j hj
    | cons i l ih => exact fun found hfound => ih _ fun j hj => better_spec hfound hj
  exact hfold _ none (by simp) i h

end Slots
