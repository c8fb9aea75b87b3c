import Mathlib.Data.List.Basic

/-!
# Computations that return or fail

What is known when a computation in `Except` returned: each part of it returned.
A loop over a list that stops at the first failure is `List.foldlM`;
`foldlM_invariant` is its rule, for an assertion about the elements that were
gone through and the state reached; `foldlM_eq_error_iff` says where it fails.
-/

namespace Fallible

variable {ε ε' α β σ : Type} {x : Except ε α} {step : σ → α → Except ε σ} {s t : σ}

lemma bind_eq_ok {f : α → Except ε β} {b : β} (h : (x >>= f) = Except.ok b) :
    ∃ a, x = .ok a ∧ f a = .ok b := by
  cases x with
  | error e => cases h
  | ok a => exact ⟨a, rfl, h⟩

lemma mapError_eq_ok {f : ε → ε'} {a : α} (h : x.mapError f = .ok a) : x = .ok a := by
  cases x with
  | error e => cases h
  | ok b =>
    cases h
    rfl

lemma eq_ok_of_toOption {a : α} (h : x.toOption = some a) : x = .ok a := by
  cases x with
  | error e => cases h
  | ok b =>
    cases h
    rfl

lemma foldlM_invariant_from {I : List α → σ → Prop}
    (hstep : ∀ past a s t, I past s → step s a = .ok t → I (past ++ [a]) t)
    {past rest : List α} (hs : I past s) (h : rest.foldlM step s = .ok t) :
    I (past ++ rest) t := by
  induction rest generalizing past s with
  | nil =>
    cases h
    simpa using hs
  | cons a rest ih =>
    rw [List.foldlM_cons] at h
    obtain ⟨u, hu, hrest⟩ := bind_eq_ok h
    have hnext := ih (hstep past a s u hs hu) hrest
    rwa [List.append_assoc] at hnext

lemma foldlM_invariant (I : List α → σ → Prop)
    (hstep : ∀ past a s t, I past s → step s a = .ok t → I (past ++ [a]) t)
    {xs : List α} (hs : I [] s) (h : xs.foldlM step s = .ok t) : I xs t :=
  foldlM_invariant_from hstep hs h

/-- A loop fails at one element, and the turns before it return. -/
lemma foldlM_eq_error_iff {xs : List α} {e : ε} : xs.foldlM step s = .error e ↔
    ∃ before a after t, xs = before ++ a :: after ∧ before.foldlM step s = .ok t ∧
      step t a = .error e := by
  constructor
  · intro h
    induction xs generalizing s with
    | nil => cases h
    | cons a xs ih =>
      rw [List.foldlM_cons] at h
      cases ha : step s a with
      | error e' =>
        rw [ha] at h
        exact ⟨[], a, xs, s, rfl, rfl, ha.trans h⟩
      | ok u =>
        rw [ha] at h
        obtain ⟨before, b, after, t, rfl, hbefore, hb⟩ := ih h
        exact ⟨a :: before, b, after, t, rfl, by rw [List.foldlM_cons, ha]; exact hbefore, hb⟩
  · rintro ⟨before, a, after, t, rfl, hbefore, ha⟩
    rw [List.foldlM_append, hbefore]
    change List.foldlM step t (a :: after) = _
    rw [List.foldlM_cons, ha]
    rfl

/-- What a loop leaves: `left` says what a turn that fails leaves. -/
def leaves {ρ : Type} (step : σ → α → Except ε σ) (left : σ → α → ρ) (done : σ → ρ) :
    List α → σ → ρ
  | [], s => done s
  | a :: rest, s =>
    match step s a with
    | .error _ => left s a
    | .ok t => leaves step left done rest t

lemma leaves_of_ok {ρ : Type} {left : σ → α → ρ} {done : σ → ρ}
    {xs : List α} (h : xs.foldlM step s = .ok t) : leaves step left done xs s = done t := by
  induction xs generalizing s with
  | nil =>
    cases h
    rfl
  | cons a rest ih =>
    rw [List.foldlM_cons] at h
    obtain ⟨u, hu, hrest⟩ := bind_eq_ok h
    simpa [leaves, hu] using ih hrest

/-- A loop leaves no more than it started with, if no turn does. -/
lemma leaves_le {ρ : Type} {left : σ → α → ρ} {done : σ → ρ}
    (count : ρ → ℕ) (hok : ∀ s a t, step s a = .ok t → count (done t) ≤ count (done s))
    (hleft : ∀ s a, count (left s a) ≤ count (done s)) (xs : List α) (s : σ) :
    count (leaves step left done xs s) ≤ count (done s) := by
  induction xs generalizing s with
  | nil => exact Nat.le_refl _
  | cons a rest ih =>
    unfold leaves
    split
    · exact hleft s a
    next t hstep =>
      exact Nat.le_trans (ih t) (hok s a t hstep)

end Fallible
