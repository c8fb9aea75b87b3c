import Mathlib.Data.List.Basic

/-!
# Runs of a partial step function under a step condition

A system is a state type, an action type and a partial step function: `none`
means that the action is not enabled.  `Reaches step ok s t` says that `t` is
reached from `s` by a run every step of which meets the condition `ok` in the
state it is taken from; the unconditional runs are those of `Free`.

* `Reaches.invariant` is the one induction every safety result goes through:
  what holds at the start and is kept by every step that meets the condition
  holds in every state reached.
* `Attains` is the progress half: some conforming run leads to a state with a
  given property.
* `runs` executes a list of actions and checks the condition at every step;
  `reaches_of_runs` turns such an execution into a run, so that a concrete
  schedule can be evaluated.
-/

namespace Transition

variable {σ α : Type*} {step : σ → α → Option σ} {ok : σ → α → Prop} [∀ s a, Decidable (ok s a)]

/-- The condition that every step meets. -/
def Free (_ : σ) (_ : α) : Prop := True

instance (s : σ) (a : α) : Decidable (Free s a) := inferInstanceAs (Decidable True)

/-- The states a run from `s` reaches when each of its steps meets `ok`. -/
inductive Reaches (step : σ → α → Option σ) (ok : σ → α → Prop) (s : σ) : σ → Prop
  | refl : Reaches step ok s s
  | tail {t u : σ} (a : α) (hrun : Reaches step ok s t) (hok : ok t a)
      (hstep : step t a = some u) : Reaches step ok s u

namespace Reaches

variable {step : σ → α → Option σ} {ok ok' : σ → α → Prop} {s t u : σ}

lemma single {a : α} (hok : ok s a) (hstep : step s a = some t) : Reaches step ok s t :=
  .tail a .refl hok hstep

lemma trans (hst : Reaches step ok s t) (htu : Reaches step ok t u) : Reaches step ok s u := by
  induction htu with
  | refl => exact hst
  | tail a _ hok hstep ih => exact .tail a ih hok hstep

/-- **Invariant rule.**  A property of the first state that every conforming
step keeps holds in every state reached. -/
theorem invariant {I : σ → Prop} (hinit : I s)
    (hkeep : ∀ t a u, I t → ok t a → step t a = some u → I u) (h : Reaches step ok s t) : I t := by
  induction h with
  | refl => exact hinit
  | tail a _ hok hstep ih => exact hkeep _ a _ ih hok hstep

/-- The invariant rule when an invariant `J` of the same runs is already
known: each step may use it in the state it starts from. -/
lemma invariant_of {I J : σ → Prop} (hJ : ∀ t, Reaches step ok s t → J t) (hinit : I s)
    (hkeep : ∀ t a u, J t → I t → ok t a → step t a = some u → I u)
    (h : Reaches step ok s t) : I t := by
  induction h with
  | refl => exact hinit
  | tail a hrun hok hstep ih => exact hkeep _ a _ (hJ _ hrun) ih hok hstep

end Reaches

/-- Some run from `s` whose steps all meet `ok` leads to a state with `P`. -/
def Attains (step : σ → α → Option σ) (ok : σ → α → Prop) (s : σ) (P : σ → Prop) : Prop :=
  ∃ t, Reaches step ok s t ∧ P t

namespace Attains

variable {step : σ → α → Option σ} {ok : σ → α → Prop} {s t : σ} {P Q : σ → Prop}

lemma here (h : P s) : Attains step ok s P := ⟨s, .refl, h⟩

lemma after {a : α} (hok : ok s a) (hstep : step s a = some t) (h : Attains step ok t P) :
    Attains step ok s P := by
  obtain ⟨u, hrun, hu⟩ := h
  exact ⟨u, (Reaches.single hok hstep).trans hrun, hu⟩

lemma trans (h : Attains step ok s P) (hnext : ∀ t, P t → Attains step ok t Q) :
    Attains step ok s Q := by
  obtain ⟨t, hrun, ht⟩ := h
  obtain ⟨u, hrun', hu⟩ := hnext t ht
  exact ⟨u, hrun.trans hrun', hu⟩

end Attains

/-- Execute the actions in order, checking the condition before each step. -/
def runs (step : σ → α → Option σ) (ok : σ → α → Prop) [∀ s a, Decidable (ok s a)] :
    σ → List α → Option σ
  | s, [] => some s
  | s, a :: as =>
    if ok s a then
      match step s a with
      | some t => runs step ok t as
      | none => none
    else none

lemma reaches_of_runs {s t : σ} {as : List α}
    (h : runs step ok s as = some t) : Reaches step ok s t := by
  induction as generalizing s with
  | nil =>
    cases h
    exact .refl
  | cons a as ih =>
    simp only [runs] at h
    split at h
    next hok =>
      split at h
      next u hstep =>
        exact (Reaches.single hok hstep).trans (ih h)
      · cases h
    · cases h

/-- An execution that ends in a state with a decidable property is a run to such
a state. -/
lemma exists_reaches {s : σ} {P : σ → Prop} [DecidablePred P] (as : List α)
    (h : (runs step ok s as).any (P ·)) : ∃ t, Reaches step ok s t ∧ P t := by
  cases hruns : runs step ok s as with
  | none => simp [hruns] at h
  | some t => exact ⟨t, reaches_of_runs hruns, by simpa [hruns] using h⟩

lemma exists_reaches_and {s : σ} {P Q : σ → Prop} [DecidablePred P] (as : List α)
    (h : (runs step ok s as).any (P ·)) (hall : ∀ t, Reaches step ok s t → P t → Q t) :
    ∃ t, Reaches step ok s t ∧ P t ∧ Q t := by
  obtain ⟨t, hrun, ht⟩ := exists_reaches as h
  exact ⟨t, hrun, ht, hall t hrun ht⟩

end Transition
