import Mathlib.Data.List.Basic

/-!
# Computations in stages that may stop half-way

A long operation is a list of stages on one state.  A stage either halts the
whole system, or stops the operation and leaves what has been built so far, or
goes on.  `Leads` is the judgment about a stage, with one assertion for going on
and one for stopping; its rules compose the stages of an operation.
-/

namespace Staged

variable {σ : Type*}

/-- One stage: `none` halts the system, `.error t` stops the operation in `t`,
`.ok t` goes on from `t`. -/
def Stage (σ : Type*) := σ → Option (Except σ σ)

/-- The stages in order, up to the first that stops. -/
def run : List (Stage σ) → Stage σ
  | [], s => some (.ok s)
  | stage :: rest, s =>
    match stage s with
    | none => none
    | some (.error t) => some (.error t)
    | some (.ok t) => run rest t

/-- The stage, when the condition holds. -/
def onlyIf (condition : Bool) (stage : Stage σ) : Stage σ := fun s =>
  if condition then stage s else some (.ok s)

/-- From a state with `P` the stage goes on with `Q` or stops with `R`. -/
def Leads (P Q R : σ → Prop) (stage : Stage σ) : Prop :=
  ∀ s result, P s → stage s = some result →
    match result with
    | .ok t => Q t
    | .error t => R t

lemma run_cons_cases {stage : Stage σ} {rest : List (Stage σ)} {s : σ} {result : Except σ σ}
    (h : run (stage :: rest) s = some result) :
    (∃ t, stage s = some (.error t) ∧ result = .error t) ∨
      ∃ t, stage s = some (.ok t) ∧ run rest t = some result := by
  simp only [run] at h
  cases hstage : stage s with
  | none => simp [hstage] at h
  | some left =>
    cases left with
    | error t =>
      simp only [hstage] at h
      exact .inl ⟨t, rfl, (Option.some.inj h).symm⟩
    | ok t =>
      simp only [hstage] at h
      exact .inr ⟨t, rfl, h⟩

lemma run_append_cases {first rest : List (Stage σ)} {s : σ} {result : Except σ σ}
    (h : run (first ++ rest) s = some result) :
    (∃ t, run first s = some (.error t) ∧ result = .error t) ∨
      ∃ t, run first s = some (.ok t) ∧ run rest t = some result := by
  induction first generalizing s with
  | nil => exact .inr ⟨s, rfl, h⟩
  | cons stage first ih =>
    rcases run_cons_cases h with ⟨t, hstop, rfl⟩ | ⟨t, hgo, hrest⟩
    · exact .inl ⟨t, by simp [run, hstop], rfl⟩
    · simpa [run, hgo] using ih hrest

namespace Leads

variable {P Q R S : σ → Prop} {stage : Stage σ} {stages : List (Stage σ)}

lemma nil : Leads P P R (run []) := by
  intro s result hP hrun
  cases hrun
  exact hP

lemma cons (hfirst : Leads P Q R stage) (hrest : Leads Q S R (run stages)) :
    Leads P S R (run (stage :: stages)) := by
  intro s result hP hrun
  rcases run_cons_cases hrun with ⟨t, hstop, rfl⟩ | ⟨t, hgo, hrun⟩
  · exact hfirst s _ hP hstop
  · exact hrest t result (hfirst s _ hP hgo) hrun

lemma append {first rest : List (Stage σ)} (hfirst : Leads P Q R (run first))
    (hrest : Leads Q S R (run rest)) : Leads P S R (run (first ++ rest)) := by
  intro s result hP hrun
  rcases run_append_cases hrun with ⟨t, hstop, rfl⟩ | ⟨t, hgo, hrun⟩
  · exact hfirst s _ hP hstop
  · exact hrest t result (hfirst s _ hP hgo) hrun

/-- A list of stages each of which adds one to a count that stays below a bound. -/
lemma counted {P : Nat → σ → Prop} (bound : Nat) {n : Nat}
    (h : ∀ stage ∈ stages, ∀ k, k < bound → Leads (P k) (P (k + 1)) R stage)
    (hroom : n + stages.length ≤ bound) : Leads (P n) (P (n + stages.length)) R (run stages) := by
  induction stages generalizing n with
  | nil => exact nil
  | cons stage stages ih =>
    rw [List.length_cons] at hroom ⊢
    have hrest := ih (n := n + 1) (fun stage hmem => h stage (by simp [hmem])) (by omega)
    rw [show n + 1 + stages.length = n + (stages.length + 1) by omega] at hrest
    exact cons (h stage (by simp) n (by omega)) hrest

lemma onlyIf {condition : Bool} (h : condition → Leads P Q R stage)
    (hskip : condition = false → ∀ s, P s → Q s) : Leads P Q R (onlyIf condition stage) := by
  intro s result hP hrun
  unfold Staged.onlyIf at hrun
  split at hrun
  next hcondition =>
    exact h hcondition s result hP hrun
  next hcondition =>
    cases hrun
    exact hskip (by simpa using hcondition) s hP

end Leads

end Staged
