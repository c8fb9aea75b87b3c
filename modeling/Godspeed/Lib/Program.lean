import Mathlib.Data.List.Basic

/-!
# Programs with a state that may refuse

A program reads and changes a state and either returns a value or refuses with a
reason.  What it changed before a refusal stays changed.  `Run m s Q E` is the
judgment about one start state: the program returns with `Q` or refuses with `E`.
The rules follow the ways programs are put together, a loop over a list
(`forEach`, and `foldEach` with an accumulator) and a part whose refusal is looked
at (`attempt`) included.
-/

/-- A program over the state `σ` that may refuse with a reason of type `ε`. -/
def Prog (σ ε α : Type) := σ → Except ε α × σ

namespace Prog

open List

variable {σ ε α β : Type} (m : Prog σ ε α) {a : α}

instance : Monad (Prog σ ε) where
  pure a := fun s => (.ok a, s)
  bind m f := fun s =>
    match m s with
    | (.ok a, t) => f a t
    | (.error e, t) => (.error e, t)

/-- Refuse. -/
def refuse (e : ε) : Prog σ ε α := fun s => (.error e, s)

/-- A value of the state. -/
def read (f : σ → α) : Prog σ ε α := fun s => (.ok (f s), s)

/-- Change the state. -/
def modify (f : σ → σ) : Prog σ ε Unit := fun s => (.ok (), f s)

/-- Go on only if the condition holds. -/
def require (condition : Bool) (e : ε) : Prog σ ε Unit :=
  if condition then pure () else refuse e

/-- The value, if there is one. -/
def ofOption (o : Option α) (e : ε) : Prog σ ε α :=
  match o with
  | none => refuse e
  | some a => pure a

/-- Run a part and look at how it ended. -/
def attempt : Prog σ ε (Except ε α) := fun s =>
  match m s with
  | (result, t) => (.ok result, t)

/-- A loop that stops at the first refusal. -/
def forEach : List α → (α → Prog σ ε Unit) → Prog σ ε Unit
  | [], _ => pure ()
  | a :: rest, body => do
    body a
    forEach rest body

/-- A loop with an accumulator that stops at the first refusal. -/
def foldEach : List α → β → (α → β → Prog σ ε β) → Prog σ ε β
  | [], b, _ => pure b
  | a :: rest, b, body => do
    let b ← body a b
    foldEach rest b body

/-- From `s` the program returns with `Q` or refuses with `E`. -/
def Run (s : σ) (Q : α → σ → Prop) (E : ε → σ → Prop) : Prop :=
  match m s with
  | (.ok a, t) => Q a t
  | (.error e, t) => E e t

/-- From `s` the program returns with `Q` or refuses. -/
abbrev Gives (s : σ) (Q : α → σ → Prop) : Prop := Run m s Q fun _ _ => True

variable {m : Prog σ ε α} {s t : σ} {Q Q' : α → σ → Prop} {E E' : ε → σ → Prop} {e : ε}
  {xs : List α}

lemma Run.of_ok (h : Run m s Q E) (hm : m s = (.ok a, t)) : Q a t := by
  rw [Run, hm] at h
  exact h

lemma Run.of_error (h : Run m s Q E) (hm : m s = (.error e, t)) : E e t := by
  rw [Run, hm] at h
  exact h

lemma run_of (hok : ∀ a t, m s = (.ok a, t) → Q a t)
    (herror : ∀ e t, m s = (.error e, t) → E e t) : Run m s Q E := by
  unfold Run
  split
  next a t h =>
    exact hok a t h
  next e t h =>
    exact herror e t h

lemma Run.returns (h : Run m s Q fun _ _ => False) : ∃ a t, m s = (.ok a, t) ∧ Q a t := by
  rcases hm : m s with ⟨result, t⟩
  cases result with
  | ok a => exact ⟨a, t, rfl, h.of_ok hm⟩
  | error e => exact (h.of_error hm).elim

/-- **Consequence.** -/
theorem Run.mono (h : Run m s Q E) (hQ : ∀ a t, Q a t → Q' a t) (hE : ∀ e t, E e t → E' e t) :
    Run m s Q' E' :=
  run_of (fun a t hm => hQ a t (h.of_ok hm)) (fun e t hm => hE e t (h.of_error hm))

lemma Gives.mono (h : Gives m s Q) (hQ : ∀ a t, Q a t → Q' a t) : Gives m s Q' :=
  Run.mono h hQ fun _ _ h => h

@[simp] lemma run_pure : Run (pure a : Prog σ ε α) s Q E ↔ Q a s := Iff.rfl

@[simp] lemma run_refuse : Run (refuse e : Prog σ ε α) s Q E ↔ E e s := Iff.rfl

@[simp] lemma run_read {f : σ → α} : Run (read f : Prog σ ε α) s Q E ↔ Q (f s) s := Iff.rfl

@[simp] lemma run_modify {f : σ → σ} {Q : Unit → σ → Prop} :
    Run (modify f : Prog σ ε Unit) s Q E ↔ Q () (f s) := Iff.rfl

/-- **Sequencing.** -/
theorem run_bind {f : α → Prog σ ε β} {Q : β → σ → Prop} :
    Run (m >>= f) s Q E ↔ Run m s (fun a t => Run (f a) t Q E) E := by
  change (match (match m s with
      | (.ok a, t) => f a t
      | (.error e, t) => (.error e, t)) with
    | (.ok b, t) => Q b t
    | (.error e, t) => E e t) ↔ _
  unfold Run
  rcases m s with ⟨result, t⟩
  cases result with
  | ok a | error e => rfl

lemma gives_bind {f : α → Prog σ ε β} {Q : β → σ → Prop} :
    Gives (m >>= f) s Q ↔ Gives m s fun a t => Gives (f a) t Q := run_bind

lemma run_require {condition : Bool} {Q : Unit → σ → Prop} :
    Run (require condition e : Prog σ ε Unit) s Q E ↔
      (condition → Q () s) ∧ (condition = false → E e s) := by
  cases condition <;> simp [require]

lemma run_ite {c : Prop} [Decidable c] {m' : Prog σ ε α} :
    Run (if c then m else m') s Q E ↔ (c → Run m s Q E) ∧ (¬ c → Run m' s Q E) := by
  by_cases h : c <;> simp [h]

/-- **Loops with an accumulator**: the assertion speaks of the elements that were
gone through. -/
theorem run_foldEach {body : α → β → Prog σ ε β} (I : List α → β → σ → Prop) {b : β} (hs : I [] b s)
    (hstep : ∀ past a rest b t, xs = past ++ a :: rest → I past b t →
      Run (body a b) t (fun b u => I (past ++ [a]) b u) E) :
    Run (foldEach xs b body) s (fun b t => I xs b t) E := by
  suffices hfrom : ∀ past rest b t, xs = past ++ rest → I past b t →
      Run (foldEach rest b body) t (fun b u => I xs b u) E from hfrom [] xs b s rfl hs
  intro past rest
  induction rest generalizing past with
  | nil =>
    intro b t hxs ht
    rw [append_nil] at hxs
    subst hxs
    exact ht
  | cons a rest ih =>
    intro b t hxs ht
    rw [foldEach, run_bind]
    refine (hstep past a rest b t hxs ht).mono (fun b u hu => ?_) fun _ _ he => he
    exact ih (past ++ [a]) b u (by rw [hxs, append_assoc]; rfl) hu

lemma forEach_eq_foldEach {body : α → Prog σ ε Unit} :
    forEach xs body = foldEach xs () fun a _ => body a := by
  induction xs with
  | nil => rfl
  | cons a xs ih => rw [forEach, foldEach, ih]

/-- **Loops** without an accumulator. -/
theorem run_forEach {body : α → Prog σ ε Unit} (I : List α → σ → Prop) (hs : I [] s)
    (hstep : ∀ past a rest t, xs = past ++ a :: rest → I past t →
      Run (body a) t (fun _ u => I (past ++ [a]) u) E) :
    Run (forEach xs body) s (fun _ t => I xs t) E := by
  rw [forEach_eq_foldEach]
  exact run_foldEach (fun past _ => I past) hs fun past a rest _ => hstep past a rest

section Equality

variable {f : α → Prog σ ε β} {γ : Type} {body : α → β → Prog σ ε β} {xs : List α} {b : β}

lemma bind_apply : (m >>= f) s = match m s with
    | (.ok a, t) => f a t
    | (.error e, t) => (.error e, t) := rfl

lemma pure_bind_apply : (pure a >>= f) s = f a s := rfl

lemma bind_assoc_apply {g : β → Prog σ ε γ} :
    ((m >>= f) >>= g) s = (m >>= fun a => f a >>= g) s := by
  rw [bind_apply, bind_apply, bind_apply]
  rcases m s with ⟨result, t⟩
  cases result with
  | ok a | error e => rfl

/-- Two sequences agree if their first parts do, and their second parts on what the
first can return. -/
lemma bind_congr_apply {m' : Prog σ ε α} {f' : α → Prog σ ε β} (hm : m s = m' s)
    (hf : ∀ a t, m s = (.ok a, t) → f a t = f' a t) : (m >>= f) s = (m' >>= f') s := by
  rw [bind_apply, bind_apply, ← hm]
  rcases h : m s with ⟨result, t⟩
  cases result with
  | ok a => exact hf a t h
  | error e => rfl

lemma foldEach_append {ys : List α} :
    foldEach (xs ++ ys) b body s = (foldEach xs b body >>= fun b => foldEach ys b body) s := by
  induction xs generalizing b s with
  | nil => rfl
  | cons a xs ih =>
    rw [cons_append, foldEach, foldEach, bind_assoc_apply]
    exact bind_congr_apply rfl fun b t _ => ih

lemma foldEach_append_bind {ys : List α} {k : β → Prog σ ε γ} :
    (foldEach (xs ++ ys) b body >>= k) s =
      (foldEach xs b body >>= fun b => foldEach ys b body >>= k) s := by
  rw [← bind_assoc_apply]
  exact bind_congr_apply foldEach_append fun _ _ _ => rfl

/-- Loops whose bodies agree where the invariant holds agree. -/
lemma foldEach_congr {body' : α → β → Prog σ ε β} (I : σ → Prop) (hs : I s)
    (hbody : ∀ a ∈ xs, ∀ b t, I t → body a b t = body' a b t)
    (hkeep : ∀ a ∈ xs, ∀ b t, I t → Gives (body' a b) t fun _ u => I u) :
    foldEach xs b body s = foldEach xs b body' s := by
  induction xs generalizing b s with
  | nil => rfl
  | cons a xs ih =>
    have hfirst := hbody a mem_cons_self b s hs
    rw [foldEach]
    refine bind_congr_apply hfirst fun b' t ht => ?_
    exact ih ((hkeep a mem_cons_self b s hs).of_ok (hfirst ▸ ht))
      (fun a' ha' => hbody a' (mem_cons_of_mem _ ha'))
      fun a' ha' => hkeep a' (mem_cons_of_mem _ ha')

lemma foldEach_flatMap {f : γ → List α} {xs : List γ} :
    foldEach (xs.flatMap f) b body s = foldEach xs b (fun x b => foldEach (f x) b body) s := by
  induction xs generalizing b s with
  | nil => rfl
  | cons x xs ih =>
    rw [flatMap_cons, foldEach_append]
    exact bind_congr_apply rfl fun b' t _ => ih

end Equality

/-- **Loops with an accumulator**, with an assertion about the state alone. -/
theorem gives_foldEach {body : α → β → Prog σ ε β} (I : σ → Prop) {b : β} (hs : I s)
    (hbody : ∀ a ∈ xs, ∀ b t, I t → Gives (body a b) t fun _ u => I u) :
    Gives (foldEach xs b body) s fun _ t => I t := by
  refine run_foldEach (fun _ _ => I) hs fun past a rest b t hxs ht => hbody a ?_ b t ht
  rw [hxs]
  exact mem_append_right past mem_cons_self

end Prog
