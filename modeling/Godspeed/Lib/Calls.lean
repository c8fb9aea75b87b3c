import Godspeed.Lib.Program

/-!
# Calls of a store that may fail

A program changes a store by calls.  A call may be refused, may be carried out and
answered with an error all the same, and the power may go before or after it.  The
fate of each call is given; what a program does is then a matter of `Prog`, with
the loss of power as one way to end.
-/

namespace Calls

/-- What becomes of a call that changes the store. -/
inductive Fate
  | done
  | refused
  /-- Carried out, and answered with an error. -/
  | unsaid
  /-- The power goes before it is carried out. -/
  | cut
  /-- The power goes after it was carried out. -/
  | cutAfter
deriving DecidableEq

/-- What becomes of a question. -/
inductive Look
  | told
  | failed
  | cut
deriving DecidableEq

/-- How a program ends without a result. -/
inductive Halt (ε : Type)
  | power
  | refusal (e : ε)
deriving DecidableEq

open Prog

variable {σ ε : Type}

/-- One call; whether it was answered with success. -/
def call (fate : Fate) (f : σ → σ) : Prog σ (Halt ε) Bool :=
  match fate with
  | .done => do modify f; pure true
  | .refused => pure false
  | .unsaid => do modify f; pure false
  | .cut => refuse .power
  | .cutAfter => do modify f; refuse .power

/-- A call whose failure ends the program. -/
def must (e : ε) (fate : Fate) (f : σ → σ) : Prog σ (Halt ε) Unit := do
  require (← call fate f) (.refusal e)

/-- A question; without an answer it counts as no. -/
def ask (look : Look) (f : σ → Bool) : Prog σ (Halt ε) Bool :=
  match look with
  | .told => read f
  | .failed => pure false
  | .cut => refuse .power

variable {s : σ} {fate : Fate} {f : σ → σ} {E : Halt ε → σ → Prop}

lemma run_call {Q : Bool → σ → Prop} : Run (call fate f) s Q E ↔ match fate with
      | .done => Q true (f s)
      | .refused => Q false s
      | .unsaid => Q false (f s)
      | .cut => E .power s
      | .cutAfter => E .power (f s) := by
  cases fate <;> rfl

lemma run_call_of {Q : σ → Prop} (hQ : Q s ∧ Q (f s)) (hE : E .power s ∧ E .power (f s)) :
    Run (call fate f) s (fun _ t => Q t) E := by
  rw [run_call]
  cases fate with
  | done | unsaid => exact hQ.2
  | refused => exact hQ.1
  | cut => exact hE.1
  | cutAfter => exact hE.2

lemma run_ask {look : Look} {g : σ → Bool} {Q : Bool → σ → Prop} : Run (ask look g) s Q E ↔
      match look with
      | .told => Q (g s) s
      | .failed => Q false s
      | .cut => E .power s := by
  cases look <;> rfl

/-- A call that ends the program unless it is done; what was carried out is. -/
lemma run_must_carried {e : ε} {Q : Unit → σ → Prop} (hdone : fate = .done → Q () (f s))
    (hkept : fate = .refused ∨ fate = .cut → ∀ h : Halt ε, h = .power ∨ h = .refusal e → E h s)
    (hcarried : fate = .unsaid ∨ fate = .cutAfter →
      ∀ h : Halt ε, h = .power ∨ h = .refusal e → E h (f s)) :
    Run (must e fate f) s Q E := by
  rw [must, run_bind]
  cases fate with
  | done => exact hdone rfl
  | refused => exact hkept (.inl rfl) _ (.inr rfl)
  | unsaid => exact hcarried (.inl rfl) _ (.inr rfl)
  | cut => exact hkept (.inr rfl) _ (.inl rfl)
  | cutAfter => exact hcarried (.inr rfl) _ (.inl rfl)

lemma run_must {e : ε} {Q : Unit → σ → Prop} (hdone : fate = .done → Q () (f s))
    (hfail : fate ≠ .done → ∀ h : Halt ε, h = .power ∨ h = .refusal e → E h s ∧ E h (f s)) :
    Run (must e fate f) s Q E :=
  run_must_carried hdone
    (fun hfate h hh => (hfail (by rcases hfate with rfl | rfl <;> simp) h hh).1)
    fun hfate h hh => (hfail (by rcases hfate with rfl | rfl <;> simp) h hh).2

end Calls
