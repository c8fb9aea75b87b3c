import Godspeed.Machine.State

/-!
# Which task a core runs next

`Core.pickNext` is `pick_next`: the task that was just woken (`CORE_WAKE_HINT`), if it is
ready, or else the first ready slot from the scan pointer (`CORE_RR_SLOT`) on, which then
moves past that slot.  Between two calls the tasks change in any way, and another core may
leave a hint.

Fairness is about the distance from the pointer: of two slots, the nearer one stays the
nearer while it is ready and not picked (`Called.nearer`), and a slot that has just been
picked is the farthest of all (`Called.own`).
-/

namespace Godspeed.Machine.RoundRobin

open Ipc

/-- What `pick_next` reads of a slot. -/
structure Task where
  valid : Bool
  state : TaskState
  core : ℕ

/-- The words of a core: its hint (`none` is `MAX_TASKS`) and its scan pointer. -/
structure Core where
  hint : Option Slot
  rr : Slot

/-- What `pick_next` returns, and by which path. -/
inductive Pick
  | hint (slot : Slot)
  | scan (slot : Slot)
  | idle
  deriving DecidableEq

def Pick.slot : Pick → Option Slot
  | .hint slot | .scan slot => some slot
  | .idle => none

/-- A call of `pick_next`: a hint that came since the last one, and the tasks it finds. -/
structure Call where
  woken : Option Slot
  tasks : Slot → Task

variable (core : ℕ) (tasks : Slot → Task) (c : Core) (calls : ℕ → Call)

def ready (slot : Slot) : Bool :=
  (tasks slot).valid && (tasks slot).state == .ready && (tasks slot).core == core

/-- The slot `i` places on from the pointer. -/
def Core.at (i : ℕ) : Slot := Fin.ofNat maxTasks (c.rr + i)

/-- The scan of all slots from the pointer on. -/
def Core.scan : Pick × Core :=
  match (List.range maxTasks).find? fun i => ready core tasks (c.at i) with
  | some i => (.scan (c.at i), { c with rr := Fin.ofNat maxTasks (c.at i + 1) })
  | none => (.idle, c)

/-- `pick_next`.  A hint is cleared whether or not it is used. -/
def Core.pickNext : Pick × Core :=
  match c.hint with
  | some hint =>
    if ready core tasks hint then (.hint hint, { c with hint := none })
    else { c with hint := none }.scan core tasks
  | none => c.scan core tasks

def Core.call (call : Call) : Pick × Core :=
  { c with hint := call.woken.or c.hint }.pickNext core call.tasks

/-- The core before each of its calls. -/
def Core.before : ℕ → Core
  | 0 => c
  | n + 1 => ((Core.before n).call core (calls n)).2

/-- What the call `n` picks. -/
def Core.pick (n : ℕ) : Pick := ((c.before core calls n).call core (calls n)).1

/-! ## One call -/

/-- How far the scan goes until it comes to a slot. -/
def Core.dist (y : Slot) : ℕ := (y + maxTasks - c.rr) % maxTasks

lemma Core.at_dist (y : Slot) : c.at (c.dist y) = y := by
  apply Fin.ext
  show (c.rr.val + (y.val + 224 - c.rr.val) % 224) % 224 = y.val
  have hrr : c.rr.val < 224 := c.rr.isLt
  have hy : y.val < 224 := y.isLt
  omega

/-- The ways of a call: a ready hint, a scan of nothing that is ready, or the ready slot that
is nearest to the pointer. -/
inductive Called : Pick × Core → Prop
  | hint (y : Slot) (hready : ready core tasks y = true) : Called (.hint y, { c with hint := none })
  | idle (hint : Option Slot) (hnone : ∀ y, ready core tasks y = false) :
      Called (.idle, { c with hint })
  | scan (hint : Option Slot) (i : ℕ) (hready : ready core tasks (c.at i) = true)
      (hfirst : ∀ y, ready core tasks y = true → i ≤ c.dist y) :
      Called (.scan (c.at i), ⟨hint, Fin.ofNat maxTasks (c.at i + 1)⟩)

lemma called_scan (hint : Option Slot) : Called core tasks c ({ c with hint }.scan core tasks) := by
  -- every slot is some distance away
  have hskipped {y : Slot} (h : (!ready core tasks (c.at (c.dist y)))) :
      ready core tasks y = false := by
    rw [c.at_dist] at h
    simpa using h
  unfold Core.scan
  split
  next i hfind =>
    obtain ⟨hready, -, hbefore⟩ := List.find?_range_eq_some.mp hfind
    apply Called.scan (c := c) hint i hready
    intro y hy
    by_contra hlt
    rw [hskipped (hbefore (c.dist y) (by omega))] at hy
    cases hy
  next hfind =>
    apply Called.idle hint
    intro y
    exact hskipped (List.find?_range_eq_none.mp hfind (c.dist y) (Nat.mod_lt _ (by decide)))

lemma called (call : Call) : Called core call.tasks c (c.call core call) := by
  unfold Core.call Core.pickNext
  split
  · split
    next hready =>
      exact .hint _ hready
    · exact called_scan core call.tasks c none
  · exact called_scan core call.tasks c _

namespace Called

variable {core tasks c} {r : Pick × Core} {x y : Slot} (h : Called core tasks c r)
include h

lemma own (hpick : r.1 = .scan x) (hne : y ≠ x) : r.2.dist y < r.2.dist x := by
  cases h with
  | hint | idle => cases hpick
  | scan hint i =>
    cases hpick
    have hne' : y.val ≠ (c.at i).val := fun heq => hne (Fin.ext heq)
    have hy : y.val < 224 := y.isLt
    have hx : (c.at i).val < 224 := (c.at i).isLt
    show (y.val + 224 - ((c.at i).val + 1) % 224) % 224 <
      ((c.at i).val + 224 - ((c.at i).val + 1) % 224) % 224
    omega

/-- The nearer of two slots stays the nearer, if it is ready and not picked, and the other is
not picked either. -/
lemma nearer (hready : ∀ z, r.1 = .scan z → ready core tasks y ∧ z ≠ y)
    (hdist : c.dist y < c.dist x) : r.2.dist y < r.2.dist x ∧ r.1 ≠ .scan x := by
  cases h with
  | hint | idle => exact ⟨hdist, by rintro ⟨⟩⟩
  | scan hint i _ hfirst =>
    obtain ⟨hy, hne⟩ := hready _ rfl
    have hi : i ≤ (y.val + 224 - c.rr.val) % 224 := hfirst y hy
    have hne' : (c.rr.val + i) % 224 ≠ y.val := fun heq => hne (Fin.ext heq)
    have hrr : c.rr.val < 224 := c.rr.isLt
    have hy : y.val < 224 := y.isLt
    change (y.val + 224 - c.rr.val) % 224 < (x.val + 224 - c.rr.val) % 224 at hdist
    constructor
    · show (y.val + 224 - ((c.rr.val + i) % 224 + 1) % 224) % 224 <
        (x.val + 224 - ((c.rr.val + i) % 224 + 1) % 224) % 224
      omega
    · intro heq
      have hat : (c.rr.val + i) % 224 = x.val := congrArg Fin.val (Pick.scan.inj heq)
      omega

end Called

/-! ## Runs of calls -/

/-- **The scan is fair, and misses nothing.**  Between two picks of `x` by the scan, a slot
that is ready at each pick of the scan after the first of them is picked by the scan too; and
when a slot is ready, a ready slot of the core is picked. -/
theorem pickNext_fair :
    (∀ i k x y, i < k → y ≠ x → c.pick core calls i = .scan x → c.pick core calls k = .scan x →
      (∀ j z, i < j → j ≤ k → c.pick core calls j = .scan z →
        ready core (calls j).tasks y = true) →
      ∃ j, i < j ∧ j < k ∧ c.pick core calls j = .scan y) ∧
    ∀ n, (∃ y, ready core (calls n).tasks y = true) →
      ∃ z, (c.pick core calls n).slot = some z ∧ ready core (calls n).tasks z = true := by
  have hcall (n : ℕ) := called core (c.before core calls n) (calls n)
  constructor
  · intro i k x y hik hne hi hk hready
    by_contra hnever
    have hstep (j : ℕ) (hij : i < j) (hjk : j ≤ k) (z : Slot)
        (hz : c.pick core calls j = .scan z) : ready core (calls j).tasks y ∧ z ≠ y := by
      refine ⟨hready j z hij hjk hz, ?_⟩
      rintro rfl
      rcases Nat.lt_or_eq_of_le hjk with hlt | rfl
      · exact hnever ⟨j, hij, hlt, hz⟩
      · exact hne (Pick.scan.inj (hz.symm.trans hk))
    -- by induction on the calls since the first pick
    have hnearer (n : ℕ) (hn : i + n < k) : (c.before core calls (i + n + 1)).dist y <
        (c.before core calls (i + n + 1)).dist x := by
      induction n with
      | zero => exact (hcall i).own hi hne
      | succ n ih => exact ((hcall _).nearer (hstep _ (by omega) (by omega)) (ih (by omega))).1
    obtain ⟨n, rfl⟩ : ∃ n, k = i + n + 1 := ⟨k - i - 1, by omega⟩
    exact ((hcall _).nearer (hstep _ hik (Nat.le_refl _)) (hnearer n (by omega))).2 hk
  · rintro n ⟨y, hy⟩
    have hcalled := hcall n
    unfold Core.pick
    generalize (c.before core calls n).call core (calls n) = r at hcalled ⊢
    cases hcalled with
    | hint z hz => exact ⟨z, rfl, hz⟩
    | idle _ hnone =>
      rw [hnone y] at hy
      cases hy
    | scan _ i hz => exact ⟨_, rfl, hz⟩

/-- Three calls: slots 0 and 1 are ready, then 0 and 2, then 0 and 1 again. -/
def blink (n : ℕ) : Call :=
  ⟨none, fun slot => ⟨decide (slot = 0 ∨ slot = if n = 1 then 2 else 1), .ready, 0⟩⟩

/-- To be ready at the two picks of another slot is not enough: the scan came to slot 1 when
it was not ready. -/
theorem ready_at_both_not_picked :
    (List.range 3).map (Core.pick 0 ⟨none, 0⟩ blink) = [.scan 0, .scan 2, .scan 0] ∧
      ready 0 (blink 0).tasks 1 = true ∧ ready 0 (blink 2).tasks 1 = true := by
  decide

end Godspeed.Machine.RoundRobin
