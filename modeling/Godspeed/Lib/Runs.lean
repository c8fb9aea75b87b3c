import Mathlib.Data.List.Basic

/-!
# Runs of free places

A row of places is searched from the left for free ones that lie side by side:
`firstRun` finds the first `n` of them, `nextRun` the next longest stretch.
-/

namespace Runs

/-- The loop of a search for `n` free places side by side, over `k` places from
`i` on; `len` places before `i` are free. -/
def firstRun (free : Nat → Bool) (n : Nat) : Nat → Nat → Nat → Option Nat
  | 0, _, _ => none
  | k + 1, i, len =>
    if free i then
      if len + 1 = n then some (i - len) else firstRun free n k (i + 1) (len + 1)
    else firstRun free n k (i + 1) 0

/-- The loop of a search for the next free stretch, over `k` places from `i` on;
`len` places before `i` are free. -/
def nextRun (free : Nat → Bool) : Nat → Nat → Nat → Option (Nat × Nat)
  | 0, i, len => if len = 0 then none else some (i - len, len)
  | k + 1, i, len =>
    if free i then nextRun free k (i + 1) (len + 1)
    else if len = 0 then nextRun free k (i + 1) 0
    else some (i - len, len)

end Runs
