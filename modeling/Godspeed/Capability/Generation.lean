import Mathlib.Algebra.GroupWithZero.Nat
import Mathlib.Data.Nat.Notation

/-!
# Generations

`Generation(u32)` of `capability/generation.rs`: the per-resource counter that
invalidates stale capabilities, and the global counter that endpoint lives
start from.  A generation is a number here.  Both panic instead of wrapping; a panic stops the kernel, so the
model returns `none` and the step that needed the value is never taken.

`GenerationCounter.Above` is what later proofs use of the global counter: a
generation it has handed out stays below everything it hands out afterwards.
-/

namespace Godspeed.Capability

/-- `Generation::INITIAL`. -/
def Generation.initial : Nat := 0

/-- The number of values of the `u32` behind a generation. -/
def generationModulus : Nat := 2 ^ 32

/-- `Generation::bump`: `checked_add(1)`, a panic on overflow. -/
def Generation.bump (generation : Nat) : Option Nat :=
  if generation + 1 < generationModulus then some (generation + 1) else none

lemma Generation.bump_eq_some {generation next : Nat}
    (h : Generation.bump generation = some next) : next = generation + 1 := by
  unfold Generation.bump at h
  split at h
  · exact (Option.some.inj h).symm
  · cases h

/-- The global `NEXT_GENERATION: AtomicU32`. -/
structure GenerationCounter where
  next : Nat
  next_lt : next < generationModulus

namespace GenerationCounter

/-- The value the counter is initialised to. -/
def start : GenerationCounter := ⟨1, by decide⟩

/-- The counter has handed out `generation`, or is exhausted: every later draw
returns something larger. -/
def Above (counter : GenerationCounter) (generation : Nat) : Prop :=
  counter.next = 0 ∨ generation < counter.next

lemma Above.of_le {counter : GenerationCounter} {g g' : Nat}
    (h : counter.Above g) (hle : g' ≤ g) : counter.Above g' := by
  unfold Above at *
  omega

end GenerationCounter

/-- `next_generation`: `fetch_add(1)` on the global counter, a panic when the
value it returns is `0`. -/
def nextGeneration (counter : GenerationCounter) : Option (Nat × GenerationCounter) :=
  if counter.next = 0 then none
  else some (counter.next, ⟨(counter.next + 1) % generationModulus, Nat.mod_lt _ (by decide)⟩)

section Draw

variable {counter counter' : GenerationCounter} {generation : Nat}

variable (h : nextGeneration counter = some (generation, counter'))
include h

lemma nextGeneration_eq_some : generation = counter.next ∧ counter.next ≠ 0 ∧
      (counter'.next = counter.next + 1 ∨ counter'.next = 0) := by
  unfold nextGeneration at h
  split at h
  · cases h
  rename_i hne
  cases h
  have hlt := counter.next_lt
  refine ⟨rfl, hne, ?_⟩
  rcases Nat.lt_or_ge (counter.next + 1) generationModulus with hroom | hfull
  · exact .inl (Nat.mod_eq_of_lt hroom)
  · have hmax : counter.next + 1 = generationModulus := by omega
    exact .inr (by simp [hmax])

lemma lt_of_nextGeneration {g : Nat} (hg : counter.Above g) : g < generation := by
  obtain ⟨rfl, hne, -⟩ := nextGeneration_eq_some h
  exact hg.resolve_left hne

lemma above_of_nextGeneration : counter'.Above generation := by
  obtain ⟨rfl, -, hsucc | hzero⟩ := nextGeneration_eq_some h
  · exact .inr (by omega)
  · exact .inl hzero

lemma above_mono_of_nextGeneration {g : Nat} (hg : counter.Above g) : counter'.Above g :=
  (above_of_nextGeneration h).of_le (Nat.le_of_lt (lt_of_nextGeneration h hg))

end Draw

end Godspeed.Capability
