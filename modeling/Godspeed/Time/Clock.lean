import Godspeed.Lib.Transition
import Mathlib.Algebra.Ring.Int.Defs

/-!
# The wall clock of the time service

`Clock` in `services/time/src/main.rs`, and what the loop of the service does with it: it
takes readings, some of them to answer `OP_NOW`, tells it a network time and raises its
floor.  A hardware clock wins over everything else, so a network time that differs from it
is dropped at the next reading, or stops the clock.

Seconds are `i64`, whose sums wrap around (`wrap`): a floor near the largest one, which a file
can hold, stops the clock as well.  `answers`, `synced` and `seen` are records: the answers
since the last network time, that time, and the second of the last reading.
-/

namespace Godspeed.Time

open Transition

inductive Source
  | unset | rtc | ntp | floor
  deriving DecidableEq

/-- `MIN_PLAUSIBLE..MAX_PLAUSIBLE`. -/
def Plausible (epoch : Int) : Prop := 1577836800 ≤ epoch ∧ epoch < 4102444800

instance (epoch : Int) : Decidable (Plausible epoch) := inferInstanceAs (Decidable (_ ∧ _))

/-- An `i64`. -/
def Narrow (x : Int) : Prop := -2 ^ 63 ≤ x ∧ x < 2 ^ 63

instance (x : Int) : Decidable (Narrow x) := inferInstanceAs (Decidable (_ ∧ _))

/-- What a sum of two `i64` comes to. -/
def wrap (x : Int) : Int := (x + 2 ^ 63) % 2 ^ 64 - 2 ^ 63

lemma wrap_of_narrow {x : Int} (h : Narrow x) : wrap x = x := by
  unfold Narrow at h
  unfold wrap
  omega

/-- The monotonic seconds and what the hardware clock says. -/
structure Reading where
  mono : Int
  raw : Int

structure Clock where
  last : Int
  source : Source
  syncedAt : Int
  baseMono : Int
  floor : Int

namespace Clock

def new : Clock := ⟨0, .unset, 0, 0, 0⟩

variable (c : Clock)

def deglitch (raw : Int) : Int :=
  if c.last = 0 then raw else if raw < c.last ∨ wrap (c.last + 86400) < raw then c.last else raw

/-- Without a hardware clock the floor is a start. -/
def started (mono : Int) : Clock :=
  if c.last = 0 ∧ 0 < c.floor then
    { c with last := c.floor, baseMono := mono, source := .floor }
  else c

def now (c : Clock) (r : Reading) : Int × Clock :=
  if Plausible r.raw then
    let v := max (c.deglitch r.raw) c.floor
    (v, { c with
      last := v, baseMono := r.mono, source := if c.source = .unset then .rtc else c.source })
  else
    let c := c.started r.mono
    (if c.last = 0 then 0 else max (wrap (c.last + max (wrap (r.mono - c.baseMono)) 0)) c.floor, c)

def setNetwork (mono epoch : Int) : Option Clock :=
  if Plausible epoch then
    some { c with last := epoch, source := .ntp, syncedAt := mono, baseMono := mono }
  else none

/-- The end of `floor_adopt`. -/
def raise (v : Int) : Clock := if c.floor < v then { c with floor := v } else c

end Clock

/-- An answer to `OP_NOW`, with the floor it was given under. -/
structure Answer where
  mono : Int
  value : Int
  floor : Int
  deriving DecidableEq

structure Watch where
  clock : Clock
  seen : Int
  answers : List Answer
  synced : Option (Int × Int)

/-- A reading is taken, to answer `OP_NOW` or not, a network time comes in, or a floor. -/
inductive Watch.Act
  | read (r : Reading) (asked : Bool)
  | network (mono epoch : Int)
  | adopt (v : Int)

namespace Watch

def start (mono : Int) : Watch := ⟨.new, mono, [], none⟩

variable (s : Watch)

def read (r : Reading) : Watch := { s with clock := (s.clock.now r).2, seen := r.mono }

def answer (r : Reading) : Answer := ⟨r.mono, (s.clock.now r).1, s.clock.floor⟩

def step : Act → Option Watch
  | .read r asked =>
    some { s.read r with answers := if asked then s.answer r :: s.answers else s.answers }
  | .network mono epoch =>
    match s.clock.setNetwork mono epoch with
    | none => some s
    | some clock => some ⟨clock, mono, [], some (mono, epoch)⟩
  | .adopt v => some { s with clock := s.clock.raise v }

/-- The answers run with the monotonic clock, and start at the network time. -/
structure Runs (s : Watch) : Prop where
  even : ∀ a ∈ s.answers, ∀ b ∈ s.answers, b.value - a.value = b.mono - a.mono
  exact : ∀ a ∈ s.answers, ∀ epoch, s.synced = some (a.mono, epoch) → a.value = epoch

/-- The machine: its hardware clock is a constant ahead of the monotonic one, or there is
none, and the floor is below every reading. -/
def Given (hw : Option Int) (s : Watch) : Act → Prop
  | .read r _ => s.seen ≤ r.mono ∧ (hw = none → ¬ Plausible r.raw) ∧
      ∀ c ∈ hw, r.raw = r.mono + c ∧ Plausible r.raw ∧ s.clock.floor ≤ r.raw
  | .network mono epoch => s.seen ≤ mono ∧ s.clock.floor ≤ epoch
  | .adopt v => hw = none → s.clock.last ≠ 0 → v ≤ s.clock.last + (s.seen - s.clock.baseMono)

/-- No sum that a reading makes of the clock's seconds leaves their range. -/
def Bounded (c : Clock) (r : Reading) : Prop :=
  Narrow c.floor ∧ Narrow (c.last + 86400) ∧ Narrow (r.mono - c.baseMono) ∧
    Narrow (c.last + (r.mono - c.baseMono))

instance (c : Clock) (r : Reading) : Decidable (Bounded c r) := inferInstanceAs (Decidable (_ ∧ _))

/-- A hardware clock is read once a day and the network agrees with it; without one the
clock is not asked before it has a network time or a floor.  The seconds stay in range. -/
def Undisputed (hw : Option Int) (s : Watch) : Act → Prop
  | .read r asked => (hw ≠ none → s.clock.last ≠ 0 → r.mono ≤ s.seen + 86400) ∧
      (asked = true → hw = none → s.clock.last ≠ 0 ∨ 0 < s.clock.floor) ∧ Bounded s.clock r
  | .network mono epoch => ∀ c ∈ hw, epoch = mono + c
  | .adopt _ => True

instance (hw : Option Int) (s : Watch) (a : Act) : Decidable (s.Given hw a) := by
  unfold Given
  split <;> infer_instance

instance (hw : Option Int) (s : Watch) (a : Act) : Decidable (s.Undisputed hw a) := by
  unfold Undisputed
  split <;> infer_instance

/-- The answers and the network time are `k` ahead of the monotonic clock. -/
def Ahead (k : Int) (s : Watch) : Prop :=
  (∀ a ∈ s.answers, a.value = a.mono + k) ∧ ∀ m epoch, s.synced = some (m, epoch) → epoch = m + k

/-- What the readings follow: the hardware clock, or the last base. -/
def Follows (hw : Option Int) (s : Watch) : Prop :=
  match hw with
  | some c => (s.clock.last = 0 ∨ s.clock.last = s.seen + c) ∧ s.Ahead c
  | none =>
    (s.clock.last = 0 ∧ s.answers = [] ∧ s.synced = none) ∨
      (s.clock.last ≠ 0 ∧ s.clock.baseMono ≤ s.seen ∧
        s.clock.floor ≤ s.clock.last + (s.seen - s.clock.baseMono) ∧
        s.Ahead (s.clock.last - s.clock.baseMono))

variable {hw : Option Int} {c : Int} {s t : Watch} {r : Reading} {a : Act} {asked : Bool}

lemma now_of_hw (h : s.Follows (some c)) (hgiven : s.Given (some c) (.read r asked))
    (hok : s.Undisputed (some c) (.read r asked)) :
    (s.clock.now r).1 = r.mono + c ∧ (s.clock.now r).2.last = r.mono + c := by
  obtain ⟨hraw, hplausible, hfloor⟩ := hgiven.2.2 c rfl
  have hmono := hgiven.1
  have hvalue : max (s.clock.deglitch r.raw) s.clock.floor = r.mono + c := by
    have hlast := h.1
    have hday := wrap_of_narrow hok.2.2.2.1
    unfold Clock.deglitch
    split
    · omega
    rename_i hne
    have hbound := hok.1 nofun hne
    omega
  simp [Clock.now, hplausible, hvalue]

lemma now_of_none (hnone : ¬ Plausible r.raw) : s.clock.now r =
    (if (s.clock.started r.mono).last = 0 then 0 else max (wrap ((s.clock.started r.mono).last +
      max (wrap (r.mono - (s.clock.started r.mono).baseMono)) 0)) (s.clock.started r.mono).floor,
      s.clock.started r.mono) := if_neg hnone

/-- The floor as a start is in range too. -/
lemma Bounded.started {c : Clock} (h : Bounded c r) :
    Narrow (r.mono - (c.started r.mono).baseMono) ∧
      Narrow ((c.started r.mono).last + (r.mono - (c.started r.mono).baseMono)) := by
  unfold Clock.started
  split
  · have hfloor := h.1
    unfold Narrow at *
    dsimp only
    omega
  · exact h.2.2

section

variable (h : s.Follows hw)
include h

lemma Follows.read (hgiven : s.Given hw (.read r asked))
    (hok : s.Undisputed hw (.read r asked)) : (s.read r).Follows hw := by
  cases hw with
  | some c => exact ⟨.inr (now_of_hw h hgiven hok).2, h.2⟩
  | none =>
    obtain ⟨hmono, hnone, -⟩ := hgiven
    simp only [Follows, read, now_of_none (hnone rfl), Clock.started]
    rcases h with ⟨hlast, hans, hsynced⟩ | ⟨hlast, hbase, hfloor, hrest⟩
    · split
      · dsimp only
        exact .inr ⟨by omega, by omega, by omega, by simp [Ahead, hans, hsynced]⟩
      · exact .inl ⟨hlast, hans, hsynced⟩
    · rw [if_neg fun hstart => hlast hstart.1]
      exact .inr ⟨hlast, by omega, by omega, hrest⟩

lemma Follows.answer (hgiven : s.Given hw (.read r true)) (hok : s.Undisputed hw (.read r true)) :
    Follows hw { s.read r with answers := s.answer r :: s.answers } := by
  have hread := h.read hgiven hok
  cases hw with
  | some c =>
    exact ⟨hread.1, List.forall_mem_cons.mpr ⟨(now_of_hw h hgiven hok).1, h.2.1⟩, h.2.2⟩
  | none =>
    have hnone := hgiven.2.1 rfl
    have hlast : (s.clock.started r.mono).last ≠ 0 := by
      have hknown := hok.2.1 rfl rfl
      unfold Clock.started
      split
      · exact Int.ne_of_gt ‹_ ∧ _›.2
      · omega
    simp only [Follows, Watch.read, answer, now_of_none hnone] at hread ⊢
    obtain ⟨hnot, -⟩ | ⟨-, hbase, hfloor, hans, hsynced⟩ := hread
    · exact absurd hnot hlast
    refine .inr ⟨hlast, hbase, hfloor, List.forall_mem_cons.mpr ⟨?_, hans⟩, hsynced⟩
    obtain ⟨helapsed, hsum⟩ := hok.2.2.started
    have hpast : max (r.mono - (s.clock.started r.mono).baseMono) 0 =
        r.mono - (s.clock.started r.mono).baseMono := by omega
    simp only [wrap_of_narrow helapsed, hpast, wrap_of_narrow hsum]
    omega

lemma Follows.step (hgiven : s.Given hw a) (hok : s.Undisputed hw a)
    (hstep : s.step a = some t) : t.Follows hw := by
  cases a with
  | read r asked =>
    cases hstep
    cases asked with
    | false => exact h.read hgiven hok
    | true => exact h.answer hgiven hok
  | network mono epoch =>
    obtain ⟨hmono, hfloor⟩ := hgiven
    simp only [step, Clock.setNetwork] at hstep
    split at hstep
    · cases hstep
      exact h
    rename_i clock hclock
    split at hclock <;> cases hclock
    cases hstep
    rename_i hplausible
    cases hw with
    | some c =>
      refine ⟨.inr (hok c rfl), nofun, ?_⟩
      rintro _ _ ⟨⟩
      exact hok c rfl
    | none =>
      have hpos := hplausible.1
      refine .inr ⟨by dsimp only; omega, Int.le_refl _, by dsimp only; omega, nofun, ?_⟩
      rintro _ _ ⟨⟩
      dsimp only
      omega
  | adopt v =>
    cases hstep
    unfold Clock.raise
    split
    · cases hw with
      | some c => exact h
      | none =>
        rcases h with hnone | ⟨hlast, hbase, hfloor, hrest⟩
        · exact .inl hnone
        · exact .inr ⟨hlast, hbase, hgiven rfl hlast, hrest⟩
    · exact h

lemma Follows.runs : s.Runs := by
  obtain ⟨k, hans, hsynced⟩ : ∃ k, s.Ahead k := by
    cases hw with
    | some c => exact ⟨c, h.2⟩
    | none =>
      rcases h with ⟨-, hans, hsynced⟩ | ⟨-, -, -, hahead⟩
      · exact ⟨0, by simp [Ahead, hans, hsynced]⟩
      · exact ⟨_, hahead⟩
  refine ⟨fun a ha b hb => ?_, fun a ha epoch hepoch => ?_⟩
  · rw [hans a ha, hans b hb]
    omega
  · rw [hans a ha, hsynced _ _ hepoch]

end

lemma floor_le_now (c : Clock) (r : Reading) : c.floor ≤ (c.now r).1 := by
  unfold Clock.now Clock.started
  split
  · exact Int.le_max_right _ _
  split <;> dsimp only <;> split <;> omega

/-- **The wall clock runs** where nothing disputes it, and never goes below the floor. -/
theorem clock_runs (hw : Option Int) (mono : Int) :
    (∀ s, Reaches step (fun s a => s.Given hw a ∧ s.Undisputed hw a) (start mono) s → s.Runs) ∧
    ∀ s, Reaches step Free (start mono) s → ∀ a ∈ s.answers, a.floor ≤ a.value := by
  refine ⟨fun s h => ?_, fun s h => h.invariant
    (I := fun s => ∀ a ∈ s.answers, a.floor ≤ a.value) (by nofun) fun s a t hs _ hstep => ?_⟩
  · have hstart : (start mono).Follows hw := by
      cases hw with
      | some c => exact ⟨.inl rfl, nofun, nofun⟩
      | none => exact .inl ⟨rfl, rfl, rfl⟩
    exact (h.invariant hstart fun _ _ _ hs hok hstep => hs.step hok.1 hok.2 hstep).runs
  cases a with
  | read r asked =>
    cases hstep
    cases asked with
    | false => exact hs
    | true => exact List.forall_mem_cons.mpr ⟨floor_le_now s.clock r, hs⟩
  | network mono epoch =>
    simp only [step] at hstep
    split at hstep <;> cases hstep
    · exact hs
    · exact nofun
  | adopt v =>
    cases hstep
    exact hs

/-- Without a hardware clock, a network time and two answers. -/
theorem clock_runs_network : ∃ s, Reaches step
    (fun s a => s.Given none a ∧ s.Undisputed none a) (start 0) s ∧
    s.answers = [⟨30, 1700000020, 0⟩, ⟨10, 1700000000, 0⟩] ∧ s.Runs :=
  exists_reaches_and [.network 10 1700000000, .read ⟨10, 0⟩ true, .read ⟨30, 0⟩ true]
    (by decide) fun s hs _ => (clock_runs none 0).1 s hs

/-- The network is an hour ahead of the hardware clock: the clock stands still. -/
theorem clock_stands_still : ∃ s, Reaches step (Given (some 1700000000)) (start 0) s ∧
    s.answers = [⟨40, 1700003600, 0⟩, ⟨20, 1700003600, 0⟩] :=
  exists_reaches [.read ⟨0, 1700000000⟩ false, .network 10 1700003600,
    .read ⟨20, 1700000020⟩ true, .read ⟨40, 1700000040⟩ true] (by decide)

end Watch

end Godspeed.Time
