import Godspeed.Lib.Acyclic
import Godspeed.Lib.Transition
import Godspeed.Pm.Install

/-!
# The boot of the installed packages

At boot the supervisor goes over the installed list again and again, starting
every package whose requirements are running, until a pass starts nothing.

* `boot_inOrder`: packages are started in dependency order, as many as can be.
* `started_of_acyclic`: if every requirement is listed and starting it leaves its
  task alive, and no package requires itself through others, all are started.
* `lists_start`: the lists that installs and uninstalls reach are such lists, as
  long as no install closes a circle (`Sound`).
-/

namespace Godspeed.Pm

open List Disk

open Relation (Acyclic TransGen ReflTransGen)
open Transition Sample

/-- The most installed packages one boot starts in order. -/
def bootMax : Nat := 128

structure Boot where
  /-- The tasks that are alive. -/
  alive : List (List Char)
  /-- The packages that were started. -/
  started : List Entry
deriving DecidableEq, Repr

section Passes

variable {V R : Type} [Format V R] (shelf : Shelf V R) (spawns : Boot → Entry → Bool)

/-- The first requirement of a package that is not running. -/
def waitingOn (alive : List (List Char)) (e : Entry) : Option (List Char) :=
  ((shelf.wants e).map (·.name.text)).find? (!alive.contains ·)

/-- One package started; `spawns` says whether that leaves its task alive, which
may hang on what was started before. -/
def Boot.start (b : Boot) (e : Entry) : Boot where
  alive := if spawns b e then e.1 :: b.alive else b.alive
  started := e :: b.started

/-- One pass over the list, with a mark at every package that was started, and
whether the pass started any. -/
def pass : List (Entry × Bool) → Boot → List (Entry × Bool) × Boot × Bool
  | [], b => ([], b, false)
  | (e, done) :: es, b =>
    if done ∨ (waitingOn shelf b.alive e).isSome then
      let r := pass es b
      ((e, done) :: r.1, r.2)
    else
      let r := pass es (b.start spawns e)
      ((e, true) :: r.1, r.2.1, true)

/-- The passes until one starts nothing, at most `n`. -/
def passes : Nat → List (Entry × Bool) → Boot → List (Entry × Bool) × Boot
  | 0, es, b => (es, b)
  | n + 1, es, b =>
    let r := pass shelf spawns es b
    if r.2.2 then passes n r.1 r.2.1 else (r.1, r.2.1)

/-- The installed list read and started, with `alive` the tasks that run before.
Each pass but the last starts a package, so there is one more than packages. -/
def tryBootWith (alive : List (List Char)) (file : Option (List Char)) :
    List (Entry × Bool) × Boot :=
  match readList file with
  | none => ([], ⟨alive, []⟩)
  | some t =>
    let es := (entries t).take bootMax
    passes shelf spawns (es.length + 1) (es.map (·, false)) ⟨alive, []⟩

/-- With starts whose outcome is the package's own. -/
def tryBoot (spawns : Entry → Bool) :
    List (List Char) → Option (List Char) → List (Entry × Bool) × Boot :=
  tryBootWith shelf fun _ => spawns

variable {fs : List (Entry × Bool)} {b : Boot}

lemma pass_entries (fs : List (Entry × Bool)) (b : Boot) :
    (pass shelf spawns fs b).1.map Prod.fst = fs.map Prod.fst := by
  induction fs generalizing b with
  | nil => rfl
  | cons f fs ih =>
    obtain ⟨e, done⟩ := f
    rw [pass]
    split
    · simp [ih b]
    · simp [ih (b.start spawns e)]

/-- A pass that starts nothing changes nothing, and every package without a mark
waits. -/
lemma pass_idle (h : (pass shelf spawns fs b).2.2 = false) :
    (pass shelf spawns fs b).1 = fs ∧ (pass shelf spawns fs b).2.1 = b ∧
      ∀ e, (e, false) ∈ fs → (waitingOn shelf b.alive e).isSome := by
  induction fs generalizing b with
  | nil => simp [pass]
  | cons f fs ih =>
    obtain ⟨e, done⟩ := f
    rw [pass] at h ⊢
    split at h
    next hskip =>
      obtain ⟨hfst, hboot, hwait⟩ := ih h
      rw [if_pos hskip]
      refine ⟨congrArg ((e, done) :: ·) hfst, hboot, fun e' he' => ?_⟩
      rcases mem_cons.mp he' with heq | he'
      · cases heq
        simpa using hskip
      · exact hwait e' he'
    · cases h

/-- The packages that are not yet started. -/
def undone (fs : List (Entry × Bool)) : Nat :=
  fs.countP (!·.2)

lemma undone_pass (fs : List (Entry × Bool)) (b : Boot) :
    undone (pass shelf spawns fs b).1 + (pass shelf spawns fs b).2.2.toNat ≤ undone fs := by
  induction fs generalizing b with
  | nil => exact le_rfl
  | cons f fs ih =>
    obtain ⟨e, done⟩ := f
    rw [pass]
    split
    · have := ih b
      simp only [undone, countP_cons] at this ⊢
      omega
    next hstart =>
      have := ih (b.start spawns e)
      have hdone : done = false := by simpa using (not_or.mp hstart).1
      simp only [undone, countP_cons, hdone, Bool.toNat_true] at this ⊢
      simp only [Bool.not_true, Bool.not_false, Bool.false_eq_true, if_false, if_true]
      omega

lemma passes_keep {P : List (Entry × Bool) → Boot → Prop} (n : Nat) (fs : List (Entry × Bool))
    (b : Boot)
    (hstep : ∀ fs b, P fs b → P (pass shelf spawns fs b).1 (pass shelf spawns fs b).2.1)
    (h : P fs b) : P (passes shelf spawns n fs b).1 (passes shelf spawns n fs b).2 := by
  induction n generalizing fs b with
  | zero => exact h
  | succ n ih =>
    rw [passes]
    split
    · exact ih _ _ (hstep fs b h)
    · exact hstep fs b h

lemma passes_idle {n : Nat} (fs : List (Entry × Bool)) (b : Boot) (hn : undone fs < n) :
    (pass shelf spawns (passes shelf spawns n fs b).1 (passes shelf spawns n fs b).2).2.2 =
      false := by
  induction n generalizing fs b with
  | zero => omega
  | succ n ih =>
    rw [passes]
    split
    next hprogress =>
      have hless := undone_pass shelf spawns fs b
      rw [hprogress, Bool.toNat_true] at hless
      exact ih _ _ (by omega)
    next hidle =>
      have hidle : (pass shelf spawns fs b).2.2 = false := by simpa using hidle
      obtain ⟨hfst, hboot, -⟩ := pass_idle shelf spawns hidle
      rwa [hfst, hboot]

/-- A package started while all that it requires is running. -/
def StartsNext (b b' : Boot) : Prop :=
  ∃ e, (∀ r ∈ shelf.wants e, r.name.text ∈ b.alive) ∧ b' = b.start spawns e

lemma waitingOn_eq_none {alive : List (List Char)} {e : Entry} :
    waitingOn shelf alive e = none ↔ ∀ r ∈ shelf.wants e, r.name.text ∈ alive := by
  simp [waitingOn]

/-- One pass starts packages one by one, each when it can be, and marks the lines
it started. -/
lemma pass_starts (fs : List (Entry × Bool)) (b : Boot) :
    ReflTransGen (StartsNext shelf spawns) b (pass shelf spawns fs b).2.1 ∧
      ((pass shelf spawns fs b).2.1.started ++ (fs.filter (·.2)).map Prod.fst).Perm
        (((pass shelf spawns fs b).1.filter (·.2)).map Prod.fst ++ b.started) := by
  induction fs generalizing b with
  | nil => exact ⟨.refl, by simp [pass]⟩
  | cons f fs ih =>
    obtain ⟨e, done⟩ := f
    rw [pass]
    split
    · obtain ⟨hreach, hperm⟩ := ih b
      refine ⟨hreach, ?_⟩
      cases done with
      | false => simpa using hperm
      | true => simpa using perm_middle.trans (hperm.cons e)
    next hready =>
      obtain ⟨hdone, hready⟩ := not_or.mp hready
      have hwants := (waitingOn_eq_none shelf).mp (Option.not_isSome_iff_eq_none.mp hready)
      obtain ⟨hreach, hperm⟩ := ih (b.start spawns e)
      refine ⟨.head ⟨e, hwants, rfl⟩ hreach, ?_⟩
      simpa [hdone] using hperm.trans perm_middle

/-- What a boot that began as `b₀` has done with the lines, and when. -/
structure InOrder (lines : List Entry) (b₀ : Boot) (out : List (Entry × Bool) × Boot) : Prop where
  lines : out.1.map Prod.fst = lines
  /-- one after the other, each when all that it requires is running -/
  ordered : ReflTransGen (StartsNext shelf spawns) b₀ out.2
  /-- a line is started at most once -/
  once : out.2.started.Perm ((out.1.filter (·.2)).map Prod.fst)
  /-- one more pass would start nothing -/
  ended : (pass shelf spawns out.1 out.2).2.2 = false
  /-- a line never started requires what is not running -/
  waits : ∀ e, (e, false) ∈ out.1 → ∃ r ∈ shelf.wants e, r.name.text ∉ out.2.alive

lemma passes_inOrder (es : List Entry) (alive : List (List Char)) :
    InOrder shelf spawns es ⟨alive, []⟩
      (passes shelf spawns (es.length + 1) (es.map (·, false)) ⟨alive, []⟩) := by
  have hidle := passes_idle shelf spawns (n := es.length + 1) (es.map (·, false)) ⟨alive, []⟩
    (Nat.lt_succ_of_le (countP_le_length.trans (by simp)))
  obtain ⟨hsame, hreach, hperm⟩ := passes_keep shelf spawns (es.length + 1)
    (es.map (·, false)) ⟨alive, []⟩
    (P := fun fs b => fs.map Prod.fst = es ∧ ReflTransGen (StartsNext shelf spawns) ⟨alive, []⟩ b ∧
      b.started.Perm ((fs.filter (·.2)).map Prod.fst))
    (by
      rintro fs b ⟨hsame, hreach, hperm⟩
      obtain ⟨hmore, hmarks⟩ := pass_starts shelf spawns fs b
      refine ⟨(pass_entries ..).trans hsame, hreach.trans hmore, ?_⟩
      exact (perm_append_right_iff _).mp (hmarks.trans (hperm.append_left _)))
    ⟨by simp [Function.comp_def], .refl, by simp⟩
  refine ⟨hsame, hreach, hperm, hidle, fun e he => ?_⟩
  have hwait := (pass_idle shelf spawns hidle).2.2 e he
  rw [← Option.ne_none_iff_isSome, Ne, waitingOn_eq_none] at hwait
  simpa using hwait

/-- **A boot goes in dependency order, as far as it can**, whatever the first 128
lines of the list require of each other. -/
theorem boot_inOrder (alive : List (List Char)) (file : Option (List Char)) :
    InOrder shelf spawns ((entries ((readList file).getD [])).take bootMax) ⟨alive, []⟩
      (tryBootWith shelf spawns alive file) := by
  rw [tryBootWith]
  cases readList file with
  | none => exact ⟨rfl, .refl, .nil, rfl, by simp⟩
  | some t => exact passes_inOrder shelf spawns _ alive

section Own

variable (spawns : Entry → Bool)

/-- A package whose start leaves its task alive is alive once it was started. -/
lemma alive_of_starts {alive : List (List Char)}
    (h : ReflTransGen (StartsNext shelf fun _ => spawns) ⟨alive, []⟩ b) {e : Entry}
    (he : e ∈ b.started) (hspawns : spawns e) : e.1 ∈ b.alive := by
  induction h with
  | refl => cases he
  | tail _ hnext ih =>
    obtain ⟨e', -, rfl⟩ := hnext
    simp only [Boot.start]
    rcases mem_cons.mp he with rfl | he
    · simp [hspawns]
    · split
      · exact mem_cons_of_mem _ (ih he)
      · exact ih he

def Needs (shelf : Shelf V R) (es : List Entry) (p q : List Char) : Prop :=
  ∃ e ∈ es, e.1 = p ∧ ∃ r ∈ shelf.wants e, r.name.text = q

/-- **All are started**: without a circle, and with every requirement on the list
as a package whose start leaves its task alive. -/
theorem started_of_acyclic {file : Option (List Char)} {t : List Char}
    (alive : List (List Char)) (hread : readList file = some t)
    (hshort : (entries t).length ≤ bootMax) (hacyclic : Acyclic (Needs shelf (entries t)))
    (hlisted : ∀ e ∈ entries t, ∀ r ∈ shelf.wants e,
      ∃ e' ∈ entries t, e'.1 = r.name.text ∧ spawns e') :
    ∀ e ∈ entries t, e ∈ (tryBoot shelf spawns alive file).2.started := by
  have horder := passes_inOrder shelf (fun _ => spawns) (entries t) alive
  rw [tryBoot, tryBootWith, hread]
  simp only [take_of_length_le hshort]
  generalize passes shelf (fun _ => spawns) ((entries t).length + 1) ((entries t).map (·, false))
    ⟨alive, []⟩ = out at horder
  have hmem : ∀ e, e ∈ entries t ↔ ∃ done, (e, done) ∈ out.1 := by
    rw [← horder.lines]
    simp
  have hmark : ∀ e, (e, true) ∈ out.1 → e ∈ out.2.started := by
    intro e he
    simpa [horder.once.mem_iff] using he
  -- the packages that were not started have none that is last
  have hall : ∀ e, (e, false) ∉ out.1 := by
    intro e₀ he₀
    let rest : Set (List Char) := {p | ∃ e, (e, false) ∈ out.1 ∧ e.1 = p}
    have hfin : rest.Finite := by
      refine (finite_toSet (out.1.map (·.1.1))).subset ?_
      rintro p ⟨e, he, rfl⟩
      exact mem_map.mpr ⟨(e, false), he, rfl⟩
    obtain ⟨p, ⟨e, he, rfl⟩, hlast⟩ := hacyclic.exists_last hfin ⟨e₀.1, e₀, he₀, rfl⟩
    obtain ⟨r, hr, hdead⟩ := horder.waits e he
    have helisted : e ∈ entries t := (hmem e).mpr ⟨false, he⟩
    obtain ⟨e', he', hname, hspawns⟩ := hlisted e helisted r hr
    obtain ⟨done, hdone⟩ := (hmem e').mp he'
    cases done with
    | true =>
      exact hdead (hname ▸ alive_of_starts shelf spawns horder.ordered (hmark e' hdone) hspawns)
    | false => exact hlast r.name.text ⟨e', hdone, hname⟩ ⟨e, helisted, rfl, r, hr, rfl⟩
  intro e he
  obtain ⟨done, hdone⟩ := (hmem e).mp he
  cases done with
  | true => exact hmark e hdone
  | false => exact absurd hdone (hall e)

end Own

end Passes

variable {d : Disk}

section Runs

variable {V R : Type} [Format V R] {shelf : Shelf V R}

/-- A listed package is one that runs to be needed. -/
def runsAt (shelf : Shelf V R) (e : Entry) : Bool :=
  (shelf.manifest e.1 e.2).any (·.kind.runs)

def commandStep [LinearOrder V] (shelf : Shelf V R) (d : Disk) (cmd : Command) : Option Disk :=
  some (cmd.run shelf d).1

/-- A disk on which nothing is installed. -/
def Disk.blank : Disk where
  list := none
  grant := fun _ => none

/-- The installs that keep the installed packages in an order to start them in:
* the version has 24 bytes at most;
* nothing that it requires leads back, through listed packages, to the package;
* what it requires is listed as a service or a driver, and it is one itself if a
  listed package requires it;
* it is not an install, whose start fails, of the version already listed for a
  package that a listed package requires. -/
structure SoundInstall (shelf : Shelf V R) (d : Disk) (f : Fetched) (c : Checked V R)
    (a : Answers) : Prop where
  short : Text.size f.version ≤ versionMax
  outward : ∀ r ∈ c.manifest.requires, ¬ TransGen (Needs shelf d.entries) r.name.text f.pkg
  needs_run : ∀ r ∈ c.manifest.requires, ∀ v, versionOf d.entries r.name.text = some v →
    runsAt shelf (r.name.text, v) = true
  runs : ¬ Unneeded shelf d.entries f.pkg → c.manifest.kind.runs = true
  fresh : a.start = false → versionOf d.entries f.pkg = some f.version →
    Unneeded shelf d.entries f.pkg

/-- The commands that keep the installed packages in an order to start them in. -/
def Sound [LinearOrder V] (shelf : Shelf V R) (d : Disk) : Command → Prop
  | .install which grant a => ∀ f c granted,
      vet shelf d.list which grant = .ok (f, c, granted) → SoundInstall shelf d f c a
  | .uninstall _ => True

/-- What holds of the lists that sound commands reach. -/
structure Orderly (shelf : Shelf V R) (d : Disk) : Prop where
  readable : ∃ t, readList d.list = some t
  met : d.Met shelf
  acyclic : Acyclic (Needs shelf d.entries)
  needs_run : ∀ e ∈ d.entries, ∀ r ∈ shelf.wants e, ∀ v,
    versionOf d.entries r.name.text = some v → runsAt shelf (r.name.text, v) = true
  short : ∀ e ∈ d.entries, Text.size e.2 ≤ versionMax
  long : ∀ e ∈ d.entries, 3 ≤ e.1.length ∧ 5 ≤ e.2.length

lemma entries_blank : blank.entries = [] := rfl

lemma orderly_blank : Orderly shelf blank := by
  refine ⟨⟨[], rfl⟩, ?_, fun p hcycle => ?_, ?_, ?_, ?_⟩
  · simp [Disk.Met, Met, entries_blank]
  · obtain ⟨q, ⟨e, he, -⟩, -⟩ := TransGen.head'_iff.mp hcycle
    cases he
  all_goals simp [entries_blank]

lemma readable_delist {pkg : List Char} (h : ∃ t, readList d.list = some t) :
    ∃ t, readList (delist d pkg).list = some t := by
  rw [delist]
  split
  next out hout =>
    exact ⟨out, readList_of_writeList hout⟩
  · exact h

lemma readable_run [LinearOrder V] (shelf : Shelf V R) (cmd : Command)
    (h : ∃ t, readList d.list = some t) : ∃ t, readList (cmd.run shelf d).1.list = some t := by
  cases cmd with
  | uninstall pkg =>
    rw [Command.run, uninstall]
    repeat' split
    all_goals first
      | exact h
      | exact ⟨_, readList_of_writeList ‹_›⟩
  | install which grant a =>
    rw [Command.run, install]
    split
    · exact h
    split
    · exact h
    rename_i out hout
    have hlisted : ∃ t, readList (some out) = some t := ⟨out, readList_of_writeList hout⟩
    split
    · exact hlisted
    rw [undo]
    repeat' split
    all_goals first
      | exact hlisted
      | exact readable_delist hlisted
      | exact ⟨_, readList_of_writeList ‹_›⟩

lemma Needs.of_drop {es : List Entry} {pkg p q : List Char} (h : Needs shelf (drop es pkg) p q) :
    Needs shelf es p q := by
  obtain ⟨e, he, hp, hr⟩ := h
  exact ⟨e, (mem_drop.mp he).1, hp, hr⟩

lemma Needs.of_put {es : List Entry} {pkg version p q : List Char}
    (h : Needs shelf (put es pkg version) p q) :
    Needs shelf es p q ∨ (p = pkg ∧ ∃ r ∈ shelf.wants (pkg, version), r.name.text = q) := by
  obtain ⟨e, he, hp, hr⟩ := h
  rcases mem_put.mp he with ⟨he, -⟩ | rfl
  · exact .inl ⟨e, he, hp, hr⟩
  · exact .inr ⟨hp.symm, hr⟩

namespace Orderly

variable {d d' : Disk} {f : Fetched} {c : Checked V R} {t : List Char} {a : Answers}
  {pkg version : List Char}

section

variable (h : Orderly shelf d)
include h

lemma of_drop (hread : ∃ t, readList d'.list = some t)
    (hents : d'.entries = drop d.entries pkg) (hmet : d'.Met shelf) : Orderly shelf d' where
  readable := hread
  met := hmet
  acyclic := by
    rw [hents]
    exact h.acyclic.mono fun _ _ => Needs.of_drop
  needs_run := by
    intro e he r hr v hv
    rw [hents] at he hv
    have hne : r.name.text ≠ pkg := by
      intro heq
      rw [heq, versionOf_drop_self] at hv
      cases hv
    rw [versionOf_drop _ hne] at hv
    exact h.needs_run e (mem_drop.mp he).1 r hr v hv
  short := fun e he => h.short e (mem_drop.mp (hents ▸ he)).1
  long := fun e he => h.long e (mem_drop.mp (hents ▸ he)).1

lemma of_restore (hread : ∃ t, readList d'.list = some t)
    (hold : versionOf d.entries pkg = some version)
    (hents : d'.entries = put d.entries pkg version) (hmet : d'.Met shelf) :
    Orderly shelf d' := by
  have hin := mem_of_versionOf hold
  have hversion : ∀ q, versionOf d'.entries q = versionOf d.entries q := by
    intro q
    rw [hents, versionOf_put]
    split
    next hq =>
      rw [hq, hold]
    · rfl
  have hmem : ∀ e ∈ d'.entries, e ∈ d.entries := by
    intro e he
    rw [hents] at he
    rcases mem_put.mp he with ⟨he, -⟩ | rfl
    · exact he
    · exact hin
  refine ⟨hread, hmet, ?_, fun e he r hr v hv => ?_, fun e he => h.short e (hmem e he),
    fun e he => h.long e (hmem e he)⟩
  · refine h.acyclic.mono fun p q hneeds => ?_
    obtain ⟨e, he, hp, hr⟩ := hneeds
    exact ⟨e, hmem e he, hp, hr⟩
  · rw [hversion] at hv
    exact h.needs_run e (hmem e he) r hr v hv

lemma of_put (hadm : Admitted shelf d.list f c t)
    (hsound : SoundInstall shelf d f c a) (hread : ∃ t, readList d'.list = some t)
    (hents : d'.entries = put d.entries f.pkg f.version) (hmet : d'.Met shelf) :
    Orderly shelf d' where
  readable := hread
  met := hmet
  acyclic := by
    rw [hents]
    refine h.acyclic.graft (p := f.pkg) (fun p q hneeds hp => ?_) (fun hself => ?_) fun q hq => ?_
    · exact hneeds.of_put.resolve_right fun hnew => hp hnew.1
    · -- the entry of the package is the new one alone
      obtain ⟨e, he, hp, r, hr, hname⟩ := hself
      rcases mem_put.mp he with ⟨-, hne⟩ | rfl
      · exact hne hp
      · rw [hadm.wants_eq] at hr
        exact hadm.name_ne hr hname
    · obtain ⟨e, he, hp, r, hr, rfl⟩ := hq
      rcases mem_put.mp he with ⟨-, hne⟩ | rfl
      · exact absurd hp hne
      · rw [hadm.wants_eq] at hr
        exact hsound.outward r hr
  needs_run := by
    intro e he r hr v hv
    rw [hents] at he hv
    rw [versionOf_put] at hv
    rcases mem_put.mp he with ⟨he, hne⟩ | rfl
    · split at hv
      next hname =>
        cases hv
        have hneeded : ¬ Unneeded shelf d.entries f.pkg := fun hun => hun e he hne r hr hname
        rw [hname, runsAt, (shelf.check_names f c hadm.check).1]
        exact hsound.runs hneeded
      · exact h.needs_run e he r hr v hv
    · rw [hadm.wants_eq] at hr
      rw [if_neg (hadm.name_ne hr)] at hv
      exact hsound.needs_run r hr v hv
  short := by
    intro e he
    rw [hents] at he
    rcases mem_put.mp he with ⟨he, -⟩ | rfl
    · exact h.short e he
    · exact hsound.short
  long := by
    intro e he
    rw [hents] at he
    rcases mem_put.mp he with ⟨he, -⟩ | rfl
    · exact h.long e he
    · obtain ⟨-, hname, hversion⟩ := shelf.check_names f c hadm.check
      exact ⟨hname ▸ c.manifest.name.length_text, hversion ▸ Format.length_text _⟩

lemma of_same (hread : ∃ t, readList d'.list = some t)
    (hents : d'.entries = d.entries) : Orderly shelf d' where
  readable := hread
  met := by
    rw [Disk.Met, hents]
    exact h.met
  acyclic := hents ▸ h.acyclic
  needs_run := hents ▸ h.needs_run
  short := hents ▸ h.short
  long := hents ▸ h.long

lemma met_run [LinearOrder V] {cmd : Command}
    (hsound : Sound shelf d cmd) : (cmd.run shelf d).1.Met shelf := by
  refine (met_iff_not_breaks cmd h.met).mpr ?_
  cases cmd with
  | uninstall pkg => exact id
  | install which grant a =>
    intro hbreaks
    obtain ⟨f, c, granted, hvet, -, hstart, hold, hdep⟩ :=
      (breaks_iff_of_short h.met h.short).mp hbreaks
    exact not_unneeded_iff.mpr hdep ((hsound f c granted hvet).fresh hstart hold)

/-- **One sound command.** -/
theorem run [LinearOrder V] {cmd : Command} (hsound : Sound shelf d cmd) :
    Orderly shelf (cmd.run shelf d).1 := by
  have hread := readable_run shelf cmd h.readable
  have hmet := h.met_run hsound
  cases cmd with
  | uninstall pkg =>
    rcases entries_uninstall shelf d pkg with hsame | ⟨hdrop, -⟩
    · exact h.of_same hread hsame
    · exact h.of_drop hread hdrop hmet
  | install which grant a =>
    by_cases hwritten : ∃ f c granted, vet shelf d.list which grant = .ok (f, c, granted) ∧
        Fits d.list f.pkg (lineOf f.pkg f.version)
    · obtain ⟨f, c, granted, hvet, hfits⟩ := hwritten
      obtain ⟨-, t, hadm⟩ := vet_ok hvet
      have hents := hadm.entries_install (a := a) hvet hfits
      cases hleaves : leaves d f a with
      | none => exact h.of_drop hread (by rw [Command.run, hents, hleaves]; rfl) hmet
      | some v =>
        rw [hleaves] at hents
        by_cases hnew : v = f.version
        · exact h.of_put hadm (hsound f c granted hvet) hread (hnew ▸ hents) hmet
        · exact h.of_restore hread (versionOf_of_leaves h.short hleaves hnew) hents hmet
    · refine h.of_same hread (entries_install_of_refused fun f c granted hvet hfits => ?_)
      exact hwritten ⟨f, c, granted, hvet, hfits⟩

end

lemma reached [LinearOrder V] (hrun : Reaches (commandStep shelf) (Sound shelf) blank d) :
    Orderly shelf d := by
  refine hrun.invariant orderly_blank fun d cmd d' h hsound hstep => ?_
  cases hstep
  exact h.run hsound

end Orderly

/-- **The installed packages require each other in no circle, and a boot starts
them all**, when every command was sound and every start of a service or a driver
leaves its task alive. -/
theorem lists_start [LinearOrder V] (shelf : Shelf V R) {d : Disk}
    (hrun : Reaches (commandStep shelf) (Sound shelf) blank d) :
    Acyclic (Needs shelf d.entries) ∧
      ∀ (spawns : Entry → Bool) (alive : List (List Char)),
        (∀ e ∈ d.entries, runsAt shelf e = true → spawns e = true) →
        ∀ e ∈ d.entries, e ∈ (tryBoot shelf spawns alive d.list).2.started := by
  have h := Orderly.reached hrun
  refine ⟨h.acyclic, fun spawns alive hspawns => ?_⟩
  obtain ⟨t, ht⟩ := h.readable
  have hentries : d.entries = entries t := by
    rw [Disk.entries, readList_getD ht]
  have hsize : Text.size t ≤ listMax := by
    cases hlist : d.list with
    | none =>
      rw [hlist] at ht
      cases ht
      simp
    | some s =>
      rw [hlist, readList, Option.ite_none_right_eq_some] at ht
      exact (Option.some.inj ht.2) ▸ ht.1
  rw [hentries]
  refine started_of_acyclic _ _ alive ht (length_entries_le hsize (hentries ▸ h.long))
    (hentries ▸ h.acyclic) fun e he r hr => ?_
  rw [← hentries] at he ⊢
  have hmeets := h.met e he r hr
  rw [meets] at hmeets
  cases hv : versionOf d.entries r.name.text with
  | none => simp [hv] at hmeets
  | some v =>
    have hin := mem_of_versionOf hv
    exact ⟨_, hin, rfl, hspawns _ hin (h.needs_run e he r hr v hv)⟩

instance (shelf : Shelf V R) (es : List Entry) (p q : List Char) : Decidable (Needs shelf es p q) :=
  inferInstanceAs (Decidable (∃ e ∈ es, e.1 = p ∧ ∃ r ∈ shelf.wants e, r.name.text = q))

end Runs

namespace Sample

/-- `p/a 1.2.0`, a service that requires `p/b ^1.0.0`. -/
def returning : Manifest Version VersionReq where
  name := named 'a' isPart_a
  version := ⟨1, 2, 0⟩
  kind := .service
  requires := [⟨named 'b' isPart_b, .caret ⟨1, 0, 0⟩⟩]
  few := by decide
  once := by decide
  selfless := by decide

/-- `p/b 1.0.0` requires `p/a`, and `p/a` requires `p/b` from `1.2.0` on. -/
def turned : Shelf Version VersionReq :=
  .ofReleases [alone ⟨1, 0, 0⟩, returning, needing]

def installA : Command :=
  .install "p/a@1.0.0".toList "none".toList ⟨true, true⟩

def installB : Command :=
  .install "p/b".toList "none".toList ⟨true, true⟩

/-- The newest `p/a`. -/
def upgradeA : Command :=
  .install "p/a".toList "none".toList ⟨true, true⟩

/-- With `p/a` installed. -/
def withA : Disk :=
  (installA.run turned blank).1

/-- With `p/a` and `p/b` installed. -/
def withB : Disk :=
  (installB.run turned withA).1

lemma entries_withA : withA.entries = [("p/a".toList, "1.0.0".toList)] := by
  decide +kernel

lemma entries_withB :
    withB.entries = [("p/a".toList, "1.0.0".toList), ("p/b".toList, "1.0.0".toList)] := by
  decide +kernel

lemma sound_of_vet {which grant : List Char} {a : Answers} {f : Fetched}
    (hpick : turned.pick which = some f)
    (h : ∀ c, turned.check f = some c → SoundInstall turned d f c a) :
    Sound turned d (.install which grant a) := by
  intro f' c granted hvet
  obtain ⟨hf, t, hadm⟩ := vet_ok hvet
  cases hpick.symm.trans hf
  exact h c hadm.check

lemma sound_installA : Sound turned blank installA := by
  refine sound_of_vet (f := ⟨['p'], ['a'], "1.0.0".toList⟩) (by decide +kernel) fun c _ => ?_
  have hunneeded : Unneeded turned blank.entries "p/a".toList := by
    simp [entries_blank, Unneeded]
  refine ⟨by decide, fun r _ hpath => ?_, fun r _ v hv => ?_, fun h => absurd hunneeded h,
    fun _ _ => hunneeded⟩
  · obtain ⟨q, ⟨e, he, -⟩, -⟩ := TransGen.head'_iff.mp hpath
    simp [entries_blank] at he
  · simp [entries_blank, versionOf] at hv

lemma sound_installB : Sound turned withA installB := by
  refine sound_of_vet (f := ⟨['p'], ['b'], "1.0.0".toList⟩) (by decide +kernel) fun c hc => ?_
  have hcheck : turned.check ⟨['p'], ['b'], "1.0.0".toList⟩ = some ⟨needing, Contract.blank⟩ := rfl
  cases hcheck.symm.trans hc
  have hname : ∀ r ∈ needing.requires, r.name.text = "p/a".toList := by decide
  refine ⟨by decide, fun r hr hpath => ?_, fun r hr v hv => ?_, fun _ => rfl,
    fun h => absurd h (by decide)⟩
  · -- `p/a 1.0.0` requires nothing, so no path leaves it
    obtain ⟨q, ⟨e, he, -, r', hr', -⟩, -⟩ := TransGen.head'_iff.mp hpath
    rw [entries_withA, mem_singleton] at he
    rw [he] at hr'
    cases hr'
  · rw [hname r hr] at hv
    have hversion : v = "1.0.0".toList := by
      have hlisted : versionOf [("p/a".toList, "1.0.0".toList)] "p/a".toList =
          some "1.0.0".toList := by decide
      exact Option.some.inj (hv.symm.trans hlisted)
    rw [hname r hr, hversion]
    decide +kernel

def turning : List Command :=
  [installA, installB, upgradeA]

end Sample

/-- `p/a` and then `p/b`, which requires it, are installed; a boot starts both. -/
theorem lists_start_two :
    Reaches (commandStep turned) (Sound turned) blank withB ∧
      withB.entries = [("p/a".toList, "1.0.0".toList), ("p/b".toList, "1.0.0".toList)] ∧
      Acyclic (Needs turned withB.entries) ∧
      ∀ e ∈ withB.entries, e ∈ (tryBoot turned (fun _ => true) [] withB.list).2.started := by
  have hrun : Reaches (commandStep turned) (Sound turned) blank withB :=
    .tail installB (.single sound_installA rfl) sound_installB rfl
  obtain ⟨hacyclic, hstart⟩ := lists_start turned hrun
  exact ⟨hrun, entries_withB, hacyclic, hstart (fun _ => true) [] fun _ _ _ => rfl⟩

/-- After `p/a` and `p/b`, which requires it, `p/a` is upgraded to a version that
requires `p/b`: both are listed, each requires the other, and a boot starts
neither. -/
theorem upgrade_turns : ∃ d,
    Reaches (commandStep turned) Free blank d ∧
      d.entries = [("p/b".toList, "1.0.0".toList), ("p/a".toList, "1.2.0".toList)] ∧
      ¬ Acyclic (Needs turned d.entries) ∧
      (tryBoot turned (fun _ => true) [] d.list).2.started = [] := by
  obtain ⟨d, hrun, hentries, hboot⟩ :
      ∃ d, Reaches (commandStep turned) Free blank d ∧
        d.entries = [("p/b".toList, "1.0.0".toList), ("p/a".toList, "1.2.0".toList)] ∧
        (tryBoot turned (fun _ => true) [] d.list).2.started = [] :=
    exists_reaches turning (by decide +kernel)
  refine ⟨d, hrun, hentries, fun hacyclic => ?_, hboot⟩
  rw [hentries] at hacyclic
  refine hacyclic "p/a".toList (.tail (b := "p/b".toList) (.single ?_) ?_)
  · decide +kernel
  · decide +kernel

/-- **No package is listed twice**, whatever commands were given. -/
theorem listed_once {V R : Type} [Format V R] [LinearOrder V] {shelf : Shelf V R}
    {ok : Disk → Command → Prop} (hrun : Reaches (commandStep shelf) ok blank d) :
    (d.entries.map Prod.fst).Nodup := by
  refine hrun.invariant (I := fun d => (d.entries.map Prod.fst).Nodup) nodup_nil
    fun d cmd d' h _ hstep => ?_
  cases hstep
  rcases entries_run shelf d cmd with hsame | ⟨pkg, left, hleft⟩
  · rwa [hsame]
  rw [hleft]
  have hdrop : ((drop d.entries pkg).map Prod.fst).Nodup := h.sublist (filter_sublist.map _)
  cases left with
  | none => exact hdrop
  | some version => simpa [replaced, put, drop, nodup_middle] using hdrop

/-- An upgrade lists its package once. -/
theorem listed_once_upgraded : ∃ d, Reaches (commandStep turned) Free blank d ∧
    d.entries.length = 2 ∧ (d.entries.map Prod.fst).Nodup :=
  exists_reaches_and turning (by decide +kernel) fun _ hrun _ => listed_once hrun

end Godspeed.Pm
