import Godspeed.Lib.Fallible
import Godspeed.Pm.Install

/-!
# Planning an install

`resolve` goes through the requirements of a package, depth first, and takes the
newest fetched version in the range that it meets first.  The choice is never made
again, so a requirement that takes only an older version is refused as a conflict.
-/

namespace Godspeed.Pm

open List Fallible

def planDepth : Nat := 4

def planMax : Nat := 8

/-- One package that a plan installs, or fetches first if there is no version. -/
structure Step (V R : Type) where
  pkg : List Char
  version : Option V
  range : R
deriving DecidableEq

/-- Why there is no plan. -/
inductive Snag (V R : Type)
  | fetched
  | check
  /-- `req` does not take the version that the plan takes at `s`: "no one version
  will do". -/
  | conflict (req : Requirement R) (s : Step V R) (v : V)
  | cycle
  | manifest
  | kind
  | installed
  | tooDeep
  | tooMany
deriving DecidableEq

structure Plan (V R : Type) where
  steps : List (Step V R)
  /-- The names being resolved, deepest last. -/
  path : List (List Char)
  kept : Nat
deriving DecidableEq

section Planning

variable {V R : Type} [Format V R] (shelf : Shelf V R) (file : Option (List Char))

/-- The fetched versions of a package. -/
def Shelf.versions (pkg : List Char) : List V :=
  (shelf.fetched.filter (·.pkg = pkg)).filterMap (parse R ·.version)

variable [LinearOrder V]

def fetchedIn (pkg : List Char) (range : R) : Option V :=
  ((shelf.versions pkg).filter (takes range)).max?

/-- `Plan::resolve`, with `levels` more to go to `planDepth`. -/
def resolve (levels : Nat) (req : Requirement R) (p : Plan V R) : Except (Snag V R) (Plan V R) :=
  let name := req.name.text
  match p.steps.find? (·.pkg = name) with
  | some s =>
    match s.version with
    | some v => if takes req.range v then .ok p else .error (.conflict req s v)
    | none => .ok p
  | none =>
    if p.path.any (· = name) then .error .cycle
    else match installedAs V R file name with
    | some v =>
      if takes req.range v then
        match shelf.manifest name (Format.text R v) with
        | none => .error .manifest
        | some m => if m.kind.runs then .ok { p with kept := p.kept + 1 } else .error .kind
      else .error .installed
    | none =>
      match levels with
      | 0 => .error .tooDeep
      | levels + 1 =>
        if p.steps.length = planMax then .error .tooMany
        else match fetchedIn shelf name req.range with
        | none => .ok { p with steps := p.steps ++ [⟨name, none, req.range⟩] }
        | some v =>
          match shelf.check ⟨req.name.publisher, req.name.name, Format.text R v⟩ with
          | none => .error .check
          | some c =>
            if c.manifest.kind.runs then do
              let q ← c.manifest.requires.foldlM (fun p req => resolve levels req p)
                { p with path := p.path ++ [name] }
              if q.steps.length = planMax then .error .tooMany
              else .ok { q with steps := q.steps ++ [⟨name, some v, req.range⟩], path := p.path }
            else .error .kind

/-- `plan`: what is installed before the package asked for. -/
def plan (which : List Char) : Except (Snag V R) (Plan V R) :=
  match shelf.pick which with
  | none => .error .fetched
  | some f =>
    match shelf.check f with
    | none => .error .check
    | some c => c.manifest.requires.foldlM
        (fun p req => resolve shelf file (planDepth - 1) req p) ⟨[], [f.pkg], 0⟩

/-- `resolve` goes on to the requirements of the checked release `c`. -/
structure Opens (req : Requirement R) (p : Plan V R) (c : Checked V R) : Prop where
  unmet : p.steps.find? (·.pkg = req.name.text) = none
  acyclic : p.path.any (· = req.name.text) = false
  absent : installedAs V R file req.name.text = none
  room : p.steps.length ≠ planMax
  checked : ∃ v, fetchedIn shelf req.name.text req.range = some v ∧
    shelf.check ⟨req.name.publisher, req.name.name, Format.text R v⟩ = some c
  runs : c.manifest.kind.runs

/-- The walk takes up `req`, with `levels` more to go, when the plan so far is `p`. -/
inductive TakesUp (which : List Char) : Nat → Requirement R → Plan V R → Prop
  | asked {f c before req after p} (hpick : shelf.pick which = some f)
      (hcheck : shelf.check f = some c) (hsplit : c.manifest.requires = before ++ req :: after)
      (hbefore : before.foldlM (fun p req => resolve shelf file (planDepth - 1) req p)
        ⟨[], [f.pkg], 0⟩ = .ok p) : TakesUp which (planDepth - 1) req p
  | needed {levels r p c before req after q} (hr : TakesUp which (levels + 1) r p)
      (hopens : Opens shelf file r p c) (hsplit : c.manifest.requires = before ++ req :: after)
      (hbefore : before.foldlM (fun p req => resolve shelf file levels req p)
        { p with path := p.path ++ [r.name.text] } = .ok q) : TakesUp which levels req q

/-- If some fetched version lies in both ranges, the newest one in the first does. -/
def Shelf.Share (pkg : List Char) (first second : R) : Prop :=
  (∃ u ∈ shelf.versions pkg, takes first u ∧ takes second u) →
    ∃ v, fetchedIn shelf pkg first = some v ∧ takes second v

/-- The newest fetched version in the range, or none. -/
def Shelf.Chosen (p : Plan V R) : Prop :=
  ∀ s ∈ p.steps, s.version = fetchedIn shelf s.pkg s.range

variable {shelf file} {p : Plan V R} {req : Requirement R} {which : List Char} {levels : Nat}

lemma Shelf.Chosen.append (hp : shelf.Chosen p) {path : List (List Char)} {v : Option V}
    (hv : fetchedIn shelf req.name.text req.range = v) :
    shelf.Chosen { p with steps := p.steps ++ [⟨req.name.text, v, req.range⟩], path := path } := by
  intro s hs
  rcases mem_append.mp hs with hs | hs
  · exact hp s hs
  · obtain rfl := mem_singleton.mp hs
    exact hv.symm

lemma Shelf.Chosen.resolve (hp : shelf.Chosen p) :
    ∀ q, resolve shelf file levels req p = .ok q → shelf.Chosen q := by
  fun_induction Pm.resolve shelf file levels req p with
  | case11 =>
    rintro q ⟨⟩
    exact hp.append ‹_›
  | case13 req p name _ _ _ levels _ v hv c _ _ ih =>
    intro q h
    -- what the package needs comes before it
    obtain ⟨t, hfold, h⟩ := bind_eq_ok h
    have ht := foldlM_invariant (s := { p with path := p.path ++ [name] })
      (fun _ => shelf.Chosen) (fun _ r p q hp => ih p r hp q) hp hfold
    split at h
    · cases h
    · cases h
      exact ht.append hv
  | _ => rintro q ⟨⟩ <;> exact hp

lemma Shelf.Chosen.foldlM {reqs : List (Requirement R)} {q : Plan V R} (hp : shelf.Chosen p)
    (h : reqs.foldlM (fun p req => Pm.resolve shelf file levels req p) p = .ok q) :
    shelf.Chosen q :=
  foldlM_invariant (fun _ => shelf.Chosen) (fun _ _ _ q hp => hp.resolve q) hp h

lemma resolve_of_opens {c : Checked V R} {e : Snag V R} (h : Opens shelf file req p c)
    (he : c.manifest.requires.foldlM (fun p req => resolve shelf file levels req p)
      { p with path := p.path ++ [req.name.text] } = .error e) :
    resolve shelf file (levels + 1) req p = .error e := by
  obtain ⟨v, hv, hc⟩ := h.checked
  rw [resolve]
  simp only [h.unmet, h.acyclic, h.absent, h.room, hv, hc, h.runs, he, Bool.false_eq_true, if_false,
    if_true]
  rfl

namespace TakesUp

lemma chosen (h : TakesUp shelf file which levels req p) : shelf.Chosen p := by
  induction h with
  | asked _ _ _ hbefore => exact .foldlM (fun s hs => by cases hs) hbefore
  | needed _ _ _ hbefore ih => exact .foldlM (by exact ih) hbefore

/-- Where a requirement fails, so does the whole. -/
lemma plan_eq_error {e : Snag V R} (h : TakesUp shelf file which levels req p)
    (he : resolve shelf file levels req p = .error e) : plan shelf file which = .error e := by
  induction h with
  | asked hpick hcheck hsplit hbefore =>
    simp only [plan, hpick, hcheck]
    exact foldlM_eq_error_iff.mpr ⟨_, _, _, _, hsplit, hbefore, he⟩
  | needed _ hopens hsplit hbefore ih =>
    exact ih (resolve_of_opens hopens (foldlM_eq_error_iff.mpr ⟨_, _, _, _, hsplit, hbefore, he⟩))

/-- A conflict is met where the walk takes up the requirement that it names. -/
lemma of_conflict {r : Requirement R} {s : Step V R} {v : V}
    (h : TakesUp shelf file which levels req p)
    (he : resolve shelf file levels req p = .error (.conflict r s v)) :
    ∃ l q, TakesUp shelf file which l r q ∧ q.steps.find? (·.pkg = r.name.text) = some s ∧
      s.version = some v ∧ takes r.range v = false := by
  fun_induction resolve shelf file levels req p with
  | case2 levels req p name s' hfind v' hv hout =>
    cases he
    exact ⟨levels, p, h, hfind, hv, Bool.eq_false_iff.mpr hout⟩
  | case13 req p name hunmet hcycle hinst levels hroom v hv c hc hruns ih =>
    have hopens : Opens shelf file req p c :=
      ⟨hunmet, Bool.eq_false_iff.mpr hcycle, hinst, hroom, ⟨v, hv, hc⟩, hruns⟩
    cases hq : c.manifest.requires.foldlM (fun p req => resolve shelf file levels req p)
        { p with path := p.path ++ [name] } with
    | error e =>
      rw [hq] at he
      obtain ⟨before, req, after, q, hsplit, hbefore, hreq⟩ := foldlM_eq_error_iff.mp hq
      exact ih q req (.needed h hopens hsplit hbefore) (hreq.trans he)
    | ok t =>
      rw [hq] at he
      change (if t.steps.length = planMax then _ else _) = _ at he
      split at he <;> cases he
  | _ => cases he

end TakesUp

lemma takesUp_of_plan {r : Requirement R} {s : Step V R} {v : V}
    (h : plan shelf file which = .error (.conflict r s v)) :
    ∃ l q, TakesUp shelf file which l r q ∧ q.steps.find? (·.pkg = r.name.text) = some s ∧
      s.version = some v ∧ takes r.range v = false := by
  unfold plan at h
  split at h
  · cases h
  next f hpick =>
    split at h
    · cases h
    next c hcheck =>
      obtain ⟨before, req, after, q, hsplit, hbefore, hreq⟩ := foldlM_eq_error_iff.mp h
      exact (TakesUp.asked hpick hcheck hsplit hbefore).of_conflict hreq

end Planning

namespace Sample

/-- `p/c`, which requires `p/b`, and `p/a` in this range. -/
def wanting (range : VersionReq) : Manifest Version VersionReq where
  name := named 'c' (by decide)
  version := ⟨1, 0, 0⟩
  kind := .app
  requires := [⟨named 'b' isPart_b, .caret ⟨1, 0, 0⟩⟩, ⟨named 'a' isPart_a, range⟩]
  few := by simp
  once := by simp [named]
  selfless := by simp [named]

/-- `p/a` in `1.0.0` and a newer version, `p/b`, which requires `p/a ^1.0.0`, and `p/c`. -/
def three (newer : Version) (range : VersionReq) : List (Manifest Version VersionReq) :=
  [alone ⟨1, 0, 0⟩, alone newer, needing, wanting range]

def minors := three ⟨1, 1, 0⟩ (.exact ⟨1, 0, 0⟩)

end Sample

open Sample

end Godspeed.Pm
