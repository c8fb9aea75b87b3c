import Mathlib.Logic.Function.Basic

/-!
# Radix trees kept in memory

A radix tree is a store of tables and the address of its root table.  An entry
of a table may name a child table; `follow` walks from a table along a list of
indices.  Tables are made one at a time: `graft` clears a table that is not part
of the tree and makes an empty entry point at it.

Two tables of a tree are never the same table.  `Labelled` says so by giving
each table of the tree the path that leads to it; the paths that matter are
those in a prefix-closed `scope`, so that a tree may share what lies outside.
From it follow the two facts a user of such a tree needs: a graft keeps every
walk that succeeded (`follow_graft`), and a write into a table that no path of
the scope leaves keeps every walk (`follow_write`).
-/

namespace Radix

open Function

variable {A E : Type*} [DecidableEq A] (mem : A → Nat → E) (t : A)

/-- Replace one entry of a table. -/
def write (i : Nat) (e : E) : A → Nat → E :=
  update mem t (update (mem t) i e)

/-- Give every entry of a table the same value. -/
def clear (e : E) : A → Nat → E :=
  update mem t fun _ => e

/-- Walk from a table along a path. -/
def follow (child : E → Option A) (mem : A → Nat → E) : A → List Nat → Option A
  | t, [] => some t
  | t, i :: path => (child (mem t i)).bind fun c => follow child mem c path

/-- Make the entry `i` of `t` name the cleared table `c`. -/
def graft (i : Nat) (c : A) (empty pointer : E) : A → Nat → E :=
  write (clear mem c empty) t i pointer

/-- Each table of the tree is labelled with the path that leads to it. -/
structure Labelled (child : E → Option A) (scope : List Nat → Prop) (mem : A → Nat → E)
    (root : A) (label : A → Option (List Nat)) : Prop where
  closed : ∀ p q, scope (p ++ q) → scope p
  root : label root = some []
  child : ∀ t p i c, label t = some p → scope (p ++ [i]) → child (mem t i) = some c →
    label c = some (p ++ [i])

variable {child : E → Option A} {scope : List Nat → Prop} {mem : A → Nat → E} {root t c : A}
  {label : A → Option (List Nat)} {p q : List Nat} {i : Nat} {e empty pointer : E} {t' : A}

lemma write_same : write mem t i e t i = e := by
  simp [write]

lemma write_of_ne {j : Nat} (h : ¬ (t' = t ∧ j = i)) : write mem t i e t' j = mem t' j := by
  by_cases ht : t' = t
  · subst ht
    have hj : j ≠ i := fun hj => h ⟨rfl, hj⟩
    simp [write, hj]
  · simp [write, ht]

lemma write_table_of_ne (h : t' ≠ t) : write mem t i e t' = mem t' := by
  simp [write, h]

lemma clear_of_ne (h : t' ≠ t) : clear mem t e t' = mem t' := by
  simp [clear, h]

lemma graft_child (h : c ≠ t) (j : Nat) : graft mem t i c empty pointer c j = empty := by
  simp [graft, write, clear, h]

lemma graft_of_ne {j : Nat} (hc : t' ≠ c) (h : ¬ (t' = t ∧ j = i)) :
    graft mem t i c empty pointer t' j = mem t' j := by
  rw [graft, write_of_ne h, clear_of_ne hc]

lemma graft_table_of_ne (hc : t' ≠ c) (ht : t' ≠ t) :
    graft mem t i c empty pointer t' = mem t' := by
  rw [graft, write_table_of_ne ht, clear_of_ne hc]

omit [DecidableEq A] in
lemma follow_append (t : A) (p q : List Nat) : follow child mem t (p ++ q) =
      (follow child mem t p).bind fun c => follow child mem c q := by
  induction p generalizing t with
  | nil => rfl
  | cons i p ih =>
    cases hchild : child (mem t i) with
    | none => simp [follow, hchild]
    | some c => simp [follow, hchild, ih]

namespace Labelled

variable (h : Labelled child scope mem root label)
include h

omit [DecidableEq A] in
lemma follow (ht : label t = some p)
    (hscope : scope (p ++ q)) (hwalk : Radix.follow child mem t q = some c) :
    label c = some (p ++ q) := by
  induction q generalizing t p with
  | nil =>
    cases hwalk
    simpa using ht
  | cons i q ih =>
    obtain ⟨d, hd, hrest⟩ := Option.bind_eq_some_iff.mp hwalk
    have hpath : p ++ i :: q = (p ++ [i]) ++ q := by simp
    rw [hpath] at hscope ⊢
    exact ih (h.child t p i d ht (h.closed _ _ hscope) hd) hscope hrest

lemma graft (ht : label t = some p)
    (hc : label c = none) (hempty : child empty = none) (hpointer : child pointer = some c) :
    Labelled child scope (Radix.graft mem t i c empty pointer) root
      (update label c (some (p ++ [i]))) where
  closed := h.closed
  root := by
    have hne : root ≠ c := fun heq => by simp [← heq, h.root] at hc
    rw [update_of_ne hne, h.root]
  child := by
    have hct : c ≠ t := fun heq => by simp [heq, ht] at hc
    intro t' p' j d ht' hscope hchild
    by_cases hnew : t' = c
    · rw [hnew, graft_child hct, hempty] at hchild
      cases hchild
    rw [update_of_ne hnew] at ht'
    by_cases hentry : t' = t ∧ j = i
    · obtain ⟨rfl, rfl⟩ := hentry
      rw [graft, write_same, hpointer] at hchild
      cases hchild
      cases ht'.symm.trans ht
      simp
    · rw [graft_of_ne hnew hentry] at hchild
      have hold := h.child t' p' j d ht' hscope hchild
      have hne : d ≠ c := fun heq => by simp [heq, hc] at hold
      rw [update_of_ne hne, hold]

/-- A write into a table that no path of the scope leaves. -/
lemma write (ht : label t = some p) (hleaf : ∀ j, ¬ scope (p ++ [j])) :
    Labelled child scope (Radix.write mem t i e) root label where
  closed := h.closed
  root := h.root
  child := by
    intro t' p' j d ht' hscope hchild
    have hne : ¬ (t' = t ∧ j = i) := by
      rintro ⟨rfl, -⟩
      cases ht'.symm.trans ht
      exact hleaf j hscope
    rw [write_of_ne hne] at hchild
    exact h.child t' p' j d ht' hscope hchild

lemma follow_graft (empty pointer : E) {t' d : A}
    (ht' : label t' = some p) (hscope : scope (p ++ q)) (hc : label c = none) (hvacant : child (mem t i) = none)
    (hwalk : Radix.follow child mem t' q = some d) :
    Radix.follow child (Radix.graft mem t i c empty pointer) t' q = some d := by
  induction q generalizing t' p with
  | nil => exact hwalk
  | cons j q ih =>
    obtain ⟨b, hb, hrest⟩ := Option.bind_eq_some_iff.mp hwalk
    have hpath : p ++ j :: q = (p ++ [j]) ++ q := by simp
    rw [hpath] at hscope
    have hnew : t' ≠ c := fun heq => by simp [heq, hc] at ht'
    have hentry : ¬ (t' = t ∧ j = i) := by
      rintro ⟨rfl, rfl⟩
      rw [hvacant] at hb
      cases hb
    rw [Radix.follow, graft_of_ne hnew hentry, hb]
    exact ih (h.child t' p j b ht' (h.closed _ _ hscope) hb) hscope hrest

lemma follow_graft_self (hscope : scope (p ++ [i]))
    (hc : label c = none) (hvacant : child (mem t i) = none)
    (hpointer : child pointer = some c) (hwalk : Radix.follow child mem root p = some t) :
    Radix.follow child (Radix.graft mem t i c empty pointer) root (p ++ [i]) = some c := by
  have hkept := h.follow_graft empty pointer h.root (h.closed _ _ hscope) hc hvacant hwalk
  rw [follow_append, hkept]
  simp [Radix.follow, Radix.graft, write_same, hpointer]

/-- A write into a table that no path of the scope leaves keeps every walk. -/
lemma follow_write {t' : A} {p' : List Nat}
    (ht : label t = some p) (hleaf : ∀ j, ¬ scope (p ++ [j])) (ht' : label t' = some p')
    (hscope : scope (p' ++ q)) :
    Radix.follow child (Radix.write mem t i e) t' q = Radix.follow child mem t' q := by
  induction q generalizing t' p' with
  | nil => rfl
  | cons j q ih =>
    have hpath : p' ++ j :: q = (p' ++ [j]) ++ q := by simp
    rw [hpath] at hscope
    have hentry : ¬ (t' = t ∧ j = i) := by
      rintro ⟨rfl, -⟩
      cases ht'.symm.trans ht
      exact hleaf j (h.closed _ _ hscope)
    rw [Radix.follow, Radix.follow, write_of_ne hentry]
    cases hchild : child (mem t' j) with
    | none => rfl
    | some b => exact ih (h.child t' p' j b ht' (h.closed _ _ hscope) hchild) hscope

end Labelled

end Radix
