import Mathlib.Data.List.Infix
import Mathlib.Data.List.Nodup
import Mathlib.Data.List.Pairwise

/-!
# Trees whose nodes hold things

A tree is given by the child of a node at an index (`kid`) and explored from a
node by a list of indices, the position (`descend`).  Every node holds some things
(`own`); the tree is `Apart` when no thing is held twice.

The tree and what it holds depend on the children function and on `own` at its own
nodes only (`descend_congr`, `Apart.congr`).

`preorder` lists the nodes of a tree down to a depth, each before its children; when
nothing is held twice, what the nodes hold is a list without repetition
(`nodup_holdings`).
-/

namespace Holdings

open List

variable {α ι β : Type*}

/-- The node at a position. -/
def descend (kid : α → ι → Option α) : α → List ι → Option α
  | a, [] => some a
  | a, i :: q => (kid a i).bind fun r => descend kid r q

section Positions

variable {kid kid' : α → ι → Option α} {a d x : α} {p q : List ι} {i : ι}

@[simp] lemma descend_nil : descend kid a [] = some a := rfl

lemma descend_cons : descend kid a (i :: q) = (kid a i).bind fun r => descend kid r q := rfl

lemma descend_append : descend kid a (p ++ q) = (descend kid a p).bind fun r => descend kid r q := by
  induction p generalizing a with
  | nil => rfl
  | cons j p ih =>
    rw [cons_append, descend_cons, descend_cons]
    cases kid a j with
    | none => rfl
    | some r => exact ih

lemma descend_prefix (h : (descend kid a (p ++ q)).isSome) : ∃ d, descend kid a p = some d := by
  rw [descend_append] at h
  cases hd : descend kid a p with
  | none => rw [hd] at h; cases h
  | some d => exact ⟨d, rfl⟩

lemma descend_congr (hsame : ∀ q r j, descend kid a q = some r → kid' r j = kid r j) (q : List ι) :
    descend kid' a q = descend kid a q := by
  induction q generalizing a with
  | nil => rfl
  | cons j q ih =>
    rw [descend_cons, descend_cons, hsame [] a j rfl]
    cases hj : kid a j with
    | none => rfl
    | some r =>
      refine ih fun q' r' j' hr' => hsame (j :: q') r' j' ?_
      rw [descend_cons, hj]
      exact hr'

end Positions

section Holding

variable {kid kid' : α → ι → Option α} {own own' : α → List β} {a d : α} {p : List ι} {i : ι} {b : β}

/-- Some node of the tree holds `b`. -/
def Held (kid : α → ι → Option α) (own : α → List β) (a : α) (b : β) : Prop :=
  ∃ q r, descend kid a q = some r ∧ b ∈ own r

/-- Nothing is held twice. -/
structure Apart (kid : α → ι → Option α) (own : α → List β) (a : α) : Prop where
  nodup : ∀ q r, descend kid a q = some r → (own r).Nodup
  apart : ∀ q q' r r' b, descend kid a q = some r → descend kid a q' = some r' →
    b ∈ own r → b ∈ own r' → q = q'

section Congr

variable (hsame : ∀ q r j, descend kid a q = some r → kid' r j = kid r j)
  (hown : ∀ q r, descend kid a q = some r → own' r = own r)

include hsame hown

lemma held_congr : Held kid' own' a b ↔ Held kid own a b := by
  constructor
  · intro ⟨q, r, hr, hb⟩
    rw [descend_congr hsame] at hr
    exact ⟨q, r, hr, by rwa [hown q r hr] at hb⟩
  · intro ⟨q, r, hr, hb⟩
    refine ⟨q, r, ?_, by rwa [hown q r hr]⟩
    rwa [descend_congr hsame]

lemma Apart.congr (h : Apart kid own a) : Apart kid' own' a := by
  constructor
  · intro q r hr
    rw [descend_congr hsame] at hr
    rw [hown q r hr]
    exact h.nodup q r hr
  · intro q q' r r' b hr hr' hb hb'
    rw [descend_congr hsame] at hr hr'
    rw [hown q r hr] at hb
    rw [hown q' r' hr'] at hb'
    exact h.apart q q' r r' b hr hr' hb hb'

end Congr

end Holding

section Preorder

variable {kid : α → ι → Option α} {scan : α → List ι} {own : α → List β} {a : α} {n : Nat}

/-- The nodes of a tree with positions shorter than `n`, each before its children. -/
def preorder (kid : α → ι → Option α) (scan : α → List ι) : Nat → α → List (List ι × α)
  | 0, _ => []
  | n + 1, a => ([], a) :: (scan a).flatMap fun i =>
    ((kid a i).toList.flatMap (preorder kid scan n)).map fun e => (i :: e.1, e.2)

lemma mem_preorder_succ {e : List ι × α} : e ∈ preorder kid scan (n + 1) a ↔
    e = ([], a) ∨ ∃ i ∈ scan a, ∃ r, kid a i = some r ∧
      ∃ e' ∈ preorder kid scan n r, e = (i :: e'.1, e'.2) := by
  rw [preorder, mem_cons]
  simp only [mem_map, mem_flatMap, Option.mem_toList]
  constructor
  · intro h
    rcases h with h | ⟨i, hi, e', ⟨r, hr, he'⟩, heq⟩
    · exact .inl h
    · exact .inr ⟨i, hi, r, hr, e', he', heq.symm⟩
  · intro h
    rcases h with h | ⟨i, hi, r, hr, e', he', heq⟩
    · exact .inl h
    · exact .inr ⟨i, hi, e', ⟨r, hr, he'⟩, heq.symm⟩

/-- **The list is that of the nodes**, if the children are looked for everywhere. -/
theorem mem_preorder (hscan : ∀ r i x, kid r i = some x → i ∈ scan r) {q : List ι} {r : α} :
    (q, r) ∈ preorder kid scan n a ↔ q.length < n ∧ descend kid a q = some r := by
  induction n generalizing a q with
  | zero => exact iff_of_false not_mem_nil (by omega)
  | succ n ih =>
    rw [mem_preorder_succ]
    cases q with
    | nil =>
      simp only [descend_nil, length_nil, Nat.succ_pos, true_and, Option.some_inj, Prod.mk.injEq]
      constructor
      · intro h
        rcases h with h | ⟨i, -, x, -, e', -, heq, -⟩
        · exact h.symm
        · cases heq
      · intro h
        exact .inl h.symm
    | cons i q =>
      rw [descend_cons, length_cons]
      constructor
      · intro h
        rcases h with h | ⟨j, -, x, hx, ⟨q', r'⟩, he', heq⟩
        · cases h
        · cases heq
          obtain ⟨hlen, hr⟩ := ih.mp he'
          exact ⟨Nat.succ_lt_succ hlen, by rw [hx]; exact hr⟩
      · intro h
        obtain ⟨x, hx, hr⟩ := Option.bind_eq_some_iff.mp h.2
        exact .inr ⟨i, hscan _ _ _ hx, x, hx, (q, r), ih.mpr ⟨by omega, hr⟩, rfl⟩

lemma nodup_preorder (hnodup : ∀ r, (scan r).Nodup) (n : Nat) (a : α) :
    ((preorder kid scan n a).map Prod.fst).Nodup := by
  induction n generalizing a with
  | zero => exact nodup_nil
  | succ n ih =>
    rw [preorder, map_cons, map_flatMap, nodup_cons]
    constructor
    · intro h
      obtain ⟨i, -, hi⟩ := mem_flatMap.mp h
      simp at hi
    rw [nodup_flatMap]
    constructor
    · intro i _
      rw [map_map]
      cases kid a i with
      | none => exact nodup_nil
      | some r =>
        have hr := (ih r).map (cons_injective (a := i))
        rw [map_map] at hr
        rw [Option.toList_some, flatMap_singleton]
        exact hr
    · refine (hnodup a).imp fun {i j} hij => ?_
      intro q hq hq'
      simp only [map_map, mem_map] at hq hq'
      obtain ⟨e, -, rfl⟩ := hq
      obtain ⟨e', -, heq⟩ := hq'
      exact hij (cons.inj heq).1.symm

variable (hscan : ∀ r i x, kid r i = some x → i ∈ scan r)
include hscan

lemma mem_holdings {b : β} : b ∈ (preorder kid scan n a).flatMap (fun e => own e.2) ↔
      ∃ q r, q.length < n ∧ descend kid a q = some r ∧ b ∈ own r := by
  rw [mem_flatMap]
  constructor
  · intro ⟨⟨q, r⟩, he, hb⟩
    obtain ⟨hlen, hr⟩ := (mem_preorder hscan).mp he
    exact ⟨q, r, hlen, hr, hb⟩
  · intro ⟨q, r, hlen, hr, hb⟩
    exact ⟨(q, r), (mem_preorder hscan).mpr ⟨hlen, hr⟩, hb⟩

/-- **What the nodes hold is a list without repetition.** -/
theorem nodup_holdings (hnodup : ∀ r, (scan r).Nodup)
    (h : Apart kid own a) (n : Nat) : ((preorder kid scan n a).flatMap fun e => own e.2).Nodup := by
  rw [nodup_flatMap]
  constructor
  · intro ⟨q, r⟩ he
    exact h.nodup q r ((mem_preorder hscan).mp he).2
  have hpos : ((preorder kid scan n a).map Prod.fst).Nodup := nodup_preorder hnodup n a
  rw [nodup_iff_pairwise_ne, pairwise_map] at hpos
  refine hpos.imp_of_mem fun {e e'} he he' hne b hb hb' => hne ?_
  exact h.apart e.1 e'.1 e.2 e'.2 b ((mem_preorder hscan).mp he).2 ((mem_preorder hscan).mp he').2 hb hb'

lemma length_lt_of_preorder
    (h : ∀ e ∈ preorder kid scan (n + 1) a, e.1.length < n) {q : List ι} {r : α}
    (hr : descend kid a q = some r) : q.length < n := by
  by_contra hlong
  have hlen : (q.take n).length = n := length_take_of_le (not_lt.mp hlong)
  have hsome : (descend kid a (q.take n ++ q.drop n)).isSome := by
    rw [take_append_drop, hr]
    rfl
  obtain ⟨d, hd⟩ := descend_prefix hsome
  have hmem : (q.take n, d) ∈ preorder kid scan (n + 1) a := (mem_preorder hscan).mpr ⟨by omega, hd⟩
  have hshort := h _ hmem
  rw [hlen] at hshort
  exact lt_irrefl _ hshort

/-- A tree whose nodes hold a list without repetition. -/
lemma apart_of_nodup (hdeep : ∀ q r, descend kid a q = some r → q.length < n)
    (hnodup : ((preorder kid scan n a).flatMap fun e => own e.2).Nodup) : Apart kid own a := by
  rw [nodup_flatMap] at hnodup
  have hmem : ∀ {q r}, descend kid a q = some r → (q, r) ∈ preorder kid scan n a :=
    fun hr => (mem_preorder hscan).mpr ⟨hdeep _ _ hr, hr⟩
  constructor
  · intro q r hr
    exact hnodup.1 _ (hmem hr)
  intro q q' r r' b hr hr' hb hb'
  by_contra hne
  have hsymm : Std.Symm (Function.onFun Disjoint fun e : List ι × α => own e.2) :=
    ⟨fun _ _ hxy _ hb hb' => hxy hb' hb⟩
  exact hnodup.2.forall (hmem hr) (hmem hr') (fun heq => hne (Prod.mk.inj heq).1) hb hb'

end Preorder

end Holdings
