import Mathlib.Data.List.Nodup

/-!
# Custody of the items handed to one place

A place has a bounded queue and room for one item parked behind it.  Its
`Ledger` records which items were handed over, which of them entered the queue,
which were taken out, which were lost when the place was cleared, and which are
in the queue or parked now.  `Move` lists what can happen to a ledger:

* an item is accepted into the queue, or parked behind it;
* an item is taken out and the parked one, if any, moves up;
* the place is cleared.

Parking writes over what was parked.  `Move.enters` holds with or without that,
`Move.keeps` as long as nothing was there: each item handed over is then in
exactly one place (`Ledger.perm_places`; `Move.nodup` keeps them distinct).
-/

namespace Custody

open List

variable {α : Type*}

/-- Where the items handed to one place are. -/
structure Ledger (α : Type*) where
  handed : List α
  entered : List α
  taken : List α
  drained : List α
  dropped : List α
  queued : List α
  pending : List α

/-- Every item that entered the queue is in it, was taken or was cleared out. -/
def Ledger.Enters (l : Ledger α) : Prop :=
  l.entered.Perm (l.queued ++ l.taken ++ l.drained)

/-- Every item handed over has entered the queue, is parked or was dropped. -/
def Ledger.Keeps (l : Ledger α) : Prop :=
  l.handed.Perm (l.entered ++ l.pending ++ l.dropped)

/-- What entered or is parked was handed over, and no parked item has entered. -/
structure Ledger.Known (l : Ledger α) : Prop where
  entered : l.entered ⊆ l.handed
  pending : l.pending ⊆ l.handed
  apart : ∀ x ∈ l.pending, x ∉ l.entered

/-- What can happen to a ledger.  A new item meets `new`; while `free` holds
nothing is parked over another item. -/
inductive Move (new : α → Prop) (free : Prop) (l : Ledger α) : Ledger α → Prop
  | stay : Move new free l l
  | accept (x : α) (hnew : new x) : Move new free l { l with
      handed := l.handed ++ [x], entered := l.entered ++ [x], queued := l.queued ++ [x] }
  | park (x : α) (hnew : new x) (hfree : free → l.pending = []) :
      Move new free l { l with handed := l.handed ++ [x], pending := [x] }
  | take (x : α) (rest : List α) (htaken : l.queued.Perm (x :: rest)) :
      Move new free l { l with
        taken := l.taken ++ [x]
        entered := l.entered ++ l.pending
        queued := rest ++ l.pending
        pending := [] }
  | clear : Move new free l { l with
      drained := l.drained ++ l.queued
      dropped := l.dropped ++ l.pending
      queued := []
      pending := [] }

section Counting

variable [DecidableEq α] {new : α → Prop} {free : Prop} {l l' : Ledger α}

/-- **No item that entered the queue is lost or doubled.** -/
theorem Move.enters (h : Move new free l l') (henters : l.Enters) : l'.Enters := by
  have hcount : ∀ y, l.entered.count y = l.queued.count y + l.taken.count y +
      l.drained.count y := by
    intro y
    simpa only [count_append] using perm_iff_count.mp henters y
  refine perm_iff_count.mpr fun y => ?_
  have hy := hcount y
  cases h with
  | stay | park x => simpa only [count_append] using hy
  | accept x => simp only [count_append]; omega
  | take x rest htaken =>
    have hx := htaken.count_eq y
    rw [count_cons] at hx
    simp only [count_append, count_singleton]
    omega
  | clear => simp only [count_append, count_nil]; omega

/-- **No item that was handed over is lost or doubled**, as long as nothing is
parked over another item. -/
theorem Move.keeps (h : Move new free l l') (hfree : free) (hkeeps : l.Keeps) : l'.Keeps := by
  have hcount : ∀ y, l.handed.count y = l.entered.count y + l.pending.count y +
      l.dropped.count y := by
    intro y
    simpa only [count_append] using perm_iff_count.mp hkeeps y
  refine perm_iff_count.mpr fun y => ?_
  have hy := hcount y
  cases h with
  | stay => simpa only [count_append] using hy
  | accept x => simp only [count_append]; omega
  | park x hnew hempty =>
    rw [hempty hfree, count_nil] at hy
    simp only [count_append]
    omega
  | take x rest htaken | clear => simp only [count_append, count_nil]; omega

end Counting

section Items

variable {new : α → Prop} {free : Prop} {l l' : Ledger α}

section

variable (h : Move new free l l')
include h

lemma Move.handed_cases : l'.handed = l.handed ∨ ∃ x, new x ∧ l'.handed = l.handed ++ [x] := by
  cases h with
  | stay | take | clear => exact .inl rfl
  | accept x hnew | park x hnew => exact .inr ⟨x, hnew, rfl⟩

lemma Move.subset : l.entered ⊆ l'.entered ∧ l.dropped ⊆ l'.dropped := by
  cases h with
  | stay | park x => exact ⟨Subset.refl _, Subset.refl _⟩
  | accept x | take x rest => exact ⟨subset_append_left _ _, Subset.refl _⟩
  | clear => exact ⟨Subset.refl _, subset_append_left _ _⟩

lemma Move.nodup (hnew : ∀ x, new x → x ∉ l.handed)
    (hnodup : l.handed.Nodup) : l'.handed.Nodup := by
  rcases h.handed_cases with hsame | ⟨x, hx, happend⟩
  · rw [hsame]
    exact hnodup
  rw [happend]
  refine nodup_append.mpr ⟨hnodup, by simp, ?_⟩
  rintro y hy z hz rfl
  rw [mem_singleton] at hz
  exact hnew x hx (hz ▸ hy)

/-- A parked item stays apart from those that entered. -/
lemma Move.known (hnew : ∀ x, new x → x ∉ l.handed) (hknown : l.Known) : l'.Known := by
  obtain ⟨hentered, hpend, hapart⟩ := hknown
  cases h with
  | stay => exact ⟨hentered, hpend, hapart⟩
  | accept x hx =>
    refine ⟨?_, fun y hy => mem_append_left _ (hpend hy), fun y hy hmem => ?_⟩
    · exact append_subset.mpr ⟨fun y hy => mem_append_left _ (hentered hy), subset_append_right _ _⟩
    rcases mem_append.mp hmem with hold | hlast
    · exact hapart y hy hold
    · rw [mem_singleton] at hlast
      exact hnew x hx (hlast ▸ hpend hy)
  | park x hx =>
    refine ⟨fun y hy => mem_append_left _ (hentered hy),
      subset_append_right _ _, fun y hy hmem => ?_⟩
    rw [mem_singleton] at hy
    exact hnew x hx (hy ▸ hentered hmem)
  | take x rest =>
    exact ⟨append_subset.mpr ⟨hentered, hpend⟩, nil_subset _, nofun⟩
  | clear => exact ⟨hentered, nil_subset _, nofun⟩

/-- What has entered or is parked stays distinct, also where a parked item is overwritten. -/
lemma Move.once (hnew : ∀ x, new x → x ∉ l.handed) (hknown : l.Known)
    (honce : (l.entered ++ l.pending).Nodup) : (l'.entered ++ l'.pending).Nodup := by
  have hfresh : ∀ x, new x → x ∉ l.entered ∧ x ∉ l.pending := fun x hx =>
    ⟨fun hmem => hnew x hx (hknown.entered hmem), fun hmem => hnew x hx (hknown.pending hmem)⟩
  cases h with
  | stay => exact honce
  | accept x hx => simpa [nodup_middle, hfresh x hx] using honce
  | park x hx => simpa [nodup_middle, hfresh x hx] using honce.of_append_left
  | take => simpa using honce
  | clear => simpa using honce.of_append_left

end

/-- The items of a ledger that keeps everything, place by place. -/
lemma Ledger.perm_places (henters : l.Enters) (hkeeps : l.Keeps) :
    l.handed.Perm (l.queued ++ l.pending ++ l.taken ++ (l.drained ++ l.dropped)) := by
  have hentered : (l.entered ++ l.pending ++ l.dropped).Perm
      (l.queued ++ l.taken ++ l.drained ++ l.pending ++ l.dropped) :=
    (henters.append_right l.pending).append_right l.dropped
  refine (hkeeps.trans hentered).trans ?_
  -- the parked item comes before the taken and the drained ones
  have hswap : (l.taken ++ l.drained ++ l.pending).Perm (l.pending ++ (l.taken ++ l.drained)) :=
    perm_append_comm
  have := (hswap.append_left l.queued).append_right l.dropped
  simpa [append_assoc] using this

end Items

end Custody
