import Mathlib.Data.List.Pairwise
import Mathlib.Data.List.Perm.Basic

/-!
# Writing through the first match of a list

A table kept as an array of entries is searched from the front and written
through the index the search returned.  `modifyFirst p f` is that write: it
applies `f` to the first element that `p` accepts.  The lemmas say what a
later search sees, and that a pairwise relation survives a write that keeps it.
`perm_eraseP_of_find?` is the companion for removals: taking the first match out
of a list takes that element and nothing else.
-/

namespace FirstMatch

open List

variable {α : Type*}

/-- Apply `f` to the first element accepted by `p`. -/
def modifyFirst (p : α → Bool) (f : α → α) : List α → List α
  | [] => []
  | a :: l => if p a then f a :: l else a :: modifyFirst p f l

variable {p q : α → Bool} {f : α → α} {l : List α} {a b : α}

lemma length_modifyFirst : (modifyFirst p f l).length = l.length := by
  induction l with
  | nil => rfl
  | cons a l ih =>
    simp only [modifyFirst]
    split
    · rfl
    · simp [ih]

lemma find?_modifyFirst_self (hf : ∀ a, p a → p (f a)) :
    (modifyFirst p f l).find? p = (l.find? p).map f := by
  induction l with
  | nil => rfl
  | cons a l ih =>
    by_cases ha : p a
    · simp [modifyFirst, ha, hf a ha]
    · simp [modifyFirst, ha, ih]

lemma find?_modifyFirst_of_disjoint (hdisj : ∀ a, p a → q a = false ∧ q (f a) = false) :
    (modifyFirst p f l).find? q = l.find? q := by
  induction l with
  | nil => rfl
  | cons a l ih =>
    by_cases ha : p a
    · simp [modifyFirst, ha, hdisj a ha]
    · cases hq : q a <;> simp [modifyFirst, ha, hq, ih]

lemma find?_modifyFirst_of_new {new : α} (hnew : q new) (hnone : l.find? q = none)
    (hsome : l.find? p = some a) : (modifyFirst p (fun _ => new) l).find? q = some new := by
  induction l with
  | nil => cases hsome
  | cons b l ih =>
    by_cases hb : p b
    · simp [modifyFirst, hb, hnew]
    rw [find?_cons_of_neg hb] at hsome
    have hqb : ¬ q b := find?_eq_none.mp hnone b (by simp)
    rw [find?_cons_of_neg hqb] at hnone
    simp [modifyFirst, hb, hqb, ih hnone hsome]

lemma mem_modifyFirst (hb : b ∈ modifyFirst p f l) : b ∈ l ∨ ∃ a ∈ l, p a ∧ b = f a := by
  induction l with
  | nil => exact absurd hb (by simp [modifyFirst])
  | cons a l ih =>
    by_cases ha : p a
    · simp only [modifyFirst, ha, if_true, mem_cons] at hb
      rcases hb with rfl | hb
      · exact .inr ⟨a, by simp, ha, rfl⟩
      · exact .inl (by simp [hb])
    · simp only [modifyFirst, ha, if_false, mem_cons, Bool.false_eq_true] at hb
      rcases hb with rfl | hb
      · exact .inl (by simp)
      · rcases ih hb with hmem | ⟨c, hc, hpc, rfl⟩
        · exact .inl (by simp [hmem])
        · exact .inr ⟨c, by simp [hc], hpc, rfl⟩

lemma mem_modifyFirst_of_mem (hb : b ∈ l) (hp : p b = false) : b ∈ modifyFirst p f l := by
  induction l with
  | nil => cases hb
  | cons a l ih =>
    by_cases ha : p a
    · have hne : b ≠ a := fun heq => by simp [← heq, hp] at ha
      simp only [modifyFirst, ha]
      exact mem_cons_of_mem _ (mem_of_ne_of_mem hne hb)
    · simp only [modifyFirst, ha]
      rcases mem_cons.mp hb with rfl | htl
      · exact mem_cons_self
      · exact mem_cons_of_mem _ (ih htl)

lemma exists_mem_modifyFirst (ha : a ∈ l) (hp : p a) : ∃ b ∈ l, p b ∧ f b ∈ modifyFirst p f l := by
  induction l with
  | nil => cases ha
  | cons c l ih =>
    by_cases hc : p c
    · exact ⟨c, by simp, hc, by simp [modifyFirst, hc]⟩
    · have hne : a ≠ c := fun heq => hc (heq ▸ hp)
      obtain ⟨b, hb, hpb, hmem⟩ := ih (mem_of_ne_of_mem hne ha)
      exact ⟨b, by simp [hb], hpb, by simp [modifyFirst, hc, hmem]⟩

/-- When at most one element matches, the write replaces it and nothing else. -/
lemma mem_modifyFirst_iff_of_unique (hl : l.Pairwise fun a b => p a → p b = false) :
    b ∈ modifyFirst p f l ↔ (b ∈ l ∧ p b = false) ∨ ∃ a ∈ l, p a ∧ b = f a := by
  induction l with
  | nil => simp [modifyFirst]
  | cons a l ih =>
    obtain ⟨hhead, htail⟩ := pairwise_cons.mp hl
    by_cases ha : p a
    · have hrest : ∀ c ∈ l, p c = false := fun c hc => hhead c hc ha
      simp only [modifyFirst, ha, if_true, mem_cons]
      constructor
      · rintro (rfl | hb)
        · exact .inr ⟨a, .inl rfl, ha, rfl⟩
        · exact .inl ⟨.inr hb, hrest b hb⟩
      · rintro (⟨rfl | hb, hp⟩ | ⟨c, rfl | hc, hpc, rfl⟩)
        · simp [ha] at hp
        · exact .inr hb
        · exact .inl rfl
        · simp [hrest c hc] at hpc
    · have hpa : p a = false := by simpa using ha
      simp only [modifyFirst, ha, if_false, Bool.false_eq_true, mem_cons, ih htail]
      constructor
      · rintro (rfl | ⟨hb, hp⟩ | ⟨c, hc, hpc, rfl⟩)
        · exact .inl ⟨.inl rfl, hpa⟩
        · exact .inl ⟨.inr hb, hp⟩
        · exact .inr ⟨c, .inr hc, hpc, rfl⟩
      · rintro (⟨rfl | hb, hp⟩ | ⟨c, rfl | hc, hpc, rfl⟩)
        · exact .inl rfl
        · exact .inr (.inl ⟨hb, hp⟩)
        · exact absurd hpc ha
        · exact .inr (.inr ⟨c, hc, hpc, rfl⟩)

lemma find?_eq_some_of_unique (hl : l.Pairwise fun a b => p a → p b = false) (ha : a ∈ l)
    (hp : p a) : l.find? p = some a := by
  induction l with
  | nil => cases ha
  | cons b l ih =>
    obtain ⟨hhead, htail⟩ := pairwise_cons.mp hl
    rcases mem_cons.mp ha with rfl | htl
    · exact find?_cons_of_pos hp
    · have hb : ¬ p b := fun hb => by simp [hhead a htl hb] at hp
      rw [find?_cons_of_neg hb]
      exact ih htail htl

/-- A pairwise relation survives the write when the written element stands in
the relation to everything that the element it replaces stood in it to. -/
lemma pairwise_modifyFirst {R : α → α → Prop} (hl : l.Pairwise R)
    (hleft : ∀ a b, a ∈ l → b ∈ l → p a → R a b → R (f a) b)
    (hright : ∀ a b, a ∈ l → b ∈ l → p b → R a b → R a (f b)) :
    (modifyFirst p f l).Pairwise R := by
  induction l with
  | nil => exact Pairwise.nil
  | cons a l ih =>
    obtain ⟨hhead, htail⟩ := pairwise_cons.mp hl
    by_cases ha : p a
    · simp only [modifyFirst, ha]
      refine pairwise_cons.mpr ⟨fun b hb => ?_, htail⟩
      exact hleft a b (by simp) (by simp [hb]) ha (hhead b hb)
    simp only [modifyFirst, ha]
    refine pairwise_cons.mpr ⟨fun b hb => ?_, ih htail ?_ ?_⟩
    · rcases mem_modifyFirst hb with hmem | ⟨c, hc, hpc, rfl⟩
      · exact hhead b hmem
      · exact hright a c (by simp) (by simp [hc]) hpc (hhead c hc)
    · intro c d hc hd
      exact hleft c d (by simp [hc]) (by simp [hd])
    · intro c d hc hd
      exact hright c d (by simp [hc]) (by simp [hd])

lemma perm_eraseP_of_find? (h : l.find? p = some a) : l.Perm (a :: l.eraseP p) := by
  induction l with
  | nil => cases h
  | cons b l ih =>
    by_cases hb : p b
    · rw [find?_cons_of_pos hb] at h
      cases h
      simp [eraseP_cons_of_pos hb]
    · rw [find?_cons_of_neg hb] at h
      rw [eraseP_cons_of_neg hb]
      exact (Perm.cons b (ih h)).trans (Perm.swap _ _ _)

end FirstMatch
