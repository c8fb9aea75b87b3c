import Mathlib.Data.Fintype.Card
import Mathlib.Logic.Relation
import Mathlib.Order.WellFounded
import Mathlib.Data.Set.Finite.Basic

/-!
# Relations without a circle

* `Acyclic.exists_last`: of finitely many elements, some one has no successor
  among them.
* `Acyclic.graft`: replacing the successors of one element makes no circle, if
  none of the new ones leads back to it.
-/

namespace Relation

variable {α : Type*} {r s : α → α → Prop} {a b p : α}

/-- No element leads back to itself. -/
def Acyclic (r : α → α → Prop) : Prop :=
  ∀ a, ¬ TransGen r a a

lemma Acyclic.mono (h : Acyclic r) (hsub : ∀ a b, s a b → r a b) : Acyclic s :=
  fun a hcycle => h a (hcycle.lift id hsub)

/-- **A last element.**  A finite nonempty set has an element none of whose
successors is in the set. -/
theorem Acyclic.exists_last (h : Acyclic r) {S : Set α} (hfin : S.Finite) (hne : S.Nonempty) :
    ∃ a ∈ S, ∀ b ∈ S, ¬ r a b := by
  have : Finite S := hfin
  let after : S → S → Prop := fun b a => TransGen r a b
  have : IsTrans S after := ⟨fun _ _ _ hab hbc => hbc.trans hab⟩
  have : Std.Irrefl after := ⟨fun a => h a⟩
  have hwf : WellFounded after := Finite.wellFounded_of_trans_of_irrefl after
  obtain ⟨x, hx⟩ := hne
  obtain ⟨a, -, hlast⟩ := hwf.has_min Set.univ ⟨⟨x, hx⟩, trivial⟩
  exact ⟨a, a.2, fun b hb hab => hlast ⟨b, hb⟩ trivial (.single hab)⟩

/-- A path of the changed relation is one of the old relation, or it goes through
the element whose successors were changed. -/
lemma transGen_or_through (hedge : ∀ a b, s a b → a ≠ p → r a b) (hpath : TransGen s a b) :
    TransGen r a b ∨ (ReflTransGen s a p ∧ ReflTransGen s p b) := by
  induction hpath with
  | single hab =>
    by_cases ha : a = p
    · subst ha
      exact .inr ⟨.refl, .single hab⟩
    · exact .inl (.single (hedge _ _ hab ha))
  | tail hab hbc ih =>
    rename_i b c
    rcases ih with hold | ⟨hap, hpb⟩
    · by_cases hb : b = p
      · subst hb
        exact .inr ⟨hab.to_reflTransGen, .single hbc⟩
      · exact .inl (hold.tail (hedge _ _ hbc hb))
    · exact .inr ⟨hap, hpb.tail hbc⟩

/-- A path to the element whose successors were changed is a path of the old
relation up to there. -/
lemma transGen_to (hedge : ∀ a b, s a b → a ≠ p → r a b) (ha : a ≠ p)
    (hpath : TransGen s a p) : TransGen r a p := by
  induction hpath using TransGen.head_induction_on with
  | single hap => exact .single (hedge _ _ hap ha)
  | head hab hbp ih =>
    rename_i a b
    by_cases hb : b = p
    · subst hb
      exact .single (hedge _ _ hab ha)
    · exact .head (hedge _ _ hab ha) (ih hb)

/-- **Changing the successors of one element.** -/
theorem Acyclic.graft (h : Acyclic r) (hedge : ∀ a b, s a b → a ≠ p → r a b)
    (hself : ¬ s p p) (hback : ∀ b, s p b → ¬ TransGen r b p) : Acyclic s := by
  have hp : ¬ TransGen s p p := by
    intro hcycle
    obtain ⟨b, hpb, hbp⟩ := TransGen.head'_iff.mp hcycle
    rcases reflTransGen_iff_eq_or_transGen.mp hbp with heq | hbp
    · exact hself (heq ▸ hpb)
    · by_cases hb : b = p
      · exact hself (hb ▸ hpb)
      · exact hback b hpb (transGen_to hedge hb hbp)
  intro a hcycle
  rcases transGen_or_through hedge hcycle with hold | ⟨hap, hpa⟩
  · exact h a hold
  · exact hp (.trans_left (.trans_right hpa hcycle) hap)

end Relation
