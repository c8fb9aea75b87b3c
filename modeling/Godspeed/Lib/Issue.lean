import Mathlib.Logic.Function.Basic

/-!
# Tokens issued to places

Places hold tokens, at most one each.  `Issued tok live` says that every token held is live
and is held in one place only.  A live token may be held nowhere.  The lemmas are about the
moves of an issuer: a token that is not live is issued to a place, a place is emptied, and a
token that no place holds any more is withdrawn.
-/

namespace Issue

open Function

variable {ι τ : Type*}

/-- Every token held is live, and held in one place only. -/
structure Issued (tok : ι → Option τ) (live : List τ) : Prop where
  live : ∀ a t, tok a = some t → t ∈ live
  unique : ∀ a b t, tok a = some t → tok b = some t → a = b

/-- Withdraw a token. -/
def withdraw [DecidableEq τ] (live : List τ) (t : τ) : List τ := live.filter fun s => s != t

lemma mem_withdraw [DecidableEq τ] {live : List τ} {s t : τ} : s ∈ withdraw live t ↔ s ∈ live ∧ s ≠ t := by
  simp [withdraw]

namespace Issued

variable [DecidableEq ι] {tok : ι → Option τ} {live : List τ} {a : ι} {t : τ}

omit [DecidableEq ι] in
lemma shrink {tok' : ι → Option τ} (h : Issued tok live)
    (hold : ∀ a t, tok' a = some t → tok a = some t) : Issued tok' live :=
  ⟨fun a t ha => h.live a t (hold a t ha),
    fun a b t ha hb => h.unique a b t (hold a t ha) (hold b t hb)⟩

lemma clear (h : Issued tok live) (a : ι) : Issued (update tok a none) live := by
  refine h.shrink fun b s hb => ?_
  by_cases hab : b = a
  · rw [hab, update_self] at hb
    cases hb
  · rwa [update_of_ne hab] at hb

lemma issue (h : Issued tok live) (a : ι) (hnew : t ∉ live) :
    Issued (update tok a (some t)) (t :: live) := by
  have hcases : ∀ b s, update tok a (some t) b = some s →
      (b = a ∧ s = t) ∨ (b ≠ a ∧ tok b = some s) := by
    intro b s hb
    by_cases hab : b = a
    · rw [hab, update_self] at hb
      exact .inl ⟨hab, (Option.some_inj.mp hb).symm⟩
    · rw [update_of_ne hab] at hb
      exact .inr ⟨hab, hb⟩
  refine ⟨fun b s hb => ?_, fun b c s hb hc => ?_⟩
  · rcases hcases b s hb with ⟨-, rfl⟩ | ⟨-, hs⟩
    · exact List.mem_cons_self
    · exact List.mem_cons_of_mem _ (h.live b s hs)
  · rcases hcases b s hb with ⟨rfl, rfl⟩ | ⟨-, hs⟩
    · rcases hcases c s hc with ⟨rfl, -⟩ | ⟨-, hs'⟩
      · rfl
      · exact absurd (h.live c s hs') hnew
    · rcases hcases c s hc with ⟨-, rfl⟩ | ⟨-, hs'⟩
      · exact absurd (h.live b s hs) hnew
      · exact h.unique b c s hs hs'

omit [DecidableEq ι] in
lemma withdraw [DecidableEq τ] (h : Issued tok live) (hnone : ∀ a, tok a ≠ some t) :
    Issued tok (withdraw live t) := by
  refine ⟨fun a s ha => mem_withdraw.mpr ⟨h.live a s ha, ?_⟩, h.unique⟩
  rintro rfl
  exact hnone a ha

omit [DecidableEq ι] in
/-- A token that is made live and withdrawn again. -/
lemma forgo [DecidableEq τ] (h : Issued tok live) (hnew : t ∉ live) :
    Issued tok (Issue.withdraw (t :: live) t) := by
  refine ⟨fun a s ha => ?_, h.unique⟩
  have hs := h.live a s ha
  exact mem_withdraw.mpr ⟨List.mem_cons_of_mem _ hs, fun heq => hnew (heq ▸ hs)⟩

lemma retire [DecidableEq τ] (h : Issued tok live) (ha : tok a = some t) :
    Issued (update tok a none) (Issue.withdraw live t) := by
  refine (h.clear a).withdraw fun b hb => ?_
  by_cases hab : b = a
  · rw [hab, update_self] at hb
    cases hb
  · rw [update_of_ne hab] at hb
    exact hab (h.unique b a t hb ha)

end Issued

end Issue
