import Mathlib.Data.List.Basic
import Mathlib.Data.List.Forall2

/-!
# The shell's glob matcher

`glob_match` walks the pattern and the name with one cursor each and falls back to the last
star it saw.  The cursors are modelled by what is left of the pattern and of the name.
-/

namespace Godspeed.Shell

/-- The byte `*`. -/
def star : UInt8 := 42

/-- The byte `?`. -/
def any : UInt8 := 63

/-- The loop of `glob_match`, at `p` in the pattern and `s` in the name; `last` is the pattern
after the last star, with the name from where that star stops. -/
def globLoop (p s : List UInt8) (last : Option (List UInt8 × List UInt8)) : Bool :=
  match s, p with
  | [], p => (p.dropWhile (· == star)).isEmpty
  | c :: s, b :: p =>
    -- the test for equal bytes comes first, also when both are stars
    if b = any ∨ b = c then globLoop p s last
    else if b = star then globLoop p (c :: s) (some (p, c :: s))
    else match last with
      | some (q, _ :: t) => globLoop q t (some (q, t))
      | _ => false
  | _ :: _, [] => match last with
    | some (q, _ :: t) => globLoop q t (some (q, t))
    | _ => false
termination_by (max p.length (last.elim 0 (·.1.length)), last.elim 0 (·.2.length), p.length)
decreasing_by
  · cases last with
    | none => simp [Prod.lex_def]
    | some x =>
      simp [Prod.lex_def]
      omega
  all_goals
    simp only [Prod.lex_def, Option.elim, List.length_cons]
    omega

/-- `glob_match`. -/
def globMatch (pat name : List UInt8) : Bool :=
  globLoop pat name none

/-- The pieces of a name that one byte of a pattern stands for. -/
def Piece (b : UInt8) (piece : List UInt8) : Prop :=
  b = star ∨ if b = any then piece.length = 1 else piece = [b]

/-- The name can be cut into pieces matching the bytes of the pattern in order. -/
def Fits (pat name : List UInt8) : Prop :=
  ∃ pieces, List.Forall₂ Piece pat pieces ∧ pieces.flatten = name

/-- In the cut, a star that stands at a star of the name takes that byte alone. -/
def Tied : List UInt8 → List (List UInt8) → Prop
  | b :: pat, piece :: pieces =>
    (b = star → (piece ++ pieces.flatten).head? = some star → piece = [star]) ∧ Tied pat pieces
  | _, _ => True

/-- The name can be cut so, with its own stars taken one by one. -/
def FitsTied (pat name : List UInt8) : Prop :=
  ∃ pieces, List.Forall₂ Piece pat pieces ∧ pieces.flatten = name ∧ Tied pat pieces

lemma FitsTied.fits {pat name : List UInt8} (h : FitsTied pat name) : Fits pat name := by
  obtain ⟨pieces, hp, hname, -⟩ := h
  exact ⟨pieces, hp, hname⟩

variable {p s : List UInt8} {b c : UInt8} {last : Option (List UInt8 × List UInt8)}

lemma fitsTied_nil : FitsTied [] s ↔ s = [] := by
  simp [FitsTied, Tied, eq_comm]

lemma fitsTied_cons : FitsTied (b :: p) s ↔ ∃ piece rest, Piece b piece ∧
    (b = star → s.head? = some star → piece = [star]) ∧ FitsTied p rest ∧ piece ++ rest = s := by
  constructor
  · rintro ⟨_, hp, rfl, htied⟩
    cases hp with
    | cons hb hp => exact ⟨_, _, hb, htied.1, ⟨_, hp, rfl, htied.2⟩, rfl⟩
  · rintro ⟨piece, _, hb, htied, ⟨pieces, hp, rfl, hrest⟩, rfl⟩
    exact ⟨piece :: pieces, .cons hb hp, rfl, htied, hrest⟩

/-- At a star of the name the pattern's star is a byte like any other. -/
lemma fitsTied_star_star : FitsTied (star :: p) (star :: s) ↔ FitsTied p s := by
  rw [fitsTied_cons]
  constructor
  · rintro ⟨piece, rest, -, htied, hp, hs⟩
    rw [htied rfl rfl] at hs
    cases hs
    exact hp
  · intro hp
    exact ⟨[star], s, .inl rfl, fun _ _ => rfl, hp, rfl⟩

/-- What follows the first byte of the pattern fits further on. -/
lemma FitsTied.tail (h : FitsTied (b :: p) s) : ∃ t, t <:+ s ∧ FitsTied p t := by
  obtain ⟨piece, rest, -, -, hp, rfl⟩ := fitsTied_cons.mp h
  exact ⟨rest, List.suffix_append _ _, hp⟩

lemma fitsTied_star (hs : s.head? ≠ some star) :
    FitsTied (star :: p) s ↔ ∃ t, t <:+ s ∧ FitsTied p t := by
  constructor
  · exact FitsTied.tail
  · rintro ⟨t, ⟨piece, rfl⟩, hp⟩
    exact fitsTied_cons.mpr ⟨piece, t, .inl rfl, fun _ h => absurd h hs, hp, rfl⟩

lemma fitsTied_byte (hb : b ≠ star) :
    FitsTied (b :: p) s ↔ ∃ c t, s = c :: t ∧ (b = any ∨ b = c) ∧ FitsTied p t := by
  simp only [fitsTied_cons, Piece, hb, false_or, false_implies, true_and]
  constructor
  · rintro ⟨piece, rest, hpiece, hp, rfl⟩
    split at hpiece
    · obtain ⟨c, rfl⟩ := List.length_eq_one_iff.mp hpiece
      exact ⟨c, rest, rfl, .inl ‹_›, hp⟩
    · exact ⟨b, rest, by rw [hpiece]; rfl, .inr rfl, hp⟩
  · rintro ⟨c, t, rfl, hc, hp⟩
    refine ⟨[c], t, ?_, hp, rfl⟩
    split
    · rfl
    · rw [hc.resolve_left ‹_›]

/-- The test that comes first: one byte of the pattern for one of the name. -/
lemma fitsTied_byte_byte (hb : b = any ∨ b = c) : FitsTied (b :: p) (c :: s) ↔ FitsTied p s := by
  by_cases hstar : b = star
  · subst hstar
    obtain rfl : star = c := hb.resolve_left (by decide)
    exact fitsTied_star_star
  · simp [fitsTied_byte hstar, hb]

/-- What is left of the pattern after a star fits at or after `s` wherever it fits at or after
the place the star stops: a new star makes the last one superfluous. -/
def Covers (last : Option (List UInt8 × List UInt8)) (p s : List UInt8) : Prop :=
  ∀ x ∈ last, ∀ u, u <:+ x.2 → FitsTied x.1 u → ∃ v, v <:+ s ∧ FitsTied p v

/-- The last star can be stretched further. -/
def Later (last : Option (List UInt8 × List UInt8)) : Prop :=
  ∃ q c t, last = some (q, c :: t) ∧ ∃ u, u <:+ t ∧ FitsTied q u

lemma later_cons {q t : List UInt8} :
    Later (some (q, c :: t)) ↔ ∃ u, u <:+ t ∧ FitsTied q u := by
  simp [Later]

lemma Later.covered (h : Later last) (hcov : Covers last p s) : ∃ v, v <:+ s ∧ FitsTied p v := by
  obtain ⟨q, c, t, hx, u, hu, hfit⟩ := h
  exact hcov _ hx u (hu.trans (List.suffix_cons c t)) hfit

/-- Stretching a star from `s` on finds the pattern after it at some suffix of `s`. -/
lemma fits_or_later (q s : List UInt8) :
    FitsTied q s ∨ Later (some (q, s)) ↔ ∃ u, u <:+ s ∧ FitsTied q u := by
  cases s with
  | nil => simp [Later]
  | cons c s => simp [later_cons, List.suffix_cons_iff, or_and_right, exists_or]

lemma dropWhile_star_iff : (p.dropWhile (· == star)).isEmpty ↔ FitsTied p [] := by
  induction p with
  | nil => simp [fitsTied_nil]
  | cons b p ih =>
    by_cases hb : b = star
    · rw [hb, fitsTied_star (by simp)]
      simp [← ih]
    · simp [hb, fitsTied_byte hb]

/-- One byte on in both: a star that was taken for the name's own lies no further on than any
cut from a later place puts it. -/
lemma Covers.byte (hcov : Covers last (b :: p) (c :: s)) (hb : b = any ∨ b = c) :
    Covers last p s := by
  intro x hx u hu hfit
  obtain ⟨v, hv, hfit⟩ := hcov x hx u hu hfit
  rcases List.suffix_cons_iff.mp hv with rfl | hv
  · exact ⟨s, List.suffix_refl _, (fitsTied_byte_byte hb).mp hfit⟩
  obtain ⟨t, ht, hfit⟩ := hfit.tail
  exact ⟨t, ht.trans hv, hfit⟩

lemma covers_self : Covers (some (p, s)) p s := by
  rintro _ ⟨⟩ u hu hfit
  exact ⟨u, hu, hfit⟩

/-- The loop finds what fits here or after a longer run of the last star. -/
lemma globLoop_iff (hcov : Covers last p s) :
    globLoop p s last ↔ FitsTied p s ∨ Later last := by
  fun_induction globLoop p s last with
  | case1 last p =>
    rw [dropWhile_star_iff]
    refine ⟨.inl, fun h => h.elim id fun h => ?_⟩
    obtain ⟨v, hv, hfit⟩ := h.covered hcov
    rwa [List.suffix_nil.mp hv] at hfit
  | case2 last c s b p hb ih => rw [ih (hcov.byte hb), fitsTied_byte_byte hb]
  | case3 last c s p hc ih =>
    have hne : (c :: s).head? ≠ some star := by
      rintro ⟨⟩
      exact hc (.inr rfl)
    rw [ih covers_self, fits_or_later, ← fitsTied_star hne]
    -- what the dropped star could still reach lies under the new one
    refine ⟨.inl, fun h => h.elim id fun h => ?_⟩
    obtain ⟨v, hv, hfit⟩ := h.covered hcov
    obtain ⟨t, ht, hfit⟩ := hfit.tail
    exact (fitsTied_star hne).mpr ⟨t, ht.trans hv, hfit⟩
  | case4 c s b p hb hne q d t ih =>
    rw [ih covers_self, fits_or_later, later_cons, fitsTied_byte hne]
    simp [hb]
  | case5 last c s b p hb hne hnone =>
    have hlater : ¬ Later last := fun ⟨q, d, t, h, _⟩ => hnone q d t h
    rw [fitsTied_byte hne]
    simp [hb, hlater]
  | case6 c s q d t ih =>
    rw [ih covers_self, fits_or_later, later_cons, fitsTied_nil]
    simp
  | case7 last c s hnone =>
    have hlater : ¬ Later last := fun ⟨q, d, t, h, _⟩ => hnone q d t h
    simp [fitsTied_nil, hlater]

/-- The matcher accepts the names that can be cut with their own stars taken one by one. -/
lemma globMatch_iff_fitsTied (pat name : List UInt8) : globMatch pat name ↔ FitsTied pat name := by
  rw [globMatch, globLoop_iff (by simp [Covers])]
  simp [Later]

/-- The matcher is right about a name exactly when the name, if it can be cut up for the pattern,
can be so with each star that stands at one of its own stars taking that byte alone. -/
theorem globMatch_iff_fits (pat name : List UInt8) :
    (globMatch pat name ↔ Fits pat name) ↔ (Fits pat name → FitsTied pat name) := by
  rw [globMatch_iff_fitsTied]
  exact ⟨Iff.mpr, fun h => ⟨FitsTied.fits, h⟩⟩

/-- `*a` fits the name `*ba`, but its star is taken for the name's own. -/
theorem star_name_missed : Fits [star, 97] [star, 98, 97] ∧ globMatch [star, 97] [star, 98, 97] = false := by
  constructor
  · exact ⟨[[star, 98], [97]], by simp [Piece, any], rfl⟩
  · simp [globMatch, globLoop, star, any]

end Godspeed.Shell
