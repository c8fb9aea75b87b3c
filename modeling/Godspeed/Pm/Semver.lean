import Godspeed.Pm.Package

/-!
# Versions of three numbers

The versions and ranges that `docs/developer-services-design.md` 16.2 describes:
`MAJOR.MINOR.PATCH`, and the ranges `^`, `=` and `>=`.  They are one `Format`.
-/

namespace Godspeed.Pm

open List

/-- `MAJOR.MINOR.PATCH`. -/
@[ext]
structure Version where
  major : UInt64
  minor : UInt64
  patch : UInt64
deriving DecidableEq, Repr

namespace Version

variable (v : Version)

/-- The numbers of a version, ordered from the first to the last. -/
def key : ℕ ×ₗ ℕ ×ₗ ℕ :=
  toLex (v.major.toNat, toLex (v.minor.toNat, v.patch.toNat))

lemma key_injective : Function.Injective key := by
  intro v w h
  have h := toLex.injective h
  rw [Prod.mk.injEq] at h
  obtain ⟨hmajor, h⟩ := h
  have h := toLex.injective h
  rw [Prod.mk.injEq] at h
  exact Version.ext (UInt64.toNat_inj.mp hmajor) (UInt64.toNat_inj.mp h.1) (UInt64.toNat_inj.mp h.2)

instance : LinearOrder Version := LinearOrder.lift' key key_injective

def text : List Char :=
  Nat.toDigits 10 v.major.toNat ++ '.' ::
    (Nat.toDigits 10 v.minor.toNat ++ '.' :: Nat.toDigits 10 v.patch.toNat)

def number (t : List Char) : Option UInt64 :=
  (Text.natural (2 ^ 64) t).map UInt64.ofNat

def parse (t : List Char) : Option Version :=
  match t.splitOn '.' with
  | [a, b, c] =>
    match number a, number b, number c with
    | some major, some minor, some patch => some ⟨major, minor, patch⟩
    | _, _, _ => none
  | _ => none

lemma number_toDigits (n : UInt64) : number (Nat.toDigits 10 n.toNat) = some n := by
  rw [number, Text.natural_toDigits n.toNat_lt]
  simp

lemma dot_not_mem_toDigits (n : Nat) : '.' ∉ Nat.toDigits 10 n := fun h =>
  absurd (Text.isDigit_of_mem_toDigits h) (by decide)

lemma parse_text : parse v.text = some v := by
  have hsplit : v.text.splitOn '.' = [Nat.toDigits 10 v.major.toNat,
      Nat.toDigits 10 v.minor.toNat, Nat.toDigits 10 v.patch.toNat] := by
    have hnodot : ∀ l ∈ [Nat.toDigits 10 v.major.toNat, Nat.toDigits 10 v.minor.toNat,
        Nat.toDigits 10 v.patch.toNat], '.' ∉ l := by simp [dot_not_mem_toDigits]
    simpa [text] using splitOn_intercalate '.' hnodot (by simp)
  rw [parse, hsplit]
  simp only [number_toDigits]

lemma isWord_text : Text.IsWord v.text where
  ne_nil := by simp [text]
  solid := by
    intro c hc
    simp only [text, mem_append, mem_cons] at hc
    rcases hc with hc | rfl | hc | rfl | hc
    · exact (Text.isWord_toDigits _).solid c hc
    · decide
    · exact (Text.isWord_toDigits _).solid c hc
    · decide
    · exact (Text.isWord_toDigits _).solid c hc

lemma length_text : 5 ≤ v.text.length := by
  have hpos : ∀ n : Nat, 0 < (Nat.toDigits 10 n).length := fun n =>
    length_pos_iff.mpr Nat.toDigits_ne_nil
  have hmajor := hpos v.major.toNat
  have hminor := hpos v.minor.toNat
  have hpatch := hpos v.patch.toNat
  simp only [text, length_append, length_cons]
  omega

end Version

inductive VersionReq
  | caret (v : Version)
  | exact (v : Version)
  | atLeast (v : Version)
deriving DecidableEq, Repr

/-- A range takes a version: `^` the same major number and at least this one, the
same minor number before `1.0.0`, exactly this one before `0.1.0`. -/
def VersionReq.takes : VersionReq → Version → Bool
  | .caret w, v =>
    w ≤ v ∧ v.major = w.major ∧ (w.major = 0 → v.minor = w.minor) ∧
      (w.major = 0 ∧ w.minor = 0 → v = w)
  | .exact w, v => v = w
  | .atLeast w, v => w ≤ v

instance : Format Version VersionReq where
  parse := Version.parse
  text := Version.text
  takes := VersionReq.takes
  parse_text := Version.parse_text
  isWord_text := Version.isWord_text
  length_text := Version.length_text

end Godspeed.Pm
