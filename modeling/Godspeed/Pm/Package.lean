import Godspeed.Pm.Contract

/-!
# Packages, as the package manager reads them

The package format itself (versions, ranges, the rules a manifest is validated
by) is a crate that the source imports; `Format` says what is used of it.  A
`Manifest` carries the validated rules as fields: at most eight requirements,
none twice and none of the package itself.

A `Shelf` is what `/system/packages` answers: the fetched versions a listing
gives, the manifest beside each, and the verdict of the check of a copy.  A copy
is accepted only under the publisher, name and version that its manifest names.
-/

namespace Godspeed.Pm

open List

inductive Kind
  | service
  | utility
  | app
  | driver
deriving DecidableEq, Repr

/-- Only a service or a driver runs to be needed. -/
def Kind.runs : Kind → Bool
  | .service => true
  | .driver => true
  | .utility => false
  | .app => false

/-- The versions and version ranges of the package format. -/
class Format (V R : Type) where
  /-- A version read from its text. -/
  parse : List Char → Option V
  /-- The text of a version. -/
  text : V → List Char
  /-- A range takes a version. -/
  takes : R → V → Bool
  parse_text : ∀ v, parse (text v) = some v
  isWord_text : ∀ v, Text.IsWord (text v)
  /-- `MAJOR.MINOR.PATCH` has five characters at least. -/
  length_text : ∀ v, 5 ≤ (text v).length

export Format (parse takes)

/-- A part of a package name: lower-case letters, digits and `-`. -/
structure IsPart (s : List Char) : Prop where
  ne_nil : s ≠ []
  short : s.length ≤ 39
  plain : ∀ c ∈ s, c.isLower || c.isDigit || c == '-'

instance (s : List Char) : Decidable (IsPart s) :=
  decidable_of_iff
    (s ≠ [] ∧ s.length ≤ 39 ∧ s.all (fun c => c.isLower || c.isDigit || c == '-') = true)
    ⟨fun h => ⟨h.1, h.2.1, all_eq_true.mp h.2.2⟩,
      fun h => ⟨h.ne_nil, h.short, all_eq_true.mpr h.plain⟩⟩

@[ext]
structure PackageName where
  publisher : List Char
  name : List Char
  publisher_part : IsPart publisher
  name_part : IsPart name
deriving DecidableEq

/-- The text `publisher/name`. -/
def fullName (publisher name : List Char) : List Char :=
  publisher ++ '/' :: name

variable (n : PackageName)

def PackageName.text : List Char :=
  fullName n.publisher n.name

lemma white_of_isLower {c : Char} (hc : c.isLower) : Text.white c = false := by
  rw [Char.isLower, Bool.and_eq_true, decide_eq_true_iff, decide_eq_true_iff] at hc
  exact Text.white_of_range hc.1 hc.2 (by decide) (by decide)

lemma IsPart.solid {s : List Char} (hs : IsPart s) : ∀ c ∈ s, Text.white c = false := by
  intro c hc
  have hplain := hs.plain c hc
  simp only [Bool.or_eq_true, beq_iff_eq] at hplain
  rcases hplain with (hlower | hdigit) | hdash
  · exact white_of_isLower hlower
  · exact Text.white_of_isDigit hdigit
  · rw [hdash]
    decide

/-- The text of a package name is one word of three characters or more. -/
lemma PackageName.isWord_text : Text.IsWord n.text where
  ne_nil := by simp [text, fullName]
  solid := by
    intro c hc
    simp only [text, fullName, mem_append, mem_cons] at hc
    rcases hc with hc | rfl | hc
    · exact n.publisher_part.solid c hc
    · decide
    · exact n.name_part.solid c hc

lemma PackageName.length_text : 3 ≤ n.text.length := by
  have hp := length_pos_iff.mpr n.publisher_part.ne_nil
  have hn := length_pos_iff.mpr n.name_part.ne_nil
  simp only [text, fullName, length_append, length_cons]
  omega

lemma IsPart.no_slash {s : List Char} (hs : IsPart s) : '/' ∉ s := fun hmem =>
  absurd (hs.plain '/' hmem) (by decide)

lemma PackageName.text_injective : Function.Injective PackageName.text := by
  intro m n h
  have hcut : ∀ k : PackageName, k.text.takeWhile (· ≠ '/') = k.publisher := by
    intro k
    rw [text, fullName, takeWhile_append_of_pos]
    · simp
    · intro c hc
      have hne : c ≠ '/' := fun h => k.publisher_part.no_slash (h ▸ hc)
      simpa using hne
  have hpub : m.publisher = n.publisher := by
    rw [← hcut m, ← hcut n, h]
  have hname : m.name = n.name := by
    simp only [text, fullName, hpub, append_cancel_left_eq, cons.injEq, true_and] at h
    exact h
  exact PackageName.ext hpub hname

/-- A package that another needs, and in which versions. -/
structure Requirement (R : Type) where
  name : PackageName
  range : R
deriving DecidableEq

/-- A manifest that read and passed the format's rules. -/
structure Manifest (V R : Type) where
  name : PackageName
  version : V
  kind : Kind
  requires : List (Requirement R)
  few : requires.length ≤ 8
  once : (requires.map Requirement.name).Nodup
  selfless : ∀ r ∈ requires, r.name ≠ name

/-- A fetched package that checked out. -/
structure Checked (V R : Type) where
  manifest : Manifest V R
  contract : Contract

/-- One fetched version, by its folder. -/
structure Fetched where
  publisher : List Char
  name : List Char
  version : List Char
deriving DecidableEq

/-- The package's name, `publisher/name`. -/
def Fetched.pkg (f : Fetched) : List Char :=
  fullName f.publisher f.name

/-- What the folder of fetched packages answers. -/
structure Shelf (V R : Type) [Format V R] where
  /-- The versions that a listing of the folder gives, in its order. -/
  fetched : List Fetched
  /-- The manifest of a package at a version, if it can be read. -/
  manifest : List Char → List Char → Option (Manifest V R)
  /-- The verdict on a copy for this machine. -/
  check : Fetched → Option (Checked V R)
  /-- A copy is accepted under the names its manifest gives. -/
  check_names : ∀ f c, check f = some c →
    manifest f.pkg f.version = some c.manifest ∧ c.manifest.name.text = f.pkg ∧
      Format.text R c.manifest.version = f.version

def Manifest.folder {V R : Type} [Format V R] (m : Manifest V R) : Fetched where
  publisher := m.name.publisher
  name := m.name.name
  version := Format.text R m.version

/-- A shelf with these releases, each intact and with a contract that requests
nothing. -/
def Shelf.ofReleases {V R : Type} [Format V R] (ms : List (Manifest V R)) : Shelf V R where
  fetched := ms.map Manifest.folder
  manifest := fun p v => ms.find? fun m => m.folder.pkg = p ∧ m.folder.version = v
  check := fun f =>
    (ms.find? fun m => m.folder.pkg = f.pkg ∧ m.folder.version = f.version).map
      fun m => ⟨m, Contract.blank⟩
  check_names := by
    intro f c h
    obtain ⟨m, hm, rfl⟩ := Option.map_eq_some_iff.mp h
    have hkey := List.find?_some hm
    rw [decide_eq_true_iff] at hkey
    exact ⟨hm, hkey.1, hkey.2⟩

end Godspeed.Pm
