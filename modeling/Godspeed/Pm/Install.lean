import Godspeed.Pm.Installed
import Godspeed.Pm.Semver

/-!
# Installing and uninstalling

`install` picks a fetched version, checks it, requires what it needs to be
installed in range and every installed dependent to take the new version, records
the operator's answer, writes the list and has the supervisor start the package.
A start that fails puts the previous version back on the list, or takes the
package off it.

* `entries_install`: what the list holds after an install, in terms of the list
  before (`leaves`).
* `met_run_iff`: a command leaves every requirement met exactly when it is not
  one of those that `Breaks` describes.
-/

namespace Godspeed.Pm

open Text List Option

/-- What the package manager keeps on the disk that installing changes. -/
structure Disk where
  /-- The installed list, if there is a file. -/
  list : Option (List Char)
  /-- The operator's answer beside each package and version. -/
  grant : Entry → Option (List Char)

/-- The packages on the installed list. -/
def Disk.entries (d : Disk) : List Entry :=
  Pm.entries (d.list.getD [])

structure Answers where
  /-- To the request to start the version listed now. -/
  start : Bool
  /-- To the request to start the version listed before. -/
  restore : Bool
deriving DecidableEq, Repr

/-- Why a command did not change the list. -/
inductive Refusal
  | fetched
  | check
  | requires (name : List Char)
  | list
  | dependent
  | grant
  | full
  | notInstalled
deriving DecidableEq, Repr

inductive Reply
  | refused (why : Refusal)
  /-- The start failed, and whether the version before is back and running. -/
  | failed (restored : Bool)
  | installed
  | uninstalled
deriving DecidableEq, Repr

/-- `str::split_once`. -/
def splitOnce (c : Char) (t : List Char) : Option (List Char × List Char) :=
  if c ∈ t then some (t.takeWhile (· ≠ c), (t.dropWhile (· ≠ c)).tail) else none

/-- The pieces of a text between its commas. -/
def pieces (t : List Char) : List (List Char) :=
  t.splitOn ','

section Commands

variable {V R : Type} [Format V R] {file : Option (List Char)}
  {t pkg version which grant : List Char} {shelf : Shelf V R} {f : Fetched} {d : Disk} {a : Answers}

/-- The order of two texts as versions; a text that is no version comes first. -/
def newer (V R : Type) [Format V R] [LinearOrder V] (f b : Fetched) : Bool :=
  match (parse R f.version : Option V), (parse R b.version : Option V) with
  | some v, some w => w < v
  | some _, none => true
  | none, _ => false

/-- The newest fetched version that `which` names, `publisher/name` or
`publisher/name@version`. -/
def Shelf.pick [LinearOrder V] (shelf : Shelf V R) (which : List Char) : Option Fetched :=
  let (pkg, version) := match splitOnce '@' which with
    | some (p, v) => (p, some v)
    | none => (which, none)
  shelf.fetched.foldl (fun best f =>
    if f.pkg ≠ pkg then best
    else if version.any (· ≠ f.version) then best
    else match best with
      | none => some f
      | some b => if newer V R f b then some f else best) none

/-- The installed version of a package, read as a version: the first 24 bytes
of what the list says. -/
def installedAs (V R : Type) [Format V R] (file : Option (List Char)) (pkg : List Char) :
    Option V :=
  ((installedVersion (readList file) pkg).bind (within versionMax)).bind (parse R)

/-- Is there a listed package other than `pkg` that requires it in a way that
`each` stops at?  A manifest that cannot be read is refused, not skipped. -/
def requiring (shelf : Shelf V R) (pkg : List Char) (each : R → Bool) :
    List Entry → Option Bool
  | [] => some false
  | e :: es =>
    if e.1 = pkg then requiring shelf pkg each es
    else match shelf.manifest e.1 e.2 with
      | none => none
      | some m =>
        if m.requires.any fun r => r.name.text = pkg ∧ each r.range then some true
        else requiring shelf pkg each es

/-- One word of the operator's answer added to those granted. -/
def grantWord (c : Checked V R) (granted : List (List Char)) (p : List Char) :
    Option (List (List Char)) :=
  let console := p = "console".toList ∧ c.manifest.kind = .app
  let device := (p = "device".toList ∨ (p = "memory".toList ∧ 0 < c.contract.dmaBytes)) ∧
    c.manifest.kind = .driver
  if p = "supervisor".toList then none
  else if ¬ console ∧ ¬ device ∧ p ∉ c.contract.peers then none
  else if p ∈ granted then some granted
  else if granted.length = maxPeers then none
  else some (granted ++ [p])

/-- The operator's answer, each word one that the contract requests. -/
def grantWords (c : Checked V R) (grant : List Char) : Option (List (List Char)) :=
  if grant = "none".toList then some []
  else (((pieces grant).map trim).filter (· ≠ [])).foldlM (grantWord c) []

/-- The file that records the answer; a word that does not fit ends it. -/
def grantFile (granted : List (List Char)) : List Char :=
  (granted.foldl (fun (acc : List Char × Bool) p =>
    if acc.2 ∨ size acc.1 + size p + 1 > 512 then (acc.1, true)
    else (acc.1 ++ p ++ ['\n'], false)) ([], false)).1

/-- The checks that an install makes before it writes anything. -/
def vet [LinearOrder V] (shelf : Shelf V R) (file : Option (List Char)) (which grant : List Char) :
    Except Refusal (Fetched × Checked V R × List (List Char)) :=
  match shelf.pick which with
  | none => .error .fetched
  | some f =>
    match shelf.check f with
    | none => .error .check
    | some c =>
      match c.manifest.requires.find? fun r =>
          !(installedAs V R file r.name.text).any (takes r.range) with
      | some r => .error (.requires r.name.text)
      | none =>
        match readList file with
        | none => .error .list
        | some t =>
          match requiring shelf f.pkg
              (fun range => (parse R f.version : Option V).any (!takes range ·)) (entries t) with
          | none => .error .list
          | some true => .error .dependent
          | some false =>
            match grantWords c grant with
            | none => .error .grant
            | some granted => .ok (f, c, granted)

/-- A package taken off the list after a failed start; a list that cannot be
written stays. -/
def delist (d : Disk) (pkg : List Char) : Disk :=
  match writeList d.list pkg [] with
  | some out => { d with list := some out }
  | none => d

/-- The line put back after a failed start, where there was another version. -/
def previousLine (file : Option (List Char)) (pkg : List Char) : Option (List Char) :=
  (installedVersion (readList file) pkg).map fun v =>
    lineOf pkg ((within versionMax v).getD [])

/-- The operator's answer recorded beside the package. -/
def recordGrant (d : Disk) (f : Fetched) (granted : List (List Char)) : Disk :=
  { d with grant := Function.update d.grant (f.pkg, f.version) (some (grantFile granted)) }

/-- What is done after a start that failed: another version listed before is put
back on the list, and asked to be started; otherwise the package is taken off. -/
def undo (before : Option (List Char)) (listed : Disk) (pkg line : List Char) (restore : Bool) :
    Disk × Reply :=
  match previousLine before pkg with
  | none => (delist listed pkg, .failed false)
  | some p =>
    if p = line then (delist listed pkg, .failed false)
    else match writeList listed.list pkg p with
      | some back => ({ listed with list := some back }, .failed restore)
      | none => (listed, .failed false)

/-- `godspeed install <which> grant <grant>`. -/
def install [LinearOrder V] (shelf : Shelf V R) (d : Disk) (which grant : List Char) (a : Answers) :
    Disk × Reply :=
  match vet shelf d.list which grant with
  | .error why => (d, .refused why)
  | .ok (f, _, granted) =>
    match writeList d.list f.pkg (lineOf f.pkg f.version) with
    | none => (recordGrant d f granted, .refused .full)
    | some out =>
      let listed := { recordGrant d f granted with list := some out }
      if a.start then (listed, .installed)
      else undo d.list listed f.pkg (lineOf f.pkg f.version) a.restore

/-- `godspeed uninstall <pkg>`. -/
def uninstall (shelf : Shelf V R) (d : Disk) (pkg : List Char) : Disk × Reply :=
  match readList d.list with
  | none => (d, .refused .notInstalled)
  | some t =>
    if (versionOf (entries t) pkg).isNone then (d, .refused .notInstalled)
    else match requiring shelf pkg (fun _ => true) (entries t) with
      | none => (d, .refused .list)
      | some true => (d, .refused .dependent)
      | some false =>
        match writeList d.list pkg [] with
        | none => (d, .refused .full)
        | some out => ({ d with list := some out }, .uninstalled)

/-- A command that changes the installed list, with what the supervisor answers. -/
inductive Command
  | install (which grant : List Char) (answers : Answers)
  | uninstall (pkg : List Char)
deriving DecidableEq, Repr

def Command.run [LinearOrder V] (shelf : Shelf V R) (d : Disk) : Command → Disk × Reply
  | .install which grant a => Pm.install shelf d which grant a
  | .uninstall pkg => Pm.uninstall shelf d pkg

/-- The list with `line` in the place of the package's line fits. -/
def Fits (file : Option (List Char)) (pkg line : List Char) : Prop :=
  size (unlines (keptLines pkg (file.getD []) ++ [line])) ≤ listMax

instance (file : Option (List Char)) (pkg line : List Char) : Decidable (Fits file pkg line) :=
  inferInstanceAs (Decidable (_ ≤ _))

/-- The version that an install leaves on the list for its package, once the new
list has been written; `none` when it leaves the package off the list. -/
def leaves (d : Disk) (f : Fetched) (a : Answers) : Option (List Char) :=
  if a.start then some f.version
  else match versionOf d.entries f.pkg with
    | none => none
    | some v =>
      let back := (within versionMax v).getD []
      if back = f.version then none
      else if ¬ Fits d.list f.pkg (lineOf f.pkg back) then some f.version
      else if back = [] then none
      else some back

/-- An entry, or none, in the place of those of a package. -/
def replaced (es : List Entry) (pkg : List Char) : Option (List Char) → List Entry
  | some version => put es pkg version
  | none => drop es pkg

lemma readList_getD (h : readList file = some t) : file.getD [] = t := by
  cases file with
  | none => exact some.inj h
  | some s =>
    rw [readList, ite_none_right_eq_some] at h
    exact some.inj h.2

lemma lineOf_ne_nil (pkg version : List Char) : lineOf pkg version ≠ [] := by
  simp [lineOf]

lemma lineOf_inj {v w : List Char} : lineOf pkg v = lineOf pkg w ↔ v = w := by
  simp [lineOf]

lemma writeList_lineOf (pkg version : List Char) (hread : readList file = some t) :
    writeList file pkg (lineOf pkg version) = if Fits file pkg (lineOf pkg version) then
        some (unlines (keptLines pkg t ++ [lineOf pkg version])) else none := by
  rw [writeList, hread, bind_some]
  simp only [Fits, readList_getD hread, lineOf_ne_nil, if_false]

section

variable (hp : IsWord pkg)
include hp

lemma oneLine_lineOf (hv : ∀ c ∈ version, white c = false) : OneLine (lineOf pkg version) := by
  have hnl : ∀ s : List Char, (∀ c ∈ s, white c = false) → '\n' ∉ s := fun s hs hmem =>
    absurd (hs _ hmem) (by decide)
  refine ⟨?_, fun hlast => ?_⟩
  · simp [lineOf, hnl pkg hp.solid, hnl version hv]
  rw [lineOf, getLast?_append_cons] at hlast
  have hmem := mem_of_getLast? hlast
  rcases mem_cons.mp hmem with h | h
  · exact absurd h (by decide)
  · exact absurd (hv _ h) (by decide)

lemma head_words_lineOf : (words (lineOf pkg version)).head? = some pkg := by
  have hspace : white ' ' := by decide
  rw [lineOf, words_append hp (by simp [hspace])]
  rfl

lemma keptLines_lineOf (hv : ∀ c ∈ version, white c = false) :
    keptLines pkg (unlines (keptLines pkg t ++ [lineOf pkg version])) = keptLines pkg t := by
  refine keptLines_unlines fun l hl => ?_
  rw [mem_singleton.mp hl]
  exact ⟨oneLine_lineOf hp hv, head_words_lineOf hp⟩

lemma entries_lineOf (hv : IsWord version) :
    entries (unlines (keptLines pkg t ++ [lineOf pkg version])) = put (entries t) pkg version := by
  rw [entries_unlines _ _ (by simpa using oneLine_lineOf hp hv.solid)]
  simp [put, drop, entryOf_lineOf hp hv]

lemma entries_lineOf_nil :
    entries (unlines (keptLines pkg t ++ [lineOf pkg []])) = drop (entries t) pkg := by
  rw [entries_unlines _ _ (by simpa using oneLine_lineOf hp (by simp))]
  simp [entryOf_lineOf_nil hp]

end

/-- What the checks before an install have established. -/
structure Admitted (shelf : Shelf V R) (file : Option (List Char)) (f : Fetched)
    (c : Checked V R) (t : List Char) : Prop where
  check : shelf.check f = some c
  installed : ∀ r ∈ c.manifest.requires,
    (installedAs V R file r.name.text).any (takes r.range) = true
  read : readList file = some t
  dependents : requiring shelf f.pkg
    (fun range => (parse R f.version : Option V).any (!takes range ·)) (entries t) = some false

lemma vet_ok [LinearOrder V] {c : Checked V R} {granted : List (List Char)}
    (h : vet shelf file which grant = .ok (f, c, granted)) :
    shelf.pick which = some f ∧ ∃ t, Admitted shelf file f c t := by
  rw [vet] at h
  split at h
  · cases h
  rename_i f' hpick
  split at h
  · cases h
  rename_i c' hcheck
  split at h
  · cases h
  rename_i hfind
  split at h
  · cases h
  rename_i t hread
  split at h
  · cases h
  · cases h
  rename_i hdep
  split at h
  · cases h
  cases h
  refine ⟨hpick, t, hcheck, fun r hr => ?_, hread, hdep⟩
  have hnot := find?_eq_none.mp hfind r hr
  simpa using hnot

lemma of_requiring {each : R → Bool} {es : List Entry}
    (h : requiring shelf pkg each es = some false) :
    ∀ e ∈ es, e.1 ≠ pkg → ∀ r ∈ shelf.wants e, r.name.text = pkg → each r.range = false := by
  induction es with
  | nil => simp
  | cons e es ih =>
    rw [requiring] at h
    split at h
    next he =>
      intro e' he' hne
      rcases mem_cons.mp he' with rfl | he'
      · exact absurd he hne
      · exact ih h e' he' hne
    · split at h
      · cases h
      rename_i m hm
      split at h
      · cases h
      rename_i hany
      intro e' he' hne r hr hname
      rcases mem_cons.mp he' with rfl | he'
      · rw [Shelf.wants, hm, map_some] at hr
        by_contra heach
        exact hany (any_eq_true.mpr ⟨r, hr, by simp [hname, heach]⟩)
      · exact ih h e' he' hne r hr hname

namespace Admitted

variable {shelf : Shelf V R} {d : Disk} {f : Fetched} {c : Checked V R} {t : List Char}
  {which grant : List Char} {granted : List (List Char)} {a : Answers}

variable (h : Admitted shelf d.list f c t)
include h

lemma isWord_pkg : IsWord f.pkg := by
  rw [← (shelf.check_names f c h.check).2.1]
  exact c.manifest.name.isWord_text

lemma isWord_version : IsWord f.version := by
  rw [← (shelf.check_names f c h.check).2.2]
  exact Format.isWord_text _

lemma entries_eq : d.entries = entries t := by
  rw [Disk.entries, readList_getD h.read]

lemma wants_eq : shelf.wants (f.pkg, f.version) = c.manifest.requires := by
  rw [Shelf.wants, (shelf.check_names f c h.check).1]
  rfl

lemma parse_eq : (parse R f.version : Option V) = some c.manifest.version := by
  rw [← (shelf.check_names f c h.check).2.2]
  exact Format.parse_text _

lemma name_ne {r : Requirement R} (hr : r ∈ c.manifest.requires) : r.name.text ≠ f.pkg := by
  rw [← (shelf.check_names f c h.check).2.1]
  exact fun heq => c.manifest.selfless r hr (PackageName.text_injective heq)

/-- The new version suits the list exactly when what it requires is on the list
as a whole version, not only by its first bytes. -/
lemma suits_iff : Suits shelf d.entries f.pkg f.version ↔
      ∀ r ∈ c.manifest.requires, meets V d.entries r := by
  have hothers : ∀ e ∈ d.entries, e.1 ≠ f.pkg → ∀ r ∈ shelf.wants e, r.name.text = f.pkg →
      takesText V r.range f.version := by
    intro e he hne r hr hname
    have heach := of_requiring h.dependents e (h.entries_eq ▸ he) hne r hr hname
    rw [h.parse_eq] at heach
    rw [takesText, h.parse_eq]
    simpa using heach
  constructor
  · rintro ⟨-, hown⟩ r hr
    have hmeets := hown r (h.wants_eq ▸ hr)
    rwa [meets_put, if_neg (h.name_ne hr)] at hmeets
  · intro hall
    refine ⟨hothers, fun r hr => ?_⟩
    rw [h.wants_eq] at hr
    rw [meets_put, if_neg (h.name_ne hr)]
    exact hall r hr

lemma previousLine_eq : previousLine d.list f.pkg = (versionOf d.entries f.pkg).map fun v =>
      lineOf f.pkg ((within versionMax v).getD []) := by
  rw [previousLine, h.read, installedVersion, bind_some, h.entries_eq]

omit [Format V R] h in
lemma back_solid {v : List Char} (hv : versionOf d.entries f.pkg = some v) :
    ∀ x ∈ (within versionMax v).getD [], white x = false := by
  intro x hx
  have hword := (isWord_of_mem_entries (mem_of_versionOf hv)).2
  cases hcut : within versionMax v with
  | none => simp [hcut] at hx
  | some s =>
    rw [hcut] at hx
    exact hword.solid x ((prefix_of_within hcut).subset hx)

section

variable (hfits : Fits d.list f.pkg (lineOf f.pkg f.version))
include hfits

lemma writeList_eq : ∃ out, writeList d.list f.pkg (lineOf f.pkg f.version) = some out ∧
      readList (some out) = some out ∧ keptLines f.pkg out = keptLines f.pkg t ∧
      entries out = put d.entries f.pkg f.version := by
  have hwrite := writeList_lineOf f.pkg f.version h.read
  rw [if_pos hfits] at hwrite
  refine ⟨_, hwrite, readList_of_writeList hwrite,
    keptLines_lineOf h.isWord_pkg h.isWord_version.solid, ?_⟩
  rw [entries_lineOf h.isWord_pkg h.isWord_version, h.entries_eq]

lemma entries_delist {listed : Disk} {out : List Char}
    (hlist : listed.list = some out) (hread : readList (some out) = some out)
    (hkept : keptLines f.pkg out = keptLines f.pkg t) :
    (delist listed f.pkg).entries = drop d.entries f.pkg := by
  have hsize : size (unlines (keptLines f.pkg t)) ≤ listMax := by
    rw [Fits, readList_getD h.read, unlines_append, size_append] at hfits
    omega
  have hwrite : writeList (some out) f.pkg [] = some (unlines (keptLines f.pkg t)) := by
    rw [writeList, hread, bind_some, hkept]
    simpa using hsize
  rw [delist, hlist, hwrite]
  exact (entries_keptLines f.pkg t).trans (by rw [h.entries_eq])

lemma entries_undo {listed : Disk} {out : List Char}
    (hlist : listed.list = some out) (hread : readList (some out) = some out)
    (hkept : keptLines f.pkg out = keptLines f.pkg t)
    (hnew : entries out = put d.entries f.pkg f.version) (restore : Bool) :
    (undo d.list listed f.pkg (lineOf f.pkg f.version) restore).1.entries =
      replaced d.entries f.pkg (leaves d f ⟨false, restore⟩) := by
  have hdelist := h.entries_delist hfits hlist hread hkept
  rw [undo, h.previousLine_eq, leaves]
  cases hold : versionOf d.entries f.pkg with
  | none => exact hdelist
  | some v =>
    have hback := back_solid hold
    simp only [map_some, lineOf_inj]
    generalize (within versionMax v).getD [] = back at hback
    have hagain : writeList (some out) f.pkg (lineOf f.pkg back) =
        if Fits d.list f.pkg (lineOf f.pkg back) then
          some (unlines (keptLines f.pkg t ++ [lineOf f.pkg back])) else none := by
      rw [writeList_lineOf _ _ hread]
      simp only [Fits, getD_some, hkept, readList_getD h.read]
    rw [hlist, hagain]
    by_cases hsame : back = f.version
    · simp only [hsame]
      exact hdelist
    by_cases hroom : Fits d.list f.pkg (lineOf f.pkg back)
    · simp only [hsame, hroom]
      by_cases hnil : back = []
      · rw [if_pos hnil]
        exact (congrArg entries (by rw [hnil]; rfl)).trans
          ((entries_lineOf_nil h.isWord_pkg).trans (by rw [h.entries_eq]; rfl))
      · rw [if_neg hnil]
        exact (entries_lineOf h.isWord_pkg ⟨hnil, hback⟩).trans (by rw [h.entries_eq]; rfl)
    · simp only [hsame, hroom, if_false]
      rw [Disk.entries, hlist]
      exact hnew

end

/-- **What an install leaves on the list**, once the new list has been written. -/
theorem entries_install [LinearOrder V] (hvet : vet shelf d.list which grant = .ok (f, c, granted))
    (hfits : Fits d.list f.pkg (lineOf f.pkg f.version)) :
    (install shelf d which grant a).1.entries = replaced d.entries f.pkg (leaves d f a) := by
  obtain ⟨out, hwrite, hread, hkept, hnew⟩ := h.writeList_eq hfits
  rw [install, hvet]
  simp only [hwrite]
  obtain ⟨start, restore⟩ := a
  cases start with
  | true => exact hnew
  | false => exact h.entries_undo hfits rfl hread hkept hnew restore

end Admitted

lemma entries_install_of_refused [LinearOrder V]
    (h : ∀ f c granted, vet shelf d.list which grant = .ok (f, c, granted) →
      ¬ Fits d.list f.pkg (lineOf f.pkg f.version)) :
    (install shelf d which grant a).1.entries = d.entries := by
  rw [install]
  split
  · rfl
  rename_i f c granted hvet
  obtain ⟨-, t, hadm⟩ := vet_ok hvet
  have hwrite := writeList_lineOf f.pkg f.version hadm.read
  rw [if_neg (h f c granted hvet)] at hwrite
  simp only [hwrite]
  rfl

/-- An uninstall leaves the list, or takes off it a package that no other
requires. -/
lemma entries_uninstall (shelf : Shelf V R) (d : Disk) (pkg : List Char) :
    (uninstall shelf d pkg).1.entries = d.entries ∨
      (uninstall shelf d pkg).1.entries = drop d.entries pkg ∧ Unneeded shelf d.entries pkg := by
  rw [uninstall]
  split
  · exact .inl rfl
  rename_i t hread
  have hents : d.entries = entries t := by
    rw [Disk.entries, readList_getD hread]
  split
  · exact .inl rfl
  split
  · exact .inl rfl
  · exact .inl rfl
  rename_i hreq
  split
  · exact .inl rfl
  rename_i out hout
  right
  rw [writeList, hread, bind_some] at hout
  simp only [if_true, append_nil, ite_none_right_eq_some] at hout
  obtain ⟨-, hout⟩ := hout
  cases hout
  constructor
  · rw [hents]
    exact entries_keptLines pkg t
  · intro e he hne r hr hname
    cases (of_requiring hreq e (hents ▸ he) hne r hr hname)

/-- A command leaves the list, or replaces the entry of one package. -/
lemma entries_run [LinearOrder V] (shelf : Shelf V R) (d : Disk) (cmd : Command) :
    (cmd.run shelf d).1.entries = d.entries ∨
      ∃ pkg left, (cmd.run shelf d).1.entries = replaced d.entries pkg left := by
  cases cmd with
  | uninstall pkg => exact (entries_uninstall shelf d pkg).imp_right fun h => ⟨pkg, none, h.1⟩
  | install which grant a =>
    by_cases hwritten : ∃ f c granted, vet shelf d.list which grant = .ok (f, c, granted) ∧
        Fits d.list f.pkg (lineOf f.pkg f.version)
    · obtain ⟨f, c, granted, hvet, hfits⟩ := hwritten
      obtain ⟨-, t, hadm⟩ := vet_ok hvet
      exact .inr ⟨f.pkg, leaves d f a, hadm.entries_install hvet hfits⟩
    · exact .inl (entries_install_of_refused fun f c granted hvet hfits =>
        hwritten ⟨f, c, granted, hvet, hfits⟩)

/-- Every requirement of every package on the installed list is met. -/
def Disk.Met (shelf : Shelf V R) (d : Disk) : Prop :=
  Pm.Met shelf d.entries

instance (shelf : Shelf V R) (d : Disk) : Decidable (d.Met shelf) :=
  inferInstanceAs (Decidable (Pm.Met shelf d.entries))

/-- The commands that leave a listed package without a version it needs.  The
install is admitted and its list fits; then either
* the new version stays on the list, and a requirement of it is met only by the
  first 24 bytes of the version that is listed for it;
* the package is taken off the list, and another listed package requires it; or
* what is put back is not the version that was listed (it had more than 24 bytes),
  and it does not suit the list. -/
def Command.Breaks [LinearOrder V] (shelf : Shelf V R) (d : Disk) : Command → Prop
  | .install which grant a => ∃ f c granted,
      vet shelf d.list which grant = .ok (f, c, granted) ∧
      Fits d.list f.pkg (lineOf f.pkg f.version) ∧
      ((leaves d f a = some f.version ∧
          ∃ r ∈ c.manifest.requires, meets V d.entries r = false) ∨
        (leaves d f a = none ∧
          ∃ e ∈ d.entries, e.1 ≠ f.pkg ∧ ∃ r ∈ shelf.wants e, r.name.text = f.pkg) ∨
        ∃ back, leaves d f a = some back ∧ back ≠ f.version ∧
          versionOf d.entries f.pkg ≠ some back ∧ ¬ Suits shelf d.entries f.pkg back)
  | .uninstall _ => False

lemma not_unneeded_iff {es : List Entry} : ¬ Unneeded shelf es pkg ↔
      ∃ e ∈ es, e.1 ≠ pkg ∧ ∃ r ∈ shelf.wants e, r.name.text = pkg := by
  simp [Unneeded]

lemma met_iff_not_breaks [LinearOrder V] (cmd : Command) (hmet : d.Met shelf) :
    (cmd.run shelf d).1.Met shelf ↔ ¬ cmd.Breaks shelf d := by
  cases cmd with
  | uninstall pkg =>
    rw [Command.run, Command.Breaks, not_false_eq_true, iff_true, Disk.Met]
    rcases entries_uninstall shelf d pkg with hsame | ⟨hdrop, hunneeded⟩
    · rw [hsame]
      exact hmet
    · rw [hdrop]
      exact (met_drop_iff hmet).mpr hunneeded
  | install which grant a =>
    rw [Command.run, Disk.Met]
    by_cases hwritten : ∃ f c granted, vet shelf d.list which grant = .ok (f, c, granted) ∧
        Fits d.list f.pkg (lineOf f.pkg f.version)
    · obtain ⟨f, c, granted, hvet, hfits⟩ := hwritten
      obtain ⟨-, t, hadm⟩ := vet_ok hvet
      rw [hadm.entries_install hvet hfits]
      simp only [Command.Breaks, hvet, Except.ok.injEq, Prod.mk.injEq, and_assoc,
        exists_and_left, exists_eq_left', hfits, true_and]
      cases hleaves : leaves d f a with
      | none =>
        rw [replaced, met_drop_iff hmet, ← not_iff_not, not_unneeded_iff]
        simp
      | some version =>
        rw [replaced, met_put_iff hmet]
        by_cases hnew : version = f.version
        · rw [hnew, hadm.suits_iff]
          simp
        by_cases hold : versionOf d.entries f.pkg = some version
        · have hsuits := suits_of_versionOf hmet hold
          simp [hnew, hsuits]
        · simp [hnew, hold]
    · have hsame : (install shelf d which grant a).1.entries = d.entries :=
        entries_install_of_refused
          fun f c granted hvet hfits => hwritten ⟨f, c, granted, hvet, hfits⟩
      rw [hsame]
      refine iff_of_true hmet ?_
      rintro ⟨f, c, granted, hvet, hfits, -⟩
      exact hwritten ⟨f, c, granted, hvet, hfits⟩

/-- **When a command leaves every requirement met.** -/
theorem met_run_iff [LinearOrder V] (shelf : Shelf V R) (d : Disk) (cmd : Command)
    (hmet : d.Met shelf) : (cmd.run shelf d).1.Met shelf ↔ ¬ cmd.Breaks shelf d :=
  met_iff_not_breaks cmd hmet

/-- With versions of 24 bytes at most on the list, what an install leaves besides
the new version is the one that was listed. -/
lemma versionOf_of_leaves {back : List Char}
    (hshort : ∀ e ∈ d.entries, size e.2 ≤ versionMax) (h : leaves d f a = some back)
    (hne : back ≠ f.version) : versionOf d.entries f.pkg = some back := by
  rw [leaves] at h
  split at h
  · exact absurd (some.inj h).symm hne
  split at h
  · cases h
  rename_i v hold
  simp only [within_of_size_le (hshort _ (mem_of_versionOf hold))] at h
  split at h
  · cases h
  split at h
  · exact absurd (some.inj h).symm hne
  split at h
  · cases h
  · exact hold.trans h

/-- With versions of 24 bytes at most on the list, an install that leaves its
package off the list failed to start it, and the package was not listed or was
listed at that version. -/
lemma of_leaves_none (hshort : ∀ e ∈ d.entries, size e.2 ≤ versionMax) (h : leaves d f a = none) :
    a.start = false ∧
      (versionOf d.entries f.pkg = none ∨ versionOf d.entries f.pkg = some f.version) := by
  rw [leaves] at h
  split at h
  · cases h
  rename_i hstart
  refine ⟨by simpa using hstart, ?_⟩
  split at h
  · exact .inl ‹_›
  rename_i v hold
  simp only [within_of_size_le (hshort _ (mem_of_versionOf hold))] at h
  split at h
  next hsame =>
    exact .inr (hsame ▸ hold)
  split at h
  · cases h
  split at h
  next hnil =>
    exact absurd hnil (isWord_of_mem_entries (mem_of_versionOf hold)).2.ne_nil
  · cases h

/-- With versions of 24 bytes at most on the list, the one command that breaks a
met list is an install of the version already listed, for a package that another
listed package requires, whose start fails. -/
lemma breaks_iff_of_short [LinearOrder V] (hmet : d.Met shelf)
    (hshort : ∀ e ∈ d.entries, size e.2 ≤ versionMax) :
    (Command.install which grant a).Breaks shelf d ↔ ∃ f c granted,
      vet shelf d.list which grant = .ok (f, c, granted) ∧
      Fits d.list f.pkg (lineOf f.pkg f.version) ∧ a.start = false ∧
      versionOf d.entries f.pkg = some f.version ∧
      ∃ e ∈ d.entries, e.1 ≠ f.pkg ∧ ∃ r ∈ shelf.wants e, r.name.text = f.pkg := by
  have hwhole : ∀ {pkg v : List Char}, versionOf d.entries pkg = some v →
      within versionMax v = some v := fun hv =>
    within_of_size_le (hshort _ (mem_of_versionOf hv))
  constructor
  · rintro ⟨f, c, granted, hvet, hfits, hbad⟩
    obtain ⟨-, t, hadm⟩ := vet_ok hvet
    refine ⟨f, c, granted, hvet, hfits, ?_⟩
    rcases hbad with ⟨-, r, hr, hnot⟩ | ⟨hnone, hdep⟩ | ⟨back, hback, hne, hother, -⟩
    · -- a requirement admitted by the first bytes is met by the whole version
      have hinst := hadm.installed r hr
      rw [installedAs, hadm.read, installedVersion, bind_some, ← hadm.entries_eq] at hinst
      rw [meets] at hnot
      cases hv : versionOf d.entries r.name.text with
      | none => simp [hv] at hinst
      | some v =>
        rw [hv, bind_some, hwhole hv] at hinst
        rw [hv, map_some, takesText] at hnot
        cases hparse : (parse R v : Option V) with
        | none => simp [hparse] at hinst
        | some x => simp_all
    · obtain ⟨hstart, hold | hold⟩ := of_leaves_none hshort hnone
      · exact absurd (unneeded_of_versionOf hmet hold) (not_unneeded_iff.mpr hdep)
      · exact ⟨hstart, hold, hdep⟩
    · exact absurd (versionOf_of_leaves hshort hback hne) hother
  · rintro ⟨f, c, granted, hvet, hfits, hstart, hold, hdep⟩
    refine ⟨f, c, granted, hvet, hfits, .inr (.inl ⟨?_, hdep⟩)⟩
    rw [leaves, if_neg (by simp [hstart]), hold]
    simp only [hwhole hold, getD_some, if_true]

end Commands

namespace Sample

lemma isPart_a : IsPart ['a'] := by decide

lemma isPart_b : IsPart ['b'] := by decide

lemma isPart_p : IsPart ['p'] := by decide

/-- A package name of one-letter parts. -/
def named (c : Char) (hc : IsPart [c]) : PackageName :=
  ⟨['p'], [c], isPart_p, hc⟩

/-- `p/a`, a service without requirements. -/
def alone (version : Version) : Manifest Version VersionReq where
  name := named 'a' isPart_a
  version := version
  kind := .service
  requires := []
  few := by decide
  once := by decide
  selfless := by simp

/-- `p/b 1.0.0`, a service that requires `p/a ^1.0.0`. -/
def needing : Manifest Version VersionReq where
  name := named 'b' isPart_b
  version := ⟨1, 0, 0⟩
  kind := .service
  requires := [⟨named 'a' isPart_a, .caret ⟨1, 0, 0⟩⟩]
  few := by decide
  once := by decide
  selfless := by decide

/-- Two releases of `p/a` and one of `p/b`. -/
def shelf : Shelf Version VersionReq :=
  .ofReleases [alone ⟨1, 0, 0⟩, alone ⟨1, 1, 0⟩, needing]

/-- `p/a` and `p/b` are installed. -/
def both : Disk where
  list := some "p/a 1.0.0\np/b 1.0.0\n".toList
  grant := fun _ => none

/-- Installing the newest `p/a`, whose start fails and is undone. -/
def upgrade : Command :=
  .install "p/a".toList "none".toList ⟨false, true⟩

/-- Installing the listed version of `p/a` again, whose start fails. -/
def again : Command :=
  .install "p/a@1.0.0".toList "none".toList ⟨false, false⟩

end Sample

open Sample

/-- A failed upgrade puts the version before back, and `p/b` keeps what it needs. -/
theorem met_run_iff_upgrade : both.Met shelf ∧
    (upgrade.run shelf both).1.Met shelf ∧
    ¬ upgrade.Breaks shelf both := by
  have hmet : both.Met shelf := by decide +kernel
  have hrun : (upgrade.run shelf both).1.Met shelf := by
    decide +kernel
  exact ⟨hmet, hrun, (met_run_iff shelf both upgrade hmet).mp hrun⟩

/-- A failed install of the version that is listed takes `p/a` off the list, and
`p/b`, which requires it, stays. -/
theorem again_breaks : both.Met shelf ∧
    both.entries = [("p/a".toList, "1.0.0".toList), ("p/b".toList, "1.0.0".toList)] ∧
    (again.run shelf both).1.entries = [("p/b".toList, "1.0.0".toList)] ∧
    ¬ (again.run shelf both).1.Met shelf := by
  decide +kernel

end Godspeed.Pm
