import Godspeed.Pm.Package

/-!
# The installed list

`/system/packages/installed` holds one package a line, `publisher/name version`.
It is read and written whole, through a buffer of 1 KiB; the version of a package
is handed on through 24 bytes.

* `entries_unlines`: writing a package's line leaves the other packages'
  entries as they are, in their order, and puts that package's entry last.
* `Met`: every requirement of every listed package is on the list at a version in
  the required range; `met_put_iff` and `met_drop_iff` say when the list that
  results from writing or removing one entry is met, given that the list was.
-/

namespace Godspeed.Pm

open Text List Option

/-- The largest list that is read or written. -/
def listMax : Nat := 1024

/-- The bytes of a version that are handed on. -/
def versionMax : Nat := 24

abbrev Entry : Type := List Char × List Char

/-- The entry of a line: its first two words. -/
def entryOf (l : List Char) : Option Entry :=
  match words l with
  | p :: v :: _ => some (p, v)
  | _ => none

def entries (t : List Char) : List Entry :=
  (lines t).filterMap entryOf

/-- The version under which a package is listed: that of its first entry. -/
def versionOf (es : List Entry) (pkg : List Char) : Option (List Char) :=
  (es.find? (·.1 = pkg)).map Prod.snd

/-- The list as it is read: nothing when there is no file, a refusal when it
does not fit the buffer. -/
def readList : Option (List Char) → Option (List Char)
  | none => some []
  | some t => if size t ≤ listMax then some t else none

/-- The lines that stay when the line of a package is replaced. -/
def keptLines (pkg t : List Char) : List (List Char) :=
  ((lines t).filter fun l => trim l ≠ [] ∧ (words l).head? ≠ some pkg).map trim

/-- The list with the line of `pkg` replaced by `line`, or removed when `line`
is empty; refused when it does not fit. -/
def writeList (file : Option (List Char)) (pkg line : List Char) : Option (List Char) :=
  (readList file).bind fun old =>
    let out := unlines (keptLines pkg old ++ if line = [] then [] else [line])
    if size out ≤ listMax then some out else none

/-- The text of an installed package's version, from the answer to reading the
list; a list that was not read has no package. -/
def installedVersion (list : Option (List Char)) (pkg : List Char) : Option (List Char) :=
  list.bind fun t => versionOf (entries t) pkg

def lineOf (pkg version : List Char) : List Char :=
  pkg ++ ' ' :: version

lemma entryOf_trim (l : List Char) : entryOf (trim l) = entryOf l := by
  rw [entryOf, entryOf, words_trim]

variable {pkg l t : List Char} {e : Entry} {version : List Char}

lemma entryOf_lineOf (hp : IsWord pkg) (hv : IsWord version) :
    entryOf (lineOf pkg version) = some (pkg, version) := by
  rw [entryOf, lineOf, words_pair hp hv]

lemma entryOf_lineOf_nil (hp : IsWord pkg) : entryOf (lineOf pkg []) = none := by
  have hwords : words (lineOf pkg []) = [pkg] := by
    have hspace : white ' ' := by decide
    rw [lineOf, words_append hp (by simp [hspace]), words, if_pos hspace, words]
  rw [entryOf, hwords]

lemma head_words_of_entryOf (h : entryOf l = some e) : (words l).head? = some e.1 := by
  rw [entryOf] at h
  split at h
  next p v ws hwords =>
    cases h
    rw [hwords]
    rfl
  · cases h

lemma isWord_of_mem_words {w : List Char} (hw : w ∈ words t) : IsWord w := by
  induction t generalizing w with
  | nil => simp [words] at hw
  | cons c t ih =>
    rw [words] at hw
    split at hw
    · exact ih hw
    rename_i hc
    have hc : white c = false := by simpa using hc
    have hone : IsWord [c] := ⟨by simp, by simpa using hc⟩
    split at hw
    · rcases mem_cons.mp hw with rfl | hw
      · exact hone
      · exact ih hw
    cases hrest : words t with
    | nil =>
      rw [hrest, push, mem_singleton] at hw
      exact hw ▸ hone
    | cons v vs =>
      rw [hrest] at hw
      rcases mem_cons.mp hw with rfl | hw
      · refine ⟨by simp, fun d hd => ?_⟩
        rcases mem_cons.mp hd with rfl | hd
        · exact hc
        · exact (ih (by simp [hrest])).solid d hd
      · exact ih (by simp [hrest, hw])

lemma isWord_of_mem_entries (he : e ∈ entries t) : IsWord e.1 ∧ IsWord e.2 := by
  obtain ⟨l, -, hl⟩ := mem_filterMap.mp he
  rw [entryOf] at hl
  split at hl
  next p v ws hwords =>
    cases hl
    exact ⟨isWord_of_mem_words (t := l) (by simp [hwords]),
      isWord_of_mem_words (t := l) (by simp [hwords])⟩
  · cases hl

lemma oneLine_of_mem_keptLines (hl : l ∈ keptLines pkg t) : OneLine l := by
  obtain ⟨m, hm, rfl⟩ := mem_map.mp hl
  exact oneLine_trim (newline_not_mem_of_mem_lines (mem_of_mem_filter hm))

lemma filterMap_keptLines (pkg t : List Char) :
    (keptLines pkg t).filterMap entryOf = (entries t).filter (·.1 ≠ pkg) := by
  rw [keptLines, entries, filterMap_map, filterMap_filter, filter_filterMap]
  refine filterMap_congr fun l _ => ?_
  rw [Function.comp_apply, entryOf_trim]
  cases he : entryOf l with
  | none => simp
  | some e =>
    have hhead := head_words_of_entryOf he
    -- a line with an entry has a word, so trimming leaves something
    have htrim : trim l ≠ [] := fun h => by
      rw [← words_trim, h] at hhead
      simp [words] at hhead
    by_cases hp : e.1 = pkg
    · simp [hhead, hp, Option.filter]
    · simp [hhead, htrim, Option.filter]

lemma keptLines_unlines {extra : List (List Char)}
    (hextra : ∀ l ∈ extra, OneLine l ∧ (words l).head? = some pkg) :
    keptLines pkg (unlines (keptLines pkg t ++ extra)) = keptLines pkg t := by
  have hlines : lines (unlines (keptLines pkg t ++ extra)) = keptLines pkg t ++ extra := by
    refine lines_unlines fun l hl => ?_
    rcases mem_append.mp hl with hl | hl
    · exact oneLine_of_mem_keptLines hl
    · exact (hextra l hl).1
  have hgone : extra.filter (fun l => trim l ≠ [] ∧ (words l).head? ≠ some pkg) = [] := by
    refine filter_eq_nil_iff.mpr fun l hl => ?_
    simp [(hextra l hl).2]
  have hstay : ∀ l ∈ keptLines pkg t, (trim l ≠ [] ∧ (words l).head? ≠ some pkg) ∧ trim l = l := by
    intro l hl
    obtain ⟨m, hm, rfl⟩ := mem_map.mp hl
    have hcond := (mem_filter.mp hm).2
    simpa using hcond
  rw [keptLines, hlines, filter_append, hgone, append_nil,
    filter_eq_self.mpr fun l hl => by simpa using (hstay l hl).1]
  exact (map_congr_left fun l hl => (hstay l hl).2).trans (map_id' _)

/-- A package's entry put last, in the place of those it had. -/
def put (es : List Entry) (pkg version : List Char) : List Entry :=
  es.filter (·.1 ≠ pkg) ++ [(pkg, version)]

def drop (es : List Entry) (pkg : List Char) : List Entry :=
  es.filter (·.1 ≠ pkg)

/-- **What a list written holds**: the entries that stay, and those of the lines
put behind them. -/
theorem entries_unlines (pkg t : List Char) {extra : List (List Char)}
    (hextra : ∀ l ∈ extra, OneLine l) :
    entries (unlines (keptLines pkg t ++ extra)) =
      drop (entries t) pkg ++ extra.filterMap entryOf := by
  have hlines : ∀ l ∈ keptLines pkg t ++ extra, OneLine l := by
    intro l hl
    rcases mem_append.mp hl with hl | hl
    · exact oneLine_of_mem_keptLines hl
    · exact hextra l hl
  rw [entries, lines_unlines hlines, filterMap_append, filterMap_keptLines, drop]

lemma entries_keptLines (pkg t : List Char) :
    entries (unlines (keptLines pkg t)) = drop (entries t) pkg := by
  have hnone : ∀ l ∈ ([] : List (List Char)), OneLine l := by simp
  simpa using entries_unlines pkg t hnone

lemma readList_of_writeList {file : Option (List Char)} {line out : List Char}
    (hout : writeList file pkg line = some out) : readList (some out) = some out := by
  rw [writeList, bind_eq_some_iff] at hout
  obtain ⟨old, -, hout⟩ := hout
  simp only [ite_none_right_eq_some] at hout
  obtain ⟨hsize, hout⟩ := hout
  cases hout
  exact if_pos hsize

lemma length_of_entryOf (h : entryOf l = some e) : e.1.length + e.2.length + 1 ≤ l.length := by
  rw [entryOf] at h
  split at h
  next p v ws hwords =>
    cases h
    have hsum := (sum_length_words l).1
    rw [hwords, map_cons, map_cons, sum_cons, sum_cons] at hsum
    show p.length + v.length + 1 ≤ l.length
    omega
  · cases h

/-- A list of the length that is read has no more entries than one boot starts,
if each has the length of a package name and a version. -/
lemma length_entries_le (hsize : size t ≤ listMax)
    (hlong : ∀ e ∈ entries t, 3 ≤ e.1.length ∧ 5 ≤ e.2.length) : (entries t).length ≤ 128 := by
  have hlines : ∀ ls : List (List Char),
      (∀ e ∈ ls.filterMap entryOf, 3 ≤ e.1.length ∧ 5 ≤ e.2.length) →
      10 * (ls.filterMap entryOf).length ≤ (ls.map (·.length + 1)).sum := by
    intro ls
    induction ls with
    | nil => simp
    | cons l ls ih =>
      intro hlong
      cases he : entryOf l with
      | none =>
        rw [filterMap_cons_none he] at hlong ⊢
        have := ih hlong
        simp only [map_cons, sum_cons]
        omega
      | some e =>
        rw [filterMap_cons_some he] at hlong ⊢
        have hrest := ih fun e' he' => hlong e' (mem_cons_of_mem _ he')
        have hown := hlong e mem_cons_self
        have hlen := length_of_entryOf he
        simp only [length_cons, map_cons, sum_cons]
        omega
  have hents := hlines (lines t) hlong
  have htext := sum_length_lines t
  have hchars := length_le_size t
  rw [listMax] at hsize
  rw [entries]
  omega

section Met

variable {V R : Type} [Format V R] {pkg : List Char} {es : List Entry} (shelf : Shelf V R)

/-- The requirements of a package at a version: those of its manifest. -/
def Shelf.wants (e : Entry) : List (Requirement R) :=
  ((shelf.manifest e.1 e.2).map Manifest.requires).getD []

/-- A range takes a version given by its text. -/
def takesText (V : Type) {R : Type} [Format V R] (range : R) (version : List Char) : Bool :=
  ((parse R version : Option V).map (takes range)).getD false

/-- A requirement is on the list at a version in its range. -/
def meets (V : Type) {R : Type} [Format V R] (es : List Entry) (r : Requirement R) : Bool :=
  ((versionOf es r.name.text).map (takesText V r.range)).getD false

/-- **No listed package is without a version it needs.** -/
def Met (es : List Entry) : Prop :=
  ∀ e ∈ es, ∀ r ∈ shelf.wants e, meets V es r = true

instance (shelf : Shelf V R) (es : List Entry) : Decidable (Met shelf es) :=
  inferInstanceAs (Decidable (∀ e ∈ es, ∀ r ∈ shelf.wants e, meets V es r = true))

lemma versionOf_put (es : List Entry) (pkg version q : List Char) :
    versionOf (put es pkg version) q = if q = pkg then some version else versionOf es q := by
  rw [versionOf, versionOf, put, find?_append]
  by_cases hq : q = pkg
  · subst hq
    have hnone : (es.filter (·.1 ≠ q)).find? (·.1 = q) = none := by
      refine find?_eq_none.mpr fun e he => ?_
      have := (mem_filter.mp he).2
      simpa using this
    rw [hnone]
    simp
  · have hsame : (es.filter (·.1 ≠ pkg)).find? (·.1 = q) = es.find? (·.1 = q) := by
      rw [find?_filter]
      congr 1
      funext e
      by_cases he : e.1 = q
      · simp [he, hq]
      · simp [he]
    rw [hsame]
    have hlast : ([(pkg, version)] : List Entry).find? (·.1 = q) = none := by
      simp [Ne.symm hq]
    rw [hlast, if_neg hq, or_none]

lemma versionOf_drop (es : List Entry) {q : List Char} (hq : q ≠ pkg) :
    versionOf (drop es pkg) q = versionOf es q := by
  rw [versionOf, drop, find?_filter]
  congr 2
  funext e
  by_cases he : e.1 = q
  · simp [he, hq]
  · simp [he]

lemma versionOf_drop_self (es : List Entry) (pkg : List Char) :
    versionOf (drop es pkg) pkg = none := by
  have hnone : (es.filter (·.1 ≠ pkg)).find? (·.1 = pkg) = none := by
    refine find?_eq_none.mpr fun e he => ?_
    have := (mem_filter.mp he).2
    simpa using this
  rw [versionOf, drop, hnone, map_none]

lemma mem_drop {e : Entry} : e ∈ drop es pkg ↔ e ∈ es ∧ e.1 ≠ pkg := by
  simp [drop]

lemma mem_put {e : Entry} : e ∈ put es pkg version ↔ (e ∈ es ∧ e.1 ≠ pkg) ∨ e = (pkg, version) := by
  simp [put]

lemma mem_of_versionOf (h : versionOf es pkg = some version) : (pkg, version) ∈ es := by
  obtain ⟨e, he, rfl⟩ := map_eq_some_iff.mp h
  have hkey := find?_some he
  rw [decide_eq_true_iff] at hkey
  rw [← hkey]
  exact mem_of_find?_eq_some he

lemma meets_put (es : List Entry) (pkg version : List Char) (r : Requirement R) :
    meets V (put es pkg version) r =
      if r.name.text = pkg then takesText V r.range version else meets V es r := by
  rw [meets, versionOf_put]
  split
  · rfl
  · rfl

/-- A package listed at a version: those that need it take the version, and what
it needs is listed with it. -/
def Suits (es : List Entry) (pkg version : List Char) : Prop :=
  (∀ e ∈ es, e.1 ≠ pkg → ∀ r ∈ shelf.wants e, r.name.text = pkg →
      takesText V r.range version = true) ∧
    ∀ r ∈ shelf.wants (pkg, version), meets V (put es pkg version) r = true

/-- No other listed package requires `pkg`. -/
def Unneeded (es : List Entry) (pkg : List Char) : Prop :=
  ∀ e ∈ es, e.1 ≠ pkg → ∀ r ∈ shelf.wants e, r.name.text ≠ pkg

variable {shelf : Shelf V R} {es : List Entry} {pkg version : List Char}

section

variable (hmet : Met shelf es)
include hmet

lemma met_put_iff : Met shelf (put es pkg version) ↔ Suits shelf es pkg version := by
  constructor
  · intro h
    refine ⟨fun e he hne r hr hname => ?_, fun r hr => h _ (mem_put.mpr (.inr rfl)) r hr⟩
    have hmeets := h e (mem_put.mpr (.inl ⟨he, hne⟩)) r hr
    rwa [meets_put, if_pos hname] at hmeets
  · rintro ⟨hothers, hown⟩ e he r hr
    rcases mem_put.mp he with ⟨he, hne⟩ | rfl
    · rw [meets_put]
      split
      · exact hothers e he hne r hr ‹_›
      · exact hmet e he r hr
    · exact hown r hr

lemma met_drop_iff : Met shelf (drop es pkg) ↔ Unneeded shelf es pkg := by
  constructor
  · intro h e he hne r hr hname
    have hmeets := h e (mem_drop.mpr ⟨he, hne⟩) r hr
    rw [meets, hname, versionOf_drop_self] at hmeets
    cases hmeets
  · intro h e he r hr
    obtain ⟨he, hne⟩ := mem_drop.mp he
    have hmeets := hmet e he r hr
    rw [meets, versionOf_drop es (h e he hne r hr)]
    exact hmeets

lemma suits_of_versionOf (h : versionOf es pkg = some version) : Suits shelf es pkg version := by
  have hmeets : ∀ r : Requirement R, meets V es r → meets V (put es pkg version) r := by
    intro r hr
    rw [meets_put]
    split
    next hname =>
      rw [meets, hname, h] at hr
      exact hr
    · exact hr
  refine ⟨fun e he _ r hr hname => ?_, fun r hr => hmeets r (hmet _ (mem_of_versionOf h) r hr)⟩
  have hr' := hmet e he r hr
  rw [meets, hname, h] at hr'
  exact hr'

lemma unneeded_of_versionOf (h : versionOf es pkg = none) : Unneeded shelf es pkg := by
  intro e he _ r hr hname
  have hmeets := hmet e he r hr
  rw [meets, hname, h] at hmeets
  cases hmeets

end

end Met

end Godspeed.Pm
