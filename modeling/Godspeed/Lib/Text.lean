import Mathlib

/-!
# Text files of lines of words

A text is a list of characters.  `lines`, `words` and `trim` cut it as
`str::lines`, `str::split_whitespace` and `str::trim` of the source language do,
`unlines` writes lines each with its newline, `natural` reads an unsigned number
of bounded size.

* `lines_unlines`: lines written by `unlines` are read back, if none holds a
  newline and none ends in a carriage return.
* `words_trim`: trimming a line leaves its words.
* `words_append`: a word before white space is the first word read.
* `natural_toDigits`: a number written in decimal is read back.
-/

namespace Text

open List

variable (c : Char) (t : List Char)

/-- The characters of Unicode's `White_Space`. -/
def white : Bool :=
  (9 ≤ c.toNat && c.toNat ≤ 13) || c = ' ' || c.toNat = 0x85 || c.toNat = 0xa0 ||
    c.toNat = 0x1680 || (0x2000 ≤ c.toNat && c.toNat ≤ 0x200a) || c.toNat = 0x2028 ||
    c.toNat = 0x2029 || c.toNat = 0x202f || c.toNat = 0x205f || c.toNat = 0x3000

/-- The number of bytes of a text in UTF-8. -/
def size : Nat :=
  (t.map Char.utf8Size).sum

@[simp]
lemma size_nil : size [] = 0 := rfl

@[simp]
lemma size_cons : size (c :: t) = c.utf8Size + size t := rfl

@[simp]
lemma size_append (s t : List Char) : size (s ++ t) = size s + size t := by
  simp [size]

lemma length_le_size : t.length ≤ size t := by
  induction t with
  | nil => simp
  | cons c t ih =>
    have hc : 0 < c.utf8Size := Char.utf8Size_pos c
    simp only [length_cons, size_cons]
    omega

/-- A character put before the first piece of a text that has been cut. -/
def push : List (List Char) → List (List Char)
  | [] => [[c]]
  | w :: ws => (c :: w) :: ws

/-- The lines of a text, without their newlines; `\r\n` ends a line as `\n`
does, and the text after the last newline is a line if there is any. -/
def lines : List Char → List (List Char)
  | [] => []
  | c :: t =>
    if c = '\n' then [] :: lines t
    else if c = '\r' ∧ t.head? = some '\n' then lines t
    else push c (lines t)

/-- Lines written one after the other, each with its newline. -/
def unlines (ls : List (List Char)) : List Char :=
  ls.flatMap (· ++ ['\n'])

@[simp]
lemma unlines_nil : unlines [] = [] := rfl

@[simp]
lemma unlines_cons (l : List Char) (ls : List (List Char)) :
    unlines (l :: ls) = l ++ '\n' :: unlines ls := by
  simp [unlines]

@[simp]
lemma unlines_append (ls ms : List (List Char)) : unlines (ls ++ ms) = unlines ls ++ unlines ms := by
  simp [unlines]

/-- A text that is one line: it holds no newline and does not end in a
carriage return. -/
structure OneLine (l : List Char) : Prop where
  newline : '\n' ∉ l
  ending : l.getLast? ≠ some '\r'

variable {c : Char} {l t w : List Char} {n : Nat}

lemma OneLine.tail (h : OneLine (c :: l)) : OneLine l where
  newline := fun hmem => h.newline (mem_cons_of_mem _ hmem)
  ending := fun hlast => by
    cases l with
    | nil => simp at hlast
    | cons d l => exact h.ending (by rw [getLast?_cons_cons]; exact hlast)

lemma lines_append (hl : OneLine l) (t : List Char) : lines (l ++ '\n' :: t) = l :: lines t := by
  induction l with
  | nil => simp [lines]
  | cons c l ih =>
    have hc : c ≠ '\n' := fun h => hl.newline (by simp [h])
    -- a carriage return here is not the end of the line
    have hret : ¬ (c = '\r' ∧ (l ++ '\n' :: t).head? = some '\n') := by
      rintro ⟨rfl, hhead⟩
      cases l with
      | nil => exact hl.ending rfl
      | cons d l =>
        have hd : d = '\n' := by simpa using hhead
        exact hl.newline (by simp [hd])
    rw [cons_append, lines, if_neg hc, if_neg hret, ih hl.tail]
    rfl

/-- **Lines written are the lines read.** -/
theorem lines_unlines {ls : List (List Char)} (h : ∀ l ∈ ls, OneLine l) :
    lines (unlines ls) = ls := by
  induction ls with
  | nil => rfl
  | cons l ls ih =>
    rw [unlines_cons, lines_append (h l (by simp)), ih fun m hm => h m (by simp [hm])]

lemma newline_not_mem_of_mem_lines (hl : l ∈ lines t) : '\n' ∉ l := by
  induction t generalizing l with
  | nil => simp [lines] at hl
  | cons c t ih =>
    rw [lines] at hl
    split at hl
    · rcases mem_cons.mp hl with rfl | hl
      · simp
      · exact ih hl
    rename_i hc
    split at hl
    · exact ih hl
    cases hrest : lines t with
    | nil =>
      rw [hrest, push, mem_singleton] at hl
      simpa [hl] using fun h => hc h.symm
    | cons m ms =>
      rw [hrest] at hl
      rcases mem_cons.mp hl with rfl | hl
      · have hm : '\n' ∉ m := ih (by simp [hrest])
        simpa [hm] using fun h => hc h.symm
      · exact ih (by simp [hrest, hl])

lemma sum_length_push_cons (c : Char) (w : List Char) (ws : List (List Char)) :
    ((push c (w :: ws)).map (·.length + 1)).sum = ((w :: ws).map (·.length + 1)).sum + 1 := by
  simp only [push, map_cons, length_cons, sum_cons]
  omega

/-- The lines of a text, with their newlines, are not longer than the text and
one newline. -/
lemma sum_length_lines (t : List Char) : ((lines t).map (·.length + 1)).sum ≤ t.length + 1 := by
  induction t with
  | nil => simp [lines]
  | cons c t ih =>
    rw [lines, length_cons]
    split
    · simp only [map_cons, length_nil, sum_cons]
      omega
    split
    · omega
    cases hrest : lines t with
    | nil => simp [push]
    | cons w ws =>
      rw [hrest] at ih
      rw [sum_length_push_cons]
      omega

/-- The words of a text: its maximal pieces without white space. -/
def words : List Char → List (List Char)
  | [] => []
  | c :: t =>
    if white c then words t
    else if t.head?.all white then [c] :: words t
    else push c (words t)

/-- A text that is one word. -/
structure IsWord (w : List Char) : Prop where
  ne_nil : w ≠ []
  solid : ∀ c ∈ w, white c = false

lemma isWord_of_all (hne : w ≠ []) (hall : w.all (!white ·)) : IsWord w :=
  ⟨hne, fun c hc => by simpa using all_eq_true.mp hall c hc⟩

lemma words_append (hw : IsWord w) (ht : t.head?.all white) : words (w ++ t) = w :: words t := by
  obtain ⟨hne, hsolid⟩ := hw
  induction w with
  | nil => exact absurd rfl hne
  | cons c w ih =>
    have hc : white c = false := hsolid c (by simp)
    rw [cons_append, words, hc, if_neg (by simp)]
    cases w with
    | nil => rw [nil_append, if_pos ht]
    | cons d w =>
      have hd : white d = false := hsolid d (by simp)
      rw [if_neg (by simp [hd]), ih (by simp) fun e he => hsolid e (by simp [he])]
      rfl

/-- The words of a text, each with one character behind it, are not longer than
the text and one character; a text that begins with white space has that one. -/
lemma sum_length_words (t : List Char) : ((words t).map (·.length + 1)).sum ≤ t.length + 1 ∧
      (t.head?.all white → ((words t).map (·.length + 1)).sum ≤ t.length) := by
  induction t with
  | nil => simp [words]
  | cons c t ih =>
    rw [words, length_cons]
    split
    · omega
    rename_i hc
    refine ⟨?_, fun hhead => absurd hhead hc⟩
    split
    next hhead =>
      have hrest := ih.2 hhead
      simp only [map_cons, length_singleton, sum_cons]
      omega
    · cases hrest : words t with
      | nil => simp [push]
      | cons w ws =>
        rw [hrest] at ih
        rw [sum_length_push_cons]
        omega

lemma words_word (hw : IsWord w) : words w = [w] := by
  simpa [words] using words_append hw (t := []) rfl

lemma words_pair {v : List Char} (hv : IsWord v) (hw : IsWord w) :
    words (v ++ ' ' :: w) = [v, w] := by
  have hspace : white ' ' := by decide
  rw [words_append hv (by simp [hspace]), words, if_pos hspace, words_word hw]

/-- Words written with a blank between them. -/
def unwords : List (List Char) → List Char
  | [] => []
  | [w] => w
  | w :: v :: ws => w ++ ' ' :: unwords (v :: ws)

/-- **Words written by `unwords` are read back.** -/
theorem words_unwords {ws : List (List Char)} (h : ∀ w ∈ ws, IsWord w) :
    words (unwords ws) = ws := by
  induction ws with
  | nil => rfl
  | cons w ws ih =>
    have hw : IsWord w := h w mem_cons_self
    have hspace : white ' ' := by decide
    cases ws with
    | nil => exact words_word hw
    | cons v ws =>
      rw [unwords, words_append hw (by simp [hspace]), words, if_pos hspace,
        ih fun u hu => h u (mem_cons_of_mem _ hu)]

lemma oneLine_unwords {ws : List (List Char)} (h : ∀ w ∈ ws, IsWord w) : OneLine (unwords ws) := by
  have hout {w : List Char} (hw : IsWord w) {c : Char} (hc : white c) : c ∉ w := fun hmem =>
    absurd (hw.solid c hmem) (by simp [hc])
  induction ws with
  | nil => exact ⟨by simp [unwords], by simp [unwords]⟩
  | cons w ws ih =>
    have hw : IsWord w := h w mem_cons_self
    cases ws with
    | nil => exact ⟨hout hw (by decide), fun hlast =>
      hout hw (by decide) (mem_of_getLast? hlast)⟩
    | cons v ws =>
      have hrest := ih fun u hu => h u (mem_cons_of_mem _ hu)
      refine ⟨?_, fun hlast => ?_⟩
      · rw [unwords, mem_append, mem_cons]
        rintro (hmem | hmem | hmem)
        · exact hout hw (by decide) hmem
        · exact absurd hmem (by decide)
        · exact hrest.newline hmem
      · rw [unwords, getLast?_append_cons] at hlast
        have hne : unwords (v :: ws) ≠ [] := by
          intro hnil
          have hwords := words_unwords fun u hu => h u (mem_cons_of_mem w hu)
          rw [hnil] at hwords
          cases hwords
        rw [getLast?_cons_of_ne_nil hne] at hlast
        exact hrest.ending hlast

lemma words_dropWhile (t : List Char) : words (t.dropWhile white) = words t := by
  induction t with
  | nil => rfl
  | cons c t ih =>
    rw [dropWhile_cons]
    split
    next hc =>
      rw [ih, words, if_pos hc]
    · rfl

lemma words_append_white {s : List Char} (hs : ∀ c ∈ s, white c) (t : List Char) :
    words (t ++ s) = words t := by
  induction t with
  | nil =>
    induction s with
    | nil => rfl
    | cons c s ih =>
      rw [nil_append] at ih ⊢
      have hskip : words (c :: s) = words s := by
        rw [words, if_pos (hs c (by simp))]
      rw [hskip]
      exact ih fun d hd => hs d (by simp [hd])
  | cons c t ih =>
    have hhead : (t ++ s).head?.all white = t.head?.all white := by
      cases t with
      | nil =>
        cases s with
        | nil => rfl
        | cons d s => simpa using hs d (by simp)
      | cons d t => rfl
    rw [cons_append, words, words, ih, hhead]

/-- A text without the white space at its two ends. -/
def trim (t : List Char) : List Char :=
  (t.dropWhile white).rdropWhile white

/-- **Trimming leaves the words.** -/
@[simp]
theorem words_trim (t : List Char) : words (trim t) = words t := by
  have hsplit : trim t ++ (t.dropWhile white).rtakeWhile white = t.dropWhile white :=
    rdropWhile_append_rtakeWhile
  have hrest := words_append_white (s := (t.dropWhile white).rtakeWhile white)
    (fun c hc => mem_rtakeWhile_imp hc) (trim t)
  rw [← hrest, hsplit, words_dropWhile]

lemma trim_subset (t : List Char) : trim t ⊆ t := fun _ hc =>
  (dropWhile_suffix white).subset (( rdropWhile_prefix _ _).subset hc)

lemma white_getLast_trim (hne : trim t ≠ []) : white ((trim t).getLast hne) = false := by
  have hlast : ¬ white ((trim t).getLast hne) := rdropWhile_last_not white (t.dropWhile white) hne
  simpa using hlast

lemma oneLine_trim (hl : '\n' ∉ l) : OneLine (trim l) where
  newline := fun h => hl (trim_subset l h)
  ending := fun hlast => by
    by_cases hne : trim l = []
    · simp [hne] at hlast
    have hw := white_getLast_trim hne
    rw [getLast?_eq_some_getLast hne, Option.some.injEq] at hlast
    rw [hlast] at hw
    exact absurd hw (by decide)

lemma trim_of_ends (hhead : t.head?.all (!white ·))
    (hlast : t.getLast?.all (!white ·)) : trim t = t := by
  have hdrop : t.dropWhile white = t := by
    cases t with
    | nil => rfl
    | cons c t =>
      have hc : white c = false := by simpa using hhead
      rw [dropWhile_cons, if_neg (by simp [hc])]
  rw [trim, hdrop, rdropWhile_eq_self_iff]
  intro hne
  rw [getLast?_eq_some_getLast hne] at hlast
  simpa using hlast

lemma head_trim (t : List Char) : (trim t).head?.all (!white ·) := by
  cases htrim : trim t with
  | nil => rfl
  | cons c s =>
    have hpre : c :: s <+: t.dropWhile white := htrim ▸ rdropWhile_prefix white _
    have hhead : (t.dropWhile white).head? = some c := by
      obtain ⟨r, hr⟩ := hpre
      rw [← hr]
      rfl
    have hc := head?_dropWhile_not white t
    rw [hhead] at hc
    simpa using hc

@[simp]
lemma trim_trim (t : List Char) : trim (trim t) = trim t := by
  refine trim_of_ends (head_trim t) ?_
  by_cases hne : trim t = []
  · rw [hne]
    rfl
  · rw [getLast?_eq_some_getLast hne]
    simp [white_getLast_trim hne]

/-- The longest beginning of a text with `n` bytes at most, if it has no
character that begins before its end and ends behind it. -/
def within : Nat → List Char → Option (List Char)
  | _, [] => some []
  | n, c :: t =>
    if c.utf8Size ≤ n then (within (n - c.utf8Size) t).map (c :: ·)
    else if n = 0 then some [] else none

lemma within_of_size_le (h : size t ≤ n) : within n t = some t := by
  induction t generalizing n with
  | nil => rfl
  | cons c t ih =>
    rw [size_cons] at h
    rw [within, if_pos (by omega), ih (by omega), Option.map_some]

lemma prefix_of_within {s : List Char} (h : within n t = some s) : s <+: t := by
  induction t generalizing n s with
  | nil =>
    rw [within, Option.some.injEq] at h
    exact h ▸ prefix_rfl
  | cons c t ih =>
    rw [within] at h
    split at h
    · obtain ⟨r, hr, rfl⟩ := Option.map_eq_some_iff.mp h
      exact prefix_cons_inj c |>.mpr (ih hr)
    split at h
    · cases h
      exact nil_prefix
    · cases h

/-- `str::parse` of an unsigned number below `bound`: a `+` may come first. -/
def natural (bound : Nat) (t : List Char) : Option Nat :=
  let digits := if t.head? = some '+' then t.tail else t
  if digits ≠ [] ∧ digits.all Char.isDigit ∧ Nat.ofDigitChars 10 digits 0 < bound then
    some (Nat.ofDigitChars 10 digits 0)
  else none

lemma isDigit_of_mem_toDigits (hc : c ∈ Nat.toDigits 10 n) : c.isDigit :=
  Nat.isDigit_of_mem_toDigits (by decide) (by decide) hc

/-- **A number written in decimal is read back.** -/
theorem natural_toDigits {bound : Nat} (hn : n < bound) :
    natural bound (Nat.toDigits 10 n) = some n := by
  have hval : Nat.ofDigitChars 10 (Nat.toDigits 10 n) 0 = n :=
    Nat.ofDigitChars_toDigits (by decide) (by decide)
  have hplus : (Nat.toDigits 10 n).head? ≠ some '+' := fun hhead => by
    have hdigit := isDigit_of_mem_toDigits (mem_of_head? hhead)
    simp [Char.isDigit] at hdigit
  have hall : (Nat.toDigits 10 n).all Char.isDigit :=
    all_eq_true.mpr fun c hc => isDigit_of_mem_toDigits hc
  simp only [natural, if_neg hplus, hval]
  rw [if_pos ⟨Nat.toDigits_ne_nil, hall, hn⟩]

lemma white_of_range {a b : Char} (ha : a ≤ c) (hb : c ≤ b) (hlow : 32 < a.toNat)
    (hhigh : b.toNat < 133) : white c = false := by
  have hrange : 32 < c.toNat ∧ c.toNat < 133 :=
    ⟨hlow.trans_le (UInt32.le_iff_toNat_le.mp ha), (UInt32.le_iff_toNat_le.mp hb).trans_lt hhigh⟩
  have hspace : c ≠ ' ' := by
    rintro rfl
    exact absurd hrange.1 (by decide)
  simp only [white, Bool.or_eq_false_iff, Bool.and_eq_false_iff, decide_eq_false_iff_not]
  refine ⟨⟨⟨⟨⟨⟨⟨⟨⟨⟨?_, hspace⟩, ?_⟩, ?_⟩, ?_⟩, ?_⟩, ?_⟩, ?_⟩, ?_⟩, ?_⟩, ?_⟩ <;> omega

lemma white_of_isDigit (hc : c.isDigit) : white c = false := by
  rw [Char.isDigit, Bool.and_eq_true, decide_eq_true_iff, decide_eq_true_iff] at hc
  exact white_of_range hc.1 hc.2 (by decide) (by decide)

lemma isWord_toDigits (n : Nat) : IsWord (Nat.toDigits 10 n) where
  ne_nil := Nat.toDigits_ne_nil
  solid := fun _ hc => white_of_isDigit (isDigit_of_mem_toDigits hc)

end Text
