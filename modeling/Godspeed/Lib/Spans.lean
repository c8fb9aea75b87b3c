import Godspeed.Lib.Serial
import Mathlib.Data.List.Perm.Basic

/-!
# Tables of spans of serial numbers

A receiver that takes pieces of a numbered sequence out of order remembers which places it
holds as a short table of half-open spans.  Two operations work on such a table:

* `absorb` walks over the table once and takes out every span that touches a new one,
  widening the new one by it;
* `drain` takes out the spans that a moving front has reached, and moves the front to the
  end of each.

Both take an entry out by moving the last entry into its place (`swapRemove`).  The
specifications are in terms of the places that the numbers stand for: as long as these lie
in a stretch shorter than half of the number space, `absorb` and `drain` lose no place and
invent none (`absorb_spec`, `drain_spec`).
-/

namespace Spans

open Serial List

variable {α β : Type*} {w : ℕ} {l : List α} {k : ℕ} {a : α} {held : List (ℕ × ℕ)} (s : BitVec w)
  (fuel : ℕ)

/-! ## Removal by swapping -/

/-- Take out entry `k` by moving the last entry into its place. -/
def swapRemove (l : List α) (k : ℕ) : List α :=
  match l.getLast? with
  | none => l
  | some last => (l.set k last).dropLast

lemma swapRemove_map (f : α → β) (l : List α) (k : ℕ) :
    swapRemove (l.map f) k = (swapRemove l k).map f := by
  unfold swapRemove
  rw [getLast?_map]
  cases l.getLast? with
  | none => rfl
  | some last => simp [map_dropLast]

lemma cons_swapRemove_perm (hk : l[k]? = some a) : (a :: swapRemove l k).Perm l := by
  obtain ⟨hlt, rfl⟩ := List.getElem?_eq_some_iff.mp hk
  induction l using reverseRecOn with
  | nil => simp at hlt
  | append_singleton init last _ =>
    simp only [swapRemove, getLast?_append, getLast?_singleton, Option.some_or]
    rcases lt_or_ge k init.length with hin | hout
    · rw [set_append_left _ _ hin, dropLast_concat, getElem_append_left hin]
      have hset := set_perm_cons_eraseIdx hin last
      have hback := getElem_cons_eraseIdx_perm hin
      have hswap : (init[k] :: init.set k last).Perm (last :: init[k] :: init.eraseIdx k) :=
        (hset.cons _).trans (.swap _ _ _)
      exact hswap.trans ((hback.cons _).trans (perm_append_singleton _ _).symm)
    · have heq : k = init.length := by simp at hlt; omega
      subst heq
      rw [set_append_right _ _ le_rfl]
      simpa using (perm_append_singleton last init).symm

lemma length_swapRemove (hk : l[k]? = some a) : (swapRemove l k).length + 1 = l.length := by
  exact (cons_swapRemove_perm hk).length_eq

lemma mem_of_mem_swapRemove {x : α} (hk : l[k]? = some a) (hx : x ∈ swapRemove l k) : x ∈ l :=
  (cons_swapRemove_perm hk).subset (mem_cons_of_mem _ hx)

/-! ## The operations -/

/-- The entry touches `[start, stop)`: their union has no gap. -/
def meets (start stop : BitVec w) (r : BitVec w × BitVec w) : Bool :=
  notAfter r.1 stop && notAfter start r.2

/-- Walk over the table from entry `k` on and take out every span that touches
`[start, stop)`, widening it; the flag says whether there was one. -/
def absorb : ℕ → ℕ → BitVec w → BitVec w → Bool → List (BitVec w × BitVec w) →
    BitVec w × BitVec w × Bool × List (BitVec w × BitVec w)
  | 0, _, start, stop, merged, table => (start, stop, merged, table)
  | fuel + 1, k, start, stop, merged, table =>
    match table[k]? with
    | none => (start, stop, merged, table)
    | some (a, b) =>
      if meets start stop (a, b) then
        absorb fuel k (if before a start then a else start) (if after b stop then b else stop)
          true (swapRemove table k)
      else
        absorb fuel (k + 1) start stop merged table

/-- Take out the first span that the front has reached, move the front to its end if that
is further, count the places gained, and start over. -/
def drain : ℕ → BitVec w → ℕ → List (BitVec w × BitVec w) →
    BitVec w × ℕ × List (BitVec w × BitVec w)
  | 0, front, count, table => (front, count, table)
  | fuel + 1, front, count, table =>
    match table.findIdx? fun r => notAfter r.1 front with
    | none => (front, count, table)
    | some k =>
      match table[k]? with
      | none => (front, count, table)
      | some (_, b) =>
        if after b front then
          drain fuel b (count + (b - front).toNat) (swapRemove table k)
        else
          drain fuel front count (swapRemove table k)

/-! ## The places that a table stands for -/

/-- The table of the numbers of a table of places. -/
def number (held : List (ℕ × ℕ)) : List (BitVec w × BitVec w) :=
  held.map fun r => (num s r.1, num s r.2)

/-- Place `q` lies in one of the spans. -/
def Covers (held : List (ℕ × ℕ)) (q : ℕ) : Prop := ∃ r ∈ held, r.1 ≤ q ∧ q < r.2

/-- All spans lie in the stretch from `lo` to `hi`. -/
def Inside (lo hi : ℕ) (held : List (ℕ × ℕ)) : Prop := ∀ r ∈ held, lo ≤ r.1 ∧ r.1 < r.2 ∧ r.2 ≤ hi

lemma covers_perm {held' : List (ℕ × ℕ)} (h : held.Perm held') (q : ℕ) :
    Covers held q ↔ Covers held' q := by
  simp only [Covers, h.mem_iff]

lemma covers_cons (r : ℕ × ℕ) (held : List (ℕ × ℕ)) (q : ℕ) :
    Covers (r :: held) q ↔ (r.1 ≤ q ∧ q < r.2) ∨ Covers held q := by
  simp [Covers]

lemma covers_append (held held' : List (ℕ × ℕ)) (q : ℕ) :
    Covers (held ++ held') q ↔ Covers held q ∨ Covers held' q := by
  simp only [Covers, mem_append, or_and_right, exists_or]

lemma covers_swapRemove {r : ℕ × ℕ} (hk : held[k]? = some r) (q : ℕ) :
    Covers held q ↔ (r.1 ≤ q ∧ q < r.2) ∨ Covers (swapRemove held k) q := by
  rw [← covers_perm (cons_swapRemove_perm hk), covers_cons]

lemma Inside.swapRemove {lo hi : ℕ} {r : ℕ × ℕ} (h : Inside lo hi held) (hk : held[k]? = some r) :
    Inside lo hi (swapRemove held k) :=
  fun _ hx => h _ (mem_of_mem_swapRemove hk hx)

lemma number_swapRemove (held : List (ℕ × ℕ)) (k : ℕ) :
    swapRemove (number s held) k = number s (swapRemove held k) :=
  swapRemove_map _ held k

lemma number_getElem? (held : List (ℕ × ℕ)) (k : ℕ) :
    (number s held)[k]? = held[k]?.map fun r => (num s r.1, num s r.2) := by
  simp [number]

/-! ## Absorbing -/

/-- What absorbing the stretch from `x` to `y` into a table comes to: the stretch has grown
to that from `x'` to `y'`, and the spans left are `held'`. -/
structure Absorbed (hi x y : ℕ) (held : List (ℕ × ℕ)) (x' y' : ℕ) (held' : List (ℕ × ℕ)) :
    Prop where
  start : x' = x ∨ ∃ r ∈ held, x' = r.1
  wide : x' ≤ x ∧ y ≤ y' ∧ y' ≤ hi
  left : ∀ r ∈ held', r ∈ held
  length : held'.length ≤ held.length
  covers : ∀ q, (x' ≤ q ∧ q < y') ∨ Covers held' q ↔ (x ≤ q ∧ q < y) ∨ Covers held q

section

variable {lo hi : ℕ} (hspan : 2 * hi < 2 * lo + 2 ^ w)
include hspan

/-- **Absorbing loses no place and invents none.** -/
theorem absorb_spec (s : BitVec w) (fuel : ℕ) : ∀ (k x y : ℕ) (merged : Bool)
    (held : List (ℕ × ℕ)), Inside lo hi held → lo ≤ x → x ≤ y → y ≤ hi →
    ∃ x' y' merged' held', absorb fuel k (num s x) (num s y) merged (number s held) =
      (num s x', num s y', merged', number s held') ∧ Absorbed hi x y held x' y' held' := by
  induction fuel with
  | zero =>
    intro k x y merged held _ _ _ hy
    exact ⟨x, y, merged, held, rfl, .inl rfl, ⟨le_rfl, le_rfl, hy⟩, fun _ h => h, le_rfl,
      fun _ => .rfl⟩
  | succ fuel ih =>
    intro k x y merged held hheld hlo hxy hy
    rw [absorb, number_getElem?]
    rcases Option.eq_none_or_eq_some held[k]? with hk | ⟨⟨a, b⟩, hk⟩
    · rw [hk]
      exact ⟨x, y, merged, held, rfl, .inl rfl, ⟨le_rfl, le_rfl, hy⟩, fun _ h => h, le_rfl,
        fun _ => .rfl⟩
    obtain ⟨ha, hab, hb⟩ := hheld _ (mem_of_getElem? hk)
    have hay := notAfter_num_iff s (p := a) (q := y) (by omega) (by omega)
    have hxb := notAfter_num_iff s (p := x) (q := b) (by omega) (by omega)
    have hax := before_num_iff s (p := a) (q := x) (by omega) (by omega)
    have hby := after_num_iff s (p := b) (q := y) (by omega) (by omega)
    simp only [hk, Option.map_some, meets, Bool.and_eq_true, hay, hxb, hax, hby]
    by_cases htouch : a ≤ y ∧ x ≤ b
    · -- the entry is taken out and the stretch grows to the union of the two
      have hstart : (if a < x then num s a else num s x) = num s (min a x) := by
        split
        · rw [min_eq_left (by omega)]
        · rw [min_eq_right (by omega)]
      have hstop : (if y < b then num s b else num s y) = num s (max b y) := by
        split
        · rw [max_eq_left (by omega)]
        · rw [max_eq_right (by omega)]
      rw [if_pos htouch, hstart, hstop, number_swapRemove]
      obtain ⟨x', y', merged', held', heq, hab'⟩ := ih k (min a x) (max b y) true
        (swapRemove held k) (hheld.swapRemove hk) (by omega) (by omega) (by omega)
      have hlen := length_swapRemove hk
      refine ⟨x', y', merged', held', heq, ?_, ?_, ?_, ?_, fun q => ?_⟩
      · rcases hab'.start with h | ⟨r, hr, h⟩
        · rcases le_total a x with hle | hle
          · exact .inr ⟨(a, b), mem_of_getElem? hk, by rw [h, min_eq_left hle]⟩
          · exact .inl (by rw [h, min_eq_right hle])
        · exact .inr ⟨r, mem_of_mem_swapRemove hk hr, h⟩
      · have hwide := hab'.wide
        omega
      · exact fun r hr => mem_of_mem_swapRemove hk (hab'.left r hr)
      · have hshort := hab'.length
        omega
      · rw [hab'.covers q, covers_swapRemove hk q, ← or_assoc]
        refine or_congr_left ?_
        omega
    · rw [if_neg htouch]
      exact ih (k + 1) x y merged held hheld hlo hxy hy

/-! ## Draining -/

/-- **Draining loses no place and invents none**: the front moves over the spans it
reaches, the count grows by as much, and with enough fuel no span is left that the front
has reached. -/
theorem drain_spec (s : BitVec w) (fuel : ℕ) : ∀ (p count : ℕ) (held : List (ℕ × ℕ)),
    Inside lo hi held → lo ≤ p → p ≤ hi → ∃ p' held', drain fuel (num s p) count (number s held) =
        (num s p', count + (p' - p), number s held') ∧
      p ≤ p' ∧ p' ≤ hi ∧ (∀ r ∈ held', r ∈ held) ∧
      (∀ q, q < p' ∨ Covers held' q ↔ q < p ∨ Covers held q) ∧
      (held.length ≤ fuel → ∀ r ∈ held', p' < r.1) := by
  induction fuel with
  | zero =>
    intro p count held _ _ hp
    refine ⟨p, held, by simp [drain], le_rfl, hp, fun _ h => h, fun _ => .rfl, ?_⟩
    intro hlen r hr
    rw [eq_nil_of_length_eq_zero (Nat.le_zero.mp hlen)] at hr
    exact absurd hr not_mem_nil
  | succ fuel ih =>
    intro p count held hheld hlo hp
    have hready : ∀ r ∈ held, (notAfter (num s r.1) (num s p) ↔ r.1 ≤ p) := by
      intro r hr
      have := hheld r hr
      exact notAfter_num_iff s (by omega) (by omega)
    rw [drain, show (number s held).findIdx? (fun r => notAfter r.1 (num s p)) =
        held.findIdx? (fun r => notAfter (num s r.1) (num s p)) from findIdx?_map]
    rcases Option.eq_none_or_eq_some
      (held.findIdx? fun r => notAfter (num s r.1) (num s p)) with hidx | ⟨k, hidx⟩
    · rw [hidx]
      refine ⟨p, held, by simp, le_rfl, hp, fun _ h => h, fun _ => .rfl, fun _ r hr => ?_⟩
      have hnot := findIdx?_eq_none_iff.mp hidx r hr
      by_contra hle
      rw [(hready r hr).mpr (by omega)] at hnot
      exact absurd hnot (by decide)
    obtain ⟨hlt, hreached, -⟩ := findIdx?_eq_some_iff_getElem.mp hidx
    obtain ⟨⟨a, b⟩, hk⟩ : ∃ r, held[k]? = some r := ⟨held[k], getElem?_eq_getElem hlt⟩
    have hmem := mem_of_getElem? hk
    obtain ⟨ha, hab, hb⟩ := hheld _ hmem
    have hap : a ≤ p := by
      rw [getElem?_eq_getElem hlt, Option.some_inj] at hk
      rw [hk] at hreached
      exact (hready _ hmem).mp hreached
    have hlen := length_swapRemove hk
    have hfar := after_num_iff s (p := b) (q := p) (by omega) (by omega)
    simp only [hidx, number_getElem?, hk, Option.map_some, hfar, number_swapRemove]
    by_cases hbp : p < b
    · -- the front moves to the end of the span it has reached
      rw [if_pos hbp, toNat_num_sub_num s (by omega) (by omega)]
      obtain ⟨p', held', heq, hge, hle, hleft, hcov, hdone⟩ :=
        ih b (count + (b - p)) (swapRemove held k) (hheld.swapRemove hk) (by omega) hb
      refine ⟨p', held', ?_, by omega, hle,
        fun r hr => mem_of_mem_swapRemove hk (hleft r hr), fun q => ?_,
        fun hfuel => hdone (by omega)⟩
      · rw [heq, show count + (b - p) + (p' - b) = count + (p' - p) by omega]
      rw [hcov q, covers_swapRemove hk q, ← or_assoc]
      refine or_congr_left ?_
      omega
    · rw [if_neg hbp]
      obtain ⟨p', held', heq, hge, hle, hleft, hcov, hdone⟩ :=
        ih p count (swapRemove held k) (hheld.swapRemove hk) hlo hp
      refine ⟨p', held', heq, hge, hle, fun r hr => mem_of_mem_swapRemove hk (hleft r hr),
        fun q => ?_, fun hfuel => hdone (by omega)⟩
      rw [hcov q, covers_swapRemove hk q, ← or_assoc]
      refine or_congr_left ?_
      omega

end

lemma absorb_merged_of_true : ∀ (k : ℕ) (start stop : BitVec w)
    (table : List (BitVec w × BitVec w)), (absorb fuel k start stop true table).2.2.1 := by
  induction fuel with
  | zero => exact fun _ _ _ _ => rfl
  | succ fuel ih =>
    intro k start stop table
    rw [absorb]
    split
    · rfl
    · split
      · exact ih ..
      · exact ih ..

/-- A stretch that meets no entry is left alone, and so is the table. -/
lemma absorb_of_apart : ∀ (k : ℕ) (start stop : BitVec w)
    (table : List (BitVec w × BitVec w)), (∀ r ∈ table, meets start stop r = false) →
    absorb fuel k start stop false table = (start, stop, false, table) := by
  induction fuel with
  | zero => exact fun _ _ _ _ _ => rfl
  | succ fuel ih =>
    intro k start stop table hapart
    rw [absorb]
    split
    · rfl
    next a b hk =>
      rw [if_neg (by simp [hapart _ (mem_of_getElem? hk)])]
      exact ih (k + 1) start stop table hapart

/-- **When a stretch is merged**: as soon as it meets one entry of the table. -/
theorem absorb_merged_of_meets : ∀ (k : ℕ) (start stop : BitVec w)
    (table : List (BitVec w × BitVec w)), table.length ≤ k + fuel →
    (∃ r ∈ table.drop k, meets start stop r) →
    (absorb fuel k start stop false table).2.2.1 := by
  induction fuel with
  | zero =>
    rintro k start stop table hlen ⟨r, hr, -⟩
    rw [drop_eq_nil_of_le (by omega)] at hr
    exact absurd hr not_mem_nil
  | succ fuel ih =>
    rintro k start stop table hlen ⟨r, hr, hmeet⟩
    rw [absorb]
    split
    next hk =>
      rw [drop_eq_nil_of_le (getElem?_eq_none_iff.mp hk)] at hr
      exact absurd hr not_mem_nil
    rename_i a b hk
    split
    · exact absorb_merged_of_true ..
    rename_i hnot
    obtain ⟨hlt, heq⟩ := List.getElem?_eq_some_iff.mp hk
    rw [drop_eq_getElem_cons hlt, heq, mem_cons] at hr
    rcases hr with rfl | hr
    · exact absurd hmeet hnot
    · exact ih (k + 1) start stop table (by omega) ⟨r, hr, hmeet⟩

end Spans
