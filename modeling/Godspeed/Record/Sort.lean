import Mathlib.Data.List.Basic
import Mathlib.Order.Compare

/-!
# Sorting a record table

A `Table` keeps its string cells in one arena.  `sort` hands the rows to the library's
`sort_unstable_by`, which promises an order only for a comparison that is one.  A string that
is no piece of the arena makes the comparison panic.
-/

namespace Godspeed.Record

/-- `Value`: a cell.  A string is a piece of the table's arena. -/
inductive Value
  | str (off len : UInt32)
  | int (n : Nat)
  | signed (i : Int)
  | empty
deriving DecidableEq

/-- The part of `Table` that a sort reads: column names, the rows in use and the arena. -/
structure Table where
  cols : List (List UInt8)
  rows : List (List Value)
  arena : List UInt8

namespace Value

/-- The number in a cell. -/
def num : Value → Option Int
  | int n => some n
  | signed i => some i
  | _ => none

/-- The bytes `arena[off..off + len]`, whose end is a `u32`; `none` is the panic of the slice. -/
def piece (arena : List UInt8) (off len : UInt32) : Option (List UInt8) :=
  if off ≤ off + len ∧ (off + len).toNat ≤ arena.length then
    some ((arena.take (off + len).toNat).drop off.toNat)
  else none

/-- The bytes of a string cell. -/
def text (arena : List UInt8) : Value → Option (List UInt8)
  | str off len => piece arena off len
  | _ => none

/-- `val_str`; `none` is a panic. -/
def valStr (arena : List UInt8) : Value → Option (List UInt8)
  | str off len => piece arena off len
  | _ => some []

/-- `cmp_values`; `none` is a panic. -/
def cmpValues (arena : List UInt8) (a b : Value) : Option Ordering :=
  match a.num, b.num with
  | some x, some y => some (compare x y)
  | _, _ => do
    let x ← a.valStr arena
    let y ← b.valStr arena
    return compare x y

end Value

section Order

variable {α : Type} {cmp : α → α → Option Ordering} {xs : List α}

/-- The comparison gives an answer, and does not put `a` after `b`. -/
def NotAfter (cmp : α → α → Option Ordering) (a b : α) : Prop := (cmp a b).any (·.isLE)

/-- The comparison is a total order on the items of a list. -/
structure OrdersOn (cmp : α → α → Option Ordering) (xs : List α) : Prop where
  swap : ∀ a ∈ xs, ∀ b ∈ xs, cmp a b = (cmp b a).map .swap
  trans : ∀ a ∈ xs, ∀ b ∈ xs, ∀ c ∈ xs, NotAfter cmp a b → NotAfter cmp b c → NotAfter cmp a c

/-- The comparison answers for any two items of a list. -/
def Answers (cmp : α → α → Option Ordering) (xs : List α) : Prop :=
  xs.Pairwise fun a b => (cmp a b).isSome

/-- What `sort_unstable_by` may do; `none` is a panic. -/
inductive SortsUnstable (cmp : α → α → Option Ordering) (xs : List α) : Option (List α) → Prop
  | sorted (ys : List α) (hperm : ys.Perm xs) (hsorted : ys.Pairwise (NotAfter cmp)) :
      SortsUnstable cmp xs (some ys)
  | scrambled (ys : List α) (hperm : ys.Perm xs) (hanswers : Answers cmp xs)
      (hcmp : ¬ OrdersOn cmp xs) : SortsUnstable cmp xs (some ys)
  | panicked (hcmp : ¬ (Answers cmp xs ∧ OrdersOn cmp xs)) : SortsUnstable cmp xs none

/-- An ordering, turned round for a descending sort. -/
def turned (reverse : Bool) (o : Ordering) : Ordering :=
  if reverse then o.swap else o

lemma OrdersOn.turned (h : OrdersOn cmp xs) (reverse : Bool) :
    OrdersOn (fun a b => (cmp a b).map (turned reverse)) xs := by
  cases reverse with
  | false =>
    have hsame : (fun a b => (cmp a b).map (Record.turned false)) = cmp := by
      funext a b
      exact Option.map_id'
    rwa [hsame]
  | true =>
    have hle : ∀ a ∈ xs, ∀ b ∈ xs,
        NotAfter (fun a b => (cmp a b).map .swap) a b ↔ NotAfter cmp b a := by
      intro a ha b hb
      simp only [NotAfter]
      rw [h.swap b hb a ha]
    refine ⟨fun a ha b hb => congrArg _ (h.swap a ha b hb), fun a ha b hb c hc hab hbc => ?_⟩
    exact (hle a ha c hc).mpr
      (h.trans c hc b hb a ha ((hle b hb c hc).mp hbc) ((hle a ha b hb).mp hab))

end Order

/-- The cell of a row. -/
def cell (row : List Value) (ci : Nat) : Value :=
  row.getD ci .empty

namespace Table

/-- `col_index`. -/
def colIndex (t : Table) (name : List UInt8) : Option Nat :=
  t.cols.findIdx? (· == name)

/-- The comparison `sort` hands over. -/
def rowCmp (t : Table) (ci : Nat) (reverse : Bool) (a b : List Value) : Option Ordering :=
  ((cell a ci).cmpValues t.arena (cell b ci)).map (turned reverse)

/-- `sort`, with every outcome the library's sort may have. -/
def Sorts (t : Table) (col : List UInt8) (reverse : Bool) (out : Option (Table × Bool)) : Prop :=
  match t.colIndex col with
  | none => out = some (t, false)
  | some ci => ∃ rows, SortsUnstable (t.rowCmp ci reverse) t.rows rows ∧
      out = rows.map fun rows => ({ t with rows := rows }, true)

/-- No cell without text and number stands beside two different numbers. -/
def Unmixed (t : Table) (ci : Nat) : Prop :=
  ∀ a ∈ t.rows, ∀ b ∈ t.rows, ∀ c ∈ t.rows, (cell b ci).num = none →
    (cell b ci).valStr t.arena = some [] → (cell a ci).num ≠ none → (cell c ci).num ≠ none →
    (cell a ci).num = (cell c ci).num

/-- Where there is something to compare, the strings of the column are pieces of the arena. -/
def Within (t : Table) (ci : Nat) : Prop :=
  2 ≤ t.rows.length → ∀ a ∈ t.rows, ((cell a ci).valStr t.arena).isSome

/-- Row `a` may stand before row `b`: numbers are in order, and so are strings. -/
def InOrder (t : Table) (ci : Nat) (reverse : Bool) (a b : List Value) : Prop :=
  (∀ x ∈ (cell a ci).num, ∀ y ∈ (cell b ci).num, (turned reverse (compare x y)).isLE) ∧
  ∀ x ∈ (cell a ci).text t.arena, ∀ y ∈ (cell b ci).text t.arena,
    (turned reverse (compare x y)).isLE

/-- What a sort should give: the same rows in order, or the table as it was if it has no such
column. -/
def Sorted (t : Table) (col : List UInt8) (reverse : Bool) (out : Option (Table × Bool)) : Prop :=
  match t.colIndex col with
  | none => out = some (t, false)
  | some ci => ∃ rows, out = some ({ t with rows := rows }, true) ∧ rows.Perm t.rows ∧
      rows.Pairwise (t.InOrder ci reverse)

end Table

namespace Value

variable {arena : List UInt8} {a b c : Value}

lemma valStr_of_num {x : Int} (h : a.num = some x) : a.valStr arena = some [] := by
  cases a with
  | int | signed => rfl
  | str | empty => cases h

lemma text_spec {s : List UInt8} (h : a.text arena = some s) :
    a.num = none ∧ a.valStr arena = some s := by
  cases a with
  | str => exact ⟨rfl, h⟩
  | int | signed | empty => cases h

lemma cmpValues_of_num {x y : Int} (ha : a.num = some x) (hb : b.num = some y) :
    a.cmpValues arena b = some (compare x y) := by
  simp [cmpValues, ha, hb]

lemma cmpValues_of_none (h : a.num = none ∨ b.num = none) {x y : List UInt8}
    (ha : a.valStr arena = some x) (hb : b.valStr arena = some y) :
    a.cmpValues arena b = some (compare x y) := by
  unfold cmpValues
  split
  · simp_all
  · simp [ha, hb]

lemma cmpValues_isSome :
    (a.cmpValues arena b).isSome ↔ (a.valStr arena).isSome ∧ (b.valStr arena).isSome := by
  unfold cmpValues
  split
  next hx hy => simp [valStr_of_num hx, valStr_of_num hy]
  · cases a.valStr arena <;> cases b.valStr arena <;> simp

/-- Two cells in order have their bytes in order, numbers having none. -/
lemma valStr_isLE (h : NotAfter (cmpValues arena) a b) :
    ∃ x y, a.valStr arena = some x ∧ b.valStr arena = some y ∧ (compare x y).isLE := by
  have hsome : (a.cmpValues arena b).isSome := Option.isSome_of_any h
  obtain ⟨hx, hy⟩ := cmpValues_isSome.mp hsome
  obtain ⟨x, hx⟩ := Option.isSome_iff_exists.mp hx
  obtain ⟨y, hy⟩ := Option.isSome_iff_exists.mp hy
  refine ⟨x, y, hx, hy, ?_⟩
  by_cases hnum : a.num = none ∨ b.num = none
  · simpa [NotAfter, cmpValues_of_none hnum hx hy] using h
  · push Not at hnum
    obtain ⟨m, hm⟩ := Option.ne_none_iff_exists'.mp hnum.1
    obtain ⟨n, hn⟩ := Option.ne_none_iff_exists'.mp hnum.2
    cases hx.symm.trans (valStr_of_num hm)
    cases hy.symm.trans (valStr_of_num hn)
    rfl

lemma cmpValues_swap : a.cmpValues arena b = (b.cmpValues arena a).map .swap := by
  have htexts : ∀ s t : Option (List UInt8), (do return compare (← s) (← t) : Option Ordering) =
      (do return compare (← t) (← s) : Option Ordering).map .swap := by
    intro s t
    cases s with
    | none => cases t <;> rfl
    | some s =>
      cases t with
      | none => rfl
      | some t => exact congrArg some Std.OrientedOrd.eq_swap
  unfold cmpValues
  cases a.num with
  | none => cases b.num <;> exact htexts _ _
  | some x =>
    cases b.num with
    | none => exact htexts _ _
    | some y => exact congrArg some Std.OrientedOrd.eq_swap

lemma cmpValues_trans (hmixed : b.num = none → b.valStr arena = some [] → a.num ≠ none →
    c.num ≠ none → a.num = c.num) (hab : NotAfter (cmpValues arena) a b)
    (hbc : NotAfter (cmpValues arena) b c) : NotAfter (cmpValues arena) a c := by
  obtain ⟨s, t, hs, ht, hst⟩ := valStr_isLE hab
  obtain ⟨_, u, ht', hu, htu⟩ := valStr_isLE hbc
  cases ht.symm.trans ht'
  by_cases hnum : a.num = none ∨ c.num = none
  · rw [NotAfter, cmpValues_of_none hnum hs hu]
    exact Std.TransCmp.isLE_trans hst htu
  push Not at hnum
  obtain ⟨x, hx⟩ := Option.ne_none_iff_exists'.mp hnum.1
  obtain ⟨z, hz⟩ := Option.ne_none_iff_exists'.mp hnum.2
  rw [NotAfter, cmpValues_of_num hx hz]
  cases hb : b.num with
  | some y =>
    rw [NotAfter, cmpValues_of_num hx hb] at hab
    rw [NotAfter, cmpValues_of_num hb hz] at hbc
    exact @Std.TransCmp.isLE_trans Int compare _ x y z hab hbc
  | none =>
    -- text between two numbers has no bytes, so the numbers are the same
    cases hu.symm.trans (valStr_of_num hz)
    have hbytes : t = [] := by
      cases t with
      | nil => rfl
      | cons => simp at htu
    have hsame := hmixed hb (by rw [ht, hbytes]) (by simp [hx]) (by simp [hz])
    rw [hx, hz] at hsame
    cases hsame
    simp

end Value

namespace Table

variable {t : Table} {ci : Nat} {reverse : Bool}

lemma answers_iff : Answers (t.rowCmp ci reverse) t.rows ↔ t.Within ci := by
  have hsome : ∀ a b, (t.rowCmp ci reverse a b).isSome ↔
      ((cell a ci).valStr t.arena).isSome ∧ ((cell b ci).valStr t.arena).isSome := by
    intro a b
    rw [rowCmp, Option.isSome_map, Value.cmpValues_isSome]
  unfold Answers Within
  simp only [hsome]
  rcases t.rows with _ | ⟨a, _ | ⟨b, rows⟩⟩
  · simp
  · simp
  · constructor
    · intro h _ x hx
      have hhead := (List.pairwise_cons.mp h).1
      rcases List.mem_cons.mp hx with rfl | hx
      · exact (hhead b (by simp)).1
      · exact (hhead x hx).2
    · intro h
      have hall := h (by simp)
      exact List.pairwise_of_forall_mem_list fun x hx y hy => ⟨hall x hx, hall y hy⟩

lemma ordersOn_rowCmp (h : t.Unmixed ci) : OrdersOn (t.rowCmp ci reverse) t.rows := by
  have hcells : OrdersOn (fun a b => (cell a ci).cmpValues t.arena (cell b ci)) t.rows :=
    ⟨fun _ _ _ _ => Value.cmpValues_swap,
      fun a ha b hb c hc => Value.cmpValues_trans (h a ha b hb c hc)⟩
  exact hcells.turned reverse

/-- A cell without bytes between two different numbers is equal to both. -/
lemma Unmixed.of_ordersOn (h : OrdersOn (t.rowCmp ci reverse) t.rows) : t.Unmixed ci := by
  intro a ha b hb c hc hnone hbytes hx hz
  obtain ⟨x, hx⟩ := Option.ne_none_iff_exists'.mp hx
  obtain ⟨z, hz⟩ := Option.ne_none_iff_exists'.mp hz
  have hequal : ∀ r ∈ t.rows, ∀ n, (cell r ci).num = some n →
      NotAfter (t.rowCmp ci reverse) r b ∧ NotAfter (t.rowCmp ci reverse) b r := by
    intro r _ n hn
    have htext : (cell r ci).valStr t.arena = some [] := Value.valStr_of_num hn
    rw [NotAfter, NotAfter, rowCmp, rowCmp, Value.cmpValues_of_none (.inr hnone) htext hbytes,
      Value.cmpValues_of_none (.inl hnone) hbytes htext]
    cases reverse <;> exact ⟨rfl, rfl⟩
  have hle := h.trans a ha b hb c hc (hequal a ha x hx).1 (hequal c hc z hz).2
  have hge := h.trans c hc b hb a ha (hequal c hc z hz).1 (hequal a ha x hx).2
  rw [NotAfter, rowCmp, Value.cmpValues_of_num hx hz] at hle
  rw [NotAfter, rowCmp, Value.cmpValues_of_num hz hx] at hge
  rw [Std.OrientedOrd.eq_swap (a := z)] at hge
  rw [hx, hz]
  cases hxz : compare x z with
  | eq => rw [Std.LawfulEqOrd.eq_of_compare hxz]
  | lt | gt => cases reverse <;> simp [turned, hxz] at hle hge

lemma inOrder_of_rowCmp {a b : List Value} (h : NotAfter (t.rowCmp ci reverse) a b) :
    t.InOrder ci reverse a b := by
  constructor
  · intro x hx y hy
    simpa [NotAfter, rowCmp, Value.cmpValues_of_num hx hy] using h
  · intro x hx y hy
    obtain ⟨hnone, hx⟩ := Value.text_spec hx
    simpa [NotAfter, rowCmp, Value.cmpValues_of_none (.inl hnone) hx (Value.text_spec hy).2] using h

/-- **A column is sorted, whatever the library's sort does, exactly if it has no such mixture and
no string outside the arena.** -/
theorem sorted_iff (t : Table) (col : List UInt8) (reverse : Bool) :
    (∀ out, t.Sorts col reverse out → t.Sorted col reverse out) ↔
      ∀ ci ∈ t.colIndex col, t.Within ci ∧ t.Unmixed ci := by
  unfold Sorts Sorted
  cases t.colIndex col with
  | none => simp
  | some ci =>
    simp only [Option.mem_some, forall_eq']
    constructor
    · intro h
      -- otherwise the sort may panic, and that is no sorted table
      by_contra hcon
      have hpanic : SortsUnstable (t.rowCmp ci reverse) t.rows none := by
        refine .panicked fun ⟨hanswers, horders⟩ => hcon ?_
        exact ⟨answers_iff.mp hanswers, .of_ordersOn horders⟩
      obtain ⟨_, hout, -⟩ := h none ⟨none, hpanic, rfl⟩
      cases hout
    · rintro ⟨hwithin, hunmixed⟩ out ⟨rows, hsorts, rfl⟩
      have horders : OrdersOn (t.rowCmp ci reverse) t.rows := ordersOn_rowCmp hunmixed
      cases hsorts with
      | sorted ys hperm hsorted => exact ⟨ys, rfl, hperm, hsorted.imp inOrder_of_rowCmp⟩
      | scrambled ys hperm _ hcmp => exact absurd horders hcmp
      | panicked hcmp => exact absurd ⟨answers_iff.mpr hwithin, horders⟩ hcmp

/-- Two numbers and an absent cell. -/
def mixed : Table := ⟨[[110]], [[.int 2], [.empty], [.int 1]], []⟩

/-- Such a column may come out in any order, or stop the caller. -/
theorem mixed_unsorted : mixed.Sorts [110] false none ∧ ¬ mixed.Sorted [110] false none ∧
    mixed.Sorts [110] false (some (mixed, true)) ∧
    ¬ mixed.Sorted [110] false (some (mixed, true)) := by
  have hcmp : ¬ OrdersOn (mixed.rowCmp 0 false) mixed.rows := by
    intro h
    have hle := h.trans [.int 2] (by decide) [.empty] (by decide) [.int 1] (by decide) rfl rfl
    exact absurd (show (compare (2 : Int) 1).isLE from hle) (by decide)
  have hanswers : Answers (mixed.rowCmp 0 false) mixed.rows := by
    unfold Answers
    decide
  refine ⟨⟨none, .panicked (hcmp ·.2), rfl⟩, ?_, ⟨some _, .scrambled _ (.refl _) hanswers hcmp, rfl⟩, ?_⟩
  · rintro ⟨_, h, -⟩
    cases h
  · rintro ⟨_, h, -, hsorted⟩
    cases h
    have h21 := (List.pairwise_cons.mp hsorted).1 [.int 1] (by decide)
    exact absurd (h21.1 2 rfl 1 rfl) (by decide)

end Table
end Godspeed.Record
