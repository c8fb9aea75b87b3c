import Godspeed.Gsfs.Survey

/-!
# What a walk meets and what is in the tree

The list of events of a walk (`survey`) against the records of the tree
(`preorder`): the walk enters the records in the order of the tree and meets the blocks
they hold in that order (`survey_flatMap`), and every event belongs to a record at some
position (`mem_survey`).
-/

namespace Godspeed.Gsfs

open Word Holdings List

def Rec.node (r : Rec) : Nat × Nat × Nat := (r.itype, r.first, r.count)

variable (rd : Nat → Block) {r : Rec}

/-- The records of a tree, down to a depth. -/
def records (levels : Nat) (r : Rec) : List (List Nat × Rec) :=
  preorder (kid rd) kidIndices levels r

/-- The children in one block of a directory. -/
def kidsIn (r : Rec) (k : Nat) : List Rec :=
  (List.range recsPerBlock).filterMap fun slot => kid rd r (recsPerBlock * k + slot)

lemma kidsIn_eq {k : Nat} (hdir : r.itype = itypeDir) (hk : k < r.count) :
    (kidsIn rd r k).map Rec.node = ((tdRead rd (r.first + k)).map kids).getD [] := by
  have hkid : ∀ slot < recsPerBlock, kid rd r (recsPerBlock * k + slot) =
      (tdRead rd (r.first + k)).bind fun blk =>
        if recType blk slot ≠ itypeFree then some (recOf blk slot) else none := by
    intro slot hslot
    have hlt : recsPerBlock * k + slot < recsPerBlock * r.count := by
      have hseven : recsPerBlock = 7 := rfl
      rw [hseven] at hslot ⊢
      omega
    unfold kid
    rw [if_pos ⟨hdir, hlt⟩, (slot_index hslot).1, (slot_index hslot).2]
  unfold kidsIn
  cases hread : tdRead rd (r.first + k) with
  | none =>
    have hnone : ∀ slot ∈ range recsPerBlock, kid rd r (recsPerBlock * k + slot) = none := by
      intro slot hslot
      rw [hkid slot (mem_range.mp hslot), hread]
      rfl
    rw [filterMap_eq_nil_iff.mpr hnone]
    rfl
  | some blk =>
    rw [Option.map_some, Option.getD_some, map_filterMap]
    refine filterMap_congr fun slot hslot => ?_
    rw [hkid slot (mem_range.mp hslot), hread, Option.bind_some]
    by_cases hfree : recType blk slot = itypeFree
    · rw [if_neg (not_not.mpr hfree), if_pos hfree]
      rfl
    · rw [if_pos hfree, if_neg hfree]
      rfl

lemma kidIndices_eq (r : Rec) : kidIndices r =
    (List.range r.count).flatMap fun k => (List.range recsPerBlock).map fun slot => recsPerBlock * k + slot := by
  unfold kidIndices
  induction r.count with
  | zero => rfl
  | succ n ih =>
    rw [Nat.mul_succ, range_add, ih, range_succ, flatMap_append, flatMap_singleton]

section Order

variable {rd : Nat → Block} {γ : Type}

/-- What a record alone contributes to a list over the events. -/
def Rec.contribution (rd : Nat → Block) (f : Event → List γ) (r : Rec) : List γ :=
  f (.enter (r.itype = itypeDir) r.first r.count) ++
    if r.itype = itypeFileFrag then ((extOf rd r.first).getD []).flatMap fun run => f (.run run.1 run.2)
    else []

lemma records_succ_flatMap (g : Rec → List γ) (levels : Nat) (r : Rec) :
    (records rd (levels + 1) r).flatMap (fun e => g e.2) = g r ++ (kidIndices r).flatMap fun i =>
        (kid rd r i).toList.flatMap fun x => (records rd levels x).flatMap fun e => g e.2 := by
  unfold records
  rw [preorder, flatMap_cons, flatMap_assoc]
  congr 2
  funext i
  rw [flatMap_map, flatMap_assoc]

lemma kidIndices_flatMap (g : Rec → List γ) (r : Rec) :
    ((kidIndices r).flatMap fun i => (kid rd r i).toList.flatMap g) =
      (List.range r.count).flatMap fun k => (kidsIn rd r k).flatMap g := by
  rw [kidIndices_eq, flatMap_assoc]
  congr 1
  funext k
  rw [flatMap_map, kidsIn]
  induction range recsPerBlock with
  | nil => rfl
  | cons slot slots ih =>
    rw [flatMap_cons, ih, filterMap_cons]
    cases kid rd r (recsPerBlock * k + slot) with
    | none => rfl
    | some x => rw [Option.toList_some, flatMap_singleton]; exact flatMap_cons.symm

variable {f : Event → List γ} (hlook : ∀ dirBlock lba, f (.look dirBlock lba) = []) (hlost : f .lost = [])
  (hprobe : ∀ ok, f (.probe ok) = []) (hclose : ∀ ok, f (.close ok) = []) (hdeep : f .tooDeep = [])

include hprobe in
lemma probes_flatMap (blocks : List Nat) : (probes rd blocks).flatMap f = [] := by
  rw [flatMap_eq_nil_iff]
  intro ev hev
  obtain ⟨lba, -, rfl⟩ := mem_map.mp hev
  exact hprobe _

include hlook hlost hprobe hclose hdeep in
/-- **The walk meets the records in the order of the tree.** -/
theorem survey_flatMap (levels : Nat) (r : Rec) : (survey rd levels r.node).flatMap f =
    (records rd levels r).flatMap fun e => e.2.contribution rd f := by
  induction levels generalizing r with
  | zero =>
    rw [survey, flatMap_cons, hdeep]
    rfl
  | succ levels ih =>
    rw [records_succ_flatMap, kidIndices_flatMap, Rec.node, survey, flatMap_cons]
    by_cases hdir : r.itype = itypeDir
    · have hfrag : r.itype ≠ itypeFileFrag := fun h => absurd (hdir.symm.trans h) (by decide)
      rw [if_pos hdir, Rec.contribution, if_neg hfrag, append_nil]
      congr 1
      rw [flatMap_assoc, extent, range'_eq_map_range, flatMap_map]
      refine flatMap_congr fun k hk => ?_
      have hkids := kidsIn_eq rd hdir (mem_range.mp hk)
      rw [flatMap_cons, hlook]
      have hbelow : (fun x : Rec => (records rd levels x).flatMap fun e => e.2.contribution rd f) =
          fun x => (survey rd levels x.node).flatMap f := funext fun x => (ih x).symm
      rw [hbelow]
      cases hread : tdRead rd (r.first + k) with
      | none =>
        rw [hread, Option.map_none, Option.getD_none, map_eq_nil_iff] at hkids
        rw [hkids, flatMap_cons, hlost]
        rfl
      | some blk =>
        rw [hread, Option.map_some, Option.getD_some] at hkids
        change ((kids blk).flatMap (survey rd levels)).flatMap f = _
        rw [← hkids, flatMap_assoc, flatMap_map]
    · have hnone : (range r.count).flatMap (fun k => (kidsIn rd r k).flatMap fun x =>
          (records rd levels x).flatMap fun e => e.2.contribution rd f) = [] := by
        rw [flatMap_eq_nil_iff]
        intro k _
        have hkid : ∀ i, kid rd r i = none := fun i => if_neg fun h => hdir h.1
        rw [kidsIn, filterMap_eq_nil_iff.mpr fun slot _ => hkid _]
        rfl
      rw [if_neg hdir, hnone, append_nil]
      congr 1
      by_cases hfrag : r.itype = itypeFileFrag
      · rw [if_pos hfrag, if_pos hfrag, flatMap_cons, hlook]
        cases extOf rd r.first with
        | none =>
          rw [flatMap_cons, hclose]
          rfl
        | some runs =>
          rw [flatMap_append, flatMap_cons, hclose, flatMap_assoc]
          simp only [flatMap_nil, append_nil]
          refine flatMap_congr fun run _ => ?_
          rw [runEvents, flatMap_cons, probes_flatMap hprobe, append_nil]
      · rw [if_neg hfrag, if_neg hfrag, flatMap_append, probes_flatMap hprobe, flatMap_cons, hclose]
        rfl

end Order

section Marks

variable {rd : Nat → Block}

def marks (evs : List Event) : List Nat := evs.flatMap Event.blocks

/-- **The walk marks what the records hold**, in the order of the tree. -/
theorem marks_survey (levels : Nat) (r : Rec) :
    marks (survey rd levels r.node) = (records rd levels r).flatMap fun e => own rd e.2 :=
  survey_flatMap (fun _ _ => rfl) rfl (fun _ => rfl) (fun _ => rfl) rfl levels r

lemma scans_kids (rd : Nat → Block) : ∀ r i x, kid rd r i = some x → i ∈ kidIndices r :=
  fun _ _ _ => mem_kidIndices

lemma mem_records {levels : Nat} {r x : Rec} {q : List Nat} :
    (q, x) ∈ records rd levels r ↔ q.length < levels ∧ recAt rd r q = some x :=
  mem_preorder (scans_kids rd)

lemma mem_marks_survey {levels b : Nat} : b ∈ marks (survey rd levels r.node) ↔
    ∃ q x, q.length < levels ∧ recAt rd r q = some x ∧ b ∈ own rd x := by
  rw [marks_survey]
  exact mem_holdings (scans_kids rd)

/-- **No block is marked twice.** -/
theorem nodup_marks_survey (h : Apart (kid rd) (own rd) r) (levels : Nat) :
    (marks (survey rd levels r.node)).Nodup := by
  rw [marks_survey]
  exact nodup_holdings (scans_kids rd) nodup_kidIndices h levels

end Marks

section Events

variable {rd : Nat → Block}

/-- What a walk meets at a record itself. -/
def Rec.Meets (rd : Nat → Block) (r : Rec) (ev : Event) : Prop :=
  ev = .enter (r.itype = itypeDir) r.first r.count ∨
    r.itype = itypeDir ∧ (∃ b ∈ extent r.first r.count, ev = .look true b ∨ tdRead rd b = none ∧ ev = .lost) ∨
    r.itype = itypeFileFrag ∧ (ev = .look false r.first ∨ extOf rd r.first = none ∧ ev = .close false ∨
      ∃ runs, extOf rd r.first = some runs ∧ ((∃ run ∈ runs, ev = .run run.1 run.2) ∨
        (∃ b ∈ runBlocks runs, ev = .probe (intact rd b)) ∨ ev = .close ((runBlocks runs).all (intact rd)))) ∨
    r.itype ≠ itypeDir ∧ r.itype ≠ itypeFileFrag ∧ ((∃ b ∈ extent r.first r.count, ev = .probe (intact rd b)) ∨
      ev = .close ((extent r.first r.count).all (intact rd)))

lemma mem_probes {blocks : List Nat} {ev : Event} :
    ev ∈ probes rd blocks ↔ ∃ b ∈ blocks, ev = .probe (intact rd b) := by
  unfold probes
  rw [mem_map]
  simp only [eq_comm]

lemma mem_kids {k : Nat} {blk : Block} {node : Nat × Nat × Nat} (hdir : r.itype = itypeDir)
    (hk : k < r.count) (hread : tdRead rd (r.first + k) = some blk) (hnode : node ∈ kids blk) :
    ∃ i x, kid rd r i = some x ∧ node = x.node := by
  have hkids := kidsIn_eq rd hdir hk
  rw [hread, Option.map_some, Option.getD_some] at hkids
  rw [← hkids] at hnode
  obtain ⟨x, hx, rfl⟩ := mem_map.mp hnode
  obtain ⟨slot, -, hslot⟩ := mem_filterMap.mp hx
  exact ⟨_, x, hslot, rfl⟩

/-- **Every event belongs to a record of the tree**, or to one that is too deep. -/
theorem mem_survey {levels : Nat} {ev : Event} (h : ev ∈ survey rd levels r.node) :
    ∃ q x, recAt rd r q = some x ∧
      (q.length < levels ∧ x.Meets rd ev ∨ q.length = levels ∧ ev = .tooDeep) := by
  induction levels generalizing r with
  | zero => exact ⟨[], r, rfl, .inr ⟨rfl, mem_singleton.mp h⟩⟩
  | succ levels ih =>
    rw [Rec.node, survey, mem_cons] at h
    rcases h with rfl | h
    · exact ⟨[], r, rfl, .inl ⟨Nat.succ_pos _, .inl rfl⟩⟩
    by_cases hdir : r.itype = itypeDir
    · rw [if_pos hdir] at h
      obtain ⟨b, hb, h⟩ := mem_flatMap.mp h
      rcases mem_cons.mp h with rfl | h
      · exact ⟨[], r, rfl, .inl ⟨Nat.succ_pos _, .inr (.inl ⟨hdir, b, hb, .inl rfl⟩)⟩⟩
      cases hread : tdRead rd b with
      | none =>
        rw [hread] at h
        exact ⟨[], r, rfl, .inl ⟨Nat.succ_pos _,
          .inr (.inl ⟨hdir, b, hb, .inr ⟨hread, mem_singleton.mp h⟩⟩)⟩⟩
      | some blk =>
        -- the event belongs to a record below
        rw [hread] at h
        obtain ⟨node, hnode, h⟩ := mem_flatMap.mp h
        obtain ⟨hlow, hhigh⟩ := mem_extent.mp hb
        obtain ⟨i, x, hx, rfl⟩ := mem_kids (k := b - r.first) hdir (by omega)
          (by rw [Nat.add_sub_cancel' hlow]; exact hread) hnode
        obtain ⟨q, y, hy, hev⟩ := ih h
        refine ⟨i :: q, y, ?_, ?_⟩
        · rw [recAt, descend_cons, hx]
          exact hy
        · rcases hev with ⟨hlen, hmeets⟩ | ⟨hlen, hdeep⟩
          · exact .inl ⟨Nat.succ_lt_succ hlen, hmeets⟩
          · exact .inr ⟨congrArg (· + 1) hlen, hdeep⟩
    · refine ⟨[], r, rfl, .inl ⟨Nat.succ_pos _, ?_⟩⟩
      rw [if_neg hdir] at h
      by_cases hfrag : r.itype = itypeFileFrag
      · rw [if_pos hfrag, mem_cons] at h
        refine .inr (.inr (.inl ⟨hfrag, ?_⟩))
        rcases h with h | h
        · exact .inl h
        cases hext : extOf rd r.first with
        | none =>
          rw [hext] at h
          exact .inr (.inl ⟨rfl, mem_singleton.mp h⟩)
        | some runs =>
          rw [hext] at h
          refine .inr (.inr ⟨runs, rfl, ?_⟩)
          rcases mem_append.mp h with h | h
          · obtain ⟨run, hrun, h⟩ := mem_flatMap.mp h
            rcases mem_cons.mp h with h | h
            · exact .inl ⟨run, hrun, h⟩
            · obtain ⟨b, hb, h⟩ := mem_probes.mp h
              exact .inr (.inl ⟨b, mem_flatMap.mpr ⟨run, hrun, hb⟩, h⟩)
          · exact .inr (.inr (mem_singleton.mp h))
      · rw [if_neg hfrag] at h
        refine .inr (.inr (.inr ⟨hdir, hfrag, ?_⟩))
        rcases mem_append.mp h with h | h
        · exact .inl (mem_probes.mp h)
        · exact .inr (mem_singleton.mp h)

end Events

end Godspeed.Gsfs
