import Godspeed.Gsfs.Inventory

/-!
# The bitmap during `check`

`check` clears the bitmap and sets bits from then on.  `Between marked met w w'` says
what a part of it does: the bits of `marked` are set, no bit is set but those and some of
`met`, and no block changes but those of the bitmap that can be read.  A part that is
refused leaves less marked than it met.  The walk goes through the events of the tree up
to the first that stops it (`run_checkEvents`).
-/

namespace Godspeed.Gsfs

open Word Prog Holdings World Function List Setting

/-- The volume without what a walk keeps for itself. -/
def Fs.settled (fs : Fs) : Fs := { fs.core with ioFailStreak := 0 }

/-- The bits of `marked` were set and at most those of `met`. -/
structure Between (marked met : List Nat) (w w' : World) : Prop where
  setting : w'.setting = w.setting
  settled : w'.fs.settled = w.fs.settled
  other : ∀ lba, ¬ w.setting.InBitmap lba → w'.disk lba = w.disk lba
  lost : ∀ lba, (∀ t, w.fault t lba = true) → w'.disk lba = w.disk lba
  up : ∀ b, b ∈ marked ∨ w.bitAt b = true → w'.bitAt b = true
  down : ∀ b, w'.bitAt b = true → w.bitAt b = true ∨ b ∈ met

namespace Between

variable {marked met marked' met' : List Nat} {w w' u v : World}

lemma of_same (hset : w'.setting = w.setting) (hsettled : w'.fs.settled = w.fs.settled)
    (hdisk : w'.disk = w.disk) (hread : w'.read = w.read) : Between [] [] w w' := by
  have hbit : ∀ b, w'.bitAt b = w.bitAt b := fun b => bitAt_congr hset (congrFun hread _)
  refine ⟨hset, hsettled, fun lba _ => congrFun hdisk lba, fun lba _ => congrFun hdisk lba, ?_, ?_⟩
  · intro b hb
    rw [hbit]
    exact hb.resolve_left not_mem_nil
  · intro b hb
    rw [hbit] at hb
    exact .inl hb

lemma refl (w : World) : Between [] [] w w := of_same rfl rfl rfl rfl

lemma trans (h : Between marked met w u) (h' : Between marked' met' u v) :
    Between (marked ++ marked') (met ++ met') w v := by
  have hfault : u.fault = w.fault := congrArg Setting.fault h.setting
  refine ⟨h'.setting.trans h.setting, h'.settled.trans h.settled, ?_, ?_, ?_, ?_⟩
  · intro lba hlba
    rw [← h.other lba hlba]
    exact h'.other lba (by rwa [h.setting])
  · intro lba hlba
    rw [← h.lost lba hlba]
    exact h'.lost lba (by rwa [hfault])
  · intro b hb
    rw [mem_append, or_assoc, or_left_comm] at hb
    exact h'.up b (hb.imp_right (h.up b))
  · intro b hb
    rw [mem_append, ← or_assoc]
    exact (h'.down b hb).imp_left (h.down b)

lemma widen (h : Between marked met w w') (hmarked : ∀ b ∈ marked', b ∈ marked)
    (hmet : ∀ b ∈ met, b ∈ met') : Between marked' met' w w' :=
  ⟨h.setting, h.settled, h.other, h.lost, fun b hb => h.up b (hb.imp_left (hmarked b)),
    fun b hb => (h.down b hb).imp_right (hmet b)⟩

lemma closed (h : Between marked met w w') (hw : w.fs.txnActive = false) : w'.fs.txnActive = false :=
  (congrArg txnActive h.setting).trans hw

end Between

lemma read_of_closed {w : World} (hw : w.fs.txnActive = false) : w.read = w.disk := by
  unfold World.read
  rw [hw]
  rfl

section Range

variable {first count : Nat} {w t : World}

/-- A bitmap block of a range cannot be read at some moment. -/
def Setting.Unmarkable (g : Setting) (blocks : List Nat) : Prop :=
  ∃ b ∈ blocks, ∃ t, g.fault t (g.bitmapStart + b / bitsPerBmblock) = true

lemma exists_of_mem_bmBlocks {k : Nat} (hk : k ∈ bmBlocks first count) :
    ∃ b ∈ extent first count, b / bitsPerBmblock = k := by
  have hbits : bitsPerBmblock = 4096 := rfl
  rw [mem_bmBlocks, hbits] at hk
  refine ⟨max first (k * 4096), mem_extent.mpr ?_, ?_⟩
  · omega
  · rw [hbits]
    omega

lemma MarkedBlocks.between {past : List Nat} (h : MarkedBlocks first (first + count) true past w t)
    (hw : w.fs.txnActive = false) (hplan : w.setting.Plan)
    (hin : ∀ b ∈ extent first count, b < w.fs.totalBlocks)
    (hpast : ∀ k ∈ past, k ∈ bmBlocks first count)
    (hread : ∀ k ∈ past, ∃ tick, w.fault tick (w.fs.bitmapStart + k) = false) :
    Between ((extent first count).filter fun b => b / bitsPerBmblock ∈ past) (extent first count) w t := by
  have hactive : t.fs.txnActive = false := (congrArg txnActive h.setting).trans hw
  have hstart : t.fs.bitmapStart = w.fs.bitmapStart := congrArg bitmapStart h.setting
  have hsame : ∀ lba, (∀ k ∈ past, lba ≠ w.fs.bitmapStart + k) → t.disk lba = w.disk lba := by
    intro lba hlba
    rw [← read_of_closed hactive, ← read_of_closed hw]
    exact h.outside lba hlba
  have hbit : ∀ b, t.bitAt b =
      if b / bitsPerBmblock ∈ past ∧ first ≤ b ∧ b < first + count then true else w.bitAt b := by
    intro b
    by_cases hk : b / bitsPerBmblock ∈ past
    · unfold bitAt
      rw [hstart, h.inside _ hk, getLsbD_markedBlock _ rfl]
      simp only [hk, true_and]
    · rw [if_neg fun hr => hk hr.1]
      refine bitAt_congr h.setting (h.outside _ fun j hj heq => hk ?_)
      have hjk : b / bitsPerBmblock = j := by omega
      exact hjk ▸ hj
  refine ⟨h.setting, congrArg (fun fs => { fs with ioFailStreak := 0 }) h.core, ?_, ?_, ?_, ?_⟩
  · intro lba hlba
    refine hsame lba fun k hk heq => hlba ?_
    obtain ⟨b, hb, rfl⟩ := exists_of_mem_bmBlocks (hpast k hk)
    rw [heq]
    exact hplan.bitmap_block (hin b hb)
  · intro lba hlba
    refine hsame lba fun k hk heq => ?_
    obtain ⟨tick, htick⟩ := hread k hk
    rw [← heq, hlba tick] at htick
    cases htick
  · intro b hb
    rw [hbit]
    by_cases hr : b / bitsPerBmblock ∈ past ∧ first ≤ b ∧ b < first + count
    · rw [if_pos hr]
    rw [if_neg hr]
    refine hb.resolve_left fun hmem => hr ?_
    obtain ⟨hmem, hk⟩ := mem_filter.mp hmem
    exact ⟨of_decide_eq_true hk, mem_extent.mp hmem⟩
  · intro b hb
    rw [hbit] at hb
    by_cases hr : b / bitsPerBmblock ∈ past ∧ first ≤ b ∧ b < first + count
    · exact .inr (mem_extent.mpr hr.2)
    · rw [if_neg hr] at hb
      exact .inl hb

/-- **Marking a range** without a transaction: all of it, or less of it when a bitmap
block cannot be read. -/
theorem bmSetRange_between (hw : w.fs.txnActive = false) (hplan : w.setting.Plan)
    (hin : ∀ b ∈ extent first count, b < w.fs.totalBlocks) :
    Run (bmSetRange first count true) w
      (fun _ t => Between (extent first count) (extent first count) w t ∧
        t.fs.ioFailStreak = w.fs.ioFailStreak)
      (fun _ t => Between [] (extent first count) w t ∧ w.setting.Unmarkable (extent first count)) := by
  unfold bmSetRange
  refine Run.mono (Q := fun _ t => MarkedBlocks first (first + count) true (bmBlocks first count) w t ∧
    ∀ k ∈ bmBlocks first count, ∃ tick, w.fault tick (w.fs.bitmapStart + k) = false) ?_ ?_ fun _ _ h => h
  · refine run_forEach (fun past t => MarkedBlocks first (first + count) true past w t ∧
      ∀ k ∈ past, ∃ tick, w.fault tick (w.fs.bitmapStart + k) = false)
      ⟨⟨rfl, rfl, fun k hk => absurd hk not_mem_nil, fun _ _ => rfl⟩,
        fun k hk => absurd hk not_mem_nil⟩ fun past k rest t hxs ht => ?_
    have hmem : ∀ j ∈ past ++ [k], j ∈ bmBlocks first count := by
      intro j hj
      rw [hxs]
      rcases mem_append.mp hj with hj | hj
      · exact mem_append_left _ hj
      · exact mem_append_right _ (mem_singleton.mp hj ▸ mem_cons_self)
    have hk : k ∉ past := by
      have hnodup := nodup_bmBlocks first count
      rw [hxs] at hnodup
      intro hpast
      exact (nodup_append.mp hnodup).2.2 k hpast k mem_cons_self rfl
    have hactive : t.fs.txnActive = false := (congrArg txnActive ht.1.setting).trans hw
    have hstart : t.fs.bitmapStart = w.fs.bitmapStart := congrArg bitmapStart ht.1.setting
    have hfault : t.fault = w.fault := congrArg Setting.fault ht.1.setting
    have hfaulty : t.faulty (t.fs.bitmapStart + k) = w.fault t.tick (w.fs.bitmapStart + k) := by
      unfold faulty
      rw [hactive, hstart, hfault]
      simp only [Bool.false_and, Bool.not_false, Bool.and_true]
    refine run_bmSetBlock (fun hok hroom => ?_) (fun hbad => ?_) fun hfull => ?_
    · refine ⟨ht.1.snoc hk hroom, fun j hj => ?_⟩
      rcases mem_append.mp hj with hj | hj
      · exact ht.2 j hj
      · exact mem_singleton.mp hj ▸ ⟨t.tick, hfaulty ▸ hok⟩
    · obtain ⟨b, hb, hbk⟩ := exists_of_mem_bmBlocks (hmem k (mem_append_right _ mem_cons_self))
      refine ⟨?_, b, hb, t.tick, ?_⟩
      · have hbetween := ht.1.between hw hplan hin (fun j hj => hmem j (mem_append_left _ hj)) ht.2
        have hticked : Between [] [] t t.ticked := .of_same rfl rfl rfl rfl
        exact (hbetween.trans hticked).widen (fun _ hb => absurd hb not_mem_nil) fun b hb => by
          rwa [append_nil] at hb
      · change w.fault _ _
        rw [hbk]
        exact hfaulty ▸ hbad
    · unfold hasRoom at hfull
      rw [fs_ticked, hactive] at hfull
      cases hfull
  · intro _ t ht
    refine ⟨(ht.1.between hw hplan hin (fun _ hk => hk) ht.2).widen
      (fun b hb => mem_filter.mpr ⟨hb, ?_⟩) fun _ hb => hb, ?_⟩
    · exact decide_eq_true (div_mem_bmBlocks (mem_extent.mp hb).1 (mem_extent.mp hb).2)
    · have hstreak : t.fs.core.ioFailStreak = w.fs.core.ioFailStreak := congrArg _ ht.1.core
      exact hstreak

end Range

section Walk

def Event.tally : Event → Tally → Tally
  | .enter isDir _ count, st => if isDir then (st.add count).dir else (st.add count).file
  | .lost, st => st.verdict false
  | .run _ count, st => st.add count
  | .close ok, st => st.verdict ok
  | _, st => st

/-- The length of the row of data blocks that could not be verified. -/
def Event.streak : Event → Nat → Nat
  | .probe true, _ => 0
  | .probe false, n => n + 1
  | _, n => n

def Event.stops : Event → Nat → Bool
  | .probe false, n => walkFailMax ≤ n + 1
  | .tooDeep, _ => true
  | _, _ => false

/-- What is left of the walk when it is given up, from the event that stops it on. -/
def abandoned : Nat → List Event → List Event
  | _, [] => []
  | n, ev :: rest => if ev.stops n then ev :: rest else abandoned (ev.streak n) rest

variable {w : World} {st : Tally}

lemma run_noteWalkRead (ok : Bool) : Run (noteWalkRead ok) w
    (fun _ t => Between [] [] w t ∧ t.fs.ioFailStreak = (Event.probe ok).streak w.fs.ioFailStreak ∧
      (Event.probe ok).stops w.fs.ioFailStreak = false)
    (fun _ t => Between [] [] w t ∧ (Event.probe ok).stops w.fs.ioFailStreak) := by
  cases ok with
  | true => exact ⟨.of_same rfl rfl rfl rfl, rfl, rfl⟩
  | false =>
    refine run_require.mpr ⟨fun hgo => ⟨.of_same rfl rfl rfl rfl, rfl, ?_⟩,
      fun hstop => ⟨.of_same rfl rfl rfl rfl, ?_⟩⟩
    · exact decide_eq_false (Nat.not_le_of_lt (of_decide_eq_true hgo))
    · exact decide_eq_true (not_lt.mp (of_decide_eq_false hstop))

/-- **One event of `check`.** -/
theorem run_checkEvent {ev : Event} (hw : w.fs.txnActive = false) (hplan : w.setting.Plan)
    (hin : ∀ b ∈ ev.blocks, b < w.fs.totalBlocks) : Run (checkEvent ev st) w
      (fun st' t => Between ev.blocks ev.blocks w t ∧ st' = ev.tally st ∧
        t.fs.ioFailStreak = ev.streak w.fs.ioFailStreak ∧ ev.stops w.fs.ioFailStreak = false)
      (fun _ t => Between [] ev.blocks w t ∧
        (ev.stops w.fs.ioFailStreak ∨ w.setting.Unmarkable ev.blocks)) := by
  cases ev with
  | enter isDir first count | run first count =>
    rw [checkEvent, run_bind]
    refine (bmSetRange_between hw hplan hin).mono ?_ ?_
    · intro _ t ht
      exact ⟨ht.1, rfl, ht.2, rfl⟩
    · intro _ t ht
      exact ⟨ht.1, .inr ht.2⟩
  | look dirBlock lba => exact ⟨.of_same rfl rfl rfl rfl, rfl, rfl, rfl⟩
  | lost | close ok => exact ⟨.refl w, rfl, rfl, rfl⟩
  | probe ok =>
    rw [checkEvent, run_bind, run_scan, run_bind]
    have hticked : Between [] [] w w.ticked := .of_same rfl rfl rfl rfl
    refine (run_noteWalkRead ok).mono ?_ ?_
    · intro _ t ht
      exact ⟨hticked.trans ht.1, rfl, ht.2.1, ht.2.2⟩
    · intro _ t ht
      exact ⟨hticked.trans ht.1, .inl ht.2⟩
  | tooDeep => exact ⟨.refl w, .inl rfl⟩

/-- **The walk of `check`**: it comes to its end, or it is given up at the first event
that stops it, or a bitmap block cannot be read. -/
theorem run_checkEvents {evs : List Event} (hw : w.fs.txnActive = false) (hplan : w.setting.Plan)
    (hin : ∀ b ∈ marks evs, b < w.fs.totalBlocks) : Run (foldEach evs st checkEvent) w
      (fun st' t => Between (marks evs) (marks evs) w t ∧ st' = evs.foldl (fun st ev => ev.tally st) st ∧
        abandoned w.fs.ioFailStreak evs = [])
      (fun _ t => ∃ before ev after, evs = before ++ ev :: after ∧
        Between (marks before) (marks (before ++ [ev])) w t ∧
        (abandoned w.fs.ioFailStreak evs = ev :: after ∨ w.setting.Unmarkable ev.blocks)) := by
  induction evs generalizing w st with
  | nil => exact ⟨.refl w, rfl, rfl⟩
  | cons ev evs ih =>
    rw [foldEach, run_bind]
    refine (run_checkEvent hw hplan fun b hb => hin b (mem_append_left _ hb)).mono ?_ ?_
    · rintro st' t ⟨hbetween, hst, hstreak, hgo⟩
      have hset := hbetween.setting
      have habandoned : abandoned w.fs.ioFailStreak (ev :: evs) = abandoned t.fs.ioFailStreak evs := by
        rw [abandoned, if_neg (by rw [hgo]; exact Bool.false_ne_true), hstreak]
      refine (ih (hbetween.closed hw) (by rwa [hset]) fun b hb => ?_).mono ?_ ?_
      · rw [show t.fs.totalBlocks = w.fs.totalBlocks from congrArg totalBlocks hset]
        exact hin b (mem_append_right _ hb)
      · intro st'' u hu
        refine ⟨hbetween.trans hu.1, ?_, habandoned.trans hu.2.2⟩
        rw [hu.2.1, hst]
        rfl
      · rintro _ u ⟨before, ev', after, hevs, hu, hwhy⟩
        refine ⟨ev :: before, ev', after, by rw [hevs]; rfl, hbetween.trans hu, ?_⟩
        rw [habandoned, ← hset]
        exact hwhy
    · rintro _ t ⟨hbetween, hwhy⟩
      refine ⟨[], ev, evs, rfl, ?_, hwhy.imp_left fun hstop => ?_⟩
      · rw [nil_append, show marks [ev] = ev.blocks from flatMap_singleton ..]
        exact hbetween
      · rw [abandoned, if_pos hstop]

end Walk

variable {b : Nat} {q : List Nat} {r : Rec}

section Sighted

variable {w : World}

variable (hw : w.fs.txnActive = false)
include hw

lemma sight_eq_disk {lba : Nat} (h : w.sight lba ≠ 0) : w.sight lba = w.disk lba := by
  rw [Sees.sight_eq hw] at h ⊢
  by_cases hfault : w.setting.fault w.tick lba
  · rw [if_pos hfault] at h
    exact absurd rfl h
  · rw [if_neg hfault]

lemma sight_of_clear (hclear : ∀ t lba, w.fault t lba = false) : w.sight = w.disk := by
  funext lba
  rw [Sees.sight_eq hw]
  exact if_neg (by rw [show w.setting.fault w.tick lba = false from hclear _ _]; exact Bool.false_ne_true)

lemma kid_of_sight {r x : Rec} {i : Nat} (h : kid w.sight r i = some x) :
    kid w.disk r i = some x := by
  obtain ⟨hdir, hlt, hcrc, hfree, hx⟩ := kid_eq_some.mp h
  have hsame : w.sight (r.first + i / recsPerBlock) = w.disk (r.first + i / recsPerBlock) := by
    refine sight_eq_disk hw fun hzero => ?_
    rw [hzero, dirCrcOk_zero] at hcrc
    cases hcrc
  rw [hsame] at hcrc hfree hx
  exact kid_eq_some.mpr ⟨hdir, hlt, hcrc, hfree, hx⟩

/-- A record that is reached through blocks that can be read is in the tree. -/
lemma recAt_of_sight {r x : Rec} (h : recAt w.sight r q = some x) : recAt w.disk r q = some x := by
  induction q generalizing r with
  | nil =>
    rw [recAt, descend_nil] at h ⊢
    exact h
  | cons i q ih =>
    rw [recAt, descend_cons] at h ⊢
    obtain ⟨y, hy, h⟩ := Option.bind_eq_some_iff.mp h
    rw [kid_of_sight hw hy]
    exact ih h

lemma mem_own_of_sight (h : b ∈ own w.sight r) : b ∈ own w.disk r := by
  rcases mem_append.mp h with h | h
  · exact mem_append_left _ h
  refine mem_append_right _ ?_
  by_cases hfrag : r.itype = itypeFileFrag
  · rw [if_pos hfrag] at h ⊢
    unfold extOf at h ⊢
    by_cases hcrc : extCrcOk (w.sight r.first)
    · have hsame : w.sight r.first = w.disk r.first := by
        refine sight_eq_disk hw fun hzero => ?_
        rw [hzero, extCrcOk_zero] at hcrc
        cases hcrc
      rwa [hsame] at h
    · rw [if_neg hcrc] at h
      cases h
  · rw [if_neg hfrag] at h
    cases h

lemma apart_sight (h : Apart (kid w.disk) (own w.disk) r) :
    Apart (kid w.sight) (own w.sight) r := by
  constructor
  · intro q x hx
    have hnodup := h.nodup q x (recAt_of_sight hw hx)
    by_cases hsame : own w.sight x = own w.disk x
    · rwa [hsame]
    -- the extent block is not read: what is left is the extent
    have hext : own w.sight x = extent x.first x.count := by
      unfold own at hsame ⊢
      by_cases hfrag : x.itype = itypeFileFrag
      · rw [if_pos hfrag] at hsame ⊢
        rw [if_pos hfrag] at hsame
        unfold extOf at hsame ⊢
        by_cases hzero : w.sight x.first = 0
        · rw [hzero, extCrcOk_zero]
          exact append_nil _
        · rw [sight_eq_disk hw hzero] at hsame
          exact absurd rfl hsame
      · rw [if_neg hfrag, append_nil]
    rw [hext]
    exact (nodup_append.mp hnodup).1
  · intro q q' x x' b hx hx' hb hb'
    exact h.apart q q' x x' b (recAt_of_sight hw hx) (recAt_of_sight hw hx') (mem_own_of_sight hw hb)
      (mem_own_of_sight hw hb')

end Sighted

section Check

variable {w : World} {lba : Nat}

/-- The volume with its bitmap cleared. -/
def World.cleared (w : World) : World := w.blockWrites
  ((List.range' w.fs.bitmapStart (w.fs.journalStart - w.fs.bitmapStart)).map fun lba => (lba, 0))

lemma applyWrites_zeros (disk : Nat → Block) (lbas : List Nat) (lba : Nat) :
    applyWrites disk (lbas.map fun lba => (lba, 0)) lba = if lba ∈ lbas then 0 else disk lba := by
  induction lbas generalizing disk with
  | nil => rfl
  | cons l lbas ih =>
    have hcons : applyWrites disk ((l :: lbas).map fun lba => (lba, 0)) =
        applyWrites (update disk l 0) (lbas.map fun lba => (lba, 0)) := rfl
    rw [hcons, ih]
    by_cases hmem : lba ∈ lbas
    · rw [if_pos hmem, if_pos (mem_cons_of_mem _ hmem)]
    rw [if_neg hmem]
    by_cases hl : lba = l
    · subst hl
      rw [update_self, if_pos mem_cons_self]
    · rw [update_of_ne hl, if_neg fun h => (mem_cons.mp h).elim hl hmem]

lemma mem_cleared :
    lba ∈ List.range' w.fs.bitmapStart (w.fs.journalStart - w.fs.bitmapStart) ↔ w.setting.InBitmap lba := by
  change _ ↔ w.fs.bitmapStart ≤ lba ∧ lba < w.fs.journalStart
  rw [mem_range'_1]
  omega

lemma disk_cleared_bitmap (h : w.setting.InBitmap lba) : w.cleared.disk lba = 0 :=
  (applyWrites_zeros _ _ _).trans (if_pos (mem_cleared.mpr h))

lemma disk_cleared_other (h : ¬ w.setting.InBitmap lba) : w.cleared.disk lba = w.disk lba :=
  (applyWrites_zeros _ _ _).trans (if_neg fun hmem => h (mem_cleared.mp hmem))

lemma bitAt_cleared (hw : w.fs.txnActive = false)
    (hb : w.setting.InBitmap (w.fs.bitmapStart + b / bitsPerBmblock)) : w.cleared.bitAt b = false := by
  have hread : w.cleared.read = w.cleared.disk := read_of_closed hw
  have hzero : w.cleared.disk (w.cleared.fs.bitmapStart + b / bitsPerBmblock) = 0 := disk_cleared_bitmap hb
  unfold bitAt
  rw [hread, hzero]
  exact BitVec.getLsbD_zero

/-- What `check` goes through: the system blocks, the backup and the tree. -/
def World.checkList (w : World) : List Event :=
  .run 0 w.fs.dataStart :: .run (w.fs.totalBlocks - 1) 1 ::
    survey w.sight (maxTreeDepth + 1) w.fs.rootRec.node

/-- What `check` does after the walk. -/
def finishCheck (storedBefore : Nat) (st : Tally) : FsM CheckReport := do
  modify <| onFs fun fs => { fs with freeBlocks := fs.totalBlocks - st.blocks }
  persistSuper
  pure ⟨st, storedBefore⟩

/-- A mounted volume with a tree: its regions lie as they should, the tree has no cycle
and the extents of its records are disjoint and in range.  What can be read depends on
the block. -/
structure Mounted (w : World) : Prop where
  closed : w.fs.txnActive = false
  plan : w.setting.Plan
  steady : ∀ t t' lba, w.fault t lba = w.fault t' lba
  apart : Apart (kid w.disk) (own w.disk) w.fs.rootRec
  inData : ∀ b, Holds w.disk w.fs.rootRec b → w.setting.InData b
  extHeld : ∀ q r, recAt w.disk w.fs.rootRec q = some r → ExtHeld r

namespace Mounted

variable (h : Mounted w)
include h

lemma own_inData (hr : recAt w.sight w.fs.rootRec q = some r) (hb : b ∈ own w.disk r) : w.setting.InData b :=
  h.inData b ⟨q, r, recAt_of_sight h.closed hr, hb⟩

lemma survey_inData : ∀ ev ∈ survey w.sight (maxTreeDepth + 1) w.fs.rootRec.node,
    ev.InData w.setting := by
  intro ev hev b hb
  obtain ⟨q, r, hr, ⟨-, hmeets⟩ | ⟨-, rfl⟩⟩ := mem_survey hev
  · have hown : ∀ b ∈ own w.disk r, w.setting.InData b := fun b hb => h.own_inData hr hb
    have hextent : ∀ b ∈ extent r.first r.count, w.setting.InData b := fun b hb =>
      hown b (mem_own_of_extent hb)
    rcases hmeets with rfl | ⟨-, b', hb', rfl | ⟨-, rfl⟩⟩ | ⟨hfrag, hmeets⟩ | ⟨-, -, ⟨b', -, rfl⟩ | rfl⟩
    · exact hextent b hb
    · obtain rfl := mem_singleton.mp hb
      exact hextent b hb'
    · cases hb
    · rcases hmeets with rfl | ⟨-, rfl⟩ | ⟨runs, hruns, ⟨run, hrun, rfl⟩ | ⟨b', -, rfl⟩ | rfl⟩
      · obtain rfl := mem_singleton.mp hb
        have hpos := h.extHeld q r (recAt_of_sight h.closed hr) hfrag
        exact hextent _ (mem_extent.mpr ⟨le_refl _, by omega⟩)
      · cases hb
      · refine hown b (mem_own_of_sight h.closed (mem_append_right _ ?_))
        rw [if_pos hfrag, hruns]
        exact mem_flatMap.mpr ⟨run, hrun, hb⟩
      · cases hb
      · cases hb
    · cases hb
    · cases hb
  · cases hb

lemma sees_cleared : Sees w.sight w.setting w.cleared := by
  refine ⟨rfl, h.plan, h.closed, h.steady, fun lba hlba => ?_⟩
  have hclosed : w.cleared.setting.txnActive = false := h.closed
  rw [Sees.sight_eq hclosed, Sees.sight_eq h.closed, disk_cleared_other hlba]
  rfl

lemma system_lt (hb : b ∈ extent 0 w.fs.dataStart) : b < w.fs.totalBlocks := by
  have hdata := h.plan.data
  have hset := w.setting_ends
  obtain ⟨-, hb⟩ := mem_extent.mp hb
  omega

lemma backup_lt (hb : b ∈ extent (w.fs.totalBlocks - 1) 1) : b < w.fs.totalBlocks := by
  have hdata := h.plan.data
  have hset : w.setting.totalBlocks = w.fs.totalBlocks := rfl
  obtain ⟨-, hb⟩ := mem_extent.mp hb
  omega

lemma checkList_lt : ∀ b ∈ marks w.checkList, b < w.fs.totalBlocks := by
  intro b hb
  obtain ⟨ev, hev, hb⟩ := mem_flatMap.mp hb
  rcases mem_cons.mp hev with rfl | hev
  · exact h.system_lt hb
  rcases mem_cons.mp hev with rfl | hev
  · exact h.backup_lt hb
  have hin := h.survey_inData ev hev b
  cases ev with
  | enter isDir first count | run first count => exact (hin hb).lt
  | look dirBlock lba | lost | probe ok | close ok | tooDeep => cases hb

/-- **`check` goes through its list and writes the count.** -/
theorem check_eq : check w =
    (foldEach w.checkList ⟨0, 0, 0, 0⟩ checkEvent >>= finishCheck w.fs.freeBlocks) w.cleared := by
  have hstart : check w = (bmSetRange 0 w.fs.dataStart true >>= fun _ =>
      bmSetRange (w.fs.totalBlocks - 1) 1 true >>= fun _ =>
      checkSubtree (maxTreeDepth + 1) w.fs.rootRec.node ⟨0, 0, 0, w.fs.dataStart + 1⟩ >>=
      finishCheck w.fs.freeBlocks) w.cleared := rfl
  rw [hstart, checkList, foldEach, checkEvent, bind_assoc_apply, bind_assoc_apply]
  refine bind_congr_apply rfl fun _ t ht => ?_
  have ht' : Sees w.sight w.setting t :=
    (h.sees_cleared.bmSetRange fun b hb => h.system_lt hb).of_ok ht
  rw [pure_bind_apply, foldEach, checkEvent, bind_assoc_apply, bind_assoc_apply]
  refine bind_congr_apply rfl fun _ u hu => ?_
  have hu' : Sees w.sight w.setting u := (ht'.bmSetRange fun b hb => h.backup_lt hb).of_ok hu
  rw [pure_bind_apply]
  refine bind_congr_apply ?_ fun _ _ _ => rfl
  rw [checkSubtree_eq hu' h.survey_inData]
  congr 1
  simp only [Tally.add, zero_add]

end Mounted

section Listing

instance (g : Setting) : Decidable g.Plan :=
  decidable_of_iff (1 ≤ g.bitmapStart ∧ g.bitmapStart + bitmapBlocks g.totalBlocks ≤ g.journalStart ∧
      g.journalStart + 1 + txnCap ≤ g.dataStart ∧ g.dataStart + 2 ≤ g.totalBlocks ∧ g.totalBlocks < 2 ^ 64)
    ⟨fun h => ⟨h.1, h.2.1, h.2.2.1, h.2.2.2.1, h.2.2.2.2⟩, fun h => ⟨h.super, h.bitmap, h.journal, h.data, h.word⟩⟩

instance (g : Setting) (b : Nat) : Decidable (g.InData b) :=
  inferInstanceAs (Decidable (g.dataStart ≤ b ∧ b < g.totalBlocks - 1))

instance (r : Rec) : Decidable (ExtHeld r) :=
  inferInstanceAs (Decidable (r.itype = itypeFileFrag → 0 < r.count))

/-- The records of the volume, down to `n` levels and one more. -/
def World.listing (w : World) (n : Nat) : List (List Nat × Rec) := records w.disk (n + 1) w.fs.rootRec

variable {n : Nat} {l : List (List Nat × Rec)}

/-- A property of all records is one of the listed records, if the list is complete. -/
lemma forall_of_listing (hl : w.listing n = l) (hdeep : ∀ e ∈ l, e.1.length < n) {P : List Nat → Rec → Prop}
    (hall : ∀ e ∈ l, P e.1 e.2) (q : List Nat) (r : Rec) (hr : recAt w.disk w.fs.rootRec q = some r) : P q r := by
  subst hl
  have hlen : q.length < n := length_lt_of_preorder (scans_kids w.disk) hdeep hr
  exact hall (q, r) (mem_records.mpr ⟨by omega, hr⟩)

/-- What a list of the records shows about a volume: what can be told from one of them, and
that no block is held twice. -/
lemma mounted_of_listing (hl : w.listing n = l) (hsteady : ∀ t t' lba, w.fault t lba = w.fault t' lba)
    (h : w.fs.txnActive = false ∧ w.setting.Plan ∧
      (∀ e ∈ l, e.1.length < n ∧ ExtHeld e.2 ∧ ∀ b ∈ own w.disk e.2, w.setting.InData b) ∧
      (l.flatMap fun e => own w.disk e.2).Nodup) : Mounted w := by
  subst hl
  obtain ⟨hclosed, hplan, hrecs, hnodup⟩ := h
  have hdeep : ∀ e ∈ w.listing n, e.1.length < n := fun e he => (hrecs e he).1
  have hlen : ∀ q r, recAt w.disk w.fs.rootRec q = some r → q.length < n + 1 := fun q r hr =>
    Nat.lt_succ_of_lt (length_lt_of_preorder (scans_kids w.disk) hdeep hr)
  refine ⟨hclosed, hplan, hsteady, apart_of_nodup (scans_kids w.disk) hlen hnodup, ?_, ?_⟩
  · intro b ⟨q, r, hr, hb⟩
    exact forall_of_listing rfl hdeep (P := fun _ r => ∀ b ∈ own w.disk r, w.setting.InData b)
      (fun e he => (hrecs e he).2.2) q r hr b hb
  · exact forall_of_listing rfl hdeep fun e he => (hrecs e he).2.1

end Listing

section

variable (hw : w.fs.txnActive = false)
include hw

lemma hasRoom_of_closed (lba : Nat) : w.hasRoom lba := by
  unfold hasRoom
  rw [hw]
  rfl

lemma disk_superWritten (lba : Nat) : w.superWritten.disk lba =
    if lba = 0 ∨ lba = w.fs.totalBlocks - 1 then w.nextSuper else w.disk lba := by
  have hone : (w.ticked.wrote 0 w.nextSuper).fs.txnActive = false :=
    (congrArg txnActive setting_wrote).trans hw
  change ((w.ticked.wrote 0 w.nextSuper).wrote (w.fs.totalBlocks - 1) w.nextSuper).disk lba = _
  rw [(disk_wrote_closed hone).1, (disk_wrote_closed (w := w.ticked) hw).1]
  by_cases hlast : lba = w.fs.totalBlocks - 1
  · rw [hlast, update_self, if_pos (.inr rfl)]
  rw [update_of_ne hlast]
  by_cases hzero : lba = 0
  · rw [hzero, update_self, if_pos (.inl rfl)]
  · rw [update_of_ne hzero, if_neg (by tauto)]
    rfl

lemma fs_superWritten : w.superWritten.fs =
    { w.fs with walkCache := none, sbPersisted := some w.fs.sbFields } := by
  unfold superWritten onFs
  simp only [fs_wrote, fs_ticked, hw]
  rfl

end

lemma setting_superWritten : w.superWritten.setting = w.setting := by
  change ((w.ticked.wrote 0 w.nextSuper).wrote (w.fs.totalBlocks - 1) w.nextSuper).setting = _
  rw [setting_wrote, setting_wrote]
  rfl

/-- Without a transaction the superblocks are written, unless the first cannot be read. -/
lemma run_persistSuper_closed {Q : Unit → World → Prop} {E : Refusal → World → Prop}
    (hw : w.fs.txnActive = false) (hskip : w.fs.sbPersisted = some w.fs.sbFields → Q () w)
    (hok : w.fs.sbPersisted ≠ some w.fs.sbFields → w.faulty 0 = false → Q () w.superWritten)
    (hfault : w.faulty 0 → E .superblockReadFailed w.ticked) : Run persistSuper w Q E := by
  have hone : (w.ticked.wrote 0 w.nextSuper).fs.txnActive = false :=
    (congrArg txnActive setting_wrote).trans hw
  refine run_persistSuper hskip (fun hnew hread _ _ => hok hnew hread) hfault (fun hfull => ?_) fun hfull => ?_
  · rw [hasRoom_of_closed (w := w.ticked) hw] at hfull
    cases hfull
  · rw [hasRoom_of_closed hone] at hfull
    cases hfull

lemma bitAt_superWritten (hw : w.fs.txnActive = false) (hplan : w.setting.Plan)
    (hblock : w.setting.InBitmap (w.fs.bitmapStart + b / bitsPerBmblock)) :
    w.superWritten.bitAt b = w.bitAt b := by
  have hclosed : w.superWritten.fs.txnActive = false :=
    (congrArg txnActive setting_superWritten).trans hw
  refine bitAt_congr setting_superWritten ?_
  rw [read_of_closed hclosed, read_of_closed hw, disk_superWritten hw, if_neg]
  intro h
  rcases h with h | h
  · exact hplan.not_bitmap_zero (h ▸ hblock)
  · exact hplan.not_bitmap_backup (h ▸ hblock)

end Check

end Godspeed.Gsfs
