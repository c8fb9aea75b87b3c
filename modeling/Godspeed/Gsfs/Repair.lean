import Mathlib.Data.Set.Card
import Godspeed.Gsfs.Mount
import Godspeed.Gsfs.Rebuild
import Godspeed.Gsfs.Writing

/-!
# `check` as a repair

On a volume whose blocks can all be read and verified, `check` marks exactly what the
system and the tree hold, counts the records and writes the count of the clear bits to
both superblocks (`check_rebuilds`).  It does so once more with the same result, and
`scrub` counts the same.

The superblocks are not written if the fields to write are those that were persisted last
as far as the mount remembers.  A transaction that was given up leaves fields there that
were never written (`Fresh` excludes them).  The counts of records are 32 bits wide.
-/

namespace Godspeed.Gsfs

open Word Prog Holdings List World Setting Tally

/-- The block belongs to a record that is reached through directory blocks that can be
read. -/
def World.Live (w : World) (b : Nat) : Prop :=
  ∃ q r, recAt w.sight w.fs.rootRec q = some r ∧ b ∈ own w.disk r

lemma marks_cons {ev : Event} {evs : List Event} : marks (ev :: evs) = ev.blocks ++ marks evs := rfl

namespace Mounted

variable {w : World} {b : Nat}

lemma live_of_mem_survey (h : Mounted w)
    (hb : b ∈ marks (survey w.sight (maxTreeDepth + 1) w.fs.rootRec.node)) : w.Live b := by
  obtain ⟨q, r, -, hr, hb⟩ := mem_marks_survey.mp hb
  exact ⟨q, r, hr, mem_own_of_sight h.closed hb⟩

lemma live_inData (h : Mounted w) (hb : w.Live b) : w.setting.InData b := by
  obtain ⟨q, r, hr, hb⟩ := hb
  exact h.own_inData hr hb

lemma mem_marks_checkList : b ∈ marks w.checkList ↔ b ∈ extent 0 w.fs.dataStart ∨
    b ∈ extent (w.fs.totalBlocks - 1) 1 ∨
    b ∈ marks (survey w.sight (maxTreeDepth + 1) w.fs.rootRec.node) := by
  rw [World.checkList, marks_cons, marks_cons, mem_append, mem_append]
  rfl

lemma not_system (hb : w.setting.InData b) :
    b ∉ extent 0 w.fs.dataStart ∧ b ∉ extent (w.fs.totalBlocks - 1) 1 := by
  have hset := w.setting_ends
  unfold Setting.InData at hb
  rw [mem_extent, mem_extent]
  omega

section

variable (h : Mounted w)
include h

lemma nodup_checkList : (marks w.checkList).Nodup := by
  have hsurvey := nodup_marks_survey (apart_sight h.closed h.apart) (maxTreeDepth + 1)
  have hdata := h.plan.data
  have hset := w.setting_ends
  rw [World.checkList]
  refine Nodup.append nodup_range' (Nodup.append nodup_range' hsurvey ?_) ?_
  · intro b hb hb'
    exact (not_system (h.live_inData (h.live_of_mem_survey hb'))).2 hb
  intro b hb hb'
  rcases mem_append.mp hb' with hb' | hb'
  · have hb := mem_extent.mp hb
    have hb' := mem_extent.mp hb'
    omega
  · exact (not_system (h.live_inData (h.live_of_mem_survey hb'))).1 hb

end

end Mounted

/-- A mounted volume all of whose blocks can be read and verified. -/
structure CheckReady (w : World) : Prop extends Mounted w where
  clear : ∀ t lba, w.fault t lba = false
  shallow : ∀ q r, recAt w.disk w.fs.rootRec q = some r → q.length ≤ maxTreeDepth
  dirs : ∀ q r, recAt w.disk w.fs.rootRec q = some r → r.itype = itypeDir →
    ∀ b ∈ extent r.first r.count, dirCrcOk (w.disk b) = true
  exts : ∀ q r, recAt w.disk w.fs.rootRec q = some r → r.itype = itypeFileFrag →
    extCrcOk (w.disk r.first) = true
  data : ∀ q r, recAt w.disk w.fs.rootRec q = some r → r.itype ≠ itypeDir →
    ∀ b ∈ own w.disk r, r.itype = itypeFileFrag ∧ b ∈ extent r.first r.count ∨ dataCrcOk (w.disk b) = true
  fits : w.fs.sbFields.Fits

def Event.Fine : Event → Prop
  | .lost => False
  | .probe ok => ok = true
  | .close ok => ok = true
  | .tooDeep => False
  | _ => True

lemma stops_of_fine {ev : Event} (h : ev.Fine) (n : Nat) : ev.stops n = false := by
  cases ev with
  | enter isDir first count | look dirBlock lba | lost | run first count | close ok => rfl
  | probe ok =>
    cases ok with
    | true => rfl
    | false => cases h
  | tooDeep => cases h

lemma abandoned_of_fine {evs : List Event} (h : ∀ ev ∈ evs, ev.Fine) (n : Nat) : abandoned n evs = [] := by
  induction evs generalizing n with
  | nil => rfl
  | cons ev evs ih =>
    rw [abandoned, stops_of_fine (h ev mem_cons_self)]
    exact ih (fun ev' hev' => h ev' (mem_cons_of_mem _ hev')) _

namespace CheckReady

variable {w : World} {q : List Nat} {r : Rec} {b : Nat}

variable (h : CheckReady w)
include h

lemma sight_eq : w.sight = w.disk := sight_of_clear h.closed h.clear

section

variable (hr : recAt w.disk w.fs.rootRec q = some r)
include hr

lemma intact_data (hdir : r.itype ≠ itypeDir) (hb : b ∈ own w.disk r)
    (hdata : r.itype = itypeFileFrag → b ∉ extent r.first r.count) : intact w.disk b := by
  have hcrc := (h.data q r hr hdir b hb).resolve_left fun hbad => hdata hbad.1 hbad.2
  unfold intact dataRead
  rw [if_pos hcrc]
  rfl

lemma intact_run (hfrag : r.itype = itypeFileFrag) {runs : List (Nat × Nat)}
    (hruns : extOf w.disk r.first = some runs) (hb : b ∈ runBlocks runs) :
    intact w.disk b := by
  have hown : own w.disk r = extent r.first r.count ++ runBlocks runs := by
    unfold own
    rw [if_pos hfrag, hruns]
    rfl
  have hnodup := h.apart.nodup q r hr
  refine h.intact_data hr (fun hdir => absurd (hfrag.symm.trans hdir) (by decide)) ?_ fun _ hmem => ?_
  · rw [hown]
    exact mem_append_right _ hb
  · rw [hown] at hnodup
    exact (nodup_append.mp hnodup).2.2 b hmem b hb rfl

lemma intact_extent
    (hdir : r.itype ≠ itypeDir) (hfrag : r.itype ≠ itypeFileFrag) (hb : b ∈ extent r.first r.count) :
    intact w.disk b :=
  h.intact_data hr hdir (mem_own_of_extent hb) fun hf => absurd hf hfrag

end

lemma survey_fine : ∀ ev ∈ survey w.disk (maxTreeDepth + 1) w.fs.rootRec.node, ev.Fine := by
  intro ev hev
  obtain ⟨q, r, hr, ⟨-, hmeets⟩ | ⟨hlen, -⟩⟩ := mem_survey hev
  · rcases hmeets with rfl | ⟨hdir, b, hb, rfl | ⟨hread, -⟩⟩ | ⟨hfrag, hmeets⟩ | ⟨hdir, hfrag, hmeets⟩
    · trivial
    · trivial
    · unfold tdRead at hread
      rw [if_pos (h.dirs q r hr hdir b hb)] at hread
      cases hread
    · rcases hmeets with rfl | ⟨hext, -⟩ | ⟨runs, hruns, ⟨run, -, rfl⟩ | ⟨b, hb, rfl⟩ | rfl⟩
      · trivial
      · unfold extOf at hext
        rw [if_pos (h.exts q r hr hfrag)] at hext
        cases hext
      · trivial
      · exact h.intact_run hr hfrag hruns hb
      · exact all_eq_true.mpr fun b hb => h.intact_run hr hfrag hruns hb
    · rcases hmeets with ⟨b, hb, rfl⟩ | rfl
      · exact h.intact_extent hr hdir hfrag hb
      · exact all_eq_true.mpr fun b hb => h.intact_extent hr hdir hfrag hb
  · have hshallow := h.shallow q r hr
    omega

lemma checkList_fine : ∀ ev ∈ w.checkList, ev.Fine := by
  intro ev hev
  rcases mem_cons.mp hev with rfl | hev
  · trivial
  rcases mem_cons.mp hev with rfl | hev
  · trivial
  rw [h.sight_eq] at hev
  exact h.survey_fine ev hev

end CheckReady

section Counts

def filesMet : Event → List Unit
  | .enter false _ _ => [()]
  | _ => []

def dirsMet : Event → List Unit
  | .enter true _ _ => [()]
  | _ => []

def tallyOf (evs : List Event) (st : Tally) : Tally := evs.foldl (fun st ev => ev.tally st) st

variable {evs : List Event} {st : Tally}

lemma files_tally (h : st.files < 2 ^ 32) (ev : Event) :
    (ev.tally st).files = (st.files + (filesMet ev).length) % 2 ^ 32 := by
  have hsame : st.files = (st.files + 0) % 2 ^ 32 := (Nat.mod_eq_of_lt h).symm
  cases ev with
  | enter isDir first count =>
    cases isDir with
    | true => exact hsame
    | false => rfl
  | look dirBlock lba | lost | run first count | probe ok | tooDeep => exact hsame
  | close ok => cases ok <;> exact hsame

lemma dirs_tally (h : st.dirs < 2 ^ 32) (ev : Event) :
    (ev.tally st).dirs = (st.dirs + (dirsMet ev).length) % 2 ^ 32 := by
  have hsame : st.dirs = (st.dirs + 0) % 2 ^ 32 := (Nat.mod_eq_of_lt h).symm
  cases ev with
  | enter isDir first count =>
    cases isDir with
    | true => rfl
    | false => exact hsame
  | look dirBlock lba | lost | run first count | probe ok | tooDeep => exact hsame
  | close ok => cases ok <;> exact hsame

lemma blocks_tally (ev : Event) : (ev.tally st).blocks = st.blocks + ev.blocks.length := by
  cases ev with
  | enter isDir first count =>
    rw [Event.blocks, extent, length_range']
    cases isDir <;> rfl
  | look dirBlock lba | lost | probe ok | tooDeep => rfl
  | run first count =>
    rw [Event.blocks, extent, length_range']
    rfl
  | close ok => cases ok <;> rfl

lemma bad_tally {ev : Event} (h : ev.Fine) : (ev.tally st).bad = st.bad := by
  cases ev with
  | enter isDir first count => cases isDir <;> rfl
  | look dirBlock lba | run first count | probe ok => rfl
  | lost | tooDeep => cases h
  | close ok =>
    cases ok with
    | true => rfl
    | false => cases h

lemma count_tallyOf (count : Tally → Nat) (met : Event → List Unit)
    (hstep : ∀ {st}, count st < 2 ^ 32 → ∀ ev, count (Event.tally ev st) = (count st + (met ev).length) % 2 ^ 32)
    (h : count st < 2 ^ 32) : count (tallyOf evs st) = (count st + (evs.flatMap met).length) % 2 ^ 32 := by
  induction evs generalizing st with
  | nil => exact (Nat.mod_eq_of_lt h).symm
  | cons ev evs ih =>
    have hone := hstep h ev
    have hlt : count (ev.tally st) < 2 ^ 32 := by
      rw [hone]
      exact Nat.mod_lt _ (by decide)
    refine (ih hlt).trans ?_
    rw [hone, Nat.mod_add_mod, flatMap_cons, length_append, add_assoc]

lemma blocks_tallyOf : (tallyOf evs st).blocks = st.blocks + (marks evs).length := by
  induction evs generalizing st with
  | nil => rfl
  | cons ev evs ih =>
    refine ih.trans ?_
    rw [blocks_tally, marks_cons, length_append, add_assoc]

lemma bad_tallyOf (h : ∀ ev ∈ evs, ev.Fine) : (tallyOf evs st).bad = st.bad := by
  induction evs generalizing st with
  | nil => rfl
  | cons ev evs ih =>
    refine (ih fun ev' hev' => h ev' (mem_cons_of_mem _ hev')).trans ?_
    exact bad_tally (h ev mem_cons_self)

end Counts

variable (w : World) {b : Nat}

section Places

/-- The places of the records of some kind. -/
def World.places (P : Rec → Prop) : Set (List Nat) :=
  {q | ∃ r, recAt w.disk w.fs.rootRec q = some r ∧ P r}

/-- The number of files. -/
noncomputable def World.fileCount : Nat := (w.places fun r => r.itype ≠ itypeDir).ncard

/-- The number of directories, the root included. -/
noncomputable def World.dirCount : Nat := (w.places fun r => r.itype = itypeDir).ncard

/-- The number of blocks that the system, the backup and the tree leave. -/
noncomputable def World.freeCount : Nat :=
  w.fs.totalBlocks - (w.fs.dataStart + 1 + {b | Holds w.disk w.fs.rootRec b}.ncard)

lemma ncard_of_nodup {α : Type} [DecidableEq α] {l : List α} {s : Set α} (hnodup : l.Nodup)
    (hmem : ∀ a, a ∈ s ↔ a ∈ l) : s.ncard = l.length := by
  have hs : s = ↑l.toFinset := by
    ext a
    rw [hmem, coe_toFinset]
    rfl
  rw [hs, Set.ncard_coe_finset, toFinset_card_of_nodup hnodup]

variable {w : World}

lemma length_flatMap_kind {l : List (List Nat × Rec)} (P : Rec → Prop) [DecidablePred P] :
    (l.flatMap fun e => if P e.2 then [()] else []).length = (l.filter fun e => P e.2).length := by
  induction l with
  | nil => rfl
  | cons e l ih =>
    rw [flatMap_cons, length_append, ih, filter_cons]
    by_cases h : P e.2
    · rw [if_pos h, if_pos (decide_eq_true h), length_singleton, length_cons, add_comm]
    · rw [if_neg h, if_neg (by simpa using h), length_nil, zero_add]

section

variable (hshallow : ∀ q r, recAt w.disk w.fs.rootRec q = some r → q.length ≤ maxTreeDepth)
include hshallow

lemma ncard_places (P : Rec → Prop) [DecidablePred P] : (w.places P).ncard =
      ((records w.disk (maxTreeDepth + 1) w.fs.rootRec).flatMap fun e => if P e.2 then [()] else []).length := by
  have hnodup : ((records w.disk (maxTreeDepth + 1) w.fs.rootRec).map Prod.fst).Nodup :=
    nodup_preorder nodup_kidIndices _ _
  rw [length_flatMap_kind, ← length_map]
  refine ncard_of_nodup ?_ fun q => ?_
  · exact hnodup.sublist (filter_sublist.map _)
  simp only [mem_map, mem_filter, decide_eq_true_eq, Prod.exists, exists_and_right, exists_eq_right]
  refine exists_congr fun r => and_congr_left fun _ => ?_
  rw [mem_records]
  constructor
  · intro hr
    exact ⟨Nat.lt_succ_of_le (hshallow q r hr), hr⟩
  · intro h
    exact h.2

lemma mem_marks_iff_holds : b ∈ marks (survey w.disk (maxTreeDepth + 1) w.fs.rootRec.node) ↔
      Holds w.disk w.fs.rootRec b := by
  rw [mem_marks_survey]
  constructor
  · intro ⟨q, r, _, hr, hb⟩
    exact ⟨q, r, hr, hb⟩
  · intro ⟨q, r, hr, hb⟩
    exact ⟨q, r, Nat.lt_succ_of_le (hshallow q r hr), hr, hb⟩

end

end Places

namespace CheckReady

variable {w : World}

section

variable (h : CheckReady w)
include h

lemma length_met (met : Event → List Unit) (P : Rec → Prop) [DecidablePred P]
    (hlook : ∀ dirBlock lba, met (.look dirBlock lba) = []) (hlost : met .lost = [])
    (hprobe : ∀ ok, met (.probe ok) = []) (hclose : ∀ ok, met (.close ok) = []) (hdeep : met .tooDeep = [])
    (hrun : ∀ first count, met (.run first count) = [])
    (henter : ∀ r : Rec, met (.enter (r.itype = itypeDir) r.first r.count) = if P r then [()] else []) :
    (w.checkList.flatMap met).length = (w.places P).ncard := by
  have hcontribution : ∀ r : Rec, r.contribution w.disk met = if P r then [()] else [] := by
    intro r
    unfold Rec.contribution
    rw [henter]
    by_cases hfrag : r.itype = itypeFileFrag
    · rw [if_pos hfrag, flatMap_eq_nil_iff.mpr fun run _ => hrun _ _, append_nil]
    · rw [if_neg hfrag, append_nil]
  rw [ncard_places h.shallow, checkList, flatMap_cons, flatMap_cons, hrun, hrun, h.sight_eq,
    survey_flatMap hlook hlost hprobe hclose hdeep]
  exact congrArg length (flatMap_congr fun e _ => hcontribution e.2)

lemma tally_eq : tallyOf w.checkList ⟨0, 0, 0, 0⟩ =
    ⟨w.fileCount % 2 ^ 32, w.dirCount % 2 ^ 32, 0, (marks w.checkList).length⟩ := by
  have hfiles : (tallyOf w.checkList ⟨0, 0, 0, 0⟩).files = w.fileCount % 2 ^ 32 := by
    rw [count_tallyOf files filesMet files_tally (by decide), fileCount, zero_add,
      h.length_met filesMet (fun r => r.itype ≠ itypeDir) (fun _ _ => rfl) rfl (fun _ => rfl) (fun _ => rfl) rfl
        fun _ _ => rfl]
    intro r
    by_cases hdir : r.itype = itypeDir
    · rw [decide_eq_true hdir, if_neg (not_not.mpr hdir)]
      rfl
    · rw [decide_eq_false hdir, if_pos hdir]
      rfl
  have hdirs : (tallyOf w.checkList ⟨0, 0, 0, 0⟩).dirs = w.dirCount % 2 ^ 32 := by
    rw [count_tallyOf Tally.dirs dirsMet dirs_tally (by decide), dirCount, zero_add,
      h.length_met dirsMet (fun r => r.itype = itypeDir) (fun _ _ => rfl) rfl (fun _ => rfl) (fun _ => rfl) rfl
        fun _ _ => rfl]
    intro r
    by_cases hdir : r.itype = itypeDir
    · rw [decide_eq_true hdir, if_pos hdir]
      rfl
    · rw [decide_eq_false hdir, if_neg hdir]
      rfl
  have hblocks : (tallyOf w.checkList ⟨0, 0, 0, 0⟩).blocks = (marks w.checkList).length := by
    rw [blocks_tallyOf, zero_add]
  have hbad : (tallyOf w.checkList ⟨0, 0, 0, 0⟩).bad = 0 := bad_tallyOf h.checkList_fine
  calc tallyOf w.checkList ⟨0, 0, 0, 0⟩
      = ⟨(tallyOf w.checkList ⟨0, 0, 0, 0⟩).files, (tallyOf w.checkList ⟨0, 0, 0, 0⟩).dirs,
          (tallyOf w.checkList ⟨0, 0, 0, 0⟩).bad, (tallyOf w.checkList ⟨0, 0, 0, 0⟩).blocks⟩ := rfl
    _ = _ := by rw [hfiles, hdirs, hbad, hblocks]

lemma length_marks : (marks w.checkList).length =
    w.fs.dataStart + 1 + {b | Holds w.disk w.fs.rootRec b}.ncard := by
  have hnodup := nodup_marks_survey h.apart (maxTreeDepth + 1)
  have htree : {b | Holds w.disk w.fs.rootRec b}.ncard =
      (marks (survey w.disk (maxTreeDepth + 1) w.fs.rootRec.node)).length :=
    ncard_of_nodup hnodup fun b => (mem_marks_iff_holds h.shallow).symm
  rw [checkList, marks_cons, marks_cons, h.sight_eq, length_append, length_append]
  simp only [Event.blocks, extent, length_range']
  omega

lemma mem_marks : b ∈ marks w.checkList ↔
    b < w.fs.dataStart ∨ b = w.fs.totalBlocks - 1 ∨ Holds w.disk w.fs.rootRec b := by
  rw [Mounted.mem_marks_checkList, h.sight_eq, mem_marks_iff_holds h.shallow, mem_extent, mem_extent]
  refine or_congr (by omega) (or_congr (by omega) Iff.rfl)

end

end CheckReady

/-- The number of clear bits of the bitmap. -/
def World.clearBits : Nat := (List.range w.fs.totalBlocks).countP fun b => !w.bitAt b

/-- The superblock fields that `check` means to write. -/
noncomputable def World.repairedFields : SbFields := { w.fs.sbFields with freeBlocks := w.freeCount }

/-- What `check` does to a volume that is in order. -/
structure Rebuilt (w w' : World) : Prop where
  setting : w'.setting = w.setting
  root : w'.fs.rootRec = w.fs.rootRec
  fields : w'.fs.sbFields = w.repairedFields
  persisted : w'.fs.sbPersisted = some w.repairedFields
  bit : ∀ b, w.setting.InBitmap (w.fs.bitmapStart + b / bitsPerBmblock) →
    (w'.bitAt b = true ↔ b ∈ marks w.checkList)
  kept : ∀ lba, lba ≠ 0 → lba ≠ w.fs.totalBlocks - 1 → ¬ w.setting.InBitmap lba → w'.disk lba = w.disk lba
  skipped : w.fs.sbPersisted = some w.repairedFields →
    w'.disk 0 = w.disk 0 ∧ w'.disk (w.fs.totalBlocks - 1) = w.disk (w.fs.totalBlocks - 1)
  written : w.fs.sbPersisted ≠ some w.repairedFields →
    w'.disk 0 = sbUpdate (w.disk 0) w.repairedFields ∧
      w'.disk (w.fs.totalBlocks - 1) = sbUpdate (w.disk 0) w.repairedFields

namespace CheckReady

variable {w : World}

lemma finish_rebuilt (h : CheckReady w) {u : World} {st : Tally}
    (hu : Between (marks w.checkList) (marks w.checkList) w.cleared u)
    (hst : w.fs.totalBlocks - st.blocks = w.freeCount) :
    Run (finishCheck w.fs.freeBlocks st) u
      (fun report t => report = ⟨st, w.fs.freeBlocks⟩ ∧ Rebuilt w t) (fun _ _ => False) := by
  have hclosed := hu.closed h.closed
  have hsettled : u.fs.settled = w.fs.settled := hu.settled
  have htotal : u.fs.totalBlocks = w.fs.totalBlocks := congrArg totalBlocks hu.setting
  have hstart : u.fs.bitmapStart = w.fs.bitmapStart := congrArg bitmapStart hu.setting
  have hfields : u.fs.sbFields = w.fs.sbFields := by
    have heq : u.fs.settled.sbFields = w.fs.settled.sbFields := congrArg Fs.sbFields hsettled
    exact heq
  have hpersisted : u.fs.sbPersisted = w.fs.sbPersisted := by
    have heq : u.fs.settled.sbPersisted = w.fs.settled.sbPersisted := congrArg Fs.sbPersisted hsettled
    exact heq
  have hroot : u.fs.rootRec = w.fs.rootRec := by
    have heq : u.fs.settled.rootRec = w.fs.settled.rootRec := congrArg Fs.rootRec hsettled
    exact heq
  have hplan : u.setting.Plan := by
    rw [hu.setting]
    exact h.plan
  have hbit : ∀ b, w.setting.InBitmap (w.fs.bitmapStart + b / bitsPerBmblock) →
      (u.bitAt b ↔ b ∈ marks w.checkList) := by
    intro b hb
    constructor
    · intro hset
      refine (hu.down b hset).resolve_left fun hold => ?_
      rw [bitAt_cleared h.closed hb] at hold
      cases hold
    · intro hmem
      exact hu.up b (.inl hmem)
  have hdisk : ∀ lba, ¬ w.setting.InBitmap lba → u.disk lba = w.disk lba := fun lba hlba =>
    (hu.other lba hlba).trans (disk_cleared_other hlba)
  -- the count is set in memory, then the superblocks are written
  unfold finishCheck
  rw [run_bind, run_modify, run_bind]
  set v : World := u.onFs fun fs => { fs with freeBlocks := fs.totalBlocks - st.blocks } with hv
  have hvfields : v.fs.sbFields = w.repairedFields := by
    have heq : v.fs.sbFields = { u.fs.sbFields with freeBlocks := u.fs.totalBlocks - st.blocks } := rfl
    rw [heq, hfields, htotal, hst]
    rfl
  have hvpersisted : v.fs.sbPersisted = w.fs.sbPersisted := hpersisted
  refine run_persistSuper_closed hclosed (fun hskip => ?_) (fun hnew hread => ?_) fun hfault => ?_
  · rw [hvpersisted, hvfields] at hskip
    refine ⟨rfl, hu.setting, hroot, hvfields, hvpersisted.trans hskip, hbit, fun lba _ _ hlba => hdisk lba hlba,
      fun _ => ⟨hdisk 0 h.plan.not_bitmap_zero, hdisk _ h.plan.not_bitmap_backup⟩, fun hnot => absurd hskip hnot⟩
  · rw [hvpersisted, hvfields] at hnew
    have hfs := fs_superWritten (w := v) hclosed
    have hnext : v.nextSuper = sbUpdate (w.disk 0) w.repairedFields := by
      unfold nextSuper
      rw [hvfields, read_of_closed (w := v) hclosed]
      exact congrArg (fun b => sbUpdate b w.repairedFields) (hdisk 0 h.plan.not_bitmap_zero)
    have hblocks : ∀ lba, v.superWritten.disk lba =
        if lba = 0 ∨ lba = w.fs.totalBlocks - 1 then sbUpdate (w.disk 0) w.repairedFields else u.disk lba := by
      intro lba
      rw [disk_superWritten (w := v) hclosed, hnext, show v.fs.totalBlocks = w.fs.totalBlocks from htotal]
      rfl
    refine ⟨rfl, setting_superWritten.trans hu.setting, ?_, ?_, ?_, ?_, ?_, fun hskip => absurd hskip hnew,
      fun _ => ⟨?_, ?_⟩⟩
    · rw [hfs]
      exact hroot
    · rw [hfs]
      exact hvfields
    · rw [hfs]
      exact congrArg some hvfields
    · intro b hb
      have hvb : v.setting.InBitmap (v.fs.bitmapStart + b / bitsPerBmblock) := by
        rw [show v.setting = w.setting from hu.setting, show v.fs.bitmapStart = w.fs.bitmapStart from hstart]
        exact hb
      rw [bitAt_superWritten (w := v) hclosed hplan hvb]
      exact hbit b hb
    · intro lba hzero hlast hlba
      rw [hblocks, if_neg (by tauto)]
      exact hdisk lba hlba
    · rw [hblocks, if_pos (.inl rfl)]
    · rw [hblocks, if_pos (.inr rfl)]
  · have hok : v.fault v.tick 0 = false := by
      rw [show v.fault = w.fault from congrArg Setting.fault hu.setting]
      exact h.clear _ _
    unfold faulty at hfault
    rw [hok] at hfault
    cases hfault

/-- **`check` on a volume that is in order.** -/
theorem check_rebuilds (h : CheckReady w) : ∃ w',
    check w = (.ok ⟨⟨w.fileCount % 2 ^ 32, w.dirCount % 2 ^ 32, 0, (marks w.checkList).length⟩,
      w.fs.freeBlocks⟩, w') ∧ Rebuilt w w' := by
  have hrun : Run (foldEach w.checkList ⟨0, 0, 0, 0⟩ checkEvent >>= finishCheck w.fs.freeBlocks) w.cleared
      (fun report t => report = ⟨⟨w.fileCount % 2 ^ 32, w.dirCount % 2 ^ 32, 0, (marks w.checkList).length⟩,
        w.fs.freeBlocks⟩ ∧ Rebuilt w t) (fun _ _ => False) := by
    rw [run_bind]
    refine (run_checkEvents (w := w.cleared) h.closed h.plan h.checkList_lt).mono ?_ ?_
    · intro st u ⟨hu, hst, _⟩
      have hst' : st = ⟨w.fileCount % 2 ^ 32, w.dirCount % 2 ^ 32, 0, (marks w.checkList).length⟩ :=
        hst.trans h.tally_eq
      subst hst'
      refine h.finish_rebuilt hu ?_
      rw [freeCount, ← h.length_marks]
    · intro _ t ⟨before, ev, after, hevs, _, hwhy⟩
      rcases hwhy with hstop | ⟨b, -, t, hlost⟩
      · rw [abandoned_of_fine h.checkList_fine] at hstop
        cases hstop
      · have hok := h.clear t (w.fs.bitmapStart + b / bitsPerBmblock)
        exact Bool.false_ne_true (hok.symm.trans hlost)
  obtain ⟨report, t, hcheck, rfl, hrebuilt⟩ := hrun.returns
  exact ⟨t, h.check_eq.trans hcheck, hrebuilt⟩

lemma fits_repaired (h : CheckReady w) : w.repairedFields.Fits := by
  have hword := h.plan.word
  have hle : w.freeCount ≤ w.fs.totalBlocks := Nat.sub_le _ _
  have hset : w.setting.totalBlocks = w.fs.totalBlocks := rfl
  refine ⟨h.fits.rootFirst, h.fits.rootCount, ?_, h.fits.flags, h.fits.labelLen, h.fits.label, h.fits.compat,
    h.fits.roCompat, h.fits.incompat⟩
  change w.freeCount < 2 ^ 64
  omega

end CheckReady

namespace Rebuilt

variable {w w' : World}

variable (hr : Rebuilt w w')
include hr

section

variable (h : CheckReady w)
include h

lemma disk_holds (hb : Holds w.disk w.fs.rootRec b) : w'.disk b = w.disk b := by
  have hin := h.inData b hb
  have hnot := h.plan.not_bitmap_of_data hin
  have hjournal := h.plan.journal
  have hset := w.setting_ends
  unfold InData at hin
  exact hr.kept b (by omega) (by omega) hnot

lemma recAt_eq (q : List Nat) : recAt w'.disk w'.fs.rootRec q = recAt w.disk w.fs.rootRec q := by
  rw [hr.root]
  exact tree_congr (fun b hb => hr.disk_holds h hb) q

lemma holds_iff (b : Nat) : Holds w'.disk w'.fs.rootRec b ↔ Holds w.disk w.fs.rootRec b := by
  rw [hr.root]
  exact holds_congr h.extHeld (fun b hb => hr.disk_holds h hb) b

lemma own_eq {q : List Nat} {r : Rec}
    (hrec : recAt w.disk w.fs.rootRec q = some r) : own w'.disk r = own w.disk r :=
  own_congr (h.extHeld q r hrec) fun _ hb => hr.disk_holds h ⟨q, r, hrec, hb⟩

lemma ready : CheckReady w' := by
  have hfault : w'.fault = w.fault := congrArg Setting.fault hr.setting
  have hsame : ∀ {q r}, recAt w.disk w.fs.rootRec q = some r → ∀ b ∈ own w.disk r, w'.disk b = w.disk b :=
    fun hrec b hb => hr.disk_holds h ⟨_, _, hrec, hb⟩
  refine { closed := ?_, plan := ?_, steady := ?_, apart := ?_, inData := ?_, extHeld := ?_, clear := ?_,
           shallow := ?_, dirs := ?_, exts := ?_, data := ?_, fits := ?_ }
  · exact (congrArg txnActive hr.setting).trans h.closed
  · rw [hr.setting]
    exact h.plan
  · rw [hfault]
    exact h.steady
  · rw [hr.root]
    exact apart_congr h.extHeld (fun b hb => hr.disk_holds h hb) h.apart
  · intro b hb
    rw [hr.setting]
    exact h.inData b ((hr.holds_iff h b).mp hb)
  · intro q r hrec
    rw [hr.recAt_eq h] at hrec
    exact h.extHeld q r hrec
  · rw [hfault]
    exact h.clear
  · intro q r hrec
    rw [hr.recAt_eq h] at hrec
    exact h.shallow q r hrec
  · intro q r hrec hdir b hb
    rw [hr.recAt_eq h] at hrec
    rw [hsame hrec b (mem_own_of_extent hb)]
    exact h.dirs q r hrec hdir b hb
  · intro q r hrec hfrag
    rw [hr.recAt_eq h] at hrec
    have hpos := h.extHeld q r hrec hfrag
    rw [hsame hrec _ (mem_own_of_extent (mem_extent.mpr ⟨le_refl _, by omega⟩))]
    exact h.exts q r hrec hfrag
  · intro q r hrec hdir b hb
    rw [hr.recAt_eq h] at hrec
    rw [hr.own_eq h hrec] at hb
    rw [hsame hrec b hb]
    exact h.data q r hrec hdir b hb
  · rw [hr.fields]
    exact h.fits_repaired

lemma places_eq (P : Rec → Prop) : w'.places P = w.places P := by
  ext q
  unfold places
  rw [Set.mem_ofPred_eq, Set.mem_ofPred_eq, hr.recAt_eq h]

lemma holdsCount_eq :
    {b | Holds w'.disk w'.fs.rootRec b}.ncard = {b | Holds w.disk w.fs.rootRec b}.ncard := by
  have hset : {b | Holds w'.disk w'.fs.rootRec b} = {b | Holds w.disk w.fs.rootRec b} :=
    Set.ext fun b => hr.holds_iff h b
  rw [hset]

end

lemma totals : w'.fs.totalBlocks = w.fs.totalBlocks ∧ w'.fs.dataStart = w.fs.dataStart :=
  ⟨congrArg totalBlocks hr.setting, congrArg dataStart hr.setting⟩

section

variable (h : CheckReady w)
include h

lemma mem_marks_iff : b ∈ marks w'.checkList ↔ b ∈ marks w.checkList := by
  rw [(hr.ready h).mem_marks, h.mem_marks, hr.totals.1, hr.totals.2, hr.holds_iff h]

lemma length_marks_eq : (marks w'.checkList).length = (marks w.checkList).length := by
  rw [(hr.ready h).length_marks, h.length_marks, hr.totals.2, hr.holdsCount_eq h]

lemma repairedFields_eq : w'.repairedFields = w.repairedFields := by
  have hfree : w'.freeCount = w.freeCount := by
    unfold freeCount
    rw [hr.totals.1, hr.totals.2, hr.holdsCount_eq h]
  unfold repairedFields
  rw [hr.fields, hfree]
  rfl

lemma clearBits_eq : w'.clearBits = w.freeCount := by
  have hbit : ∀ b ∈ range w.fs.totalBlocks, w'.bitAt b = decide (b ∈ marks w.checkList) := by
    intro b hb
    rw [Bool.eq_iff_iff, decide_eq_true_eq]
    exact hr.bit b (h.plan.bitmap_block (mem_range.mp hb))
  have hset : (range w.fs.totalBlocks).countP (fun b => w'.bitAt b) = (marks w.checkList).length := by
    rw [countP_eq_length_filter, filter_congr hbit]
    refine Perm.length_eq ((perm_ext_iff_of_nodup (nodup_range.filter _) h.nodup_checkList).mpr ?_)
    intro b
    rw [mem_filter, decide_eq_true_eq, mem_range]
    constructor
    · exact And.right
    · intro hb
      exact ⟨h.checkList_lt b hb, hb⟩
  have hsum := length_eq_countP_add_countP (fun b => w'.bitAt b) (l := range w.fs.totalBlocks)
  rw [length_range] at hsum
  rw [clearBits, hr.totals.1, freeCount, ← h.length_marks]
  simp only [Bool.not_eq_true] at hsum
  have hnot : (range w.fs.totalBlocks).countP (fun b => !w'.bitAt b) =
      (range w.fs.totalBlocks).countP fun b => decide (w'.bitAt b = false) := by
    refine countP_congr fun b _ => ?_
    simp
  rw [hnot]
  omega

lemma disk_again {w'' : World} (hr' : Rebuilt w' w'') : w''.disk = w'.disk := by
  have hskip : w'.fs.sbPersisted = some w'.repairedFields := by
    rw [hr.repairedFields_eq h]
    exact hr.persisted
  have h' := hr.ready h
  funext lba
  by_cases hbm : w'.setting.InBitmap lba
  · -- a bitmap block: the same bits are set in both
    have hstart : w'.fs.bitmapStart ≤ lba := hbm.1
    have hstart' : w''.fs.bitmapStart = w'.fs.bitmapStart := congrArg bitmapStart hr'.setting
    have hwstart : w'.fs.bitmapStart = w.fs.bitmapStart := congrArg bitmapStart hr.setting
    have hbits : bitsPerBmblock = 4096 := rfl
    refine BitVec.eq_of_getLsbD_eq fun i hi => ?_
    have hmod : ((lba - w'.fs.bitmapStart) * 4096 + i) % 4096 = i := by omega
    have hlba : w'.fs.bitmapStart + ((lba - w'.fs.bitmapStart) * 4096 + i) / 4096 = lba := by omega
    have hin : w'.setting.InBitmap
        (w'.fs.bitmapStart + ((lba - w'.fs.bitmapStart) * 4096 + i) / bitsPerBmblock) := by
      rw [hbits, hlba]
      exact hbm
    have hin' : w.setting.InBitmap
        (w.fs.bitmapStart + ((lba - w'.fs.bitmapStart) * 4096 + i) / bitsPerBmblock) := by
      rw [← hr.setting, ← hwstart]
      exact hin
    have hbit : w''.bitAt ((lba - w'.fs.bitmapStart) * 4096 + i) =
        w'.bitAt ((lba - w'.fs.bitmapStart) * 4096 + i) := by
      rw [Bool.eq_iff_iff, hr'.bit _ hin, hr.bit _ hin', hr.mem_marks_iff h]
    have hclosed'' : w''.fs.txnActive = false := (congrArg txnActive hr'.setting).trans h'.closed
    unfold bitAt at hbit
    rw [read_of_closed hclosed'', read_of_closed h'.closed, hstart', hbits, hlba, hmod] at hbit
    exact hbit
  · by_cases hzero : lba = 0
    · rw [hzero]
      exact (hr'.skipped hskip).1
    by_cases hlast : lba = w'.fs.totalBlocks - 1
    · rw [hlast]
      exact (hr'.skipped hskip).2
    · exact hr'.kept lba hzero hlast hbm

end

end Rebuilt

section Scrub

/-- The numbers of files, directories and damaged ones. -/
def Tally.counts (st : Tally) : Nat × Nat × Nat := (st.files, st.dirs, st.bad)

variable {w : World} {st st' : Tally}

lemma counts_tally (h : st.counts = st'.counts) (ev : Event) : (ev.tally st).counts = (ev.tally st').counts := by
  obtain ⟨hfiles, hrest⟩ := Prod.mk.inj h
  obtain ⟨hdirs, hbad⟩ := Prod.mk.inj hrest
  have hverdict : ∀ ok, (st.verdict ok).counts = (st'.verdict ok).counts := by
    intro ok
    cases ok with
    | true => exact h
    | false => simp only [verdict, Bool.false_eq_true, if_false, counts, hfiles, hdirs, hbad]
  cases ev with
  | enter isDir first count =>
    cases isDir <;> simp [Event.tally, counts, add, dir, file, hfiles, hdirs, hbad]
  | look dirBlock lba | run first count | probe ok | tooDeep => exact h
  | lost => exact hverdict false
  | close ok => exact hverdict ok

lemma run_scrubEvent {ev : Event} (hev : ev.Fine) (h : st.counts = st'.counts) : Run (scrubEvent ev st) w
    (fun st'' t => st''.counts = (ev.tally st').counts ∧ t.disk = w.disk) (fun _ _ => False) := by
  have hsame := counts_tally h ev
  cases ev with
  | enter isDir first count => cases isDir <;> exact ⟨hsame, rfl⟩
  | look dirBlock lba => cases dirBlock <;> exact ⟨hsame, rfl⟩
  | lost | tooDeep => cases hev
  | run first count | close ok => exact ⟨hsame, rfl⟩
  | probe ok =>
    cases ok with
    | true => exact ⟨hsame, rfl⟩
    | false => cases hev

lemma run_scrubEvents {evs : List Event} (hevs : ∀ ev ∈ evs, ev.Fine) (h : st.counts = st'.counts) :
    Run (foldEach evs st scrubEvent) w
      (fun st'' t => st''.counts = (tallyOf evs st').counts ∧ t.disk = w.disk) (fun _ _ => False) := by
  induction evs generalizing w st st' with
  | nil => exact ⟨h, rfl⟩
  | cons ev evs ih =>
    rw [foldEach, run_bind]
    refine (run_scrubEvent (hevs ev mem_cons_self) h).mono ?_ fun _ _ hfalse => hfalse
    rintro st₁ t ⟨hst₁, ht⟩
    refine (ih (fun ev' hev' => hevs ev' (mem_cons_of_mem _ hev')) hst₁).mono ?_ fun _ _ hfalse => hfalse
    rintro st₂ u ⟨hst₂, hu⟩
    exact ⟨hst₂, hu.trans ht⟩

/-- **`scrub` on a volume that is in order.** -/
theorem CheckReady.scrub_counts (h : CheckReady w) : ∃ tally w', scrub w = (.ok tally, w') ∧
    tally.counts = (w.fileCount % 2 ^ 32, w.dirCount % 2 ^ 32, 0) ∧ w'.disk = w.disk := by
  have hsees : Sees w.sight w.setting w := ⟨rfl, h.plan, h.closed, h.steady, fun _ _ => rfl⟩
  have hscrub : scrub w = foldEach (survey w.sight (maxTreeDepth + 1) w.fs.rootRec.node) ⟨0, 0, 0, 0⟩ scrubEvent w :=
    scrubSubtree_eq hsees h.survey_inData
  have hfine := h.survey_fine
  rw [← h.sight_eq] at hfine
  have hcounts : (⟨0, 0, 0, 0⟩ : Tally).counts = (⟨0, 0, 0, w.fs.dataStart + 1⟩ : Tally).counts := rfl
  have hrun := run_scrubEvents (w := w) hfine hcounts
  have hlist : tallyOf (survey w.sight (maxTreeDepth + 1) w.fs.rootRec.node) ⟨0, 0, 0, w.fs.dataStart + 1⟩ =
      tallyOf w.checkList ⟨0, 0, 0, 0⟩ := by
    rw [checkList, tallyOf, tallyOf, foldl_cons, foldl_cons]
    simp only [Event.tally, add, zero_add]
  rw [hlist, h.tally_eq] at hrun
  obtain ⟨tally, w', hdone, htally, hdisk⟩ := hrun.returns
  exact ⟨tally, w', hscrub.trans hdone, htally, hdisk⟩

end Scrub

section Repair

/-- An exact repair: the report and the bits are what the tree says, the counts agree, no
other block changed, and a second `check` and a `scrub` find the same. -/
structure Repaired (w w' : World) (report : CheckReport) : Prop where
  files : report.tally.files = w.fileCount
  dirs : report.tally.dirs = w.dirCount
  bad : report.tally.bad = 0
  bit : ∀ b, w.setting.InBitmap (w.fs.bitmapStart + b / bitsPerBmblock) → (w'.bitAt b = true ↔
    b < w.fs.dataStart ∨ b = w.fs.totalBlocks - 1 ∨ Holds w.disk w.fs.rootRec b)
  free : w'.fs.freeBlocks = w'.clearBits
  super : (sbFields (w'.disk 0)).freeBlocks = w'.clearBits
  backup : (sbFields (w'.disk (w.fs.totalBlocks - 1))).freeBlocks = w'.clearBits
  kept : ∀ lba, lba ≠ 0 → lba ≠ w.fs.totalBlocks - 1 → ¬ w.setting.InBitmap lba → w'.disk lba = w.disk lba
  again : ∃ report' w'', check w' = (.ok report', w'') ∧ w''.disk = w'.disk ∧
    w''.fs.freeBlocks = w'.fs.freeBlocks ∧ report'.tally = report.tally
  scrubbed : ∃ tally w'', scrub w' = (.ok tally, w'') ∧ tally.counts = report.tally.counts

/-- The superblocks hold the count of free blocks if the mount remembers having written
just that. -/
def Fresh : Prop :=
  w.fs.sbPersisted = some { w.fs.sbFields with freeBlocks := w.freeCount } →
    (sbFields (w.disk 0)).freeBlocks = w.freeCount ∧
      (sbFields (w.disk (w.fs.totalBlocks - 1))).freeBlocks = w.freeCount

variable {w w' : World}

lemma Rebuilt.super_free (hr : Rebuilt w w') (h : CheckReady w) (hfresh : Fresh w) :
    (sbFields (w'.disk 0)).freeBlocks = w.freeCount ∧
      (sbFields (w'.disk (w.fs.totalBlocks - 1))).freeBlocks = w.freeCount := by
  by_cases hskip : w.fs.sbPersisted = some w.repairedFields
  · rw [(hr.skipped hskip).1, (hr.skipped hskip).2]
    exact hfresh hskip
  · rw [(hr.written hskip).1, (hr.written hskip).2, sbFields_sbUpdate h.fits_repaired]
    exact ⟨rfl, rfl⟩

lemma Rebuilt.repaired (hr : Rebuilt w w') (h : CheckReady w) (hfresh : Fresh w)
    (hfiles : w.fileCount < 2 ^ 32) (hdirs : w.dirCount < 2 ^ 32) :
    Repaired w w' ⟨⟨w.fileCount % 2 ^ 32, w.dirCount % 2 ^ 32, 0, (marks w.checkList).length⟩,
      w.fs.freeBlocks⟩ := by
  have h' := hr.ready h
  have hfileCount : w'.fileCount = w.fileCount := congrArg Set.ncard (hr.places_eq h _)
  have hdirCount : w'.dirCount = w.dirCount := congrArg Set.ncard (hr.places_eq h _)
  have hfree : w'.fs.freeBlocks = w.freeCount := by
    have heq : w'.fs.sbFields.freeBlocks = w.repairedFields.freeBlocks := congrArg SbFields.freeBlocks hr.fields
    exact heq
  obtain ⟨hsuper, hbackup⟩ := hr.super_free h hfresh
  obtain ⟨w'', hcheck, hr'⟩ := h'.check_rebuilds
  obtain ⟨tally, t, hscrub, hcounts, -⟩ := h'.scrub_counts
  rw [hfileCount, hdirCount, hr.length_marks_eq h] at hcheck
  rw [hfileCount, hdirCount] at hcounts
  constructor
  · exact Nat.mod_eq_of_lt hfiles
  · exact Nat.mod_eq_of_lt hdirs
  · rfl
  · intro b hb
    rw [hr.bit b hb, h.mem_marks]
  · rw [hr.clearBits_eq h, hfree]
  · rw [hr.clearBits_eq h, hsuper]
  · rw [hr.clearBits_eq h, hbackup]
  · exact hr.kept
  · refine ⟨_, w'', hcheck, hr.disk_again h hr', ?_, rfl⟩
    have heq : w''.fs.sbFields.freeBlocks = w'.repairedFields.freeBlocks := congrArg SbFields.freeBlocks hr'.fields
    rw [hr.repairedFields_eq h, ← hr.fields] at heq
    exact heq
  · exact ⟨tally, t, hscrub, hcounts⟩

/-- **When `check` is an exact repair.**  On a volume whose blocks can all be read and
verified, whatever its bitmap and its free counts hold: if and only if the superblocks
really hold what the mount remembers having written, and the counts of records fit into 32
bits. -/
theorem check_repairs_iff (h : CheckReady w) :
    (∃ report w', check w = (.ok report, w') ∧ Repaired w w' report) ↔
      Fresh w ∧ w.fileCount < 2 ^ 32 ∧ w.dirCount < 2 ^ 32 := by
  obtain ⟨w', hcheck, hr⟩ := h.check_rebuilds
  constructor
  · intro ⟨report, t, hcheck', hrep⟩
    rw [hcheck] at hcheck'
    obtain ⟨hreport, rfl⟩ := Prod.mk.inj hcheck'
    cases hreport
    refine ⟨fun hskip => ?_, ?_, ?_⟩
    · rw [← (hr.skipped hskip).1, ← (hr.skipped hskip).2, hrep.super, hrep.backup, hr.clearBits_eq h]
      exact ⟨rfl, rfl⟩
    · rw [← hrep.files]
      exact Nat.mod_lt _ (by decide)
    · rw [← hrep.dirs]
      exact Nat.mod_lt _ (by decide)
  · intro ⟨hfresh, hfiles, hdirs⟩
    exact ⟨_, w', hcheck, hr.repaired h hfresh hfiles hdirs⟩

lemma checkReady_of_listing {n : Nat} {l : List (List Nat × Rec)} (hl : w.listing n = l) (h : Mounted w)
    (hdeep : ∀ e ∈ l, e.1.length < n) (hn : n ≤ maxTreeDepth + 1) (hclear : ∀ t lba, w.fault t lba = false)
    (hfits : w.fs.sbFields.Fits)
    (hrecs : ∀ e ∈ l, (e.2.itype = itypeDir → ∀ b ∈ extent e.2.first e.2.count, dirCrcOk (w.disk b)) ∧
      (e.2.itype = itypeFileFrag → extCrcOk (w.disk e.2.first)) ∧
      (e.2.itype ≠ itypeDir → ∀ b ∈ own w.disk e.2,
        e.2.itype = itypeFileFrag ∧ b ∈ extent e.2.first e.2.count ∨ dataCrcOk (w.disk b))) :
    CheckReady w where
  toMounted := h
  clear := hclear
  shallow := forall_of_listing hl hdeep fun e he => by
    have hlen := hdeep e he
    omega
  dirs := forall_of_listing hl hdeep (P := fun _ r => r.itype = itypeDir → ∀ b ∈ extent r.first r.count,
    dirCrcOk (w.disk b)) fun e he => (hrecs e he).1
  exts := forall_of_listing hl hdeep (P := fun _ r => r.itype = itypeFileFrag →
    extCrcOk (w.disk r.first)) fun e he => (hrecs e he).2.1
  data := forall_of_listing hl hdeep (P := fun _ r => r.itype ≠ itypeDir → ∀ b ∈ own w.disk r,
    r.itype = itypeFileFrag ∧ b ∈ extent r.first r.count ∨ dataCrcOk (w.disk b))
    fun e he => (hrecs e he).2.2
  fits := hfits

end Repair

section Samples

/-- The superblock of a new volume of `n` blocks, with one block too many counted free. -/
def driftedSuper (n : Nat) : Block :=
  let fields := sbFields (freshSuper n [])
  sbUpdate (freshSuper n []) { fields with freeBlocks := fields.freeBlocks + 1 }

def driftedDisk (n lba : Nat) : Block :=
  if lba = 0 ∨ lba = n - 1 then driftedSuper n else freshDisk (fun _ => 0) n [] lba

def driftedVolume (n : Nat) : World :=
  undisturbed (mountedFs (driftedSuper n) (driftedSuper n)) (driftedDisk n)

/-- Its disk with a directory and a file in it. -/
def filledDisk : Nat → Block := (serveAll 0 [.mkdirP [0x2F, 0x61],
  .writeFile [0x2F, 0x61, 0x2F, 0x62] [1, 2]] (driftedVolume 73)).disk

def filledVolume : World := undisturbed (mountedFs (filledDisk 0) (filledDisk 0)) filledDisk

/-- The volume after a `mkdir -p` for which there is no room; no read fails, as before. -/
def refusedVolume : World :=
  { serveAll 0 [.mkdirP [0x2F, 0x61, 0x2F, 0x62]] (driftedVolume 69) with fault := fun _ _ => false }

lemma listing_filled : filledVolume.listing 3 = [([], ⟨itypeDir, none, false, 0, 66, 1⟩),
    ([0], ⟨itypeDir, some [97], false, 0, 67, 1⟩),
    ([0, 0], ⟨itypeFile, some [98], false, 2, 68, 1⟩)] := by
  decide +kernel

lemma ready_filled : CheckReady filledVolume :=
  checkReady_of_listing listing_filled
    (mounted_of_listing listing_filled (fun _ _ _ => rfl) (by decide +kernel)) (by decide) (by decide)
    (fun _ _ => rfl) (by decide +kernel) (by decide +kernel)

/-- Just mounted, the volume is repaired. -/
theorem check_repairs_drifted :
    ∃ report w', check filledVolume = (.ok report, w') ∧ Repaired filledVolume w' report := by
  refine (check_repairs_iff ready_filled).mpr ⟨fun hsame => ?_, ?_, ?_⟩
  · cases hsame
  · rw [fileCount, ncard_places ready_filled.shallow]
    decide +kernel
  · rw [dirCount, ncard_places ready_filled.shallow]
    decide +kernel

lemma listing_refused : refusedVolume.listing 1 = [([], ⟨itypeDir, none, false, 0, 66, 1⟩)] := by
  decide +kernel

lemma ready_refused : CheckReady refusedVolume :=
  checkReady_of_listing listing_refused
    (mounted_of_listing listing_refused (fun _ _ _ => rfl) (by decide +kernel)) (by decide)
    (by decide) (fun _ _ => rfl) (by decide +kernel) (by decide +kernel)

lemma checked_refused : (sbFields ((check refusedVolume).2.disk 0)).freeBlocks = 2 ∧
    (check refusedVolume).2.clearBits = 1 := by
  decide +kernel

/-- **`check` leaves a wrong count in the superblocks** after a transaction that was given
up: the mount remembers fields that it never wrote. -/
theorem check_keeps_drift : CheckReady refusedVolume ∧
    ¬ ∃ report w', check refusedVolume = (.ok report, w') ∧ Repaired refusedVolume w' report := by
  refine ⟨ready_refused, fun ⟨report, w', hcheck, hrep⟩ => ?_⟩
  have hsuper := hrep.super
  rw [show w' = (check refusedVolume).2 from (congrArg Prod.snd hcheck).symm, checked_refused.1,
    checked_refused.2] at hsuper
  exact absurd hsuper (by decide)

end Samples

end Godspeed.Gsfs
