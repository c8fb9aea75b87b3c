import Godspeed.Gsfs.Bits
import Godspeed.Gsfs.Tree

/-!
# The walk of `check` and `scrub` as a list of events

What the two walks meet is a function of what the blocks read as (`survey`): records
entered, directory blocks that cannot be read, runs of fragmented files, data blocks
with the outcome of their verification.  `check` and `scrub` go through this one list
and differ in what they do at an event (`checkSubtree_eq`, `scrubSubtree_eq`), as long
as the blocks of the records lie where blocks of records lie: the marks then change no
block that is still to be read.

What can be read may depend on the block but not on the moment.
-/

namespace Godspeed.Gsfs

open Word Prog Holdings List

inductive Event
  /-- A record, with its extent. -/
  | enter (isDir : Bool) (first count : Nat)
  /-- A directory block or an extent block is read. -/
  | look (dirBlock : Bool) (lba : Nat)
  /-- The directory block cannot be read. -/
  | lost
  /-- A run of a fragmented file. -/
  | run (first count : Nat)
  /-- A data block is verified. -/
  | probe (ok : Bool)
  /-- The end of a file; whether it is in order. -/
  | close (ok : Bool)
  | tooDeep
  deriving DecidableEq, Repr

section Definitions

variable (rd : Nat → Block)

def intact (lba : Nat) : Bool := (dataRead rd lba).isSome

/-- The verification of some data blocks. -/
def probes (blocks : List Nat) : List Event := blocks.map fun lba => .probe (intact rd lba)

def runEvents (run : Nat × Nat) : List Event := .run run.1 run.2 :: probes rd (extent run.1 run.2)

/-- The events of a subtree, with `levels` levels left. -/
def survey : Nat → Nat × Nat × Nat → List Event
  | 0, _ => [.tooDeep]
  | levels + 1, (itype, first, count) =>
    .enter (itype = itypeDir) first count ::
      if itype = itypeDir then
        (extent first count).flatMap fun block => .look true block ::
          match tdRead rd block with
          | none => [.lost]
          | some blk => (kids blk).flatMap (survey levels)
      else if itype = itypeFileFrag then
        .look false first ::
          match extOf rd first with
          | none => [.close false]
          | some runs => runs.flatMap (runEvents rd) ++ [.close ((runBlocks runs).all (intact rd))]
      else probes rd (extent first count) ++ [.close ((extent first count).all (intact rd))]

end Definitions

/-- What `check` does at an event. -/
def checkEvent : Event → Tally → FsM Tally
  | .enter isDir first count, st => do
    bmSetRange first count true
    pure (if isDir then (st.add count).dir else (st.add count).file)
  | .look _ _, st => do
    scan fun _ => ()
    pure st
  | .lost, st => pure (st.verdict false)
  | .run first count, st => do
    bmSetRange first count true
    pure (st.add count)
  | .probe ok, st => do
    scan fun _ => ()
    noteWalkRead ok
    pure st
  | .close ok, st => pure (st.verdict ok)
  | .tooDeep, _ => refuse .treeTooDeep

/-- What `scrub` does at an event. -/
def scrubEvent : Event → Tally → FsM Tally
  | .enter isDir _ count, st => pure (if isDir then st.dir else st.file.add count)
  | .look dirBlock _, st => do
    scan fun _ => ()
    pure (if dirBlock then st.add 1 else st)
  | .lost, st => pure (st.verdict false)
  | .run _ count, st => pure (st.add count)
  | .probe ok, st => do
    scan fun _ => ()
    noteWalkRead ok
    pure st
  | .close ok, st => pure (st.verdict ok)
  | .tooDeep, _ => refuse .treeTooDeep

def Event.blocks : Event → List Nat
  | .enter _ first count => extent first count
  | .run first count => extent first count
  | _ => []

/-- The blocks that an event marks or reads as part of the tree. -/
def Event.touches : Event → List Nat
  | .look _ lba => [lba]
  | ev => ev.blocks

/-- The blocks of the event lie where blocks of records lie. -/
def Event.InData (g : Setting) (ev : Event) : Prop := ∀ b ∈ ev.touches, g.InData b

/-- The world reads as `rd`, at any moment, outside the bitmap. -/
structure Sees (rd : Nat → Block) (g : Setting) (w : World) : Prop where
  setting : w.setting = g
  plan : g.Plan
  closed : g.txnActive = false
  steady : ∀ t t' lba, g.fault t lba = g.fault t' lba
  sight : ∀ lba, ¬ g.InBitmap lba → w.sight lba = rd lba

namespace Sees

variable {rd : Nat → Block} {g : Setting} {w w' : World} {lba : Nat}

lemma sight_eq (hclosed : w.setting.txnActive = false) (lba : Nat) :
    w.sight lba = if w.setting.fault w.tick lba then 0 else w.disk lba := by
  have hactive : w.fs.txnActive = false := hclosed
  unfold World.sight World.faulty World.read
  rw [hactive]
  simp only [Bool.false_and, Bool.not_false, Bool.and_true]
  rfl

variable (h : Sees rd g w)
include h

lemma of_same (hset : w'.setting = w.setting)
    (hdisk : ∀ lba, ¬ g.InBitmap lba → w'.disk lba = w.disk lba) : Sees rd g w' := by
  have hset' : w'.setting = g := hset.trans h.setting
  refine ⟨hset', h.plan, h.closed, h.steady, fun lba hlba => ?_⟩
  rw [← h.sight lba hlba, sight_eq (by rw [hset']; exact h.closed),
    sight_eq (by rw [h.setting]; exact h.closed), hset', h.setting, h.steady w'.tick w.tick,
    hdisk lba hlba]

lemma ticked : Sees rd g w.ticked := h.of_same rfl fun _ _ => rfl

lemma read_eq_disk : w.read = w.disk := by
  have hactive : w.fs.txnActive = false := (congrArg Setting.txnActive h.setting).trans h.closed
  unfold World.read
  rw [hactive]
  rfl

lemma marked {first count : Nat} {used : Bool}
    (hm : Marked first count used w w') : Sees rd g w' := by
  have hclosed' : w'.fs.txnActive = false :=
    (congrArg Setting.txnActive (hm.setting.trans h.setting)).trans h.closed
  refine h.of_same hm.setting fun lba hlba => ?_
  have hread := hm.other lba (by rw [h.setting]; exact hlba)
  rw [h.read_eq_disk] at hread
  rw [← hread]
  unfold World.read
  rw [hclosed']
  rfl

lemma bmSetRange {first count : Nat} (hin : ∀ b ∈ extent first count, b < g.totalBlocks) :
    Gives (bmSetRange first count true) w fun _ w' => Sees rd g w' := by
  have hplan : w.setting.Plan := h.setting ▸ h.plan
  refine Gives.mono (bmSetRange_marked hplan fun b hlow hhigh => ?_) fun _ w' hm => h.marked hm
  have htotal : g.totalBlocks = w.fs.totalBlocks := congrArg Setting.totalBlocks h.setting.symm
  rw [← htotal]
  exact hin b (mem_extent.mpr ⟨hlow, hhigh⟩)

lemma noteWalkRead (ok : Bool) : Gives (noteWalkRead ok) w fun _ w' => Sees rd g w' := by
  cases ok with
  | true => exact h.of_same rfl fun _ _ => rfl
  | false =>
    have h' : Sees rd g (w.onFs fun fs => { fs with ioFailStreak := fs.ioFailStreak + 1 }) :=
      h.of_same rfl fun _ _ => rfl
    exact run_require.mpr ⟨fun _ => h', fun _ => trivial⟩

lemma checkEvent {ev : Event} (hin : ev.InData g) (st : Tally) :
    Gives (checkEvent ev st) w fun _ w' => Sees rd g w' := by
  cases ev with
  | enter isDir first count | run first count =>
    exact gives_bind.mpr (h.bmSetRange fun b hb => (hin b hb).lt)
  | look dirBlock lba => exact h.ticked
  | lost | close ok => exact h
  | probe ok => exact gives_bind.mpr (gives_bind.mpr (h.ticked.noteWalkRead ok))
  | tooDeep => trivial

lemma checkEvents {evs : List Event} (hin : ∀ ev ∈ evs, ev.InData g) (st : Tally) :
    Gives (foldEach evs st Gsfs.checkEvent) w fun _ w' => Sees rd g w' :=
  gives_foldEach (Sees rd g) h fun ev hev st _ ht => ht.checkEvent (hin ev hev) st

lemma scrubEvent {ev : Event} (st : Tally) :
    Gives (scrubEvent ev st) w fun _ w' => Sees rd g w' := by
  cases ev with
  | enter isDir first count | lost | run first count | close ok => exact h
  | look dirBlock lba => exact h.ticked
  | probe ok => exact gives_bind.mpr (gives_bind.mpr (h.ticked.noteWalkRead ok))
  | tooDeep => trivial

lemma scrubEvents {evs : List Event} (st : Tally) :
    Gives (foldEach evs st Gsfs.scrubEvent) w fun _ w' => Sees rd g w' :=
  gives_foldEach (Sees rd g) h fun _ _ st _ ht => ht.scrubEvent st

lemma dataRead_eq (hlba : ¬ g.InBitmap lba) : (dataRead w.sight lba).isSome = intact rd lba := by
  unfold intact dataRead
  rw [h.sight lba hlba]

lemma tdRead_eq (hlba : ¬ g.InBitmap lba) : tdRead w.sight lba = tdRead rd lba := by
  unfold tdRead
  rw [h.sight lba hlba]

lemma extOf_eq (hlba : ¬ g.InBitmap lba) : extOf w.sight lba = extOf rd lba := by
  unfold extOf
  rw [h.sight lba hlba]

lemma not_bitmap {b : Nat} (hb : g.InData b) : ¬ g.InBitmap b := h.plan.not_bitmap_of_data hb

end Sees

variable {w : World}

section Files

variable {rd : Nat → Block} {g : Setting} (act : Event → Tally → FsM Tally)
  (hprobe : ∀ ok st, act (.probe ok) st = do
    scan fun _ => ()
    noteWalkRead ok
    pure st)

include hprobe in
lemma verifyData_bind {β : Type} {blocks : List Nat} (h : Sees rd g w)
    (hin : ∀ b ∈ blocks, g.InData b) (ok : Bool) (st : Tally) (k : Bool → Tally → FsM β) :
    (verifyData blocks ok >>= fun ok => k ok st) w =
      (foldEach (probes rd blocks) st act >>= fun st => k (ok && blocks.all (intact rd)) st) w := by
  induction blocks generalizing w ok with
  | nil => simp [verifyData, foldEach, probes, pure_bind_apply]
  | cons lba blocks ih =>
    have hgot : (dataRead w.sight lba).isSome = intact rd lba :=
      h.dataRead_eq (h.not_bitmap (hin lba mem_cons_self))
    unfold verifyData
    rw [probes, map_cons, foldEach, foldEach, hprobe, bind_assoc_apply, bind_assoc_apply,
      bind_assoc_apply, bind_assoc_apply, scan_bind_apply, scan_bind_apply, hgot, bind_assoc_apply,
      bind_assoc_apply]
    refine bind_congr_apply rfl fun _ t ht => ?_
    have ht' : Sees rd g t := (h.ticked.noteWalkRead _).of_ok ht
    have hrest := ih ht' (fun b hb => hin b (mem_cons_of_mem _ hb)) (ok && intact rd lba)
    rw [all_cons, ← Bool.and_assoc]
    exact hrest

/-- One run of a fragmented file, marked by `mark` and verified. -/
def runStep (mark : Nat → Nat → FsM Unit) (run : Nat × Nat) (acc : Bool × Tally) : FsM (Bool × Tally) := do
  mark run.1 run.2
  let ok ← verifyData (extent run.1 run.2) acc.1
  pure (ok, acc.2.add run.2)

variable (mark : Nat → Nat → FsM Unit) (hrun : ∀ first count st, act (.run first count) st = do
    mark first count
    pure (st.add count))
  (hmark : ∀ first count w, Sees rd g w → (∀ b ∈ extent first count, g.InData b) →
    Gives (mark first count) w fun _ w' => Sees rd g w')
  (hkeep : ∀ ev st t, Sees rd g t → Event.InData g ev → Gives (act ev st) t fun _ u => Sees rd g u)

include hprobe hrun hmark hkeep in
lemma runs_bind {β : Type} {runs : List (Nat × Nat)} (h : Sees rd g w)
    (hin : ∀ b ∈ runBlocks runs, g.InData b) (ok : Bool) (st : Tally) (k : Bool × Tally → FsM β) :
    (foldEach runs (ok, st) (runStep mark) >>= k) w =
      (foldEach (runs.flatMap (runEvents rd)) st act >>=
        fun st => k (ok && (runBlocks runs).all (intact rd), st)) w := by
  induction runs generalizing w ok st with
  | nil => simp [foldEach, runBlocks, pure_bind_apply]
  | cons run runs ih =>
    have hrunIn : ∀ b ∈ extent run.1 run.2, g.InData b := fun b hb =>
      hin b (mem_append_left _ hb)
    have hrestIn : ∀ b ∈ runBlocks runs, g.InData b := fun b hb => hin b (mem_append_right _ hb)
    have hall : (runBlocks (run :: runs)).all (intact rd) =
        ((extent run.1 run.2).all (intact rd) && (runBlocks runs).all (intact rd)) :=
      all_append
    have hprobes : ∀ ev ∈ probes rd (extent run.1 run.2), ev.InData g := by
      intro ev hev
      obtain ⟨lba, -, rfl⟩ := mem_map.mp hev
      exact fun b hb => absurd hb not_mem_nil
    rw [foldEach, flatMap_cons, bind_assoc_apply, runEvents, cons_append, foldEach, hrun,
      bind_assoc_apply, bind_assoc_apply, runStep, bind_assoc_apply]
    refine bind_congr_apply rfl fun _ t ht => ?_
    have ht' : Sees rd g t := (hmark _ _ _ h hrunIn).of_ok ht
    rw [pure_bind_apply, bind_assoc_apply, foldEach_append_bind]
    refine (verifyData_bind act hprobe ht' hrunIn ok (st.add run.2)
      fun ok st => foldEach runs (ok, st) (runStep mark) >>= k).trans ?_
    refine bind_congr_apply rfl fun st' u hu => ?_
    have hu' : Sees rd g u := (gives_foldEach (Sees rd g) ht' fun ev hev st t ht =>
      hkeep ev st t ht (hprobes ev hev)).of_ok hu
    rw [ih hu' hrestIn, hall, Bool.and_assoc]

end Files

section Subtrees

variable {rd : Nat → Block} {g : Setting} {levels first count : Nat} {node : Nat × Nat × Nat}

lemma mem_survey_dir {block : Nat} {blk : Block} {ev : Event}
    (hblock : block ∈ extent first count) (hread : tdRead rd block = some blk)
    (hnode : node ∈ kids blk) (hev : ev ∈ survey rd levels node) :
    ev ∈ survey rd (levels + 1) (itypeDir, first, count) := by
  rw [survey]
  refine mem_cons_of_mem _ (mem_flatMap.mpr ⟨block, hblock, mem_cons_of_mem _ ?_⟩)
  rw [hread]
  exact mem_flatMap.mpr ⟨node, hnode, hev⟩

lemma extent_inData {itype : Nat}
    (hin : ∀ ev ∈ survey rd (levels + 1) (itype, first, count), ev.InData g) :
    ∀ b ∈ extent first count, g.InData b := by
  rw [survey] at hin
  exact hin _ mem_cons_self

section

variable (hin : ∀ ev ∈ survey rd (levels + 1) (itypeFileFrag, first, count), ev.InData g)
include hin

lemma runs_inData {runs : List (Nat × Nat)}
    (hext : extOf rd first = some runs) : ∀ b ∈ runBlocks runs, g.InData b := by
  intro b hb
  obtain ⟨run, hrun, hb⟩ := mem_flatMap.mp hb
  refine hin (.run run.1 run.2) ?_ b hb
  rw [survey, hext]
  refine mem_cons_of_mem _ (mem_cons_of_mem _ (mem_append_left _ ?_))
  exact mem_flatMap.mpr ⟨run, hrun, mem_cons_self⟩

lemma extBlock_inData : g.InData first := by
  rw [survey] at hin
  exact hin _ (mem_cons_of_mem _ mem_cons_self) first mem_cons_self

end

/-- **`check_subtree` goes through the events of the subtree.** -/
theorem checkSubtree_eq {st : Tally} (h : Sees rd g w)
    (hin : ∀ ev ∈ survey rd levels node, ev.InData g) :
    checkSubtree levels node st w = foldEach (survey rd levels node) st checkEvent w := by
  induction levels generalizing node st w with
  | zero => rfl
  | succ levels ih =>
    obtain ⟨itype, first, count⟩ := node
    have hextent := extent_inData hin
    rw [survey, foldEach, checkEvent, bind_assoc_apply]
    refine bind_congr_apply rfl fun _ t ht => ?_
    have ht' : Sees rd g t := (h.bmSetRange fun b hb => (hextent b hb).lt).of_ok ht
    rw [pure_bind_apply]
    by_cases hdir : itype = itypeDir
    · -- the blocks of a directory, and the records in each
      subst hdir
      rw [if_pos rfl, if_pos rfl, foldEach_flatMap]
      refine foldEach_congr (Sees rd g) ht' (fun block hblock b u hu => ?_) fun block hblock b u hu => ?_
      · rw [foldEach, checkEvent, bind_assoc_apply, scan_bind_apply, scan_bind_apply, pure_bind_apply,
          hu.tdRead_eq (hu.not_bitmap (hextent block hblock))]
        cases hread : tdRead rd block with
        | none => rfl
        | some blk =>
          rw [foldEach_flatMap]
          refine foldEach_congr (Sees rd g) hu.ticked (fun node hnode b v hv => ?_)
            fun node hnode b v hv => ?_
          · exact ih hv fun ev hev => hin ev (mem_survey_dir hblock hread hnode hev)
          · exact hv.checkEvents (fun ev hev => hin ev (mem_survey_dir hblock hread hnode hev)) b
      · refine hu.checkEvents (fun ev hev => hin ev ?_) b
        rw [survey]
        exact mem_cons_of_mem _ (mem_flatMap.mpr ⟨block, hblock, hev⟩)
    · rw [if_neg hdir, if_neg hdir, decide_eq_false hdir]
      by_cases hfrag : itype = itypeFileFrag
      · subst hfrag
        rw [if_pos rfl, if_pos rfl, foldEach, checkEvent, bind_assoc_apply, scan_bind_apply, scan_bind_apply,
          pure_bind_apply, ht'.extOf_eq (ht'.not_bitmap (extBlock_inData hin))]
        cases hext : extOf rd first with
        | none => rfl
        | some runs =>
          rw [foldEach_append]
          exact runs_bind checkEvent (fun _ _ => rfl)
            (fun first count => bmSetRange first count true) (fun _ _ _ => rfl)
            (fun _ _ _ hw hin => hw.bmSetRange fun b hb => (hin b hb).lt)
            (fun _ st _ ht hin => ht.checkEvent hin st) ht'.ticked (runs_inData hin hext) true
            ((st.add count).file) fun acc => pure (acc.2.verdict acc.1)
      · rw [if_neg hfrag, if_neg hfrag, foldEach_append]
        exact verifyData_bind checkEvent (fun _ _ => rfl) ht' hextent true
          ((st.add count).file) fun ok st => pure (st.verdict ok)

/-- **`scrub_subtree` goes through the same events.** -/
theorem scrubSubtree_eq {st : Tally} (h : Sees rd g w)
    (hin : ∀ ev ∈ survey rd levels node, ev.InData g) :
    scrubSubtree levels node st w = foldEach (survey rd levels node) st scrubEvent w := by
  induction levels generalizing node st w with
  | zero => rfl
  | succ levels ih =>
    obtain ⟨itype, first, count⟩ := node
    have hextent := extent_inData hin
    rw [scrubSubtree, survey, foldEach, scrubEvent, pure_bind_apply]
    by_cases hdir : itype = itypeDir
    · subst hdir
      rw [if_pos rfl, if_pos rfl, foldEach_flatMap]
      refine foldEach_congr (Sees rd g) h (fun block hblock b u hu => ?_) fun block hblock b u hu => ?_
      · rw [foldEach, scrubEvent, bind_assoc_apply, scan_bind_apply, scan_bind_apply, pure_bind_apply,
          hu.tdRead_eq (hu.not_bitmap (hextent block hblock))]
        cases hread : tdRead rd block with
        | none => rfl
        | some blk =>
          rw [foldEach_flatMap]
          refine foldEach_congr (Sees rd g) hu.ticked (fun node hnode b v hv => ?_)
            fun node hnode b v hv => ?_
          · exact ih hv fun ev hev => hin ev (mem_survey_dir hblock hread hnode hev)
          · exact hv.scrubEvents b
      · exact hu.scrubEvents b
    · rw [if_neg hdir, if_neg hdir, decide_eq_false hdir]
      by_cases hfrag : itype = itypeFileFrag
      · subst hfrag
        rw [if_pos rfl, if_pos rfl, foldEach, scrubEvent, bind_assoc_apply, scan_bind_apply, scan_bind_apply,
          pure_bind_apply, h.extOf_eq (h.not_bitmap (extBlock_inData hin))]
        cases hext : extOf rd first with
        | none => rfl
        | some runs =>
          rw [foldEach_append]
          exact runs_bind scrubEvent (fun _ _ => rfl) (fun _ _ => pure ())
            (fun _ _ _ => rfl) (fun _ _ _ hw _ => hw) (fun _ st _ ht _ => ht.scrubEvent st) h.ticked
            (runs_inData hin hext) true (st.file.add count) fun acc => pure (acc.2.verdict acc.1)
      · rw [if_neg hfrag, if_neg hfrag, foldEach_append]
        exact verifyData_bind scrubEvent (fun _ _ => rfl) h hextent true
          (st.file.add count) fun ok st => pure (st.verdict ok)

end Subtrees

end Godspeed.Gsfs
