import Godspeed.Lib.Tracking
import Godspeed.Lib.Transition
import Godspeed.Capability.Band
import Godspeed.Gsfs.Files

/-!
# The handles of the serve loop

`service_main`, `serve`, `serve_once` and `serve_filecap`, as far as they concern the
file capabilities: the table of open files of the volume that is mounted, the flag that
sends the loop into a re-mount, and the band of delegated resources at the kernel.  What
the device and the kernel answer during a request comes from outside (`Attempt`), so a
request may fail at any point.

The volume value is replaced at five places: the re-mount before a request, the re-mount
for a retry, the mount of a volume that was not there, the format, and the drops of
`OP_DRIVES_INFO` and `OP_RESET`.

The kernel makes a delegated resource on `mint` and frees it on `revoke`; the owner of a
band slot is the endpoint of the service that minted it.
-/

namespace Godspeed.Gsfs

open Capability Tracking List Band

/-- `delegated::revoke_owned`: only the owner revokes. -/
def revokeOwned (me rid : Nat) (band : Band) : Band :=
  match slotOf rid with
  | none => band
  | some slot => if band.owner slot = some me then band.free slot else band

/-- The part of `Fs` that the handles depend on. -/
structure Handles where
  openFiles : List OpenFile
  ioErrorSeen : Bool
  deriving DecidableEq, Repr

/-- The service: its volume, if one is mounted, and the band at the kernel. -/
structure Service where
  vol : Option Handles
  band : Band

/-- `service_main` before the first mount. -/
def Service.start : Service := ⟨none, new⟩

open Handles

/-- The open files of the volume that is mounted. -/
def Service.table (s : Service) : List OpenFile := (s.vol.map openFiles).getD []

/-- The resource is live at the kernel and owned by this service. -/
def Service.Live (me : Nat) (s : Service) (rid : Nat) : Prop := s.band.ownerOf rid = some me

/-- The opcodes of `serve_once`, with the fields that the handles depend on. -/
inductive Op
  | readFile
  | statFile
  | listDir
  | readAt
  | scrub
  | drivesInfo
  | flash
  | reset
  | openFile (path : List UInt8) (appendOnly : Bool)
  | delete (path : List UInt8)
  | deleteTree (path : List UInt8)
  | rename (path : List UInt8)
  | move (src : List UInt8)
  | writeFile
  | writeNew
  | writeAt
  | writeAtJ
  | mkdir
  | mkdirP
  | seal
  | label
  | check
  | quiesce
  deriving DecidableEq, Repr

/-- `op_is_read_only`. -/
def Op.isReadOnly : Op → Bool
  | .readFile | .statFile | .listDir | .readAt | .drivesInfo | .scrub => true
  | _ => false

/-- The operations of `serve_filecap`. -/
inductive Fop
  | read
  | write (upTo : Nat)
  | stat
  | close
  deriving DecidableEq, Repr

/-- What the outside does during one attempt at a request. -/
structure Attempt where
  /-- A block request of the volume met a device error. -/
  errored : Bool
  /-- The operation was not refused before it came to its work on the handles. -/
  reached : Bool
  /-- The answer of `block_capacity`. -/
  capacity : Option Nat
  /-- The kernel has room for the capability of a new resource. -/
  roomy : Bool
  /-- The capability was duplicated and sent. -/
  granted : Bool
  deriving DecidableEq, Repr

/-- The end of a `mount_into`: `none` when it fails, and otherwise whether the new volume
has seen a device error already. -/
abbrev Mounting := Option Bool

/-- The volume that `mount_into` and `format_into` store. -/
def Handles.fresh (errored : Bool) : Handles := ⟨[], errored⟩

def Handles.noted (v : Handles) (a : Attempt) : Handles :=
  { v with ioErrorSeen := v.ioErrorSeen || a.errored }

section Table

variable (me : Nat) (path : List UInt8)

/-- Revoke the entries that are not kept, and strike them: the loop of
`revoke_open_by_path`, `revoke_open_subtree` and `revoke_all_open`. -/
def revokeUnless (keep : OpenFile → Bool) (v : Handles) (band : Band) : Service :=
  ⟨some { v with openFiles := v.openFiles.filter keep },
    ((v.openFiles.filter fun o => !keep o).map OpenFile.rid).foldl (fun b rid => revokeOwned me rid b) band⟩

/-- `revoke_open_by_path`. -/
def revokeByPath : Handles → Band → Service :=
  revokeUnless me fun o => !(o.path = path)

/-- `revoke_open_subtree`. -/
def revokeSubtree : Handles → Band → Service :=
  revokeUnless me fun o => !pathInSubtree o.path path

/-- `revoke_all_open`. -/
def revokeAllOpen : Handles → Band → Service := revokeUnless me fun _ => false

/-- `open_file`, from the choice of a slot on. -/
def openHandle (appendOnly : Bool) (a : Attempt) (v : Handles) (band : Band) : Service :=
  if v.openFiles.length < maxOpen then
    match band.claim me with
    | none => ⟨some v, band⟩
    | some (slot, claimed) =>
      -- a resource whose capability finds no room is released by the kernel
      if !a.roomy then ⟨some v, claimed.free slot⟩
      else if !a.granted then ⟨some v, revokeOwned me slot.id claimed⟩
      else ⟨some { v with openFiles := v.openFiles ++ [⟨slot.id, appendOnly, 0, path⟩] }, claimed⟩
  else ⟨some v, band⟩

end Table

section Loop

variable (me : Nat) (op : Op)

/-- What an operation of a mounted volume does to the handles once it comes to it. -/
def Op.act (a : Attempt) (v : Handles) (band : Band) : Op → Service
  | .delete path => revokeByPath me path v band
  | .deleteTree path | .rename path | .move path => revokeSubtree me path v band
  | .openFile path appendOnly => openHandle me path appendOnly a v band
  | _ => ⟨some v, band⟩

/-- The volume is dropped, after its handles were revoked. -/
def Service.dropped (s : Service) : Service :=
  match s.vol with
  | none => s
  | some v => { revokeAllOpen me v s.band with vol := none }

/-- `serve_once`. -/
def serveOnce (a : Attempt) (s : Service) : Service :=
  match op with
  | .drivesInfo => if a.capacity = some 0 then s.dropped me else s
  -- the format stores a new volume over the one that is there
  | .flash => if a.reached then { s with vol := some (.fresh a.errored) } else s
  | .reset => if a.reached then s.dropped me else s
  | .quiesce => s
  | op =>
    match s.vol with
    | none => s
    | some v => if a.reached then op.act me a (v.noted a) s.band else { s with vol := some (v.noted a) }

/-- The flag of the last request is cleared. -/
def Service.unflagged (s : Service) : Service :=
  { s with vol := s.vol.map fun v => { v with ioErrorSeen := false } }

/-- A read-only operation that met a device error: a re-mount and a second attempt. -/
def Service.retried (remount : Mounting) (second : Attempt) (s : Service) : Service :=
  if s.vol.any ioErrorSeen && op.isReadOnly then
    match remount with
    | some errored => serveOnce me op second { s with vol := some (.fresh errored) }
    | none => s
  else s

/-- `serve`. -/
def serveNamed (first : Attempt) (remount : Mounting) (second : Attempt) (s : Service) : Service :=
  (serveOnce me op first s.unflagged).retried me op remount second

/-- `serve_filecap`. -/
def serveBadged (rid : Nat) (fop : Fop) (a : Attempt) (s : Service) : Service :=
  match s.vol with
  | none => s
  | some v =>
    match fop with
    | .close =>
      ⟨some { v with openFiles := v.openFiles.filter fun o => !(o.rid = rid) }, revokeOwned me rid s.band⟩
    | .write upTo =>
      let v := v.noted a
      { s with vol := some (if a.reached then { v with openFiles := v.openFiles.map fun o =>
          if o.rid = rid ∧ o.writeHwm < upTo then { o with writeHwm := upTo } else o } else v) }
    | _ => { s with vol := some (v.noted a) }

/-- A volume that has seen a device error is mounted anew before the next request. -/
def Service.remounted (remount : Mounting) (s : Service) : Service :=
  if s.vol.any ioErrorSeen then { s.dropped me with vol := remount.map .fresh } else s

/-- A volume that is not there is mounted when the device has a capacity. -/
def Service.healed (heal : Mounting) (s : Service) : Service :=
  if s.vol.isNone then { s with vol := heal.map .fresh } else s

def Service.prepared (remount heal : Mounting) (s : Service) : Service := (s.remounted me remount).healed heal

/-- A round of the serve loop, and what other owners of resources do meanwhile. -/
inductive Round
  /-- A message without a reply capability is not a request. -/
  | push (remount heal : Mounting)
  | named (remount heal : Mounting) (op : Op) (first : Attempt) (retry : Mounting) (second : Attempt)
  | badged (remount heal : Mounting) (rid : Nat) (fop : Fop) (a : Attempt)
  | otherMints (who : Nat)
  | otherRevokes (who rid : Nat)
  deriving DecidableEq, Repr

/-- One round.  Endpoints are not shared, so the others are not this service. -/
def round (s : Service) : Round → Option Service
  | .push remount heal => some (s.prepared me remount heal)
  | .named remount heal op first retry second =>
    some (serveNamed me op first retry second (s.prepared me remount heal))
  | .badged remount heal rid fop a => some (serveBadged me rid fop a (s.prepared me remount heal))
  | .otherMints who =>
    if who = me then none else some { s with band := ((s.band.claim who).map Prod.snd).getD s.band }
  | .otherRevokes who rid => if who = me then none else some { s with band := revokeOwned who rid s.band }

end Loop

section Band

variable {me who rid : Nat} {band : Band}

lemma ownerOf_revokeOwned {k : Nat} : (revokeOwned me rid band).ownerOf k = some who ↔
      band.ownerOf k = some who ∧ ¬(who = me ∧ k = rid) := by
  unfold revokeOwned
  split
  next hnone =>
    refine ⟨fun h => ⟨h, ?_⟩, And.left⟩
    rintro ⟨-, rfl⟩
    simp [ownerOf, hnone] at h
  rename_i slot hslot
  obtain rfl := slotOf_eq_some_iff.mp hslot
  unfold ownerOf
  cases hk : slotOf k with
  | none => split <;> simp
  | some other =>
    obtain rfl := slotOf_eq_some_iff.mp hk
    by_cases hsame : other = slot
    · subst hsame
      split <;> rename_i howner
      · simp [howner, eq_comm]
      · have : ∀ h : band.owner other = some who, who ≠ me := fun h heq => howner (heq ▸ h)
        simpa using this
    · have hid : other.id ≠ slot.id := fun h => hsame (BandSlot.id_injective h)
      split <;> simp [hsame, hid]

lemma ownerOf_foldl_revokeOwned {k : Nat} (rids : List Nat) :
    (rids.foldl (fun b rid => revokeOwned me rid b) band).ownerOf k = some who ↔
      band.ownerOf k = some who ∧ ¬(who = me ∧ k ∈ rids) := by
  induction rids generalizing band with
  | nil => simp
  | cons rid rids ih =>
    rw [foldl_cons, ih, ownerOf_revokeOwned, mem_cons]
    tauto

lemma ownerOf_claim {slot : BandSlot} {claimed : Band} (h : band.claim me = some (slot, claimed)) :
    band.ownerOf slot.id = none ∧
      ∀ k who, claimed.ownerOf k = some who ↔ band.ownerOf k = some who ∨ who = me ∧ k = slot.id := by
  obtain ⟨hfree, hclaimed⟩ := claim_spec h
  refine ⟨by simp [hfree], fun k who => ?_⟩
  unfold ownerOf
  cases hk : slotOf k with
  | none =>
    have hne : k ≠ slot.id := by
      rintro rfl
      simp at hk
    simp [hne]
  | some other =>
    obtain rfl := slotOf_eq_some_iff.mp hk
    by_cases hsame : other = slot
    · subst hsame
      simp [hclaimed, hfree, eq_comm]
    · have hid : other.id ≠ slot.id := fun h => hsame (BandSlot.id_injective h)
      simp [hclaimed, hsame, hid]

lemma ownerOf_claim_free {slot : BandSlot} {claimed : Band}
    (h : band.claim me = some (slot, claimed)) (k who : Nat) :
    (claimed.free slot).ownerOf k = some who ↔ band.ownerOf k = some who := by
  obtain ⟨hfree, hclaimed⟩ := claim_spec h
  have hback : (claimed.free slot).owner = band.owner := by
    rw [owner_free, hclaimed, Function.update_idem, ← hfree, Function.update_eq_self]
  rw [ownerOf, hback, ownerOf]

end Band

/-- The table and the kernel agree, and the table has its size. -/
structure Tracked (me : Nat) (s : Service) : Prop where
  tracks : Tracks OpenFile.rid (s.Live me) s.table
  fits : s.table.length ≤ maxOpen

open Service

section Keeping

variable {me : Nat} {s : Service} {v : Handles} {band : Band} {a : Attempt} {op : Op}

@[simp] lemma table_some : table ⟨some v, band⟩ = v.openFiles := rfl

@[simp] lemma table_none : table ⟨none, band⟩ = [] := rfl

@[simp] lemma openFiles_noted (a : Attempt) : (v.noted a).openFiles = v.openFiles := rfl

lemma table_map {f : Handles → Handles} (hf : ∀ v, (f v).openFiles = v.openFiles) :
    table ⟨s.vol.map f, band⟩ = s.table := by
  obtain ⟨_ | v, _⟩ := s
  · rfl
  · exact hf v

lemma Tracked.of_same {t : Service} (h : Tracked me s) (htable : t.table = s.table)
    (hlive : ∀ k, t.Live me k ↔ s.Live me k) : Tracked me t :=
  ⟨htable ▸ h.tracks.congr hlive, htable ▸ h.fits⟩

lemma tracked_revokeUnless (keep : OpenFile → Bool) (h : Tracked me ⟨some v, band⟩) :
    Tracked me (revokeUnless me keep v band) := by
  refine ⟨h.tracks.strike keep fun k => ?_, (length_filter_le _ _).trans h.fits⟩
  simp [Live, revokeUnless, ownerOf_foldl_revokeOwned]

lemma not_live_dropped (h : Tracked me s) (k : Nat) : ¬(s.dropped me).Live me k := by
  unfold dropped
  split
  next hnone =>
    exact tracks_nil_iff.mp (by simpa [table, hnone] using h.tracks) k
  rename_i v hsome
  obtain ⟨vol, band⟩ := s
  subst hsome
  have hrevoked := (tracked_revokeUnless (fun _ => false) h).tracks
  rw [show (revokeUnless me (fun _ => false) v band).table = [] by simp [revokeUnless]] at hrevoked
  exact tracks_nil_iff.mp hrevoked k

lemma tracked_of_empty (hempty : s.table = []) (hnone : ∀ k, ¬s.Live me k) : Tracked me s :=
  ⟨hempty ▸ tracks_nil_iff.mpr hnone, by simp [hempty]⟩

lemma table_fresh (mounted : Mounting) : table ⟨mounted.map .fresh, band⟩ = [] := by
  cases mounted <;> rfl

@[simp] lemma vol_dropped : (s.dropped me).vol = none := by
  unfold dropped
  split
  · assumption
  · rfl

lemma tracked_dropped (h : Tracked me s) : Tracked me (s.dropped me) :=
  tracked_of_empty (by simp [table]) (not_live_dropped h)

lemma tracked_openHandle {path : List UInt8} {appendOnly : Bool} (h : Tracked me ⟨some v, band⟩) :
    Tracked me (openHandle me path appendOnly a v band) := by
  unfold openHandle
  split
  next hroom =>
    split
    · exact h
    rename_i slot claimed hclaim
    obtain ⟨hfree, hclaimed⟩ := ownerOf_claim hclaim
    have hnew : ¬Live me ⟨some v, band⟩ slot.id := by simp [Live, hfree]
    split
    · exact h.of_same rfl fun k => ownerOf_claim_free hclaim k me
    split
    · -- nothing was handed out: the resource that was minted is revoked again
      refine h.of_same rfl fun k => ?_
      simp only [Live, ownerOf_revokeOwned, hclaimed, true_and]
      constructor
      · rintro ⟨hk | hk, hne⟩
        · exact hk
        · exact absurd hk hne
      · intro hk
        refine ⟨.inl hk, ?_⟩
        rintro rfl
        exact hnew hk
    · refine ⟨h.tracks.enter ⟨slot.id, appendOnly, 0, path⟩ hnew fun k => ?_, ?_⟩
      · simp [Live, hclaimed]
      · simpa using Nat.succ_le_of_lt hroom
  · exact h

lemma tracked_act (h : Tracked me ⟨some v, band⟩) : Tracked me (op.act me a v band) := by
  cases op with
  | delete path | deleteTree path | rename path | move path => exact tracked_revokeUnless _ h
  | openFile path appendOnly => exact tracked_openHandle h
  | _ => exact h

section

variable (h : Tracked me s)
include h

lemma Tracked.not_live (hempty : s.table = []) (k : Nat) : ¬s.Live me k :=
  tracks_nil_iff.mp (hempty ▸ h.tracks) k

lemma tracked_onVolume : Tracked me (match s.vol with
      | none => s
      | some v => if a.reached then op.act me a (v.noted a) s.band else { s with vol := some (v.noted a) }) := by
  obtain ⟨vol, band⟩ := s
  cases vol with
  | none => exact h
  | some v =>
    have hnoted : Tracked me ⟨some (v.noted a), band⟩ := h.of_same rfl fun _ => Iff.rfl
    simp only
    split
    · exact tracked_act hnoted
    · exact hnoted

lemma tracked_serveOnce (hflash : op = .flash → a.reached → s.table = []) :
    Tracked me (serveOnce me op a s) := by
  cases op with
  | drivesInfo | reset =>
    simp only [serveOnce]
    split
    · exact tracked_dropped h
    · exact h
  | flash =>
    simp only [serveOnce]
    split
    next hreached =>
      exact tracked_of_empty rfl (h.not_live (hflash rfl hreached))
    · exact h
  | quiesce => exact h
  | _ => exact tracked_onVolume h

lemma tracked_serveBadged {rid : Nat} {fop : Fop} : Tracked me (serveBadged me rid fop a s) := by
  obtain ⟨vol, band⟩ := s
  cases vol with
  | none => exact h
  | some v =>
    have hnoted : Tracked me ⟨some (v.noted a), band⟩ := h.of_same rfl fun _ => Iff.rfl
    cases fop with
    | close =>
      refine ⟨h.tracks.strike (fun o => !(o.rid = rid)) fun k => ?_, ?_⟩
      · -- the entries that go are those of the resource that is revoked
        have hgone : Live me ⟨some v, band⟩ k → (k = rid ↔
            k ∈ (v.openFiles.filter fun o => !!(o.rid = rid)).map OpenFile.rid) := by
          intro hk
          obtain ⟨o, ho, rfl⟩ := mem_map.mp ((h.tracks.named k).mp hk)
          constructor
          · rintro rfl
            exact mem_map.mpr ⟨o, by simpa using ho, rfl⟩
          intro hmem
          obtain ⟨o', ho', heq⟩ := mem_map.mp hmem
          rw [← heq]
          simpa using (mem_filter.mp ho').2
        simp only [Live, serveBadged, ownerOf_revokeOwned, true_and] at hgone ⊢
        exact and_congr_right fun hk => not_congr (hgone hk)
      · exact (length_filter_le _ _).trans h.fits
    | write upTo =>
      simp only [serveBadged]
      split
      · refine ⟨hnoted.tracks.map _ fun o => ?_, by simpa using hnoted.fits⟩
        split <;> rfl
      · exact hnoted
    | read | stat => exact hnoted

lemma tracked_remounted {remount : Mounting} : Tracked me (s.remounted me remount) := by
  unfold remounted
  split
  · exact tracked_of_empty (table_fresh remount) (not_live_dropped h)
  · exact h

lemma tracked_healed {heal : Mounting} : Tracked me (s.healed heal) := by
  unfold healed
  split
  next hnone =>
    refine tracked_of_empty (table_fresh heal) (h.not_live ?_)
    simp [table, Option.isNone_iff_eq_none.mp hnone]
  · exact h

end

@[simp] lemma table_unflagged : s.unflagged.table = s.table := table_map fun _ => rfl

lemma tracked_unflagged (h : Tracked me s) : Tracked me s.unflagged :=
  h.of_same table_unflagged fun _ => Iff.rfl

lemma tracked_retried {remount : Mounting} {second : Attempt} (h : Tracked me s)
    (hretry : s.vol.any ioErrorSeen → op.isReadOnly → remount.isSome →
      s.table = []) : Tracked me (s.retried me op remount second) := by
  unfold retried
  split
  next hcond =>
    obtain ⟨herrored, hop⟩ := Bool.and_eq_true_iff.mp hcond
    cases remount with
    | none => exact h
    | some errored =>
      refine tracked_serveOnce (tracked_of_empty rfl (h.not_live (hretry herrored hop rfl))) ?_
      rintro rfl
      exact absurd hop (by decide)
  · exact h

end Keeping

/-- A volume is mounted that stays for the next request and has files open. -/
def Service.Occupied (s : Service) : Prop :=
  s.vol.any (fun v => !v.ioErrorSeen && !v.openFiles.isEmpty) = true

instance (s : Service) : Decidable s.Occupied := inferInstanceAs (Decidable (_ = true))

/-- The operation formats, or it only reads, meets a device error and finds the device
back at the re-mount. -/
def Op.Replaces (op : Op) (first : Attempt) (retry : Mounting) : Prop :=
  op = .flash ∧ first.reached = true ∨
    op.isReadOnly = true ∧ op ≠ .drivesInfo ∧ first.errored = true ∧ retry.isSome = true

instance (op : Op) (first : Attempt) (retry : Mounting) : Decidable (op.Replaces first retry) :=
  inferInstanceAs (Decidable (_ ∨ _))

/-- The round replaces a volume that has files open, without a revocation. -/
def Discards (s : Service) : Round → Prop
  | .named _ _ op first retry _ => s.Occupied ∧ op.Replaces first retry
  | _ => False

instance (s : Service) (r : Round) : Decidable (Discards s r) := by
  unfold Discards
  split <;> infer_instance

section Rounds

variable {me : Nat} {s s' : Service} {r : Round}

lemma occupied_of_prepared {remount heal : Mounting} (h : (s.prepared me remount heal).table ≠ []) :
    s.Occupied := by
  obtain ⟨_ | v, band⟩ := s
  · exact absurd (table_fresh heal) h
  unfold prepared remounted at h
  cases hflag : v.ioErrorSeen with
  | true =>
    cases remount with
    | none => exact absurd (by simp [hflag, healed, table_fresh]) h
    | some errored => exact absurd (by simp [hflag, healed, fresh]) h
  | false =>
    simp only [healed] at h
    simpa [Occupied, hflag] using h

lemma serveOnce_readOnly {op : Op} {a : Attempt} (hop : op.isReadOnly) (hinfo : op ≠ .drivesInfo) :
    serveOnce me op a s = { s with vol := s.vol.map fun v => v.noted a } := by
  obtain ⟨vol, band⟩ := s
  cases op with
  | drivesInfo => exact absurd rfl hinfo
  | readFile | statFile | listDir | readAt | scrub =>
    cases vol with
    | none => rfl
    | some v =>
      simp only [serveOnce]
      split <;> rfl
  | _ => exact absurd hop (by simp [Op.isReadOnly])

lemma errored_of_flag {op : Op} {a : Attempt} (hop : op.isReadOnly)
    (hflag : (serveOnce me op a s.unflagged).vol.any ioErrorSeen) :
    op ≠ .drivesInfo ∧ a.errored := by
  by_cases hinfo : op = .drivesInfo
  · subst hinfo
    obtain ⟨_ | v, band⟩ := s
    all_goals
      simp only [serveOnce, unflagged] at hflag
      split at hflag <;> simp at hflag
  · rw [serveOnce_readOnly hop hinfo] at hflag
    obtain ⟨_ | v, band⟩ := s
    · simp [unflagged] at hflag
    · exact ⟨hinfo, by simpa [unflagged, noted] using hflag⟩

lemma tracked_round (h : Tracked me s) (hkeep : ¬Discards s r) (hround : round me s r = some s') :
    Tracked me s' := by
  cases r with
  | push remount heal =>
    cases hround
    exact tracked_healed (tracked_remounted h)
  | named remount heal op first retry second =>
    cases hround
    have hready : Tracked me (s.prepared me remount heal) := tracked_healed (tracked_remounted h)
    have hempty : op.Replaces first retry → (s.prepared me remount heal).table = [] := by
      intro hreplaces
      by_contra hne
      exact hkeep ⟨occupied_of_prepared hne, hreplaces⟩
    refine tracked_retried (tracked_serveOnce (tracked_unflagged hready) ?_) ?_
    · rintro rfl hreached
      exact table_unflagged.trans (hempty (.inl ⟨rfl, hreached⟩))
    intro hflag hop hretry
    obtain ⟨hinfo, herrored⟩ := errored_of_flag hop hflag
    rw [serveOnce_readOnly hop hinfo, table_map fun _ => openFiles_noted first, table_unflagged]
    exact hempty (.inr ⟨hop, hinfo, herrored, hretry⟩)
  | badged remount heal rid fop a =>
    cases hround
    exact tracked_serveBadged (tracked_healed (tracked_remounted h))
  | otherMints who =>
    simp only [round] at hround
    split at hround
    · cases hround
    rename_i hother
    cases hround
    refine h.of_same rfl fun k => ?_
    cases hclaim : s.band.claim who with
    | none => simp [Live]
    | some claimed => simp [Live, (ownerOf_claim hclaim).2, Ne.symm hother]
  | otherRevokes who rid =>
    simp only [round] at hround
    split at hround
    · cases hround
    rename_i hother
    cases hround
    refine h.of_same rfl fun k => ?_
    simp [Live, ownerOf_revokeOwned, Ne.symm hother]

/-- What is promised between two requests: every resource that was minted and not given
up is named by exactly one entry, every entry names a live resource, and the service never
owns more of the band than its table has room for. -/
structure Accounted (me : Nat) (s : Service) : Prop where
  named : ∀ rid, s.Live me rid → (s.table.map OpenFile.rid).count rid = 1
  live : ∀ o ∈ s.table, s.Live me o.rid
  bounded : (s.band.owned me).card ≤ maxOpen

lemma Tracked.accounted (h : Tracked me s) : Accounted me s where
  named _ hlive := h.tracks.count_eq_one hlive
  live o ho := (h.tracks.named o.rid).mpr (mem_map_of_mem ho)
  bounded := by
    have hsub : (s.band.owned me).image BandSlot.id ⊆ (s.table.map OpenFile.rid).toFinset := by
      intro rid hrid
      obtain ⟨slot, hslot, rfl⟩ := Finset.mem_image.mp hrid
      have howner : s.band.owner slot = some me := by simpa [owned] using hslot
      exact mem_toFinset.mpr ((h.tracks.named _).mp (by simpa [Live] using howner))
    calc (s.band.owned me).card = ((s.band.owned me).image BandSlot.id).card :=
          (Finset.card_image_of_injective _ fun _ _ => BandSlot.id_injective).symm
      _ ≤ (s.table.map OpenFile.rid).toFinset.card := Finset.card_le_card hsub
      _ ≤ (s.table.map OpenFile.rid).length := toFinset_card_le _
      _ ≤ maxOpen := by simpa using h.fits

lemma not_accounted {rid : Nat} (hempty : s.table = []) (hlive : s.Live me rid) : ¬Accounted me s := by
  intro h
  have hone := h.named rid hlive
  simp [hempty] at hone

end Rounds

section Runs

open Transition

variable {me : Nat} {first s : Service}

/-- **No file resource is orphaned** in a run of the serve loop in which no volume with
files open is formatted over or re-mounted for a retry.  The run may start with any
resources of other owners. -/
theorem handles_accounted (hvol : first.vol = none) (hband : ∀ rid, ¬first.Live me rid)
    (hrun : Reaches (round me) (fun s r => ¬Discards s r) first s) : Accounted me s := by
  have hfirst : Tracked me first := tracked_of_empty (by simp [table, hvol]) hband
  have htracked := hrun.invariant hfirst fun t r u ht hkeep hround => tracked_round ht hkeep hround
  exact htracked.accounted

/-- An attempt in which nothing goes wrong. -/
def Attempt.smooth : Attempt := ⟨false, true, some 1000, true, true⟩

/-- `OPEN` of a file, on a device that mounts. -/
def openRound : Round := .named none (some false) (.openFile [47, 97] false) .smooth none .smooth

lemma not_live_start (rid : Nat) : ¬start.Live me rid := by
  intro hlive
  cases hslot : slotOf rid <;> simp [Live, start, new, ownerOf] at hlive

/-- One file is open after another was closed and a third was deleted. -/
theorem handles_accounted_open :
    ∃ s, Reaches (round 7) (fun s r => ¬Discards s r) start s ∧ s.table.length = 1 ∧
      Accounted 7 s :=
  exists_reaches_and [openRound, .otherMints 9, openRound, .badged none none 4096 .close .smooth,
    .named none none (.delete [47, 97]) .smooth none .smooth, openRound] (by decide)
    fun _ hrun _ => handles_accounted rfl not_live_start hrun

/-- `OP_READ_FILE` meets a device error, and the re-mount for its retry succeeds. -/
def retryRound : Round :=
  .named none none .readFile { Attempt.smooth with errored := true } (some false) .smooth

/-- The resource of a file that was open before such a read stays live and has no entry. -/
theorem retry_orphans : ∃ s, Reaches (round 7) Free start s ∧ ¬Accounted 7 s := by
  obtain ⟨s, hrun, hempty, howner⟩ : ∃ s, Reaches (round 7) Free start s ∧
      s.table.isEmpty ∧ s.band.ownerOf 4096 = some 7 :=
    exists_reaches [openRound, retryRound] (by decide)
  exact ⟨s, hrun, not_accounted (isEmpty_iff.mp hempty) howner⟩

end Runs

end Godspeed.Gsfs
