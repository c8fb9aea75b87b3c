import Godspeed.Pm.Chain

/-!
# Everything a verified chain says hangs from the pin

Over any number of calls of `verify`, whatever is served and wherever the power
goes: the root kept hangs from the pin it was met under (`Anchored`), and a kept
snapshot of the length that `seen` says has the digest that `seen` says (`Sound`).
The second needs that no snapshot comes into its place without what is recorded
after it (`Steady`): `seen` and the snapshot are two files.
-/

namespace Godspeed.Pm.Chain

open Prog Calls Transition Function Option

structure Sound (c : Crate) (s : Trusted) : Prop where
  anchored : Anchored c s
  snapshot : ∀ v d b, (seenOf c s).snapshot = some (v, d, b.length) →
    s.snapshot false = some b → c.digest b = d
  small : ∀ b, s.snapshot false = some b → b.length ≤ snapshotFileMax

/-- What a call that returns stands for. -/
structure Sourced (c : Crate) (a : Attempt) (s : Trusted) (v : Verified c) (t : Trusted) :
    Prop where
  /-- The root hangs from the pin, and the timestamp is verified by it. -/
  root : ∃ b, Rooted c a.pin b ∧ c.parseRoot b = some v.root
  timestamp : ∃ b sig, c.verifyTimestamp v.root b sig a.now (seenOf c s).timestamp =
    some v.timestamp
  notOlder : ∀ n, (seenOf c s).timestamp = some n → n ≤ c.timestampVersion v.timestamp
  /-- The file from which index lines are read is the one the timestamp names. -/
  snapshot : ∃ b, t.snapshot false = some b ∧ c.digest b = c.snapshotDigest v.timestamp

section Keeping

variable {c : Crate} {a : Attempt} {s t u : Trusted} {g : Gathered c}

lemma seenOf_congr (h : u.seen = s.seen) : seenOf c u = seenOf c s := by
  rw [seenOf, seenOf, h]

lemma seenOf_seenText (hlen : g.snapshot.length ≤ snapshotFileMax) (hu : u.seen = some g.seenText) :
    seenOf c u = ⟨some (c.timestampVersion g.timestamp), some (c.namespacesVersion g.namespaces),
      some (c.headVersion g.head, g.digest, g.snapshot.length)⟩ := by
  rw [seenOf, hu, map_some]
  exact readSeen_seenText c (c.version_lt.1 _) (c.version_lt.2.2 _) (c.version_lt.2.1 _)
    (lt_of_le_of_lt hlen (by decide))

lemma Anchored.of_record {b : Bytes} {changed : Bool} (hs : Anchored c s)
    (hroot : rootOf c a s = some (b, changed)) (hu : (u.root = s.root ∧ u.pin = s.pin) ∨
      (u.root = some b ∧ (u.pin = s.pin ∨ u.pin = some a.pin))) : Anchored c u := by
  have hrooted := hs.rooted hroot
  intro t b' ht hb'
  rcases hu with ⟨hr, hp⟩ | ⟨hr, hp | hp⟩
  · exact hs t b' (hp ▸ ht) (hr ▸ hb')
  · rw [(rootOf_spec hroot).1 t (hp ▸ ht)]
    exact some.inj (hr.symm.trans hb') ▸ hrooted
  · rw [← some.inj (hp.symm.trans ht), hrooted.trim_pin]
    exact some.inj (hr.symm.trans hb') ▸ hrooted

lemma Sound.of_kept (hs : Sound c s) (hanchored : Anchored c u) (hseen : u.seen = s.seen)
    (hsnap : u.snapshot false = s.snapshot false ∨ u.snapshot false = none) : Sound c u := by
  refine ⟨hanchored, fun v d b h hb => ?_, fun b hb => ?_⟩
  · rw [seenOf_congr hseen] at h
    rcases hsnap with hsnap | hsnap
    · exact hs.snapshot v d b h (hsnap ▸ hb)
    · rw [hsnap] at hb
      cases hb
  · rcases hsnap with hsnap | hsnap
    · exact hs.small b (hsnap ▸ hb)
    · rw [hsnap] at hb
      cases hb

lemma Sound.gathered (hs : Sound c s) (honline : a.offline = false)
    (h : reuse c a s g.toBegun = some (g.digest, g.snapshot) ∨
      (g.digest = c.digest g.snapshot ∧ g.snapshot.length ≤ snapshotFileMax ∧
        a.writes.rename = .done)) :
    c.digest g.snapshot = g.digest ∧ g.snapshot.length ≤ snapshotFileMax := by
  rcases h with hreuse | ⟨hdigest, hlen, -⟩
  · obtain ⟨hkept, v, hseen⟩ := reuse_spec hreuse
    rw [honline] at hkept
    rw [leastOf, if_neg (by simp [honline])] at hseen
    exact ⟨hs.snapshot v _ _ hseen hkept, hs.small _ hkept⟩
  · exact ⟨hdigest.symm, hlen⟩

/-- **A call keeps the files what they stand for**, however it ends. -/
theorem Sound.kept (hs : Sound c s) (hsteady : Steady a.writes) : Sound c (verify c a s).2 := by
  suffices hrun : Run (verify c a) s (fun _ t => Sound c t) fun _ t => Sound c t by
    rcases hend : verify c a s with ⟨result, t⟩
    cases result with
    | ok v => exact hrun.of_ok hend
    | error h => exact hrun.of_error hend
  have hkeep (t : Trusted) (ht : t.record = s.record)
      (hsnap : t.snapshot false = s.snapshot false ∨ t.snapshot false = none) : Sound c t := by
    simp only [Trusted.record, Prod.mk.injEq] at ht
    refine hs.of_kept (fun t' b ht' hb => hs.anchored t' b ?_ ?_) ht.2.2.1 hsnap
    · rw [← ht.1, ht']
    · rw [← ht.2.1, hb]
  rw [verify, run_bind, run_read, run_bind]
  refine run_gather.mono (fun g t ht => ?_) fun h t ht => ?_
  swap
  · obtain ⟨-, hrec, kept, hsnap, hkept⟩ := ht
    refine hkeep t hrec ?_
    rw [hsnap]
    cases hmode : a.offline with
    | true => exact .inl (update_of_ne (by decide) _ _)
    | false =>
      rw [update_self]
      exact hmode ▸ hkept hsteady
  obtain ⟨hrec, hbegun, -, hsnap, hfound⟩ := ht
  simp only [id_eq] at hrec hbegun hsnap hfound
  obtain ⟨hroot, -⟩ := begun_spec hbegun
  have hfiles := hrec
  simp only [Trusted.record, Prod.mk.injEq] at hfiles
  obtain ⟨hpin, hrootfile, hseen, -⟩ := hfiles
  cases hmode : a.offline with
  | true =>
    simp only [if_true]
    have hsame : t.snapshot false = s.snapshot false := by
      rw [hsnap, hmode, update_of_ne (by decide)]
    have hnames : ∀ names, Sound c { t with namespaces := names } := fun names =>
      hs.of_kept (fun t' b ht' hb => hs.anchored t' b (hpin ▸ ht') (hrootfile ▸ hb)) hseen
        (.inl hsame)
    rw [run_bind]
    refine run_recordOffline.mono (fun record u hu => ?_) fun h u hu => ?_
    · obtain ⟨-, -, ⟨rfl, -⟩ | ⟨rfl, -⟩⟩ := hu
      · exact hnames _
      · exact hnames _
    · rcases hu with rfl | ⟨-, -, rfl⟩
      · exact hnames _
      · exact hnames _
  | false =>
    simp only [Bool.false_eq_true, if_false]
    obtain ⟨hdigest, hlen⟩ := hs.gathered hmode hfound
    have hplace : t.snapshot false = some g.snapshot := by
      rw [hsnap, hmode, update_self]
    -- a recording that is cut off found the snapshot in its place
    have hold (u : Trusted) (hu : u.snapshot = t.snapshot) (hsn : u.seen = t.seen)
        (hanchored : Anchored c u) (hcut : ¬ (a.writes.root = .done ∧ a.writes.pin = .done ∧
          a.writes.namespaces = .done ∧ a.writes.seen = .done)) : Sound c u := by
      refine hs.of_kept hanchored (hsn.trans hseen) (.inl ?_)
      rcases hfound with hreuse | ⟨-, -, hrename⟩
      · rw [hu, hplace, ← (reuse_spec hreuse).1, hmode]
      rcases hsteady with hr | hr | hr
      · rw [hrename] at hr
        cases hr
      · rw [hrename] at hr
        cases hr
      · exact absurd hr.2 hcut
    have hnew (u : Trusted) (hu : u.snapshot = t.snapshot) (hsn : u.seen = some g.seenText)
        (hanchored : Anchored c u) : Sound c u := by
      refine ⟨hanchored, fun v d b h hb => ?_, fun b hb => ?_⟩
      · rw [hu, hplace] at hb
        cases hb
        rw [seenOf_seenText hlen hsn] at h
        simp only [some.injEq, Prod.mk.injEq] at h
        rw [hdigest, h.2.1]
      · rw [hu, hplace] at hb
        cases hb
        exact hlen
    rw [run_bind]
    refine run_recordRoot.mono (fun _ u hu => ?_) fun h u hu => ?_
    · subst hu
      have hanchored : Anchored c { t with
          root := if g.changed then some g.bytes else t.root
          pin := if g.changed then some a.pin else t.pin } := by
        refine hs.anchored.of_record hroot ?_
        cases hch : g.changed with
        | true => exact .inr ⟨rfl, .inr rfl⟩
        | false => exact .inl ⟨hrootfile, hpin⟩
      rw [run_bind]
      refine run_recordSeen.mono (fun _ u hu => ?_) fun h u hu => ?_
      · subst hu
        exact hnew _ rfl rfl fun t' b ht' hb => hanchored t' b ht' hb
      obtain ⟨-, hcut, hsn, hr, hp, hseen' | hseen'⟩ := hu
      · exact hold u hsn hseen' (fun t' b ht' hb => hanchored t' b (hp ▸ ht') (hr ▸ hb))
          fun h => hcut h.2.2
      · exact hnew u hsn hseen' fun t' b ht' hb => hanchored t' b (hp ▸ ht') (hr ▸ hb)
    · obtain ⟨-, hcut, hsn, hseen', hcases⟩ := hu
      refine hold u hsn hseen' (hs.anchored.of_record hroot ?_) fun h => hcut ⟨h.1, h.2.1⟩
      rw [hrootfile, hpin] at hcases
      exact hcases

lemma Sound.blank (c : Crate) : Sound c .blank where
  anchored := fun _ _ h => by cases h
  snapshot := fun _ _ _ _ h => by cases h
  small := fun _ h => by cases h

/-- **Any number of calls.** -/
theorem Sound.of_reaches
    (hrun : Reaches (verifyStep c) (fun _ a => Steady a.writes) Trusted.blank s) : Sound c s :=
  hrun.invariant (Sound.blank c) fun s a t hs hsteady hstep => by
    cases hstep
    exact hs.kept hsteady

lemma run_verify (hs : Sound c s) : Run (verify c a) s
    (fun v t => a.offline = false → Sourced c a s v t)
    (fun h t => h = .refusal .checking → t.record = s.record) := by
  rw [verify, run_bind, run_read, run_bind]
  refine run_gather.mono (fun g t ht => ?_) fun h t ht _ => ht.record
  obtain ⟨hrec, hbegun, hrest, hsnap, hfound⟩ := ht
  simp only [id_eq] at hrec hbegun hrest hsnap hfound
  cases hmode : a.offline with
  | true =>
    simp only [if_true, run_bind]
    refine run_recordOffline.mono (fun record u _ h => by cases h) fun h u hu hh => ?_
    rcases hu with rfl | ⟨hne, -⟩
    · exact hrec
    · exact absurd hh hne
  | false =>
    simp only [Bool.false_eq_true, if_false, run_bind]
    refine run_recordRoot.mono (fun _ u hu => ?_) fun h u hu hh => absurd hh hu.1
    subst hu
    refine run_recordSeen.mono (fun _ u hu _ => ?_) fun h u hu hh => absurd hh hu.1
    subst hu
    obtain ⟨hroot, hparse, -, hnow, htimestamp⟩ := begun_spec hbegun
    rw [hnow hmode, leastOf, if_neg (by simp [hmode])] at htimestamp
    refine ⟨⟨g.bytes, hs.anchored.rooted hroot, hparse⟩, ⟨_, _, htimestamp⟩,
      fun n hn => ?_, g.snapshot, ?_, ?_⟩
    · rw [hn] at htimestamp
      exact c.timestamp_seen _ _ _ _ _ _ htimestamp
    · change t.snapshot false = _
      rw [hsnap, hmode, update_self]
    · rw [(hs.gathered hmode hfound).1, (checkRest_spec hrest).1]

end Keeping

namespace Sample

/-- A crate whose documents are their first bytes: a timestamp says its version, the
version and the digest of the snapshot, namespaces say their version and whether the
key is revoked.  A digest says whether the first byte is 1. -/
def crate : Crate where
  Digest := Bool
  Root := Unit
  Timestamp := Bytes
  Head := Unit
  Namespaces := Bytes
  Key := Unit
  sameDigest := inferInstance
  digest b := b.headD 0 = 1
  digestText d := if d then ['o'] else ['e']
  readDigest t := if t = ['o'] then some true else if t = ['e'] then some false else none
  parseRoot _ := some ()
  rootVersion _ := 1
  verifyBy _ _ _ := true
  verifyNextRoot _ _ _ := false
  rootFresh _ _ := true
  parseTimestamp b := some b
  expires _ := []
  timestampVersion t := (t.headD 0).toNat
  snapshotVersion t := (t.getD 1 0).toNat
  snapshotDigest t := t.getD 2 0 = 1
  verifyTimestamp _ b _ _ least :=
    if least.all (· ≤ (b.headD 0).toNat) then some b else none
  parseHead _ := some ()
  headVersion _ := 1
  verifySnapshot _ t d _ _ _ := d = decide (t.getD 2 0 = 1)
  indexLines _ := true
  parseNamespaces b := if b ≠ [] then some b else none
  namespacesVersion b := (b.headD 0).toNat
  status b _ _ := if b.getD 1 0 = 1 then some (.revoked []) else some .active
  verifyNamespaces _ _ b _ _ least :=
    if b ≠ [] ∧ least.all (· ≤ (b.headD 0).toNat) = true then some b else none
  readDigest_text d := by cases d <;> decide
  isWord_text d := by
    cases d
    · exact Text.isWord_of_all (by decide) (by decide)
    · exact Text.isWord_of_all (by decide) (by decide)
  version_lt := ⟨fun t => lt_of_lt_of_le (UInt8.toNat_lt _) (by decide), fun _ => by decide,
    fun n => lt_of_lt_of_le (UInt8.toNat_lt _) (by decide)⟩
  next_version _ _ _ h := by cases h
  timestamp_seen _ b _ _ n t h := by
    rw [ite_none_right_eq_some] at h
    cases h.2
    simpa using h.1
  snapshot_digest _ _ _ _ _ _ h := of_decide_eq_true h
  namespaces_nil := rfl
  namespaces_text _ _ b _ _ _ n h := by
    rw [ite_none_right_eq_some] at h ⊢
    exact ⟨h.1.1, h.2⟩
  namespaces_seen _ _ b _ _ n t h := by
    rw [ite_none_right_eq_some] at h
    cases h.2
    simpa using h.1.2

/-- A registry that serves a timestamp, a snapshot and namespaces. -/
def serves (timestamp snapshot namespaces : Bytes) : Served where
  rootOne := some ([1], [])
  rotations := []
  rotationsEnd := true
  documents := some ⟨timestamp, [], [], namespaces, []⟩
  snapshot := some snapshot

def calls (served : Served) (offline : Bool) (writes : Writes) : Attempt where
  pin := ['o']
  now := []
  offline := offline
  served := served
  reads := ⟨true, true, true, true, true, true, true⟩
  writes := writes

/-- Timestamp 1 names the snapshot `[1, 7]`. -/
def first : Attempt := calls (serves [1, 1, 1] [1, 7] [1]) false .done

/-- Timestamp 2 names the snapshot `[2, 7]`; the power goes before `seen` is written. -/
def interrupted : Attempt :=
  calls (serves [2, 1, 0] [2, 7] [1]) false { Writes.done with seen := .cut }

end Sample

end Godspeed.Pm.Chain
