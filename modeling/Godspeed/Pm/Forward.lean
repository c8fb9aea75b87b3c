import Godspeed.Pm.Pinned

/-!
# What was accepted does not go back

Over any mix of checks online and from files with every write done: the versions of
the root and of the record of the keys that are kept, and of the timestamp and the
namespaces that `seen` names, do not decrease, as long as no check online that is made
when the record kept is ahead of `seen` is served namespaces older than the record.
The code compares what is served with `seen` only, which a check from a file does not
move.
-/

namespace Godspeed.Pm.Chain

open Prog Calls Transition Trusted Option

def NotBack (before after : Option Nat) : Prop :=
  ∀ n, before = some n → ∃ m, after = some m ∧ n ≤ m

lemma NotBack.refl (o : Option Nat) : NotBack o o := fun n h => ⟨n, h, le_refl n⟩

lemma NotBack.trans {o p q : Option Nat} (h : NotBack o p) (h' : NotBack p q) : NotBack o q := by
  intro n hn
  obtain ⟨m, hm, hle⟩ := h n hn
  obtain ⟨k, hk, hle'⟩ := h' m hm
  exact ⟨k, hk, le_trans hle hle'⟩

section Records

variable (c : Crate) (s : Trusted)

/-- The record of the keys that is kept. -/
def Trusted.names : Option c.Namespaces := s.namespaces.bind c.parseNamespaces

structure Forward (s t : Trusted) : Prop where
  root : NotBack ((s.root.bind c.parseRoot).map c.rootVersion)
    ((t.root.bind c.parseRoot).map c.rootVersion)
  names : NotBack ((s.names c).map c.namespacesVersion) ((t.names c).map c.namespacesVersion)
  timestamp : NotBack (seenOf c s).timestamp (seenOf c t).timestamp
  seenNames : NotBack (seenOf c s).namespaces (seenOf c t).namespaces

/-- The record kept is newer than what `seen` names, as a check from a file can leave it. -/
def Trusted.Ahead (m : c.Namespaces) : Prop :=
  s.names c = some m ∧ ∀ n, (seenOf c s).namespaces = some n → n < c.namespacesVersion m

/-- Every write is done, and namespaces that are served online are not older than
the record kept if this is ahead of `seen`. -/
def Onward (a : Attempt) : Prop :=
  a.writes = .done ∧ (a.offline = false → ∀ docs m n, s.Ahead c m → a.served.documents = some docs →
    c.parseNamespaces docs.namespaces = some n → c.namespacesVersion m ≤ c.namespacesVersion n)

/-- A key vouches for a release, by a record of the keys. -/
def standing (m : c.Namespaces) (publisher : List Char) (key : c.Key) (published : List Char) :
    Bool :=
  match c.status m publisher key with
  | some .active => true
  | some (.retired at_) => published ≠ [] && decide (published < at_)
  | _ => false

/-- `check::package`: the key's standing in the record kept. -/
def Trusted.trusts (publisher : List Char) (key : c.Key) (published : List Char) : Bool :=
  (s.names c).any (standing c · publisher key published)

/-- `trusts_release`: from a file, this machine's newer record must vouch as well. -/
def Verified.trustsRelease {c : Crate} (v : Verified c) (publisher : List Char) (key : c.Key)
    (published : List Char) : Bool :=
  standing c v.namespaces publisher key published &&
    v.record.all (standing c · publisher key published)

/-- What is revoked stays so in later versions. -/
def Lasting : Prop :=
  ∀ m n publisher key at_, c.status m publisher key = some (.revoked at_) →
    c.namespacesVersion m ≤ c.namespacesVersion n →
    ∃ at', c.status n publisher key = some (.revoked at')

end Records

section Steps

variable {c : Crate} {a : Attempt} {s t u : Trusted}

lemma Forward.refl (s : Trusted) : Forward c s s := ⟨.refl _, .refl _, .refl _, .refl _⟩

lemma Forward.trans (h : Forward c s t) (h' : Forward c t u) : Forward c s u :=
  ⟨h.root.trans h'.root, h.names.trans h'.names, h.timestamp.trans h'.timestamp,
    h.seenNames.trans h'.seenNames⟩

lemma forward_of_record (h : t.record = s.record) : Forward c s t := by
  simp only [record, Prod.mk.injEq] at h
  refine ⟨?_, ?_, ?_, ?_⟩
  · rw [h.2.1]
    exact .refl _
  · rw [names, names, h.2.2.2]
    exact .refl _
  · rw [seenOf_congr h.2.2.1]
    exact .refl _
  · rw [seenOf_congr h.2.2.1]
    exact .refl _

lemma steady_done : Steady .done := .inr (.inr ⟨rfl, rfl, rfl, rfl, rfl⟩)

/-- What holds before every call: the files stand for what they should, and there is
a pin beside the root. -/
structure Paired (c : Crate) (s : Trusted) : Prop where
  sound : Sound c s
  pin : s.root.isSome = true → s.pin.isSome = true

lemma mine_of_names {mine : Option c.Namespaces} {m : c.Namespaces}
    (hown : ownRecord c s = some mine) (hm : s.names c = some m) : mine = some m := by
  rw [ownRecord] at hown
  rw [names] at hm
  split at hown
  · simp_all
  · simp_all [c.namespaces_nil]
  next t _ hfile =>
    rw [hfile, bind_some] at hm
    rw [hm] at hown
    exact (some.inj hown).symm

lemma root_forward {g : Begun c} (hpin : s.root.isSome → s.pin.isSome)
    (hbegun : begun c a s = some g) :
    NotBack ((s.root.bind c.parseRoot).map c.rootVersion) (some (c.rootVersion g.root)) := by
  obtain ⟨hroot, hparse, -⟩ := begun_spec hbegun
  obtain ⟨-, -, b₀, hrotate, hkept, -⟩ := rootOf_spec hroot
  intro n hn
  obtain ⟨r, hr, rfl⟩ := map_eq_some_iff.mp hn
  obtain ⟨b, hb, hr⟩ := bind_eq_some_iff.mp hr
  have hsome : s.root.isSome := by rw [hb]; rfl
  rw [hkept (hpin hsome) hsome, some.injEq] at hb
  exact ⟨_, rfl, rotate_version hrotate (hb ▸ hr) hparse⟩

/-- **One call**, with what it returns. -/
theorem run_onward (hs : Paired c s) (hon : Onward c s a) : Run (verify c a) s
    (fun v t => Forward c s t ∧ (t.root.isSome → t.pin.isSome) ∧
      ∀ m, s.names c = some m → (c.namespacesVersion m ≤ c.namespacesVersion v.namespaces ∨
        v.record = some m))
    (fun _ t => t.record = s.record) := by
  obtain ⟨hwrites, hserved⟩ := hon
  rw [verify, run_bind, run_read, run_bind]
  refine run_gather.mono (fun g t ht => ?_) fun h t ht => ht.record
  obtain ⟨hrec, hbegun, hrest, -, hfound⟩ := ht
  simp only [id_eq] at hrec hbegun hrest hfound
  obtain ⟨hroot, hparse, hdocs, -, htimestamp⟩ := begun_spec hbegun
  have hnames := (checkRest_spec hrest).2
  have htext := c.namespaces_text _ _ _ _ _ _ _ hnames
  have hsame : Forward c s t := forward_of_record hrec
  simp only [record, Prod.mk.injEq] at hrec
  obtain ⟨hpin, hrootfile, hseen, hnamesfile⟩ := hrec
  cases hmode : a.offline with
  | true =>
    simp only [if_true, run_bind]
    refine run_recordOffline.mono (fun record u hu => ?_) fun h u hu => ?_
    · obtain ⟨mine, hown, ⟨rfl, m, rfl, -, hm⟩ | ⟨rfl, hless⟩⟩ := hu
      · refine ⟨hsame, by rw [hrootfile, hpin]; exact hs.pin, fun m' hm' => ?_⟩
        cases mine_of_names hown hm'
        exact hm.symm
      · refine ⟨⟨hsame.root, ?_, hsame.timestamp, hsame.seenNames⟩,
          by simp only [hrootfile, hpin]; exact hs.pin, fun m hm =>
            .inl (le_of_lt (hless m (mine_of_names hown hm)))⟩
        intro n hn
        obtain ⟨m, hm, rfl⟩ := map_eq_some_iff.mp hn
        refine ⟨c.namespacesVersion g.namespaces, ?_, le_of_lt (hless m (mine_of_names hown hm))⟩
        simp only [names, bind_some, htext, map_some]
    · rcases hu with rfl | ⟨-, hne, -⟩
      · simp only [record, hpin, hrootfile, hseen, hnamesfile]
      · exact absurd (by rw [hwrites]; rfl) hne
  | false =>
    simp only [Bool.false_eq_true, if_false, run_bind]
    have hnewer : ∀ m, s.names c = some m →
        c.namespacesVersion m ≤ c.namespacesVersion g.namespaces := by
      intro m hm
      by_cases hahead : s.Ahead c m
      · exact hserved hmode _ m _ hahead hdocs htext
      · -- older namespaces than `seen` names are refused
        obtain ⟨n, hn, hle⟩ : ∃ n, (seenOf c s).namespaces = some n ∧ c.namespacesVersion m ≤ n := by
          simpa [Ahead, hm] using hahead
        rw [leastOf, if_neg (by simp [hmode]), hn] at hnames
        exact hle.trans (c.namespaces_seen _ _ _ _ _ _ _ hnames)
    refine run_recordRoot.mono (fun _ t₁ ht₁ => ?_) fun h u hu =>
      absurd (by rw [hwrites]; exact ⟨rfl, rfl⟩) hu.2.1
    refine run_recordSeen.mono (fun _ u hu => ?_) fun h u hu =>
      absurd (by rw [hwrites]; exact ⟨rfl, rfl⟩) hu.2.1
    have huroot : u.root = if g.changed then some g.bytes else s.root := by
      rw [hu, ht₁, ← hrootfile]
    have hupin : u.pin = if g.changed then some a.pin else s.pin := by
      rw [hu, ht₁, ← hpin]
    have hunames : u.namespaces = if NewNames c s g.toBegun g.namespaces
        then some g.docs.namespaces else s.namespaces := by
      rw [hu, ht₁, ← hnamesfile]
      rfl
    have htells := seenOf_seenText (hs.sound.gathered hmode hfound).2
      (show u.seen = some g.seenText by rw [hu])
    rw [leastOf, if_neg (by simp [hmode])] at htimestamp hnames
    refine ⟨⟨?_, ?_, ?_, ?_⟩, ?_, fun m hm => .inl (hnewer m hm)⟩
    · have hnew : u.root = some g.bytes := by
        rw [huroot]
        cases hchanged : g.changed with
        | true => rfl
        | false => exact ((rootOf_spec hroot).2.1 hchanged).1
      rw [hnew, bind_some, hparse]
      exact root_forward hs.pin hbegun
    · rw [names, names, hunames]
      split
      · rw [bind_some, htext]
        intro n hn
        obtain ⟨m, hm, rfl⟩ := map_eq_some_iff.mp hn
        exact ⟨_, rfl, hnewer m hm⟩
      · exact .refl _
    · rw [htells]
      intro n hn
      rw [hn] at htimestamp
      exact ⟨_, rfl, c.timestamp_seen _ _ _ _ _ _ htimestamp⟩
    · rw [htells]
      intro n hn
      rw [hn] at hnames
      exact ⟨_, rfl, c.namespaces_seen _ _ _ _ _ _ _ hnames⟩
    · rw [huroot, hupin]
      cases g.changed with
      | true => exact fun _ => rfl
      | false => exact hs.pin

lemma Paired.blank (c : Crate) : Paired c .blank := ⟨.blank c, fun h => by cases h⟩

lemma Paired.verify (hs : Paired c s) (hon : Onward c s a) :
    Paired c (verify c a s).2 ∧ Forward c s (verify c a s).2 := by
  have hsound := hs.sound.kept (hon.1 ▸ steady_done)
  have hrun := run_onward hs hon
  rcases hend : Chain.verify c a s with ⟨result, t⟩
  rw [hend] at hsound
  cases result with
  | ok v =>
    obtain ⟨hforward, hpin, -⟩ := hrun.of_ok hend
    exact ⟨⟨hsound, hpin⟩, hforward⟩
  | error h =>
    have hrec := hrun.of_error hend
    refine ⟨⟨hsound, ?_⟩, forward_of_record hrec⟩
    simp only [record, Prod.mk.injEq] at hrec
    rw [hrec.1, hrec.2.1]
    exact hs.pin

lemma standing_of_revoked {m : c.Namespaces} {publisher published at_ : List Char}
    {key : c.Key} (h : c.status m publisher key = some (.revoked at_)) :
    standing c m publisher key published = false := by
  rw [standing, h]

end Steps

namespace Sample

/-- A package file with namespaces 10, which revoke the key. -/
def fromFile : Attempt := calls (serves [1, 1, 1] [1, 7] [10, 1]) true .done

/-- The registry with namespaces 7, which do not. -/
def behind : Attempt := calls (serves [1, 1, 1] [1, 7] [7]) false .done

/-- The registry with the namespaces of the file. -/
def caughtUp : Attempt := calls (serves [1, 1, 1] [1, 7] [10, 1]) false .done

end Sample

end Godspeed.Pm.Chain
