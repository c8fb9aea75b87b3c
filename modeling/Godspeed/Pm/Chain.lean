import Godspeed.Lib.Calls
import Godspeed.Lib.Transition
import Godspeed.Pm.Contract

/-!
# What a machine accepts from a registry

`chain::verify`: the root, the timestamp, the snapshot and the namespaces of a
registry are checked in this order, each by what the one before says, and what was
accepted is recorded in four files.  Online, what `seen` names is the least that is
accepted, and the snapshot kept is taken again without being hashed if `seen` names
the one that the timestamp names.  A check from a package file looks at nothing that
was seen and records nothing but a newer list of the publishers' keys.

What the package crate checks is given (`Crate`), with the laws that are used.
-/

namespace Godspeed.Pm.Chain

open Prog Calls Function Text Option List

/-- The standing of a publisher's key in a namespaces document. -/
inductive KeyStatus
  | active
  | retired (at_ : List Char)
  | revoked (at_ : List Char)
deriving DecidableEq

/-- The documents of a registry as the package crate reads and checks them. -/
structure Crate where
  Digest : Type
  Root : Type
  Timestamp : Type
  Head : Type
  Namespaces : Type
  Key : Type
  sameDigest : DecidableEq Digest
  /-- SHA-256. -/
  digest : Bytes → Digest
  digestText : Digest → List Char
  readDigest : List Char → Option Digest
  parseRoot : Bytes → Option Root
  rootVersion : Root → Nat
  /-- A root, its text and signatures over it by its own keys. -/
  verifyBy : Root → Bytes → Bytes → Bool
  verifyNextRoot : Root → Bytes → Bytes → Bool
  rootFresh : Root → List Char → Bool
  parseTimestamp : Bytes → Option Timestamp
  expires : Timestamp → List Char
  timestampVersion : Timestamp → Nat
  snapshotVersion : Timestamp → Nat
  snapshotDigest : Timestamp → Digest
  verifyTimestamp : Root → Bytes → Bytes → List Char → Option Nat → Option Timestamp
  /-- The head at the start of a snapshot. -/
  parseHead : Bytes → Option Head
  headVersion : Head → Nat
  verifySnapshot : Root → Timestamp → Digest → Head → Bytes → List Char → Bool
  /-- Every index line of a snapshot reads, and they are in order. -/
  indexLines : Bytes → Bool
  parseNamespaces : Bytes → Option Namespaces
  namespacesVersion : Namespaces → Nat
  status : Namespaces → List Char → Key → Option KeyStatus
  verifyNamespaces : Root → Head → Bytes → Bytes → List Char → Option Nat → Option Namespaces
  readDigest_text : ∀ d, readDigest (digestText d) = some d
  isWord_text : ∀ d, IsWord (digestText d)
  version_lt : (∀ t, timestampVersion t < 2 ^ 64) ∧ (∀ h, headVersion h < 2 ^ 64) ∧
    ∀ n, namespacesVersion n < 2 ^ 64
  /-- The next root has the next number. -/
  next_version : ∀ r b sig, verifyNextRoot r b sig = true →
    ∃ r', parseRoot b = some r' ∧ rootVersion r' = rootVersion r + 1
  timestamp_seen : ∀ r b sig now n t, verifyTimestamp r b sig now (some n) = some t →
    n ≤ timestampVersion t
  snapshot_digest : ∀ r t d h sig now, verifySnapshot r t d h sig now = true → d = snapshotDigest t
  namespaces_nil : parseNamespaces [] = none
  namespaces_text : ∀ r h b sig now least n, verifyNamespaces r h b sig now least = some n →
    parseNamespaces b = some n
  namespaces_seen : ∀ r h b sig now least n, verifyNamespaces r h b sig now (some least) = some n →
    least ≤ namespacesVersion n

attribute [instance] Crate.sameDigest

/-- What this machine has accepted, as `seen` says it. -/
structure Seen (D : Type) where
  timestamp : Option Nat
  namespaces : Option Nat
  snapshot : Option (Nat × D × Nat)

/-- The files of one registry; the snapshot and the file it is fetched to are apart
for checks from a package file. -/
structure Trusted where
  pin : Option (List Char)
  root : Option Bytes
  seen : Option (List Char)
  namespaces : Option Bytes
  snapshot : Bool → Option Bytes
  staged : Bool → Option Bytes

def Trusted.blank : Trusted := ⟨none, none, none, none, fun _ => none, fun _ => none⟩

structure Documents where
  timestamp : Bytes
  timestampSig : Bytes
  snapshotSig : Bytes
  namespaces : Bytes
  namespacesSig : Bytes

/-- What the registry, or the file, answers. -/
structure Served where
  rootOne : Option (Bytes × Bytes)
  rotations : List (Bytes × Bytes)
  /-- The request for the next root is answered with its absence. -/
  rotationsEnd : Bool
  documents : Option Documents
  snapshot : Option Bytes

/-- Which reads of the disk are answered. -/
structure Reads where
  pin : Bool
  root : Bool
  seen : Bool
  record : Bool
  stat : Bool
  head : Bool
  index : Bool

/-- The fates of the calls that change the disk. -/
structure Writes where
  folder : Fate
  unstage : Fate
  stage : Fate
  unkeep : Fate
  rename : Fate
  root : Fate
  pin : Fate
  namespaces : Fate
  seen : Fate
deriving DecidableEq

def Writes.done : Writes := ⟨.done, .done, .done, .done, .done, .done, .done, .done, .done⟩

/-- One call of `verify`. -/
structure Attempt where
  pin : List Char
  now : List Char
  offline : Bool
  served : Served
  reads : Reads
  writes : Writes

/-- Where a call is when it is refused. -/
inductive Phase
  | checking
  | recording
deriving DecidableEq

structure Verified (c : Crate) where
  root : c.Root
  timestamp : c.Timestamp
  namespaces : c.Namespaces
  /-- This machine's own newer record of the keys, for a check from a file. -/
  record : Option c.Namespaces

def snapshotFileMax : Nat := 256 * 1024 * 1024

section Seen

variable (c : Crate)

/-- One line of `seen`. -/
def readLine (s : Seen c.Digest) (l : List Char) : Seen c.Digest :=
  match words l with
  | kind :: number :: rest =>
    match natural (2 ^ 64) number with
    | none => s
    | some v =>
      if kind = "timestamp".toList then { s with timestamp := some v }
      else if kind = "namespaces".toList then { s with namespaces := some v }
      else if kind = "snapshot".toList then
        match rest with
        | d :: len :: _ =>
          match c.readDigest d, natural (2 ^ 64) len with
          | some d, some len => { s with snapshot := some (v, d, len) }
          | _, _ => s
        | _ => s
      else s
  | _ => s

/-- `read_seen`. -/
def readSeen (t : List Char) : Seen c.Digest :=
  (lines t).foldl (readLine c) ⟨none, none, none⟩

/-- What the machine has seen; nothing when there is no file. -/
def seenOf (s : Trusted) : Seen c.Digest :=
  (s.seen.map (readSeen c)).getD ⟨none, none, none⟩

/-- The text that is written to `seen`; it has 200 bytes at most. -/
def seenText (timestamp namespaces version : Nat) (d : c.Digest) (len : Nat) : List Char :=
  unlines [unwords ["timestamp".toList, Nat.toDigits 10 timestamp],
    unwords ["namespaces".toList, Nat.toDigits 10 namespaces],
    unwords ["snapshot".toList, Nat.toDigits 10 version, c.digestText d, Nat.toDigits 10 len]]

/-- **What is written to `seen` is read back.** -/
theorem readSeen_seenText {t n v len : Nat} {d : c.Digest} (ht : t < 2 ^ 64) (hn : n < 2 ^ 64)
    (hv : v < 2 ^ 64) (hlen : len < 2 ^ 64) :
    readSeen c (seenText c t n v d len) = ⟨some t, some n, some (v, d, len)⟩ := by
  have hfirst : ∀ w ∈ ["timestamp".toList, Nat.toDigits 10 t], IsWord w := by
    simp only [forall_mem_cons, not_mem_nil, false_implies, implies_true, and_true]
    exact ⟨isWord_of_all (by decide) (by decide), isWord_toDigits t⟩
  have hsecond : ∀ w ∈ ["namespaces".toList, Nat.toDigits 10 n], IsWord w := by
    simp only [forall_mem_cons, not_mem_nil, false_implies, implies_true, and_true]
    exact ⟨isWord_of_all (by decide) (by decide), isWord_toDigits n⟩
  have hthird : ∀ w ∈ ["snapshot".toList, Nat.toDigits 10 v, c.digestText d,
      Nat.toDigits 10 len], IsWord w := by
    simp only [forall_mem_cons, not_mem_nil, false_implies, implies_true, and_true]
    exact ⟨isWord_of_all (by decide) (by decide), isWord_toDigits v,
      c.isWord_text d, isWord_toDigits len⟩
  have hnt : "namespaces".toList ≠ "timestamp".toList := by decide
  have hst : "snapshot".toList ≠ "timestamp".toList := by decide
  have hsn : "snapshot".toList ≠ "namespaces".toList := by decide
  rw [readSeen, seenText, lines_unlines]
  · simp only [foldl_cons, foldl_nil, readLine, words_unwords hfirst,
      words_unwords hsecond, words_unwords hthird, natural_toDigits ht,
      natural_toDigits hn, natural_toDigits hv, natural_toDigits hlen,
      c.readDigest_text, if_neg hnt, if_neg hst, if_neg hsn, if_true]
  · simp only [forall_mem_cons, not_mem_nil, false_implies, implies_true, and_true]
    exact ⟨oneLine_unwords hfirst, oneLine_unwords hsecond, oneLine_unwords hthird⟩

end Seen

section Verify

variable (c : Crate) (a : Attempt) (s : Trusted)

/-- The root this machine keeps, if it was met under the pin of the configuration. -/
def storedRoot : Option (Option Bytes) :=
  if a.reads.pin then
    match s.pin with
    | none => some none
    | some t => if trim t = a.pin ∧ a.reads.root = true then some s.root else none
  else none

def rootOne : Option Bytes :=
  a.served.rootOne.bind fun (b, sig) => (c.parseRoot b).bind fun r =>
    if c.digestText (c.digest b) = a.pin ∧ c.verifyBy r b sig = true then some b else none

/-- Every rotation since: the next root must be signed by the keys of the one
before and by its own. -/
def rotate : List (Bytes × Bytes) → Bytes → Option Bytes
  | [], b => some b
  | (next, sig) :: rest, b => (c.parseRoot b).bind fun r =>
    if c.verifyNextRoot r next sig then rotate rest next else none

/-- The root in force, and whether it is new to this machine. -/
def rootOf : Option (Bytes × Bool) :=
  (storedRoot a s).bind fun stored =>
    (stored <|> rootOne c a).bind fun start =>
      (rotate c a.served.rotations start).bind fun b =>
        if a.served.rotationsEnd then
          some (b, stored.isNone || !a.served.rotations.isEmpty)
        else none

def justBefore (expires : List Char) : List Char :=
  if expires.getLast? = some 'Z' then expires.dropLast else expires

/-- The time of the check: for a file the last moment its chain was valid. -/
def nowOf (docs : Documents) : Option (List Char) :=
  if a.offline then (c.parseTimestamp docs.timestamp).map fun t => justBefore (c.expires t)
  else some a.now

/-- The least versions that are accepted, and the snapshot kept; a check from a
file looks at nothing that was seen. -/
def leastOf : Seen c.Digest :=
  if a.offline then ⟨none, none, none⟩ else seenOf c s

/-- What is known when the timestamp is verified. -/
structure Begun where
  bytes : Bytes
  changed : Bool
  root : c.Root
  docs : Documents
  now : List Char
  timestamp : c.Timestamp

def begun : Option (Begun c) :=
  (rootOf c a s).bind fun (b, changed) =>
    if a.reads.seen = true ∧ (a.offline = true → a.reads.record = true) then
      a.served.documents.bind fun docs => (nowOf c a docs).bind fun now =>
        (c.parseRoot b).bind fun root =>
          if c.rootFresh root now then
            (c.verifyTimestamp root docs.timestamp docs.timestampSig now
              (leastOf c a s).timestamp).map (⟨b, changed, root, docs, now, ·⟩)
          else none
    else none

/-- The snapshot kept, if it is the one that the timestamp names by what `seen`
says of it. -/
def reuse (g : Begun c) : Option (c.Digest × Bytes) :=
  (leastOf c a s).snapshot.bind fun (v, d, len) => (s.snapshot a.offline).bind fun b =>
    if v = c.snapshotVersion g.timestamp ∧ d = c.snapshotDigest g.timestamp ∧
        a.reads.stat = true ∧ b.length = len then some (d, b) else none

def Trusted.setStaged (offline : Bool) (b : Option Bytes) (s : Trusted) : Trusted :=
  { s with staged := update s.staged offline b }

def Trusted.setKept (offline : Bool) (b : Option Bytes) (s : Trusted) : Trusted :=
  { s with snapshot := update s.snapshot offline b }

/-- `fetch_snapshot`, hashed as it comes in. -/
def fetchSnapshot : Prog Trusted (Halt Phase) (c.Digest × Bytes) := do
  let _ ← call a.writes.unstage (.setStaged a.offline none)
  let b ← ofOption a.served.snapshot (.refusal .checking)
  require (0 < b.length ∧ b.length ≤ snapshotFileMax) (.refusal .checking)
  must .checking a.writes.stage (.setStaged a.offline (some b))
  pure (c.digest b, b)

/-- The snapshot against the timestamp and the namespaces against the snapshot. -/
def checkRest (g : Begun c) (least : Option Nat) (d : c.Digest) (b : Bytes) :
    Option (c.Head × c.Namespaces) :=
  (c.parseHead b).bind fun head =>
    if a.reads.head = true ∧
        c.verifySnapshot g.root g.timestamp d head g.docs.snapshotSig g.now = true then
      (c.verifyNamespaces g.root head g.docs.namespaces g.docs.namespacesSig g.now least).map
        (head, ·)
    else none

/-- A fetched snapshot replaces the one kept. -/
def place (b : Bytes) : Prog Trusted (Halt Phase) Unit := do
  require (a.reads.index && c.indexLines b) (.refusal .checking)
  let _ ← call a.writes.unkeep (.setKept a.offline none)
  require (← read fun s => (s.snapshot a.offline).isNone) (.refusal .checking)
  must .checking a.writes.rename fun s =>
    (s.setKept a.offline (s.staged a.offline)).setStaged a.offline none

/-- A part that is gone through only under a condition. -/
def only (p : Prop) [Decidable p] (m : Prog Trusted (Halt Phase) Unit) :
    Prog Trusted (Halt Phase) Unit :=
  if p then m else pure ()

/-- What is known when everything is checked. -/
structure Gathered extends Begun c where
  digest : c.Digest
  snapshot : Bytes
  head : c.Head
  namespaces : c.Namespaces

/-- What `seen` will say. -/
def Gathered.seenText {c : Crate} (g : Gathered c) : List Char :=
  Chain.seenText c (c.timestampVersion g.timestamp) (c.namespacesVersion g.namespaces)
    (c.headVersion g.head) g.digest g.snapshot.length

/-- A root that is new, and then the pin it was met under. -/
def recordRoot (g : Begun c) : Prog Trusted (Halt Phase) Unit :=
  only (g.changed = true) do
    must .recording a.writes.root ({ · with root := some g.bytes })
    must .recording a.writes.pin ({ · with pin := some a.pin })

/-- The namespaces are new to this machine. -/
def NewNames (g : Begun c) (ns : c.Namespaces) : Prop :=
  g.changed = true ∨ (seenOf c s).namespaces ≠ some (c.namespacesVersion ns)

instance (s : Trusted) (g : Begun c) (ns : c.Namespaces) : Decidable (NewNames c s g ns) :=
  inferInstanceAs (Decidable (_ ∨ _))

/-- Namespaces that are new, and how far this machine has seen. -/
def recordSeen (g : Gathered c) : Prog Trusted (Halt Phase) Unit := do
  only (NewNames c s g.toBegun g.namespaces)
    (must .recording a.writes.namespaces ({ · with namespaces := some g.docs.namespaces }))
  must .recording a.writes.seen ({ · with seen := some g.seenText })

/-- This machine's record of the keys, if it has one. -/
def ownRecord : Option (Option c.Namespaces) :=
  match s.namespaces with
  | none => some none
  | some [] => some none
  | some t => (c.parseNamespaces t).map some

/-- What is recorded after a check from a file: a newer record of the keys.  An
older one does not replace it, and must vouch as well. -/
def recordOffline (g : Begun c) (ns : c.Namespaces) :
    Prog Trusted (Halt Phase) (Option c.Namespaces) := do
  let mine ← ofOption (ownRecord c s) (.refusal .checking)
  match mine.filter fun m => c.namespacesVersion ns ≤ c.namespacesVersion m with
  | some m => pure (if c.namespacesVersion ns < c.namespacesVersion m then some m else none)
  | none => do
    must .recording a.writes.namespaces ({ · with namespaces := some g.docs.namespaces })
    pure none

/-- `verify` up to the recording. -/
def gather : Prog Trusted (Halt Phase) (Gathered c) := do
  let g ← ofOption (begun c a s) (.refusal .checking)
  must .checking a.writes.folder id
  let (d, b) ← match reuse c a s g with
    | some found => pure found
    | none => fetchSnapshot c a
  let (head, ns) ← ofOption (checkRest c a g (leastOf c a s).namespaces d b) (.refusal .checking)
  only ((reuse c a s g).isNone = true) (place c a b)
  pure ⟨g, d, b, head, ns⟩

/-- `verify`. -/
def verify : Prog Trusted (Halt Phase) (Verified c) := do
  let s ← read id
  let g ← gather c a s
  if a.offline then do
    let record ← recordOffline c a s g.toBegun g.namespaces
    pure ⟨g.root, g.timestamp, g.namespaces, record⟩
  else do
    recordRoot c a g.toBegun
    recordSeen c a s g
    pure ⟨g.root, g.timestamp, g.namespaces, none⟩

def verifyStep (a : Attempt) : Option Trusted := some (verify c a s).2

end Verify

section Roots

variable {c : Crate} {a : Attempt} {s : Trusted} {b b' : Bytes} {pin : List Char}

/-- A root that hangs from a pin: the first has the digest of the pin and is signed
by its own keys, each next one passed the check against the one before. -/
inductive Rooted (c : Crate) (pin : List Char) : Bytes → Prop
  | first (b sig : Bytes) (r : c.Root) (hpin : c.digestText (c.digest b) = pin)
      (hparse : c.parseRoot b = some r) (hsigned : c.verifyBy r b sig = true) : Rooted c pin b
  | next (b b' sig : Bytes) (r : c.Root) (hroot : Rooted c pin b)
      (hparse : c.parseRoot b = some r) (hnext : c.verifyNextRoot r b' sig = true) :
      Rooted c pin b'

lemma Rooted.trim_pin (h : Rooted c pin b) : trim pin = pin := by
  induction h with
  | first b _ _ hpin =>
    have hword := c.isWord_text (c.digest b)
    rw [hpin] at hword
    refine trim_of_ends ?_ ?_
    · cases pin with
      | nil => rfl
      | cons x pin => simp [hword.solid x mem_cons_self]
    · cases hlast : pin.getLast? with
      | none => rfl
      | some x => simp [hword.solid x (mem_of_getLast? hlast)]
  | next _ _ _ _ _ _ _ ih => exact ih

lemma Rooted.rotate {rs : List (Bytes × Bytes)} (h : Rooted c pin b)
    (hrs : rotate c rs b = some b') : Rooted c pin b' := by
  induction rs generalizing b with
  | nil => exact some.inj hrs ▸ h
  | cons x rs ih =>
    obtain ⟨r, hparse, hrest⟩ := bind_eq_some_iff.mp hrs
    rw [ite_none_right_eq_some] at hrest
    exact ih (.next b x.1 x.2 r h hparse hrest.1) hrest.2

lemma rotate_version {rs : List (Bytes × Bytes)} {r r' : c.Root}
    (hrs : rotate c rs b = some b') (hr : c.parseRoot b = some r)
    (hr' : c.parseRoot b' = some r') : c.rootVersion r ≤ c.rootVersion r' := by
  induction rs generalizing b r with
  | nil =>
    cases hrs
    rw [hr] at hr'
    exact some.inj hr' ▸ le_refl _
  | cons x rs ih =>
    obtain ⟨r₁, hparse, hrest⟩ := bind_eq_some_iff.mp hrs
    rw [ite_none_right_eq_some] at hrest
    obtain ⟨r₂, hr₂, hversion⟩ := c.next_version _ _ _ hrest.1
    rw [hr] at hparse
    cases hparse
    exact le_trans (hversion ▸ Nat.le_succ _) (ih hrest.2 hr₂)

/-- The root kept hangs from the pin it was met under. -/
def Anchored (c : Crate) (s : Trusted) : Prop :=
  ∀ t b, s.pin = some t → s.root = some b → Rooted c (trim t) b

lemma storedRoot_spec {stored : Option Bytes} (h : storedRoot a s = some stored) :
    (∀ t, s.pin = some t → trim t = a.pin) ∧ stored = s.pin.bind fun _ => s.root := by
  rw [storedRoot, ite_none_right_eq_some] at h
  cases hpin : s.pin with
  | none =>
    rw [hpin] at h
    exact ⟨by simp, (some.inj h.2).symm⟩
  | some t =>
    simp only [hpin, ite_none_right_eq_some, some.injEq] at h
    exact ⟨fun t' ht' => some.inj ht' ▸ h.2.1.1, h.2.2.symm⟩

/-- What the choice of the root says: it is the one kept, or root 1, and what
rotations make of it. -/
lemma rootOf_spec {changed : Bool} (h : rootOf c a s = some (b, changed)) :
    (∀ t, s.pin = some t → trim t = a.pin) ∧ (changed = false → s.root = some b ∧ s.pin.isSome) ∧
      ∃ b₀, rotate c a.served.rotations b₀ = some b ∧
        (s.pin.isSome → s.root.isSome → s.root = some b₀) ∧
        ((s.pin.isSome ∧ s.root = some b₀) ∨ rootOne c a = some b₀) := by
  obtain ⟨stored, hstored, h⟩ := bind_eq_some_iff.mp h
  obtain ⟨start, hstart, h⟩ := bind_eq_some_iff.mp h
  obtain ⟨final, hrotate, h⟩ := bind_eq_some_iff.mp h
  rw [ite_none_right_eq_some, some.injEq] at h
  obtain ⟨-, rfl, rfl⟩ := h
  obtain ⟨hpin, rfl⟩ := storedRoot_spec hstored
  refine ⟨hpin, fun hsame => ?_, start, hrotate, ?_⟩
  · -- nothing was rotated, and the root is the one kept
    rw [Bool.or_eq_false_iff, Bool.not_eq_false', List.isEmpty_iff] at hsame
    rw [hsame.2] at hrotate
    cases hrotate
    cases hs : s.pin <;> cases hr : s.root <;> simp_all
  · cases hs : s.pin <;> cases hr : s.root <;> simp_all

lemma Anchored.rooted {changed : Bool} (hs : Anchored c s)
    (h : rootOf c a s = some (b, changed)) : Rooted c a.pin b := by
  obtain ⟨hpin, -, b₀, hrotate, -, ⟨hsome, hroot⟩ | hone⟩ := rootOf_spec h
  · obtain ⟨t, ht⟩ := isSome_iff_exists.mp hsome
    exact (hpin t ht ▸ hs t b₀ ht hroot).rotate hrotate
  obtain ⟨⟨b₁, sig⟩, -, hone⟩ := bind_eq_some_iff.mp hone
  obtain ⟨r, hparse, hone⟩ := bind_eq_some_iff.mp hone
  rw [ite_none_right_eq_some, some.injEq] at hone
  obtain ⟨⟨hpinned, hsigned⟩, rfl⟩ := hone
  exact (Rooted.first b₁ sig r hpinned hparse hsigned).rotate hrotate

end Roots

section Gathering

variable {c : Crate} {a : Attempt} {s : Trusted} {g : Begun c} {b : Bytes}

/-- The four files that say what was accepted. -/
def Trusted.record (s : Trusted) :
    Option (List Char) × Option Bytes × Option (List Char) × Option Bytes :=
  (s.pin, s.root, s.seen, s.namespaces)

/-- The snapshot is put into its place only with everything that is recorded after
it. -/
def Steady (w : Writes) : Prop :=
  w.rename = .refused ∨ w.rename = .cut ∨
    (w.rename = .done ∧ w.root = .done ∧ w.pin = .done ∧ w.namespaces = .done ∧ w.seen = .done)

/-- The attempt ended before the recording, the kept snapshot in its place or gone. -/
structure Unrecorded (a : Attempt) (s : Trusted) (h : Halt Phase) (t : Trusted) : Prop where
  phase : h ≠ .refusal .recording
  record : t.record = s.record
  kept : ∃ kept, t.snapshot = update s.snapshot a.offline kept ∧
    (Steady a.writes → kept = s.snapshot a.offline ∨ kept = none)

lemma Unrecorded.of_same {h : Halt Phase} {t : Trusted} (hphase : h ≠ .refusal .recording)
    (ht : t.snapshot = s.snapshot ∧ t.record = s.record) : Unrecorded a s h t :=
  ⟨hphase, ht.2, _, ht.1.trans (update_eq_self _ _).symm, fun _ => .inl rfl⟩

lemma begun_spec (h : begun c a s = some g) :
    rootOf c a s = some (g.bytes, g.changed) ∧ c.parseRoot g.bytes = some g.root ∧
      a.served.documents = some g.docs ∧ (a.offline = false → g.now = a.now) ∧
      c.verifyTimestamp g.root g.docs.timestamp g.docs.timestampSig g.now
        (leastOf c a s).timestamp = some g.timestamp := by
  obtain ⟨⟨b, changed⟩, hroot, h⟩ := bind_eq_some_iff.mp h
  rw [ite_none_right_eq_some] at h
  obtain ⟨docs, hdocs, h⟩ := bind_eq_some_iff.mp h.2
  obtain ⟨now, hnow, h⟩ := bind_eq_some_iff.mp h
  obtain ⟨root, hparse, h⟩ := bind_eq_some_iff.mp h
  rw [ite_none_right_eq_some] at h
  obtain ⟨t, ht, rfl⟩ := map_eq_some_iff.mp h.2
  refine ⟨hroot, hparse, hdocs, fun honline => ?_, ht⟩
  rw [nowOf, if_neg (by simp [honline])] at hnow
  exact (some.inj hnow).symm

lemma reuse_spec {d : c.Digest} (h : reuse c a s g = some (d, b)) : s.snapshot a.offline = some b ∧
      ∃ v, (leastOf c a s).snapshot = some (v, d, b.length) := by
  obtain ⟨⟨v, d', len⟩, hseen, h⟩ := bind_eq_some_iff.mp h
  obtain ⟨b', hb', h⟩ := bind_eq_some_iff.mp h
  rw [ite_none_right_eq_some, some.injEq] at h
  obtain ⟨⟨-, -, -, rfl⟩, rfl, rfl⟩ := h
  exact ⟨hb', v, hseen⟩

lemma checkRest_spec {least : Option Nat} {d : c.Digest} {head : c.Head} {ns : c.Namespaces}
    (h : checkRest c a g least d b = some (head, ns)) :
    d = c.snapshotDigest g.timestamp ∧
      c.verifyNamespaces g.root head g.docs.namespaces g.docs.namespacesSig g.now least =
        some ns := by
  obtain ⟨head', -, h⟩ := bind_eq_some_iff.mp h
  rw [ite_none_right_eq_some] at h
  obtain ⟨ns', hns, heq⟩ := map_eq_some_iff.mp h.2
  cases heq
  exact ⟨c.snapshot_digest _ _ _ _ _ _ h.1.2, hns⟩

lemma run_fetchSnapshot : Run (fetchSnapshot c a) s
    (fun x t => x.1 = c.digest x.2 ∧ x.2.length ≤ snapshotFileMax ∧
      t.staged a.offline = some x.2 ∧ t.snapshot = s.snapshot ∧ t.record = s.record)
    (fun h t => h ≠ .refusal .recording ∧ t.snapshot = s.snapshot ∧ t.record = s.record) := by
  rw [fetchSnapshot, run_bind]
  refine (run_call_of (Q := fun t => t.snapshot = s.snapshot ∧ t.record = s.record)
    ⟨⟨rfl, rfl⟩, rfl, rfl⟩ ⟨⟨by simp, rfl, rfl⟩, by simp, rfl, rfl⟩).mono (fun _ t ht => ?_)
    fun _ _ h => h
  cases hb : a.served.snapshot with
  | none => exact ⟨by simp, ht⟩
  | some b =>
    rw [run_bind, ofOption, run_pure, run_bind, run_require]
    refine ⟨fun hsize => ?_, fun _ => ⟨by simp, ht⟩⟩
    rw [run_bind]
    refine run_must (fun _ => ?_) fun _ h hh => ?_
    · exact ⟨rfl, (of_decide_eq_true hsize).2, by simp [Trusted.setStaged], ht⟩
    · have hne : h ≠ .refusal .recording := by rcases hh with rfl | rfl <;> simp
      exact ⟨⟨hne, ht⟩, hne, ht⟩

lemma run_place (hstaged : s.staged a.offline = some b) : Run (place c a b) s
    (fun _ t => a.writes.rename = .done ∧ t.snapshot = update s.snapshot a.offline (some b) ∧
      t.record = s.record) (Unrecorded a s) := by
  rw [place, run_bind, run_require]
  refine ⟨fun _ => ?_, fun _ => .of_same (by simp) ⟨rfl, rfl⟩⟩
  rw [run_bind]
  refine (run_call_of (Q := fun t => t.record = s.record ∧ t.staged = s.staged ∧ ∃ kept,
      t.snapshot = update s.snapshot a.offline kept ∧
      (kept = s.snapshot a.offline ∨ kept = none))
    ⟨⟨rfl, rfl, _, (update_eq_self _ _).symm, .inl rfl⟩, rfl, rfl, none, rfl, .inr rfl⟩
    ⟨.of_same (by simp) ⟨rfl, rfl⟩, by simp, rfl, none, rfl, fun _ => .inr rfl⟩).mono
    (fun _ t ht => ?_) fun _ _ h => h
  obtain ⟨hrec, hst, kept, hkept, hold⟩ := ht
  rw [run_bind, run_read, run_bind, run_require]
  refine ⟨fun _ => ?_, fun _ => ⟨by simp, hrec, kept, hkept, fun _ => hold⟩⟩
  have hmoved : ((t.setKept a.offline (t.staged a.offline)).setStaged a.offline none).snapshot =
      update s.snapshot a.offline (some b) := by
    simp only [Trusted.setKept, Trusted.setStaged, hst, hstaged, hkept, update_idem]
  have hpower {h : Halt Phase} (hh : h = .power ∨ h = .refusal .checking) :
      h ≠ .refusal .recording := by rcases hh with rfl | rfl <;> simp
  refine run_must_carried (fun hdone => ⟨hdone, hmoved, hrec⟩)
    (fun _ h hh => ⟨hpower hh, hrec, kept, hkept, fun _ => hold⟩)
    fun hcarried h hh => ⟨hpower hh, hrec, some b, hmoved, fun hsteady => ?_⟩
  rcases hcarried with hfate | hfate <;> simp [Steady, hfate] at hsteady

/-- **Everything up to the recording.**  The files that say what was accepted stay as
they are; online, the snapshot in its place is the one kept, by what `seen` says of
it, or one that was hashed and renamed. -/
theorem run_gather : Run (gather c a s) s
    (fun g t => t.record = s.record ∧ begun c a s = some g.toBegun ∧
      checkRest c a g.toBegun (leastOf c a s).namespaces g.digest g.snapshot =
        some (g.head, g.namespaces) ∧
      t.snapshot = update s.snapshot a.offline (some g.snapshot) ∧
      (reuse c a s g.toBegun = some (g.digest, g.snapshot) ∨
        (g.digest = c.digest g.snapshot ∧ g.snapshot.length ≤ snapshotFileMax ∧
          a.writes.rename = .done)))
    (Unrecorded a s) := by
  rw [gather, run_bind]
  cases hg : begun c a s with
  | none => exact .of_same (by simp) ⟨rfl, rfl⟩
  | some g =>
    rw [ofOption, run_pure, run_bind]
    refine run_must (fun _ => ?_) fun _ h hh => ?_
    swap
    · have hne : h ≠ .refusal .recording := by rcases hh with rfl | rfl <;> simp
      exact ⟨.of_same hne ⟨rfl, rfl⟩, .of_same hne ⟨rfl, rfl⟩⟩
    change Run _ s _ _
    cases hreuse : reuse c a s g with
    | some found =>
      obtain ⟨d, b⟩ := found
      rw [run_bind, run_pure, run_bind]
      cases hrest : checkRest c a g (leastOf c a s).namespaces d b with
      | none => exact .of_same (by simp) ⟨rfl, rfl⟩
      | some x =>
        have hkept := (reuse_spec hreuse).1
        exact ⟨rfl, rfl, hrest, hkept ▸ (update_eq_self _ _).symm, .inl hreuse⟩
    | none =>
      rw [run_bind]
      refine run_fetchSnapshot.mono (fun x t ht => ?_) fun h t ht => .of_same ht.1 ht.2
      obtain ⟨d, b⟩ := x
      obtain ⟨hd, hlen, hstaged, hsnap, hrec⟩ := ht
      rw [run_bind]
      cases hrest : checkRest c a g (leastOf c a s).namespaces d b with
      | none => exact .of_same (by simp) ⟨hsnap, hrec⟩
      | some x =>
        rw [ofOption, run_pure, run_bind, only]
        refine (run_place hstaged).mono (fun _ u hu => ?_) fun h u hu => ?_
        · refine ⟨hu.2.2.trans hrec, rfl, hrest, ?_, .inr ⟨hd, hlen, hu.1⟩⟩
          rw [hu.2.1, hsnap]
        · exact ⟨hu.phase, hu.record.trans hrec, hsnap ▸ hu.kept⟩

end Gathering

section Recording

variable {c : Crate} {a : Attempt} {s t : Trusted} {g : Begun c}

lemma run_only {p : Prop} [Decidable p] {m : Prog Trusted (Halt Phase) Unit}
    {Q : Unit → Trusted → Prop} {E : Halt Phase → Trusted → Prop} :
    Run (only p m) s Q E ↔ (p → Run m s Q E) ∧ (¬ p → Q () s) := by
  rw [only, run_ite, run_pure]

lemma ne_checking {h : Halt Phase} (hh : h = .power ∨ h = .refusal .recording) :
    h ≠ .refusal .checking := by
  rcases hh with rfl | rfl <;> simp

/-- The root is recorded before the pin, so that a recording that is cut off leaves
no pin without its root. -/
lemma run_recordRoot : Run (recordRoot c a g) t (fun _ u => u = { t with
      root := if g.changed then some g.bytes else t.root
      pin := if g.changed then some a.pin else t.pin })
    (fun h u => h ≠ .refusal .checking ∧ ¬ (a.writes.root = .done ∧ a.writes.pin = .done) ∧
      u.snapshot = t.snapshot ∧ u.seen = t.seen ∧
      ((u.root = t.root ∧ u.pin = t.pin) ∨
        (u.root = some g.bytes ∧ (u.pin = t.pin ∨ u.pin = some a.pin)))) := by
  rw [recordRoot, run_only]
  refine ⟨fun hchanged => ?_, fun hsame => by simp [hsame]⟩
  rw [run_bind]
  refine run_must (fun _ => ?_) fun hne h hh =>
    ⟨⟨ne_checking hh, fun hd => hne hd.1, rfl, rfl, .inl ⟨rfl, rfl⟩⟩,
      ne_checking hh, fun hd => hne hd.1, rfl, rfl, .inr ⟨rfl, .inl rfl⟩⟩
  refine run_must (fun _ => by simp [hchanged]) fun hne h hh =>
    ⟨⟨ne_checking hh, fun hd => hne hd.2, rfl, rfl, .inr ⟨rfl, .inl rfl⟩⟩,
      ne_checking hh, fun hd => hne hd.2, rfl, rfl, .inr ⟨rfl, .inr rfl⟩⟩

lemma run_recordSeen {g : Gathered c} : Run (recordSeen c a s g) t (fun _ u => u = { t with
      namespaces := if NewNames c s g.toBegun g.namespaces then some g.docs.namespaces
        else t.namespaces
      seen := some g.seenText })
    (fun h u => h ≠ .refusal .checking ∧
      ¬ (a.writes.namespaces = .done ∧ a.writes.seen = .done) ∧ u.snapshot = t.snapshot ∧
      u.root = t.root ∧ u.pin = t.pin ∧ (u.seen = t.seen ∨ u.seen = some g.seenText)) := by
  rw [recordSeen, run_bind]
  refine Run.mono (Q := fun _ u => u = { t with
      namespaces := if NewNames c s g.toBegun g.namespaces then some g.docs.namespaces
        else t.namespaces }) ?_ (fun _ u hu => ?_) fun _ _ h => h
  · rw [run_only]
    refine ⟨fun hnew => ?_, fun hsame => by simp [hsame]⟩
    exact run_must (fun _ => by simp [hnew]) fun hne h hh =>
      ⟨⟨ne_checking hh, fun hd => hne hd.1, rfl, rfl, rfl, .inl rfl⟩,
        ne_checking hh, fun hd => hne hd.1, rfl, rfl, rfl, .inl rfl⟩
  · subst hu
    exact run_must (fun _ => rfl) fun hne h hh =>
      ⟨⟨ne_checking hh, fun hd => hne hd.2, rfl, rfl, rfl, .inl rfl⟩,
        ne_checking hh, fun hd => hne hd.2, rfl, rfl, rfl, .inr rfl⟩

/-- From a file, only the record of the keys is changed, and only for a newer one. -/
lemma run_recordOffline {ns : c.Namespaces} : Run (recordOffline c a s g ns) t
    (fun record u => ∃ mine, ownRecord c s = some mine ∧
      ((u = t ∧ ∃ m, mine = some m ∧ c.namespacesVersion ns ≤ c.namespacesVersion m ∧
          (record = some m ∨ c.namespacesVersion m ≤ c.namespacesVersion ns)) ∨
        (u = { t with namespaces := some g.docs.namespaces } ∧
          ∀ m, mine = some m → c.namespacesVersion m < c.namespacesVersion ns)))
    (fun h u => u = t ∨ (h ≠ .refusal .checking ∧ a.writes.namespaces ≠ .done ∧
      u = { t with namespaces := some g.docs.namespaces })) := by
  rw [recordOffline, run_bind]
  cases hown : ownRecord c s with
  | none => exact .inl rfl
  | some mine =>
    rw [ofOption, run_pure]
    cases hfilter : mine.filter fun m => c.namespacesVersion ns ≤ c.namespacesVersion m with
    | some m =>
      rw [filter_eq_some_iff, decide_eq_true_iff] at hfilter
      refine ⟨mine, rfl, .inl ⟨rfl, m, hfilter.1, hfilter.2, ?_⟩⟩
      split
      · exact .inl rfl
      · exact .inr (not_lt.mp ‹_›)
    | none =>
      rw [run_bind]
      refine run_must_carried (fun _ => ⟨mine, rfl, .inr ⟨rfl, ?_⟩⟩)
        (fun _ _ _ => .inl rfl) fun hfate h hh => .inr ⟨?_, ?_, rfl⟩
      · rintro m rfl
        simpa using hfilter
      · rcases hh with rfl | rfl <;> simp
      · rcases hfate with hfate | hfate <;> simp [hfate]

end Recording

end Godspeed.Pm.Chain
