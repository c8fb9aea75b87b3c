import Godspeed.Lib.Calls
import Godspeed.Pm.Contract

/-!
# Keeping a release

What `fetch` and `unpack` do with a release whose documents are verified: a copy
that is there and has this machine's binary is taken as it is (`keptHere`);
otherwise the release is written to a folder of its own, the binary through a
buffer while it is checked, and that folder is renamed (`store`).

Every call of `fs` may be refused, may be answered with an error after it was
carried out, and the power may go before or after it.  `faithful_iff` says exactly
when a command that reports the release has it in its place, and one that does
not report it leaves the place empty or as it was.
-/

namespace Godspeed.Pm.Keep

open Prog Calls Function

/-- The files of a kept release, and any other. -/
inductive Item
  | manifest
  | signature
  | contract
  | origin
  | binary
  | other (name : List Char)
deriving DecidableEq

abbrev Folder : Type := Item → Option Bytes

/-- The folder of the version and the one it is prepared in. -/
structure Places where
  dest : Option Folder
  staging : Option Folder

abbrev Stop : Type := Halt Unit

inductive Report
  | kept
  | already
deriving DecidableEq

/-- A release as it was verified: its documents, what the manifest says of the
binary for this machine, and the text of its origin, if that fits. -/
structure Release (D : Type) where
  manifest : Bytes
  signature : Bytes
  contract : Bytes
  origin : Option Bytes
  size : Nat
  digest : D

/-- `ArtifactVerifier` of the package crate, made for a size and a digest and asked after the
pieces that came in before. -/
structure ArtifactVerifier (D : Type) where
  /-- SHA-256. -/
  digest : Bytes → D
  update : Nat → D → List Bytes → Bytes → Bool
  finish : Nat → D → List Bytes → Bool
  /-- More than the size is not taken. -/
  update_iff : ∀ size d past piece,
    update size d past piece = true ↔ past.flatten.length + piece.length ≤ size
  finish_iff : ∀ size d pieces,
    finish size d pieces = true ↔ pieces.flatten.length = size ∧ digest pieces.flatten = d

/-- The binary as it comes in: its pieces, and the status at the end if the end
is reached. -/
structure Source where
  pieces : List Bytes
  status : Option Nat

/-- The fates of the calls; chunks of the binary are numbered. -/
structure Fates where
  dest : Look
  bin : Look
  drop : Fate
  clear : Fate
  create : Fate
  sized : Fate
  write : Nat → Fate
  document : Item → Fate
  rename : Fate
  discard : Fate

/-- The bytes that are written to a file at a time. -/
def ioChunk : Nat := 7 * 508

lemma ioChunk_eq : ioChunk = 3556 := rfl

variable (p : Places)

/-- Take the folder of the version away. -/
def Places.dropDest : Places := { p with dest := none }

def Places.dropStaging : Places := { p with staging := none }

/-- Make the prepared folder, if it is not there. -/
def Places.makeStaging : Places :=
  { p with staging := some (p.staging.getD fun _ => none) }

/-- Write a whole file of the prepared folder. -/
def Places.put (item : Item) (bytes : Bytes) (p : Places) : Places :=
  { p with staging := p.staging.map (update · item (some bytes)) }

def splice (file : Bytes) (offset : Nat) (bytes : Bytes) : Bytes :=
  file.take offset ++ bytes ++ file.drop (offset + bytes.length)

def Places.writeAt (offset : Nat) (bytes : Bytes) (p : Places) : Places :=
  { p with staging := p.staging.map fun f =>
      update f .binary ((f .binary).map (splice · offset bytes)) }

/-- Give the prepared folder the name of the version. -/
def Places.move : Places := ⟨p.staging, none⟩

/-- The bytes in the buffer and the number of those written. -/
structure Feed where
  held : Bytes
  written : Nat

open Places

section Commands

variable {D : Type} (v : ArtifactVerifier D) (fates : Fates) (release : Release D) (source : Source)

/-- Whether the copy kept is one that this machine can run; one that is not is
taken away. -/
def keptHere : Prog Places Stop Bool := do
  if ← ask fates.dest (·.dest.isSome) then
    if ← ask fates.bin (fun p => p.dest.any fun f => (f .binary).isSome) then
      pure true
    else do
      let _ ← call fates.drop dropDest
      pure false
  else pure false

/-- End with nothing kept, the prepared folder taken away. -/
def abandon {α : Type} : Prog Places Stop α := do
  let _ ← call fates.discard dropStaging
  refuse (.refusal ())

def orAbandon (c : Prop) [Decidable c] : Prog Places Stop Unit :=
  if c then pure () else abandon fates

/-- One byte of the binary: into the buffer, which is written when it is full. -/
def pushByte (b : UInt8) (w : Feed) : Prog Places Stop Feed :=
  if w.held.length + 1 = ioChunk then do
    if ← call (fates.write (w.written / ioChunk)) (.writeAt w.written (w.held ++ [b])) then
      pure ⟨[], w.written + ioChunk⟩
    else abandon fates
  else pure ⟨w.held ++ [b], w.written⟩

/-- One piece of the binary, unless the verifier does not take it. -/
def receive (piece : Bytes) (x : Feed × List Bytes) : Prog Places Stop (Feed × List Bytes) :=
  if v.update release.size release.digest x.2 piece then do
    let w ← foldEach piece x.1 (pushByte fates)
    pure (w, x.2 ++ [piece])
  else abandon fates

def flush (w : Feed) : Prog Places Stop Unit :=
  if w.held = [] then pure ()
  else must () (fates.write (w.written / ioChunk)) (.writeAt w.written w.held)

/-- The binary came whole: the size and the digest of the manifest. -/
def Whole : Prop :=
  source.pieces.flatten.length = release.size ∧ v.digest source.pieces.flatten = release.digest

/-- The binary, from the making of the folder to the verdict on it. -/
def storeBinary : Prog Places Stop Unit := do
  must () fates.create makeStaging
  must () fates.sized (.put .binary (List.replicate release.size 0))
  let x ← foldEach source.pieces (⟨[], 0⟩, []) (receive v fates release)
  orAbandon fates (source.status = some 200)
  flush fates x.1
  orAbandon fates (v.finish release.size release.digest x.2 = true)

/-- The documents that prove it, and where it came from. -/
def documents (origin : Bytes) : List (Item × Bytes) :=
  [(.manifest, release.manifest), (.signature, release.signature),
    (.contract, release.contract), (.origin, origin)]

/-- `store`.  A name that is taken is not given again. -/
def store (origin : Bytes) : Prog Places Stop Unit := do
  let _ ← call fates.clear dropStaging
  storeBinary v fates release source
  forEach (documents release origin) fun d => must () (fates.document d.1) (.put d.1 d.2)
  require (← read (·.dest.isNone)) (.refusal ())
  must () fates.rename move

/-- `keep` and `keep_local`, from the verified documents on. -/
def keep : Prog Places Stop Report := do
  if ← keptHere fates then pure .already
  else do
    let origin ← ofOption release.origin (.refusal ())
    store v fates release source origin
    pure .kept

/-- `fetch` and `unpack`: `verified` is the release whose documents passed, if the
command came that far. -/
def fetch (verified : Option (Release D)) : Prog Places Stop Report := do
  let release ← ofOption verified (.refusal ())
  keep v fates release source

end Commands

section Calls

variable {p : Places}

lemma run_abandon {α : Type} {fates : Fates} {Q : α → Places → Prop}
    {E : Stop → Places → Prop} (h : ∀ e q, q.dest = p.dest → E e q) :
    Run (abandon fates : Prog Places Stop α) p Q E := by
  rw [abandon, run_bind]
  cases fates.discard <;> exact h _ _ rfl

lemma run_orAbandon {fates : Fates} {c : Prop} [Decidable c] {Q : Unit → Places → Prop}
    {E : Stop → Places → Prop} (hc : c → Q () p) (h : ¬ c → ∀ e q, q.dest = p.dest → E e q) :
    Run (orAbandon fates c) p Q E := by
  rw [orAbandon, run_ite]
  exact ⟨hc, fun hnot => run_abandon (h hnot)⟩

end Calls

section Filling

variable {D : Type} {v : ArtifactVerifier D} {fates : Fates} {release : Release D}
  {source : Source} {p q : Places} {base : Folder} {bs : Bytes} {w : Feed} {size : Nat}
  {dest : Option Folder} {E : Stop → Places → Prop}

/-- The binary comes whole, and everything that is done for it is done. -/
structure BinaryDone (v : ArtifactVerifier D) (fates : Fates) (release : Release D)
    (source : Source) : Prop where
  create : fates.create = .done
  sized : fates.sized = .done
  write : ∀ k, k * ioChunk < release.size → fates.write k = .done
  status : source.status = some 200
  whole : Whole v release source

/-- Everything before the renaming is done. -/
structure Complete (v : ArtifactVerifier D) (fates : Fates) (release : Release D)
    (source : Source) : Prop where
  clear : fates.clear ≠ .cut ∧ fates.clear ≠ .cutAfter
  binary : BinaryDone v fates release source
  document : ∀ item ∈ [Item.manifest, .signature, .contract, .origin], fates.document item = .done

/-- What is left of an interrupted command in the prepared folder. -/
def leftover (fates : Fates) (p : Places) : Folder :=
  if fates.clear = .done ∨ fates.clear = .unsaid then fun _ => none
  else p.staging.getD fun _ => none

def prepared (fates : Fates) (release : Release D) (source : Source) (origin : Bytes)
    (p : Places) : Folder :=
  (documents release origin).foldl (fun f d => update f d.1 (some d.2))
    (update (leftover fates p) .binary (some source.pieces.flatten))

/-- The prepared folder after the bytes `bs` came in: those that are not in the
buffer are written, a chunk at a time. -/
structure Fed (fates : Fates) (size : Nat) (dest : Option Folder) (base : Folder) (bs : Bytes)
    (w : Feed) (q : Places) : Prop where
  state : q = ⟨dest, some (update base .binary
    (some (bs.take w.written ++ List.replicate (size - w.written) 0)))⟩
  held : w.held = bs.drop w.written
  length : bs.length = w.written + w.held.length
  fits : bs.length ≤ size
  chunk : w.held.length < ioChunk
  whole : ioChunk ∣ w.written
  done : ∀ k, (k + 1) * ioChunk ≤ w.written → fates.write k = .done

lemma splice_take {n : Nat} {bytes : Bytes} (hn : n ≤ bs.length) (hbytes : bytes = bs.drop n)
    (hsize : bs.length ≤ size) :
    splice (bs.take n ++ List.replicate (size - n) 0) n bytes =
      bs ++ List.replicate (size - bs.length) 0 := by
  have htake : (bs.take n).length = n := List.length_take_of_le hn
  have hdrop : (bs.drop n).length = bs.length - n := List.length_drop
  rw [splice, hbytes, List.take_left' htake, List.take_append_drop, List.drop_append,
    List.drop_of_length_le (by omega), List.nil_append, List.drop_replicate]
  congr 2
  omega

lemma Fed.writeAt (h : Fed fates size dest base bs w q) (more : Bytes)
    (hfits : (bs ++ more).length ≤ size) :
    q.writeAt w.written (w.held ++ more) = ⟨dest, some (update base .binary
      (some (bs ++ more ++ List.replicate (size - (bs ++ more).length) 0)))⟩ := by
  have hle : w.written ≤ bs.length := by
    rw [h.length]
    exact Nat.le_add_right _ _
  have hbytes : w.held ++ more = (bs ++ more).drop w.written := by
    rw [List.drop_append_of_le_length hle, h.held]
  have htake : bs.take w.written = (bs ++ more).take w.written := by
    rw [List.take_append_of_le_length hle]
  rw [h.state, Places.writeAt]
  simp only [Option.map_some, update_self, update_idem]
  rw [htake, splice_take (le_trans hle (by simp)) hbytes hfits]

/-- **One byte more.** -/
theorem Fed.pushByte {b : UInt8} (h : Fed fates size dest base bs w q) (hroom : bs.length < size)
    (hfail : ∀ k, k * ioChunk < size → fates.write k ≠ .done → ∀ e q, q.dest = dest → E e q) :
    Run (pushByte fates b w) q (fun w q => Fed fates size dest base (bs ++ [b]) w q) E := by
  have hdest : q.dest = dest := by rw [h.state]
  have hlen := h.length
  rw [Keep.pushByte]
  split
  · -- the buffer is full
    have hk : w.written / ioChunk * ioChunk = w.written := Nat.div_mul_cancel h.whole
    have hnew : (bs ++ [b]).length = w.written + ioChunk := by
      rw [List.length_append, List.length_singleton]
      omega
    have hfits : (bs ++ [b]).length ≤ size := by
      rw [List.length_append]
      exact hroom
    have hwrite := h.writeAt [b] hfits
    have hbad (hne : fates.write (w.written / ioChunk) ≠ .done) := hfail _ (by omega) hne
    rw [run_bind]
    cases hfate : fates.write (w.written / ioChunk) with
    | done =>
      refine ⟨?_, ?_, ?_, hfits, (by decide : 0 < ioChunk),
        Nat.dvd_add h.whole (Nat.dvd_refl _), fun k hle => ?_⟩
      · rw [hwrite, List.take_of_length_le (le_of_eq hnew), hnew]
      · exact (List.drop_of_length_le (le_of_eq hnew)).symm
      · exact hnew
      · rcases lt_or_ge w.written ((k + 1) * ioChunk) with hlt | hge
        · -- this is the chunk that was written now
          have hkeq : k = w.written / ioChunk := by
            change (k + 1) * ioChunk ≤ w.written + ioChunk at hle
            rw [ioChunk_eq] at hk hlt hle ⊢
            omega
          rw [hkeq, hfate]
        · exact h.done k hge
    | refused => exact run_abandon fun e q' hq => hbad (by simp [hfate]) e q' (hq.trans hdest)
    | unsaid =>
      refine run_abandon fun e q' hq => hbad (by simp [hfate]) e q' (hq.trans ?_)
      rw [hwrite]
    | cut => exact hbad (by simp [hfate]) _ _ hdest
    | cutAfter =>
      refine hbad (by simp [hfate]) _ _ ?_
      rw [hwrite]
  next hroom' =>
    have hle : w.written ≤ bs.length := by omega
    refine ⟨?_, ?_, ?_, ?_, ?_, h.whole, h.done⟩
    · rw [h.state, List.take_append_of_le_length hle]
    · rw [List.drop_append_of_le_length hle, h.held]
    · simp only [List.length_append]
      omega
    · simp only [List.length_append, List.length_singleton]
      omega
    · have := h.chunk
      simp only [List.length_append, List.length_singleton]
      omega

/-- **The whole binary.** -/
theorem Fed.receiveAll (hstart : Fed fates release.size dest base [] ⟨[], 0⟩ q)
    (hfail : ¬ BinaryDone v fates release source → ∀ e q, q.dest = dest → E e q) :
    Run (foldEach source.pieces (⟨[], 0⟩, []) (receive v fates release)) q
      (fun x q => Fed fates release.size dest base source.pieces.flatten x.1 q ∧
        x.2 = source.pieces) E := by
  refine run_foldEach (fun past (x : Feed × List Bytes) q =>
    Fed fates release.size dest base past.flatten x.1 q ∧ x.2 = past) (by exact ⟨hstart, rfl⟩) ?_
  rintro _ piece rest ⟨w, past⟩ t hpieces ⟨ht, rfl⟩
  have hdest : t.dest = dest := by rw [ht.state]
  rw [receive, run_ite, v.update_iff]
  dsimp only at ht hpieces ⊢
  constructor
  · intro hfits
    rw [run_bind, List.flatten_append, List.flatten_singleton]
    refine (run_foldEach (fun bytes w q =>
      Fed fates release.size dest base (past.flatten ++ bytes) w q) (by simpa using ht)
      fun before b after w t hpiece ht => ?_).mono (fun _ _ hw => ⟨hw, rfl⟩) fun _ _ h => h
    rw [← List.append_assoc]
    refine ht.pushByte ?_ fun k hk hne => hfail fun hc => hne (hc.write k hk)
    rw [hpiece, List.length_append, List.length_cons] at hfits
    rw [List.length_append]
    omega
  · intro hlong
    refine run_abandon fun e q hq => hfail (fun hc => ?_) e q (hq.trans hdest)
    have hsize := hc.whole.1
    rw [hpieces, List.flatten_append, List.flatten_cons, List.length_append,
      List.length_append] at hsize
    omega

/-- **What is left in the buffer.** -/
theorem Fed.flush (h : Fed fates size dest base bs w q)
    (hfail : ∀ k, k * ioChunk < size → fates.write k ≠ .done → ∀ e q, q.dest = dest → E e q) :
    Run (flush fates w) q (fun _ q => q = ⟨dest, some (update base .binary
        (some (bs ++ List.replicate (size - bs.length) 0)))⟩ ∧
      ∀ k, k * ioChunk < bs.length → fates.write k = .done) E := by
  have hlen := h.length
  have hfits := h.fits
  have hk : w.written / ioChunk * ioChunk = w.written := Nat.div_mul_cancel h.whole
  have hmore : ∀ k, k * ioChunk < bs.length → k ≠ w.written / ioChunk → fates.write k = .done := by
    intro k hlt hne
    refine h.done k ?_
    have hchunk := h.chunk
    rw [ioChunk_eq] at hk hlt hne hchunk ⊢
    omega
  rw [Keep.flush, run_ite]
  constructor
  · intro hheld
    have hall : bs.length = w.written := by rw [hlen, hheld, List.length_nil, add_zero]
    refine ⟨by rw [h.state, ← hall, List.take_length], fun k hlt => hmore k hlt ?_⟩
    rintro rfl
    omega
  · intro hheld
    have hpos := List.length_pos_iff.mpr hheld
    have hwrite := h.writeAt [] (by simpa using hfits)
    simp only [List.append_nil] at hwrite
    have hlast : w.written / ioChunk * ioChunk < size := by omega
    refine run_must (fun hdone => ⟨hwrite, fun k hlt => ?_⟩) fun hne e _ =>
      ⟨hfail _ hlast hne e _ (by rw [h.state]), hfail _ hlast hne e _ (by rw [hwrite])⟩
    by_cases hk' : k = w.written / ioChunk
    · rw [hk', hdone]
    · exact hmore k hlt hk'

/-- **The binary is prepared** if and only if it comes whole and everything for it
is done. -/
theorem run_storeBinary : Run (storeBinary v fates release source) p
      (fun _ q => BinaryDone v fates release source ∧ q = ⟨p.dest, some (update
        (p.staging.getD fun _ => none) .binary (some source.pieces.flatten))⟩)
      (fun _ q => ¬ BinaryDone v fates release source ∧ q.dest = p.dest) := by
  have hmust {fate : Fate} {f : Places → Places} {q : Places} {Q : Unit → Places → Prop}
      (hneed : BinaryDone v fates release source → fate = .done) (hq : q.dest = p.dest)
      (hf : (f q).dest = p.dest) (hQ : fate = .done → Q () (f q)) :
      Run (must () fate f) q Q
        (fun _ q => ¬ BinaryDone v fates release source ∧ q.dest = p.dest) :=
    run_must hQ fun hne _ _ => ⟨⟨fun hc => hne (hneed hc), hq⟩, ⟨fun hc => hne (hneed hc), hf⟩⟩
  rw [storeBinary, run_bind]
  refine hmust BinaryDone.create rfl rfl fun hcreate => ?_
  rw [run_bind]
  refine hmust BinaryDone.sized rfl rfl fun hsized => ?_
  rw [run_bind]
  have hstart : Fed fates release.size p.dest (p.staging.getD fun _ => none) [] ⟨[], 0⟩
      (put .binary (List.replicate release.size 0) p.makeStaging) := by
    refine ⟨rfl, rfl, rfl, Nat.zero_le _, (by decide : 0 < ioChunk), Nat.dvd_zero _, ?_⟩
    intro k hk
    exact absurd hk (by simp [ioChunk])
  refine (Fed.receiveAll hstart fun hc e q hq => ⟨hc, hq⟩).mono (fun x t ht => ?_) fun _ _ h => h
  obtain ⟨w, _⟩ := x
  obtain ⟨ht, rfl⟩ := ht
  have hfinish := v.finish_iff release.size release.digest source.pieces
  have hdest : t.dest = p.dest := by rw [ht.state]
  rw [run_bind]
  refine run_orAbandon (fun hstatus => ?_) fun hstatus e q hq =>
    ⟨fun hc => hstatus hc.status, hq.trans hdest⟩
  rw [run_bind]
  refine (ht.flush fun k hk hne e q hq => ⟨fun hc => hne (hc.write k hk), hq⟩).mono
    (fun _ u hu => ?_) fun _ _ h => h
  obtain ⟨hu, hdone⟩ := hu
  refine run_orAbandon (fun hok => ?_) fun hnot e q hq =>
    ⟨fun hc => hnot (hfinish.mpr hc.whole), by rw [hq, hu]⟩
  have hwhole := hfinish.mp hok
  refine ⟨⟨hcreate, hsized, fun k hk => hdone k (hwhole.1 ▸ hk), hstatus, hwhole⟩, ?_⟩
  rw [hu, hwhole.1, Nat.sub_self, List.replicate_zero, List.append_nil]

lemma run_documents {origin : Bytes} : Run (forEach (documents release origin) fun d =>
        (must () (fates.document d.1) (.put d.1 d.2) : Prog Places Stop Unit)) ⟨dest, some base⟩
      (fun _ q => (∀ d ∈ documents release origin, fates.document d.1 = .done) ∧
        q = ⟨dest, some ((documents release origin).foldl
          (fun f d => update f d.1 (some d.2)) base)⟩)
      (fun _ q => (¬ ∀ d ∈ documents release origin, fates.document d.1 = .done) ∧
        q.dest = dest) := by
  refine run_forEach (fun (past : List (Item × Bytes)) (q : Places) =>
    (∀ d ∈ past, fates.document d.1 = .done) ∧
    q = ⟨dest, some (past.foldl (fun f d => update f d.1 (some d.2)) base)⟩)
    ⟨by simp, rfl⟩ fun past d rest t hdocs ⟨hpast, ht⟩ => ?_
  refine run_must (fun hdone => ⟨?_, ?_⟩) fun hne _ _ => ?_
  · intro e he
    rcases List.mem_append.mp he with he | he
    · exact hpast e he
    · rwa [List.mem_singleton.mp he]
  · rw [ht, List.foldl_append]
    rfl
  · have hnot : ¬ ∀ d ∈ documents release origin, fates.document d.1 = .done := fun hall =>
      hne (hall d (by simp [hdocs]))
    exact ⟨⟨hnot, by rw [ht]⟩, ⟨hnot, by rw [ht]; rfl⟩⟩

lemma run_clear : Run (call fates.clear dropStaging : Prog Places Stop Bool) p
    (fun _ q => (fates.clear ≠ .cut ∧ fates.clear ≠ .cutAfter) ∧ q.dest = p.dest ∧
      (q.staging.getD fun _ => none) = leftover fates p)
    (fun _ q => ¬ (fates.clear ≠ .cut ∧ fates.clear ≠ .cutAfter) ∧ q.dest = p.dest) := by
  rw [run_call]
  cases hclear : fates.clear <;> simp [leftover, hclear, dropStaging]

/-- **Storing a release.**  It is in its place if everything before the renaming is
done, the name is free and the renaming is carried out; otherwise the place is as
it was. -/
theorem run_store (origin : Bytes) : Run (store v fates release source origin) p
      (fun _ q => Complete v fates release source ∧ p.dest = none ∧ fates.rename = .done ∧
        q.dest = some (prepared fates release source origin p))
      (fun _ q => (¬ (Complete v fates release source ∧ p.dest = none ∧
          (fates.rename = .unsaid ∨ fates.rename = .cutAfter)) ∧ q.dest = p.dest) ∨
        (Complete v fates release source ∧ p.dest = none ∧
          (fates.rename = .unsaid ∨ fates.rename = .cutAfter) ∧
          q.dest = some (prepared fates release source origin p))) := by
  rw [store, run_bind]
  refine run_clear.mono (fun _ q hq => ?_) fun _ q hq => .inl ⟨fun h => hq.1 h.1.clear, hq.2⟩
  obtain ⟨hclear, hq, hleft⟩ := hq
  rw [run_bind]
  refine run_storeBinary.mono (fun _ t ht => ?_) fun _ t ht =>
    .inl ⟨fun h => ht.1 h.1.binary, ht.2.trans hq⟩
  obtain ⟨hbinary, rfl⟩ := ht
  rw [run_bind]
  refine run_documents.mono (fun _ t ht => ?_) fun _ t ht =>
    .inl ⟨fun h => ht.1 (by simpa [documents] using h.1.document), ht.2.trans hq⟩
  obtain ⟨hdocs, rfl⟩ := ht
  have hcomplete : Complete v fates release source :=
    ⟨hclear, hbinary, by simpa [documents] using hdocs⟩
  rw [run_bind, run_read, run_bind, run_require, hq, hleft]
  refine ⟨fun hfree => ?_, fun htaken => .inl ⟨fun h => ?_, rfl⟩⟩
  · have hfree : p.dest = none := by simpa using hfree
    rw [must, run_bind]
    cases hrename : fates.rename with
    | done => exact ⟨hcomplete, hfree, rfl, rfl⟩
    | refused | cut => exact .inl ⟨by simp, rfl⟩
    | unsaid => exact .inr ⟨hcomplete, hfree, .inl rfl, rfl⟩
    | cutAfter => exact .inr ⟨hcomplete, hfree, .inr rfl, rfl⟩
  · simp [h.2.1] at htaken

end Filling

section Keeping

variable {D : Type} (v : ArtifactVerifier D) (fates : Fates) (source : Source)

/-- The folder holds the documents of the release, and a binary of the size and the
digest of the manifest. -/
def Holds (release : Release D) (folder : Option Folder) : Prop :=
  ∃ f, folder = some f ∧ f .manifest = some release.manifest ∧
    f .signature = some release.signature ∧ f .contract = some release.contract ∧
    ∃ b, f .binary = some b ∧ b.length = release.size ∧ v.digest b = release.digest

/-- What is reported is there; without a report the place is empty or as before. -/
def Faithful (verified : Option (Release D)) (before : Option Folder) :
    Except Stop Report × Places → Prop
  | (.ok _, q) => ∃ release, verified = some release ∧ Holds v release q.dest
  | (.error _, q) => q.dest = none ∨ q.dest = before

/-- The copy that is there is taken for this machine's. -/
def Already (p : Places) : Prop :=
  fates.dest = .told ∧ fates.bin = .told ∧ p.dest.any (fun f => (f .binary).isSome) = true

/-- The place is empty when the release is put there: it was, or what was there is
taken away. -/
def Cleared (p : Places) : Prop :=
  (p.dest = none ∧ fates.dest ≠ .cut) ∨
    (p.dest ≠ none ∧ fates.dest = .told ∧ fates.bin ≠ .cut ∧ ¬ Already fates p ∧
      (fates.drop = .done ∨ fates.drop = .unsaid))

/-- When a command does not do what it says: a copy taken for this machine's is not
the release, or the release is put in its place, instead of something else, by a
renaming that is not answered with success. -/
def Misled (verified : Option (Release D)) (p : Places) : Prop :=
  ∃ release, verified = some release ∧
    ((Already fates p ∧ ¬ Holds v release p.dest) ∨
      ∃ origin, release.origin = some origin ∧ Cleared fates p ∧
        Complete v fates release source ∧
        (fates.rename = .unsaid ∨ fates.rename = .cutAfter) ∧
        p.dest ≠ some (prepared fates release source origin p))

variable {v fates source} {release : Release D} {p : Places}

lemma run_keptHere : Run (keptHere fates) p (fun here q => (here ∧ Already fates p ∧ q = p) ∨
      (here = false ∧ ¬ Already fates p ∧ q.staging = p.staging ∧
        ((Cleared fates p ∧ q.dest = none) ∨
          (¬ Cleared fates p ∧ q.dest = p.dest ∧ p.dest ≠ none))))
    (fun _ q => ¬ Already fates p ∧ ¬ Cleared fates p ∧ (q.dest = none ∨ q.dest = p.dest)) := by
  obtain ⟨dest, staging⟩ := p
  rw [keptHere, run_bind, run_ask]
  cases hdest : fates.dest with
  | cut => exact ⟨by simp [Already, hdest], by simp [Cleared, hdest], .inr rfl⟩
  | failed => cases dest <;> simp [Already, Cleared, hdest]
  | told =>
    cases dest with
    | none => simp [Already, Cleared, hdest]
    | some f =>
      simp only [Option.isSome_some, if_true, run_bind, run_ask]
      by_cases hfile : (f .binary).isSome = true <;> cases hbin : fates.bin <;>
        cases hdrop : fates.drop <;>
        simp [Already, Cleared, hdest, hbin, hfile, hdrop, run_bind, run_call, dropDest]

lemma holds_prepared {origin : Bytes} (h : Complete v fates release source) :
    Holds v release (some (prepared fates release source origin p)) := by
  refine ⟨_, rfl, ?_, ?_, ?_, source.pieces.flatten, ?_, h.binary.whole.1, h.binary.whole.2⟩ <;>
    simp [prepared, documents]

/-- **A release that is reported is in its place**, and without a report the place
is empty or as it was, except in the cases of `Misled`. -/
theorem faithful_iff (v : ArtifactVerifier D) (fates : Fates) (source : Source)
    (verified : Option (Release D)) (p : Places) :
    Faithful v verified p.dest (fetch v fates source verified p) ↔
      ¬ Misled v fates source verified p := by
  suffices hrun : Run (fetch v fates source verified) p
      (fun _ q => (∃ release, verified = some release ∧ Holds v release q.dest) ↔
        ¬ Misled v fates source verified p)
      (fun _ q => (q.dest = none ∨ q.dest = p.dest) ↔ ¬ Misled v fates source verified p) by
    rcases hend : fetch v fates source verified p with ⟨result, q⟩
    cases result with
    | ok report => exact hrun.of_ok hend
    | error e => exact hrun.of_error hend
  cases verified with
  | none => exact iff_of_true (.inr rfl) (by simp [Misled])
  | some release =>
    simp only [Misled, Option.some.injEq, exists_eq_left']
    rw [fetch, run_bind, ofOption, run_pure, keep, run_bind]
    refine run_keptHere.mono (fun here q hq => ?_) fun _ q ⟨hnot, hkept, hq⟩ =>
      iff_of_true hq (by simp [hnot, hkept])
    rcases hq with ⟨rfl, halready, rfl⟩ | ⟨rfl, hnot, hstaging, hq⟩
    · -- taken as it is
      have hcleared : ¬ Cleared fates q := by
        rintro (⟨hnone, -⟩ | ⟨-, -, -, hnot, -⟩)
        · simp [Already, hnone] at halready
        · exact hnot halready
      simp [halready, hcleared]
    simp only [Bool.false_eq_true, if_false, hnot, false_and, false_or]
    cases horigin : release.origin with
    | none =>
      refine iff_of_true ?_ (by simp)
      rcases hq with ⟨-, hq⟩ | ⟨-, hq, -⟩
      · exact .inl hq
      · exact .inr hq
    | some origin =>
      have hsame : prepared fates release source origin q =
          prepared fates release source origin p := by
        simp only [prepared, leftover, hstaging]
      simp only [Option.some.injEq, exists_eq_left']
      rw [ofOption, run_bind, run_pure, run_bind]
      refine (run_store origin).mono (fun _ t ht => ?_) fun _ t ht => ?_
      · obtain ⟨hcomplete, -, hrename, ht⟩ := ht
        exact iff_of_true (ht ▸ holds_prepared hcomplete) (by simp [hrename])
      rw [hsame] at ht
      rcases hq with ⟨hcleared, hq⟩ | ⟨hcleared, hq, hthere⟩
      · rcases ht with ⟨hkept, ht⟩ | ⟨hcomplete, -, hrename, ht⟩
        · exact iff_of_true (.inl (ht.trans hq)) fun h => hkept ⟨h.2.1, hq, h.2.2.1⟩
        · simp only [ht, hcleared, hcomplete, hrename, reduceCtorEq, false_or, true_and, not_not]
          exact eq_comm
      · rcases ht with ⟨-, ht⟩ | ⟨-, hnone, -⟩
        · exact iff_of_true (.inr (ht.trans hq)) fun h => hcleared h.1
        · exact absurd (hq.symm.trans hnone) hthere

end Keeping

namespace Sample

def smooth : Fates where
  dest := .told
  bin := .told
  drop := .done
  clear := .done
  create := .done
  sized := .done
  write := fun _ => .done
  document := fun _ => .done
  rename := .done
  discard := .done

/-- A release with a binary of two bytes; its digest is the sum. -/
def release : Release Nat where
  manifest := [1]
  signature := [2]
  contract := [3]
  origin := some [4]
  size := 2
  digest := 11

def source : Source := ⟨[[5], [6]], some 200⟩

def sum (bytes : Bytes) : Nat := bytes.foldl (· + ·.toNat) 0

def sums : ArtifactVerifier Nat where
  digest := sum
  update size _ past piece := past.flatten.length + piece.length ≤ size
  finish size d pieces := pieces.flatten.length = size ∧ sum pieces.flatten = d
  update_iff := by simp
  finish_iff := by simp

/-- Another release under the same name and version, kept before. -/
def other : Folder
  | .manifest => some [9]
  | .binary => some [9]
  | _ => none

end Sample

open Sample in
/-- Another release under the same name is reported as this one, and a release
comes into its place without a report when the power goes after the renaming. -/
theorem keep_misled :
    ((fetch sums smooth source (some release) ⟨some other, none⟩).1 = .ok .already ∧
      (fetch sums smooth source (some release) ⟨some other, none⟩).2.dest.map (· .manifest) =
        some (some [9]) ∧
      ¬ Faithful sums (some release) (some other)
        (fetch sums smooth source (some release) ⟨some other, none⟩)) ∧
    ((fetch sums { smooth with rename := .cutAfter } source (some release) ⟨none, none⟩).1 =
        .error .power ∧
      (fetch sums { smooth with rename := .cutAfter } source (some release)
        ⟨none, none⟩).2.dest.isSome = true ∧
      ¬ Faithful sums (some release) none
        (fetch sums { smooth with rename := .cutAfter } source (some release) ⟨none, none⟩)) := by
  refine ⟨⟨rfl, rfl, ?_⟩, ⟨rfl, rfl, ?_⟩⟩
  · rintro ⟨r, hr, f, hf, hmanifest, -⟩
    cases hr
    cases hf
    exact absurd hmanifest (by decide)
  · rintro (h | h) <;> cases h

end Godspeed.Pm.Keep
