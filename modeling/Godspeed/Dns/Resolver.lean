import Godspeed.Lib.Transition
import Godspeed.Dns.Message

/-!
# The resolver and the receive ring

`dns_resolve` as it meets the frames: the driver keeps what arrives in a ring, a lookup polls
the ring until a frame passes its test or its deadline expires, and what a lookup leaves there
the next one meets.  Every query has the same transaction id and the same source port, and it
is sent again while the lookup waits, so a server answers twice.

Frames arrive at any time and hold any bytes (`Act.arrive`); the rest of the service takes
frames out of the ring as well (`Act.drain`).  `answers` keeps what each lookup returned, and
`arrived` what has arrived.  The query frame, the counters and the answers to ARP are outside
the model: nothing of them decides what a lookup returns.
-/

namespace Godspeed.Dns

open Transition List

/-- The labels of the hostname fit into the query: none is empty or longer than 63 bytes, and
each leaves room in the frame of 512 bytes. -/
def labelsFit : Nat → List (List UInt8) → Bool
  | _, [] => true
  | pos, label :: rest =>
    decide (label.length ≠ 0 ∧ label.length ≤ 63 ∧ pos + 1 + label.length < 512 - 8) &&
      labelsFit (pos + 1 + label.length) rest

/-- The network service, as far as lookups are concerned. -/
structure Resolver where
  ring : List Frame
  asking : Option Query
  arrived : List Frame
  answers : List (Query × Option (List UInt8))
  deriving DecidableEq

def Resolver.start : Resolver := ⟨[], none, [], []⟩

variable (s : Resolver)

def Resolver.finish (q : Query) (a : Option (List UInt8)) : Resolver :=
  { s with asking := none, answers := s.answers ++ [(q, a)] }

inductive Act
  /-- A frame arrives. -/
  | arrive (f : Frame)
  /-- Another part of the service takes a frame. -/
  | drain
  /-- `dns_resolve` is called. -/
  | ask (q : Query)
  /-- The query is sent again. -/
  | resend
  /-- The lookup under way polls for a frame. -/
  | poll
  /-- The deadline of the lookup expires. -/
  | expire
  deriving DecidableEq

def step : Act → Option Resolver
  | .arrive f => some { s with ring := s.ring ++ [f], arrived := s.arrived ++ [f] }
  | .drain => if s.asking = none then some { s with ring := s.ring.drop 1 } else none
  | .ask q =>
    match s.asking with
    | some _ => none
    | none =>
      if labelsFit (dnsAt + 12) (labels q.hostname) then some { s with asking := some q }
      else some (s.finish q none)
  | .resend => if s.asking.isSome then some s else none
  | .poll =>
    match s.asking, s.ring with
    | some q, f :: rest =>
      if isReply f then some ({ s with ring := rest }.finish q (readAnswer f))
      else some { s with ring := rest }
    | some _, [] => some s
    | none, _ => none
  | .expire =>
    match s.asking with
    | some q => some (s.finish q none)
    | none => none

/-- Every address that was returned is the data of an A record in a reply of the server that
was asked, to the question that was asked. -/
def Truthful : Prop :=
  ∀ q a, (q, some a) ∈ s.answers → ∃ f ∈ s.arrived, Genuine q f ∧ ARecord f a

/-- A lookup that meets this frame returns an address. -/
def Yields (f : Frame) : Prop := isReply f = true ∧ (readAnswer f).isSome = true

instance (f : Frame) : Decidable (Yields f) := inferInstanceAs (Decidable (_ ∧ _))

/-- A reply to the lookup in which no owner name up to the first A record mixes labels with a
pointer. -/
def Sound (q : Query) (f : Frame) : Prop := Genuine q f ∧ PlainToFirst f

instance (q : Query) (f : Frame) : Decidable (Sound q f) := inferInstanceAs (Decidable (_ ∧ _))

/-- The condition on a step: when a lookup starts, nothing is left in the ring that yields an
address, and what arrives while it is under way and yields one is a reply to it.  Frames that
yield no address, and frames that arrive while there is no lookup, may be anything. -/
def Fit : Act → Prop
  | .ask _ => ∀ f ∈ s.ring, ¬ Yields f
  | .arrive f => ∀ q ∈ s.asking, Yields f → Sound q f
  | _ => True

instance (s : Resolver) (a : Act) : Decidable (Fit s a) := by
  unfold Fit
  split <;> infer_instance

/-- What every step keeps: the ring holds what has arrived, what it holds during a lookup that
yields an address is a reply to this lookup, and the answers are true. -/
structure Kept (s : Resolver) : Prop where
  ring : ∀ f ∈ s.ring, f ∈ s.arrived
  sound : ∀ q ∈ s.asking, ∀ f ∈ s.ring, Yields f → Sound q f
  truthful : Truthful s

section Steps

variable {s t : Resolver} {q : Query}

section

variable (h : Kept s)
include h

lemma Kept.finish {a : Option (List UInt8)}
    (ha : ∀ x, a = some x → ∃ f ∈ s.arrived, Genuine q f ∧ ARecord f x) : Kept (s.finish q a) where
  ring := h.ring
  sound := fun _ hq => by cases hq
  truthful := by
    intro q' x hmem
    rcases mem_append.mp hmem with hold | hnew
    · exact h.truthful q' x hold
    · cases mem_singleton.mp hnew
      exact ha x rfl

lemma Kept.finish_none : Kept (s.finish q none) := h.finish fun _ hx => by cases hx

lemma Kept.leave {ring : List Frame} (hring : ∀ f ∈ ring, f ∈ s.ring) :
    Kept { s with ring := ring } where
  ring := fun f hf => h.ring f (hring f hf)
  sound := fun q hq f hf => h.sound q hq f (hring f hf)
  truthful := h.truthful

lemma Kept.arrive {f : Frame} (hfit : Fit s (.arrive f)) :
    Kept { s with ring := s.ring ++ [f], arrived := s.arrived ++ [f] } where
  ring := by
    intro g hg
    rcases mem_append.mp hg with hold | hnew
    · exact mem_append_left _ (h.ring g hold)
    · exact mem_append_right _ hnew
  sound := by
    intro q hq g hg
    rcases mem_append.mp hg with hold | hnew
    · exact h.sound q hq g hold
    · cases mem_singleton.mp hnew
      exact hfit q hq
  truthful := by
    intro q a hmem
    obtain ⟨g, hg, hgood⟩ := h.truthful q a hmem
    exact ⟨g, mem_append_left _ hg, hgood⟩

lemma Kept.poll (hstep : step s .poll = some t) : Kept t := by
  unfold step at hstep
  cases hasking : s.asking with
  | none =>
    rw [hasking] at hstep
    cases hstep
  | some q =>
    cases hring : s.ring with
    | nil =>
      simp only [hasking, hring] at hstep
      cases hstep
      exact h
    | cons f rest =>
      simp only [hasking, hring] at hstep
      have hrest : Kept { s with ring := rest } :=
        h.leave fun g hg => hring ▸ mem_cons_of_mem f hg
      rw [hasking] at hrest
      have hin : f ∈ s.ring := hring ▸ mem_cons_self
      split at hstep
      next hreply =>
        cases hstep
        refine hrest.finish fun a ha => ⟨f, h.ring f hin, ?_⟩
        obtain ⟨hgenuine, hplain⟩ := h.sound q hasking f hin ⟨hreply, by rw [ha]; rfl⟩
        exact ⟨hgenuine, aRecord_of_readAnswer hgenuine hplain ha⟩
      · cases hstep
        exact hrest

/-- **One step.** -/
theorem Kept.step {a : Act} (hfit : Fit s a) (hstep : step s a = some t) : Kept t := by
  cases a with
  | arrive f =>
    cases hstep
    exact h.arrive hfit
  | drain =>
    simp only [Dns.step] at hstep
    split at hstep
    · cases hstep
      exact h.leave fun f hf => mem_of_mem_drop hf
    · cases hstep
  | ask q =>
    simp only [Dns.step] at hstep
    split at hstep
    · cases hstep
    split at hstep
    · cases hstep
      exact ⟨h.ring, fun _ _ f hf hyields => absurd hyields (hfit f hf), h.truthful⟩
    · cases hstep
      exact h.finish_none
  | resend =>
    simp only [Dns.step] at hstep
    split at hstep
    · cases hstep
      exact h
    · cases hstep
  | poll => exact h.poll hstep
  | expire =>
    simp only [Dns.step] at hstep
    split at hstep
    · cases hstep
      exact h.finish_none
    · cases hstep

end

end Steps

open Resolver

/-- A lookup of `a.b`, asked twice and answered twice, and then one of `c.d`. -/
def twiceAnswered : List Act :=
  [.ask ⟨[97, 46, 98], server⟩, .resend, .arrive (replyFrame server [1, 97, 1, 98] [1, 1, 1, 1]), .poll,
    .arrive (replyFrame server [1, 97, 1, 98] [1, 1, 1, 1]), .ask ⟨[99, 46, 100], server⟩, .poll]

/-- The same, but the second reply is drained before the lookup of `c.d`, which passes over an
empty frame and then meets its own reply. -/
def drained : List Act :=
  twiceAnswered.take 5 ++ [.drain, .arrive [], .ask ⟨[99, 46, 100], server⟩, .poll,
    .arrive (replyFrame server [1, 99, 1, 100] [2, 2, 2, 2]), .poll]

/-- The lookup was answered with an address, and no reply to it has arrived. -/
def Misled (q : Query) (a : List UInt8) : Prop :=
  (q, some a) ∈ s.answers ∧ ∀ f ∈ s.arrived, ¬ Genuine q f

instance (s : Resolver) (q : Query) (a : List UInt8) : Decidable (Misled s q a) :=
  inferInstanceAs (Decidable (_ ∧ _))

/-- A datagram of any host to port 49153 is taken for the reply. -/
def forged : List Act :=
  [.ask ⟨[97, 46, 98], server⟩, .arrive (replyFrame [6, 6, 6, 6] [1, 120] [6, 6, 6, 7]), .poll]

end Godspeed.Dns
