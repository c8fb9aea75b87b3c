import Godspeed.Lib.Transition

/-!
# Messages that come in while a capability is used

`resource::invoke` waits for its reply on the endpoint that the clients of the task send
to.  What is not the reply goes into a store of two places, from which `take_held` hands
it to the task.  A File, a Listener and a Stream have a store of their own, which `close`
consumes; a Conn uses that of its Listener.

The task empties the store after every operation.  `arrived` and `served` are records: the
clients' messages in the order they came in, and all that the task was given, by its own
receive or out of the store.
-/

namespace Godspeed.Sdk

open Transition

structure Envelope where
  bytes : List UInt8
  client : Bool
  deriving DecidableEq

/-- `HELD_MAX`. -/
def heldMax : Nat := 2

/-- `Held`. -/
structure Held where
  msgs : List Envelope
  fits : msgs.length ≤ heldMax

namespace Held

def new : Held := ⟨[], Nat.zero_le _⟩

/-- `Held::take`. -/
def take (held : Held) : Option (Envelope × Held) :=
  match held with
  | ⟨[], _⟩ => none
  | ⟨m :: rest, fits⟩ => some (m, ⟨rest, Nat.le_of_succ_le fits⟩)

end Held

/-- An invocation that was sent: its tag, and whether its handle ends with it. -/
structure Invocation where
  tag : UInt8
  last : Bool
  deriving DecidableEq

structure Server where
  queue : List Envelope
  held : Held
  waiting : Option Invocation
  arrived : List Envelope
  served : List Envelope

def Server.start : Server := ⟨[], .new, none, [], []⟩

inductive Server.Act
  | arrive (m : Envelope)
  | invoke (w : Invocation) (sent : Bool)
  | receive
  | giveUp
  | takeHeld
  | ownReceive
  deriving DecidableEq

namespace Server

variable (s : Server)

/-- The end of an invocation.  A close takes the store with it. -/
def finish (w : Invocation) : Server :=
  { s with waiting := none, held := if w.last then .new else s.held }

/-- One turn of the loop of `invoke`, with the message at the head of the queue. -/
def gets (w : Invocation) (m : Envelope) : Server :=
  if m.bytes.head? = some w.tag then s.finish w
  else if h : s.held.msgs.length < heldMax then
    { s with held := ⟨s.held.msgs ++ [m], by simpa [Nat.succ_le_iff] using h⟩ }
  else s.finish w

/-- A wait is given up when its time is over or its caller quits.  A task in no wait
uses a capability or receives once its store is empty. -/
def step : Act → Option Server
  | .arrive m =>
    some { s with
      queue := s.queue ++ [m]
      arrived := if m.client then s.arrived ++ [m] else s.arrived }
  | .invoke w sent =>
    if s.waiting = none ∧ s.held.msgs = [] then
      some (if sent then { s with waiting := some w } else s.finish w)
    else none
  | .receive =>
    match s.waiting, s.queue with
    | some w, m :: queue => some ({ s with queue := queue }.gets w m)
    | _, _ => none
  | .giveUp => s.waiting.map s.finish
  | .takeHeld =>
    if s.waiting = none then
      s.held.take.map fun (m, held) => { s with held := held, served := s.served ++ [m] }
    else none
  | .ownReceive =>
    match s.waiting, s.held.msgs, s.queue with
    | none, [], m :: queue => some { s with queue := queue, served := s.served ++ [m] }
    | _, _, _ => none

/-- No message of a client is lost, doubled or overtaken. -/
def Keeps : Prop :=
  s.arrived = (s.served ++ s.held.msgs ++ s.queue).filter Envelope.client

/-- A wait comes upon no client's message that starts with its tag, that finds the
store full, or that comes in during a close. -/
def Spared (a : Act) : Prop :=
  a = .receive → ∀ w ∈ s.waiting, ∀ m ∈ s.queue.head?, m.client = true →
    m.bytes.head? ≠ some w.tag ∧ s.held.msgs.length < heldMax ∧ w.last = false

instance (s : Server) (a : Act) : Decidable (s.Spared a) := inferInstanceAs (Decidable (_ → _))

/-- During a close the store holds no client's message. -/
structure Sound (s : Server) : Prop where
  keeps : s.Keeps
  close : ∀ w ∈ s.waiting, w.last = true → s.held.msgs.filter Envelope.client = []

variable {s t : Server} {w : Invocation} {m : Envelope} {a : Act}

lemma sound_start : start.Sound := ⟨rfl, nofun⟩

lemma Sound.finish (h : s.Sound) (hw : s.waiting = some w) : (s.finish w).Sound := by
  refine ⟨?_, nofun⟩
  have hkeeps := h.keeps
  cases hlast : w.last with
  | false => simpa [Keeps, Server.finish, hlast] using hkeeps
  | true =>
    have hnone := h.close w hw hlast
    simpa [Keeps, Server.finish, hlast, Held.new, hnone] using hkeeps

/-- What is no client's message may leave the queue for good. -/
lemma Sound.skip {queue : List Envelope} (h : s.Sound) (hqueue : s.queue = m :: queue)
    (hclient : m.client = false) : Sound { s with queue := queue } := by
  refine ⟨?_, h.close⟩
  have hkeeps := h.keeps
  simpa [Keeps, hqueue, hclient] using hkeeps

lemma Sound.gets {queue : List Envelope} (h : s.Sound) (hw : s.waiting = some w)
    (hqueue : s.queue = m :: queue) (hok : s.Spared .receive) :
    ({ s with queue := queue }.gets w m).Sound := by
  have hspared := hok rfl w hw m (by simp [hqueue])
  unfold Server.gets
  split
  next htag =>
    have hclient : m.client = false := by
      by_contra hc
      exact (hspared (by simpa using hc)).1 htag
    exact (h.skip hqueue hclient).finish hw
  split
  · refine ⟨?_, fun w' hw' hlast => ?_⟩
    · have hkeeps := h.keeps
      simpa [Keeps, hqueue] using hkeeps
    cases hw.symm.trans hw'
    have hclient : m.client = false := by
      by_contra hc
      simp [(hspared (by simpa using hc)).2.2] at hlast
    simpa [hclient] using h.close w hw hlast
  next hfull =>
    have hclient : m.client = false := by
      by_contra hc
      exact hfull (hspared (by simpa using hc)).2.1
    exact (h.skip hqueue hclient).finish hw

lemma Sound.step (h : s.Sound) (hok : s.Spared a) (hstep : s.step a = some t) : t.Sound := by
  have hkeeps := h.keeps
  cases a with
  | arrive m =>
    cases hstep
    refine ⟨?_, h.close⟩
    rw [Keeps] at hkeeps
    cases hclient : m.client <;> simp [Keeps, hclient, hkeeps]
  | invoke w sent =>
    simp only [step] at hstep
    split at hstep <;> cases hstep
    rename_i hidle
    cases sent with
    | false =>
      refine ⟨?_, nofun⟩
      cases hlast : w.last <;> simpa [Keeps, Server.finish, hlast, Held.new, hidle.2] using hkeeps
    | true => exact ⟨hkeeps, fun _ _ _ => by simp [hidle.2]⟩
  | receive =>
    simp only [step] at hstep
    split at hstep <;> cases hstep
    rename_i w m queue hw hqueue
    exact h.gets hw hqueue hok
  | giveUp =>
    obtain ⟨w, hw, rfl⟩ := Option.map_eq_some_iff.mp hstep
    exact h.finish hw
  | takeHeld =>
    simp only [step] at hstep
    split at hstep
    next hidle =>
      obtain ⟨⟨m, held⟩, htake, rfl⟩ := Option.map_eq_some_iff.mp hstep
      refine ⟨?_, fun w hw => absurd (hidle.symm.trans hw) nofun⟩
      unfold Held.take at htake
      split at htake <;> cases htake
      rename_i hheld
      simpa [Keeps, hheld] using hkeeps
    · cases hstep
  | ownReceive =>
    simp only [step] at hstep
    split at hstep <;> cases hstep
    rename_i m queue hidle hheld hqueue
    refine ⟨?_, fun w hw => absurd (hidle.symm.trans hw) nofun⟩
    simpa [Keeps, hheld, hqueue] using hkeeps

/-- **Every client's message reaches the task, once and in order**, or is still in the
queue or the store, in every run whose waits are spared. -/
theorem requests_kept (h : Reaches step Spared start s) : s.Keeps :=
  (h.invariant sound_start fun _ _ _ hs hok hstep => hs.step hok hstep).keeps

def request (n : UInt8) : Envelope := ⟨[n], true⟩

/-- Two requests during one invocation, and both are handed out. -/
theorem requests_kept_two : ∃ s, Reaches step Spared start s ∧
    s.served = [request 1, request 2] ∧ s.Keeps :=
  exists_reaches_and [.invoke ⟨9, false⟩ true, .arrive (request 1), .arrive (request 2),
    .arrive ⟨[9], false⟩, .receive, .receive, .receive, .takeHeld, .takeHeld] (by decide)
    fun _ hs _ => requests_kept hs

/-- A third request is taken from the queue and dropped. -/
theorem third_request_lost : ∃ s, Reaches step Free start s ∧ s.queue = [] ∧ s.held.msgs = [] ∧
    s.arrived = [request 1, request 2, request 3] ∧ s.served = [request 1, request 2] :=
  exists_reaches [.invoke ⟨9, false⟩ true, .arrive (request 1), .arrive (request 2),
    .arrive (request 3), .receive, .receive, .receive, .takeHeld, .takeHeld] (by decide)

end Server

end Godspeed.Sdk
