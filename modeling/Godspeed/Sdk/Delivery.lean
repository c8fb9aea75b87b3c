import Mathlib.Data.List.Basic

/-!
# Whether a request was delivered

The requests of the client library, each with one kernel call or one send for every
attempt.  What the kernel and the peer do is given: whether the request found room, was
parked or refused, what each pass of the wait found, what the clock said.  The model
counts how often the request entered the peer's queue.

Lists of passes and of slices end where the caller is still waiting.
-/

namespace Godspeed.Sdk

open List

inductive IpcError
  | capError | endpointDead | queueFull | messageTooLarge | replyDead
  deriving DecidableEq

/-- `i64_to_ipc_error`. -/
def ofCode (code : Int) : IpcError :=
  if code ∈ [-2, -3, -4] then .capError
  else if code = -8 ∨ code = -9 then .queueFull
  else if code = -10 then .messageTooLarge
  else if code = -12 then .replyDead
  else .endpointDead

/-- `RECV_TIMED_OUT`. -/
def timedOut : Int := -1001
def maxMessageSize : Nat := 4096

/-! ## The kernel's side -/

/-- What becomes of a message that is offered to an endpoint.  A parked sender is woken
with a code; its message may have come to enter the queue or not. -/
inductive Offered
  | accepted
  | refused (code : Int)
  | parked (wake : Int) (entered : Bool)

/-- The code the sender goes on with, and how often the message entered the queue. -/
def Offered.sent : Offered → Int × Nat
  | .accepted => (0, 1)
  | .refused code => (code, 0)
  | .parked wake entered => (wake, if entered then 1 else 0)

/-- One pass of `do_call`'s wait. -/
inductive Pass
  | reply (len : Nat) (written : Bool)
  | failed (code : Int)
  | empty (expired : Bool) (wake : Int)

/-- The wait for the reply, into a buffer of `room` bytes. -/
def awaitReply (room : Nat) : List Pass → Option Int
  | [] => none
  | .reply len written :: _ =>
    if room < len then some (-10) else if written then some len else some (-1)
  | .failed code :: _ => some code
  | .empty expired wake :: rest =>
    if expired then some timedOut else if wake ≠ 0 then some wake else awaitReply room rest

/-- One Call: the code of the first check that fails, the request's fate, the wait. -/
structure Call where
  check : Int
  offered : Offered
  passes : List Pass

/-- How often the request entered the queue, and the code the Call returns. -/
def doCall (c : Call) (room : Nat) : Nat × Option Int :=
  if c.check ≠ 0 then (0, some c.check)
  else if c.offered.sent.1 ≠ 0 then (c.offered.sent.2, some c.offered.sent.1)
  else (c.offered.sent.2, awaitReply room c.passes)

/-! ## Requests over a Call -/

/-- The reply buffer as the kernel knows it: a power of two, from a class of four bits. -/
def replyRoom (buf : Nat) : Nat :=
  let c := min 12 (Nat.log2 (max buf 1))
  if c = 0 then maxMessageSize else min (1 <<< c) maxMessageSize

/-- A request and what its Call meets.  `ready` says that the peer's capability was found
and a reply capability was made. -/
structure Attempt where
  ready : Bool
  request : Nat
  call : Call

/-- `call_deadline_into`, after what every request does first. -/
def callDeadline (a : Attempt) (buf : Nat) : Nat × Option (Except IpcError (Option Nat)) :=
  if a.ready = false then (0, some (.error .capError))
  else if maxMessageSize < a.request ∨ buf < a.request then (0, some (.error .messageTooLarge))
  else
    let (entered, code) := doCall a.call (replyRoom buf)
    (entered, code.map fun code =>
      if code = timedOut then .ok none
      else if code < 0 then .error (ofCode code) else .ok (some code.toNat))

/-- The library's answers, those of `DeadlineOutcomeInto` included. -/
inductive Answer
  | reply | outcomeUnknown | peerDied | busy | unreachable | cancelled
  | timeout | queueFull | sendFailed
  deriving DecidableEq

/-- Answers that say that nothing happened. -/
def Answer.nothing (a : Answer) : Bool := a ∈ [.unreachable, .busy, .sendFailed, .queueFull]

def onceAnswer : Except IpcError (Option Nat) → Answer
  | .ok (some _) => .reply
  | .ok none => .outcomeUnknown
  | .error .replyDead => .peerDied
  | .error .queueFull => .busy
  | .error _ => .unreachable

/-- `request_once`. -/
def requestOnce (a : Attempt) : Nat × Option Answer :=
  let (entered, result) := callDeadline a maxMessageSize
  (entered, result.map onceAnswer)

/-- `request_within`: when the first attempt ended in an error that is no answer of the
peer, the peer's name is resolved again and the request is made once more. -/
def requestWithin (first : Attempt) (reacquired : Bool) (second : Attempt) : Nat × Option Answer :=
  match requestOnce first with
  | (entered, some .unreachable) =>
    if reacquired then ((requestOnce second).1 + entered, (requestOnce second).2)
    else (entered, some .unreachable)
  | ended => ended

def outcomeAnswer : Except IpcError (Option Nat) → Answer
  | .ok (some _) => .reply
  | .ok none => .timeout
  | .error .queueFull => .queueFull
  | .error .replyDead => .peerDied
  | .error _ => .sendFailed

/-- `request_with_reply_deadline_outcome_into`. -/
def outcomeInto (a : Attempt) (buf : Nat) : Nat × Option Answer :=
  let (entered, result) := callDeadline a buf
  (entered, result.map outcomeAnswer)

/-! ## Requests with a wait that can be quit -/

/-- One slice of the wait: a message of this request or not, a quit key, and the clock. -/
structure Slice where
  mine : Bool
  quit : Bool
  now : Int

inductive ReqOutcome
  | reply | aborted | timeout
  deriving DecidableEq

/-- The wait of `request_with_reply_qhint_inner`; keys are read once the notice is out. -/
def awaitSlices (start hint secs : Int) : Bool → List Slice → Option ReqOutcome
  | _, [] => none
  | noticed, s :: rest =>
    if s.mine then some .reply
    else if noticed && s.quit then some .aborted
    else if secs ≤ s.now - start then some .timeout
    else awaitSlices start hint secs (noticed || decide (hint ≤ s.now - start)) rest

/-- `offer_request`: a queue that is full is offered the request again. -/
def offerRequest : Nat → List Offered → Nat × Option Bool
  | 0, _ => (0, some false)
  | _, [] => (0, none)
  | tries + 1, o :: rest =>
    if o.sent.1 = 0 then (o.sent.2, some true)
    else if ofCode o.sent.1 = .queueFull then
      ((offerRequest tries rest).1 + o.sent.2, (offerRequest tries rest).2)
    else (o.sent.2, some false)

/-- One attempt with such a wait: the clock before it, after the send, and at its end. -/
structure Watched where
  stopped : Bool
  ready : Bool
  before : Int
  offers : List Offered
  start : Int
  slices : List Slice
  after : Int

/-- How often the request entered the queue, and how the attempt ended. -/
def qhint (w : Watched) (hint secs : Int) : Nat × Option ReqOutcome :=
  if w.ready = false then (0, some .timeout)
  else
    match offerRequest 8 w.offers with
    | (entered, none) => (entered, none)
    | (entered, some false) => (entered, some .timeout)
    | (entered, some true) => (entered, awaitSlices w.start hint secs false w.slices)

/-- `request_within_notice` with a notice and `request_watched_sifted` under a watch: a
timeout before the deadline is a send that never left, and is tried once more. -/
def requestWatched (secs hint : Int) : List Watched → Bool → Nat × Option Answer
  | [], _ => (0, some .unreachable)
  | w :: rest, reacquired =>
    if w.stopped then (0, some .cancelled)
    else
      match qhint w hint (max secs 1) with
      | (entered, none) => (entered, none)
      | (entered, some .reply) => (entered, some .reply)
      | (entered, some .aborted) => (entered, some .cancelled)
      | (entered, some .timeout) =>
        if max secs 1 ≤ w.after - w.before then (entered, some .outcomeUnknown)
        else if reacquired then
          ((requestWatched secs hint rest false).1 + entered,
            (requestWatched secs hint rest false).2)
        else (entered, some .unreachable)

/-! ## The property -/

/-- A request of one of the five functions, with what it meets. -/
inductive Request
  | once (a : Attempt)
  | within (first : Attempt) (reacquired : Bool) (second : Attempt)
  | outcomeInto (a : Attempt) (buf : Nat)
  | watched (secs hint : Int) (first : Watched) (reacquired : Bool) (second : Watched)

def Request.run : Request → Nat × Option Answer
  | .once a => requestOnce a
  | .within first reacquired second => requestWithin first reacquired second
  | .outcomeInto a buf => Sdk.outcomeInto a buf
  | .watched secs hint first reacquired second =>
    requestWatched secs hint [first, second] reacquired

/-- The request entered a queue at most once, and not at all if the answer says so. -/
def Truthful (r : Nat × Option Answer) : Prop :=
  r.1 ≤ 1 ∧ ∀ a ∈ r.2, a.nothing = true → r.1 = 0

/-- A sender that is woken with an error was not delivered. -/
def Offered.Honest : Offered → Prop
  | .parked wake entered => wake ≠ 0 → entered = false
  | _ => True

/-- A reply fits and is written, and the wait ends early only because the peer died. -/
def Pass.Honest (room : Nat) : Pass → Prop
  | .reply len written => len ≤ room ∧ written = true
  | .failed code => code = -12
  | .empty _ wake => wake = 0 ∨ wake = -12

def Attempt.Honest (a : Attempt) (buf : Nat) : Prop :=
  a.call.offered.Honest ∧ ∀ p ∈ a.call.passes, p.Honest (replyRoom buf)

/-- The sends are honest, and the clock does not go back. -/
def Watched.Honest (w : Watched) : Prop :=
  (∀ o ∈ w.offers, o.Honest) ∧ w.before ≤ w.start ∧ ∀ s ∈ w.slices, s.now ≤ w.after

def Request.Honest : Request → Prop
  | .once a => a.Honest maxMessageSize
  | .within first _ second => first.Honest maxMessageSize ∧ second.Honest maxMessageSize
  | .outcomeInto a buf => a.Honest buf
  | .watched _ _ first _ second => first.Honest ∧ second.Honest

/-! ## Honest calls -/

lemma Offered.Honest.sent_le {o : Offered} (h : o.Honest) :
    o.sent.2 ≤ 1 ∧ (o.sent.1 ≠ 0 → o.sent.2 = 0) := by
  cases o with
  | accepted => exact ⟨Nat.le_refl 1, fun h => absurd rfl h⟩
  | refused code => exact ⟨Nat.zero_le 1, fun _ => rfl⟩
  | parked wake entered =>
    refine ⟨?_, fun hwake => ?_⟩
    · cases entered <;> simp [sent]
    · simp [sent, h hwake]

lemma awaitReply_of_honest {room : Nat} {passes : List Pass} (h : ∀ p ∈ passes, p.Honest room) :
    ∀ code ∈ awaitReply room passes, 0 ≤ code ∨ code = timedOut ∨ code = -12 := by
  induction passes with
  | nil => exact nofun
  | cons p rest ih =>
    have hp := h p mem_cons_self
    have hrest := ih fun q hq => h q (mem_cons_of_mem _ hq)
    cases p with
    | reply len written =>
      obtain ⟨hlen, rfl⟩ := hp
      simp [awaitReply, Nat.not_lt.mpr hlen]
    | failed code =>
      intro code' hcode
      cases hcode
      exact .inr (.inr hp)
    | empty expired wake =>
      unfold awaitReply
      split_ifs with hexpired hwake
      · simp
      · simpa using .inr (.inr (hp.resolve_left hwake))
      · exact hrest

variable {a : Attempt}

/-- A Call that delivered its request does not end in an error but the peer's death. -/
lemma callDeadline_of_honest {buf : Nat} (h : a.Honest buf) :
    (callDeadline a buf).1 ≤ 1 ∧ ((callDeadline a buf).1 ≠ 0 →
      ∀ e, (callDeadline a buf).2 = some (.error e) → e = .replyDead) := by
  obtain ⟨hle, hzero⟩ := h.1.sent_le
  have hwait := awaitReply_of_honest h.2
  unfold callDeadline doCall
  split_ifs with hready hsize hcheck hsent
  · exact ⟨Nat.zero_le 1, fun h => absurd rfl h⟩
  · exact ⟨Nat.zero_le 1, fun h => absurd rfl h⟩
  · exact ⟨Nat.zero_le 1, fun h => absurd rfl h⟩
  · exact ⟨hle, fun h => absurd (hzero hsent) h⟩
  · refine ⟨hle, fun _ e he => ?_⟩
    obtain ⟨code, hcode, hmap⟩ := Option.map_eq_some_iff.mp he
    obtain hreply | rfl | rfl := hwait code hcode
    · rw [if_neg (by unfold timedOut; omega), if_neg (by omega)] at hmap
      cases hmap
    · cases hmap
    · cases hmap
      rfl

lemma truthful_of_call {r : Nat × Option (Except IpcError (Option Nat))}
    {answer : Except IpcError (Option Nat) → Answer} (hle : r.1 ≤ 1)
    (herror : r.1 ≠ 0 → ∀ e, r.2 = some (.error e) → e = .replyDead)
    (hok : ∀ o, (answer (.ok o)).nothing = false)
    (hdead : (answer (.error .replyDead)).nothing = false) :
    Truthful (r.1, r.2.map answer) := by
  refine ⟨hle, fun a ha hnothing => ?_⟩
  obtain ⟨result, hres, rfl⟩ := Option.map_eq_some_iff.mp ha
  by_contra hentered
  cases result with
  | ok o =>
    rw [hok o] at hnothing
    cases hnothing
  | error e =>
    rw [herror hentered e hres, hdead] at hnothing
    cases hnothing

lemma requestOnce_truthful (h : a.Honest maxMessageSize) : Truthful (requestOnce a) := by
  obtain ⟨hle, herror⟩ := callDeadline_of_honest h
  refine truthful_of_call hle herror (fun o => ?_) rfl
  cases o <;> rfl

lemma requestWithin_truthful {first second : Attempt} {reacquired : Bool}
    (hfirst : first.Honest maxMessageSize) (hsecond : second.Honest maxMessageSize) :
    Truthful (requestWithin first reacquired second) := by
  have hone := requestOnce_truthful hfirst
  unfold requestWithin
  split
  next entered hended =>
    rw [hended] at hone
    have hzero : entered = 0 := hone.2 _ rfl rfl
    subst hzero
    split_ifs
    · exact requestOnce_truthful hsecond
    · exact ⟨Nat.zero_le 1, fun _ _ _ => rfl⟩
  · exact hone

lemma outcomeInto_truthful {buf : Nat} (h : a.Honest buf) : Truthful (outcomeInto a buf) := by
  obtain ⟨hle, herror⟩ := callDeadline_of_honest h
  refine truthful_of_call hle herror (fun o => ?_) rfl
  cases o <;> rfl

/-! ## Honest sends -/

lemma offerRequest_of_honest {offers : List Offered} (h : ∀ o ∈ offers, o.Honest) (tries : Nat) :
    (offerRequest tries offers).1 ≤ 1 ∧
      ((offerRequest tries offers).2 ≠ some true → (offerRequest tries offers).1 = 0) := by
  induction tries generalizing offers with
  | zero => simp [offerRequest]
  | succ tries ih =>
    cases offers with
    | nil => simp [offerRequest]
    | cons o rest =>
      obtain ⟨hle, hzero⟩ := (h o mem_cons_self).sent_le
      have hrest := ih fun p hp => h p (mem_cons_of_mem _ hp)
      unfold offerRequest
      split_ifs with hcode hfull
      · exact ⟨hle, fun h => absurd rfl h⟩
      · rw [hzero hcode]
        exact hrest
      · exact ⟨hle, fun _ => hzero hcode⟩

lemma now_of_timeout {start hint secs : Int} {noticed : Bool} {slices : List Slice}
    (h : awaitSlices start hint secs noticed slices = some .timeout) :
    ∃ s ∈ slices, secs ≤ s.now - start := by
  induction slices generalizing noticed with
  | nil => cases h
  | cons s rest ih =>
    unfold awaitSlices at h
    split_ifs at h with hmine hquit hlate
    · cases h
    · cases h
    · exact ⟨s, mem_cons_self, hlate⟩
    · obtain ⟨s', hs', hlate⟩ := ih h
      exact ⟨s', mem_cons_of_mem _ hs', hlate⟩

lemma qhint_of_honest {w : Watched} (h : w.Honest) (hint secs : Int) :
    (qhint w hint secs).1 ≤ 1 ∧ ((qhint w hint secs).2 = some .timeout →
      (qhint w hint secs).1 = 0 ∨ secs ≤ w.after - w.before) := by
  obtain ⟨hle, hzero⟩ := offerRequest_of_honest h.1 8
  unfold qhint
  split_ifs
  · exact ⟨Nat.zero_le 1, fun _ => .inl rfl⟩
  split <;> rename_i hoffer <;> rw [hoffer] at hle hzero
  · exact ⟨hle, nofun⟩
  · exact ⟨hle, fun _ => .inl (hzero (by simp))⟩
  · refine ⟨hle, fun htimeout => .inr ?_⟩
    obtain ⟨s, hs, hlate⟩ := now_of_timeout htimeout
    have hafter := h.2.2 s hs
    have hbefore := h.2.1
    omega

lemma requestWatched_truthful {secs hint : Int} {ws : List Watched} {reacquired : Bool}
    (h : ∀ w ∈ ws, w.Honest) : Truthful (requestWatched secs hint ws reacquired) := by
  induction ws generalizing reacquired with
  | nil => exact ⟨Nat.zero_le 1, fun _ _ _ => rfl⟩
  | cons w rest ih =>
    obtain ⟨hle, htimeout⟩ := qhint_of_honest (h w mem_cons_self) hint (max secs 1)
    have hrest : Truthful (requestWatched secs hint rest false) :=
      ih fun v hv => h v (mem_cons_of_mem _ hv)
    unfold requestWatched
    by_cases hstopped : w.stopped
    · rw [if_pos hstopped]
      exact ⟨Nat.zero_le 1, fun _ _ _ => rfl⟩
    rw [if_neg hstopped]
    split <;> rename_i hended <;> rw [hended] at hle htimeout
    · exact ⟨hle, nofun⟩
    · exact ⟨hle, by simp [Answer.nothing]⟩
    · exact ⟨hle, by simp [Answer.nothing]⟩
    next entered =>
      split_ifs with hlate hagain
      · exact ⟨hle, by simp [Answer.nothing]⟩
      · have hnever : entered = 0 := (htimeout rfl).resolve_right hlate
        rw [hnever]
        exact hrest
      · exact ⟨hle, fun _ _ _ => (htimeout rfl).resolve_right hlate⟩

/-- **Delivered at most once.**  A request whose calls are honest enters the peer's queue at
most once, and not at all if its answer says that nothing happened. -/
theorem request_truthful (r : Request) (h : r.Honest) : Truthful r.run := by
  cases r with
  | once a => exact requestOnce_truthful h
  | within first reacquired second => exact requestWithin_truthful h.1 h.2
  | outcomeInto a buf => exact outcomeInto_truthful h
  | watched secs hint first reacquired second =>
    exact requestWatched_truthful (forall_mem_cons.mpr ⟨h.1, by simpa using h.2⟩)

/-- A Call that is delivered and answered with `len` bytes. -/
def answered (len : Nat) : Attempt := ⟨true, 10, ⟨0, .accepted, [.empty false 0, .reply len true]⟩⟩

theorem request_truthful_answered : Truthful (Request.outcomeInto (answered 512) 514).run := by
  refine request_truthful (.outcomeInto (answered 512) 514) ⟨trivial, ?_⟩
  refine forall_mem_cons.mpr ⟨.inl rfl, forall_mem_cons.mpr ⟨⟨by decide, rfl⟩, nofun⟩⟩

/-- A delivered Call that is woken from its wait with `EndpointDead`. -/
def woken : Attempt := ⟨true, 10, ⟨0, .accepted, [.empty false (-7)]⟩⟩

/-- A reply of 514 bytes for a buffer of 514 is refused after the request was delivered,
and a Call that is woken with an error is made once more. -/
theorem request_not_truthful :
    ¬ Truthful (Request.outcomeInto (answered 514) 514).run ∧
      ¬ Truthful (Request.within woken true (answered 1)).run := by
  refine ⟨fun h => ?_, fun h => ?_⟩
  · exact absurd (h.2 .sendFailed rfl rfl) (by decide)
  · exact absurd h.1 (by decide)

end Godspeed.Sdk
