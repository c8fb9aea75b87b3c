import Godspeed.Ipc.Queue

/-!
# The slots of a message queue

`MessageRing` is `MessageQueue` of `ipc/queue.rs` as it is stored: `QUEUE_DEPTH` slots, the
slot of the oldest message and their number.  It holds a list of messages when the slots from
the head on hold them in order and the others are empty (`MessageRing.Holds`); under every
sequence of operations it answers as the bounded FIFO list does, and holds what that holds
(`ring_refines`).
-/

namespace Godspeed.Ipc

open List Function

/-- An operation on a queue.  `reset` is only called on a queue that has been drained. -/
inductive QueueOp (α : Type*)
  | enqueue (msg : α)
  | dequeue
  | dequeueMatching (accepts : α → Bool)
  | drain
  | drainReset

variable {α : Type*}

/-- The bounded FIFO list.  An `enqueue` that is refused answers with its message. -/
def fifo (q : List α) : QueueOp α → Except α (Option α) × List α
  | .enqueue msg => if q.length < queueDepth then (.ok none, q ++ [msg]) else (.error msg, q)
  | .dequeue => (.ok q.head?, q.tail)
  | .dequeueMatching accepts => (.ok (q.find? accepts), q.eraseP accepts)
  | .drain | .drainReset => (.ok none, [])

/-- The answers to a sequence of operations, and the state they leave. -/
def answers {σ : Type*} (apply : σ → QueueOp α → Except α (Option α) × σ) (s : σ) :
    List (QueueOp α) → List (Except α (Option α)) × σ
  | [] => ([], s)
  | op :: ops =>
    let rest := answers apply (apply s op).2 ops
    ((apply s op).1 :: rest.1, rest.2)

structure MessageRing (α : Type*) where
  slots : Nat → Option α
  head : Nat
  len : Nat

namespace MessageRing

variable (r : MessageRing α)

def new : MessageRing α := ⟨fun _ => none, 0, 0⟩

/-- The slot `i` places on from the head. -/
def place (head i : Nat) : Nat := (head + i) % queueDepth

def enqueue (msg : α) : Except α (Option α) × MessageRing α :=
  if r.len = queueDepth then (.error msg, r)
  else (.ok none, { r with
    slots := update r.slots (place r.head r.len) (some msg)
    len := r.len + 1 })

def dequeue : Option α × MessageRing α :=
  if r.len = 0 then (none, r)
  else (r.slots r.head, ⟨update r.slots r.head none, place r.head 1, r.len - 1⟩)

/-- The loop that closes the gap at `j`: each of the next `n` messages moves back one slot. -/
def closeGap (head : Nat) : Nat → Nat → (Nat → Option α) → Nat → Option α
  | _, 0, slots => slots
  | j, n + 1, slots => closeGap head (j + 1) n <|
      update (update slots (place head (j + 1)) none) (place head j)
        (slots (place head (j + 1)))

def dequeueMatching (accepts : α → Bool) : Option α × MessageRing α :=
  match (List.range r.len).find? fun i => (r.slots (place r.head i)).any accepts with
  | none => (none, r)
  | some i => (r.slots (place r.head i),
      { r with
        slots := closeGap r.head i (r.len - 1 - i)
          (update r.slots (place r.head i) none)
        len := r.len - 1 })

/-- The loop of `drain`, which ends when a `dequeue` returns nothing. -/
def drainLoop : Nat → MessageRing α → MessageRing α
  | 0, r => r
  | n + 1, r => if r.dequeue.1.isSome then drainLoop n r.dequeue.2 else r.dequeue.2

/-- `drain`: a turn for each message, and a last one. -/
def drain : MessageRing α := drainLoop (r.len + 1) r

def reset : MessageRing α := { r with head := 0, len := 0 }

def apply : QueueOp α → Except α (Option α) × MessageRing α
  | .enqueue msg => r.enqueue msg
  | .dequeue => (.ok r.dequeue.1, r.dequeue.2)
  | .dequeueMatching accepts => (.ok (r.dequeueMatching accepts).1, (r.dequeueMatching accepts).2)
  | .drain => (.ok none, r.drain)
  | .drainReset => (.ok none, r.drain.reset)

/-- The slots from the head on hold the messages in order, and the others are empty. -/
structure Holds (q : List α) : Prop where
  head : r.head < queueDepth
  len : r.len = q.length
  room : q.length ≤ queueDepth
  slot : ∀ i < queueDepth, r.slots (place r.head i) = q[i]?

section Places

variable {r} {q : List α} {slots : Nat → Option α} {head i j : Nat}

lemma update_place (hi : i < queueDepth) (hj : j < queueDepth) (v : Option α) :
    update slots (place head j) v (place head i) = if i = j then v else slots (place head i) := by
  have hinj : place head i = place head j ↔ i = j := by
    rw [queueDepth] at *
    rw [place, place, queueDepth]
    omega
  rw [update_apply]
  simp only [hinj]

/-- Closing a gap at `j` in the slots of a list leaves the slots of the list. -/
lemma closeGap_slot {n : Nat} (hroom : q.length < queueDepth) (hn : j + n = q.length)
    (h : ∀ i < queueDepth, slots (place head i) =
      if i < j then q[i]? else if i = j then none else q[i - 1]?) :
    ∀ i < queueDepth, closeGap head j n slots (place head i) = q[i]? := by
  induction n generalizing slots j with
  | zero =>
    intro i hi
    show slots _ = _
    rw [h i hi]
    grind
  | succ n ih =>
    apply ih (by omega)
    intro i hi
    rw [update_place hi (by omega), update_place hi (by omega)]
    grind

namespace Holds

variable (h : r.Holds q)
include h

lemma enqueue (msg : α) : (r.enqueue msg).1 = (fifo q (.enqueue msg)).1 ∧
    (r.enqueue msg).2.Holds (fifo q (.enqueue msg)).2 := by
  have hroom := h.room
  rw [MessageRing.enqueue, fifo, h.len]
  by_cases hlt : q.length < queueDepth
  · rw [if_neg (by omega), if_pos hlt]
    refine ⟨rfl, h.head, by simp, by simp; omega, fun i hi => ?_⟩
    show update r.slots _ _ _ = _
    rw [update_place hi hlt, h.slot i hi]
    grind
  · rw [if_pos (by omega), if_neg hlt]
    exact ⟨rfl, h⟩

lemma dequeue : r.dequeue.1 = q.head? ∧ r.dequeue.2.Holds q.tail := by
  have hroom := h.room
  have hhead : place r.head 0 = r.head := Nat.mod_eq_of_lt h.head
  unfold MessageRing.dequeue
  cases q with
  | nil =>
    rw [if_pos (by simp [h.len])]
    exact ⟨rfl, h⟩
  | cons msg rest =>
    have hslot := h.slot 0 (by decide)
    rw [hhead] at hslot
    rw [if_neg (by simp [h.len])]
    refine ⟨hslot, Nat.mod_lt _ (by decide), by simp [h.len], by simp at hroom ⊢; omega,
      fun i hi => ?_⟩
    -- the vacated slot is the last one from the new head on
    have hplace : place (place r.head 1) i = place r.head ((i + 1) % queueDepth) := by
      simp only [place, Nat.mod_add_mod, Nat.add_mod_mod]
      congr 1
      omega
    have hlt : (i + 1) % queueDepth < queueDepth := Nat.mod_lt _ (by decide)
    have hleft : update r.slots (place r.head 0) none (place r.head ((i + 1) % queueDepth)) = _ :=
      update_place hlt (by decide) none
    rw [hhead, h.slot _ hlt] at hleft
    show update r.slots r.head none (place (place r.head 1) i) = _
    rw [hplace, hleft]
    rw [queueDepth] at *
    rw [length_cons] at hroom
    by_cases hlast : i = 15
    · subst hlast
      rw [if_pos rfl, tail_cons, getElem?_eq_none (by omega)]
    · rw [Nat.mod_eq_of_lt (by omega)]
      rfl

lemma dequeueMatching (accepts : α → Bool) : (r.dequeueMatching accepts).1 = q.find? accepts ∧
      (r.dequeueMatching accepts).2.Holds (q.eraseP accepts) := by
  have hroom := h.room
  have hany : ∀ i (hi : i < q.length), (r.slots (place r.head i)).any accepts = accepts q[i] := by
    intro i hi
    rw [h.slot i (by omega), getElem?_eq_getElem hi, Option.any_some]
  -- the scan of the slots finds what a scan of the list finds
  have hfound : ((range r.len).find? fun i => (r.slots (place r.head i)).any accepts) =
      q.findIdx? accepts := by
    apply Option.ext
    intro i
    rw [find?_range_eq_some, findIdx?_eq_some_iff_getElem, h.len]
    constructor
    · rintro ⟨hi, hlt, hbefore⟩
      grind
    · rintro ⟨hlt, hi, hbefore⟩
      grind
  unfold MessageRing.dequeueMatching
  rw [hfound, eraseP_eq_eraseIdx]
  cases hidx : q.findIdx? accepts with
  | none =>
    rw [findIdx?_eq_none_iff] at hidx
    refine ⟨(find?_eq_none.mpr ?_).symm, h⟩
    grind
  | some i =>
    obtain ⟨hlt, hi, hbefore⟩ := findIdx?_eq_some_iff_getElem.mp hidx
    have hslot := h.slot i (by omega)
    have hlen : (q.eraseIdx i).length = q.length - 1 := length_eraseIdx_of_lt hlt
    dsimp only
    refine ⟨?_, h.head, by simp [h.len, hlen], by omega, ?_⟩
    · rw [hslot, getElem?_eq_getElem hlt]
      refine (find?_eq_some_iff_getElem.mpr ⟨hi, i, hlt, rfl, ?_⟩).symm
      grind
    · apply closeGap_slot (by omega) (by rw [h.len]; omega)
      intro j hj
      rw [update_place hj (by omega), h.slot j hj]
      simp only [getElem?_eraseIdx]
      grind

lemma drainLoop {n : Nat} (hn : q.length < n) : (r.drainLoop n).Holds [] := by
  induction n generalizing r q with
  | zero => omega
  | succ n ih =>
    obtain ⟨hgot, hrest⟩ := h.dequeue
    unfold drainLoop
    rw [hgot]
    cases q with
    | nil => exact hrest
    | cons msg rest => exact ih hrest (by simpa using hn)

lemma apply (op : QueueOp α) :
    (r.apply op).1 = (fifo q op).1 ∧ (r.apply op).2.Holds (fifo q op).2 := by
  cases op with
  | enqueue msg => exact h.enqueue msg
  | dequeue => exact h.dequeue.imp_left (congrArg _)
  | dequeueMatching accepts => exact (h.dequeueMatching accepts).imp_left (congrArg _)
  | drain => exact ⟨rfl, h.drainLoop (by rw [h.len]; omega)⟩
  | drainReset =>
    have hempty := h.drainLoop (n := r.len + 1) (by rw [h.len]; omega)
    refine ⟨rfl, Nat.zero_lt_succ _, rfl, hempty.room, fun i hi => ?_⟩
    -- every slot lies somewhere from the head on
    have hplace : place 0 i =
        place r.drain.head ((i + (queueDepth - r.drain.head)) % queueDepth) := by
      have hhead : r.drain.head < queueDepth := hempty.head
      rw [queueDepth] at hhead
      rw [place, place, queueDepth]
      omega
    show r.drain.slots (place 0 i) = _
    rw [hplace]
    exact hempty.slot _ (Nat.mod_lt _ (by decide))

end Holds

end Places

/-- **The ring refines the bounded FIFO list.** -/
theorem ring_refines (ops : List (QueueOp α)) :
    (answers apply new ops).1 = (answers fifo [] ops).1 ∧
      (answers apply new ops).2.Holds (answers fifo [] ops).2 := by
  have hrun {r : MessageRing α} {q : List α} (h : r.Holds q) :
      (answers apply r ops).1 = (answers fifo q ops).1 ∧
        (answers apply r ops).2.Holds (answers fifo q ops).2 := by
    induction ops generalizing r q with
    | nil => exact ⟨rfl, h⟩
    | cons op ops ih =>
      obtain ⟨hanswer, hleft⟩ := h.apply op
      obtain ⟨hrest, hend⟩ := ih hleft
      exact ⟨congrArg₂ _ hanswer hrest, hend⟩
  exact hrun ⟨Nat.zero_lt_succ _, rfl, Nat.zero_le _, fun _ _ => rfl⟩

end MessageRing

end Godspeed.Ipc
