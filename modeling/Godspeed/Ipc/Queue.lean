import Godspeed.Lib.FirstMatch

/-!
# Endpoint message queues

`MessageQueue` of `ipc/queue.rs`: a FIFO of at most `QUEUE_DEPTH` messages with
one out-of-order removal, `dequeue_matching`, which takes the oldest message a
test accepts and keeps the others in order.  The ring buffer is modelled by the
list of its messages, oldest first; the bound is a field, so a queue that holds
too many messages cannot be built.  The message type stays a parameter.
-/

namespace Godspeed.Ipc

/-- `QUEUE_DEPTH`. -/
def queueDepth : Nat := 16

/-- The messages of a queue, oldest first. -/
structure MessageQueue (α : Type*) where
  messages : List α
  length_le : messages.length ≤ queueDepth

namespace MessageQueue

variable {α : Type*} (queue : MessageQueue α)

/-- `MessageQueue::new`, and the state that `reset` and `drain` leave. -/
def new : MessageQueue α := ⟨[], Nat.zero_le _⟩

/-- `enqueue`: refused when the queue is full. -/
def enqueue (msg : α) : Option (MessageQueue α) :=
  if h : queue.messages.length < queueDepth then
    some ⟨queue.messages ++ [msg], by
      rw [List.length_append]
      exact h⟩
  else none

/-- `dequeue`: the oldest message. -/
def dequeue : Option (α × MessageQueue α) :=
  match h : queue.messages with
  | [] => none
  | msg :: rest => some (msg, ⟨rest, by
      have hle := queue.length_le
      rw [h, List.length_cons] at hle
      omega⟩)

/-- `dequeue_matching`: the oldest message the test accepts. -/
def dequeueMatching (accepts : α → Bool) : Option (α × MessageQueue α) :=
  match queue.messages.find? accepts with
  | none => none
  | some msg => some (msg, ⟨queue.messages.eraseP accepts,
      Nat.le_trans List.length_eraseP_le queue.length_le⟩)

section Laws

variable {queue queue' : MessageQueue α} {msg : α} {accepts : α → Bool}

@[simp] lemma messages_new : (new : MessageQueue α).messages = [] := rfl

lemma enqueue_eq_some (h : queue.enqueue msg = some queue') :
    queue'.messages = queue.messages ++ [msg] := by
  unfold enqueue at h
  split at h
  · cases h
    rfl
  · cases h

lemma dequeue_eq_some (h : queue.dequeue = some (msg, queue')) :
    queue.messages = msg :: queue'.messages := by
  unfold dequeue at h
  split at h
  · cases h
  next first rest heq =>
    cases h
    exact heq

lemma dequeue_eq_none_iff : queue.dequeue = none ↔ queue.messages = [] := by
  unfold dequeue
  split
  next heq =>
    simp [heq]
  next first rest heq =>
    simp [heq]

lemma dequeueMatching_eq_some (h : queue.dequeueMatching accepts = some (msg, queue')) :
    queue.messages.find? accepts = some msg ∧ queue'.messages = queue.messages.eraseP accepts := by
  unfold dequeueMatching at h
  split at h
  · cases h
  next found hfind =>
    cases h
    exact ⟨hfind, rfl⟩

lemma dequeueMatching_eq_none_iff :
    queue.dequeueMatching accepts = none ↔ queue.messages.find? accepts = none := by
  unfold dequeueMatching
  split <;> simp_all

lemma enqueue_isSome_of_lt (msg : α) (h : queue.messages.length < queueDepth) :
    (queue.enqueue msg).isSome := by
  simp [enqueue, h]

lemma length_eq_of_enqueue {queue : MessageQueue α} {msg : α} (h : queue.enqueue msg = none) :
    queue.messages.length = queueDepth := by
  by_contra hne
  have hsome := enqueue_isSome_of_lt msg (Nat.lt_of_le_of_ne queue.length_le hne)
  simp [h] at hsome

lemma length_lt_of_dequeue (h : queue.dequeue = some (msg, queue')) :
    queue'.messages.length < queueDepth := by
  have hle := queue.length_le
  rw [dequeue_eq_some h, List.length_cons] at hle
  omega

lemma length_lt_of_dequeueMatching (h : queue.dequeueMatching accepts = some (msg, queue')) :
    queue'.messages.length < queueDepth := by
  obtain ⟨hfind, herase⟩ := dequeueMatching_eq_some h
  have hle := queue.length_le
  rw [(FirstMatch.perm_eraseP_of_find? hfind).length_eq, List.length_cons, ← herase] at hle
  omega

end Laws

end MessageQueue

end Godspeed.Ipc
