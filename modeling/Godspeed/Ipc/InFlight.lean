import Godspeed.Ipc.RoutingOutcome

/-!
# Messages in flight

A message is in flight while it stands in some queue or waits there with a
parked sender.  One lemma per operation of the routing table says which
messages can be in flight after it: an enqueue adds at most its own message,
the receive paths return one that was in flight and add none, and neither a
death nor a registration adds any.
-/

namespace Godspeed.Ipc

open List

variable {α : Type*}

/-- The entry holds the message, queued or with its blocked sender. -/
def EndpointState.Carries (entry : EndpointState α) (msg : α) : Prop :=
  msg ∈ entry.queue.messages ∨ entry.pendingSend = some msg

lemma EndpointState.Released.carries {entry entry' : EndpointState α} {rest : List α} {msg : α}
    (h : Released entry rest entry') (hrest : ∀ m ∈ rest, m ∈ entry.queue.messages)
    (hmsg : entry'.Carries msg) : entry.Carries msg := by
  rcases hmsg with hqueue | hpend
  · rw [h.messages, mem_append, Option.mem_toList] at hqueue
    exact hqueue.imp (hrest msg) id
  · rw [h.pendingSend] at hpend
    cases hpend

namespace RoutingTable

open EndpointState

def InFlight (table : RoutingTable α) (msg : α) : Prop :=
  ∃ id entry, table.lookup id = some entry ∧ entry.Carries msg

variable {table table' : RoutingTable α} {entry state : EndpointState α} {msg other : α}
  {id endpoint capGen coreId generation : Nat} {sender receiver : Option Slot}

lemma inFlight_of_write (hlook : table.lookup id = some entry)
    (h : (table.write id state).InFlight msg) : table.InFlight msg ∨ state.Carries msg := by
  obtain ⟨id', entry', hentry, hcarries⟩ := h
  rw [lookup_write hlook] at hentry
  by_cases hid : id' = id
  · subst hid
    rw [Function.update_self, Option.some.injEq] at hentry
    exact .inr (hentry ▸ hcarries)
  · rw [Function.update_of_ne hid] at hentry
    exact .inl ⟨id', entry', hentry, hcarries⟩

lemma inFlight_of_write_le (hlook : table.lookup id = some entry)
    (hle : ∀ m, state.Carries m → entry.Carries m)
    (h : (table.write id state).InFlight msg) : table.InFlight msg := by
  rcases inFlight_of_write hlook h with hold | hnew
  · exact hold
  · exact ⟨id, entry, hlook, hle msg hnew⟩

lemma inFlight_of_enqueue {gen : Option Nat}
    (h : (table.enqueue endpoint msg gen sender).1.InFlight other) :
    table.InFlight other ∨ other = msg := by
  have hout := table.enqueue_outcome endpoint msg gen sender
  generalize table.enqueue endpoint msg gen sender = result at h hout
  cases hout with
  | dead => exact .inl h
  | queued entry queue hlook _ hqueue =>
    rcases inFlight_of_write hlook h with hold | hmem | hpend
    · exact .inl hold
    · rw [hqueue, mem_append, mem_singleton] at hmem
      exact hmem.imp (fun hmem => ⟨endpoint, entry, hlook, .inl hmem⟩) id
    · exact .inl ⟨endpoint, entry, hlook, .inr hpend⟩
  | full entry hlook =>
    cases sender with
    | none =>
      exact .inl (inFlight_of_write_le hlook (fun _ hcarries => hcarries) h)
    | some slot =>
      rcases inFlight_of_write hlook h with hold | hmem | hpend
      · exact .inl hold
      · exact .inl ⟨endpoint, entry, hlook, .inl hmem⟩
      · exact .inr (Option.some.inj hpend).symm

lemma inFlight_of_dequeue (h : (table.dequeue endpoint capGen receiver).1.InFlight other) :
    table.InFlight other := by
  have hout := table.dequeue_outcome endpoint capGen receiver
  generalize table.dequeue endpoint capGen receiver = result at h hout
  cases hout with
  | dead | unregistered => exact h
  | taken entry entry' msg rest hlook _ hqueue hrel =>
    refine inFlight_of_write_le hlook (fun m => hrel.carries fun m hm => ?_) h
    rw [hqueue]
    exact mem_cons_of_mem _ hm
  | registered entry slot _ hlook =>
    refine inFlight_of_write_le hlook (fun m hcarries => ?_) h
    exact hcarries

lemma inFlight_of_dequeue_ok
    (h : table.dequeue endpoint capGen receiver = (table', .ok (msg, sender))) :
    table.InFlight msg := by
  have hout := table.dequeue_outcome endpoint capGen receiver
  rw [h] at hout
  cases hout with
  | taken entry _ _ rest hlook _ hqueue =>
    exact ⟨endpoint, entry, hlook, .inl (by rw [hqueue]; exact mem_cons_self)⟩

lemma inFlight_of_dequeueReply {accepts : α → Bool}
    (h : (table.dequeueReply endpoint capGen accepts).1.InFlight other) :
    table.InFlight other := by
  have hout := table.dequeueReply_outcome endpoint capGen accepts
  generalize table.dequeueReply endpoint capGen accepts = result at h hout
  cases hout with
  | dead | empty => exact h
  | taken entry entry' msg hlook _ _ hrel =>
    exact inFlight_of_write_le hlook (fun m => hrel.carries fun m hm => mem_of_mem_eraseP hm) h

lemma inFlight_of_dequeueReply_ok {accepts : α → Bool}
    (h : table.dequeueReply endpoint capGen accepts = (table', .ok (msg, sender))) :
    table.InFlight msg := by
  have hout := table.dequeueReply_outcome endpoint capGen accepts
  rw [h] at hout
  cases hout with
  | taken entry _ _ hlook _ hfind =>
    exact ⟨endpoint, entry, hlook, .inl (mem_of_find?_eq_some hfind)⟩

lemma inFlight_of_killEndpoint
    (hkill : table.killEndpoint endpoint = some (table', receiver, sender))
    (h : table'.InFlight other) : table.InFlight other := by
  cases killEndpoint_outcome hkill with
  | absent => exact h
  | killed entry entry' hlook _ _ hqueue _ _ hpend =>
    refine inFlight_of_write_le hlook (fun m hcarries => ?_) h
    rcases hcarries with hmem | hsome
    · simp [hqueue] at hmem
    · simp [hpend] at hsome

lemma inFlight_of_tryRegister (hreg : table.tryRegister id coreId generation = some table')
    (h : table'.InFlight other) : table.InFlight other := by
  obtain ⟨id', entry, hentry, hcarries⟩ := h
  obtain ⟨hself, hothers⟩ := lookup_tryRegister hreg
  by_cases hid : id' = id
  · subst hid
    cases hself.symm.trans hentry
    simp [Carries, fresh] at hcarries
  · rcases hothers id' hid with hsame | ⟨hnone, -⟩
    · exact ⟨id', entry, hsame ▸ hentry, hcarries⟩
    · rw [hnone] at hentry
      cases hentry

end RoutingTable

end Godspeed.Ipc
