import Godspeed.Capability.Basic
import Mathlib.Data.List.Basic

/-!
# Endpoint ids

`alloc_endpoint_id` and `free_endpoint_id` of `ipc/mod.rs`: a counter that
starts at `100` and must not reach the delegated band, in front of it a LIFO
list of ids given back, bounded by `FREE_ID_CAP`.

`EndpointIds.Issued` is the property the machines keep: the free ids are
distinct and were handed out before.  Under it an allocated id is one that
nobody holds.
-/

namespace Godspeed.Ipc

open Capability List

/-- `FREE_ID_CAP`. -/
def freeIdCap : Nat := 128

/-- `NEXT_ENDPOINT_ID` and `FREE_IDS`, the id given back last first. -/
structure EndpointIds where
  next : Nat
  free : List Nat
  deriving DecidableEq, Repr

namespace EndpointIds

def init : EndpointIds := ⟨firstEndpointId, []⟩

variable (ids : EndpointIds)

/-- `alloc_endpoint_id`; `none` is the panic when the counter reaches the
delegated band. -/
def alloc : Option (Nat × EndpointIds) :=
  match ids.free with
  | id :: rest => some (id, { ids with free := rest })
  | [] =>
    if ids.next < delegatedBase then some (ids.next, { ids with next := ids.next + 1 })
    else none

/-- `free_endpoint_id`: ids outside the endpoint range are ignored, and an id
is dropped when the list is full. -/
def release (id : Nat) : EndpointIds :=
  if id < firstEndpointId ∨ delegatedBase ≤ id then ids
  else if ids.free.length < freeIdCap then { ids with free := id :: ids.free }
  else ids

/-- The id may be handed out by a later allocation. -/
def Available (id : Nat) : Prop := id ∈ ids.free ∨ ids.next ≤ id

/-- The free ids are distinct, below the counter and as many as fit. -/
structure Issued (ids : EndpointIds) : Prop where
  nodup : ids.free.Nodup
  free_lt : ∀ id ∈ ids.free, id < ids.next
  first_le : firstEndpointId ≤ ids.next
  first_le_free : ∀ id ∈ ids.free, firstEndpointId ≤ id
  next_le : ids.next ≤ delegatedBase
  length_le : ids.free.length ≤ freeIdCap

lemma issued_init : init.Issued :=
  ⟨nodup_nil, by simp [init], Nat.le_refl _, by simp [init], by decide, by decide⟩

section Alloc

variable {ids ids' : EndpointIds} {id : Nat}

/-- An allocation takes an available id and leaves exactly the other ones. -/
lemma alloc_spec (hissued : ids.Issued) (h : ids.alloc = some (id, ids')) :
    ids'.Issued ∧ ids.Available id ∧ firstEndpointId ≤ id ∧
      ∀ other, ids'.Available other ↔ ids.Available other ∧ other ≠ id := by
  obtain ⟨hnodup, hlt, hfirst, hfree, hnext, hlen⟩ := hissued
  unfold alloc at h
  split at h
  next top rest hids =>
    obtain ⟨rfl, rfl⟩ := Prod.mk.inj (Option.some.inj h)
    rw [hids] at hnodup
    obtain ⟨htop, hrest⟩ := nodup_cons.mp hnodup
    have hmem : ∀ x ∈ rest, x ∈ ids.free := fun x hx => by simp [hids, hx]
    refine ⟨⟨hrest, fun x hx => hlt x (hmem x hx), hfirst, fun x hx => hfree x (hmem x hx),
      hnext, ?_⟩,
      .inl (by simp [hids]), hfree top (by simp [hids]), fun other => ?_⟩
    · rw [hids] at hlen
      exact Nat.le_of_succ_le hlen
    have htoplt := hlt top (by simp [hids])
    simp only [Available, hids, mem_cons]
    constructor
    · rintro (hin | hge)
      · exact ⟨.inl (.inr hin), fun heq => htop (heq ▸ hin)⟩
      · exact ⟨.inr hge, by omega⟩
    · rintro ⟨(heq | hin) | hge, hne⟩
      · exact absurd heq hne
      · exact .inl hin
      · exact .inr hge
  next hids =>
    split at h
    · cases Option.some.inj h
      refine ⟨⟨hnodup, by simp [hids], Nat.le_succ_of_le hfirst, hfree, by simp only; omega,
        hlen⟩, .inr (Nat.le_refl _), hfirst, fun other => ?_⟩
      simp only [Available, hids, not_mem_nil, false_or]
      omega
    · cases h

lemma exists_alloc (hlt : ids.next < delegatedBase) :
    ∃ id ids', ids.alloc = some (id, ids') ∧ ids'.next ≤ ids.next + 1 := by
  unfold alloc
  split
  · exact ⟨_, _, rfl, Nat.le_succ _⟩
  · rw [if_pos hlt]
    exact ⟨_, _, rfl, Nat.le_refl _⟩

lemma lt_delegatedBase_of_alloc (hissued : ids.Issued) (h : ids.alloc = some (id, ids')) :
    id < delegatedBase := by
  have hnext := hissued.next_le
  unfold alloc at h
  split at h
  next top rest hids =>
    obtain ⟨rfl, rfl⟩ := Prod.mk.inj (Option.some.inj h)
    have htop := hissued.free_lt top (by simp [hids])
    omega
  · split at h
    · cases Option.some.inj h
      assumption
    · cases h

/-- Giving back an id that is not available makes at most that id available. -/
lemma release_spec (hissued : ids.Issued) (hid : ¬ ids.Available id) : (ids.release id).Issued ∧
      ∀ other, (ids.release id).Available other → ids.Available other ∨ other = id := by
  have hlt : id < ids.next := by
    simp only [Available] at hid
    omega
  unfold release
  split
  · exact ⟨hissued, fun other h => .inl h⟩
  split
  · refine ⟨⟨nodup_cons.mpr ⟨fun h => hid (.inl h), hissued.nodup⟩, ?_,
      hissued.first_le, ?_, hissued.next_le, ?_⟩, fun other h => ?_⟩
    · rintro x (- | ⟨-, hx⟩)
      · exact hlt
      · exact hissued.free_lt x hx
    · rintro x (- | ⟨-, hx⟩)
      · omega
      · exact hissued.first_le_free x hx
    · rw [length_cons]
      omega
    · simp only [Available, mem_cons] at h ⊢
      tauto
  · exact ⟨hissued, fun other h => .inl h⟩

lemma available_release (hrange : firstEndpointId ≤ id ∧ id < delegatedBase)
    (hroom : ids.free.length < freeIdCap) (other : Nat) :
    (ids.release id).Available other ↔ ids.Available other ∨ other = id := by
  rw [release, if_neg (by omega), if_pos hroom]
  simp only [Available, mem_cons]
  tauto

lemma length_lt_of_alloc (hissued : ids.Issued) (h : ids.alloc = some (id, ids')) :
    ids'.free.length < freeIdCap := by
  have hlen := hissued.length_le
  unfold alloc at h
  split at h
  next top rest hids =>
    cases h
    rw [hids] at hlen
    exact hlen
  next hids =>
    split at h
    · cases h
      simp [hids, freeIdCap]
    · cases h

lemma available_release_of_alloc (hissued : ids.Issued) (h : ids.alloc = some (id, ids'))
    (other : Nat) : (ids'.release id).Available other ↔ ids.Available other := by
  obtain ⟨-, havail, hfirst, hothers⟩ := alloc_spec hissued h
  rw [available_release ⟨hfirst, lt_delegatedBase_of_alloc hissued h⟩
    (length_lt_of_alloc hissued h), hothers]
  by_cases heq : other = id
  · subst heq
    simp [havail]
  · simp [heq]

@[simp] lemma next_release : (ids.release id).next = ids.next := by
  unfold release
  split
  · rfl
  · split <;> rfl

lemma length_release_le : (ids.release id).free.length ≤ ids.free.length + 1 := by
  unfold release
  split
  · exact Nat.le_succ _
  · split
    · exact Nat.le_refl _
    · exact Nat.le_succ _

lemma length_release_of_alloc (hroom : ids.free.length < freeIdCap)
    (h : ids.alloc = some (id, ids')) : (ids'.release id).free.length < freeIdCap := by
  have hle : (ids'.release id).free.length ≤ ids'.free.length + 1 := length_release_le
  unfold alloc at h
  split at h
  next top rest hids =>
    cases h
    rw [hids] at hroom
    exact Nat.lt_of_le_of_lt hle hroom
  next hids =>
    split at h
    · cases h
      simp only [hids] at hle ⊢
      exact Nat.lt_of_le_of_lt hle (by decide)
    · cases h

end Alloc

end EndpointIds

end Godspeed.Ipc
