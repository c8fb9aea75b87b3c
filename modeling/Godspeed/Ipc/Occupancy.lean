import Godspeed.Ipc.RoutingOutcome
import Mathlib.Data.List.Nodup

/-!
# Which endpoints are alive

The live part of the routing table.  An endpoint is `Alive` when its entry is;
the operations that move messages keep that set, a registration adds its id to
it and a death takes its id out.  An entry that is not alive may be taken over,
so the free entries are counted by the live ids (`freeCount_add_length`).

`tryRegisterOptional` is the registration of a reply mailbox: refused when the
table has fallen to its reserve, unless a task that may take one back spends a
credit, which a death banked.
-/

namespace Godspeed.Ipc

open List RoutingEntry

variable {α : Type*} (table : RoutingTable α)

namespace RoutingTable

open EndpointState FirstMatch

/-- The endpoint has an entry that is alive. -/
def Alive (id : Nat) : Prop :=
  ∃ entry, table.lookup id = some entry ∧ entry.liveness = .alive

/-- The endpoint has this entry, and it is alive. -/
def Live (id : Nat) (state : EndpointState α) : Prop :=
  table.lookup id = some state ∧ state.liveness = .alive

/-- The same endpoints are alive, in a table of the same size. -/
structure SameLive (table table' : RoutingTable α) : Prop where
  alive : ∀ id, table'.Alive id ↔ table.Alive id
  size : table'.entries.length = table.entries.length

section Operations

variable {table table' : RoutingTable α} {entry state : EndpointState α} {msg : α}
  {id endpoint capGen coreId generation : Nat} {receiver sender : Option Slot}

lemma sameLive_refl (table : RoutingTable α) : SameLive table table := ⟨fun _ => .rfl, rfl⟩

lemma size_write : (table.write id state).entries.length = table.entries.length :=
  length_modifyFirst

lemma alive_write (hlook : table.lookup id = some entry) (other : Nat) :
    (table.write id state).Alive other ↔
      if other = id then state.liveness = .alive else table.Alive other := by
  unfold Alive
  rw [lookup_write hlook]
  split
  next hother =>
    simp [hother]
  next hother =>
    simp [hother]

lemma sameLive_write (hlook : table.lookup id = some entry)
    (hsame : state.liveness = entry.liveness) : SameLive table (table.write id state) := by
  refine ⟨fun other => ?_, size_write⟩
  rw [alive_write hlook]
  split
  next hother =>
    subst hother
    simp [Alive, hlook, hsame]
  · exact .rfl

lemma sameLive_enqueue (table : RoutingTable α) (endpoint : Nat) (msg : α) (gen : Option Nat)
    (sender : Option Slot) : SameLive table (table.enqueue endpoint msg gen sender).1 := by
  have hout := table.enqueue_outcome endpoint msg gen sender
  generalize table.enqueue endpoint msg gen sender = result at hout
  cases hout with
  | dead => exact sameLive_refl table
  | queued entry queue hlook => exact sameLive_write hlook rfl
  | full entry hlook =>
    cases sender with
    | none | some slot => exact sameLive_write hlook rfl

lemma sameLive_dequeue (table : RoutingTable α) (endpoint capGen : Nat)
    (receiver : Option Slot) : SameLive table (table.dequeue endpoint capGen receiver).1 := by
  have hout := table.dequeue_outcome endpoint capGen receiver
  generalize table.dequeue endpoint capGen receiver = result at hout
  cases hout with
  | dead | unregistered => exact sameLive_refl table
  | taken entry entry' msg rest hlook _ _ hrel =>
    exact sameLive_write hlook hrel.liveness
  | registered entry slot _ hlook => exact sameLive_write hlook rfl

lemma sameLive_dequeueReply (table : RoutingTable α) (endpoint capGen : Nat)
    (accepts : α → Bool) : SameLive table (table.dequeueReply endpoint capGen accepts).1 := by
  have hout := table.dequeueReply_outcome endpoint capGen accepts
  generalize table.dequeueReply endpoint capGen accepts = result at hout
  cases hout with
  | dead | empty => exact sameLive_refl table
  | taken entry entry' msg hlook _ _ hrel =>
    exact sameLive_write hlook hrel.liveness

lemma alive_killEndpoint (h : table.killEndpoint endpoint = some (table', receiver, sender))
    (other : Nat) : table'.Alive other ↔ table.Alive other ∧ other ≠ endpoint := by
  cases killEndpoint_outcome h with
  | absent hnone =>
    refine ⟨fun halive => ⟨halive, fun heq => ?_⟩, fun halive => halive.1⟩
    obtain ⟨entry, hlook, -⟩ := halive
    rw [heq, hnone] at hlook
    cases hlook
  | killed entry entry' hlook hdead =>
    rw [alive_write hlook]
    split
    next heq =>
      simp [hdead, heq]
    next hne =>
      simp [hne]

lemma size_killEndpoint (h : table.killEndpoint endpoint = some (table', receiver, sender)) :
    table'.entries.length = table.entries.length := by
  cases killEndpoint_outcome h with
  | absent => rfl
  | killed => exact size_write

section

variable (h : table.tryRegister id coreId generation = some table')
include h

lemma alive_tryRegister (other : Nat) : table'.Alive other ↔ table.Alive other ∨ other = id := by
  obtain ⟨hself, hothers⟩ := lookup_tryRegister h
  by_cases hother : other = id
  · subst hother
    simp [Alive, hself, fresh]
  · rcases hothers other hother with hsame | ⟨hnone, entry, hentry, hdead⟩
    · simp [Alive, hsame, hother]
    · simp [Alive, hnone, hentry, hdead, hother]

lemma size_tryRegister : table'.entries.length = table.entries.length := by
  unfold tryRegister at h
  split at h
  · cases h
    exact size_write
  split at h
  · cases h
    exact length_modifyFirst
  · cases h

lemma live_tryRegister {other : Nat}
    (hne : other ≠ id) : table'.Live other state ↔ table.Live other state := by
  unfold Live
  rcases (lookup_tryRegister h).2 other hne with hsame | ⟨hnone, entry, hentry, hdead⟩
  · rw [hsame]
  rw [hnone, hentry]
  constructor
  · rintro ⟨⟨⟩, -⟩
  · rintro ⟨⟨⟩, halive⟩
    rw [hdead] at halive
    cases halive

end

lemma live_killEndpoint (h : table.killEndpoint endpoint = some (table', receiver, sender))
    (other : Nat) : table'.Live other state ↔ table.Live other state ∧ other ≠ endpoint := by
  by_cases hother : other = endpoint
  · subst hother
    have hdead : ¬ table'.Alive other := fun halive => ((alive_killEndpoint h other).mp halive).2 rfl
    exact ⟨fun hlive => absurd ⟨state, hlive⟩ hdead, fun hlive => absurd rfl hlive.2⟩
  · cases killEndpoint_outcome h with
    | absent => simp [hother]
    | killed entry entry' hlook =>
      unfold Live
      rw [lookup_write_of_ne hother]
      simp [hother]

end Operations

section Counting

variable (table : RoutingTable α)

def liveIds : List Nat :=
  (table.entries.filter fun entry => !entry.reusable).map RoutingEntry.id

/-- The entries a registration may take over. -/
def freeCount : Nat := (table.entries.filter reusable).length

lemma freeCount_add_length : table.freeCount + table.liveIds.length = table.entries.length := by
  unfold freeCount liveIds
  rw [length_map]
  exact (length_eq_length_filter_add reusable).symm

lemma not_reusable_iff {entry : RoutingEntry α} :
    (!entry.reusable) ↔ entry.valid ∧ entry.liveness = .alive := by
  unfold reusable
  cases entry.valid <;> cases entry.liveness <;> simp

lemma nodup_liveIds : table.liveIds.Nodup := by
  refine pairwise_map.mpr ((table.distinct.filter _).imp_of_mem fun {a b} ha hb hab => ?_)
  have hav := (not_reusable_iff.mp (mem_filter.mp ha).2).1
  have hbv := (not_reusable_iff.mp (mem_filter.mp hb).2).1
  exact hab hav hbv

lemma mem_liveIds {id : Nat} : id ∈ table.liveIds ↔ table.Alive id := by
  have hunique : table.entries.Pairwise fun a b =>
      named id a → named id b = false := by
    refine table.distinct.imp fun {a b} hab ha => ?_
    by_contra hb
    simp only [named, Bool.not_eq_false, Bool.and_eq_true, beq_iff_eq] at ha hb
    exact hab ha.1 hb.1 (ha.2.trans hb.2.symm)
  unfold liveIds Alive lookup
  rw [mem_map]
  constructor
  · rintro ⟨entry, hmem, rfl⟩
    obtain ⟨hin, hlive⟩ := mem_filter.mp hmem
    obtain ⟨hvalid, halive⟩ := not_reusable_iff.mp hlive
    refine ⟨entry.toEndpointState, ?_, halive⟩
    rw [find?_eq_some_of_unique hunique hin (by simp [named, hvalid])]
    rfl
  · rintro ⟨state, hlook, halive⟩
    obtain ⟨entry, hfind, rfl⟩ := Option.map_eq_some_iff.mp hlook
    have hnamed : named id entry := find?_some hfind
    simp only [named, Bool.and_eq_true, beq_iff_eq] at hnamed
    refine ⟨entry, mem_filter.mpr ⟨mem_of_find?_eq_some hfind, ?_⟩, hnamed.2⟩
    exact not_reusable_iff.mpr ⟨hnamed.1, halive⟩

lemma length_le_of_alive {ids : List Nat} (hnodup : ids.Nodup)
    (halive : ∀ id ∈ ids, table.Alive id) : ids.length ≤ table.entries.length := by
  have hsub : ids ⊆ table.liveIds := fun id hid => (mem_liveIds table).mpr (halive id hid)
  have hle := (subperm_of_subset hnodup hsub).length_le
  have hcount := table.freeCount_add_length
  omega

variable {table} {table' : RoutingTable α} {id coreId generation : Nat}

lemma freeCount_tryRegister (h : table.tryRegister id coreId generation = some table')
    (hdead : ¬ table.Alive id) : table'.freeCount + 1 = table.freeCount := by
  have hperm : table'.liveIds.Perm (id :: table.liveIds) := by
    refine (perm_ext_iff_of_nodup table'.nodup_liveIds
      (nodup_cons.mpr ⟨fun hin => hdead ((mem_liveIds table).mp hin),
        table.nodup_liveIds⟩)).mpr fun other => ?_
    rw [mem_liveIds, alive_tryRegister h, mem_cons, mem_liveIds, or_comm]
  have hlen := hperm.length_eq
  have hnew := table'.freeCount_add_length
  have hold := table.freeCount_add_length
  rw [size_tryRegister h] at hnew
  rw [length_cons] at hlen
  omega

/-- A registration succeeds when an entry is free, and for an endpoint that is
not alive only then. -/
lemma isSome_tryRegister (hdead : ¬ table.Alive id) :
    (table.tryRegister id coreId generation).isSome ↔ 0 < table.freeCount := by
  unfold tryRegister
  split
  next entry hfind =>
    have hreuse : entry.reusable := by
      by_contra hlive
      have halive := not_reusable_iff.mp (by simpa using hlive)
      exact hdead ⟨entry.toEndpointState, by simp [lookup, hfind], halive.2⟩
    refine ⟨fun _ => ?_, fun _ => rfl⟩
    exact length_pos_of_mem (mem_filter.mpr ⟨mem_of_find?_eq_some hfind, hreuse⟩)
  · split
    next entry hfind =>
      refine ⟨fun _ => ?_, fun _ => rfl⟩
      exact length_pos_of_mem (mem_filter.mpr ⟨mem_of_find?_eq_some hfind, find?_some hfind⟩)
    next hnone =>
      refine ⟨fun hsome => absurd hsome (by simp), fun hpos => ?_⟩
      obtain ⟨entry, hmem⟩ := exists_mem_of_length_pos hpos
      obtain ⟨hin, hreuse⟩ := mem_filter.mp hmem
      exact absurd hreuse (find?_eq_none.mp hnone entry hin)

end Counting

/-- `OPTIONAL_RESERVE`. -/
def optionalReserve : Nat := maxEndpoints * 3 / 4

/-- `CREDIT_FLOOR`. -/
def creditFloor : Nat := maxEndpoints / 8

/-- The verdict of `try_register_optional` on the free entries it counts. -/
def optionalVerdict (free credits : Nat) (mayTakeBack : Bool) : Bool :=
  optionalReserve < free || (creditFloor < free && mayTakeBack && 0 < credits)

/-- `try_register_optional`, with `MAILBOX_CREDITS`; a credit is spent only on a
registration that happens. -/
def tryRegisterOptional (credits id coreId generation : Nat)
    (mayTakeBack : Bool) : Option (RoutingTable α × Nat) :=
  if table.freeCount ≤ optionalReserve ∧ creditFloor < table.freeCount ∧ mayTakeBack = true ∧
      0 < credits then
    (table.tryRegister id coreId generation).map fun table => (table, credits - 1)
  else if table.freeCount ≤ optionalReserve then none
  else (table.tryRegister id coreId generation).map fun table => (table, credits)

section Optional

variable {table table' : RoutingTable α} {credits credits' id coreId generation : Nat}
  {mayTakeBack : Bool}

lemma tryRegister_of_optional
    (h : table.tryRegisterOptional credits id coreId generation mayTakeBack =
      some (table', credits')) :
    table.tryRegister id coreId generation = some table' := by
  unfold tryRegisterOptional at h
  split at h
  · obtain ⟨registered, hreg, heq⟩ := Option.map_eq_some_iff.mp h
    cases heq
    exact hreg
  · split at h
    · cases h
    · obtain ⟨registered, hreg, heq⟩ := Option.map_eq_some_iff.mp h
      cases heq
      exact hreg

lemma isSome_tryRegisterOptional (hdead : ¬ table.Alive id) :
    (table.tryRegisterOptional credits id coreId generation mayTakeBack).isSome =
      optionalVerdict table.freeCount credits mayTakeBack := by
  have hreg : 0 < table.freeCount → (table.tryRegister id coreId generation).isSome :=
    (isSome_tryRegister hdead).mpr
  unfold tryRegisterOptional optionalVerdict
  split
  next hcredit =>
    obtain ⟨hreserve, hfloor, hmay, hcredits⟩ := hcredit
    simp [hreg (by omega), hfloor, hmay, hcredits]
  rename_i hcredit
  split
  next hreserve =>
    simp only [Option.isSome_none, Nat.not_lt.mpr hreserve, decide_false, Bool.false_or]
    by_contra hverdict
    simp only [Bool.false_eq, Bool.not_eq_false, Bool.and_eq_true, decide_eq_true_eq] at hverdict
    exact hcredit ⟨hreserve, hverdict.1.1, hverdict.1.2, hverdict.2⟩
  next hreserve =>
    simp [hreg (by omega), Nat.not_le.mp hreserve]

end Optional

end RoutingTable

end Godspeed.Ipc
