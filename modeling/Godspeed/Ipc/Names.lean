import Godspeed.Lib.FirstMatch
import Mathlib.Data.List.Basic

/-!
# The name directory

`ipc/names.rs`: the fixed table that maps service names to endpoint ids.  A
name is its bytes.  `register` first evicts every other name that still points
at the endpoint, then updates the entry of the name or takes a free one;
`unregisterEndpoint` clears the entry of a name only while it still points at
the dying endpoint.  What the source reports about a removal feeds log lines
only, so the functions here return the table alone.

The table carries what the eviction is for: valid entries share neither a name
nor an endpoint, and their names fit.  A lookup is then the same as membership
(`lookup_eq_some_iff`); `maps_of_maps_register`, `maps_register_of_ne` and
`maps_register_self` say what a registration leaves, `maps_unregisterEndpoint`
what a removal does.
-/

namespace Godspeed.Ipc

open FirstMatch List

abbrev Name := List UInt8

instance decidableMemName (name : Name) (names : List Name) : Decidable (name ∈ names) :=
  inferInstanceAs (Decidable (name ∈ names))

/-- `NAME_MAX`, which is `PEER_NAME_BYTES`. -/
def nameMax : Nat := 128

/-- `MAX_ENTRIES`. -/
def maxNames : Nat := 128

/-- `NameEntry`. -/
structure NameEntry where
  valid : Bool
  name : Name
  endpointId : Nat
  deriving DecidableEq, Repr

namespace NameEntry

/-- `NameEntry::empty`. -/
def empty : NameEntry := ⟨false, [], 0⟩

def named (name : Name) (entry : NameEntry) : Bool := entry.valid && entry.name == name

/-- The eviction of `register`: an entry that maps another name to the endpoint
stops being valid. -/
def evict (name : Name) (endpointId : Nat) (entry : NameEntry) : NameEntry :=
  if entry.endpointId = endpointId ∧ entry.name ≠ name then { entry with valid := false }
  else entry

variable {name : Name} {endpointId : Nat} {entry : NameEntry}

lemma named_iff : entry.named name ↔ entry.valid ∧ entry.name = name := by
  simp [named]

/-- What the eviction leaves valid it leaves alone, and such an entry points at
the endpoint only under the new name. -/
lemma valid_evict (h : (entry.evict name endpointId).valid) :
    entry.evict name endpointId = entry ∧ (entry.endpointId = endpointId → entry.name = name) := by
  unfold evict at h ⊢
  split at h
  · cases h
  next hkeep =>
    rw [if_neg hkeep]
    exact ⟨rfl, fun hep => by_contra fun hname => hkeep ⟨hep, hname⟩⟩

lemma evict_of_ne (h : entry.endpointId ≠ endpointId) : entry.evict name endpointId = entry := by
  rw [evict, if_neg fun hevicted => h hevicted.1]

lemma evict_of_named (h : entry.name = name) : entry.evict name endpointId = entry := by
  rw [evict, if_neg fun hevicted => hevicted.2 h]

end NameEntry

/-- The entries of a directory: no two share a name or an endpoint, and every
name fits into its entry. -/
structure OneToOne (entries : List NameEntry) : Prop where
  apart : entries.Pairwise fun a b => a.valid = true → b.valid = true →
    a.name ≠ b.name ∧ a.endpointId ≠ b.endpointId
  fits : ∀ entry ∈ entries, entry.valid = true → entry.name.length ≤ nameMax

open NameEntry

namespace OneToOne

variable {entries : List NameEntry} {name : Name} {endpointId : Nat}

lemma clear {p : NameEntry → Bool} {f : NameEntry → NameEntry} (h : OneToOne entries)
    (hf : ∀ entry, (f entry).valid → f entry = entry) :
    OneToOne (modifyFirst p f entries) := by
  refine ⟨pairwise_modifyFirst h.apart ?_ ?_, ?_⟩
  · intro a b _ _ _ hab ha hb
    have hsame := hf a ha
    rw [hsame] at ha ⊢
    exact hab ha hb
  · intro a b _ _ _ hab ha hb
    have hsame := hf b hb
    rw [hsame] at hb ⊢
    exact hab ha hb
  · intro entry hmem hvalid
    rcases mem_modifyFirst hmem with hold | ⟨old, hold, -, rfl⟩
    · exact h.fits entry hold hvalid
    · have hsame := hf old hvalid
      rw [hsame] at hvalid ⊢
      exact h.fits old hold hvalid

lemma evicted (h : OneToOne entries) (name : Name) (endpointId : Nat) :
    OneToOne (entries.map (evict name endpointId)) ∧
      ∀ entry ∈ entries.map (evict name endpointId), entry.valid →
        entry.endpointId = endpointId → entry.name = name := by
  have hold : ∀ entry ∈ entries.map (evict name endpointId), entry.valid →
      entry ∈ entries ∧ (entry.endpointId = endpointId → entry.name = name) := by
    intro entry hmem hvalid
    obtain ⟨old, hold, rfl⟩ := mem_map.mp hmem
    obtain ⟨hsame, hown⟩ := valid_evict hvalid
    rw [hsame]
    exact ⟨hold, hown⟩
  refine ⟨⟨pairwise_map.mpr (h.apart.imp fun {a b} hab ha hb => ?_), ?_⟩,
    fun entry hmem hvalid => (hold entry hmem hvalid).2⟩
  · have hav := (valid_evict ha).1
    have hbv := (valid_evict hb).1
    rw [hav] at ha ⊢
    rw [hbv] at hb ⊢
    exact hab ha hb
  · intro entry hmem hvalid
    exact h.fits entry (hold entry hmem hvalid).1 hvalid

/-- An entry of the table becomes one that maps the name to the endpoint, when
every other valid entry has another name and so another endpoint. -/
lemma assign {p : NameEntry → Bool} {f : NameEntry → NameEntry} (h : OneToOne entries)
    (hlen : name.length ≤ nameMax)
    (hown : ∀ entry ∈ entries, entry.valid → entry.endpointId = endpointId → entry.name = name)
    (hf : ∀ entry, p entry → (f entry).name = name ∧ (f entry).endpointId = endpointId)
    (hothers : ∀ a b, a ∈ entries → b ∈ entries → p a → b.valid →
      (a.valid → a.name ≠ b.name) → b.name ≠ name) :
    OneToOne (modifyFirst p f entries) := by
  have hsame : ∀ a b, a ∈ entries → b ∈ entries → p a → b.valid → (a.valid → a.name ≠ b.name) →
      (f a).name ≠ b.name ∧ (f a).endpointId ≠ b.endpointId := by
    intro a b ha hb hpa hvalid hne
    have hname := hothers a b ha hb hpa hvalid hne
    rw [(hf a hpa).1, (hf a hpa).2]
    exact ⟨hname.symm, fun hep => hname (hown b hb hvalid hep.symm)⟩
  refine ⟨pairwise_modifyFirst h.apart ?_ ?_, ?_⟩
  · intro a b ha hb hpa hab _ hbv
    exact hsame a b ha hb hpa hbv fun hav => (hab hav hbv).1
  · intro a b ha hb hpb hab hav _
    obtain ⟨hname, hep⟩ := hsame b a hb ha hpb hav fun hbv => (hab hav hbv).1.symm
    exact ⟨hname.symm, hep.symm⟩
  · intro entry hmem hvalid
    rcases mem_modifyFirst hmem with hold | ⟨old, -, hp, rfl⟩
    · exact h.fits entry hold hvalid
    · rw [(hf old hp).1]
      exact hlen

end OneToOne

/-- The static `NAMES`. -/
structure NameTable where
  entries : List NameEntry
  oneToOne : OneToOne entries

namespace NameTable

def init : NameTable where
  entries := List.replicate maxNames .empty
  oneToOne :=
    { apart := pairwise_replicate.mpr (.inr (by simp [empty]))
      fits := fun entry hmem hvalid => by
        rw [eq_of_mem_replicate hmem] at hvalid
        exact absurd hvalid (by simp [empty]) }

variable (table : NameTable)

/-- `lookup`. -/
def lookup (name : Name) : Option Nat :=
  if nameMax < name.length then none
  else (table.entries.find? (named name)).map endpointId

/-- `register`. -/
def register (name : Name) (endpointId : Nat) : NameTable :=
  if hlong : nameMax < name.length then table
  else
    let entries := table.entries.map (evict name endpointId)
    have hevicted := table.oneToOne.evicted name endpointId
    if hnamed : entries.any (named name) then
      { entries := modifyFirst (named name)
          (fun entry => { entry with endpointId := endpointId }) entries
        oneToOne := by
          refine hevicted.1.assign (Nat.not_lt.mp hlong) hevicted.2
            (fun entry hentry => ⟨(named_iff.mp hentry).2, rfl⟩) ?_
          intro a b _ _ ha _ hab hname
          obtain ⟨hvalid, hown⟩ := named_iff.mp ha
          exact hab hvalid (hown.trans hname.symm) }
    else
      { entries := modifyFirst (fun entry => !entry.valid) (fun _ => ⟨true, name, endpointId⟩)
          entries
        oneToOne := by
          refine hevicted.1.assign (Nat.not_lt.mp hlong) hevicted.2 (fun _ _ => ⟨rfl, rfl⟩) ?_
          intro a b _ hb _ hvalid _ hname
          exact hnamed (any_eq_true.mpr ⟨b, hb, named_iff.mpr ⟨hvalid, hname⟩⟩) }

/-- `unregister`. -/
def unregister (name : Name) : NameTable :=
  if nameMax < name.length then table
  else
    { entries := modifyFirst (named name) (fun entry => { entry with valid := false })
        table.entries
      oneToOne := table.oneToOne.clear fun _ h => absurd h (by simp) }

/-- `unregister_endpoint`. -/
def unregisterEndpoint (name : Name) (endpointId : Nat) : NameTable :=
  if nameMax < name.length then table
  else
    { entries := modifyFirst (named name)
        (fun entry => if entry.endpointId = endpointId then { entry with valid := false } else entry)
        table.entries
      oneToOne := table.oneToOne.clear fun entry h => by
        by_cases hep : entry.endpointId = endpointId
        · simp [hep] at h
        · simp [hep] }

/-- Some valid entry maps the name to the endpoint. -/
def Maps (name : Name) (endpointId : Nat) : Prop :=
  ∃ entry ∈ table.entries, entry.valid = true ∧ entry.name = name ∧ entry.endpointId = endpointId

def HasRoom : Prop := ∃ entry ∈ table.entries, entry.valid = false

section Laws

variable {table : NameTable} {name name' : Name} {endpointId endpointId' : Nat}
  {entries : List NameEntry} {entry : NameEntry}

lemma unique_named (h : OneToOne entries) (name : Name) :
    entries.Pairwise fun a b => named name a → named name b = false := by
  refine h.apart.imp fun {a b} hab ha => ?_
  by_contra hb
  rw [Bool.not_eq_false] at hb
  obtain ⟨hav, han⟩ := named_iff.mp ha
  obtain ⟨hbv, hbn⟩ := named_iff.mp hb
  exact (hab hav hbv).1 (han.trans hbn.symm)

lemma lookup_eq_some_iff : table.lookup name = some endpointId ↔ table.Maps name endpointId := by
  unfold lookup
  constructor
  · intro h
    split at h
    · cases h
    · obtain ⟨entry, hfind, rfl⟩ := Option.map_eq_some_iff.mp h
      obtain ⟨hvalid, hname⟩ := named_iff.mp (find?_some hfind)
      exact ⟨entry, mem_of_find?_eq_some hfind, hvalid, hname, rfl⟩
  · rintro ⟨entry, hmem, hvalid, rfl, rfl⟩
    rw [if_neg (Nat.not_lt.mpr (table.oneToOne.fits entry hmem hvalid)),
      find?_eq_some_of_unique (unique_named table.oneToOne entry.name) hmem
        (named_iff.mpr ⟨hvalid, rfl⟩)]
    rfl

lemma length_le_of_maps (h : table.Maps name endpointId) : name.length ≤ nameMax := by
  obtain ⟨entry, hmem, hvalid, rfl, -⟩ := h
  exact table.oneToOne.fits entry hmem hvalid

@[simp] lemma lookup_init : init.lookup name = none := by
  unfold lookup
  split
  · rfl
  · simp [init, named, empty]

lemma entries_register (hlen : name.length ≤ nameMax) : (table.register name endpointId).entries =
      if (table.entries.map (evict name endpointId)).any (named name) then
        modifyFirst (named name) (fun entry => { entry with endpointId := endpointId })
          (table.entries.map (evict name endpointId))
      else
        modifyFirst (fun entry => !entry.valid) (fun _ => ⟨true, name, endpointId⟩)
          (table.entries.map (evict name endpointId)) := by
  rw [register, dif_neg (Nat.not_lt.mpr hlen)]
  by_cases hnamed : (table.entries.map (evict name endpointId)).any (named name)
  · simp only [hnamed, dif_pos, if_true]
  · simp only [hnamed, if_false, Bool.false_eq_true, dif_neg, not_false_eq_true]

lemma entries_unregisterEndpoint (hlen : name.length ≤ nameMax) :
    (table.unregisterEndpoint name endpointId).entries = modifyFirst (named name)
        (fun entry => if entry.endpointId = endpointId then { entry with valid := false } else entry)
        table.entries := by
  rw [unregisterEndpoint, if_neg (Nat.not_lt.mpr hlen)]

lemma register_of_long (hlong : nameMax < name.length) :
    table.register name endpointId = table := by
  rw [register, dif_pos hlong]

lemma unregisterEndpoint_of_long (hlong : nameMax < name.length) :
    table.unregisterEndpoint name endpointId = table := by
  rw [unregisterEndpoint, if_pos hlong]

/-- After a registration the name maps to the new endpoint or to nothing, and
the other names keep what is not that endpoint. -/
lemma maps_of_maps_register (hlen : name.length ≤ nameMax)
    (h : (table.register name endpointId).Maps name' endpointId') :
    (name' = name ∧ endpointId' = endpointId) ∨
      (name' ≠ name ∧ endpointId' ≠ endpointId ∧ table.Maps name' endpointId') := by
  obtain ⟨entry, hmem, hvalid, rfl, rfl⟩ := h
  obtain ⟨hone, hown⟩ := table.oneToOne.evicted name endpointId
  -- an entry that survived the eviction under another name
  have hkept : entry ∈ table.entries.map (evict name endpointId) →
      entry.name ≠ name → entry.name ≠ name ∧ entry.endpointId ≠ endpointId ∧
        table.Maps entry.name entry.endpointId := by
    intro hold hname
    refine ⟨hname, fun hep => hname (hown entry hold hvalid hep), entry, ?_, hvalid, rfl, rfl⟩
    obtain ⟨old, hmem', rfl⟩ := mem_map.mp hold
    rw [(valid_evict hvalid).1]
    exact hmem'
  rw [entries_register hlen] at hmem
  split at hmem
  · rcases (mem_modifyFirst_iff_of_unique (unique_named hone name)).mp hmem with
      ⟨hold, hnot⟩ | ⟨old, -, hnamed, rfl⟩
    · refine .inr (hkept hold fun hname => ?_)
      simp [named, hvalid, hname] at hnot
    · exact .inl ⟨(named_iff.mp hnamed).2, rfl⟩
  next hnone =>
    rcases mem_modifyFirst hmem with hold | ⟨_, -, -, rfl⟩
    · refine .inr (hkept hold fun hname => hnone ?_)
      exact any_eq_true.mpr ⟨entry, hold, named_iff.mpr ⟨hvalid, hname⟩⟩
    · exact .inl ⟨rfl, rfl⟩

lemma maps_register_of_ne (hname : name' ≠ name) (hep : endpointId' ≠ endpointId)
    (h : table.Maps name' endpointId') :
    (table.register name endpointId).Maps name' endpointId' := by
  rcases Nat.lt_or_ge nameMax name.length with hlong | hlen
  · rwa [register_of_long hlong]
  obtain ⟨entry, hmem, hvalid, rfl, rfl⟩ := h
  have hold : entry ∈ table.entries.map (evict name endpointId) :=
    mem_map.mpr ⟨entry, hmem, evict_of_ne hep⟩
  refine ⟨entry, ?_, hvalid, rfl, rfl⟩
  rw [entries_register hlen]
  split
  · exact mem_modifyFirst_of_mem hold (by simp [named, hname])
  · exact mem_modifyFirst_of_mem hold (by simp [hvalid])

/-- A registration is seen by the next lookup, when the name had an entry or one
was unused. -/
lemma maps_register_self (hlen : name.length ≤ nameMax)
    (hroom : table.HasRoom ∨ ∃ old, table.Maps name old) :
    (table.register name endpointId).Maps name endpointId := by
  unfold Maps
  rw [entries_register hlen]
  split
  next hany =>
    obtain ⟨entry, hmem, hnamed⟩ := any_eq_true.mp hany
    obtain ⟨written, -, hwritten, hin⟩ := exists_mem_modifyFirst hmem hnamed
    obtain ⟨hvalid, hname⟩ := named_iff.mp hwritten
    exact ⟨_, hin, hvalid, hname, rfl⟩
  rename_i hnone
  have hfree : ∃ entry ∈ table.entries.map (evict name endpointId), entry.valid = false := by
    rcases hroom with ⟨entry, hmem, hinvalid⟩ | ⟨old, entry, hmem, hvalid, hname, -⟩
    · refine ⟨_, mem_map_of_mem hmem, ?_⟩
      by_contra hvalid
      have hsame := (valid_evict (by simpa using hvalid)).1
      rw [hsame] at hvalid
      exact hvalid hinvalid
    · refine absurd (any_eq_true.mpr ⟨entry, ?_, named_iff.mpr ⟨hvalid, hname⟩⟩) hnone
      exact mem_map.mpr ⟨entry, hmem, evict_of_named hname⟩
  obtain ⟨entry, hmem, hinvalid⟩ := hfree
  obtain ⟨-, -, -, hin⟩ := exists_mem_modifyFirst (p := fun entry : NameEntry => !entry.valid)
    (f := fun _ => ⟨true, name, endpointId⟩) hmem (by simp [hinvalid])
  exact ⟨_, hin, rfl, rfl, rfl⟩

/-- Removing the entry of a dying endpoint removes that mapping and no other. -/
lemma maps_unregisterEndpoint : (table.unregisterEndpoint name endpointId).Maps name' endpointId' ↔
      table.Maps name' endpointId' ∧ ¬ (name' = name ∧ endpointId' = endpointId) := by
  rcases Nat.lt_or_ge nameMax name.length with hlong | hlen
  · rw [unregisterEndpoint_of_long hlong]
    refine ⟨fun h => ⟨h, fun ⟨hname, _⟩ => ?_⟩, fun h => h.1⟩
    have := length_le_of_maps h
    rw [hname] at this
    omega
  unfold Maps
  rw [entries_unregisterEndpoint hlen]
  constructor
  · rintro ⟨entry, hmem, hvalid, rfl, rfl⟩
    rcases (mem_modifyFirst_iff_of_unique (unique_named table.oneToOne name)).mp hmem with
      ⟨hold, hnot⟩ | ⟨old, hold, hnamed, heq⟩
    · refine ⟨⟨entry, hold, hvalid, rfl, rfl⟩, fun ⟨hname, _⟩ => ?_⟩
      simp [named, hvalid, hname] at hnot
    by_cases hep : old.endpointId = endpointId
    · rw [if_pos hep] at heq
      simp [heq] at hvalid
    · rw [if_neg hep] at heq
      subst heq
      exact ⟨⟨entry, hold, hvalid, rfl, rfl⟩, fun ⟨_, hsame⟩ => hep hsame⟩
  · rintro ⟨⟨entry, hmem, hvalid, rfl, rfl⟩, hne⟩
    refine ⟨entry, (mem_modifyFirst_iff_of_unique (unique_named table.oneToOne name)).mpr ?_,
      hvalid, rfl, rfl⟩
    by_cases hname : entry.name = name
    · refine .inr ⟨entry, hmem, named_iff.mpr ⟨hvalid, hname⟩, ?_⟩
      rw [if_neg fun hep => hne ⟨hname, hep⟩]
    · exact .inl ⟨hmem, by simp [named, hname]⟩

/-- A registration of a new endpoint that is taken back leaves the name without
an endpoint and the other names alone. -/
lemma lookup_unregisterEndpoint_register (hlen : name.length ≤ nameMax)
    (hnew : ∀ other, ¬ table.Maps other endpointId) (other : Name) :
    ((table.register name endpointId).unregisterEndpoint name endpointId).lookup other =
      if other = name then none else table.lookup other := by
  refine Option.ext fun found => ?_
  rw [lookup_eq_some_iff, maps_unregisterEndpoint]
  split
  next heq =>
    simp only [reduceCtorEq, iff_false]
    rintro ⟨hmaps, hother⟩
    rcases maps_of_maps_register hlen hmaps with hself | ⟨hne, -, -⟩
    · exact hother hself
    · exact hne heq
  next hne =>
    rw [lookup_eq_some_iff]
    constructor
    · rintro ⟨hmaps, -⟩
      rcases maps_of_maps_register hlen hmaps with ⟨heq, -⟩ | ⟨-, -, hold⟩
      · exact absurd heq hne
      · exact hold
    · intro hold
      have hep : found ≠ endpointId := fun heq => hnew other (heq ▸ hold)
      exact ⟨maps_register_of_ne hne hep hold, fun hself => hne hself.1⟩

end Laws

end NameTable

end Godspeed.Ipc
