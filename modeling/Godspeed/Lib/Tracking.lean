import Mathlib.Data.List.Nodup

/-!
# A table that tracks the live resources

Somebody hands out resources and keeps a table of them; the resources themselves live
elsewhere.  `Tracks key live table` says that the two agree: every live resource is named
by exactly one entry, and every entry names a live resource.

The rules follow what an owner does: take a new resource and enter it (`Tracks.enter`),
give up the resources of some entries and strike the entries (`Tracks.strike`), change an
entry without its name (`Tracks.map`).  A table that is thrown away while it is not empty
tracks nothing any more (`tracks_nil_iff`).
-/

namespace Tracking

open List

variable {α κ : Type*} {key : α → κ} {live live' : κ → Prop} {table : List α}

/-- Every live resource is named once, and every name is that of a live resource. -/
structure Tracks (key : α → κ) (live : κ → Prop) (table : List α) : Prop where
  nodup : (table.map key).Nodup
  named : ∀ k, live k ↔ k ∈ table.map key

lemma tracks_nil_iff : Tracks key live [] ↔ ∀ k, ¬live k :=
  ⟨fun h k hk => absurd ((h.named k).mp hk) (by simp), fun h => ⟨by simp, fun k => by simp [h k]⟩⟩

namespace Tracks

variable (h : Tracks key live table)
include h

lemma congr (hlive : ∀ k, live' k ↔ live k) : Tracks key live' table :=
  ⟨h.nodup, fun k => (hlive k).trans (h.named k)⟩

lemma enter (a : α) (hnew : ¬live (key a))
    (hlive : ∀ k, live' k ↔ live k ∨ k = key a) : Tracks key live' (table ++ [a]) := by
  have habsent : key a ∉ table.map key := fun hmem => hnew ((h.named _).mpr hmem)
  refine ⟨?_, fun k => ?_⟩
  · rw [map_append, nodup_append]
    refine ⟨h.nodup, by simp, fun k hk k' hk' => ?_⟩
    have hkey : k' = key a := by simpa using hk'
    intro heq
    exact habsent (hkey ▸ heq ▸ hk)
  · rw [hlive, h.named]
    simp

lemma strike (keep : α → Bool)
    (hlive : ∀ k, live' k ↔ live k ∧ k ∉ (table.filter fun a => !keep a).map key) :
    Tracks key live' (table.filter keep) := by
  refine ⟨h.nodup.sublist (filter_sublist.map key), fun k => ?_⟩
  rw [hlive, h.named]
  constructor
  · rintro ⟨hmem, hkept⟩
    obtain ⟨a, ha, rfl⟩ := mem_map.mp hmem
    refine mem_map.mpr ⟨a, mem_filter.mpr ⟨ha, ?_⟩, rfl⟩
    by_contra hgone
    exact hkept (mem_map.mpr ⟨a, mem_filter.mpr ⟨ha, by simpa using hgone⟩, rfl⟩)
  · intro hmem
    obtain ⟨a, ha, rfl⟩ := mem_map.mp hmem
    obtain ⟨hin, hkeep⟩ := mem_filter.mp ha
    refine ⟨mem_map.mpr ⟨a, hin, rfl⟩, fun hgone => ?_⟩
    obtain ⟨b, hb, hkey⟩ := mem_map.mp hgone
    obtain ⟨hbin, hbgone⟩ := mem_filter.mp hb
    -- the names are distinct, so the entry that goes is the one that stays
    obtain rfl := inj_on_of_nodup_map h.nodup hbin hin hkey
    simp [hkeep] at hbgone

lemma map (f : α → α) (hkey : ∀ a, key (f a) = key a) : Tracks key live (table.map f) := by
  have hsame : (table.map f).map key = table.map key := by
    rw [map_map]
    exact map_congr_left fun a _ => hkey a
  exact ⟨hsame ▸ h.nodup, fun k => hsame ▸ h.named k⟩

lemma count_eq_one [DecidableEq κ] {k : κ} (hk : live k) : (table.map key).count k = 1 :=
  count_eq_one_of_mem h.nodup ((h.named k).mp hk)

end Tracks

end Tracking
