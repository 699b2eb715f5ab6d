/-
Lists of keyed entries in which each key stands once: a look-up finds a key's entry exactly when
the entry is in the list, and every way to drop entries shows in look-ups one key at a time.
-/
import Mathlib.Tactic

namespace TwoTier

variable {β : Type}

theorem lookup_eq_some_iff_mem {l : List (String × β)} (h : (l.map Prod.fst).Nodup) {k : String} {b : β} :
    l.lookup k = some b ↔ (k, b) ∈ l := by
  rw [List.lookup_eq_some_iff]
  constructor
  · rintro ⟨l₁, l₂, rfl, -⟩
    exact List.mem_append_right _ (List.mem_cons_self ..)
  · intro hmem
    obtain ⟨l₁, l₂, rfl⟩ := List.append_of_mem hmem
    refine ⟨l₁, l₂, rfl, fun p hp => ?_⟩
    rw [List.map_append, List.map_cons, List.nodup_append] at h
    have := h.2.2 p.1 (List.mem_map_of_mem hp) k (List.mem_cons_self ..)
    exact bne_iff_ne.2 this.symm

/-- Entries that are filtered out are found no longer. -/
theorem lookup_filter {l : List (String × β)} (h : (l.map Prod.fst).Nodup) (p : String × β → Bool) (k : String) :
    (l.filter p).lookup k = (l.lookup k).filter fun b => p (k, b) := by
  ext b
  rw [lookup_eq_some_iff_mem (h.sublist (List.filter_sublist.map _)), Option.filter_eq_some_iff,
    lookup_eq_some_iff_mem h, List.mem_filter]

theorem lookup_without {l : List (String × β)} (h : (l.map Prod.fst).Nodup) (key k : String) :
    (l.filter fun e => e.1 != key).lookup k = if k = key then none else l.lookup k := by
  rw [lookup_filter h]
  split
  · rename_i hk; subst hk; cases l.lookup k <;> simp [Option.filter]
  · rename_i hk; cases l.lookup k <;> simp [Option.filter, hk]

/-- The last entry may go; all others are found as before. -/
theorem lookup_dropLast {l : List (String × β)} (h : (l.map Prod.fst).Nodup) (k : String) :
    l.dropLast.lookup k = l.lookup k ∨ l.dropLast.lookup k = none := by
  cases hd : l.dropLast.lookup k with
  | none => exact Or.inr rfl
  | some b =>
    have hsub := List.dropLast_sublist l
    rw [lookup_eq_some_iff_mem (h.sublist (hsub.map _))] at hd
    exact Or.inl ((lookup_eq_some_iff_mem h).2 (hsub.subset hd)).symm

end TwoTier
