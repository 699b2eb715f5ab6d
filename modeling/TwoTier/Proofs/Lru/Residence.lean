/-
What every operation of the local tier does to the entries, one key at a time: a read drops an
expired entry and nothing else, a write replaces the entry of its key and may drive out another one,
a purge drops what is expired, a message of another instance deletes its key or clears the tier. The capacity
and the default time to live never change.
-/
import TwoTier.Invalidation
import TwoTier.Proofs.Keyed

namespace TwoTier

/-- Whether a message makes the instance `self` drop a key. -/
def Message.drops (m : Message) (self k : String) : Bool :=
  m.origin != self && match m.body with
    | .key key => key == k
    | .pattern _ => true

namespace Lru

variable {α : Type} {c : Lru α} {now : Nat} {key k : String} {v : α} {e : Entry α} {ttl : Option Nat}

/-- What a key holds unless it is expired. -/
def live? (c : Lru α) (now : Nat) (key : String) : Option α :=
  ((c.find? key).filter fun e => !e.isExpired now).map Entry.value

theorem live?_eq_some_iff : c.live? now key = some v ↔ ∃ e, c.find? key = some e ∧ e.value = v ∧ now < e.deadline := by
  simp only [live?, Option.map_eq_some_iff, Option.filter_eq_some_iff, Entry.isExpired, isExpired, Bool.not_eq_true',
    decide_eq_false_iff_not, Nat.not_le]
  constructor
  · rintro ⟨e, ⟨hf, hd⟩, rfl⟩; exact ⟨e, hf, rfl, hd⟩
  · rintro ⟨e, hf, rfl, hd⟩; exact ⟨e, ⟨hf, hd⟩, rfl⟩

theorem find?_keep (p : String × Entry α → Bool) : (c.keep p).find? k = (c.find? k).filter fun e => p (k, e) :=
  lookup_filter c.keys_nodup p k

/-! ## Reads -/

theorem get_fst (c : Lru α) (now : Nat) (key : String) : (c.get now key).1 = c.live? now key := by
  unfold get live?
  split
  · rename_i h
    show none = _
    rw [h]; rfl
  · rename_i e h
    split <;> rename_i he
    · show none = _
      rw [h, Option.filter_some, he]; rfl
    · show some e.value = _
      rw [h, Option.filter_some, Bool.not_eq_true] at *
      rw [he]; rfl

/-- A read drops its key if that is expired. -/
theorem find?_get (c : Lru α) (now : Nat) (key k : String) :
    (c.get now key).2.find? k = if k = key then (c.find? key).filter (!·.isExpired now) else c.find? k := by
  unfold get
  split
  · rename_i h
    show c.find? k = _
    split
    · rename_i hk; rw [hk, h]; rfl
    · rfl
  · rename_i e h
    split <;> rename_i he
    · show (c.keep _).find? k = _
      rw [find?_keep]
      split
      · rename_i hk; subst hk; simp [h, he, Option.filter_some]
      · rename_i hk; cases c.find? k <;> simp [Option.filter, hk]
    · show ((key, e) :: without key c.entries).lookup k = _
      rw [List.lookup_cons]
      split
      · rename_i hk; rw [beq_iff_eq] at hk; subst hk; simp [h, he, Option.filter_some]
      · rename_i hk
        rw [beq_eq_false_iff_ne] at hk
        rw [without, lookup_without c.keys_nodup, if_neg hk, if_neg hk]; rfl

/-- A read brings nothing. -/
theorem find?_of_find?_get (h : (c.get now key).2.find? k = some e) : c.find? k = some e := by
  rw [find?_get] at h
  split at h
  · rename_i hk; exact hk ▸ (Option.filter_eq_some_iff.1 h).1
  · exact h

@[simp] theorem get_defaultTtl : (c.get now key).2.defaultTtl = c.defaultTtl := by
  unfold get; split
  · rfl
  · split <;> rfl

/-! ## Writes -/

/-- The entry of a write. -/
theorem find?_set_self (c : Lru α) (now : Nat) (key : String) (v : α) (ttl : Option Nat) :
    (c.set now key v ttl).2.find? key = some (.written now v (ttl.getD c.defaultTtl)) := by
  dsimp only [set]
  split <;> exact List.lookup_cons_self

/-- Any other entry stays as it is, or made room. -/
theorem find?_set_of_ne (h : k ≠ key) (c : Lru α) (now : Nat) (v : α) (ttl : Option Nat) :
    (c.set now key v ttl).2.find? k = c.find? k ∨ (c.set now key v ttl).2.find? k = none := by
  have hk : (k == key) = false := beq_eq_false_iff_ne.2 h
  dsimp only [set]
  split
  · show List.lookup k ((key, _) :: c.entries.dropLast) = _ ∨ List.lookup k ((key, _) :: c.entries.dropLast) = _
    rw [List.lookup_cons, hk]
    exact lookup_dropLast c.keys_nodup k
  · left
    show List.lookup k ((key, _) :: without key c.entries) = _
    rw [List.lookup_cons, hk, without, lookup_without c.keys_nodup, if_neg h]
    rfl

/-- Whatever is resident after a write is the entry written or was resident before. -/
theorem find?_of_find?_set (h : (c.set now key v ttl).2.find? k = some e) :
    (k = key ∧ e = .written now v (ttl.getD c.defaultTtl)) ∨ (k ≠ key ∧ c.find? k = some e) := by
  by_cases hk : k = key
  · subst hk
    rw [find?_set_self] at h
    exact Or.inl ⟨rfl, (Option.some.inj h).symm⟩
  · rcases find?_set_of_ne hk c now v ttl with h' | h' <;> rw [h'] at h
    · exact Or.inr ⟨hk, h⟩
    · cases h

@[simp] theorem set_defaultTtl : (c.set now key v ttl).2.defaultTtl = c.defaultTtl := by
  dsimp only [set]; split <;> rfl

/-- A value just written with the default time to live is live. -/
theorem live?_set_default (c : Lru α) (now : Nat) (key : String) (v : α) :
    (c.set now key v (some c.defaultTtl)).2.live? now key = some v := by
  rw [live?_eq_some_iff]
  refine ⟨_, find?_set_self .., rfl, ?_⟩
  have := c.defaultTtl_pos
  show now < deadline now c.defaultTtl
  unfold deadline maxTtl seconds perSecond
  omega

/-! ## Removal -/

theorem find?_delete (c : Lru α) (key k : String) :
    (c.delete key).2.find? k = if k = key then none else c.find? k := by
  unfold delete
  split
  · exact lookup_without c.keys_nodup key k
  · rename_i h
    split
    · rename_i hk; subst hk; simpa using h
    · rfl

theorem find?_of_find?_delete (h : (c.delete key).2.find? k = some e) : c.find? k = some e := by
  rw [find?_delete] at h
  split at h
  · cases h
  · exact h

@[simp] theorem delete_defaultTtl : (c.delete key).2.defaultTtl = c.defaultTtl := by
  unfold delete; split <;> rfl

@[simp] theorem find?_clear : c.clear.find? k = none := rfl

@[simp] theorem clear_defaultTtl : c.clear.defaultTtl = c.defaultTtl := rfl

theorem find?_purge (c : Lru α) (now : Nat) (k : String) :
    (c.purge now).2.find? k = (c.find? k).filter (!·.isExpired now) := find?_keep _

theorem find?_of_find?_purge (h : (c.purge now).2.find? k = some e) : c.find? k = some e := by
  rw [find?_purge, Option.filter_eq_some_iff] at h
  exact h.1

@[simp] theorem purge_defaultTtl : (c.purge now).2.defaultTtl = c.defaultTtl := rfl

/-- A message is a deletion, a clearing or nothing. -/
theorem apply_cases (m : Message) (self : String) (c : Lru α) :
    ((m.apply self c).2 = c ∧ ∀ k, m.drops self k = false) ∨
    (∃ key, (m.apply self c).2 = (c.delete key).2 ∧ ∀ k, m.drops self k = (key == k)) ∨
    ((m.apply self c).2 = c.clear ∧ ∀ k, m.drops self k = true) := by
  obtain ⟨origin, body⟩ := m
  unfold Message.apply Message.drops
  by_cases h : origin = self
  · left
    simp [h]
  · right
    cases body with
    | key key => exact Or.inl ⟨key, by simp [h]⟩
    | pattern p => exact Or.inr (by simp [h])

end Lru

end TwoTier
