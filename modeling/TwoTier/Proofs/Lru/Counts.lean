/-
What each operation of the local tier adds to its counts. A read is a hit or a miss, a write is a set and perhaps
an eviction, a deletion counts if there was something to delete, to clear counts nothing, and what is dropped for
being past its deadline is an expiration.
-/
import TwoTier.Lru

namespace TwoTier

/-- Counts taken together. -/
def LruCounts.plus (a b : LruCounts) : LruCounts :=
  ⟨a.hits + b.hits, a.misses + b.misses, a.sets + b.sets, a.deletes + b.deletes, a.evictions + b.evictions,
    a.expirations + b.expirations⟩

@[simp] theorem LruCounts.mk_plus_mk (h m s d e x h' m' s' d' e' x' : Nat) :
    plus ⟨h, m, s, d, e, x⟩ ⟨h', m', s', d', e', x'⟩ = ⟨h + h', m + m', s + s', d + d', e + e', x + x'⟩ := rfl

namespace Lru

variable {α : Type} {c c' : Lru α} {now : Nat} {key : String}

/-- A read that brings a value is a hit. -/
theorem counts_get_some {v : α} (h : c.get now key = (some v, c')) : c'.counts = c.counts.plus { hits := 1 } := by
  unfold get at h
  split at h
  · cases h
  · split at h <;> cases h
    rfl

/-- A read that brings nothing is a miss, and may have found the key expired. -/
theorem counts_get_none (h : c.get now key = (none, c')) :
    ∃ expired : Bool, c'.counts = c.counts.plus { misses := 1, expirations := expired.toNat } := by
  unfold get at h
  split at h
  · cases h
    exact ⟨false, rfl⟩
  · split at h <;> cases h
    exact ⟨true, rfl⟩

theorem counts_set (c : Lru α) (now : Nat) (key : String) (v : α) (ttl : Option Nat) :
    (c.set now key v ttl).2.counts = c.counts.plus { sets := 1, evictions := (c.set now key v ttl).1.toNat } := by
  dsimp only [set]
  split <;> rfl

theorem counts_delete (c : Lru α) (key : String) :
    (c.delete key).2.counts = c.counts.plus { deletes := (c.delete key).1.toNat } := by
  unfold delete
  split <;> rfl

theorem counts_purge (c : Lru α) (now : Nat) :
    (c.purge now).2.counts = c.counts.plus { expirations := (c.purge now).1 } := rfl

end Lru

end TwoTier
