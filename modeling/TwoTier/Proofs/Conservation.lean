/-
Conservation of entries. What is written into the local tier is resident until it leaves, and it leaves once: it is
deleted, evicted, dropped for being expired, overwritten or cleared. The tier counts the writes and the first three
ways out, so what these counts leave open is what was overwritten or cleared. Reads are counted as hits or misses.
-/
import TwoTier.Proofs.Lru.Departures

namespace TwoTier.Lru

variable {α : Type}

/-- The books of a tier with room for `n` entries, new when the acts began. -/
structure Conserved (n : Nat) (start : Timed α) (acts : List (Act α)) (c : Lru α) : Prop where
  /-- Every read is a hit or a miss. -/
  reads : c.counts.hits + c.counts.misses = acts.countP Act.isGet
  writes : c.counts.sets = acts.countP Act.isSet
  /-- The counts add up, with what was overwritten or cleared. -/
  entries : c.counts.sets = c.size + c.counts.deletes + c.counts.evictions + c.counts.expirations +
    start.total Timed.overwrites acts + start.total Timed.clears acts
  /-- What was written is resident or has left, each entry once. -/
  once : (start.arrivals acts).Perm (c.entries ++ (start.departures acts).map Prod.snd)
  deleted : c.counts.deletes = (start.departures acts).countP (·.1 = .deleted)
  evicted : c.counts.evictions = (start.departures acts).countP (·.1 = .evicted)
  expired : c.counts.expirations = (start.departures acts).countP (·.1 = .expired)
  room : c.size ≤ n
  /-- The figures show all this, as long as no count passes 64 bits; those of the departures are never more than the
  writes. -/
  shown : c.counts.hits ≤ maxNat64 → c.counts.misses ≤ maxNat64 → c.counts.sets ≤ maxNat64 →
    c.stats = ⟨c.size, n, c.counts.hits, c.counts.misses, c.counts.sets, c.counts.deletes, c.counts.evictions,
      c.counts.expirations⟩

/-- Conservation of entries. Whatever happens to a local tier, every entry that was written is accounted for, and once. -/
theorem conserved_run {n ttl : Nat} {c : Lru α} (h : make n ttl = .ok c) (now : Nat) (acts : List (Act α)) :
    Conserved n (Timed.mk now c) acts ((Timed.mk now c).run acts).lru := by
  obtain ⟨hcapacity, -, hempty, hzero⟩ := make_eq h
  obtain ⟨hits, misses, hreads, hcounts⟩ := Timed.counts_run (Timed.mk now c) acts
  have honce := Timed.balance_run (Timed.mk now c) acts
  have hlen := Timed.length_run (Timed.mk now c) acts
  have hcap := Timed.capacity_run (Timed.mk now c) acts
  have hoverwrites := Timed.total_eq Timed.overwrites_eq (Timed.mk now c) acts
  have hclears := Timed.total_eq Timed.clears_eq (Timed.mk now c) acts
  change ((Timed.mk now c).arrivals acts ++ c.entries).Perm _ at honce
  change _ = c.counts.plus _ at hcounts
  change _ + c.entries.length = _ at hlen
  rw [hempty, List.append_nil] at honce
  rw [hzero, LruCounts.mk_plus_mk] at hcounts
  simp only [Nat.zero_add] at hcounts
  generalize (Timed.mk now c).run acts = t at *
  have hhits : t.lru.counts.hits = hits := congrArg LruCounts.hits hcounts
  have hmisses : t.lru.counts.misses = misses := congrArg LruCounts.misses hcounts
  have hwrites : t.lru.counts.sets = acts.countP Act.isSet := congrArg LruCounts.sets hcounts
  have hdeleted := congrArg LruCounts.deletes hcounts
  have hevicted := congrArg LruCounts.evictions hcounts
  have hexpired := congrArg LruCounts.expirations hcounts
  dsimp only at hdeleted hevicted hexpired
  rw [hempty, Exit.length_eq, ← hwrites, ← hdeleted, ← hevicted, ← hexpired, ← hoverwrites, ← hclears] at hlen
  have hentries : t.lru.counts.sets = t.lru.size + t.lru.counts.deletes + t.lru.counts.evictions +
      t.lru.counts.expirations + (Timed.mk now c).total Timed.overwrites acts +
      (Timed.mk now c).total Timed.clears acts := by
    rw [List.length_nil] at hlen
    omega
  refine ⟨?_, hwrites, hentries, honce, hdeleted, hevicted, hexpired, ?_, ?_⟩
  · rw [hhits, hmisses, hreads]
  · exact hcapacity ▸ hcap ▸ t.lru.size_le
  · intro hh hm hs
    unfold maxNat64 at hh hm hs
    unfold stats
    rw [hcap, show (Timed.mk now c).lru.capacity = n from hcapacity, shown_of_lt (by omega), shown_of_lt (by omega),
      shown_of_lt (by omega), shown_of_lt (by omega), shown_of_lt (by omega), shown_of_lt (by omega)]

/-- In a tier with two places, one of the entries written is resident and each of the others has left in a way of its own. -/
theorem conserved_run_of_all_ways : ∃ c : Lru Nat, make 2 9 = .ok c ∧
    let acts : List (Act Nat) := [.set "a" 1 none, .set "b" 2 none, .set "a" 3 none, .set "c" 4 (some 1), .advance 1,
      .get "c", .delete "a", .set "a" 5 none, .apply ⟨"x", .pattern "*"⟩ "y", .set "a" 6 none, .get "a"]
    ((Timed.mk 0 c).departures acts).map (fun d => (d.1, d.2.2.value)) =
      [(.overwritten, 1), (.evicted, 2), (.expired, 4), (.deleted, 3), (.cleared, 5)] ∧
    ((Timed.mk 0 c).run acts).lru.stats = ⟨1, 2, 1, 1, 6, 1, 1, 1⟩ ∧
    Conserved 2 (Timed.mk 0 c) acts ((Timed.mk 0 c).run acts).lru := by
  have hc : make 2 9 = .ok ({ capacity := 2, defaultTtl := 9 } : Lru Nat) := rfl
  exact ⟨_, hc, by decide, by decide, conserved_run hc 0 _⟩

end TwoTier.Lru
