/-
What the local tier keeps, and for how long. A read is answered with what the latest write of its key has left,
as long as that write is not past its deadline and nothing has removed the key. There is room for as many keys
as the capacity says, and a write of another key into a full tier drives out the one that was not touched for
longest. So a value that should still be there is there, unless as many other keys were touched as there are
places.
-/
import TwoTier.Proofs.Lru.Recency

namespace TwoTier.Lru

variable {α : Type} {start s : Timed α} {acts : List (Act α)} {a : Act α} {key k : String} {e : Entry α}

/-- A tier with room for `n` keys, in the state `s` that the acts have brought it into. -/
structure Keeps (n : Nat) (start : Timed α) (acts : List (Act α)) (s : Timed α) : Prop where
  /-- A read is answered with what the latest write has left, before its deadline. -/
  read : ∀ k v, (s.lru.get s.now k).1 = some v → ∃ e, Stands start acts k e ∧ e.value = v ∧ s.now < e.deadline
  test : ∀ k, s.lru.contains s.now k = true → ∃ e, Stands start acts k e ∧ s.now < e.deadline
  distinct : (s.lru.entries.map Prod.fst).Nodup
  bounded : s.lru.size ≤ n
  /-- What lives is dropped by a removal, or by a write of another key when the tier is full. -/
  spares : ∀ a k e, s.lru.find? k = some e → s.now < e.deadline → (s.act a).lru.find? k = none →
    a.removes k = true ∨ ∃ key v ttl, a = .set key v ttl ∧ s.lru.find? key = none ∧ s.lru.size = n
  /-- Such a write drops the key that was not touched for longest, and no other. -/
  evicts : ∀ key v ttl, s.lru.find? key = none → s.lru.size = n → (s.lru.set s.now key v ttl).1 = true ∧
    ∃ victim, (s.lru.find? victim).isSome ∧ victim ∈ start.touches acts ∧
      (∀ k, (s.lru.find? k).isSome → k ≠ victim → k ∈ since (start.touches acts) victim) ∧
      ∀ k, k ≠ key → (s.lru.set s.now key v ttl).2.find? k = if k = victim then none else s.lru.find? k
  /-- What the latest write has left is read until its deadline, if fewer than `n` other keys were touched. -/
  readable : ∀ k e, Stands start acts k e → s.now < e.deadline →
    (since (start.touches acts) k).toFinset.card < n →
    (s.lru.get s.now k).1 = some e.value ∧ s.lru.contains s.now k = true

theorem contains_iff {c : Lru α} {now : Nat} : c.contains now k = true ↔ ∃ e, c.find? k = some e ∧ now < e.deadline := by
  unfold contains
  cases c.find? k with
  | none => simp
  | some e => simp [Entry.isExpired, TwoTier.isExpired]

theorem isSome_find? {c : Lru α} : (c.find? k).isSome ↔ ∃ e, (k, e) ∈ c.entries := by
  rw [Option.isSome_iff_exists]
  exact exists_congr fun e => lookup_eq_some_iff_mem c.keys_nodup

theorem exists_last {c : Lru α} (hfull : c.capacity ≤ c.size) : ∃ kept last, c.entries = kept ++ [last] := by
  rcases List.eq_nil_or_concat' c.entries with hnil | hlast
  · have hpos := c.capacity_pos
    rw [size, hnil, List.length_nil] at hfull
    omega
  · exact hlast

/-- A write into a full tier drives out its last entry. -/
theorem find?_set_full {c : Lru α} {kept : List (String × Entry α)} {last : String × Entry α} {now : Nat} {v : α}
    {ttl : Option Nat} (hnone : c.find? key = none) (hfull : c.capacity ≤ c.size) (he : c.entries = kept ++ [last])
    (hk : k ≠ key) : (c.set now key v ttl).2.find? k = if k = last.1 then none else c.find? k := by
  -- with the last entry gone there is room for the new one
  have hset : (c.set now key v ttl).2.entries = (key, .written now v (ttl.getD c.defaultTtl)) :: kept := by
    have hlen : kept.length = c.capacity - 1 := by
      have hsize := c.size_le
      rw [size, he, List.length_append, List.length_singleton] at hfull
      rw [he, List.length_append, List.length_singleton] at hsize
      omega
    rw [entries_set, without_eq_self hnone, he, ← hlen, List.take_left]
  have hkeys := c.keys_nodup
  rw [he, List.map_append, List.nodup_append] at hkeys
  unfold Lru.find?
  rw [hset, List.lookup_cons, beq_eq_false_iff_ne.2 hk, he, List.lookup_append]
  split_ifs with hlast
  · rw [List.lookup_eq_none_iff]
    intro x hx
    have hne : x.1 ≠ last.1 := hkeys.2.2 x.1 (List.mem_map_of_mem hx) last.1 (by simp)
    simpa [hlast] using hne.symm
  · obtain ⟨j, w⟩ := last
    rw [List.lookup_cons, beq_eq_false_iff_ne.2 hlast, List.lookup_nil, Option.or_none]

theorem find?_act_of_sets (h : a.sets k = true) : (s.act a).lru.find? k ≠ none := by
  cases a with
  | set key v ttl =>
    cases beq_iff_eq.1 h
    simp [Timed.act, find?_set_self]
  | _ => cases h

/-- What is known of a tier from what has happened to it is what it owes. -/
theorem Traced.keeps (h : Traced start acts) : Keeps start.lru.capacity start acts (start.run acts) where
  read k v hv := by
    rw [get_fst, live?_eq_some_iff] at hv
    obtain ⟨e, he, hval, hlive⟩ := hv
    exact ⟨e, h.stands k e he, hval, hlive⟩
  test k hk := by
    obtain ⟨e, he, hlive⟩ := contains_iff.1 hk
    exact ⟨e, h.stands k e he, hlive⟩
  distinct := (start.run acts).lru.keys_nodup
  bounded := h.capacity ▸ (start.run acts).lru.size_le
  spares a k e he hlive hgone := by
    cases hr : a.removes k with
    | true => exact Or.inl rfl
    | false =>
      cases hs : a.sets k with
      | true => exact absurd hgone (find?_act_of_sets hs)
      | false =>
        rcases find?_act he hs hr with hin | hexp | ⟨key, v, ttl, kept, rfl, hnone, hsize, -⟩
        · rw [hin] at hgone
          cases hgone
        · exact absurd ((isExpired_iff ..).1 hexp) (Nat.not_le.2 hlive)
        · exact Or.inr ⟨key, v, ttl, rfl, hnone, hsize.trans h.capacity⟩
  evicts key v ttl hnone hsize := by
    have hfull : (start.run acts).lru.capacity ≤ (start.run acts).lru.size := by rw [h.capacity, hsize]
    obtain ⟨kept, last, he⟩ := exists_last hfull
    have hordered := h.ordered
    rw [he] at hordered
    refine ⟨by rw [set, dif_pos ⟨hnone, hfull⟩], last.1, ?_, hordered.touched last (by simp), ?_, ?_⟩
    · exact isSome_find?.2 ⟨last.2, by simp [he]⟩
    · intro k hk hne
      obtain ⟨e, hmem⟩ := isSome_find?.1 hk
      rw [he] at hmem
      rcases List.mem_append.1 hmem with hkept | hlast
      · exact hordered.since_last _ hkept
      · exact absurd (congrArg Prod.fst (List.mem_singleton.1 hlast)) hne
    · intro k hk
      exact find?_set_full hnone hfull he hk
  readable k e hstands hlive hfew := by
    rcases h.kept k e hstands with he | hexp | hmany
    · exact ⟨by rw [get_fst, live?_eq_some_iff]; exact ⟨e, he, rfl, hlive⟩, contains_iff.2 ⟨e, he, hlive⟩⟩
    · exact absurd ((isExpired_iff ..).1 hexp) (Nat.not_le.2 hlive)
    · exact absurd hfew (Nat.not_lt.2 hmany)

/-- Whatever happens to a local tier, it keeps what it owes to its past. -/
theorem keeps_run {n ttl : Nat} {c : Lru α} (h : make n ttl = .ok c) (now : Nat) (acts : List (Act α)) :
    Keeps n (Timed.mk now c) acts ((Timed.mk now c).run acts) := by
  obtain ⟨hcapacity, -, hempty, -⟩ := make_eq h
  have htraced : Traced (Timed.mk now c) acts := Traced.run hempty acts
  exact hcapacity ▸ htraced.keeps

/-- In a tier with two places, the key that was read last stays, and the other makes room. -/
theorem keeps_run_of_two : ∃ c : Lru Nat, make 2 9 = .ok c ∧
    Keeps 2 (Timed.mk 0 c) [.set "a" 1 none, .set "b" 2 none, .get "a"]
      ((Timed.mk 0 c).run [.set "a" 1 none, .set "b" 2 none, .get "a"]) ∧
    since ((Timed.mk 0 c).touches [.set "a" 1 none, .set "b" 2 none, .get "a"]) "b" = ["a"] ∧
    ((Timed.mk 0 c).run [.set "a" 1 none, .set "b" 2 none, .get "a", .set "c" 3 none]).lru.find? "b" = none ∧
    ((Timed.mk 0 c).run [.set "a" 1 none, .set "b" 2 none, .get "a", .set "c" 3 none]).lru.find? "a" = some ⟨1, 9⟩ := by
  have hc : make 2 9 = .ok ({ capacity := 2, defaultTtl := 9 } : Lru Nat) := rfl
  exact ⟨_, hc, keeps_run hc 0 _, by decide, by decide, by decide⟩

end TwoTier.Lru
