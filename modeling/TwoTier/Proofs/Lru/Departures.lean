/-
How entries leave the local tier. What an act writes is resident afterwards, and what was resident stays or leaves:
it is deleted, evicted, dropped for being expired, overwritten or cleared. Nothing gets lost on the way and nothing
is there twice, neither in one act nor in the course of several; and the counts tell how many entries were deleted,
evicted and expired.
-/
import TwoTier.Proofs.Lru.Acts
import TwoTier.Proofs.Lru.Counts

namespace TwoTier.Lru

variable {α : Type}

/-! ## Ways out -/

/-- How an entry leaves. -/
inductive Exit where
  | deleted
  | evicted
  | expired
  | overwritten
  | cleared
deriving Repr, DecidableEq

/-- Every departure is one of the five. -/
theorem Exit.length_eq {β : Type} (l : List (Exit × β)) :
    l.length = l.countP (·.1 = deleted) + l.countP (·.1 = evicted) + l.countP (·.1 = expired) +
      l.countP (·.1 = overwritten) + l.countP (·.1 = cleared) := by
  induction l with
  | nil => rfl
  | cons x l ih =>
    obtain ⟨e, b⟩ := x
    rw [List.length_cons, ih]
    cases e <;> simp <;> omega

namespace Act

def isGet : Act α → Bool
  | get _ => true
  | _ => false

def isSet : Act α → Bool
  | set _ _ _ => true
  | _ => false

end Act

namespace Timed

/-- The entry that an act writes. -/
def arrival? (s : Timed α) : Act α → Option (String × Entry α)
  | .set key v ttl => some (key, .written s.now v (ttl.getD s.lru.defaultTtl))
  | _ => none

/-- The entries that leave in an act: those whose key is written anew, and those whose key is resident no longer. -/
def leaving (s : Timed α) (a : Act α) : List (String × Entry α) :=
  s.lru.entries.filter fun x => a.sets x.1 || ((s.act a).lru.find? x.1).isNone

/-- How they leave. A write that finds its key resident replaces the entry, and any other can only drive one out. -/
def wayOut (s : Timed α) : Act α → Exit
  | .set key _ _ => if (s.lru.find? key).isSome then .overwritten else .evicted
  | .delete _ => .deleted
  | .clear => .cleared
  | .apply m _ =>
    match m.body with
    | .key _ => .deleted
    | .pattern _ => .cleared
  | _ => .expired

/-- All entries written in the course of several acts. -/
def arrivals (s : Timed α) : List (Act α) → List (String × Entry α)
  | [] => []
  | a :: acts => (s.arrival? a).toList ++ (s.act a).arrivals acts

/-- All entries that have left, and how. -/
def departures (s : Timed α) : List (Act α) → List (Exit × String × Entry α)
  | [] => []
  | a :: acts => (s.leaving a).map (Prod.mk (s.wayOut a)) ++ (s.act a).departures acts

/-- A quantity of each act, taken together. -/
def total (f : Timed α → Act α → Nat) (s : Timed α) : List (Act α) → Nat
  | [] => 0
  | a :: acts => f s a + (s.act a).total f acts

/-- Whether an act writes a key that is resident, expired or not. -/
def overwrites (s : Timed α) : Act α → Nat
  | .set key _ _ => (s.lru.find? key).isSome.toNat
  | _ => 0

/-- How many entries are resident when an act clears the tier. -/
def clears (s : Timed α) : Act α → Nat
  | .clear => s.lru.size
  | .apply ⟨origin, .pattern _⟩ self => if origin = self then 0 else s.lru.size
  | _ => 0

end Timed

/-! ## One act -/

variable {s : Timed α} {a : Act α}

theorem entries_nodup (c : Lru α) : c.entries.Nodup := c.keys_nodup.of_map _

/-- Of each key there is at most one entry. -/
theorem length_without (c : Lru α) (key : String) :
    (without key c.entries).length + (c.find? key).isSome.toNat = c.size := by
  cases hf : c.find? key with
  | none => rw [without_eq_self hf]; rfl
  | some e =>
    -- the entry that is found splits the list, and its key is in neither part
    obtain ⟨before, behind, he, -⟩ := List.lookup_eq_some_iff.1 hf
    have hkeys := c.keys_nodup
    rw [he, List.map_append, List.map_cons, List.nodup_middle, List.nodup_cons] at hkeys
    have hwithout : without key c.entries = before ++ behind := by
      rw [he, without, List.filter_append, List.filter_cons_of_neg (by simp), ← List.filter_append, List.filter_eq_self]
      intro x hx
      refine bne_iff_ne.2 fun hk => hkeys.1 ?_
      rw [← List.map_append]
      exact List.mem_map.2 ⟨x, hx, hk⟩
    rw [hwithout, size, he]
    simp
    omega

/-! ### How many are resident afterwards -/

section Sizes

variable (c : Lru α) (now : Nat) (key : String)

theorem size_get : (c.get now key).2.size + (c.get now key).2.counts.expirations = c.size + c.counts.expirations := by
  have hw := c.length_without key
  unfold get
  split <;> rename_i hf
  · rfl
  · rw [hf, Option.isSome_some, Bool.toNat_true] at hw
    split
    · show (without key c.entries).length + (c.counts.expirations + 1) = _
      omega
    · show ((key, _) :: without key c.entries).length + c.counts.expirations = _
      rw [List.length_cons]
      omega

theorem size_set (v : α) (ttl : Option Nat) : (c.set now key v ttl).2.size + (c.set now key v ttl).1.toNat +
    (c.find? key).isSome.toNat = c.size + 1 := by
  have hw := c.length_without key
  have hsize := c.size_le
  have hpos := c.capacity_pos
  -- the new entry stands in front of what is kept of the others, and what is cut off is at most one
  have hset : (c.set now key v ttl).2.size = min (c.capacity - 1) (without key c.entries).length + 1 := by
    rw [size, entries_set, List.length_cons, List.length_take]
  have hfst : (c.set now key v ttl).1 = decide (c.find? key = none ∧ c.capacity ≤ c.size) := by
    dsimp only [set]
    split <;> rename_i h
    · exact (decide_eq_true h).symm
    · exact (decide_eq_false h).symm
  rw [hset, hfst]
  unfold size at *
  cases hf : c.find? key <;> rw [hf] at hw <;> simp at hw ⊢
  · by_cases hfull : c.capacity ≤ c.entries.length <;> simp [hfull] <;> omega
  · omega

theorem size_delete : (c.delete key).2.size + (c.delete key).1.toNat = c.size := by
  rw [← c.length_without key, size, entries_delete]
  unfold delete
  split <;> rename_i h <;> simp [h]

theorem size_purge : (c.purge now).2.size + (c.purge now).1 = c.size := by
  have h := List.length_eq_length_filter_add (l := c.entries) fun x => x.2.isExpired now
  exact (Nat.add_comm ..).trans h.symm

end Sizes

namespace Timed

/-- After an act the entry that it writes is resident, and otherwise only what was resident before. -/
theorem entries_act (s : Timed α) (a : Act α) : ∃ stayed, (s.act a).lru.entries = (s.arrival? a).toList ++ stayed ∧
    (∀ x ∈ stayed, x ∈ s.lru.entries) ∧ ∀ x ∈ stayed, a.sets x.1 = false := by
  -- only a write brings an entry
  have hnone : (∀ k, a.sets k = false) → s.arrival? a = none := by
    intro h
    cases a with
    | set key v ttl => exact absurd (h key) (by simp [Act.sets])
    | _ => rfl
  rcases act_cases s a with ⟨-, hsets, he⟩ | ⟨key, e, rfl, -, hf, he⟩ | ⟨key, v, ttl, rfl, he⟩
  · refine ⟨_, by rw [hnone hsets]; exact he, ?_, fun x _ => hsets x.1⟩
    exact fun x hx => (List.mem_filter.1 hx).1
  · refine ⟨_, he, ?_, fun _ _ => rfl⟩
    intro x hx
    rcases List.mem_cons.1 hx with rfl | hx
    · exact (lookup_eq_some_iff_mem s.lru.keys_nodup).1 hf
    · exact (mem_without.1 hx).1
  · refine ⟨_, he, ?_, ?_⟩
    · exact fun x hx => (mem_without.1 (List.mem_of_mem_take hx)).1
    · exact fun x hx => beq_eq_false_iff_ne.2 (mem_without.1 (List.mem_of_mem_take hx)).2.symm

/-- An entry whose key is not written and is resident after an act was there before it as it is. -/
theorem mem_stayed {stayed : List (String × Entry α)} (he : (s.act a).lru.entries = (s.arrival? a).toList ++ stayed)
    (hsub : ∀ x ∈ stayed, x ∈ s.lru.entries) {x : String × Entry α} (hx : x ∈ s.lru.entries) (hset : a.sets x.1 = false)
    (hresident : ((s.act a).lru.find? x.1).isSome) : x ∈ stayed := by
  obtain ⟨e, hfind⟩ := Option.isSome_iff_exists.1 hresident
  have hmem := (lookup_eq_some_iff_mem (s.act a).lru.keys_nodup).1 hfind
  rw [he, List.mem_append] at hmem
  rcases hmem with harrived | hstayed
  · -- what arrives is the entry of a key that is written
    cases a with
    | set key v ttl =>
      cases List.mem_singleton.1 harrived
      simp [Act.sets] at hset
    | _ => cases harrived
  · have hbefore := (lookup_eq_some_iff_mem s.lru.keys_nodup).2 (hsub _ hstayed)
    rw [(lookup_eq_some_iff_mem s.lru.keys_nodup).2 hx] at hbefore
    cases hbefore
    exact hstayed

/-- Nothing gets lost in an act, and nothing is there twice. -/
theorem balance_act (s : Timed α) (a : Act α) :
    ((s.arrival? a).toList ++ s.lru.entries).Perm ((s.act a).lru.entries ++ s.leaving a) := by
  obtain ⟨stayed, he, hsub, hsets⟩ := entries_act s a
  have hfind : ∀ x ∈ stayed, (s.act a).lru.find? x.1 = some x.2 := fun x hx =>
    (lookup_eq_some_iff_mem (s.act a).lru.keys_nodup).2 (he ▸ List.mem_append_right _ hx)
  -- no entry both stays and leaves, as what leaves is written anew or no longer resident
  have hnodup : (stayed ++ s.leaving a).Nodup := by
    rw [List.nodup_append]
    refine ⟨(List.nodup_append.1 (he ▸ (s.act a).lru.entries_nodup)).2.1, s.lru.entries_nodup.filter _, ?_⟩
    rintro x hx _ hy rfl
    have hleaves := (List.mem_filter.1 hy).2
    rw [hsets x hx, hfind x hx] at hleaves
    cases hleaves
  -- every entry does one of the two, and lists without duplicates need only have the same members
  have hsplit : s.lru.entries.Perm (stayed ++ s.leaving a) := by
    rw [List.perm_ext_iff_of_nodup s.lru.entries_nodup hnodup]
    intro x
    rw [List.mem_append, leaving, List.mem_filter]
    constructor
    · intro hx
      by_cases hleaves : (a.sets x.1 || ((s.act a).lru.find? x.1).isNone) = true
      · exact Or.inr ⟨hx, hleaves⟩
      · rw [Bool.not_eq_true, Bool.or_eq_false_iff, Option.isNone_eq_false_iff] at hleaves
        exact Or.inl (mem_stayed he hsub hx hleaves.1 hleaves.2)
    · rintro (hx | ⟨hx, -⟩)
      · exact hsub x hx
      · exact hx
  rw [he, List.append_assoc]
  exact hsplit.append_left _

theorem length_leaving (s : Timed α) (a : Act α) :
    (s.act a).lru.size + (s.leaving a).length = s.lru.size + a.isSet.toNat := by
  have h := (balance_act s a).length_eq
  rw [List.length_append, List.length_append] at h
  have harrival : (s.arrival? a).toList.length = a.isSet.toNat := by cases a <;> rfl
  rw [harrival] at h
  unfold size
  omega

/-- How many entries leave in an act in a certain way. -/
def gone (s : Timed α) (a : Act α) (e : Exit) : Nat := if s.wayOut a = e then (s.leaving a).length else 0

/-- An act that leaves the tier alone. -/
theorem counts_idle (hact : (s.act a).lru = s.lru) (hset : a.isSet = false) : (s.act a).lru.counts =
    s.lru.counts.plus ⟨0, 0, 0, s.gone a .deleted, s.gone a .evicted, s.gone a .expired⟩ := by
  have hlen := length_leaving s a
  rw [hact, hset] at hlen
  have hgone : (s.leaving a).length = 0 := Nat.left_eq_add.1 hlen.symm
  rw [hact]
  simp [gone, hgone, LruCounts.plus]

/-- An act that deletes a key, whoever asks for it. -/
theorem counts_removal (key : String) (hact : (s.act a).lru = (s.lru.delete key).2) (hout : s.wayOut a = .deleted)
    (hset : a.isSet = false) : (s.act a).lru.counts =
    s.lru.counts.plus ⟨0, 0, 0, s.gone a .deleted, s.gone a .evicted, s.gone a .expired⟩ := by
  have hlen := length_leaving s a
  rw [hact, hset, ← s.lru.size_delete key] at hlen
  have hgone : (s.leaving a).length = (s.lru.delete key).1.toNat := Nat.add_left_cancel hlen
  rw [hact, counts_delete]
  simp [gone, hout, hgone]

/-- What an act adds to the counts. -/
theorem counts_act (s : Timed α) (a : Act α) : ∃ hits misses, hits + misses = a.isGet.toNat ∧
    (s.act a).lru.counts = s.lru.counts.plus
      ⟨hits, misses, a.isSet.toNat, s.gone a .deleted, s.gone a .evicted, s.gone a .expired⟩ := by
  -- how many leave follows from the sizes, and each kind of act has one way for them to go
  have hlen := length_leaving s a
  cases a with
  | get key =>
    have hsize := s.lru.size_get s.now key
    change (s.lru.get s.now key).2.size + _ = s.lru.size + 0 at hlen
    rcases hg : s.lru.get s.now key with ⟨v, c'⟩
    rw [hg] at hlen hsize
    dsimp only at hlen
    cases v with
    | some v =>
      have hcounts := counts_get_some hg
      rw [hcounts] at hsize
      change c'.size + (s.lru.counts.expirations + 0) = _ at hsize
      have hgone : (s.leaving (.get key)).length = 0 := by omega
      refine ⟨1, 0, rfl, ?_⟩
      simp [act, hg, hcounts, gone, wayOut, hgone, Act.isSet]
    | none =>
      -- a miss drops its key if that was resident, which is then the one departure
      obtain ⟨expired, hcounts⟩ := counts_get_none hg
      rw [hcounts] at hsize
      change c'.size + (s.lru.counts.expirations + expired.toNat) = _ at hsize
      have hgone : (s.leaving (.get key)).length = expired.toNat := by omega
      refine ⟨0, 1, rfl, ?_⟩
      simp [act, hg, hcounts, gone, wayOut, hgone, Act.isSet]
  | set key v ttl =>
    have hsize := s.lru.size_set s.now key v ttl
    have hcounts : (s.act (.set key v ttl)).lru.counts = _ := s.lru.counts_set s.now key v ttl
    change (s.lru.set s.now key v ttl).2.size + _ = s.lru.size + 1 at hlen
    refine ⟨0, 0, rfl, ?_⟩
    rw [hcounts]
    cases hf : s.lru.find? key with
    | none =>
      rw [hf] at hsize
      -- nothing is overwritten, so what leaves was evicted
      have hgone : (s.leaving (.set key v ttl)).length = (s.lru.set s.now key v ttl).1.toNat := by
        simp at hsize
        omega
      simp [gone, wayOut, hf, hgone, Act.isSet]
    | some e =>
      -- the key has a place already, so nothing is evicted, and what leaves was overwritten
      have hkept : (s.lru.set s.now key v ttl).1 = false := by simp [set, hf]
      simp [gone, wayOut, hf, hkept, Act.isSet]
  | delete key => exact ⟨0, 0, rfl, counts_removal key rfl rfl rfl⟩
  | purge =>
    have hsize := s.lru.size_purge s.now
    have hcounts : (s.act .purge).lru.counts = _ := s.lru.counts_purge s.now
    change (s.lru.purge s.now).2.size + _ = s.lru.size + 0 at hlen
    have hgone : (s.leaving .purge).length = (s.lru.purge s.now).1 := by omega
    refine ⟨0, 0, rfl, ?_⟩
    rw [hcounts]
    simp [gone, wayOut, hgone, Act.isSet]
  | apply m self =>
    obtain ⟨origin, body⟩ := m
    refine ⟨0, 0, rfl, ?_⟩
    by_cases ho : origin = self
    · exact counts_idle (by simp [act, Message.apply, ho]) rfl
    · cases body with
      | key key => exact counts_removal key (by simp [act, Message.apply, ho]) rfl rfl
      | pattern p => simp [act, Message.apply, ho, gone, wayOut, clear, Act.isSet, LruCounts.plus]
  | clear => exact ⟨0, 0, rfl, rfl⟩
  | contains => exact ⟨0, 0, rfl, counts_idle rfl rfl⟩
  | advance => exact ⟨0, 0, rfl, counts_idle rfl rfl⟩

/-- A write of a resident key takes one entry away, and no other act overwrites. -/
theorem overwrites_eq (s : Timed α) (a : Act α) : s.overwrites a = s.gone a .overwritten := by
  cases a with
  | set key v ttl =>
    have hlen : (s.lru.set s.now key v ttl).2.size + _ = s.lru.size + 1 := length_leaving s (.set key v ttl)
    have hsize := s.lru.size_set s.now key v ttl
    cases hf : s.lru.find? key with
    | none => simp [overwrites, gone, wayOut, hf]
    | some e =>
      have hkept : (s.lru.set s.now key v ttl).1 = false := by simp [set, hf]
      rw [hf, hkept] at hsize
      have hgone : (s.leaving (.set key v ttl)).length = 1 := by
        simp at hsize
        omega
      simp [overwrites, gone, wayOut, hf, hgone]
  | apply m self => cases hm : m.body <;> simp [overwrites, gone, wayOut, hm]
  | _ => rfl

/-- What is resident when the tier is cleared leaves. -/
theorem clears_eq (s : Timed α) (a : Act α) : s.clears a = s.gone a .cleared := by
  have hlen := length_leaving s a
  cases a with
  | clear =>
    change 0 + (s.leaving .clear).length = s.lru.size + 0 at hlen
    show s.lru.size = (s.leaving .clear).length
    omega
  | apply m self =>
    obtain ⟨origin, body⟩ := m
    cases body with
    | key key => rfl
    | pattern p =>
      have hclear : s.lru.clear.size = 0 := rfl
      change _ = s.lru.size + 0 at hlen
      show (if origin = self then 0 else s.lru.size) = (s.leaving (.apply ⟨origin, .pattern p⟩ self)).length
      by_cases ho : origin = self
      · rw [show (s.act (.apply ⟨origin, .pattern p⟩ self)).lru = s.lru by simp [act, Message.apply, ho]] at hlen
        rw [if_pos ho]
        omega
      · rw [show (s.act (.apply ⟨origin, .pattern p⟩ self)).lru = s.lru.clear by simp [act, Message.apply, ho]] at hlen
        rw [if_neg ho]
        omega
  | set key v ttl => cases hf : s.lru.find? key <;> simp [clears, gone, wayOut, hf]
  | _ => rfl

end Timed

/-! ## A run -/

namespace Timed

theorem countP_leaving (s : Timed α) (a : Act α) (e : Exit) :
    ((s.leaving a).map (Prod.mk (s.wayOut a))).countP (·.1 = e) = s.gone a e := by
  unfold gone
  rw [List.countP_map]
  split <;> rename_i h
  · exact List.countP_eq_length.2 fun _ _ => decide_eq_true h
  · exact List.countP_eq_zero.2 fun _ _ => by simpa using h

theorem countP_departures (s : Timed α) (a : Act α) (acts : List (Act α)) (e : Exit) :
    (s.departures (a :: acts)).countP (·.1 = e) = s.gone a e + ((s.act a).departures acts).countP (·.1 = e) := by
  rw [departures, List.countP_append, countP_leaving]

theorem total_eq {f : Timed α → Act α → Nat} {e : Exit} (h : ∀ s a, f s a = s.gone a e) (s : Timed α)
    (acts : List (Act α)) : s.total f acts = (s.departures acts).countP (·.1 = e) := by
  induction acts generalizing s with
  | nil => rfl
  | cons a acts ih => rw [total, ih, h, countP_departures]

theorem balance_run (s : Timed α) (acts : List (Act α)) :
    (s.arrivals acts ++ s.lru.entries).Perm ((s.run acts).lru.entries ++ (s.departures acts).map Prod.snd) := by
  induction acts generalizing s with
  | nil => exact (List.append_nil _).symm ▸ List.Perm.refl _
  | cons a acts ih =>
    have hsnd : ((s.leaving a).map (Prod.mk (s.wayOut a))).map Prod.snd = s.leaving a := by
      rw [List.map_map]
      exact List.map_id _
    -- the first arrival goes behind the later ones, which leaves the balance of one act in the middle
    have hswap : ((s.arrival? a).toList ++ (s.act a).arrivals acts ++ s.lru.entries).Perm
        ((s.act a).arrivals acts ++ (s.arrival? a).toList ++ s.lru.entries) := List.perm_append_comm.append_right _
    have hact := (balance_act s a).append_left ((s.act a).arrivals acts)
    have hrun := (ih (s.act a)).append_right (s.leaving a)
    rw [← List.append_assoc, ← List.append_assoc] at hact
    rw [arrivals, departures, List.map_append, hsnd]
    refine ((hswap.trans hact).trans hrun).trans ?_
    rw [List.append_assoc]
    exact List.perm_append_comm.append_left _

theorem counts_run (s : Timed α) (acts : List (Act α)) : ∃ hits misses, hits + misses = acts.countP Act.isGet ∧
    (s.run acts).lru.counts = s.lru.counts.plus ⟨hits, misses, acts.countP Act.isSet,
      (s.departures acts).countP (·.1 = .deleted), (s.departures acts).countP (·.1 = .evicted),
      (s.departures acts).countP (·.1 = .expired)⟩ := by
  induction acts generalizing s with
  | nil => exact ⟨0, 0, rfl, rfl⟩
  | cons a acts ih =>
    obtain ⟨h, m, hget, hact⟩ := counts_act s a
    obtain ⟨h', m', hgets, hrun⟩ := ih (s.act a)
    refine ⟨h + h', m + m', ?_, ?_⟩
    · rw [List.countP_cons]
      cases hg : a.isGet <;> simp [hg] at hget ⊢ <;> omega
    · have hsets : (a :: acts).countP Act.isSet = a.isSet.toNat + acts.countP Act.isSet := by
        rw [List.countP_cons, Nat.add_comm]
        cases a.isSet <;> rfl
      show ((s.act a).run acts).lru.counts = _
      rw [hrun, hact, hsets]
      simp only [countP_departures, LruCounts.plus, Nat.add_assoc]

theorem length_arrivals (s : Timed α) (acts : List (Act α)) : (s.arrivals acts).length = acts.countP Act.isSet := by
  induction acts generalizing s with
  | nil => rfl
  | cons a acts ih =>
    rw [arrivals, List.length_append, ih, List.countP_cons, Nat.add_comm]
    cases a <;> rfl

/-- As many entries as are written and were resident at first are resident in the end or have left. -/
theorem length_run (s : Timed α) (acts : List (Act α)) :
    acts.countP Act.isSet + s.lru.size = (s.run acts).lru.size + (s.departures acts).length := by
  have h := (balance_run s acts).length_eq
  rwa [List.length_append, List.length_append, List.length_map, length_arrivals] at h

end Timed

end TwoTier.Lru
