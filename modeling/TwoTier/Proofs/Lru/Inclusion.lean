/-
Two local tiers to which the same happens, one of them with more room. What is resident in the small one is
resident in the large one as well and in the same order of recency, with others in between that only the large
one could keep. There are never more of those than the large one has places beyond the small one, so when the
large one is full and has to evict an entry, the small one is full too.
-/
import TwoTier.Proofs.Lru.Acts

namespace TwoTier.Lru

variable {α : Type} {small large small' large' : Lru α} {now : Nat} {key : String}

/-- Everything in the small tier is in the large one, in the same order, and the large one has at least as much
room left; its reads have hit no less and its writes have evicted no more. -/
structure Below (small large : Lru α) : Prop where
  defaultTtl : small.defaultTtl = large.defaultTtl
  entries : small.entries.Sublist large.entries
  room : large.size + small.capacity ≤ small.size + large.capacity
  hits : small.counts.hits ≤ large.counts.hits
  evictions : large.counts.evictions ≤ small.counts.evictions

/-! ## Lists of which one is part of the other -/

/-- No less is dropped from the longer list. -/
theorem length_filter_gap {β : Type} {l l' : List β} (h : l.Sublist l') (p : β → Bool) :
    (l'.filter p).length + l.length ≤ (l.filter p).length + l'.length := by
  have hdropped := (h.filter fun x => !p x).length_le
  have hl := List.length_eq_length_filter_add (l := l) p
  have hl' := List.length_eq_length_filter_add (l := l') p
  omega

/-- Lists stay one part of the other if no less is cut off the end of the shorter one. -/
theorem take_sublist_take {β : Type} {l l' : List β} (h : l.Sublist l') {n m : Nat}
    (hcut : l'.length - m ≤ l.length - n) : (l.take n).Sublist (l'.take m) := by
  -- by induction on how one list is part of the other; the case where the cut falls on the head is ruled out by `hcut`
  induction h generalizing n m with
  | slnil => rw [List.take_nil]; exact List.nil_sublist _
  | cons a h ih =>
    have hle := h.length_le
    rw [List.length_cons] at hcut
    cases m with
    | zero => omega
    | succ m => exact (ih (by omega)).cons a
  | cons_cons a h ih =>
    have hle := h.length_le
    rw [List.length_cons, List.length_cons] at hcut
    cases n with
    | zero => exact List.nil_sublist _
    | succ n =>
      cases m with
      | zero => omega
      | succ m => exact (ih (by omega)).cons_cons a

/-! ## Operations that only drop entries -/

/-- Entries were dropped by a condition; no read has hit meanwhile, and no write has evicted. -/
structure Sifted (p : String × Entry α → Bool) (c c' : Lru α) : Prop where
  entries : c'.entries = c.entries.filter p
  capacity : c'.capacity = c.capacity
  defaultTtl : c'.defaultTtl = c.defaultTtl
  hits : c'.counts.hits = c.counts.hits
  evictions : c'.counts.evictions = c.counts.evictions

theorem sifted_delete (c : Lru α) (key : String) : Sifted (·.1 != key) c (c.delete key).2 where
  entries := entries_delete c key
  capacity := delete_capacity
  defaultTtl := delete_defaultTtl
  hits := by unfold delete; split <;> rfl
  evictions := by unfold delete; split <;> rfl

theorem sifted_clear (c : Lru α) : Sifted (fun _ => false) c c.clear :=
  ⟨(List.filter_false _).symm, rfl, rfl, rfl, rfl⟩

theorem sifted_purge (c : Lru α) (now : Nat) : Sifted (!·.2.isExpired now) c (c.purge now).2 := ⟨rfl, rfl, rfl, rfl, rfl⟩

theorem sifted_apply (m : Message) (self : String) (c : Lru α) :
    Sifted (fun x => !m.drops self x.1) c (m.apply self c).2 := by
  refine ⟨entries_apply .., apply_capacity, apply_defaultTtl, ?_, ?_⟩ <;>
    rcases apply_cases m self c with ⟨h, -⟩ | ⟨key, h, -⟩ | ⟨h, -⟩ <;> rw [h]
  · exact (sifted_delete ..).hits
  · rfl
  · exact (sifted_delete ..).evictions
  · rfl

theorem Below.sift (h : Below small large) {p : String × Entry α → Bool} (hs : Sifted p small small')
    (hl : Sifted p large large') : Below small' large' where
  defaultTtl := hs.defaultTtl.trans (h.defaultTtl.trans hl.defaultTtl.symm)
  entries := by
    rw [hs.entries, hl.entries]
    exact h.entries.filter p
  room := by
    have hgap := length_filter_gap h.entries p
    have hroom := h.room
    unfold size at *
    rw [hs.entries, hl.entries, hs.capacity, hl.capacity]
    omega
  hits := by rw [hs.hits, hl.hits]; exact h.hits
  evictions := by rw [hs.evictions, hl.evictions]; exact h.evictions

/-! ## Reads and writes -/

theorem hits_get (c : Lru α) (now : Nat) (key : String) :
    (c.get now key).2.counts.hits = c.counts.hits + (c.front now key).length := by
  unfold get front
  split <;> rename_i h
  · simp [h]
  · split <;> rename_i he <;> simp [h, he, keep]

theorem evictions_get (c : Lru α) (now : Nat) (key : String) :
    (c.get now key).2.counts.evictions = c.counts.evictions := by
  unfold get
  split
  · rfl
  · split <;> rfl

theorem hits_set (c : Lru α) (now : Nat) (key : String) (v : α) (ttl : Option Nat) :
    (c.set now key v ttl).2.counts.hits = c.counts.hits := by
  dsimp only [set]
  split <;> rfl

/-- A write evicts what it leaves no place for. -/
theorem evictions_set (c : Lru α) (now : Nat) (key : String) (v : α) (ttl : Option Nat) :
    (c.set now key v ttl).2.counts.evictions =
      c.counts.evictions + ((without key c.entries).length - (c.capacity - 1)) := by
  have hpos := c.capacity_pos
  dsimp only [set]
  split <;> rename_i h
  · have hsize : c.entries.length = c.capacity := Nat.le_antisymm c.size_le h.2
    rw [without_eq_self h.1, hsize, show c.capacity - (c.capacity - 1) = 1 by omega]
  · have hlen := c.length_cons_without_le h (.written now v (ttl.getD c.defaultTtl))
    rw [List.length_cons] at hlen
    rw [show (without key c.entries).length - (c.capacity - 1) = 0 by omega]
    rfl

namespace Below

/-- What is resident in the small tier is resident in the large one. -/
theorem find? (h : Below small large) {e : Entry α} (he : small.find? key = some e) : large.find? key = some e :=
  (lookup_eq_some_iff_mem large.keys_nodup).2 (h.entries.subset ((lookup_eq_some_iff_mem small.keys_nodup).1 he))

/-- What a read of the small tier brings, a read of the large one brings as well. -/
theorem get_fst (h : Below small large) {v : α} (hv : (small.get now key).1 = some v) : (large.get now key).1 = some v := by
  rw [Lru.get_fst, live?_eq_some_iff] at *
  obtain ⟨e, he, hval, hlive⟩ := hv
  exact ⟨e, h.find? he, hval, hlive⟩

/-- What a read moves to the front of the small tier is moved to the front of the large one; a read may find its
key in the large one only, which then has as many others to spare. -/
theorem front (h : Below small large) (now : Nat) (key : String) :
    (small.front now key).Sublist (large.front now key) ∧
      (large.front now key).length + (without key large.entries).length + small.capacity ≤
        (small.front now key).length + (without key small.entries).length + large.capacity := by
  have hgap := length_filter_gap h.entries fun x => x.1 != key
  have hroom := h.room
  unfold size at hroom
  rcases large.front_cases now key with ⟨e, hl, hlive, -, hfl⟩ | ⟨hdead, -, hfl⟩ <;> rw [hfl]
  · cases hs : small.find? key with
    | none =>
      -- only the large tier has the key: one entry fewer is between those of the small one
      have hlt := large.length_without_lt (Option.isSome_of_eq_some hl)
      have hfs : small.front now key = [] := by unfold Lru.front; rw [hs]
      rw [hfs, without_eq_self hs]
      exact ⟨List.nil_sublist _, by simp only [List.length_cons, List.length_nil]; omega⟩
    | some e' =>
      cases (h.find? hs).symm.trans hl
      have hfs : small.front now key = [(key, e)] := by unfold Lru.front; rw [hs]; exact if_neg (by simp [hlive])
      rw [hfs]
      exact ⟨List.Sublist.refl _, by unfold without; omega⟩
  · -- what is expired in the large tier is expired in the small one, where it is the same entry
    have hfs : small.front now key = [] := by
      rcases small.front_cases now key with ⟨e, hs, hlive, -, -⟩ | ⟨-, -, hfs⟩
      · rw [hdead e (h.find? hs)] at hlive
        cases hlive
      · exact hfs
    rw [hfs]
    exact ⟨List.Sublist.refl _, by unfold without; omega⟩

theorem get (h : Below small large) (now : Nat) (key : String) : Below (small.get now key).2 (large.get now key).2 where
  defaultTtl := by
    simp only [get_defaultTtl]
    exact h.defaultTtl
  entries := by
    simp only [entries_get]
    exact (h.front now key).1.append (h.entries.filter _)
  room := by
    simp only [size, entries_get, get_capacity, List.length_append]
    exact (h.front now key).2
  hits := by
    simp only [hits_get]
    exact Nat.add_le_add h.hits (h.front now key).1.length_le
  evictions := by
    simp only [evictions_get]
    exact h.evictions

/-- A write cuts no more off the large tier than off the small one. -/
theorem cut (h : Below small large) (key : String) : (without key large.entries).length - (large.capacity - 1) ≤
    (without key small.entries).length - (small.capacity - 1) := by
  have hgap := length_filter_gap h.entries fun x => x.1 != key
  have hroom := h.room
  have hsmall := small.capacity_pos
  have hlarge := large.capacity_pos
  unfold size at hroom
  unfold without
  omega

theorem set (h : Below small large) (now : Nat) (key : String) (v : α) (ttl : Option Nat) :
    Below (small.set now key v ttl).2 (large.set now key v ttl).2 where
  defaultTtl := by
    simp only [set_defaultTtl]
    exact h.defaultTtl
  entries := by
    rw [entries_set, entries_set, h.defaultTtl]
    exact (take_sublist_take (h.entries.filter _) (h.cut key)).cons_cons _
  room := by
    have hgap := length_filter_gap h.entries fun x => x.1 != key
    have hroom := h.room
    have hsmall := small.capacity_pos
    have hlarge := large.capacity_pos
    simp only [size, entries_set, set_capacity, List.length_cons, List.length_take, without] at *
    omega
  hits := by
    simp only [hits_set]
    exact h.hits
  evictions := by
    simp only [evictions_set]
    exact Nat.add_le_add h.evictions (h.cut key)

end Below

/-! ## Runs -/

namespace Timed

/-- At the same time, the one tier is below the other. -/
structure Below (s t : Timed α) : Prop where
  now : s.now = t.now
  lru : s.lru.Below t.lru

variable {s t : Timed α}

/-- Whatever happens to both tiers, the one stays below the other. -/
theorem Below.act (h : s.Below t) (a : Act α) : (s.act a).Below (t.act a) := by
  obtain ⟨now, small⟩ := s
  obtain ⟨_, large⟩ := t
  obtain ⟨rfl, h⟩ := h
  refine ⟨by cases a <;> rfl, ?_⟩
  cases a with
  | get key => exact h.get now key
  | set key v ttl => exact h.set now key v ttl
  | delete key => exact h.sift (sifted_delete small key) (sifted_delete large key)
  | clear => exact h.sift (sifted_clear small) (sifted_clear large)
  | purge => exact h.sift (sifted_purge small now) (sifted_purge large now)
  | apply m self => exact h.sift (sifted_apply m self small) (sifted_apply m self large)
  | contains | advance => exact h

theorem Below.run (h : s.Below t) (acts : List (Act α)) : (s.run acts).Below (t.run acts) := by
  induction acts generalizing s t with
  | nil => exact h
  | cons a acts ih => exact ih (h.act a)

end Timed

theorem below_of_make {n m ttl : Nat} (hs : make n ttl = .ok small) (hl : make m ttl = .ok large) (h : n ≤ m) :
    small.Below large := by
  obtain ⟨hsc, hst, hse, hsn⟩ := make_eq hs
  obtain ⟨hlc, hlt, hle, hln⟩ := make_eq hl
  refine ⟨hst.trans hlt.symm, by rw [hse, hle], ?_, by rw [hsn, hln], by rw [hsn, hln]⟩
  unfold size
  rw [hse, hle, hsc, hlc]
  exact Nat.add_le_add_left h _

/-- Of two local tiers to which the same happens, the one with more room has at any time every entry that the
other has, with the same value and deadline. So it answers every read that the other answers, and with the same
value; it has hit at least as often and has evicted at most as many entries. -/
theorem capacity_monotone {n m ttl : Nat} (hs : make n ttl = .ok small) (hl : make m ttl = .ok large) (h : n ≤ m)
    (now : Nat) (acts : List (Act α)) :
    (∀ key e, ((Timed.mk now small).run acts).lru.find? key = some e →
      ((Timed.mk now large).run acts).lru.find? key = some e) ∧
    (∀ key v, (((Timed.mk now small).run acts).lru.get ((Timed.mk now small).run acts).now key).1 = some v →
      (((Timed.mk now large).run acts).lru.get ((Timed.mk now large).run acts).now key).1 = some v) ∧
    ((Timed.mk now small).run acts).lru.counts.hits ≤ ((Timed.mk now large).run acts).lru.counts.hits ∧
    ((Timed.mk now large).run acts).lru.counts.evictions ≤ ((Timed.mk now small).run acts).lru.counts.evictions := by
  have hmade : (Timed.mk now small).Below (Timed.mk now large) := ⟨rfl, below_of_make hs hl h⟩
  have hrun := hmade.run acts
  refine ⟨fun key e he => hrun.lru.find? he, ?_, hrun.lru.hits, hrun.lru.evictions⟩
  intro key v hv
  rw [← hrun.now]
  exact hrun.lru.get_fst hv

/-- With one place more, the key that was written first is still read. -/
theorem capacity_monotone_of_two : ∃ small large : Lru Nat, make 1 5 = .ok small ∧ make 2 5 = .ok large ∧
    ((Timed.mk 0 small).run [.set "a" 1 none, .set "b" 2 none, .get "a"]).lru.find? "b" = some ⟨2, 5⟩ ∧
    ((Timed.mk 0 large).run [.set "a" 1 none, .set "b" 2 none, .get "a"]).lru.find? "b" = some ⟨2, 5⟩ ∧
    ((Timed.mk 0 small).run [.set "a" 1 none, .set "b" 2 none, .get "a"]).lru.counts.hits <
      ((Timed.mk 0 large).run [.set "a" 1 none, .set "b" 2 none, .get "a"]).lru.counts.hits := by
  have hs : make 1 5 = .ok ({ capacity := 1, defaultTtl := 5 } : Lru Nat) := rfl
  have hl : make 2 5 = .ok ({ capacity := 2, defaultTtl := 5 } : Lru Nat) := rfl
  have hmono := capacity_monotone hs hl (by decide) 0 [.set "a" 1 none, .set "b" 2 none, .get "a"]
  exact ⟨_, _, hs, hl, by decide, hmono.1 "b" _ (by decide), by decide⟩

end TwoTier.Lru
