/-
The order of the local tier and its past. The list of entries is the order of last touches: every key in it was
touched after the last touch of any key behind it. So whichever entry a write drives out, all the others were
touched since it was, and a key that was written last with a deadline still to come, and not removed, can only
be gone when as many other keys were touched since as there are places.
-/
import Mathlib.Data.Finset.Card
import Mathlib.Data.List.DropRight
import TwoTier.Proofs.Lru.Acts

namespace TwoTier.Lru

variable {α : Type}

/-! ## Touches -/

/-- The keys touched since the last touch of `k`. -/
def since (touches : List String) (k : String) : List String := touches.rtakeWhile (· != k)

variable {touches : List String} {key k : String} {entries : List (String × Entry α)}

theorem since_concat_of_ne (h : key ≠ k) : since (touches ++ [key]) k = since touches k ++ [key] :=
  List.rtakeWhile_concat_pos _ _ _ (bne_iff_ne.2 h)

/-- The touch of another key loses nothing. -/
theorem since_subset {key? : Option String} (h : key? ≠ some k) : since touches k ⊆ since (touches ++ key?.toList) k := by
  cases key? with
  | none => rw [Option.toList_none, List.append_nil]; exact List.Subset.refl _
  | some key =>
    rw [Option.toList_some, since_concat_of_ne fun hk => h (congrArg some hk)]
    exact List.subset_append_left ..

/-- The entries are in the order of their last touches. -/
structure Ordered (touches : List String) (entries : List (String × Entry α)) : Prop where
  touched : ∀ x ∈ entries, x.1 ∈ touches
  order : entries.Pairwise fun x y => x.1 ∈ since touches y.1

namespace Ordered

theorem sublist {entries' : List (String × Entry α)} (h : Ordered touches entries) (hs : entries'.Sublist entries) :
    Ordered touches entries' := ⟨fun x hx => h.touched x (hs.subset hx), h.order.sublist hs⟩

/-- What stands before the last entry was touched since the last entry was. -/
theorem since_last {kept : List (String × Entry α)} {last : String × Entry α} (h : Ordered touches (kept ++ [last])) :
    ∀ x ∈ kept, x.1 ∈ since touches last.1 := by
  intro x hx
  exact (List.pairwise_append.1 h.order).2.2 x hx last (List.mem_singleton_self _)

/-- A key that is touched goes to the front. -/
theorem touch (h : Ordered touches entries) (hne : ∀ x ∈ entries, x.1 ≠ key) (e : Entry α) :
    Ordered (touches ++ [key]) ((key, e) :: entries) := by
  constructor
  case touched =>
    intro x hx
    rcases List.mem_cons.1 hx with rfl | hx
    · exact List.mem_append_right _ (List.mem_singleton_self _)
    · exact List.mem_append_left _ (h.touched x hx)
  case order =>
    rw [List.pairwise_cons]
    constructor
    · intro x hx
      rw [since_concat_of_ne (hne x hx).symm]
      exact List.mem_append_right _ (List.mem_singleton_self _)
    · -- the others keep their order, as none of them is the key
      refine h.order.imp_of_mem ?_
      intro x y _ hy hxy
      rw [since_concat_of_ne (hne y hy).symm]
      exact List.mem_append_left _ hxy

theorem act {s : Timed α} (h : Ordered touches s.lru.entries) (a : Act α) :
    Ordered (touches ++ (s.touched? a).toList) (s.act a).lru.entries := by
  rcases s.act_cases a with ⟨ht, -, he⟩ | ⟨key, e, -, ht, -, he⟩ | ⟨key, v, ttl, rfl, he⟩ <;> rw [he]
  · rw [ht, Option.toList_none, List.append_nil]
    exact h.sublist List.filter_sublist
  · rw [ht, Option.toList_some]
    exact (h.sublist List.filter_sublist).touch (fun x hx => (mem_without.1 hx).2) e
  · refine (h.sublist ((List.take_sublist ..).trans List.filter_sublist)).touch ?_ _
    intro x hx
    exact (mem_without.1 (List.mem_of_mem_take hx)).2

end Ordered

/-! ## The latest write -/

/-- The latest write of a key has left this entry, and nothing has removed the key since. -/
def Stands (start : Timed α) (acts : List (Act α)) (k : String) (e : Entry α) : Prop :=
  ∃ earlier v ttl later, acts = earlier ++ .set k v ttl :: later ∧
    (∀ a ∈ later, a.sets k = false ∧ a.removes k = false) ∧
    e = .written (start.run earlier).now v (ttl.getD start.lru.defaultTtl)

variable {start s : Timed α} {acts : List (Act α)} {a : Act α} {e e' : Entry α}

/-- The last act decides, or leaves the matter as it was. -/
theorem stands_concat : Stands start (acts ++ [a]) k e ↔
    (∃ v ttl, a = .set k v ttl ∧ e = .written (start.run acts).now v (ttl.getD start.lru.defaultTtl)) ∨
    (a.sets k = false ∧ a.removes k = false ∧ Stands start acts k e) := by
  constructor
  · rintro ⟨earlier, v, ttl, later, hacts, hlater, he⟩
    -- either the act itself is the last write of the key, or it comes behind that
    rcases List.eq_nil_or_concat' later with rfl | ⟨later, b, rfl⟩
    · obtain ⟨rfl, ha⟩ := List.append_inj' hacts rfl
      exact Or.inl ⟨v, ttl, List.head_eq_of_cons_eq ha, he⟩
    · rw [← List.cons_append, ← List.append_assoc] at hacts
      obtain ⟨rfl, hb⟩ := List.append_inj' hacts rfl
      cases hb
      obtain ⟨hs, hr⟩ := hlater a (by simp)
      exact Or.inr ⟨hs, hr, earlier, v, ttl, later, rfl, fun c hc => hlater c (by simp [hc]), he⟩
  · rintro (⟨v, ttl, rfl, he⟩ | ⟨hs, hr, earlier, v, ttl, later, rfl, hlater, he⟩)
    · exact ⟨acts, v, ttl, [], rfl, nofun, he⟩
    · refine ⟨earlier, v, ttl, later ++ [a], by simp, ?_, he⟩
      intro c hc
      rcases List.mem_append.1 hc with hc | hc
      · exact hlater c hc
      · rw [List.mem_singleton.1 hc]
        exact ⟨hs, hr⟩

/-- There is one latest write at most. -/
theorem Stands.unique (h : Stands start acts k e) (h' : Stands start acts k e') : e = e' := by
  induction acts using List.reverseRecOn with
  | nil =>
    obtain ⟨earlier, v, ttl, later, hacts, -⟩ := h
    simp at hacts
  | append_singleton acts a ih =>
    rcases stands_concat.1 h with ⟨v, ttl, rfl, rfl⟩ | ⟨hs, -, h⟩ <;>
      rcases stands_concat.1 h' with ⟨v', ttl', ha, rfl⟩ | ⟨hs', -, h'⟩
    · cases ha
      rfl
    · simp [Act.sets] at hs'
    · rw [ha] at hs
      simp [Act.sets] at hs
    · exact ih h h'

/-! ## What an act leaves of an entry -/

theorem drops_of_removes {now : Nat} {x : String × Entry α} (h : a.removes x.1 = true) : a.drops now x = true := by
  cases a with
  | get | set | purge | contains | advance => cases h
  | delete | clear | apply => exact h

/-- What is dropped without being removed is expired. -/
theorem isExpired_of_drops {now : Nat} {x : String × Entry α} (h : a.drops now x = true) (hr : a.removes x.1 = false) :
    x.2.isExpired now = true := by
  cases a with
  | get key => exact (Bool.and_eq_true_iff.1 h).2
  | purge => exact h
  | set | delete | clear | contains | apply | advance =>
    exact absurd (hr.symm.trans h) Bool.false_ne_true

/-- What is resident after an act was written by it, or was resident before and not removed. -/
theorem find?_of_act (h : (s.act a).lru.find? k = some e) :
    (∃ v ttl, a = .set k v ttl ∧ e = .written s.now v (ttl.getD s.lru.defaultTtl)) ∨
    (a.sets k = false ∧ a.removes k = false ∧ s.lru.find? k = some e) := by
  have hmem := (lookup_eq_some_iff_mem (s.act a).lru.keys_nodup).1 h
  have hfind : ∀ {x}, (k, x) ∈ s.lru.entries → s.lru.find? k = some x :=
    (lookup_eq_some_iff_mem s.lru.keys_nodup).2
  rcases s.act_cases a with ⟨-, hsets, he⟩ | ⟨key, e', rfl, -, hf, he⟩ | ⟨key, v, ttl, rfl, he⟩ <;> rw [he] at hmem
  · obtain ⟨hmem, hdrops⟩ := List.mem_filter.1 hmem
    refine Or.inr ⟨hsets k, ?_, hfind hmem⟩
    by_contra hr
    rw [drops_of_removes (x := (k, e)) (by simpa using hr)] at hdrops
    cases hdrops
  · refine Or.inr ⟨rfl, rfl, ?_⟩
    rcases List.mem_cons.1 hmem with heq | hmem
    · cases heq
      exact hf
    · exact hfind (mem_without.1 hmem).1
  · rcases List.mem_cons.1 hmem with heq | hmem
    · cases heq
      exact Or.inl ⟨v, ttl, rfl, rfl⟩
    · obtain ⟨hmem, hne⟩ := mem_without.1 (List.mem_of_mem_take hmem)
      exact Or.inr ⟨beq_eq_false_iff_ne.2 hne.symm, rfl, hfind hmem⟩

/-- A write to a tier that has no place for it drives the last entry out. -/
theorem last_of_not_kept {c : Lru α} (h : (k, e) ∈ c.entries) (hk : k ≠ key)
    (hout : (k, e) ∉ (without key c.entries).take (c.capacity - 1)) :
    c.find? key = none ∧ c.size = c.capacity ∧ ∃ kept, c.entries = kept ++ [(k, e)] := by
  have hpos := c.capacity_pos
  have hsize := c.size_le
  have hlen : (without key c.entries).length ≤ c.entries.length := List.length_filter_le ..
  have hmem : (k, e) ∈ without key c.entries := mem_without.2 ⟨h, hk⟩
  rw [← List.take_append_drop (c.capacity - 1) (without key c.entries)] at hmem
  have hdrop := (List.mem_append.1 hmem).resolve_left hout
  have hlast : ((without key c.entries).drop (c.capacity - 1)).length = (without key c.entries).length - (c.capacity - 1) :=
    List.length_drop
  have hone := List.length_pos_of_mem hdrop
  -- an entry is cut off only if the key was not among them and the tier is full
  have hall : without key c.entries = c.entries := List.filter_sublist.eq_of_length_le (by unfold without at *; omega)
  rw [hall] at hdrop hlast hone
  refine ⟨?_, show c.entries.length = c.capacity by omega, c.entries.take (c.capacity - 1), ?_⟩
  · rw [Lru.find?, List.lookup_eq_none_iff]
    intro x hx
    rw [← hall] at hx
    simpa using (mem_without.1 hx).2.symm
  · obtain ⟨x, hx⟩ := List.length_eq_one_iff.1 (show (c.entries.drop (c.capacity - 1)).length = 1 by omega)
    rw [hx] at hdrop
    rw [List.mem_singleton.1 hdrop, ← hx, List.take_append_drop]

/-- An entry that is neither overwritten nor removed stays, is expired, or makes room at the end of a full tier. -/
theorem find?_act (h : s.lru.find? k = some e) (hs : a.sets k = false) (hr : a.removes k = false) :
    (s.act a).lru.find? k = some e ∨ e.isExpired s.now = true ∨
      ∃ key v ttl kept, a = .set key v ttl ∧ s.lru.find? key = none ∧ s.lru.size = s.lru.capacity ∧
        s.lru.entries = kept ++ [(k, e)] := by
  have hmem := (lookup_eq_some_iff_mem s.lru.keys_nodup).1 h
  have hfind : (k, e) ∈ (s.act a).lru.entries → (s.act a).lru.find? k = some e :=
    (lookup_eq_some_iff_mem (s.act a).lru.keys_nodup).2
  -- cut down by a condition, moved by a read, or cut off behind a write
  rcases s.act_cases a with ⟨-, -, he⟩ | ⟨key, e', rfl, -, hf, he⟩ | ⟨key, v, ttl, rfl, he⟩ <;> rw [he] at hfind
  · cases hd : a.drops s.now (k, e) with
    | true => exact Or.inr (Or.inl (isExpired_of_drops hd hr))
    | false => exact Or.inl (hfind (List.mem_filter.2 ⟨hmem, by simp [hd]⟩))
  · left
    by_cases hk : k = key
    · subst hk
      cases hf.symm.trans h
      exact hfind (List.mem_cons_self ..)
    · exact hfind (List.mem_cons_of_mem _ (mem_without.2 ⟨hmem, hk⟩))
  · have hk : k ≠ key := (beq_eq_false_iff_ne.1 hs).symm
    by_cases hin : (k, e) ∈ (without key s.lru.entries).take (s.lru.capacity - 1)
    · exact Or.inl (hfind (List.mem_cons_of_mem _ hin))
    · obtain ⟨hnone, hsize, kept, hkept⟩ := last_of_not_kept hmem hk hin
      exact Or.inr (Or.inr ⟨key, v, ttl, kept, rfl, hnone, hsize, hkept⟩)

/-! ## Runs -/

/-- What is known of a tier from what has happened to it. The entries are in the order of their last touches,
each is what the latest write of its key has left; and what a latest write has left is resident, or expired, or
had to make room for others. -/
structure Traced (start : Timed α) (acts : List (Act α)) : Prop where
  capacity : (start.run acts).lru.capacity = start.lru.capacity
  defaultTtl : (start.run acts).lru.defaultTtl = start.lru.defaultTtl
  ordered : Ordered (start.touches acts) (start.run acts).lru.entries
  stands : ∀ k e, (start.run acts).lru.find? k = some e → Stands start acts k e
  kept : ∀ k e, Stands start acts k e → (start.run acts).lru.find? k = some e ∨
    e.isExpired (start.run acts).now = true ∨ start.lru.capacity ≤ (since (start.touches acts) k).toFinset.card

namespace Traced

theorem nil (h : start.lru.entries = []) : Traced start [] := by
  refine ⟨rfl, rfl, ?_, ?_, ?_⟩
  · show Ordered [] start.lru.entries
    rw [h]
    exact ⟨nofun, List.Pairwise.nil⟩
  · intro k e he
    have hnone : (start.run []).lru.find? k = none := by
      show start.lru.entries.lookup k = none
      rw [h]
      rfl
    rw [hnone] at he
    cases he
  · rintro k e ⟨earlier, v, ttl, later, hacts, -⟩
    simp at hacts

/-- What makes room in a full tier has seen all the others touched, and now the key that is written. -/
theorem capacity_le_since {kept : List (String × Entry α)} (h : Ordered touches s.lru.entries)
    (hnone : s.lru.find? key = none) (hsize : s.lru.size = s.lru.capacity) (he : s.lru.entries = kept ++ [(k, e)]) :
    s.lru.capacity ≤ (since (touches ++ [key]) k).toFinset.card := by
  have hkey : ∀ x ∈ s.lru.entries, x.1 ≠ key := by
    rintro x hx rfl
    simpa using List.lookup_eq_none_iff.1 hnone x hx
  have hkeys := s.lru.keys_nodup
  rw [he] at h hkey hkeys
  have hne : key ≠ k := (hkey (k, e) (by simp)).symm
  -- the new key and all that are kept are different keys, and each has been touched since
  have hnodup : (key :: kept.map Prod.fst).Nodup := by
    rw [List.nodup_cons]
    constructor
    · intro hmem
      obtain ⟨x, hx, rfl⟩ := List.mem_map.1 hmem
      exact hkey x (List.mem_append_left _ hx) rfl
    · exact hkeys.sublist ((List.sublist_append_left ..).map _)
  have hsub : (key :: kept.map Prod.fst).toFinset ⊆ (since (touches ++ [key]) k).toFinset := by
    intro j hj
    rw [List.mem_toFinset, since_concat_of_ne hne] at *
    rcases List.mem_cons.1 hj with rfl | hj
    · exact List.mem_append_right _ (List.mem_singleton_self _)
    · obtain ⟨x, hx, rfl⟩ := List.mem_map.1 hj
      exact List.mem_append_left _ (h.since_last x hx)
  calc s.lru.capacity = (key :: kept.map Prod.fst).length := by
        rw [← hsize]
        simp [size, he]
    _ = (key :: kept.map Prod.fst).toFinset.card := (List.toFinset_card_of_nodup hnodup).symm
    _ ≤ (since (touches ++ [key]) k).toFinset.card := Finset.card_le_card hsub

/-- A key that is touched without being written is read, so it has what its latest write has left. -/
theorem find?_touched (h : Traced start acts) (hstands : Stands start acts k e) (hs : a.sets k = false)
    (ht : (start.run acts).touched? a = some k) : ((start.run acts).act a).lru.find? k = some e := by
  rcases (start.run acts).act_cases a with ⟨hnone, -⟩ | ⟨key, e', rfl, hkey, hf, he⟩ | ⟨key, v, ttl, rfl, -⟩
  · rw [hnone] at ht
    cases ht
  · cases hkey.symm.trans ht
    have heq : e' = e := (h.stands _ e' hf).unique hstands
    subst heq
    unfold Lru.find?
    rw [he]
    exact List.lookup_cons_self
  · cases ht
    simp [Act.sets] at hs

theorem stands_act (h : Traced start acts) (he : ((start.run acts).act a).lru.find? k = some e) :
    Stands start (acts ++ [a]) k e := by
  rw [stands_concat, ← h.defaultTtl]
  rcases find?_of_act he with hw | ⟨hs, hr, hf⟩
  · exact Or.inl hw
  · exact Or.inr ⟨hs, hr, h.stands k e hf⟩

/-- An entry that was kept stays where it is, or expires, or gives way to a key that makes up the number. -/
theorem kept_act (h : Traced start acts) (he : Stands start (acts ++ [a]) k e) :
    ((start.run acts).act a).lru.find? k = some e ∨ e.isExpired ((start.run acts).act a).now = true ∨
      start.lru.capacity ≤ (since (start.touches acts ++ ((start.run acts).touched? a).toList) k).toFinset.card := by
  -- the write is this act, or an earlier one that still stands; then it goes by what had become of its entry
  rcases stands_concat.1 he with ⟨v, ttl, rfl, rfl⟩ | ⟨hs, hr, hstands⟩
  · left
    rw [← h.defaultTtl]
    exact find?_set_self ..
  · have haged : e.isExpired (start.run acts).now = true → e.isExpired ((start.run acts).act a).now = true :=
      isExpired_mono (Timed.now_le_act ..)
    rcases h.kept k e hstands with hf | hexp | hcard
    · rcases find?_act hf hs hr with hin | hexp | ⟨key, v, ttl, kept, rfl, hnone, hsize, hentries⟩
      · exact Or.inl hin
      · exact Or.inr (Or.inl (haged hexp))
      · right; right
        rw [← h.capacity]
        exact capacity_le_since h.ordered hnone hsize hentries
    · exact Or.inr (Or.inl (haged hexp))
    · -- it had given way: an act that touches it finds it resident, and any other only adds to those touched since
      by_cases ht : (start.run acts).touched? a = some k
      · exact Or.inl (h.find?_touched hstands hs ht)
      · right; right
        refine hcard.trans (Finset.card_le_card ?_)
        intro j hj
        rw [List.mem_toFinset] at *
        exact since_subset ht hj

theorem act (h : Traced start acts) (a : Act α) : Traced start (acts ++ [a]) := by
  have hrun := start.run_concat acts a
  have htouches := start.touches_concat acts a
  constructor
  case capacity => rw [hrun, Timed.capacity_act, h.capacity]
  case defaultTtl => rw [hrun, Timed.defaultTtl_act, h.defaultTtl]
  case ordered =>
    rw [hrun, htouches]
    exact h.ordered.act a
  case stands =>
    intro k e he
    rw [hrun] at he
    exact h.stands_act he
  case kept =>
    intro k e he
    rw [hrun, htouches]
    exact h.kept_act he

theorem run (h : start.lru.entries = []) (acts : List (Act α)) : Traced start acts := by
  induction acts using List.reverseRecOn with
  | nil => exact nil h
  | append_singleton acts a ih => exact ih.act a

end Traced

end TwoTier.Lru
