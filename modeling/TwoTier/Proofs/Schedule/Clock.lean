/-
What happens while the clock moves: purges fall due and drop expired entries from local tiers, and
nothing else changes. An instance without periodic purges stays as it is.
-/
import TwoTier.Schedule
import TwoTier.Proofs.Cluster.Run

namespace TwoTier

/-- An instance after a while in which only purges were made, the last one not after `now`. -/
structure Node.Aged (now : Nat) (n n' : Node) : Prop where
  frame : n'.frame = n.frame
  flights : n'.flights = n.flights
  remote : n'.remote = n.remote
  /-- What is gone had expired. -/
  kept : ∀ key e, n.lru.find? key = some e → now < e.deadline → n'.lru.find? key = some e
  /-- Nothing has come. -/
  old : ∀ key e, n'.lru.find? key = some e → n.lru.find? key = some e
  /-- Only purges change anything. -/
  still : n.maintenance = none → n' = n

namespace Node.Aged

variable {n n' n'' : Node} {now later : Nat}

theorem refl (now : Nat) (n : Node) : Aged now n n := ⟨rfl, rfl, rfl, fun _ _ h _ => h, fun _ _ h => h, fun _ => rfl⟩

theorem trans (h : Aged now n n') (h' : Aged later n' n'') (hle : now ≤ later) : Aged later n n'' where
  frame := h'.frame.trans h.frame
  flights := h'.flights.trans h.flights
  remote := h'.remote.trans h.remote
  kept key e he hd := h'.kept key e (h.kept key e he (Nat.lt_of_le_of_lt hle hd)) hd
  old key e he := h.old key e (h'.old key e he)
  still hm := by
    have hn := h.still hm
    subst hn
    exact h'.still hm

/-- A purge drops what has expired. -/
theorem purge (hm : n.maintenance.isSome) (now : Nat) :
    Aged now n { n with lru := (n.lru.purge now).2, maintenance := n.maintenance.map Maintenance.next } where
  frame := rfl
  flights := rfl
  remote := rfl
  kept key e he hd := by
    show (n.lru.purge now).2.find? key = some e
    rw [Lru.find?_purge, he, Option.filter_some, if_pos]
    simp [Entry.isExpired, isExpired, hd]
  old key e he := by
    change (n.lru.purge now).2.find? key = some e at he
    rw [Lru.find?_purge, Option.filter_eq_some_iff] at he
    exact he.1
  still h := by rw [h] at hm; cases hm

end Node.Aged

namespace Cluster

variable {σ : Type} {c c' c'' : Cluster σ} {t : Nat}

/-- A cluster after a while in which only purges were made. -/
structure Aged (c c' : Cluster σ) : Prop where
  now : c.now ≤ c'.now
  jobs : c'.jobs = c.jobs
  store : c'.store = c.store
  length : c'.nodes.length = c.nodes.length
  nodes : ∀ {i : Nat} {n : Node}, c.nodes[i]? = some n → ∃ n', c'.nodes[i]? = some n' ∧ n.Aged c'.now n'

namespace Aged

theorem refl (c : Cluster σ) : Aged c c := ⟨Nat.le_refl _, rfl, rfl, rfl, fun hn => ⟨_, hn, .refl ..⟩⟩

theorem trans (h : Aged c c') (h' : Aged c' c'') : Aged c c'' := by
  refine ⟨Nat.le_trans h.now h'.now, h'.jobs.trans h.jobs, h'.store.trans h.store, h'.length.trans h.length, ?_⟩
  intro i n hn
  obtain ⟨n', hn', ha⟩ := h.nodes hn
  obtain ⟨n'', hn'', ha'⟩ := h'.nodes hn'
  exact ⟨n'', hn'', ha.trans ha' h'.now⟩

/-- Instances are found where they were. -/
theorem node (h : Aged c c') {i : Nat} {n' : Node} (hn : c'.nodes[i]? = some n') :
    ∃ n, c.nodes[i]? = some n ∧ n.Aged c'.now n' := by
  have hi : i < c.nodes.length := h.length ▸ (List.getElem?_eq_some_iff.1 hn).1
  obtain ⟨n₁, hn₁, ha⟩ := h.nodes (List.getElem?_eq_getElem hi)
  rw [hn] at hn₁
  cases hn₁
  exact ⟨_, List.getElem?_eq_getElem hi, ha⟩

theorem frames (h : Aged c c') : c'.nodes.map Node.frame = c.nodes.map Node.frame := by
  refine List.ext_getElem? fun i => ?_
  rw [List.getElem?_map, List.getElem?_map]
  cases hn : c.nodes[i]? with
  | none => rw [List.getElem?_eq_none (h.length ▸ List.getElem?_eq_none_iff.1 hn)]
  | some n =>
    obtain ⟨n', hn', ha⟩ := h.nodes hn
    rw [hn', Option.map_some, ha.frame]
    rfl

end Aged

variable [Backend σ]

theorem aged_wait (c : Cluster σ) (t : Nat) : Aged c (c.move (.wait t)) :=
  ⟨Nat.le_max_left .., rfl, rfl, rfl, fun hn => ⟨_, hn, .refl ..⟩⟩

theorem move_purge {i : Nat} {n : Node} (hn : c.nodes[i]? = some n) : ∃ r, c.move (.purge i) =
    { c with
      recorder := r
      nodes := c.nodes.set i { n with
        lru := (n.lru.purge c.now).2
        maintenance := n.maintenance.map Maintenance.next } } := by
  show ∃ r, c.onSite i Site.purge = _
  unfold onSite
  rw [site?_of_node hn]
  exact ⟨_, rfl⟩

theorem move_purge_of_none {i : Nat} (hn : c.nodes[i]? = none) : c.move (.purge i) = c := by
  show c.onSite i Site.purge = c
  unfold onSite site?
  rw [hn]
  rfl

theorem aged_purge {i : Nat} {n : Node} (hn : c.nodes[i]? = some n) (hm : n.maintenance.isSome) :
    Aged c (c.move (.purge i)) ∧ (c.move (.purge i)).now = c.now := by
  obtain ⟨r, hp⟩ := move_purge hn
  rw [hp]
  refine ⟨⟨Nat.le_refl _, rfl, rfl, List.length_set .., ?_⟩, rfl⟩
  intro j n₀ hn₀
  show ∃ n', (c.nodes.set i _)[j]? = some n' ∧ _
  by_cases hj : i = j
  · subst hj
    rw [hn] at hn₀
    cases hn₀
    exact ⟨_, List.getElem?_set_self (List.getElem?_eq_some_iff.1 hn).1, .purge hm c.now⟩
  · rw [List.getElem?_set_ne hj]
    exact ⟨n₀, hn₀, .refl ..⟩

/-! ## Purges on the way -/

omit [Backend σ] in
/-- A fold that keeps what it has or takes what comes next ends with a member of the list. -/
theorem mem_of_foldl {α : Type} {f : Option α → α → Option α} (hf : ∀ best a, f best a = some a ∨ f best a = best)
    {l : List α} {best : Option α} {a : α} (h : l.foldl f best = some a) : a ∈ l ∨ best = some a := by
  induction l generalizing best with
  | nil => exact Or.inr h
  | cons x l ih =>
    rcases ih h with h | h
    · exact Or.inl (List.mem_cons_of_mem _ h)
    · rcases hf best x with he | he <;> rw [he] at h
      · cases h
        exact Or.inl List.mem_cons_self
      · exact Or.inr h

omit [Backend σ] in
/-- A purge falls due at an instance that plans one, not before now. -/
theorem nextPurge?_spec {i due : Nat} (h : c.nextPurge? = some (i, due)) :
    c.now ≤ due ∧ ∃ n, c.nodes[i]? = some n ∧ n.maintenance.isSome := by
  unfold nextPurge? at h
  have hmem := mem_of_foldl (by
    intro best d
    split
    · split
      · exact Or.inl rfl
      · exact Or.inr rfl
    · exact Or.inl rfl) h
  rcases hmem with h | h
  · obtain ⟨⟨n, j⟩, hmem, hd⟩ := List.mem_filterMap.1 h
    obtain ⟨m, hm, hd⟩ := Option.map_eq_some_iff.1 hd
    cases hd
    exact ⟨Nat.le_max_left .., n, List.mem_zipIdx_iff_getElem?.1 hmem, by rw [hm]; rfl⟩
  · cases h

theorem purgeAt_spec {i due : Nat} (h : c.nextPurge? = some (i, due)) :
    Aged c (c.purgeAt i due) ∧ (c.purgeAt i due).now = due := by
  obtain ⟨hdue, n, hn, hm⟩ := nextPurge?_spec h
  have hw := aged_wait c due
  obtain ⟨ha, hnow⟩ := aged_purge (c := c.move (.wait due)) hn hm
  refine ⟨hw.trans ha, hnow.trans ?_⟩
  exact Nat.max_eq_right hdue

theorem purgeWithin_spec (c : Cluster σ) (t fuel : Nat) :
    Aged c (c.purgeWithin t fuel) ∧ (c.purgeWithin t fuel).now ≤ max c.now t := by
  -- by induction on the ticks that are left; each is due before the time that is waited for
  induction fuel generalizing c with
  | zero => exact ⟨.refl c, Nat.le_max_left ..⟩
  | succ fuel ih =>
    unfold purgeWithin
    split
    · rename_i i due h
      split
      · rename_i hlt
        obtain ⟨ha, hnow⟩ := purgeAt_spec h
        obtain ⟨ha', hle⟩ := ih (c.purgeAt i due)
        refine ⟨ha.trans ha', Nat.le_trans hle ?_⟩
        rw [hnow]
        omega
      · exact ⟨.refl c, Nat.le_max_left ..⟩
    · exact ⟨.refl c, Nat.le_max_left ..⟩

/-- The clock comes to an instant, and no further. -/
theorem advance_spec (c : Cluster σ) (t : Nat) : Aged c (c.advance t) ∧ (c.advance t).now = max c.now t := by
  obtain ⟨ha, hle⟩ := purgeWithin_spec c t (c.purgesBefore t)
  refine ⟨ha.trans (aged_wait _ t), ?_⟩
  show max (c.purgeWithin t _).now t = _
  have := ha.now
  omega

end Cluster

end TwoTier
