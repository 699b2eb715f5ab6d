/-
Keys that are gone. Once both tiers of an instance lack a key that nobody writes, they go on lacking it,
and whoever looks it up from then on finds nothing: at once if the store is calm, and however the calls
take turns.
-/
import TwoTier.Proofs.Cluster.Provenance
import TwoTier.Proofs.Schedule.Removal

namespace TwoTier

/-! ## Look-ups in vain -/

/-- A look-up that has not found anything. -/
def Task.Unserved (t : Task) : Prop := ∀ reply ended, t.phase = .finished reply ended → reply = .value none

namespace Segment

variable {s s' : Site Store} {t t' : Task} {key k : String}

/-- Who reads a key that neither tier holds asks the store, which answers at once if it is calm, and is
answered with nothing. -/
theorem in_vain (h : Segment s s' t t') (hf : t.phase.Fits s.node t.call) (hc : t.call = .get key)
    (hl : s.node.lru.find? (s.node.fullKey key) = none) (hst : s.store.inner.find? (s.node.fullKey key) = none) :
    (∃ trip, t'.phase = .reading (s.node.fullKey key) trip ∧ (s.store.Calm → trip.ends = s.now)) ∨
      t'.phase = .finished (.value none) s.now := by
  cases h with
  | hitLocal hc' hv =>
    cases hc
    cases hc'
    obtain ⟨e, he, -⟩ := Lru.live?_eq_some_iff.1 hv
    rw [hl] at he
    cases he
  | missLocal hc' hv hs ht =>
    cases hc
    cases hc'
    refine Or.inl ⟨_, rfl, fun hcalm => (Site.ends_of_calm ?_ ht).trans hs.now⟩
    rw [hs.store]
    exact hcalm
  | hitShared hf' hv =>
    obtain ⟨short, hc', rfl, hr⟩ := hf.reading_inv
    cases hc
    cases hc'
    obtain ⟨e, he, -⟩ := Site.live?_of_valueOf? hf' hr hv
    cases (Store.live?_eq_some_iff.1 he).1.symm.trans hst
  | missGet => exact Or.inr rfl
  | aside hc' => cases hc; cases hc'
  | _ => cases hc

/-- A call that does not write a key leaves tiers that lack it without it. -/
theorem lacks (h : Segment s s' t t') (hf : t.phase.Fits s.node t.call)
    (hw : ∀ w, t.call.writes? s.node = some w → w.key ≠ k) (hl : s.node.lru.find? k = none)
    (hst : s.store.inner.find? k = none) : s'.node.lru.find? k = none ∧ s'.store.inner.find? k = none := by
  have hgains := h.gains hf 0
  constructor
  · refine Option.eq_none_iff_forall_ne_some.2 fun e he => ?_
    rcases hgains.lru he with he | hcopy | ⟨w, hw', rfl, -⟩
    · cases hl.symm.trans he
    · exact absurd hst hcopy.find?_ne_none
    · exact hw w (Task.writes?_of_landing? hw') rfl
  · refine Option.eq_none_iff_forall_ne_some.2 fun e he => ?_
    rcases hgains.store he with he | ⟨w, hw', rfl, -⟩
    · cases hst.symm.trans he
    · exact hw w (Task.writes?_of_landing? hw') rfl

end Segment

namespace Cluster

/-- Both tiers of an instance lack a key. -/
structure Lacks (c : Cluster Store) (i : Nat) (k : String) : Prop where
  store : c.store.inner.find? k = none
  lru : ∀ {n : Node}, c.nodes[i]? = some n → n.lru.find? k = none

variable {c c' : Cluster Store} {m : Move} {K : String → Prop} {k : String} {key : String} {i : Nat} {n : Node}

theorem Lacks.step (h : c.Lacks i k) (he : c.Engaged (c.Spares K)) (hs : c.Sound) (hm : Step c m c') (hk : K k) :
    c'.Lacks i k := by
  constructor
  · cases hf : c'.store.inner.find? k with
    | none => rfl
    | some e => rw [← he.store_step hs hm hk hf, h.store]
  · intro n' hn'
    cases hf : n'.lru.find? k with
    | none => rfl
    | some e =>
      rcases he.lru_step hs hm hk hn' hf with ⟨n, hn, hf⟩ | ⟨g, t, n, -, -, -, hcopy⟩
      · rw [← hf, h.lru hn]
      · exact absurd h.store hcopy.find?_ne_none

/-- As long as nobody writes the key, it stays gone, and look-ups that are made from now on are not
served. -/
theorem Lacks.run (h : c.Lacks i (n.fullKey key)) (hn : c.nodes[i]? = some n) (he : c.Engaged (c.Spares K))
    (hs : c.Sound) (hk : K (n.fullKey key)) {moves : List Move} (hm : ∀ m ∈ moves, m.Calls (c.Spares K)) :
    (c.run moves).Lacks i (n.fullKey key) ∧ ∀ {g : Nat} {t : Task}, c.jobs.length ≤ g →
      (c.run moves).jobs[g]? = some ⟨i, t⟩ → t.call = .get key → t.Unserved := by
  -- by induction on the moves, with the key gone and no new look-up served as the invariant
  have hrun := run_trace (P := fun _ c' => c'.nodes.map Node.frame = c.nodes.map Node.frame ∧ c'.Engaged (c.Spares K) ∧
    c.jobs.length ≤ c'.jobs.length ∧ c'.Lacks i (n.fullKey key) ∧ ∀ {g : Nat} {t : Task}, c.jobs.length ≤ g →
      c'.jobs[g]? = some ⟨i, t⟩ → t.call = .get key → t.Unserved) hs moves
    ⟨rfl, he, Nat.le_refl _, h, fun hg hj => absurd (List.getElem?_eq_some_iff.1 hj).1 (Nat.not_lt.2 hg)⟩ <| by
      rintro before m after rfl hs' ⟨hframes, he, hlen, hlacks, hget⟩ hstep
      have he' : (c.run before).Engaged ((c.run before).Spares K) := fun _ _ _ hj ho => (he hj ho).of_frames hframes
      refine ⟨hstep.frames.trans hframes, he.step (hm m (by simp)) hstep, Nat.le_trans hlen hstep.jobs_length,
        hlacks.step he' hs' hstep hk, fun {g t'} hg hj hc => ?_⟩
      rcases hstep.jobs hj with ⟨t, hj₀, rfl | ⟨n', s', hn', -, hseg⟩ | ⟨-, rfl⟩⟩ |
        ⟨start, patience, call, -, -, -, rfl⟩
      · exact hget hg hj₀ hc
      · have hf := hs'.fits_node hj₀ hn'
        have hfr := frame_of_frames hframes hn hn'
        have hkey := congrFun (Node.fullKey_of_frame hfr) key
        intro reply ended hp
        rcases hseg.in_vain hf (hseg.same.1 ▸ hc) (hkey ▸ hlacks.lru hn') (hkey ▸ hlacks.store) with
          ⟨trip, hp', -⟩ | hp' <;>
          rw [hp'] at hp <;> cases hp
        rfl
      · exact nofun
      · exact nofun
  exact ⟨hrun.2.2.2.1, hrun.2.2.2.2⟩

/-- On a calm store such a look-up comes to its end at once. -/
theorem Lacks.visit (h : c.Lacks i (n.fullKey key)) (hs : c.Sound) (hn : c.nodes[i]? = some n) (hcalm : c.store.Calm) :
    ∃ t, ((c.move (.call i c.now none (.get key))).visit c.jobs.length).jobs[c.jobs.length]? = some ⟨i, t⟩ ∧
      t.phase = .finished (.value none) c.now := by
  have hs' := (step_move hs (.call i c.now none (.get key))).sound hs
  rw [move_call hn] at hs' ⊢
  obtain ⟨t, hj, ⟨-, hnow, -, ⟨n', hn', -⟩, hphase⟩, hready⟩ :=
    visit_induct (P := fun t c' => t.call = .get key ∧ c'.now = c.now ∧
      c'.store.Calm ∧ (∃ n', c'.nodes[i]? = some n' ∧ n'.frame = n.frame ∧ n'.lru.find? (n.fullKey key) = none ∧
        c'.store.inner.find? (n.fullKey key) = none) ∧
      ((∃ start, t.phase = .waiting start ∧ start ≤ c.now) ∨
        (∃ key trip, t.phase = .reading key trip ∧ trip.ends ≤ c.now) ∨ t.phase = .finished (.value none) c.now))
    hs' List.getElem?_concat_length rfl
    ⟨rfl, rfl, hcalm, ⟨n, hn, rfl, h.lru hn, h.store⟩, Or.inl ⟨_, rfl, Nat.le_refl _⟩⟩ <| by
      rintro c' t t' n' s' hs' hj hn' hover ⟨hc, hnow, hcalm, ⟨n₁, hn₁, hfr, hl, hst⟩, -⟩ hstep
      rw [hn'] at hn₁
      cases hn₁
      have hf := hs'.fits_node hj hn'
      have hseg := segment_step (s := c'.siteOf n') hf hover hstep
      -- the instance spells the key as it always did
      have hkey := congrFun (Node.fullKey_of_frame hfr) key
      obtain ⟨hl', hst'⟩ := hseg.lacks hf (by rw [hc]; exact nofun) hl hst
      have hcalm' : s'.store.Calm := by
        have := t.step_calm (s := c'.siteOf n') hcalm
        rwa [hstep] at this
      refine ⟨hseg.same.1.trans hc, hseg.steady.now.trans hnow, hcalm',
        ⟨_, after_node hn', hseg.steady.frame.trans hfr, hl', hst'⟩, ?_⟩
      rw [← hkey] at hl hst
      rcases hseg.in_vain hf hc hl hst with ⟨trip, hp, hends⟩ | hp
      · exact Or.inr (Or.inl ⟨_, _, hp, Nat.le_of_eq ((hends hcalm).trans hnow)⟩)
      · exact Or.inr (Or.inr (hp.trans (congrArg _ hnow)))
  refine ⟨t, hj, ?_⟩
  -- it waits for nothing that is later than now, and it is not ready
  have hdue : ∀ {due : Nat}, t.phase.due? = some due → due ≤ c.now → False := by
    intro due hd hle
    rw [isReady, hn'] at hready
    exact Bool.eq_false_iff.1 hready (Task.isReady_of_due hd (Nat.le_trans hle (Nat.le_of_eq hnow.symm)))
  rcases hphase with ⟨start, hp, hle⟩ | ⟨_, trip, hp, hle⟩ | hp
  · exact (hdue (by rw [hp]; rfl) hle).elim
  · exact (hdue (by rw [hp]; rfl) hle).elim
  · exact hp

/-- Made when nobody else is in progress, such a look-up comes to its end, whatever is scripted. -/
theorem Lacks.request (h : c.Lacks i (n.fullKey key)) (hd : c.Deserted) (hn : c.nodes[i]? = some n) :
    ∃ t c' ended, c.request i (.get key) none = (some t, c') ∧ t.phase = .finished (.value none) ended := by
  obtain ⟨t, c', hreq, hover, -, -, -, hphase⟩ := request_induct (P := fun t c' => t.patience = none ∧
      t.call = .get key ∧ (∃ n', c'.nodes[i]? = some n' ∧ n'.frame = n.frame ∧ n'.lru.find? (n.fullKey key) = none ∧
        c'.store.inner.find? (n.fullKey key) = none) ∧
          (t.phase.isOver = true → ∃ ended, t.phase = .finished (.value none) ended))
    hd hn (.get key) none ⟨rfl, rfl, ⟨n, hn, rfl, h.lru hn, h.store⟩, nofun⟩ <| by
      rintro t t' n' c c' hj hn' hf ⟨hp, hc, ⟨n₁, hn₁, hfr, hl, hst⟩, hphase⟩ hturn
      rw [hn'] at hn₁
      cases hn₁
      cases hturn with
      | goesOn hr hseg hstep =>
        have hkey := congrFun (Node.fullKey_of_frame hfr) key
        obtain ⟨hl', hst'⟩ := hseg.lacks hf (by rw [hc]; exact nofun) hl hst
        refine ⟨hseg.same.2.2.trans hp, hseg.same.1.trans hc,
          ⟨_, after_node hn', hseg.steady.frame.trans hfr, hl', hst'⟩, fun hover => ?_⟩
        rw [← hkey] at hl hst
        rcases hseg.in_vain hf hc hl hst with ⟨trip, hp', -⟩ | hp'
        · rw [hp'] at hover
          cases hover
        · exact ⟨_, hp'⟩
      | dropped hw hlt hpat => rw [hp] at hpat; cases hpat
      -- time only takes entries away
      | sleeps hw hlt =>
        rename_i due d _ _
        obtain ⟨haged, -⟩ := advance_spec c d
        obtain ⟨n₂, hn₂, ha⟩ := haged.nodes hn'
        refine ⟨hp, hc, ⟨n₂, hn₂, ha.frame.trans hfr, ?_, by rw [haged.store]; exact hst⟩, hphase⟩
        exact Option.eq_none_iff_forall_ne_some.2 fun e he => by cases hl.symm.trans (ha.old _ e he)
  obtain ⟨ended, hp⟩ := hphase hover
  exact ⟨t, _, ended, hreq, hp⟩

end Cluster

end TwoTier
