/-
Bounded staleness. Instances around a store in memory may run their calls in any order, be cut off
from the store and connected again, drop calls, purge and be told to drop entries, while requests
are late, fail or get lost. A look-up is served a value only if a `set` or a fetch has written it for
the same key, and not for longer than its time to live and that of a copy together.
-/
import TwoTier.Proofs.Cluster.Tally
import TwoTier.Proofs.Site.Landing

namespace TwoTier.Cluster

/-! ## What lands in a run -/

/-- What lands with a move: something may when a call that is ready goes on. -/
def landing? (c : Cluster Store) : Move → Option Landing
  | .resume k =>
    match c.jobs[k]? with
    | none => none
    | some ⟨i, t⟩ => (c.nodes[i]?.filter (t.isReady c.now)).bind fun n => t.landing? i (c.siteOf n)
  | _ => none

/-- What lands in a run, in order. -/
def history (c : Cluster Store) : List Move → List Landing
  | [] => []
  | m :: moves => (c.landing? m).toList ++ (c.move m).history moves

variable {c c' : Cluster Store} {log log' : List Landing} {m : Move} {i k : Nat} {n : Node} {t : Task}

theorem landing?_resume (hj : c.jobs[k]? = some ⟨i, t⟩) (hn : c.nodes[i]? = some n) (hr : t.isReady c.now n = true) :
    c.landing? (.resume k) = t.landing? i (c.siteOf n) := by
  simp only [landing?, hj, hn, Option.filter_some, if_pos hr, Option.bind_some]

/-! ## Steps -/

/-- Both tiers of every instance are backed, and so is whatever a look-up was served. -/
structure Backed (log : List Landing) (c : Cluster Store) : Prop where
  lru : ∀ {i : Nat} {n : Node}, c.nodes[i]? = some n → n.lru.Backed log i c.now
  store : c.store.inner.Backed log c.now
  served : ∀ {k i : Nat} {t : Task} {n : Node} {key : String} {v : Json} {ended : Nat}, c.jobs[k]? = some ⟨i, t⟩ →
    c.nodes[i]? = some n → t.call.reads? = some key → t.served? = some (v, ended) →
    TwoTier.Backed log i n.defaultTtl (n.fullKey key) v ended (ended + 1)

theorem backed_of_empty (hj : c.jobs = []) (hl : ∀ n ∈ c.nodes, n.lru.entries = []) (hs : c.store.inner.entries = []) :
    c.Backed log where
  lru hn key e he := by
    unfold Lru.find? at he
    rw [hl _ (List.mem_of_getElem? hn)] at he
    cases he
  store key e he := by
    unfold Store.find? at he
    rw [hs] at he
    cases he
  served hk := by rw [hj] at hk; cases hk

/-- The local tiers after an instance has changed. -/
theorem Backed.lru_set (h : c.Backed log) (hl : log ⊆ log') {now : Nat} (hnow : c.now ≤ now) {a : Node}
    (ha : a.lru.Backed log' i now) {j : Nat} {n' : Node} (hn' : (c.nodes.set i a)[j]? = some n') :
    n'.lru.Backed log' j now := by
  rcases set_cases hn' with ⟨rfl, rfl⟩ | ⟨-, hn'⟩
  · exact ha
  · exact (h.lru hn').mono hl hnow

/-- Both tiers stay backed by what lands with a step. -/
theorem Backed.tiers_step (h : c.Backed log) (hs : c.Sound) (hm : Step c m c') :
    (∀ {j : Nat} {n' : Node}, c'.nodes[j]? = some n' → n'.lru.Backed (log ++ (c.landing? m).toList) j c'.now) ∧
      c'.store.inner.Backed (log ++ (c.landing? m).toList) c'.now := by
  have hsub : log ⊆ log ++ (c.landing? m).toList := List.subset_append_left ..
  have hle := Nat.le_refl c.now
  cases hm with
  | idle | call => exact ⟨fun hn => (h.lru hn).mono hsub hle, h.store.mono hsub hle⟩
  | script => exact ⟨fun hn => (h.lru hn).mono hsub hle, h.store.mono hsub hle⟩
  | wait => exact ⟨fun hn => (h.lru hn).mono hsub (Nat.le_max_left ..), h.store.mono hsub (Nat.le_max_left ..)⟩
  | resume hj hn hr hseg =>
    have hf := hs.fits_node hj hn
    have hb := hseg.backed hf (⟨h.lru hn, h.store⟩ : Site.Backed log _ (c.siteOf _))
    have hnow := hseg.steady.now
    rw [← landing?_resume hj hn hr] at hb
    exact ⟨h.lru_set hsub (Nat.le_of_eq hnow.symm) hb.lru, hb.store⟩
  | cancel hj hn ho =>
    exact ⟨h.lru_set (a := Task.released _ _) hsub hle ((h.lru hn).mono hsub hle), h.store.mono hsub hle⟩
  | purge hn => exact ⟨h.lru_set hsub hle (((h.lru hn).mono hsub hle).purge c.now), h.store.mono hsub hle⟩
  | deliver hn hl =>
    have hb := (h.lru hn).mono hsub hle
    refine ⟨h.lru_set hsub hle ?_, h.store.mono hsub hle⟩
    rcases hl with rfl | ⟨key, rfl⟩ | rfl
    · exact hb
    · exact hb.delete key
    · exact hb.clear

theorem Backed.step (h : c.Backed log) (hs : c.Sound) (ht : c.Tallied) (hm : Step c m c') :
    c'.Backed (log ++ (c.landing? m).toList) := by
  obtain ⟨hlru, hstore⟩ := h.tiers_step hs hm
  refine ⟨hlru, hstore, ?_⟩
  have hsub : log ⊆ log ++ (c.landing? m).toList := List.subset_append_left ..
  intro k i t' n' key v ended hj hn' hc hv
  -- instances are told apart by nothing that matters here
  have hframe : ∀ {n : Node}, c.nodes[i]? = some n → n'.fullKey = n.fullKey ∧ n'.defaultTtl = n.defaultTtl := by
    intro n hn
    have hf := frame_of_frames hm.frames hn hn'
    exact ⟨Node.fullKey_of_frame hf, Node.defaultTtl_of_frame hf⟩
  rcases hm.jobs hj with ⟨t, hk, rfl | ⟨n, s', hn, -, hseg⟩ | ⟨-, rfl⟩⟩ | ⟨_, _, _, -, -, -, rfl⟩
  · obtain ⟨n, hn, -⟩ := hs.fits hk
    obtain ⟨hkey, httl⟩ := hframe hn
    rw [hkey, httl]
    exact (h.served hk hn hc hv).mono hsub (Nat.le_refl _) (Nat.le_refl _)
  · have hf := hs.fits_node hk hn
    obtain ⟨hkey, httl⟩ := hframe hn
    rw [hseg.same.1] at hc
    -- a look-up that stores has fetched
    have hfetches : ∀ key evicted trip, t.phase = .storing key evicted trip → t.fetches ≠ 0 := by
      intro k₀ evicted trip hp
      rw [hp] at hf
      obtain ⟨w, hw, -, -⟩ := hf.storing_inv
      cases hcall : t.call with
      | getOrFetch _ f =>
        have htally := ht hk hcall
        unfold Task.Tally at htally
        rw [hp] at htally
        exact fun h0 => by rw [htally] at h0; cases h0
      | get _ => rw [hcall] at hw; cases hw
      | _ => rw [hcall] at hc; cases hc
    obtain ⟨hended, hb⟩ := hseg.served hf ⟨h.lru hn, h.store⟩ hc hfetches hv
    rw [hkey, httl, hended]
    exact hb.mono hsub (Nat.le_refl _) (Nat.le_refl _)
  · cases hv
  · cases hv

/-! ## Runs -/

theorem Backed.run (h : c.Backed log) (hs : c.Sound) (ht : c.Tallied) (moves : List Move) :
    (c.run moves).Backed (log ++ c.history moves) := by
  induction moves generalizing c log with
  | nil => rw [history, List.append_nil]; exact h
  | cons m moves ih =>
    have hm := step_move hs m
    rw [history, ← List.append_assoc]
    exact ih (h.step hs ht hm) (hm.sound hs) (ht.step hm)

/-- Bounded staleness. Any number of instances with empty local tiers share an empty store. However
their calls, cancellations, connections, purges and messages are interleaved and whatever is scripted:
the value that a look-up is served was written for the same key, has landed in the shared tier or that
of the reader, and has been there for less than its time to live and that of a copy together. -/
theorem bounded_staleness (c : Cluster Store) (hj : c.jobs = []) (hl : ∀ n ∈ c.nodes, n.lru.entries = [])
    (hs : c.store.inner.entries = []) (moves : List Move) {k i ended : Nat} {t : Task} {n : Node} {key : String}
    {v : Json} (ht : (c.run moves).jobs[k]? = some ⟨i, t⟩) (hn : (c.run moves).nodes[i]? = some n)
    (hc : t.call.reads? = some key) (hv : t.served? = some (v, ended)) :
    ∃ ℓ ∈ c.history moves, ℓ.write.key = n.fullKey key ∧ (ℓ.place = none ∨ ℓ.place = some i) ∧ ℓ.Wrote v ∧
      (ℓ.write.value.IsProper → ℓ.write.value = v) ∧ ℓ.time ≤ ended ∧
      ended < ℓ.time + min ℓ.write.ttl maxTtl + n.defaultTtl := by
  have hb := (backed_of_empty hj hl hs : c.Backed []).run (sound_of_no_jobs hj)
    (fun hk => by rw [hj] at hk; cases hk) moves
  obtain ⟨ℓ, hmem, hkey, hplace, hwrote, htime, hgone⟩ := hb.served ht hn hc hv
  exact ⟨ℓ, hmem, hkey, hplace, hwrote, hwrote.eq_of_isProper, htime, hgone⟩

/-- An instance reads what another one has written. -/
theorem bounded_staleness_of_two : ∃ a b, Node.make "a" {} = .ok a ∧ Node.make "b" {} = .ok b ∧
    let c : Cluster Store := {
      store := { inner := {} }
      nodes := [{ a with remote.connected := true }, { b with remote.connected := true }] }
    let moves : List Move := [.call 0 0 none (.set "k" (.int 7) none), .resume 0, .resume 0, .call 1 0 none (.get "k"),
      .resume 1, .resume 1]
    ∃ n, (c.run moves).nodes[1]? = some n ∧ ∃ ℓ ∈ c.history moves, ℓ.write.key = n.fullKey "k" ∧
      (ℓ.place = none ∨ ℓ.place = some 1) ∧ ℓ.Wrote (.int 7) ∧ (ℓ.write.value.IsProper → ℓ.write.value = .int 7) ∧
      ℓ.time ≤ 0 ∧ 0 < ℓ.time + min ℓ.write.ttl maxTtl + n.defaultTtl := by
  refine ⟨_, _, rfl, rfl, _, rfl, bounded_staleness _ rfl ?_ rfl _ (k := 1) rfl rfl rfl rfl⟩
  intro n hn
  fin_cases hn <;> rfl

end TwoTier.Cluster
