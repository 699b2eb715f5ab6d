/-
Keys that nobody writes. While no call under way writes a key, the shared tier never gains it, and a
local tier gains it in one way only: a look-up copies what the shared tier still holds. What the calls
under way may be, what the store keeps and who is connected are followed move by move.
-/
import TwoTier.Proofs.Cluster.Run
import TwoTier.Proofs.Site.Landing
import TwoTier.Proofs.Store.Calm

namespace TwoTier

/-! ## Segments -/

/-- Only what a call writes lands with it. -/
theorem Task.writes?_of_landing? {i : Nat} {t : Task} {s : Site Store} {p : Option Nat} {w : Writing} {now : Nat}
    (h : t.landing? i s = some ⟨p, w, now⟩) : t.call.writes? s.node = some w := by
  obtain ⟨w', hw, h⟩ := Option.bind_eq_some_iff.1 h
  split at h
  · cases h; exact hw
  · cases h; exact hw
  · split at h
    · cases h; exact hw
    · cases h
  · cases h

/-- A move that makes a call makes one of a kind. -/
def Move.Calls (P : Nat → Call → Prop) : Move → Prop
  | .call i _ _ asked => P i asked
  | _ => True

namespace Cluster

variable {σ : Type} [Backend σ] {c c' : Cluster σ} {m : Move} {i : Nat}

/-! ## Runs, move by move -/

/-- What holds before a run and is kept by each of its moves holds at its end, where it may speak of
the moves so far. -/
theorem run_trace {P : List Move → Cluster σ → Prop} (hs : c.Sound) (moves : List Move) (h : P [] c)
    (hstep : ∀ before m after, moves = before ++ m :: after → (c.run before).Sound → P before (c.run before) →
      Step (c.run before) m ((c.run before).move m) → P (before ++ [m]) ((c.run before).move m)) :
      P moves (c.run moves) := by
  -- the induction is on what is left of the run, for any beginning
  have hrest : ∀ rest before, moves = before ++ rest → P before (c.run before) → P moves (c.run moves) := by
    intro rest
    induction rest with
    | nil =>
      rintro before rfl h
      rw [List.append_nil]
      exact h
    | cons m rest ih =>
      intro before hm h
      have hs' := run_sound hs before
      refine ih (before ++ [m]) (by rw [hm, List.append_assoc]; rfl) ?_
      rw [run_concat]
      exact hstep before m rest hm hs' h (step_move hs' m)
  exact hrest moves [] rfl h

/-- Whatever drawing from the script and serving requests keep of a store, moves keep if their own
scripts do. -/
theorem move_store {Q : Scripted σ → Prop} (draw : ∀ st m, Q st → Q (st.draw m).2)
    (serve : ∀ (st : Scripted σ) {α : Type} (r : Request α) (now : Nat), Q st → Q (st.serve now r).2)
    (script : ∀ st method f, m = .script method f → Q st → Q (st.script method f)) (h : Q c.store) :
    Q (c.move m).store := by
  -- what is kept by the work on one call or one instance is kept by the move that does it
  have hjob : ∀ {k : Nat} {f : Task → Site σ → Task × Site σ}, (∀ t s, Q s.store → Q (f t s).2.store) →
      Q (c.onJob k f).store := by
    intro k f hf
    unfold onJob site?
    split
    · exact h
    · rename_i job _
      cases c.nodes[job.node]? with
      | none => exact h
      | some n => exact hf job.task _ h
  have hsite : ∀ {k : Nat} {f : Site σ → Site σ}, (∀ s, Q s.store → Q (f s).store) → Q (c.onSite k f).store := by
    intro k f hf
    unfold onSite site?
    cases c.nodes[k]? with
    | none => exact h
    | some n => exact hf _ h
  cases m with
  | call =>
    rw [move]
    split <;> exact h
  | resume k =>
    rw [move]
    split
    · exact hjob fun t s hs => t.step_store draw serve hs
    · exact h
  | cancel k =>
    refine hjob fun t s hs => ?_
    unfold Task.cancel
    split
    · exact hs
    · cases t.phase.line? <;> exact hs
  | wait => exact h
  | purge => exact hsite fun s hs => hs
  | deliver => exact hsite fun s hs => hs
  | script method f => exact script _ method f rfl h

omit [Backend σ] in
theorem move_mild {c : Cluster Store} {bound : Nat} (h : c.store.Mild bound)
    (hm : ∀ method f, m = .script method f → f.Mild bound) : (c.move m).store.Mild bound :=
  move_store (Q := (·.Mild bound)) (fun _ m h => (h.draw m).2) (fun _ _ r now h => h.serve r now)
    (fun _ method f heq h => h.script (hm method f heq) method) h

omit [Backend σ] in
theorem run_calm {c : Cluster Store} (hcalm : c.store.Calm) {moves : List Move}
    (h : ∀ method f, .script method f ∉ moves) : (c.run moves).store.Calm := by
  induction moves generalizing c with
  | nil => exact hcalm
  | cons m moves ih =>
    refine ih (move_store (fun _ m h => by rw [h.draw]; exact h)
      (fun _ _ r now h => h.serve r now) ?_ hcalm) fun method f hm => ?_
    · rintro st method f rfl -
      exact absurd List.mem_cons_self (h method f)
    · exact h method f (List.mem_cons_of_mem _ hm)

/-! ## What the calls under way are -/

/-- All calls under way are of a kind. -/
def Engaged (P : Nat → Call → Prop) (c : Cluster σ) : Prop :=
  ∀ ⦃k i : Nat⦄ ⦃t : Task⦄, c.jobs[k]? = some ⟨i, t⟩ → t.phase.isOver = false → P i t.call

variable {P : Nat → Call → Prop}

theorem Engaged.step (h : c.Engaged P) (hm : m.Calls P) (hs : Step c m c') : c'.Engaged P := by
  intro k i t' hj hover
  rcases hs.jobs hj with ⟨t, hk, rfl | ⟨n, s', -, hr, hseg⟩ | ⟨-, rfl⟩⟩ | ⟨start, patience, call, rfl, -, -, rfl⟩
  · exact h hk hover
  · rw [hseg.same.1]
    exact h hk (isReady_not_over hr)
  · cases hover
  · exact hm

/-- Calls that neither connect an instance nor shut it down. -/
def Stays (i j : Nat) (call : Call) : Prop := j = i → call ≠ .connect ∧ call ≠ .shutdown

/-- Without these the instance stays connected. -/
theorem Engaged.connected (h : c.Engaged (Stays i)) (hs : Step c m c')
    (hc : ∀ n, c.nodes[i]? = some n → n.remote.connected = true) {n' : Node} (hn' : c'.nodes[i]? = some n') :
    n'.remote.connected = true := by
  cases hs with
  | idle | call | wait | script => exact hc n' hn'
  | resume hj hn hr hseg =>
    rcases set_cases hn' with ⟨rfl, rfl⟩ | ⟨-, hn'⟩
    · obtain ⟨h₁, h₂⟩ := h hj (isReady_not_over hr) rfl
      exact (hseg.connected h₁ h₂).trans (hc _ hn)
    · exact hc n' hn'
  | cancel hj hn | purge hn | deliver hn =>
    rcases set_cases hn' with ⟨rfl, rfl⟩ | ⟨-, hn'⟩
    · exact (hc _ hn :)
    · exact hc n' hn'

/-- Calls that write no key of a kind. -/
def Spares (c : Cluster σ) (K : String → Prop) (i : Nat) (call : Call) : Prop :=
  ∀ n w, c.nodes[i]? = some n → call.writes? n = some w → ¬ K w.key

omit [Backend σ] in
theorem Spares.of_frames {K : String → Prop} {call : Call} (h : c'.nodes.map Node.frame = c.nodes.map Node.frame)
    (hc : c.Spares K i call) : c'.Spares K i call := by
  intro n w hn hw
  obtain ⟨n₀, hn₀, hf⟩ := node_of_frames h.symm hn
  exact hc n₀ w hn₀ (by rw [Call.writes?_of_frame hf]; exact hw)

end Cluster

/-! ## Absence -/

namespace Cluster.Engaged

variable {c c' : Cluster Store} {m : Move} {K : String → Prop} {k : String} {i : Nat}

/-- The store gains no key that nobody writes. -/
theorem store_step (h : c.Engaged (c.Spares K)) (hs : c.Sound) (hm : Step c m c') (hk : K k) {e : Stored}
    (he : c'.store.inner.find? k = some e) : c.store.inner.find? k = some e := by
  cases hm with
  | resume hj hn hr hseg =>
    have hf := hs.fits_node hj hn
    rcases (hseg.gains hf 0).store he with he | ⟨w, hw, rfl, -⟩
    · exact he
    · exact absurd hk (h hj (isReady_not_over hr) _ w hn (Task.writes?_of_landing? hw))
  | _ => exact he

/-- A local tier gains a key that nobody writes only as a copy of what the store holds. -/
theorem lru_step (h : c.Engaged (c.Spares K)) (hs : c.Sound) (hm : Step c m c') (hk : K k) {n' : Node} {e : Entry Json}
    (hn' : c'.nodes[i]? = some n') (he : n'.lru.find? k = some e) :
    (∃ n, c.nodes[i]? = some n ∧ n.lru.find? k = some e) ∨
      ∃ g t n, m = .resume g ∧ c.jobs[g]? = some ⟨i, t⟩ ∧ c.nodes[i]? = some n ∧ t.Copies (c.siteOf n) k e := by
  cases hm with
  | idle | call | wait | script => exact Or.inl ⟨n', hn', he⟩
  | resume hj hn hr hseg =>
    rcases set_cases hn' with ⟨rfl, rfl⟩ | ⟨-, hn'⟩
    · have hf := hs.fits_node hj hn
      -- it was there, it is a copy, or it is written, which nobody does
      rcases (hseg.gains hf i).lru he with he | hcopy | ⟨w, hw, rfl, -⟩
      · exact Or.inl ⟨_, hn, he⟩
      · exact Or.inr ⟨_, _, _, rfl, hj, hn, hcopy⟩
      · exact absurd hk (h hj (isReady_not_over hr) _ w hn (Task.writes?_of_landing? hw))
    · exact Or.inl ⟨n', hn', he⟩
  | cancel hj hn ho =>
    rcases set_cases hn' with ⟨rfl, rfl⟩ | ⟨-, hn'⟩
    · exact Or.inl ⟨_, hn, he⟩
    · exact Or.inl ⟨n', hn', he⟩
  | purge hn =>
    rcases set_cases hn' with ⟨rfl, rfl⟩ | ⟨-, hn'⟩
    · refine Or.inl ⟨_, hn, ?_⟩
      rw [show (Lru.purge _ c.now).2.find? k = _ from Lru.find?_purge ..] at he
      exact (Option.filter_eq_some_iff.1 he).1
    · exact Or.inl ⟨n', hn', he⟩
  | deliver hn hl =>
    rcases set_cases hn' with ⟨rfl, rfl⟩ | ⟨-, hn'⟩
    · refine Or.inl ⟨_, hn, ?_⟩
      rcases hl with rfl | ⟨key, rfl⟩ | rfl
      · exact he
      · exact Lru.find?_of_find?_delete he
      · cases he
    · exact Or.inl ⟨n', hn', he⟩

end Cluster.Engaged

end TwoTier
