/-
Keeping accounts over a run. What is counted early and entered late is the stake of a call between the two, so a `Law`
says that a difference of counts covers what the calls under way stake. It holds along every run, but for what dropped
calls have staked and messages have removed.
-/
import TwoTier.Proofs.Cluster.Doings

namespace TwoTier

namespace Cluster

variable {σ : Type} [Backend σ] {c : Cluster σ} {i : Nat} {n : Node} {μ : Task → ℤ}

/-! ## Along a run -/

/-- What the moves of a run come to together. -/
def along {α : Type} [Zero α] [Add α] (x : Cluster σ → Move → α) (c : Cluster σ) : List Move → α
  | [] => 0
  | m :: moves => x c m + (c.move m).along x moves

/-- What the calls of an instance staked that were dropped. -/
def forfeits (i : Nat) (μ : Task → ℤ) (c : Cluster σ) (moves : List Move) : ℤ :=
  c.along (fun c m => (c.dropped? i m).elim 0 μ) moves

theorem forfeits_nonneg (hμ : ∀ t, 0 ≤ μ t) (c : Cluster σ) (moves : List Move) : 0 ≤ forfeits i μ c moves := by
  induction moves generalizing c with
  | nil => exact le_refl 0
  | cons m moves ih =>
    have hm : 0 ≤ (c.dropped? i m).elim 0 μ := by
      cases c.dropped? i m with
      | none => exact le_refl (0 : ℤ)
      | some t => exact hμ t
    exact add_nonneg hm (ih (c.move m))

theorem forfeits_zero (c : Cluster σ) (moves : List Move) : forfeits i (fun _ => 0) c moves = 0 := by
  induction moves generalizing c with
  | nil => rfl
  | cons m moves ih =>
    show (c.dropped? i m).elim 0 _ + forfeits i _ (c.move m) moves = 0
    rw [ih]
    cases c.dropped? i m <;> rfl

/-- A call that has been dropped stays dropped. -/
theorem forfeits_of_kept (hs : c.Sound) (moves : List Move) (hk : (c.run moves).Kept i) : forfeits i μ c moves = 0 := by
  induction moves generalizing c with
  | nil => rfl
  | cons m moves ih =>
    have hs' := (step_move hs m).sound hs
    -- a call that this move dropped would still be cancelled at the end of the run
    have hm : c.dropped? i m = none := by
      cases m with
      | cancel k =>
        cases hj : c.jobs[k]? with
        | none => simp only [dropped?, hj]; rfl
        | some job =>
          obtain ⟨node, t⟩ := job
          rw [dropped?_of_job hj, if_neg]
          rintro ⟨rfl, ho⟩
          obtain ⟨n, hn, -⟩ := hs.fits hj
          have hc : (c.move (.cancel k)).jobs[k]? = some ⟨node, { t with phase := .cancelled c.now }⟩ := by
            rw [move, onJob_eq hj hn]
            unfold Task.cancel
            rw [if_neg (by rw [ho]; decide)]
            exact after_job hj
          have := hk _ (mem_tasksAt.2 ⟨k, run_over hs' hc rfl moves⟩)
          cases this
      | _ => rfl
    show (c.dropped? i m).elim 0 μ + forfeits i μ (c.move m) moves = 0
    rw [hm, ih hs' hk]
    rfl

/-- How many of the steps that the calls of an instance take in a run meet a condition. -/
def tally (i : Nat) (f : Task → Site σ → Bool) (c : Cluster σ) (moves : List Move) : Nat :=
  c.along (fun c m => (c.resumed? i m).elim 0 fun x => (f x.1 x.2).toNat) moves

theorem tally_false (i : Nat) (c : Cluster σ) (moves : List Move) : tally i (fun _ _ => false) c moves = 0 := by
  induction moves generalizing c with
  | nil => rfl
  | cons m moves ih =>
    unfold tally at ih ⊢
    rw [along, ih]
    cases c.resumed? i m <;> rfl

/-- A reading of the counts that every step raises by the one condition less the other. -/
theorem tally_run {a : Slip → Nat} {f g : Task → Site σ → Bool} (ha : ∀ p q, a (p.plus q) = a p + a q)
    (hstep : ∀ {s : Site σ} {t t' : Task} {p : Slip}, Posting s t t' p → p.failures = (t.fails s).toNat →
      a p + (g t s).toNat = (f t s).toNat)
    (hlru : ∀ l, a { counted := l } = 0) {n n' : Node} (hs : c.Sound) (hn : c.nodes[i]? = some n) (moves : List Move)
    (hn' : (c.run moves).nodes[i]? = some n') : a n'.total + tally i g c moves = a n.total + tally i f c moves := by
  induction moves generalizing c n with
  | nil => cases hn.symm.trans hn'; rfl
  | cons m moves ih =>
    obtain ⟨n₁, p, old, new, hn₁, htotal, hd, -⟩ := done_move hs hn m
    have hrest := ih ((step_move hs m).sound hs) hn₁ hn'
    have hm : a p + (c.resumed? i m).elim 0 (fun x => (g x.1 x.2).toNat) =
        (c.resumed? i m).elim 0 fun x => (f x.1 x.2).toNat := by
      cases hd with
      | nothing hr => rw [hr]; exact hlru {}
      | call | cancel => exact hlru {}
      | posting hr hp hf => rw [hr]; exact hstep hp hf
      | purge | deliver => exact hlru _
    rw [htotal, ha] at hrest
    unfold tally at hrest ⊢
    simp only [along]
    omega

end Cluster

/-! ## Laws -/

/-- A difference of counts, and what a call stakes for it between counting and entering. -/
structure Law where
  /-- What a slip comes to. -/
  worth : Slip → ℤ
  /-- What a call stakes. -/
  stake : Task → ℤ := fun _ => 0

namespace Law

open Cluster

/-- The difference covers the stake of a call, whatever step it takes. -/
structure Valid (L : Law) (σ : Type) (coalesce : Bool) : Prop where
  worth_plus : ∀ p q, L.worth (p.plus q) = L.worth p + L.worth q
  posting : ∀ {s : Site σ} {t t' : Task} {p : Slip}, s.node.coalesce = coalesce → Posting s t t' p →
    L.stake t' ≤ L.worth p + L.stake t
  waiting : ∀ {t : Task} {start : Nat}, t.phase = .waiting start → L.stake t = 0
  cancelled : ∀ {t : Task} {ended : Nat}, t.phase = .cancelled ended → L.stake t = 0
  expired : ∀ e, L.worth { counted := { expirations := e } } = 0

/-- And nothing is left over. -/
structure Exact (L : Law) (σ : Type) (coalesce : Bool) : Prop extends Valid L σ coalesce where
  exact : ∀ {s : Site σ} {t t' : Task} {p : Slip}, s.node.coalesce = coalesce → Posting s t t' p →
    L.stake t' = L.worth p + L.stake t
  posting := fun hco h => le_of_eq (exact hco h)

/-- What so many removals by messages come to. -/
def removed (L : Law) (k : Nat) : ℤ := L.worth { counted := { deletes := k } }

variable {σ : Type} {coalesce : Bool} {L : Law} {c : Cluster σ} {i : Nat} {n n' : Node}

namespace Valid

variable (hL : L.Valid σ coalesce)

include hL

theorem worth_empty : L.worth {} = 0 := by
  have h := hL.worth_plus {} {}
  change L.worth {} = _ at h
  omega

theorem removed_zero : L.removed 0 = 0 := hL.worth_empty

theorem removed_add (a b : Nat) : L.removed (a + b) = L.removed a + L.removed b :=
  hL.worth_plus { counted := { deletes := a } } { counted := { deletes := b } }

variable [Backend σ]

/-- One move keeps the law. -/
theorem step {m : Move} {p : Slip} {old new : Option Task} (hco : n.coalesce = coalesce) (h : Doing c i n m p old new) :
    ∃ rest : ℤ, 0 ≤ rest ∧ (L.Exact σ coalesce → rest = 0) ∧ L.worth p + old.elim 0 L.stake =
      new.elim 0 L.stake + (c.dropped? i m).elim 0 L.stake + L.removed (c.removals i m) + rest := by
  cases h with
  | nothing hr hd he =>
    refine ⟨0, le_refl 0, fun _ => rfl, ?_⟩
    rw [hd, he, hL.removed_zero, hL.worth_empty]
    rfl
  | call ticket =>
    refine ⟨0, le_refl 0, fun _ => rfl, ?_⟩
    show L.worth {} + 0 = L.stake _ + 0 + L.removed 0 + 0
    rw [hL.waiting rfl, hL.removed_zero, hL.worth_empty]
    rfl
  | @posting k t t' p hr hp hf =>
    have hle := hL.posting hco hp
    -- what the law lets a posting gain is what is left over, and nothing is where the law is exact
    refine ⟨L.worth p + L.stake t - L.stake t', by omega, fun he => ?_, ?_⟩
    · have := he.exact hco hp
      omega
    · show L.worth p + L.stake t = L.stake t' + 0 + L.removed 0 + _
      rw [hL.removed_zero]
      omega
  | @cancel k t hj hd =>
    have hover : L.stake { t with phase := .cancelled c.now } = 0 := hL.cancelled rfl
    refine ⟨0, le_refl 0, fun _ => rfl, ?_⟩
    rw [hd, hL.worth_empty]
    show 0 + L.stake t = L.stake _ + L.stake t + L.removed 0 + 0
    rw [hL.removed_zero, hover]
    omega
  | purge =>
    refine ⟨0, le_refl 0, fun _ => rfl, ?_⟩
    show L.worth _ + 0 = 0 + 0 + L.removed 0 + 0
    rw [hL.removed_zero, hL.expired]
    rfl
  | deliver => exact ⟨0, le_refl 0, fun _ => rfl, by show L.removed _ + 0 = 0 + 0 + L.removed _ + 0; omega⟩

/-- A law along a run, with what is left over. -/
theorem run_spec (hs : c.Sound) (hn : c.nodes[i]? = some n) (hco : n.coalesce = coalesce) (moves : List Move)
    (hn' : (c.run moves).nodes[i]? = some n') :
    ∃ rest : ℤ, 0 ≤ rest ∧ (L.Exact σ coalesce → rest = 0) ∧ L.worth n'.total + c.load i L.stake =
      L.worth n.total + (c.run moves).load i L.stake + forfeits i L.stake c moves +
        L.removed (c.along (removals · i) moves) + rest := by
  -- what is left over of each move adds up, and so does what dropped calls forfeit
  induction moves generalizing c n with
  | nil =>
    cases hn.symm.trans hn'
    refine ⟨0, le_refl 0, fun _ => rfl, ?_⟩
    show _ = L.worth _ + c.load i L.stake + 0 + L.removed 0 + 0
    rw [hL.removed_zero]
    omega
  | cons m moves ih =>
    obtain ⟨n₁, p, old, new, hn₁, htotal, hd, hload⟩ := done_move hs hn m
    obtain ⟨n₂, hn₂, hframe⟩ := node_of_frames (step_move hs m).frames hn
    cases hn₁.symm.trans hn₂
    obtain ⟨rest, hrest, hexact, h⟩ := hL.step hco hd
    obtain ⟨rest', hrest', hexact', h'⟩ :=
      ih ((step_move hs m).sound hs) hn₁ ((Node.coalesce_of_frame hframe).trans hco) hn'
    refine ⟨rest + rest', add_nonneg hrest hrest', fun he => ?_, ?_⟩
    · rw [hexact he, hexact' he]
      rfl
    · have hl := hload L.stake
      have hremoved : L.removed (c.along (removals · i) (m :: moves)) =
          L.removed (c.removals i m) + L.removed ((c.move m).along (removals · i) moves) := hL.removed_add ..
      have hforfeits : forfeits i L.stake c (m :: moves) =
          (c.dropped? i m).elim 0 L.stake + forfeits i L.stake (c.move m) moves := rfl
      have hrun : (c.run (m :: moves)).load i L.stake = ((c.move m).run moves).load i L.stake := rfl
      rw [htotal, hL.worth_plus] at h'
      rw [hremoved, hforfeits, hrun]
      omega

/-- What an instance has counted since it was made covers all stakes. -/
theorem covers (hj : c.jobs = []) (hn : c.nodes[i]? = some n) (hco : n.coalesce = coalesce) (h₀ : L.worth n.total = 0)
    (hstake : ∀ t, 0 ≤ L.stake t) (moves : List Move) (hn' : (c.run moves).nodes[i]? = some n') :
    (c.run moves).load i L.stake + L.removed (c.along (removals · i) moves) ≤ L.worth n'.total := by
  obtain ⟨rest, hrest, -, h⟩ := hL.run_spec (sound_of_no_jobs hj) hn hco moves hn'
  have hload : c.load i L.stake = 0 := load_of_no_jobs hj
  have := forfeits_nonneg (i := i) hstake c moves
  omega

/-- Where calls stake nothing, it covers what messages have removed. -/
theorem covers_of_no_stake (hj : c.jobs = []) (hn : c.nodes[i]? = some n) (hco : n.coalesce = coalesce)
    (h₀ : L.worth n.total = 0) (hstake : L.stake = fun _ => 0) (moves : List Move)
    (hn' : (c.run moves).nodes[i]? = some n') : L.removed (c.along (removals · i) moves) ≤ L.worth n'.total := by
  have h := hL.covers hj hn hco h₀ (fun t => by rw [hstake]) moves hn'
  rwa [hstake, load_zero, zero_add] at h

end Valid

namespace Exact

variable [Backend σ] (hL : L.Exact σ coalesce) (hj : c.jobs = []) (hn : c.nodes[i]? = some n) (hco : n.coalesce = coalesce)
  (h₀ : L.worth n.total = 0)

include hL hj hn hco h₀

/-- If no call was dropped, what an instance has counted since it was made is what its calls stake. -/
theorem balances (moves : List Move) (hn' : (c.run moves).nodes[i]? = some n') (hk : (c.run moves).Kept i) :
    L.worth n'.total = (c.run moves).load i L.stake + L.removed (c.along (removals · i) moves) := by
  obtain ⟨rest, -, hexact, h⟩ := hL.run_spec (sound_of_no_jobs hj) hn hco moves hn'
  have hload : c.load i L.stake = 0 := load_of_no_jobs hj
  have hforfeits : forfeits i L.stake c moves = 0 := forfeits_of_kept (sound_of_no_jobs hj) moves hk
  have := hexact hL
  omega

/-- Where calls stake nothing it does not matter who is dropped. -/
theorem balances_of_no_stake (hstake : L.stake = fun _ => 0) (moves : List Move)
    (hn' : (c.run moves).nodes[i]? = some n') : L.worth n'.total = L.removed (c.along (removals · i) moves) := by
  obtain ⟨rest, -, hexact, h⟩ := hL.run_spec (sound_of_no_jobs hj) hn hco moves hn'
  have hforfeits : forfeits i L.stake c moves = 0 := hstake ▸ forfeits_zero c moves
  have hload : ∀ c : Cluster σ, c.load i L.stake = 0 := fun c => hstake ▸ load_zero c i
  have := hexact hL
  rw [hload, hload] at h
  omega

end Exact

end Law

end TwoTier
