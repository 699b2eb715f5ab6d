/-
What each call with a fetch has fetched. A call starts its fetch at most once, and once it is over it
answers either what it fetched or, if it has not fetched, a value it has found.
-/
import TwoTier.Proofs.Cluster.Run

namespace TwoTier

/-- What a call with a fetch has fetched so far, and what it may answer. -/
def Task.Tally (f : Fetch) (t : Task) : Prop :=
  match t.phase with
  | .waiting _ => t.fetches = 0
  | .reading _ _ => t.fetches = 0
  | .queued _ => t.fetches = 0
  | .rereading _ _ => t.fetches = 0
  | .fetching _ _ => t.fetches = 1
  | .storing _ _ _ => t.fetches = 1
  | .finished reply _ =>
    (t.fetches = 1 ∧ reply = .fetched f.outcome) ∨ (t.fetches = 0 ∧ ∃ v, reply = .fetched (.ok (some v)))
  | _ => t.fetches ≤ 1

theorem Task.Tally.le_one {f : Fetch} {t : Task} (h : t.Tally f) : t.fetches ≤ 1 := by
  unfold Tally at h
  cases hp : t.phase <;> rw [hp] at h <;> dsimp only at h <;> omega

/-- What is on its way into both tiers has been fetched. -/
theorem Task.Tally.fetched_of_storing {f : Fetch} {t : Task} (h : t.Tally f) {key : String} {evicted : Bool}
    {trip : Trip Unit} (hp : t.phase = .storing key evicted trip) : t.fetches ≠ 0 := by
  unfold Tally at h
  rw [hp] at h
  exact Nat.ne_of_gt (Nat.lt_of_lt_of_eq Nat.one_pos h.symm)

variable {σ : Type} [Backend σ]

theorem Segment.tally {s s' : Site σ} {t t' : Task} (h : Segment s s' t t') {key : String} {f : Fetch}
    (hc : t.call = .getOrFetch key f) (ht : t.Tally f) : t'.Tally f := by
  cases h with
  | hitLocal => cases hc; exact Or.inr ⟨ht, _, rfl⟩
  | hitShared => cases hc; exact Or.inr ⟨ht, _, rfl⟩
  | rehitLocal => exact Or.inr ⟨ht, _, rfl⟩
  | rehitShared => exact Or.inr ⟨ht, _, rfl⟩
  | missLocal | queue | remissLocal => exact ht
  | fetchAtOnce | remissShared => exact congrArg (· + 1) ht
  | fetched => exact ht
  | unfetched | storedFetched => cases hc; exact Or.inl ⟨ht, rfl⟩
  | missGet | put | stored | drop | dropped | dropAll | swept => cases hc
  | aside hr => cases hc; cases hr

namespace Cluster

variable {c c' : Cluster σ}

/-- Every call with a fetch is tallied. -/
def Tallied (c : Cluster σ) : Prop :=
  ∀ {k i : Nat} {t : Task} {key : String} {f : Fetch}, c.jobs[k]? = some ⟨i, t⟩ → t.call = .getOrFetch key f → t.Tally f

theorem Tallied.step {m : Move} (h : c.Tallied) (hm : Step c m c') : c'.Tallied := by
  intro k i t' key f hj hc
  rcases hm.jobs hj with ⟨t, hk, rfl | ⟨n, s', -, -, hseg⟩ | ⟨-, rfl⟩⟩ | ⟨start, patience, call, -, -, -, rfl⟩
  · exact h hk hc
  · exact hseg.tally (hseg.same.1 ▸ hc) (h hk (hseg.same.1 ▸ hc))
  · exact (h hk hc).le_one
  · exact rfl

end Cluster

end TwoTier
