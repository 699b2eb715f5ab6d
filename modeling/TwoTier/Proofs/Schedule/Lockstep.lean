/-
Clusters in lockstep. When a relation between clusters leaves the schedule no difference to see, and is
kept by all that the schedule does, then two clusters that are so related go through a request side by
side and come to its end alike. The stores of the two need not be of one kind.
-/
import TwoTier.Proofs.Schedule.Solo

namespace TwoTier.Cluster

variable {σ τ : Type} {c : Cluster σ} {c' : Cluster τ}

/-! ## The clock -/

theorem filterMap_zipIdx_of_plans {β : Type} (g : Option Maintenance → Nat → Option β)
    (h : c'.nodes.map Node.maintenance = c.nodes.map Node.maintenance) :
    (c'.nodes.zipIdx.filterMap fun e => g e.1.maintenance e.2) = c.nodes.zipIdx.filterMap fun e => g e.1.maintenance e.2 := by
  have hplans : ∀ nodes : List Node, (nodes.zipIdx.filterMap fun e => g e.1.maintenance e.2) =
      (nodes.map Node.maintenance).zipIdx.filterMap fun e => g e.1 e.2 := by
    intro nodes
    rw [List.zipIdx_map, List.filterMap_map]
    rfl
  rw [hplans, hplans, h]

/-- The next purge can be told from the plans alone. -/
theorem nextPurge?_of_plans (hnow : c'.now = c.now) (h : c'.nodes.map Node.maintenance = c.nodes.map Node.maintenance) :
    c'.nextPurge? = c.nextPurge? := by
  unfold nextPurge?
  dsimp only
  rw [hnow]
  congr 1
  have hdues := filterMap_zipIdx_of_plans (fun p i => p.map fun m => (i, max c.now (wakeAt c.now (m.due - c.now)))) h
  refine (List.filterMap_congr ?_).trans (hdues.trans (List.filterMap_congr ?_))
  · rintro ⟨n, i⟩ -
    rfl
  · rintro ⟨n, i⟩ -
    rfl

theorem purgesBefore_of_plans (h : c'.nodes.map Node.maintenance = c.nodes.map Node.maintenance) (t : Nat) :
    c'.purgesBefore t = c.purgesBefore t := by
  have hfold : ∀ nodes : List Node, nodes.foldl (fun k n => k + n.maintenance.elim 0 fun m => (t - m.due) / m.interval + 1) 0 =
      (nodes.map Node.maintenance).foldl (fun k p => k + p.elim 0 fun m => (t - m.due) / m.interval + 1) 0 := by
    intro nodes
    rw [List.foldl_map]
  unfold purgesBefore
  rw [hfold, hfold, h]

/-! ## What the schedule sees -/

/-- What the schedule sees of a call: whether it can go on, how far it is from its end, when its caller drops it
and when something happens to it. -/
structure Sight where
  ready : Bool
  rank : Nat
  drops : Option Nat
  wakes : Option Nat

def sight (c : Cluster σ) (job : Job) : Sight := ⟨c.isReady job, c.rank job, job.task.dropsAt?, job.task.wakes?⟩

theorem any_of_sight (h : c'.jobs.map c'.sight = c.jobs.map c.sight) (f : Sight → Bool) (k : Nat) :
    (c'.jobs[k]?.any fun j => f (c'.sight j)) = c.jobs[k]?.any fun j => f (c.sight j) := by
  have hat := congrArg (fun l => l[k]?.any f) h
  rwa [List.getElem?_map, List.getElem?_map, Option.any_map, Option.any_map] at hat

variable [Backend σ] [Backend τ]

omit [Backend τ] in
theorem jobs_purge (c : Cluster σ) (i : Nat) : (c.move (.purge i)).jobs = c.jobs := by
  show (c.onSite i Site.purge).jobs = c.jobs
  unfold onSite
  split <;> rfl

omit [Backend τ] in
theorem length_purge (c : Cluster σ) (i : Nat) : (c.move (.purge i)).nodes.length = c.nodes.length := by
  show (c.onSite i Site.purge).nodes.length = c.nodes.length
  unfold onSite
  split
  · exact List.length_set ..
  · rfl

/-- A relation that the clock does not see through and does not break. -/
structure Ticking (R : Cluster σ → Cluster τ → Prop) : Prop where
  now : ∀ {c c'}, R c c' → c'.now = c.now
  plans : ∀ {c c'}, R c c' → c'.nodes.map Node.maintenance = c.nodes.map Node.maintenance
  wait : ∀ {c c'}, R c c' → ∀ t, R (c.move (.wait t)) (c'.move (.wait t))
  purge : ∀ {c c'}, R c c' → ∀ i, R (c.move (.purge i)) (c'.move (.purge i))

namespace Ticking

variable {R : Cluster σ → Cluster τ → Prop}

theorem purgeWithin (h : Ticking R) (hc : R c c') (t fuel : Nat) : R (c.purgeWithin t fuel) (c'.purgeWithin t fuel) := by
  induction fuel generalizing c c' with
  | zero => exact hc
  | succ fuel ih =>
    unfold Cluster.purgeWithin
    rw [nextPurge?_of_plans (h.now hc) (h.plans hc)]
    split
    · split
      · exact ih (h.purge (h.wait hc _) _)
      · exact hc
    · exact hc

theorem advance (h : Ticking R) (hc : R c c') (t : Nat) : R (c.advance t) (c'.advance t) := by
  unfold Cluster.advance purgeUntil
  rw [purgesBefore_of_plans (h.plans hc)]
  exact h.wait (h.purgeWithin hc ..) t

end Ticking

/-! ## The schedule -/

/-- A relation that the schedule does not see through and does not break. -/
structure Lockstep (R : Cluster σ → Cluster τ → Prop) : Prop extends Ticking R where
  jobs : ∀ {c c'}, R c c' → c'.jobs.map c'.sight = c.jobs.map c.sight
  resume : ∀ {c c'}, R c c' → ∀ k, c.jobs[k]?.any c.isReady = true → R (c.move (.resume k)) (c'.move (.resume k))
  cancel : ∀ {c c'}, R c c' → ∀ k, R (c.move (.cancel k)) (c'.move (.cancel k))

namespace Lockstep

variable {R : Cluster σ → Cluster τ → Prop}

theorem any_ready (h : Lockstep R) (hc : R c c') (k : Nat) : c'.jobs[k]?.any c'.isReady = c.jobs[k]?.any c.isReady :=
  any_of_sight (h.jobs hc) Sight.ready k

theorem any_dropped (h : Lockstep R) (hc : R c c') (k : Nat) :
    c'.jobs[k]?.any c'.isDropped = c.jobs[k]?.any c.isDropped := by
  unfold isDropped
  rw [h.now hc]
  exact any_of_sight (h.jobs hc) (fun s => s.drops.any (· ≤ c.now)) k

theorem goOn (h : Lockstep R) (hc : R c c') (k fuel : Nat) : R (c.goOn k fuel) (c'.goOn k fuel) := by
  induction fuel generalizing c c' with
  | zero => exact hc
  | succ fuel ih =>
    unfold Cluster.goOn
    rw [h.any_ready hc]
    split
    · rename_i hr
      exact ih (h.resume hc k hr)
    · exact hc

theorem visit (h : Lockstep R) (hc : R c c') (k : Nat) : R (c.visit k) (c'.visit k) := by
  -- a visit is bounded by the rank, which is the same
  have hrank : (c'.jobs[k]?.map c'.rank).getD 0 = (c.jobs[k]?.map c.rank).getD 0 := by
    have hat := congrArg (fun l => (l[k]?.map Sight.rank).getD 0) (h.jobs hc)
    rwa [List.getElem?_map, List.getElem?_map, Option.map_map, Option.map_map] at hat
  have hgo := h.goOn hc k ((c.jobs[k]?.map c.rank).getD 0)
  unfold Cluster.visit
  dsimp only
  rw [hrank, h.any_dropped hgo]
  split
  · exact h.cancel hgo k
  · exact hgo

theorem round (h : Lockstep R) (hc : R c c') : R c.round c'.round := by
  have hlen := congrArg List.length (h.jobs hc)
  rw [List.length_map, List.length_map] at hlen
  unfold Cluster.round
  rw [hlen]
  clear hlen
  induction List.range c.jobs.length generalizing c c' with
  | nil => exact hc
  | cons k l ih => exact ih (h.visit hc k)

theorem settle (h : Lockstep R) (hc : R c c') (fuel : Nat) : R (c.settle fuel) (c'.settle fuel) := by
  induction fuel generalizing c c' with
  | zero => exact hc
  | succ fuel ih =>
    have hany : (c'.jobs.any fun j => c'.isReady j || c'.isDropped j) =
        c.jobs.any fun j => c.isReady j || c.isDropped j := by
      have hjobs := congrArg (List.any · fun s => s.ready || s.drops.any (· ≤ c.now)) (h.jobs hc)
      rw [List.any_map, List.any_map] at hjobs
      unfold Cluster.isDropped
      rw [h.now hc]
      exact hjobs
    unfold Cluster.settle
    rw [hany]
    split
    · exact ih (h.round hc)
    · exact hc

theorem totalRank (h : Lockstep R) (hc : R c c') : c'.totalRank = c.totalRank := by
  have hjobs := congrArg (fun l => (l.map Sight.rank).sum) (h.jobs hc)
  rw [List.map_map, List.map_map] at hjobs
  rw [totalRank_eq, totalRank_eq]
  exact hjobs

theorem nextWake? (h : Lockstep R) (hc : R c c') : c'.nextWake? = c.nextWake? := by
  have hjobs := congrArg (fun l => (l.filterMap Sight.wakes).min?) (h.jobs hc)
  rw [List.filterMap_map, List.filterMap_map] at hjobs
  exact hjobs

theorem drive (h : Lockstep R) (hc : R c c') (fuel : Nat) : R (c.drive fuel) (c'.drive fuel) := by
  induction fuel generalizing c c' with
  | zero => exact hc
  | succ fuel ih =>
    have hset := h.settle hc c.totalRank
    unfold Cluster.drive
    dsimp only
    rw [h.totalRank hc, h.nextWake? hset]
    split
    · exact ih (h.advance hset _)
    · exact hset

/-- Requests come to their ends side by side, and what they leave is related when no calls are. -/
theorem request (h : Lockstep R) {i : Nat} {n n' : Node} (hn : c.nodes[i]? = some n) (hn' : c'.nodes[i]? = some n')
    {call : Call} {patience : Option Nat} (hc : R (c.begin i call patience) (c'.begin i call patience)) :
    ∃ d d', R d d' ∧ c.request i call patience = ((d.jobs.map Job.task).head?, { d with jobs := [] }) ∧
      c'.request i call patience = ((d'.jobs.map Job.task).head?, { d' with jobs := [] }) := by
  have hd := h.drive hc ((c.begin i call patience).totalRank + 1)
  rw [request_eq hn, request_eq hn', h.totalRank hc]
  exact ⟨_, _, hd, rfl, rfl⟩

end Lockstep

end TwoTier.Cluster
