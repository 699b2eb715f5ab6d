/-
What a move does to one instance. It adds to what the instance has counted and lets at most one of its calls change,
in one of the few ways that `Doing` lists; the calls to other instances do nothing to it.
-/
import TwoTier.Proofs.Call.Postings
import TwoTier.Proofs.Cluster.Run

namespace TwoTier

/-- Whether a payload is a message that removes a resident key from the local tier. -/
def Node.removes (n : Node) (payload : String) : Bool :=
  match Message.decode payload with
  | some ⟨origin, .key key⟩ => origin != n.id && (n.lru.find? key).isSome
  | _ => false

theorem Node.total_deliver (n : Node) (payload : String) :
    (n.deliver payload).2.total = n.total.plus { counted := { deletes := (n.removes payload).toNat } } := by
  unfold deliver removes
  rcases Message.decode payload with _ | ⟨origin, key | pattern⟩
  · rfl
  · by_cases ho : origin = n.id
    · simp only [Message.apply, if_pos ho, bne_eq_false_iff_eq.2 ho, Bool.false_and]
      rfl
    · have hd : (n.lru.delete key).1 = (n.lru.find? key).isSome := by
        unfold Lru.delete
        split <;> simp_all
      have hc := n.lru.counts_delete key
      simp only [Message.apply, if_neg ho, bne_iff_ne.2 ho, Bool.true_and]
      show Slip.mk _ _ (n.lru.delete key).2.counts = _
      rw [hc, hd]
      rfl
  · simp only [Message.apply]
    split <;> rfl

/-- Whether a call has begun and has not ended. -/
def Phase.isUnderWay : Phase → Bool
  | waiting _ => false
  | finished _ _ => false
  | cancelled _ => false
  | _ => true

/-- Whether a call was dropped before it ended. -/
def Phase.isCancelled : Phase → Bool
  | cancelled _ => true
  | _ => false

theorem Phase.pending_of_rest {ph : Phase} (h : ph.isUnderWay = false) : ph.pending = {} := by
  cases ph <;> first | rfl | cases h

/-- What a call to an instance stakes there; calls to others stake nothing. -/
def Job.stake (i : Nat) (μ : Task → ℤ) (job : Job) : ℤ := if job.node = i then μ job.task else 0

theorem Job.stake_self (i : Nat) (μ : Task → ℤ) (t : Task) : Job.stake i μ ⟨i, t⟩ = μ t := if_pos rfl

theorem Job.stake_ne {i node : Nat} (h : node ≠ i) (μ : Task → ℤ) (t : Task) : Job.stake i μ ⟨node, t⟩ = 0 := if_neg h

namespace Cluster

variable {σ : Type} {c c' : Cluster σ} {i k node : Nat} {n : Node} {t t' : Task} {m : Move} {μ : Task → ℤ}

/-! ## The calls to an instance -/

/-- The calls to an instance, in the order in which they were made. -/
def tasksAt (c : Cluster σ) (i : Nat) : List Task := (c.jobs.filter fun job => job.node == i).map Job.task

/-- What the calls to an instance stake together. -/
def load (c : Cluster σ) (i : Nat) (μ : Task → ℤ) : ℤ := (c.jobs.map (Job.stake i μ)).sum

theorem load_eq_sum (c : Cluster σ) (i : Nat) (μ : Task → ℤ) : c.load i μ = ((c.tasksAt i).map μ).sum := by
  unfold load tasksAt
  induction c.jobs with
  | nil => rfl
  | cons job jobs ih =>
    rw [List.map_cons, List.sum_cons, List.filter_cons, ih]
    unfold Job.stake
    by_cases h : job.node = i
    · simp [h]
    · simp [h]

theorem mem_tasksAt : t ∈ c.tasksAt i ↔ ∃ k : Nat, c.jobs[k]? = some ⟨i, t⟩ := by
  simp only [tasksAt, List.mem_map, List.mem_filter, beq_iff_eq]
  constructor
  · rintro ⟨⟨node, t⟩, ⟨hmem, rfl⟩, rfl⟩
    exact List.mem_iff_getElem?.1 hmem
  · rintro ⟨k, hk⟩
    exact ⟨_, ⟨List.mem_of_getElem? hk, rfl⟩, rfl⟩

theorem load_set {job job' : Job} (hj : c.jobs[k]? = some job) (hj' : c'.jobs = c.jobs.set k job') :
    c'.load i μ + job.stake i μ = c.load i μ + job'.stake i μ := by
  obtain ⟨hk, rfl⟩ := List.getElem?_eq_some_iff.1 hj
  have hk' : k < (c.jobs.map (Job.stake i μ)).length := by rw [List.length_map]; exact hk
  unfold load
  rw [hj', List.map_set, List.sum_set', dif_pos hk', List.getElem_map]
  ring

theorem load_after (hj : c.jobs[k]? = some ⟨node, t⟩) (t' : Task) (s : Site σ) (i : Nat) (μ : Task → ℤ) :
    (c.after k node t' s).load i μ + Job.stake i μ ⟨node, t⟩ = c.load i μ + Job.stake i μ ⟨node, t'⟩ :=
  load_set hj rfl

theorem load_push {job : Job} (h : c'.jobs = c.jobs ++ [job]) : c'.load i μ = c.load i μ + job.stake i μ := by
  unfold load
  rw [h, List.map_append, List.sum_append, List.map_singleton, List.sum_singleton]

theorem load_of_no_jobs (hj : c.jobs = []) : c.load i μ = 0 := by
  unfold load
  rw [hj]
  rfl

theorem load_congr {ν : Task → ℤ} (h : ∀ t ∈ c.tasksAt i, μ t = ν t) : c.load i μ = c.load i ν := by
  rw [load_eq_sum, load_eq_sum, List.map_congr_left h]

theorem load_zero (c : Cluster σ) (i : Nat) : c.load i (fun _ => 0) = 0 := by
  rw [load_eq_sum]
  exact List.sum_eq_zero fun x hx => by obtain ⟨t, -, rfl⟩ := List.mem_map.1 hx; rfl

theorem load_eq_zero (h : ∀ t ∈ c.tasksAt i, μ t = 0) : c.load i μ = 0 := (load_congr h).trans (load_zero c i)

theorem load_nonneg (h : ∀ t, 0 ≤ μ t) (c : Cluster σ) (i : Nat) : 0 ≤ c.load i μ := by
  rw [load_eq_sum]
  exact List.sum_nonneg fun x hx => by obtain ⟨t, -, rfl⟩ := List.mem_map.1 hx; exact h t

theorem load_eq_countP (c : Cluster σ) (i : Nat) (p : Task → Bool) :
    c.load i (fun t => (p t).toNat) = (c.tasksAt i).countP p := by
  rw [load_eq_sum]
  induction c.tasksAt i with
  | nil => rfl
  | cons t ts ih =>
    rw [List.map_cons, List.sum_cons, List.countP_cons, ih]
    cases p t <;> simp [add_comm]

/-- No call to an instance is under way. -/
def AtRest (c : Cluster σ) (i : Nat) : Prop := ∀ t ∈ c.tasksAt i, t.phase.isUnderWay = false

instance (c : Cluster σ) (i : Nat) : Decidable (c.AtRest i) := List.decidableBAll ..

/-- No call to an instance has been dropped. -/
def Kept (c : Cluster σ) (i : Nat) : Prop := ∀ t ∈ c.tasksAt i, t.phase.isCancelled = false

instance (c : Cluster σ) (i : Nat) : Decidable (c.Kept i) := List.decidableBAll ..

/-! ## What a move does to an instance -/

/-- The call of an instance that goes on with a move, and the site it works on. -/
def resumed? (c : Cluster σ) (i : Nat) : Move → Option (Task × Site σ)
  | .resume k =>
    match c.jobs[k]?, c.nodes[i]? with
    | some job, some n => if job.node = i ∧ job.task.isReady c.now n then some (job.task, c.siteOf n) else none
    | _, _ => none
  | _ => none

/-- The call of an instance that is dropped with a move. -/
def dropped? (c : Cluster σ) (i : Nat) : Move → Option Task
  | .cancel k => (c.jobs[k]?.filter fun job => job.node == i && !job.task.phase.isOver).map Job.task
  | _ => none

/-- How many resident keys a message removes that reaches an instance with a move. -/
def removals (c : Cluster σ) (i : Nat) : Move → Nat
  | .deliver j payload => if j = i then (c.nodes[i]?.any (·.removes payload)).toNat else 0
  | _ => 0

theorem resumed?_of_job (hj : c.jobs[k]? = some ⟨node, t⟩) (hn : c.nodes[i]? = some n) :
    c.resumed? i (.resume k) = if node = i ∧ t.isReady c.now n then some (t, c.siteOf n) else none := by
  simp only [resumed?, hj, hn]

theorem resumed?_eq_some {s : Site σ} (h : c.resumed? i m = some (t, s)) :
    ∃ k : Nat, c.jobs[k]? = some ⟨i, t⟩ := by
  cases m with
  | resume k =>
    refine ⟨k, ?_⟩
    unfold resumed? at h
    dsimp only at h
    split at h
    · rename_i job n hj hn
      split at h
      · rename_i hc
        cases h
        rw [hj, ← hc.1]
      · cases h
    · cases h
  | _ => cases h

theorem dropped?_of_job (hj : c.jobs[k]? = some ⟨node, t⟩) :
    c.dropped? i (.cancel k) = if node = i ∧ t.phase.isOver = false then some t else none := by
  simp only [dropped?, hj, Option.filter_some]
  by_cases hnode : node = i <;> cases ho : t.phase.isOver <;> simp [hnode]

/-- What a move does to an instance: the slip it adds, and the call it changes, as it was and as it is now. -/
inductive Doing [Backend σ] (c : Cluster σ) (i : Nat) (n : Node) : Move → Slip → Option Task → Option Task → Prop where
  | nothing {m : Move} (hr : c.resumed? i m = none) (hd : c.dropped? i m = none) (he : c.removals i m = 0) :
    Doing c i n m {} none none
  | call {start : Nat} {patience : Option Nat} {call : Call} (ticket : Nat) :
    Doing c i n (.call i start patience call) {} none (some { call, ticket, phase := .waiting start, patience })
  | posting {k : Nat} {t t' : Task} {p : Slip} (hr : c.resumed? i (.resume k) = some (t, c.siteOf n))
      (hp : Posting (c.siteOf n) t t' p) (hf : p.failures = (t.fails (c.siteOf n)).toNat) :
    Doing c i n (.resume k) p (some t) (some t')
  | cancel {k : Nat} {t : Task} (hj : c.jobs[k]? = some ⟨i, t⟩) (hd : c.dropped? i (.cancel k) = some t) :
    Doing c i n (.cancel k) {} (some t) (some { t with phase := .cancelled c.now })
  | purge {dropped : Nat} : Doing c i n (.purge i) { counted := { expirations := dropped } } none none
  | deliver {payload : String} :
    Doing c i n (.deliver i payload) { counted := { deletes := c.removals i (.deliver i payload) } } none none

/-- What a move makes of an instance. -/
def Done [Backend σ] (c c' : Cluster σ) (i : Nat) (n : Node) (m : Move) : Prop :=
  ∃ n' p old new, c'.nodes[i]? = some n' ∧ n'.total = n.total.plus p ∧ Doing c i n m p old new ∧
    ∀ μ : Task → ℤ, c'.load i μ + old.elim 0 μ = c.load i μ + new.elim 0 μ

variable [Backend σ]

theorem done_nothing (hn : c'.nodes[i]? = some n) (hload : ∀ μ, c'.load i μ = c.load i μ) (hr : c.resumed? i m = none)
    (hd : c.dropped? i m = none) (he : c.removals i m = 0) : Done c c' i n m :=
  ⟨n, {}, none, none, hn, rfl, .nothing hr hd he, fun μ => congrArg (· + 0) (hload μ)⟩

omit [Backend σ] in
/-- A call to another instance leaves this one as it is. -/
theorem after_ne (hne : node ≠ i) (hj : c.jobs[k]? = some ⟨node, t⟩) (hn : c.nodes[i]? = some n) (t' : Task) (s : Site σ) :
    (c.after k node t' s).nodes[i]? = some n ∧ ∀ μ, (c.after k node t' s).load i μ = c.load i μ := by
  refine ⟨(List.getElem?_set_ne hne).trans hn, fun μ => ?_⟩
  have := load_after hj t' s i μ
  rwa [Job.stake_ne hne, Job.stake_ne hne, add_zero, add_zero] at this

theorem done_resume (hs : c.Sound) (hn : c.nodes[i]? = some n) (k : Nat) : Done c (c.move (.resume k)) i n (.resume k) := by
  rw [move]
  split
  · rename_i hr
    cases hj : c.jobs[k]? with
    | none => rw [hj] at hr; cases hr
    | some job =>
      obtain ⟨node, t⟩ := job
      obtain ⟨n₁, hn₁, hf⟩ := hs.fits hj
      rw [hj, Option.any_some, isReady, hn₁] at hr
      rcases hstep : t.step (c.siteOf n₁) with ⟨t', s'⟩
      rw [onJob_eq hj hn₁, hstep]
      -- a segment of a call adds to its own instance only
      by_cases hnode : node = i
      · subst hnode
        cases hn.symm.trans hn₁
        obtain ⟨p, ha, hp, hfails⟩ := posted_step hf (isReady_not_over hr) hstep
        have hr' : c.resumed? node (.resume k) = some (t, c.siteOf n) :=
          (resumed?_of_job hj hn).trans (if_pos ⟨rfl, hr⟩)
        refine ⟨s'.node, p, some t, some t', after_node hn, ha, .posting hr' hp hfails, fun μ => ?_⟩
        have := load_after hj t' s' node μ
        rwa [Job.stake_self, Job.stake_self] at this
      · obtain ⟨hn', hload⟩ := after_ne hnode hj hn t' s'
        exact done_nothing hn' hload ((resumed?_of_job hj hn).trans (if_neg fun h => hnode h.1)) rfl rfl
  · rename_i hr
    -- a call that is not ready does not move
    refine done_nothing hn (fun _ => rfl) ?_ rfl rfl
    cases hj : c.jobs[k]? with
    | none => simp only [resumed?, hj]
    | some job =>
      refine (resumed?_of_job hj hn).trans (if_neg ?_)
      rintro ⟨hnode, h⟩
      rw [hj, Option.any_some, isReady, hnode, hn] at hr
      exact hr h

theorem done_cancel (hs : c.Sound) (hn : c.nodes[i]? = some n) (k : Nat) : Done c (c.move (.cancel k)) i n (.cancel k) := by
  rw [move]
  cases hj : c.jobs[k]? with
  | none =>
    have hc : c.onJob k Task.cancel = c := by unfold onJob; rw [hj]
    have hd : c.dropped? i (.cancel k) = none := by simp only [dropped?, hj]; rfl
    rw [hc]
    exact done_nothing hn (fun _ => rfl) rfl hd rfl
  | some job =>
    obtain ⟨node, t⟩ := job
    obtain ⟨n₁, hn₁, -⟩ := hs.fits hj
    have hd := dropped?_of_job (i := i) hj
    rw [onJob_eq hj hn₁]
    cases ho : t.phase.isOver with
    | true =>
      have hc : t.cancel (c.siteOf n₁) = (t, c.siteOf n₁) := if_pos ho
      rw [hc, after_self hj hn₁]
      rw [ho, if_neg (by simp)] at hd
      exact done_nothing hn (fun _ => rfl) rfl hd rfl
    | false =>
      rcases hc : t.cancel (c.siteOf n₁) with ⟨t', s'⟩
      -- to leave the line counts nothing
      obtain ⟨rfl, htotal⟩ : t' = { t with phase := .cancelled c.now } ∧ s'.node.total = n₁.total := by
        unfold Task.cancel at hc
        rw [if_neg (by rw [ho]; decide)] at hc
        cases hc
        cases t.phase.line? <;> exact ⟨rfl, rfl⟩
      rw [ho] at hd
      by_cases hnode : node = i
      · subst hnode
        cases hn.symm.trans hn₁
        rw [if_pos ⟨rfl, rfl⟩] at hd
        refine ⟨s'.node, {}, some t, _, after_node hn, htotal, .cancel hj hd, fun μ => ?_⟩
        have := load_after hj { t with phase := .cancelled c.now } s' node μ
        rwa [Job.stake_self, Job.stake_self] at this
      · obtain ⟨hn', hload⟩ := after_ne hnode hj hn { t with phase := .cancelled c.now } s'
        rw [if_neg fun h => hnode h.1] at hd
        exact done_nothing hn' hload rfl hd rfl

/-- Every move does one of these to every instance. -/
theorem done_move (hs : c.Sound) (hn : c.nodes[i]? = some n) (m : Move) : Done c (c.move m) i n m := by
  cases m with
  | call node start patience call =>
    rw [move]
    split
    · by_cases hnode : node = i
      · subst hnode
        refine ⟨n, {}, none, some _, hn, rfl, .call c.jobs.length, fun μ => ?_⟩
        exact (add_zero _).trans ((load_push rfl).trans (congrArg _ (Job.stake_self ..)))
      · exact done_nothing hn (fun μ => (load_push rfl).trans (add_eq_left.2 (Job.stake_ne hnode ..))) rfl rfl rfl
    · exact done_nothing hn (fun _ => rfl) rfl rfl rfl
  | resume k => exact done_resume hs hn k
  | cancel k => exact done_cancel hs hn k
  | wait u => exact done_nothing hn (fun _ => rfl) rfl rfl rfl
  | purge j =>
    rw [move]
    unfold onSite
    cases hj : c.nodes[j]? with
    | none => unfold site?; rw [hj]; exact done_nothing hn (fun _ => rfl) rfl rfl rfl
    | some n₁ =>
      rw [site?_of_node hj]
      by_cases hji : j = i
      · subst hji
        cases hn.symm.trans hj
        have htotal : (c.siteOf n).purge.node.total = n.total.plus { counted := { expirations := (n.lru.purge c.now).1 } } :=
          congrArg (Slip.mk n.books n.remote.errors) (n.lru.counts_purge c.now)
        exact ⟨_, _, none, none, List.getElem?_set_self (List.getElem?_eq_some_iff.1 hn).1, htotal, .purge, fun _ => rfl⟩
      · exact done_nothing ((List.getElem?_set_ne hji).trans hn) (fun _ => rfl) rfl rfl rfl
  | deliver j payload =>
    rw [move]
    unfold onSite
    cases hj : c.nodes[j]? with
    | none =>
      have hji : j ≠ i := by rintro rfl; rw [hn] at hj; cases hj
      unfold site?
      rw [hj]
      exact done_nothing hn (fun _ => rfl) rfl rfl (if_neg hji)
    | some n₁ =>
      rw [site?_of_node hj]
      by_cases hji : j = i
      · subst hji
        cases hn.symm.trans hj
        have he : c.removals j (.deliver j payload) = (n.removes payload).toNat := by
          simp only [removals, hn, Option.any_some, if_true]
        refine ⟨(n.deliver payload).2, _, none, none, List.getElem?_set_self (List.getElem?_eq_some_iff.1 hn).1, ?_, .deliver,
          fun _ => rfl⟩
        rw [he]
        exact n.total_deliver payload
      · exact done_nothing ((List.getElem?_set_ne hji).trans hn) (fun _ => rfl) rfl rfl (if_neg hji)
  | script method f => exact done_nothing hn (fun _ => rfl) rfl rfl rfl

end Cluster

end TwoTier
