/-
The fair order of moves brings all calls to their ends. What the schedule does is a series of turns:
a call that is ready goes on, one that is dropped is cancelled, and when there is neither the clock
comes to the next instant at which there is. Every turn of a call lowers the total rank, so the
calls settle at every instant; and a call that waits for others waits for one that is under way, so
when the clock has nowhere to go all calls are over.
-/
import TwoTier.Proofs.Cluster.Lines
import TwoTier.Proofs.Schedule.Clock

namespace TwoTier.Cluster

variable {σ : Type} [Backend σ] {c c' : Cluster σ} {i k t fuel : Nat}

/-- Nothing happens to any call at this instant. -/
def Quiet (c : Cluster σ) : Prop := ∀ job ∈ c.jobs, c.isReady job = false ∧ c.isDropped job = false

/-- What the schedule does next. -/
inductive Turn (c : Cluster σ) : Cluster σ → Prop where
  | resume {i : Nat} (hr : c.jobs[i]?.any c.isReady = true) : Turn c (c.move (.resume i))
  | cancel {i : Nat} (hd : c.jobs[i]?.any c.isDropped = true) (hr : c.jobs[i]?.any c.isReady = false) :
    Turn c (c.move (.cancel i))
  | advance {t : Nat} (hq : c.Quiet) (hw : c.nextWake? = some t) : Turn c (c.advance t)

abbrev Turns : Cluster σ → Cluster σ → Prop := Relation.ReflTransGen Turn

/-! ## Turns are runs -/

/-- Whatever moves can bring about. -/
def Reaches (c c' : Cluster σ) : Prop := ∃ moves, c' = c.run moves

theorem Reaches.refl (c : Cluster σ) : Reaches c c := ⟨[], rfl⟩

theorem Reaches.move (h : Reaches c c') (m : Move) : Reaches c (c'.move m) := by
  obtain ⟨moves, rfl⟩ := h
  exact ⟨moves ++ [m], (run_concat ..).symm⟩

theorem reaches_purgeWithin (c : Cluster σ) (t fuel : Nat) {c₀ : Cluster σ} (h : Reaches c₀ c) :
    Reaches c₀ (c.purgeWithin t fuel) := by
  induction fuel generalizing c with
  | zero => exact h
  | succ fuel ih =>
    unfold purgeWithin
    split
    · split
      · exact ih _ ((h.move _).move _)
      · exact h
    · exact h

theorem Turn.reaches {c₀ : Cluster σ} (h : Reaches c₀ c) (ht : Turn c c') : Reaches c₀ c' := by
  cases ht with
  | resume => exact h.move _
  | cancel => exact h.move _
  | advance => exact (reaches_purgeWithin _ _ _ h).move _

theorem Turns.reaches (h : Turns c c') : Reaches c c' := by
  induction h with
  | refl => exact .refl c
  | tail _ ht ih => exact ht.reaches ih

theorem Reaches.sound (h : Reaches c c') (hs : c.Sound) : c'.Sound := by
  obtain ⟨moves, rfl⟩ := h
  exact run_sound hs moves

theorem Turns.sound (h : Turns c c') (hs : c.Sound) : c'.Sound := h.reaches.sound hs

/-! ## Ranks -/

theorem sum_set_add {l : List Nat} {i a : Nat} (h : l[i]? = some a) (b : Nat) : (l.set i b).sum + a = l.sum + b := by
  induction l generalizing i with
  | nil => cases h
  | cons x l ih =>
    cases i with
    | zero => cases h; simp only [List.set_cons_zero, List.sum_cons]; omega
    | succ i =>
      have := ih h
      simp only [List.set_cons_succ, List.sum_cons]
      omega

omit [Backend σ] in
theorem totalRank_eq (c : Cluster σ) : c.totalRank = (c.jobs.map c.rank).sum := by
  unfold totalRank
  rw [List.sum_eq_foldl, List.foldl_map]

omit [Backend σ] in
theorem rank_of_frames (h : c'.nodes.map Node.frame = c.nodes.map Node.frame) : c'.rank = c.rank := by
  funext job
  unfold rank
  have : (c'.nodes[job.node]?.map fun n => max n.remote.retry.attempts 1) =
      c.nodes[job.node]?.map fun n => max n.remote.retry.attempts 1 := by
    have hf : ∀ n : Node, (max n.frame.remote.retry.attempts 1) = max n.remote.retry.attempts 1 := fun _ => rfl
    have := congrArg (fun l : List Node => l[job.node]?.map fun n => max n.remote.retry.attempts 1) h
    simpa only [List.getElem?_map, Option.map_map, Function.comp_def, hf] using this
  rw [this]

omit [Backend σ] in
theorem totalRank_of_aged (h : Aged c c') : c'.totalRank = c.totalRank := by
  rw [totalRank_eq, totalRank_eq, rank_of_frames h.frames, h.jobs]

omit [Backend σ] in
theorem rank_of_node {node : Nat} {u : Task} {n : Node} (hn : c.nodes[node]? = some n) :
    c.rank ⟨node, u⟩ = u.phase.rank (c.siteOf n).link.attempts := by
  unfold rank
  rw [hn]
  rfl

omit [Backend σ] in
/-- When a call goes on, the total rank changes by as much as its own. -/
theorem totalRank_after {node : Nat} {u u' : Task} {n : Node} {s : Site σ} (hj : c.jobs[k]? = some ⟨node, u⟩)
    (hn : c.nodes[node]? = some n) (hf : s.node.frame = n.frame)
    (hlt : u'.phase.rank (c.siteOf n).link.attempts < u.phase.rank (c.siteOf n).link.attempts) :
    (c.after k node u' s).totalRank < c.totalRank := by
  have hr : (c.after k node u' s).rank = c.rank := rank_of_frames (map_set_of_eq hn _ hf)
  rw [totalRank_eq, totalRank_eq, hr]
  show ((c.jobs.set k ⟨node, u'⟩).map c.rank).sum < _
  rw [List.map_set]
  have hk : (c.jobs.map c.rank)[k]? = some (c.rank ⟨node, u⟩) := by rw [List.getElem?_map, hj]; rfl
  have := sum_set_add hk (c.rank ⟨node, u'⟩)
  have h₁ := rank_of_node (u := u) hn
  have h₂ := rank_of_node (u := u') hn
  omega

/-- A call that is ready goes on by a segment. -/
theorem move_resume (hs : c.Sound) (hr : c.jobs[i]?.any c.isReady = true) :
    ∃ node u n u' s', c.jobs[i]? = some ⟨node, u⟩ ∧ c.nodes[node]? = some n ∧ u.isReady c.now n = true ∧
      Segment (c.siteOf n) s' u u' ∧ c.move (.resume i) = c.after i node u' s' := by
  cases hj : c.jobs[i]? with
  | none => rw [hj] at hr; cases hr
  | some job =>
    obtain ⟨node, u⟩ := job
    obtain ⟨n, hn, hf⟩ := hs.fits hj
    rcases hstep : u.step (c.siteOf n) with ⟨u', s'⟩
    have hmove : c.move (.resume i) = c.after i node u' s' := by rw [move, if_pos hr, onJob_eq hj hn, hstep]
    rw [hj, Option.any_some, isReady, hn] at hr
    exact ⟨node, u, n, u', s', rfl, hn, hr, segment_step hf (isReady_not_over hr) hstep, hmove⟩

omit [Backend σ] in
theorem isDropped_not_over {job : Job} (h : c.isDropped job = true) : job.task.phase.isOver = false := by
  unfold isDropped Task.dropsAt? at h
  split at h
  · rename_i hp; rw [hp]; rfl
  · split at h
    · cases h
    · exact Bool.eq_false_iff.2 ‹_›

theorem move_cancel (hs : c.Sound) (hd : c.jobs[i]?.any c.isDropped = true) :
    ∃ node u n, c.jobs[i]? = some ⟨node, u⟩ ∧ c.nodes[node]? = some n ∧ c.isDropped ⟨node, u⟩ = true ∧
      c.move (.cancel i) = c.after i node { u with phase := .cancelled c.now } (c.siteOf (u.released n)) := by
  cases hj : c.jobs[i]? with
  | none => rw [hj] at hd; cases hd
  | some job =>
    obtain ⟨node, u⟩ := job
    obtain ⟨n, hn, hf⟩ := hs.fits hj
    rw [hj, Option.any_some] at hd
    refine ⟨node, u, n, rfl, hn, hd, ?_⟩
    have hm := step_move hs (.cancel i)
    rw [move, onJob_eq hj hn]
    unfold Task.cancel
    rw [if_neg (by rw [isDropped_not_over hd]; decide)]
    unfold Task.released
    cases u.phase.line? <;> rfl

/-- The rank of a call, if it is there. -/
def rankAt (c : Cluster σ) (i : Nat) : Nat := (c.jobs[i]?.map c.rank).getD 0

theorem resume_lt (hs : c.Sound) (hr : c.jobs[i]?.any c.isReady = true) :
    (c.move (.resume i)).totalRank < c.totalRank ∧ (c.move (.resume i)).rankAt i < c.rankAt i := by
  obtain ⟨node, u, n, u', s', hj, hn, -, hseg, hm⟩ := move_resume hs hr
  rw [hm]
  refine ⟨totalRank_after hj hn hseg.steady.frame hseg.rank_lt, ?_⟩
  have hframe : (c.after i node u' s').rank = c.rank := rank_of_frames (map_set_of_eq hn _ hseg.steady.frame)
  unfold rankAt
  rw [after_job hj, hj, hframe]
  show c.rank ⟨node, u'⟩ < c.rank ⟨node, u⟩
  rw [rank_of_node hn, rank_of_node hn]
  exact hseg.rank_lt

omit [Backend σ] in
theorem rank_pos {a : Nat} {ph : Phase} (h : ph.isOver = false) : 0 < ph.rank a := by
  cases ph <;> first | exact Nat.succ_pos _ | cases h

theorem cancel_lt (hs : c.Sound) (hd : c.jobs[i]?.any c.isDropped = true) :
    (c.move (.cancel i)).totalRank < c.totalRank := by
  obtain ⟨node, u, n, hj, hn, hdrop, hm⟩ := move_cancel hs hd
  rw [hm]
  exact totalRank_after hj hn rfl (rank_pos (isDropped_not_over hdrop))

/-! ## A visit -/

theorem turns_goOn (c : Cluster σ) (i fuel : Nat) : Turns c (c.goOn i fuel) := by
  induction fuel generalizing c with
  | zero => exact .refl
  | succ fuel ih =>
    unfold goOn
    split
    · rename_i hr
      exact .head (.resume hr) (ih _)
    · exact .refl

/-- With enough fuel a call goes on until it is not ready. -/
theorem goOn_not_ready (hs : c.Sound) (h : c.rankAt i ≤ fuel) :
    (c.goOn i fuel).jobs[i]?.any (c.goOn i fuel).isReady = false := by
  induction fuel generalizing c with
  | zero =>
    unfold goOn
    by_contra hr
    have := (resume_lt hs (Bool.eq_true_of_not_eq_false hr)).2
    omega
  | succ fuel ih =>
    unfold goOn
    split
    · rename_i hr
      have := (resume_lt hs hr).2
      exact ih ((step_move hs _).sound hs) (by omega)
    · exact Bool.eq_false_iff.2 ‹_›

theorem goOn_le (hs : c.Sound) : (c.goOn i fuel).totalRank ≤ c.totalRank := by
  induction fuel generalizing c with
  | zero => exact Nat.le_refl _
  | succ fuel ih =>
    unfold goOn
    split
    · rename_i hr
      have := (resume_lt hs hr).1
      have := ih ((step_move hs (.resume i)).sound hs)
      omega
    · exact Nat.le_refl _

/-- Either nothing is to be done for a call, or a visit lowers the total rank. -/
theorem visit_spec (hs : c.Sound) (i : Nat) : Turns c (c.visit i) ∧
    ((c.visit i = c ∧ c.jobs[i]?.any c.isReady = false ∧ c.jobs[i]?.any c.isDropped = false) ∨
      (c.visit i).totalRank < c.totalRank) := by
  obtain ⟨d, hd⟩ : ∃ d, d = c.goOn i (c.rankAt i) := ⟨_, rfl⟩
  have hv : c.visit i = if d.jobs[i]?.any d.isDropped then d.move (.cancel i) else d := by rw [hd]; rfl
  have hturns : Turns c d := hd ▸ turns_goOn ..
  have hds : d.Sound := hturns.sound hs
  have hready : d.jobs[i]?.any d.isReady = false := hd ▸ goOn_not_ready hs (Nat.le_refl _)
  have hle : d.totalRank ≤ c.totalRank := hd ▸ goOn_le hs
  -- either the call is not ready at all, or its first step has lowered the rank already
  have hgo : (d = c ∧ c.jobs[i]?.any c.isReady = false) ∨ d.totalRank < c.totalRank := by
    by_cases hr : c.jobs[i]?.any c.isReady = true
    · right
      have hlt := resume_lt hs hr
      obtain ⟨f, hf⟩ : ∃ f, c.rankAt i = f + 1 := ⟨c.rankAt i - 1, by omega⟩
      have : d = (c.move (.resume i)).goOn i f := by rw [hd, hf, goOn, if_pos hr]
      rw [this]
      exact Nat.lt_of_le_of_lt (goOn_le ((step_move hs _).sound hs)) hlt.1
    · left
      refine ⟨?_, Bool.eq_false_iff.2 hr⟩
      rw [hd]
      cases c.rankAt i with
      | zero => rfl
      | succ f => rw [goOn, if_neg hr]
  rw [hv]
  split
  · -- a dropped call is over, so its rank is gone
    rename_i hdrop
    refine ⟨hturns.tail (.cancel hdrop hready), Or.inr ?_⟩
    exact Nat.lt_of_lt_of_le (cancel_lt hds hdrop) hle
  · rename_i hdrop
    refine ⟨hturns, ?_⟩
    rcases hgo with ⟨rfl, hr⟩ | hlt
    · exact Or.inl ⟨rfl, hr, Bool.eq_false_iff.2 hdrop⟩
    · exact Or.inr hlt

/-! ## Rounds -/

theorem round_spec (hs : c.Sound) (l : List Nat) : Turns c (l.foldl visit c) ∧
    ((l.foldl visit c = c ∧ ∀ i ∈ l, c.jobs[i]?.any c.isReady = false ∧ c.jobs[i]?.any c.isDropped = false) ∨
      (l.foldl visit c).totalRank < c.totalRank) := by
  induction l generalizing c with
  | nil => exact ⟨.refl, Or.inl ⟨rfl, by simp⟩⟩
  | cons i l ih =>
    obtain ⟨hv, hcase⟩ := visit_spec hs i
    obtain ⟨hl, hcase'⟩ := ih (hv.sound hs)
    refine ⟨hv.trans hl, ?_⟩
    rw [List.foldl_cons]
    -- a round lowers the rank if any of its visits does
    rcases hcase with ⟨he, hi⟩ | hlt
    · rw [he] at hcase' ⊢
      rcases hcase' with ⟨he', hi'⟩ | hlt'
      · exact Or.inl ⟨he', List.forall_mem_cons.2 ⟨hi, hi'⟩⟩
      · exact Or.inr hlt'
    · rcases hcase' with ⟨he', -⟩ | hlt'
      · rw [he']; exact Or.inr hlt
      · exact Or.inr (Nat.lt_trans hlt' hlt)

omit [Backend σ] in
theorem quiet_iff : c.Quiet ↔ (c.jobs.any fun j => c.isReady j || c.isDropped j) = false := by
  unfold Quiet
  rw [List.any_eq_false]
  simp only [Bool.or_eq_true, not_or, Bool.not_eq_true]

/-- A round in which there is something to do does some of it. -/
theorem round_lt (hs : c.Sound) (h : ¬ c.Quiet) : c.round.totalRank < c.totalRank := by
  rcases (round_spec hs (List.range c.jobs.length)).2 with ⟨-, hi⟩ | hlt
  · refine absurd (fun job hjob => ?_) h
    obtain ⟨k, hk, rfl⟩ := List.getElem_of_mem hjob
    have := hi k (List.mem_range.2 hk)
    rw [List.getElem?_eq_getElem hk] at this
    exact this
  · exact hlt

theorem settle_spec (hs : c.Sound) (h : c.totalRank ≤ fuel) :
    Turns c (c.settle fuel) ∧ (c.settle fuel).Quiet ∧ (c.settle fuel).totalRank ≤ c.totalRank ∧
      (¬ c.Quiet → (c.settle fuel).totalRank < c.totalRank) := by
  -- each round that is needed lowers the rank, so a rank of rounds is enough
  induction fuel generalizing c with
  | zero =>
    unfold settle
    by_cases hq : c.Quiet
    · exact ⟨.refl, hq, Nat.le_refl _, fun h => absurd hq h⟩
    · have := round_lt hs hq
      omega
  | succ fuel ih =>
    unfold settle
    split
    · rename_i hany
      have hq : ¬ c.Quiet := fun hq => by rw [quiet_iff.1 hq] at hany; cases hany
      have hlt := round_lt hs hq
      have ht : Turns c c.round := (round_spec hs (List.range c.jobs.length)).1
      obtain ⟨ht', hq', hle, -⟩ := ih (ht.sound hs) (show c.round.totalRank ≤ fuel by omega)
      exact ⟨ht.trans ht', hq', by omega, fun _ => by omega⟩
    · rename_i hany
      have hq := quiet_iff.2 (Bool.eq_false_iff.2 hany)
      exact ⟨.refl, hq, Nat.le_refl _, fun h => absurd hq h⟩

/-- All that the schedule does is turns. -/
theorem turns_drive (hs : c.Sound) (fuel : Nat) : Turns c (c.drive fuel) := by
  induction fuel generalizing c with
  | zero => exact .refl
  | succ fuel ih =>
    obtain ⟨ht, hq, -, -⟩ := settle_spec hs (Nat.le_refl _)
    unfold drive
    dsimp only
    split
    · rename_i t hw
      have hadv : Turns c ((c.settle c.totalRank).advance t) := ht.tail (.advance hq hw)
      exact hadv.trans (ih (hadv.sound hs))
    · exact ht

/-! ## The clock has somewhere to go until all calls are over -/

/-- Lines are in order along every run. -/
theorem Reaches.orderly (h : Reaches c c') (hs : c.Sound) (ho : c.Orderly) : c'.Orderly := by
  obtain ⟨moves, rfl⟩ := h
  exact (run_induct hs ho (fun hs ho hm => ho.step hs hm) moves).2

omit [Backend σ] in
theorem wakes?_of_due {u : Task} {d : Nat} (h : u.phase.due? = some d) : u.wakes?.isSome := by
  unfold Task.wakes?
  rw [h]
  cases u.dropsAt? <;> rfl

omit [Backend σ] in
/-- A call that no instant wakes is over or waits for others. -/
theorem wakes?_eq_none {u : Task} (h : u.wakes? = none) : u.phase.isOver = true ∨ ∃ key, u.phase = .queued key := by
  cases hp : u.phase <;> first
    | exact Or.inl rfl
    | exact Or.inr ⟨_, rfl⟩
    | (have hw := wakes?_of_due (u := u) (by rw [hp]; rfl); rw [h] at hw; cases hw)

omit [Backend σ] in
/-- When nothing happens now and nothing will, all calls are over. -/
theorem over_of_quiet (hs : c.Sound) (ho : c.Orderly) (hq : c.Quiet) (hw : c.nextWake? = none) :
    ∀ job ∈ c.jobs, job.task.phase.isOver = true := by
  have hnone : ∀ job ∈ c.jobs, job.task.wakes? = none := by
    unfold nextWake? at hw
    rw [List.min?_eq_none_iff, List.filterMap_eq_nil_iff] at hw
    exact hw
  intro job hjob
  rcases wakes?_eq_none (hnone job hjob) with h | ⟨key, hkey⟩
  · exact h
  · -- somebody has the turn at the lock for which this call waits, and so can go on or will
    exfalso
    obtain ⟨k, hk, rfl⟩ := List.getElem_of_mem hjob
    have hj : c.jobs[k]? = some ⟨c.jobs[k].node, c.jobs[k].task⟩ := List.getElem?_eq_getElem hk
    obtain ⟨n, hn, hf⟩ := hs.fits hj
    obtain ⟨short, fetch, hcall, hco⟩ : ∃ short fetch, c.jobs[k].task.call = .getOrFetch short fetch ∧
        n.coalesce = true := by
      rw [hkey] at hf
      generalize c.jobs[k].task.call = call at hf
      cases hf with
      | queued hco => exact ⟨_, _, rfl, hco⟩
    have hline : c.lineAt c.jobs[k].node n.coalesce k = some key := by
      rw [lineAt_of_job hj, hco]
      unfold Task.inLine?
      rw [hcall]
      dsimp only
      rw [hkey]
      rfl
    obtain ⟨a, ha, hturn⟩ := (ho.standing hn).exists_turn hline
    unfold lineAt at ha
    split at ha
    · rename_i job' hj'
      have hmem := List.mem_of_getElem? hj'
      split at ha
      · rename_i hnode
        rcases wakes?_eq_none (hnone job' hmem) with hover | ⟨key', hkey'⟩
        · rw [Task.inLine?_of_line? (by cases hp : job'.task.phase <;> rw [hp] at hover <;> first | rfl | cases hover)] at ha
          cases ha
        · have hready := (hq job' hmem).1
          unfold isReady Task.isReady at hready
          rw [hnode, hn, hkey', hs.ticket (show c.jobs[a]? = some ⟨job'.node, job'.task⟩ from hj')] at hready
          change n.flights.hasTurn a = false at hready
          rw [hturn] at hready
          cases hready
      · cases ha
    · cases ha

omit [Backend σ] in
/-- A call is woken when its wait is over or when it is dropped. -/
theorem wakes?_cases {u : Task} (h : u.wakes? = some t) : u.phase.due? = some t ∨ u.dropsAt? = some t := by
  unfold Task.wakes? at h
  split at h
  · rename_i a b ha hb
    rw [ha, hb]
    cases h
    rcases Nat.le_total a b with hab | hab
    · exact Or.inl (by rw [Nat.min_eq_left hab])
    · exact Or.inr (by rw [Nat.min_eq_right hab])
  · rename_i a ha hb
    cases h
    exact Or.inl ha
  · exact Or.inr h

/-- At the next instant at which something is to happen, something does. -/
theorem not_quiet_advance (hs : c.Sound) (hw : c.nextWake? = some t) : ¬ (c.advance t).Quiet := by
  intro hq
  obtain ⟨ha, hnow⟩ := advance_spec c t
  have hle : t ≤ (c.advance t).now := hnow ▸ Nat.le_max_right ..
  obtain ⟨job, hjob, hwakes⟩ := List.mem_filterMap.1 (List.min?_mem hw)
  obtain ⟨hready, hdrop⟩ := hq job (ha.jobs ▸ hjob)
  -- by then the call is ready, or its caller has lost patience
  rcases wakes?_cases hwakes with hdue | hd
  · obtain ⟨k, hk, rfl⟩ := List.getElem_of_mem hjob
    obtain ⟨n, hn, -⟩ := hs.fits
      (show c.jobs[k]? = some ⟨c.jobs[k].node, c.jobs[k].task⟩ from List.getElem?_eq_getElem hk)
    obtain ⟨n', hn', -⟩ := ha.nodes hn
    unfold isReady Task.isReady at hready
    rw [hn'] at hready
    dsimp only at hready
    split at hready
    · rename_i hp
      rw [hp] at hdue
      cases hdue
    · rw [hdue, Option.any_some, decide_eq_false_iff_not] at hready
      exact hready hle
  · unfold isDropped at hdrop
    rw [hd, Option.any_some, decide_eq_false_iff_not] at hdrop
    exact hdrop hle

theorem over_drive (hs : c.Sound) (ho : c.Orderly) (h : c.totalRank < fuel ∨ (c.totalRank ≤ fuel ∧ ¬ c.Quiet)) :
    ∀ job ∈ (c.drive fuel).jobs, job.task.phase.isOver = true := by
  -- after each advance something happens, so the rank falls from one settling to the next
  induction fuel generalizing c with
  | zero =>
    rcases h with h | ⟨hle, hq⟩
    · omega
    · have := round_lt hs hq
      omega
  | succ fuel ih =>
    obtain ⟨ht, hq, hle, hlt⟩ := settle_spec hs (Nat.le_refl c.totalRank)
    have hs' := ht.sound hs
    have ho' := ht.reaches.orderly hs ho
    unfold drive
    dsimp only
    split
    · rename_i t hw
      obtain ⟨ha, -⟩ := advance_spec (c.settle c.totalRank) t
      have hadv : Turns c ((c.settle c.totalRank).advance t) := ht.tail (.advance hq hw)
      have hrank := totalRank_of_aged ha
      refine ih (hadv.sound hs) (hadv.reaches.orderly hs ho) (Or.inr ⟨?_, not_quiet_advance hs' hw⟩)
      rcases h with h | ⟨h, hnq⟩
      · omega
      · have := hlt hnq
        omega
    · rename_i hw
      exact over_of_quiet hs' ho' hq hw

/-- The fair order brings all calls to their ends. -/
theorem drive_completes (hs : c.Sound) (ho : c.Orderly) :
    ∀ job ∈ (c.drive (c.totalRank + 1)).jobs, job.task.phase.isOver = true :=
  over_drive hs ho (Or.inl (Nat.lt_succ_self _))

end TwoTier.Cluster
