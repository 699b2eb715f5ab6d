/-
What moves make of a cluster. A cluster is sound when every call was made to an instance that exists,
stands in lines under its own number and is in a phase that fits it. From a sound cluster every move
is a `Step`, a step keeps soundness, and what every step keeps holds along every run.
-/
import TwoTier.Cluster
import TwoTier.Proofs.Call.Progress

namespace TwoTier

/-- The instance after a call has left the line it stands in. -/
def Task.released (t : Task) (n : Node) : Node :=
  { n with flights := t.phase.line?.elim n.flights (n.flights.leave · t.ticket) }

theorem Task.released_frame (t : Task) (n : Node) : (t.released n).frame = n.frame := rfl

namespace Cluster

variable {σ : Type} {c c' : Cluster σ} {i node : Nat} {t t' : Task} {n : Node} {s : Site σ} {m : Move}

/-- What an instance works on. -/
def siteOf (c : Cluster σ) (n : Node) : Site σ := ⟨c.now, c.store, c.recorder, n⟩

/-- The cluster after a call has changed, and its instance with it. -/
def after (c : Cluster σ) (i node : Nat) (t : Task) (s : Site σ) : Cluster σ :=
  { c.withSite node s with jobs := c.jobs.set i ⟨node, t⟩ }

/-- The cluster with another state of an instance. -/
def withNode (c : Cluster σ) (i : Nat) (n : Node) : Cluster σ := { c with nodes := c.nodes.set i n }

/-- Every call fits its instance. -/
structure Sound (c : Cluster σ) : Prop where
  ticket : ∀ {i node : Nat} {t : Task}, c.jobs[i]? = some ⟨node, t⟩ → t.ticket = i
  fits : ∀ {i node : Nat} {t : Task}, c.jobs[i]? = some ⟨node, t⟩ → ∃ n, c.nodes[node]? = some n ∧ t.phase.Fits n t.call

theorem sound_of_no_jobs (h : c.jobs = []) : c.Sound := ⟨by simp [h], by simp [h]⟩

theorem Sound.fits_node (h : c.Sound) {i node : Nat} {t : Task} {n : Node} (hj : c.jobs[i]? = some ⟨node, t⟩)
    (hn : c.nodes[node]? = some n) : t.phase.Fits n t.call := by
  obtain ⟨n', hn', hf⟩ := h.fits hj
  cases hn.symm.trans hn'
  exact hf

/-! ## Steps -/

/-- What a move makes of a cluster. -/
inductive Step [Backend σ] (c : Cluster σ) : Move → Cluster σ → Prop where
  | idle {m : Move} : Step c m c
  | call {node start : Nat} {patience : Option Nat} {call : Call} (hn : node < c.nodes.length) :
    Step c (.call node start patience call)
      { c with jobs := c.jobs ++ [⟨node, { call, ticket := c.jobs.length, phase := .waiting start, patience }⟩] }
  | resume {i node : Nat} {t t' : Task} {n : Node} {s' : Site σ} (hj : c.jobs[i]? = some ⟨node, t⟩)
      (hn : c.nodes[node]? = some n) (hr : t.isReady c.now n = true) (hs : Segment (c.siteOf n) s' t t')
      (hstep : t.step (c.siteOf n) = (t', s')) :
    Step c (.resume i) (c.after i node t' s')
  | cancel {i node : Nat} {t : Task} {n : Node} (hj : c.jobs[i]? = some ⟨node, t⟩) (hn : c.nodes[node]? = some n)
      (ho : t.phase.isOver = false) :
    Step c (.cancel i) (c.after i node { t with phase := .cancelled c.now } (c.siteOf (t.released n)))
  | wait {u : Nat} : Step c (.wait u) { c with now := max c.now u }
  | purge {i : Nat} {n : Node} {r : Recorder} (hn : c.nodes[i]? = some n) :
    Step c (.purge i) { c.withNode i { n with
      lru := (n.lru.purge c.now).2
      maintenance := n.maintenance.map Maintenance.next } with recorder := r }
  | deliver {i : Nat} {payload : String} {n : Node} {lru : Lru Json} (hn : c.nodes[i]? = some n)
      (hl : lru = n.lru ∨ (∃ key, lru = (n.lru.delete key).2) ∨ lru = n.lru.clear) :
    Step c (.deliver i payload) (c.withNode i { n with lru })
  | script {m : Method} {f : Fault} : Step c (.script m f) { c with store := c.store.script m f }

theorem site?_of_node (hn : c.nodes[i]? = some n) : c.site? i = some (c.siteOf n) := by
  unfold site? siteOf; rw [hn]; rfl

theorem onJob_eq (hj : c.jobs[i]? = some ⟨node, t⟩) (hn : c.nodes[node]? = some n) (f : Task → Site σ → Task × Site σ) :
    c.onJob i f = c.after i node (f t (c.siteOf n)).1 (f t (c.siteOf n)).2 := by
  unfold onJob
  rw [hj]
  dsimp only
  rw [site?_of_node hn]
  rfl

theorem set_same {α : Type} {l : List α} {i : Nat} {a : α} (h : l[i]? = some a) : l.set i a = l := by
  obtain ⟨hi, rfl⟩ := List.getElem?_eq_some_iff.1 h
  exact List.set_getElem_self hi

/-- What a list holds after one of its places was set. -/
theorem set_cases {α : Type} {l : List α} {i k : Nat} {a b : α} (h : (l.set i b)[k]? = some a) :
    (k = i ∧ a = b) ∨ (k ≠ i ∧ l[k]? = some a) := by
  by_cases hk : i = k
  · subst hk
    rw [List.getElem?_set_self', Option.map_eq_map, Option.map_eq_some_iff] at h
    obtain ⟨_, -, rfl⟩ := h
    exact Or.inl ⟨rfl, rfl⟩
  · rw [List.getElem?_set_ne hk] at h
    exact Or.inr ⟨Ne.symm hk, h⟩

theorem after_node {k : Nat} (hn : c.nodes[i]? = some n) : (c.after k i t s).nodes[i]? = some s.node :=
  List.getElem?_set_self (List.getElem?_eq_some_iff.1 hn).1

theorem after_job {k : Nat} (hj : c.jobs[k]? = some ⟨i, t⟩) : (c.after k i t' s).jobs[k]? = some ⟨i, t'⟩ :=
  List.getElem?_set_self (List.getElem?_eq_some_iff.1 hj).1

theorem after_self (hj : c.jobs[i]? = some ⟨node, t⟩) (hn : c.nodes[node]? = some n) :
    c.after i node t (c.siteOf n) = c := by
  unfold after withSite siteOf
  dsimp only
  rw [set_same hj, set_same hn]

theorem isReady_not_over {now : Nat} (h : t.isReady now n = true) : t.phase.isOver = false := by
  unfold Task.isReady at h
  cases hp : t.phase <;> rw [hp] at h <;> first | rfl | (simp [Phase.due?] at h)

variable [Backend σ]

theorem move_call {start : Nat} {patience : Option Nat} {call : Call} (hn : c.nodes[i]? = some n) :
    c.move (.call i start patience call) =
      { c with jobs := c.jobs ++ [⟨i, { call, ticket := c.jobs.length, phase := .waiting start, patience }⟩] } := by
  rw [move, if_pos (List.getElem?_eq_some_iff.1 hn).1]

/-- From a sound cluster every move is a step. -/
theorem step_move (h : c.Sound) (m : Move) : Step c m (c.move m) := by
  cases m with
  | call node start patience call =>
    rw [move]
    split
    · exact .call ‹_›
    · exact .idle
  | resume i =>
    rw [move]
    split
    · -- the call is ready, so it is not over, and the step is one of the segments
      rename_i hr
      cases hj : c.jobs[i]? with
      | none => rw [hj] at hr; cases hr
      | some job =>
        obtain ⟨node, t⟩ := job
        obtain ⟨n, hn, hf⟩ := h.fits hj
        rw [hj, Option.any_some, isReady, hn] at hr
        rcases hstep : t.step (c.siteOf n) with ⟨t', s'⟩
        rw [onJob_eq hj hn, hstep]
        exact .resume hj hn hr (segment_step hf (isReady_not_over hr) hstep) hstep
    · exact .idle
  | cancel i =>
    rw [move]
    cases hj : c.jobs[i]? with
    | none => unfold onJob; rw [hj]; exact .idle
    | some job =>
      obtain ⟨node, t⟩ := job
      obtain ⟨n, hn, -⟩ := h.fits hj
      rw [onJob_eq hj hn]
      unfold Task.cancel
      split
      · rw [after_self hj hn]; exact .idle
      · rename_i ho
        have hs : (t.phase.line?.elim (c.siteOf n) ((c.siteOf n).leave · t.ticket)) = c.siteOf (t.released n) := by
          unfold Task.released
          cases t.phase.line? <;> rfl
        rw [hs]
        exact .cancel hj hn (Bool.eq_false_iff.2 ho)
  | wait u => exact .wait
  | purge i =>
    rw [move]
    unfold onSite
    cases hn : c.nodes[i]? with
    | none => unfold site?; rw [hn]; exact .idle
    | some n => rw [site?_of_node hn]; exact .purge hn
  | deliver i payload =>
    rw [move]
    unfold onSite
    cases hn : c.nodes[i]? with
    | none => unfold site?; rw [hn]; exact .idle
    | some n =>
      rw [site?_of_node hn]
      show Step c _ (c.withNode i (n.deliver payload).2)
      unfold Node.deliver
      split
      · exact .deliver hn (Or.inl rfl)
      · rename_i msg _
        rcases Lru.apply_cases msg n.id n.lru with ⟨hl, -⟩ | ⟨key, hl, -⟩ | ⟨hl, -⟩
        · exact .deliver hn (Or.inl hl)
        · exact .deliver hn (Or.inr (Or.inl ⟨key, hl⟩))
        · exact .deliver hn (Or.inr (Or.inr hl))
  | script m f => exact .script

/-! ## What steps keep -/

omit [Backend σ] in
theorem map_set_of_eq {α β : Type} {l : List α} {i : Nat} {a b : α} (h : l[i]? = some a) (f : α → β) (hf : f b = f a) :
    (l.set i b).map f = l.map f := by
  obtain ⟨hi, rfl⟩ := List.getElem?_eq_some_iff.1 h
  rw [List.map_set, hf, ← List.map_set, List.set_getElem_self hi]

/-- Instances stay what they were made to be. -/
theorem Step.frames (h : Step c m c') : c'.nodes.map Node.frame = c.nodes.map Node.frame := by
  cases h with
  | idle | call | wait | script => rfl
  | resume hj hn hr hs => exact map_set_of_eq hn _ hs.steady.frame
  | cancel hj hn ho => exact map_set_of_eq hn _ (Task.released_frame ..)
  | purge hn => exact map_set_of_eq hn _ rfl
  | deliver hn hl =>
    refine map_set_of_eq hn _ ?_
    rcases hl with rfl | ⟨key, rfl⟩ | rfl
    · rfl
    · simp only [Node.frame, Lru.bare_delete]
    · rfl

omit [Backend σ] in
/-- Instances with equal frames are found at equal positions. -/
theorem node_of_frames (h : c'.nodes.map Node.frame = c.nodes.map Node.frame) {k : Nat} (hn : c.nodes[k]? = some n) :
    ∃ n', c'.nodes[k]? = some n' ∧ n'.frame = n.frame := by
  have hk : (c'.nodes.map Node.frame)[k]? = some n.frame := by rw [h, List.getElem?_map, hn]; rfl
  rw [List.getElem?_map, Option.map_eq_some_iff] at hk
  exact hk

omit [Backend σ] in
theorem frame_of_frames {n' : Node} (h : c'.nodes.map Node.frame = c.nodes.map Node.frame) {k : Nat}
    (hn : c.nodes[k]? = some n) (hn' : c'.nodes[k]? = some n') : n'.frame = n.frame := by
  obtain ⟨n₁, hn₁, hf⟩ := node_of_frames h hn
  cases hn'.symm.trans hn₁
  exact hf

/-- The jobs after a step: those before, where the one that the step is about has changed, and
perhaps a new one. -/
theorem Step.jobs (h : Step c m c') {k node : Nat} {t' : Task} (hj : c'.jobs[k]? = some ⟨node, t'⟩) :
    (∃ t, c.jobs[k]? = some ⟨node, t⟩ ∧ (t' = t ∨
      (∃ n s', c.nodes[node]? = some n ∧ t.isReady c.now n = true ∧ Segment (c.siteOf n) s' t t') ∨
      (t.phase.isOver = false ∧ t' = { t with phase := .cancelled c.now }))) ∨
    ∃ start patience call, m = .call node start patience call ∧ k = c.jobs.length ∧ node < c.nodes.length ∧
      t' = { call, ticket := k, phase := .waiting start, patience } := by
  -- where one job was replaced, the others are as before
  have hset : ∀ {i node₀ : Nat} {t₀ t₁ : Task}, c.jobs[i]? = some ⟨node₀, t₀⟩ →
      (c.jobs.set i ⟨node₀, t₁⟩)[k]? = some ⟨node, t'⟩ →
      c.jobs[k]? = some ⟨node, t'⟩ ∨ (k = i ∧ node = node₀ ∧ t' = t₁ ∧ c.jobs[k]? = some ⟨node, t₀⟩) := by
    intro i node₀ t₀ t₁ hi hk
    rcases set_cases hk with ⟨rfl, heq⟩ | ⟨-, hk⟩
    · cases heq
      exact Or.inr ⟨rfl, rfl, rfl, hi⟩
    · exact Or.inl hk
  cases h with
  | call hn =>
    rcases Nat.lt_trichotomy k c.jobs.length with hk | hk | hk
    · rw [List.getElem?_append_left hk] at hj
      exact Or.inl ⟨t', hj, Or.inl rfl⟩
    · subst hk
      rw [List.getElem?_concat_length] at hj
      cases hj
      exact Or.inr ⟨_, _, _, rfl, rfl, hn, rfl⟩
    · rw [List.getElem?_eq_none (by rw [List.length_append]; exact hk)] at hj
      cases hj
  | resume hj₀ hn hr hs =>
    rcases hset hj₀ hj with hj | ⟨rfl, rfl, rfl, hk⟩
    · exact Or.inl ⟨t', hj, Or.inl rfl⟩
    · exact Or.inl ⟨_, hk, Or.inr (Or.inl ⟨_, _, hn, hr, hs⟩)⟩
  | cancel hj₀ hn ho =>
    rcases hset hj₀ hj with hj | ⟨rfl, rfl, rfl, hk⟩
    · exact Or.inl ⟨t', hj, Or.inl rfl⟩
    · exact Or.inl ⟨_, hk, Or.inr (Or.inr ⟨ho, rfl⟩)⟩
  | _ => exact Or.inl ⟨t', hj, Or.inl rfl⟩

theorem Step.jobs_length (h : Step c m c') : c.jobs.length ≤ c'.jobs.length := by
  cases h with
  | call hn => exact List.length_append ▸ Nat.le_add_right ..
  | resume | cancel => exact Nat.le_of_eq List.length_set.symm
  | _ => exact Nat.le_refl _

/-- A job goes on, is dropped or stays what it is. -/
theorem Step.job (h : Step c m c') {k node : Nat} {t : Task} (hj : c.jobs[k]? = some ⟨node, t⟩) :
    ∃ t', c'.jobs[k]? = some ⟨node, t'⟩ ∧ (t' = t ∨
      (∃ n s', c.nodes[node]? = some n ∧ t.isReady c.now n = true ∧ Segment (c.siteOf n) s' t t') ∨
      (t.phase.isOver = false ∧ t' = { t with phase := .cancelled c.now })) := by
  have hk := (List.getElem?_eq_some_iff.1 hj).1
  obtain ⟨job, hj'⟩ : ∃ job, c'.jobs[k]? = some job :=
    ⟨_, List.getElem?_eq_getElem (Nat.lt_of_lt_of_le hk h.jobs_length)⟩
  obtain ⟨node', t'⟩ := job
  rcases h.jobs hj' with ⟨t₀, hk₀, hcase⟩ | ⟨_, _, _, -, hlen, -⟩
  · rw [hj] at hk₀
    cases hk₀
    exact ⟨t', hj', hcase⟩
  · omega

/-- What has become of a job that has gone on. -/
theorem Step.resumed (h : Step c m c') {k node : Nat} {t t' : Task} (hj : c.jobs[k]? = some ⟨node, t⟩)
    (hj' : c'.jobs[k]? = some ⟨node, t'⟩) :
    t' = t ∨ (t.phase.isOver = false ∧ t' = { t with phase := .cancelled c.now }) ∨
      ∃ n s', m = .resume k ∧ c.nodes[node]? = some n ∧ t.phase.isOver = false ∧ t.step (c.siteOf n) = (t', s') ∧
        c' = c.after k node t' s' := by
  cases h with
  | call hn =>
    rw [List.getElem?_append_left (List.getElem?_eq_some_iff.1 hj).1, hj] at hj'
    cases hj'
    exact Or.inl rfl
  | resume hj₀ hn hr hs hstep =>
    rcases set_cases hj' with ⟨rfl, heq⟩ | ⟨-, hk⟩
    · cases heq
      rw [hj] at hj₀
      cases hj₀
      exact Or.inr (Or.inr ⟨_, _, rfl, hn, isReady_not_over hr, hstep, rfl⟩)
    · rw [hj] at hk
      cases hk
      exact Or.inl rfl
  | cancel hj₀ hn ho =>
    rcases set_cases hj' with ⟨rfl, heq⟩ | ⟨-, hk⟩
    · cases heq
      rw [hj] at hj₀
      cases hj₀
      exact Or.inr (Or.inl ⟨ho, rfl⟩)
    · rw [hj] at hk
      cases hk
      exact Or.inl rfl
  | _ =>
    cases hj.symm.trans hj'
    exact Or.inl rfl

theorem Step.sound (h : c.Sound) (hs : Step c m c') : c'.Sound := by
  constructor
  · intro k node t' hj
    rcases hs.jobs hj with ⟨t, hk, rfl | ⟨n, s', -, -, hseg⟩ | ⟨-, rfl⟩⟩ | ⟨start, patience, call, rfl, -, -, rfl⟩
    · exact h.ticket hk
    · rw [hseg.same.2.1]; exact h.ticket hk
    · exact (h.ticket hk :)
    · rfl
  · intro k node t' hj
    -- a phase fits by the frame of the instance, which no step changes
    have hframe : ∀ n, c.nodes[node]? = some n → t'.phase.Fits n t'.call →
        ∃ n', c'.nodes[node]? = some n' ∧ t'.phase.Fits n' t'.call := by
      intro n hn hf
      obtain ⟨n', hn', hfr⟩ := node_of_frames hs.frames hn
      exact ⟨n', hn', hf.of_frame hfr⟩
    rcases hs.jobs hj with ⟨t, hk, rfl | ⟨n, s', hn, -, hseg⟩ | ⟨-, rfl⟩⟩ | ⟨start, patience, call, -, -, hn, rfl⟩
    · obtain ⟨n, hn, hf⟩ := h.fits hk
      exact hframe n hn hf
    · have hf := h.fits_node hk hn
      exact hframe n hn (hseg.fits hf)
    · obtain ⟨n, hn, -⟩ := h.fits hk
      exact hframe n hn .cancelled
    · exact hframe _ (List.getElem?_eq_getElem hn) .waiting

/-- The clock never goes back. -/
theorem Step.now_le (h : Step c m c') : c.now ≤ c'.now := by
  cases h with
  | resume hj hn hr hs => exact Nat.le_of_eq hs.steady.now.symm
  | wait => exact Nat.le_max_left ..
  | _ => exact Nat.le_refl _

/-! ## Runs -/

theorem run_append (c : Cluster σ) (l l' : List Move) : c.run (l ++ l') = (c.run l).run l' := List.foldl_append

theorem run_concat (c : Cluster σ) (l : List Move) (m : Move) : c.run (l ++ [m]) = (c.run l).move m :=
  List.foldl_concat ..

/-- What every step keeps holds along every run. -/
theorem run_induct {P : Cluster σ → Prop} (hs : c.Sound) (h : P c)
    (hstep : ∀ {c c' : Cluster σ} {m : Move}, c.Sound → P c → Step c m c' → P c') (moves : List Move) :
    (c.run moves).Sound ∧ P (c.run moves) := by
  induction moves generalizing c with
  | nil => exact ⟨hs, h⟩
  | cons m moves ih =>
    have hm := step_move hs m
    exact ih (hm.sound hs) (hstep hs h hm)

theorem run_sound (hs : c.Sound) (moves : List Move) : (c.run moves).Sound :=
  (run_induct (P := fun _ => True) hs trivial (fun _ _ _ => trivial) moves).1

theorem run_frames (hs : c.Sound) (moves : List Move) : (c.run moves).nodes.map Node.frame = c.nodes.map Node.frame :=
  (run_induct (P := fun c' => c'.nodes.map Node.frame = c.nodes.map Node.frame) hs rfl
    (fun _ h hm => hm.frames.trans h) moves).2

theorem run_now_le (hs : c.Sound) (moves : List Move) : c.now ≤ (c.run moves).now :=
  (run_induct (P := fun c' => c.now ≤ c'.now) hs (Nat.le_refl _) (fun _ h hm => Nat.le_trans h hm.now_le) moves).2

/-- A call that is over stays as it is. -/
theorem run_over (hs : c.Sound) {k node : Nat} {t : Task} (hj : c.jobs[k]? = some ⟨node, t⟩)
    (ho : t.phase.isOver = true) (moves : List Move) : (c.run moves).jobs[k]? = some ⟨node, t⟩ := by
  refine (run_induct (P := fun c' => c'.jobs[k]? = some ⟨node, t⟩) hs hj (fun _ hj hm => ?_) moves).2
  obtain ⟨t', hj', rfl | ⟨n, s', -, hr, -⟩ | ⟨hno, -⟩⟩ := hm.job hj
  · exact hj'
  · rw [isReady_not_over hr] at ho; cases ho
  · rw [hno] at ho; cases ho

end Cluster

end TwoTier
