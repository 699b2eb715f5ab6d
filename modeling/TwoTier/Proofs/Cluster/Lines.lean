/-
Lines in a cluster. A call stands in line for a key while it waits for its turn to fetch, asks the
shared tier again, fetches, and stores what it fetched; from the second of these on it has the turn.
Every step keeps the locks of every instance in keeping with that.
-/
import TwoTier.Proofs.Cluster.Run
import TwoTier.Proofs.Flights.Standing

namespace TwoTier

/-- The key for which a call stands in line at an instance that lets its callers wait for each other. -/
def Task.inLine? (t : Task) (coalesce : Bool) : Option String :=
  match coalesce, t.call with
  | true, .getOrFetch _ _ => t.phase.line?
  | _, _ => none

/-- Whether a call in line has the turn. -/
def Task.holds (t : Task) (coalesce : Bool) : Bool :=
  (t.inLine? coalesce).isSome && match t.phase with
    | .queued _ => false
    | _ => true

/-- What a segment does to the line: the call stays where it is, comes or goes. -/
inductive Segment.Queues (f f' : Flights) (co : Bool) (t t' : Task) : Prop where
  | stays (hf : f' = f) (hl : t'.inLine? co = t.inLine? co)
  | comes (key : String) (hf : f' = f.join key t.ticket) (hl : t.inLine? co = none) (hl' : t'.inLine? co = some key)
      (hq : t'.phase = .queued key)
  | goes (key : String) (hf : f' = f.leave key t.ticket) (hl : t.inLine? co = none ∨ t.inLine? co = some key)
      (hl' : t'.inLine? co = none)

theorem Phase.line?_of_isIdle {ph : Phase} (h : ph.isIdle = true) : ph.line? = none := by
  cases ph <;> first | rfl | cases h

namespace Task

theorem inLine?_of_line? {t : Task} (h : t.phase.line? = none) (co : Bool) : t.inLine? co = none := by
  unfold inLine?
  split
  · exact h
  · rfl

/-- A call that fetches stands in line for its key, where there are lines. -/
theorem inLine?_cases {k b m : Nat} {p : Option Nat} {short key : String} {fetch : Fetch} {ph : Phase}
    (h : ph.line? = some key) (co : Bool) :
    inLine? ⟨.getOrFetch short fetch, k, ph, b, m, p⟩ co = none ∨
      inLine? ⟨.getOrFetch short fetch, k, ph, b, m, p⟩ co = some key := by
  cases co
  · exact Or.inl rfl
  · exact Or.inr h

end Task

theorem Segment.queues {σ : Type} [Backend σ] {s s' : Site σ} {t t' : Task} (h : Segment s s' t t') :
    Queues s.node.flights s'.node.flights s.node.coalesce t t' := by
  -- neither end of a trip touches the lines, and a phase that is in none stands in none
  have hfin : ∀ {α : Type} {trip : Trip α} {reply : Except CacheError α} {s₁ : Site σ},
      s.finish trip = (reply, s₁) → s₁.node.flights = s.node.flights := fun hf => by rw [(Site.finish_spec hf).node]
  have hcall : ∀ {α : Type} {r : Request α} {trip : Trip α} {s₁ : Site σ},
      s₁.call r = (trip, s') → s'.node.flights = s₁.node.flights := fun ht => by rw [(Site.call_spec ht).2.2.node]
  have hnone : ∀ {t t' : Task}, t.phase.line? = none → t'.phase.line? = none →
      t'.inLine? s.node.coalesce = t.inLine? s.node.coalesce := fun h h' => by
    rw [Task.inLine?_of_line? h, Task.inLine?_of_line? h']
  cases h with
  | hitLocal hc hv hs => exact .stays hs.flights (hnone rfl rfl)
  | missLocal hc hv hs ht => exact .stays ((hcall ht).trans hs.flights) (hnone rfl rfl)
  | hitShared hf hv hs => exact .stays (hs.flights.trans (hfin hf :)) (hnone rfl rfl)
  | missGet hf hv hs => exact .stays (hs.flights.trans (hfin hf)) (hnone rfl rfl)
  | queue hf hv hco hs =>
    rename_i key _ _ s₁
    refine .comes key (hs.flights.trans ?_) (Task.inLine?_of_line? rfl _) (by rw [hco]; rfl) rfl
    show s₁.node.flights.join _ _ = _
    rw [hfin hf]
  | fetchAtOnce hf hv hco hs => exact .stays (hs.flights.trans (hfin hf)) (by rw [hco]; rfl)
  | rehitLocal hv hs => exact .goes _ hs.flights (Task.inLine?_cases rfl _) (Task.inLine?_of_line? rfl _)
  | remissLocal hv hs ht => exact .stays ((hcall ht).trans hs.flights) rfl
  | rehitShared hf hv hs =>
    rename_i key _ _ _ s₁
    refine .goes key (hs.flights.trans ?_) (Task.inLine?_cases rfl _) (Task.inLine?_of_line? rfl _)
    show s₁.node.flights.leave _ _ = _
    rw [hfin hf]
  | remissShared hf hv hs => exact .stays (hs.flights.trans (hfin hf)) rfl
  | fetched ho hw hs ht => exact .stays ((hcall ht).trans hs.flights) rfl
  | unfetched ho hs => exact .goes _ hs.flights (Task.inLine?_cases rfl _) (Task.inLine?_of_line? rfl _)
  | put hw hs ht =>
    refine .stays ((hcall ht).trans hs.flights) ?_
    unfold Task.inLine?
    cases s.node.coalesce <;> rfl
  | stored hf hs =>
    refine .stays (hs.flights.trans (hfin hf)) ?_
    unfold Task.inLine?
    cases s.node.coalesce <;> rfl
  | storedFetched hf hs =>
    rename_i key _ _ _ s₁
    refine .goes key (hs.flights.trans ?_) (Task.inLine?_cases rfl _) (Task.inLine?_of_line? rfl _)
    show s₁.node.flights.leave _ _ = _
    rw [hfin hf]
  | drop hd ht => exact .stays ((hcall ht).trans rfl) (hnone rfl rfl)
  | dropped hf hq hi => exact .stays (hq.flights.trans (hfin hf)) (hnone rfl (Phase.line?_of_isIdle hi))
  | dropAll ht => exact .stays ((hcall ht).trans rfl) (hnone rfl rfl)
  | swept hf hq hi => exact .stays (hq.flights.trans (hfin hf)) (hnone rfl (Phase.line?_of_isIdle hi))
  | aside hc hb hi hfits hr hs hq =>
    refine .stays (hq.flights.trans ?_) (hnone hb (Phase.line?_of_isIdle hi))
    rcases hs with rfl | ⟨-, on, rfl⟩ <;> rfl

/-- A call has the turn from when it was ready to go on from the line. -/
theorem Segment.holds {σ : Type} [Backend σ] {s s' : Site σ} {t t' : Task} (h : Segment s s' t t') {co : Bool}
    (hco : s.node.coalesce = co) (ht : t'.holds co = true) : (t.inLine? co).isSome ∧ t'.inLine? co = t.inLine? co := by
  rcases hco ▸ h.queues with ⟨hf, hl⟩ | ⟨key, hf, hl, hl', hq⟩ | ⟨key, hf, hl, hl'⟩
  · unfold Task.holds at ht
    rw [Bool.and_eq_true, hl] at ht
    exact ⟨ht.1, hl⟩
  · unfold Task.holds at ht
    rw [hq, Bool.and_false] at ht
    cases ht
  · unfold Task.holds at ht
    rw [hl'] at ht
    cases ht

namespace Cluster

variable {σ : Type} {c c' : Cluster σ} {i k node : Nat} {t t' : Task} {n : Node} {s : Site σ} {m : Move} {co : Bool}

/-- The key for which a call stands in line at an instance. -/
def lineAt (c : Cluster σ) (i : Nat) (co : Bool) (k : Nat) : Option String :=
  match c.jobs[k]? with
  | some job => if job.node = i then job.task.inLine? co else none
  | none => none

theorem lineAt_of_job (hj : c.jobs[k]? = some ⟨i, t⟩) (co : Bool) : c.lineAt i co k = t.inLine? co := by
  unfold lineAt; rw [hj]; exact if_pos rfl

/-- The locks of all instances are in keeping with who stands in line, and who has come past the line
has the turn. -/
structure Orderly (c : Cluster σ) : Prop where
  standing : ∀ {i : Nat} {n : Node}, c.nodes[i]? = some n → n.flights.Standing (c.lineAt i n.coalesce)
  turns : ∀ {i k : Nat} {n : Node} {t : Task}, c.nodes[i]? = some n → c.jobs[k]? = some ⟨i, t⟩ →
    t.holds n.coalesce = true → n.flights.hasTurn k = true

/-- No instance has callers in line. -/
def Deserted (c : Cluster σ) : Prop := ∀ n ∈ c.nodes, n.flights.table = [] ∧ n.flights.handles = []

theorem orderly_of_deserted (hj : c.jobs = []) (h : c.Deserted) : c.Orderly := by
  constructor
  · intro i n hn
    obtain ⟨ht, hh⟩ := h n (List.mem_of_getElem? hn)
    have hl : c.lineAt i n.coalesce = fun _ => none := by
      funext k
      unfold lineAt
      rw [hj, List.getElem?_nil]
    rw [hl]
    exact ⟨by rw [ht]; exact .nil, by rw [ht]; exact .nil, by rw [ht]; simp, by rw [hh]; exact .nil, by simp,
      by rw [hh]; simp, by rw [ht]; simp⟩
  · intro i k n t _ hk
    rw [hj] at hk
    cases hk

/-! ## A call and its instance change -/

theorem lineAt_after (hj : c.jobs[k]? = some ⟨node, t⟩) (t' : Task) (s : Site σ) (i : Nat) (co : Bool) :
    (c.after k node t' s).lineAt i co =
      if node = i then Function.update (c.lineAt i co) k (t'.inLine? co) else c.lineAt i co := by
  have hk := (List.getElem?_eq_some_iff.1 hj).1
  have hself : (c.jobs.set k ⟨node, t'⟩)[k]? = some ⟨node, t'⟩ := List.getElem?_set_self hk
  have hother : ∀ a, a ≠ k → (c.jobs.set k ⟨node, t'⟩)[a]? = c.jobs[a]? := fun a ha => List.getElem?_set_ne (Ne.symm ha)
  funext a
  by_cases hn : node = i
  · subst hn
    rw [if_pos rfl]
    by_cases ha : a = k
    · subst ha
      rw [Function.update_self]
      exact lineAt_of_job hself co
    · rw [Function.update_of_ne ha]
      unfold lineAt
      rw [show (c.after k node t' s).jobs[a]? = c.jobs[a]? from hother a ha]
  · rw [if_neg hn]
    unfold lineAt
    by_cases ha : a = k
    · subst ha
      rw [show (c.after a node t' s).jobs[a]? = _ from hself, hj]
      dsimp only
      rw [if_neg hn, if_neg hn]
    · rw [show (c.after k node t' s).jobs[a]? = c.jobs[a]? from hother a ha]

theorem node_after (c : Cluster σ) (k node : Nat) (t' : Task) (s : Site σ) {i : Nat} {n : Node}
    (hn : (c.after k node t' s).nodes[i]? = some n) : (i = node ∧ n = s.node) ∨ (i ≠ node ∧ c.nodes[i]? = some n) :=
  set_cases hn

theorem job_after (c : Cluster σ) (k node : Nat) (t' : Task) (s : Site σ) {a : Nat} {job : Job}
    (hj : (c.after k node t' s).jobs[a]? = some job) : (a = k ∧ job = ⟨node, t'⟩) ∨ (a ≠ k ∧ c.jobs[a]? = some job) :=
  set_cases hj

/-- A call may change as long as its instance keeps its locks in keeping with it, and no other call
loses its turn. -/
theorem Orderly.after (h : c.Orderly) (hj : c.jobs[k]? = some ⟨node, t⟩) (hn : c.nodes[node]? = some n)
    (hco : s.node.coalesce = n.coalesce)
    (hs : s.node.flights.Standing (Function.update (c.lineAt node n.coalesce) k (t'.inLine? n.coalesce)))
    (ht : t'.holds n.coalesce = true → s.node.flights.hasTurn k = true)
    (hother : ∀ a, a ≠ k → n.flights.hasTurn a = true → s.node.flights.hasTurn a = true) :
    (c.after k node t' s).Orderly := by
  constructor
  · intro i n' hn'
    rw [lineAt_after hj]
    rcases node_after c k node t' s hn' with ⟨rfl, rfl⟩ | ⟨hi, hn'⟩
    · rw [if_pos rfl, hco]; exact hs
    · rw [if_neg (Ne.symm hi)]; exact h.standing hn'
  · intro i a n' u hn' ha hu
    have hcases := job_after c k node t' s ha
    -- the instance is the one that has changed or another, and so is the call
    rcases node_after c k node t' s hn' with ⟨rfl, rfl⟩ | ⟨hi, hn'⟩ <;> rcases hcases with ⟨rfl, hjob⟩ | ⟨hak, ha⟩
    · cases hjob
      exact ht (hco ▸ hu)
    · exact hother a hak (h.turns hn ha (hco ▸ hu))
    · cases hjob
      exact absurd rfl hi
    · exact h.turns hn' ha hu

variable [Backend σ]

/-- A segment keeps the lines of its instance in order. -/
theorem Orderly.resume (h : c.Orderly) (hs : c.Sound) (hj : c.jobs[k]? = some ⟨node, t⟩) (hn : c.nodes[node]? = some n)
    (hr : t.isReady c.now n = true) (hseg : Segment (c.siteOf n) s t t') : (c.after k node t' s).Orderly := by
  have hstand := h.standing hn
  have hk := hs.ticket hj
  have hline : c.lineAt node n.coalesce k = t.inLine? n.coalesce := lineAt_of_job hj _
  have hco : s.node.coalesce = n.coalesce := Node.coalesce_of_frame hseg.steady.frame
  -- who has the turn afterwards was ready to go on from the line, or had it before
  have hturn : t'.holds n.coalesce = true → n.flights.hasTurn k = true := by
    intro ht
    have hin : (t.inLine? n.coalesce).isSome = true := (hseg.holds rfl ht).1
    by_cases hq : ∃ key, t.phase = .queued key
    · obtain ⟨key, hq⟩ := hq
      unfold Task.isReady at hr
      rw [hq, hk] at hr
      exact hr
    · refine h.turns hn hj ?_
      unfold Task.holds
      rw [hin, Bool.true_and]
      cases hp : t.phase <;> first | rfl | exact absurd ⟨_, hp⟩ hq
  have hq : Segment.Queues n.flights s.node.flights n.coalesce t t' := hseg.queues
  cases hq with
  | stays hf hl =>
    refine h.after hj hn hco ?_ ?_ ?_ <;> rw [hf]
    · rw [hl, ← hline, Function.update_eq_self]; exact hstand
    · exact hturn
    · exact fun _ _ ha => ha
  | comes key hf hl hl' hq =>
    rw [hk] at hf
    refine h.after hj hn hco ?_ ?_ ?_ <;> rw [hf]
    · rw [hl']; exact hstand.join (hline.trans hl) key
    · exact fun ht => Flights.hasTurn_join (hturn ht) ..
    · exact fun a _ ha => Flights.hasTurn_join ha ..
  | goes key hf hl hl' =>
    rw [hk] at hf
    refine h.after hj hn hco ?_ ?_ ?_ <;> rw [hf]
    · rw [hl']
      rcases hl with hl | hl
      · rw [hstand.leave_of_none (hline.trans hl), ← hl, ← hline, Function.update_eq_self]; exact hstand
      · exact hstand.leave (hline.trans hl)
    · intro ht
      unfold Task.holds at ht
      rw [hl'] at ht
      cases ht
    · exact fun a ha => (Flights.hasTurn_leave · key ha)

omit [Backend σ] in
/-- So does dropping a call. -/
theorem Orderly.cancel (h : c.Orderly) (hs : c.Sound) (hj : c.jobs[k]? = some ⟨node, t⟩)
    (hn : c.nodes[node]? = some n) :
    (c.after k node { t with phase := .cancelled c.now } (c.siteOf (t.released n))).Orderly := by
  have hstand := h.standing hn
  have hk := hs.ticket hj
  have hline : c.lineAt node n.coalesce k = t.inLine? n.coalesce := lineAt_of_job hj _
  have hgone : ({ t with phase := .cancelled c.now } : Task).inLine? n.coalesce = none := Task.inLine?_of_line? rfl _
  refine h.after hj hn rfl ?_ ?_ ?_
  · rw [hgone]
    show (t.phase.line?.elim n.flights (n.flights.leave · t.ticket)).Standing _
    cases hl : t.phase.line? with
    | none =>
      rw [Task.inLine?_of_line? hl] at hline
      rw [Option.elim_none, ← hline, Function.update_eq_self]
      exact hstand
    | some key =>
      rw [Option.elim_some, hk]
      -- a call may have a key to wait for and yet stand in no line, if its instance does not coalesce
      cases hin : t.inLine? n.coalesce with
      | none => rw [hstand.leave_of_none (hline.trans hin), ← hin, ← hline, Function.update_eq_self]; exact hstand
      | some key' =>
        have : key' = key := by
          unfold Task.inLine? at hin
          split at hin
          · rw [hl] at hin; exact (Option.some.inj hin).symm
          · cases hin
        rw [this] at hin
        exact hstand.leave (hline.trans hin)
  · intro ht
    unfold Task.holds at ht
    rw [hgone] at ht
    cases ht
  · intro a ha hta
    show (t.phase.line?.elim n.flights (n.flights.leave · t.ticket)).hasTurn a = true
    cases t.phase.line? with
    | none => exact hta
    | some key => rw [Option.elim_some, hk]; exact Flights.hasTurn_leave hta key ha

omit [Backend σ] in
/-- Work on an instance that leaves its lines alone. -/
theorem Orderly.withNode (h : c.Orderly) (hn : c.nodes[i]? = some n) (n' : Node) (hf : n'.flights = n.flights)
    (hco : n'.coalesce = n.coalesce) : (c.withNode i n').Orderly := by
  have hnode : ∀ {a : Nat} {u : Node}, (c.withNode i n').nodes[a]? = some u →
      ∃ u₀, c.nodes[a]? = some u₀ ∧ u.flights = u₀.flights ∧ u.coalesce = u₀.coalesce := by
    intro a u hu
    rcases set_cases hu with ⟨rfl, rfl⟩ | ⟨-, hu⟩
    · exact ⟨n, hn, hf, hco⟩
    · exact ⟨u, hu, rfl, rfl⟩
  constructor
  · intro a u hu
    obtain ⟨u₀, hu₀, hfl, hcoa⟩ := hnode hu
    rw [hfl, hcoa]
    exact h.standing hu₀
  · intro a b u v hu hv hh
    obtain ⟨u₀, hu₀, hfl, hcoa⟩ := hnode hu
    rw [hfl]
    exact h.turns hu₀ hv (hcoa ▸ hh)

omit [Backend σ] in
/-- A new call stands in no line. -/
theorem Orderly.call (h : c.Orderly) (node ticket start : Nat) (call : Call) (patience : Option Nat) :
    Orderly { c with jobs := c.jobs ++ [⟨node, { call, ticket, phase := .waiting start, patience }⟩] } := by
  obtain ⟨t, ht, hw⟩ : ∃ t : Task, t = { call, ticket, phase := .waiting start, patience } ∧
    ∀ co, t.inLine? co = none := ⟨_, rfl, Task.inLine?_of_line? rfl⟩
  rw [← ht]
  have hjob : ∀ {k : Nat} {job : Job}, (c.jobs ++ [⟨node, t⟩])[k]? = some job → c.jobs[k]? = some job ∨
      job = ⟨node, t⟩ := by
    intro k job hk
    rw [List.getElem?_append] at hk
    split at hk
    · exact Or.inl hk
    · exact Or.inr (List.mem_singleton.1 (List.mem_of_getElem? hk))
  -- the new call is at the end, and all others are where they were
  have hline : ∀ i co, lineAt { c with jobs := c.jobs ++ [⟨node, t⟩] } i co = c.lineAt i co := by
    intro i co
    funext k
    unfold lineAt
    dsimp only
    rcases Nat.lt_or_ge k c.jobs.length with hk | hk
    · rw [List.getElem?_append_left hk]
    · rw [List.getElem?_append_right hk, List.getElem?_eq_none hk]
      cases hs : ([⟨node, t⟩] : List Job)[k - c.jobs.length]? with
      | none => rfl
      | some job =>
        rw [List.mem_singleton.1 (List.mem_of_getElem? hs)]
        dsimp only
        rw [hw, ite_self]
  constructor
  · intro i n hn
    rw [hline]
    exact h.standing hn
  · intro i k n u hn hu hh
    rcases hjob hu with hu | hu
    · exact h.turns hn hu hh
    · cases hu
      unfold Task.holds at hh
      rw [hw] at hh
      cases hh

theorem Orderly.step (h : c.Orderly) (hs : c.Sound) (hm : Step c m c') : c'.Orderly := by
  cases hm with
  | idle => exact h
  | call hn => exact h.call ..
  | resume hj hn hr hseg => exact h.resume hs hj hn hr hseg
  | cancel hj hn ho => exact h.cancel hs hj hn
  | wait => exact ⟨h.standing, h.turns⟩
  | purge hn =>
    rename_i i n r
    have hp := h.withNode hn
      { n with lru := (n.lru.purge c.now).2, maintenance := n.maintenance.map Maintenance.next } rfl rfl
    exact ⟨hp.standing, hp.turns⟩
  | deliver hn hl => exact h.withNode hn _ rfl rfl
  | script => exact ⟨h.standing, h.turns⟩

end Cluster

end TwoTier
