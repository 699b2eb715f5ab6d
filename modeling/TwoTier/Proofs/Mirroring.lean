/-
The metrics of a process mirror the books of its caches. Both are kept apart, the metrics once for the process and the
books by each instance, yet what a reader of the metrics sees of each tally is what a reader of all books and clients
sees together, after any moves.
-/
import TwoTier.Proofs.Schedule.Completion
import TwoTier.Proofs.Site.Mirrored
import TwoTier.Store

namespace TwoTier

/-! ## Sums in 64 bits -/

variable {α : Type} (f : α → Nat) (l : List α)

/-- To show the parts does not change what is shown of their sum. -/
theorem shown_sum_shown : shown (l.map fun a => shown (f a)).sum = shown (l.map f).sum := by
  induction l with
  | nil => rfl
  | cons a l ih =>
    rw [List.map_cons, List.map_cons, List.sum_cons, List.sum_cons, shown_add, Nat.add_comm, ← shown_add, ih, shown_add,
      Nat.add_comm]

/-- The parts of what fits in 64 bits are shown as they are. -/
theorem sum_shown_of_le (h : (l.map f).sum ≤ maxNat64) : (l.map fun a => shown (f a)).sum = (l.map f).sum := by
  induction l with
  | nil => rfl
  | cons a l ih =>
    rw [List.map_cons, List.sum_cons] at h ⊢
    rw [ih (by omega), shown_of_lt (n := f a) (by unfold maxNat64 at h; omega), List.map_cons, List.sum_cons]

/-! ## What a reader of the metrics sees -/

/-- The name of a metric without its labels. -/
def metricFamily (name : String) : String := String.ofList (name.toList.takeWhile (· != '\x7b'))

theorem metricFamily_labelled {name : String} (h : '\x7b' ∉ name.toList) (labels : List (String × String)) :
    metricFamily (labelled name labels) = name := by
  have hplain : ∀ c ∈ name.toList, (c != '\x7b') = true := fun c hc => bne_iff_ne.2 fun he => h (he ▸ hc)
  unfold metricFamily labelled
  rw [String.append_assoc, String.append_assoc, String.toList_append, List.takeWhile_append_of_pos hplain,
    String.toList_append, show "\x7b".toList = ['\x7b'] from rfl, List.singleton_append,
    List.takeWhile_cons_of_neg (by decide), List.append_nil, String.ofList_toList]

namespace Mirror

/-- The metrics that a reader adds up for it. -/
def shows : Mirror → String → Bool
  | hits t => fun name => name = Series.name (.hits t)
  | misses t => fun name => name = Series.name (.misses t)
  | sets t => fun name => name = Series.name (.sets t)
  | deletes t => fun name => name = Series.name (.deletes t)
  | evictions t => fun name => name = Series.name (.evictions t)
  | fetches => fun name => metricFamily name = "cache_fetch_total"
  | fetchErrors => fun name => name = Series.name (.fetches .error)
  | requests => fun name => name = "cache_request_duration_seconds_count"
  | failures => fun name => metricFamily name = "cache_tier_errors_total"

end Mirror

/-- The family of a counter. -/
def Series.family : Series → String
  | hits _ => "cache_hits_total"
  | misses _ => "cache_misses_total"
  | sets _ => "cache_sets_total"
  | deletes _ => "cache_deletes_total"
  | evictions _ => "cache_evictions_total"
  | fetches _ => "cache_fetch_total"
  | failures _ => "cache_tier_errors_total"

theorem Series.metricFamily_name (s : Series) : metricFamily s.name = s.family := by
  cases s <;> exact metricFamily_labelled (by decide) _

/-- Counters with the same name are the same, those of failures aside. -/
theorem Series.eq_of_name {s s' : Series} (h : s.name = s'.name) (hs : s.family ≠ "cache_tier_errors_total") :
    s = s' := by
  have hf : s.family = s'.family := by rw [← metricFamily_name, h, metricFamily_name]
  -- of another family it has another name, and within a family the one label tells which it is
  cases s <;> cases s' <;> first | exact absurd rfl hs | (simp [family] at hf; done) | skip
  case hits.hits t t' | misses.misses t t' | sets.sets t t' | deletes.deletes t t' | evictions.evictions t t' =>
    cases t <;> cases t' <;> first | rfl | exact absurd h (by decide)
  case fetches.fetches o o' => cases o <;> cases o' <;> first | rfl | exact absurd h (by decide)

/-- A counter is shown where it is taken. -/
theorem Mirror.shows_name (x : Mirror) (s : Series) : x.shows s.name = x.takes s := by
  have hexact {s' : Series} (hs' : s'.family ≠ "cache_tier_errors_total") :
      decide (s.name = s'.name) = decide (s = s') :=
    decide_eq_decide.2 ⟨fun h => (Series.eq_of_name h.symm hs').symm, fun h => congrArg Series.name h⟩
  have hfamily (family : String) : decide (metricFamily s.name = family) = decide (s.family = family) := by
    rw [Series.metricFamily_name]
  cases x with
  | hits t | misses t | sets t | deletes t | evictions t | fetchErrors => exact hexact (by simp [Series.family])
  | fetches | failures => exact (hfamily _).trans (by cases s <;> rfl)
  | requests =>
    refine decide_eq_false fun h => ?_
    have hf : s.family = "cache_request_duration_seconds_count" := by
      rw [← Series.metricFamily_name, h]
      decide
    cases s <;> simp [Series.family] at hf

theorem Mirror.shows_connected (x : Mirror) : x.shows "cache_remote_connected" = false := by
  cases x with
  | hits t | misses t | sets t | deletes t | evictions t => cases t <;> decide
  | _ => decide

theorem Mirror.shows_durations (x : Mirror) :
    x.shows "cache_request_duration_seconds_count" = decide (x = .requests) := by
  cases x with
  | hits t | misses t | sets t | deletes t | evictions t => cases t <;> decide
  | _ => decide

/-- The count that a metric shows; a number is none. -/
def Recorder.Value.counted : Recorder.Value → Nat
  | .count n => n
  | .number _ => 0

/-- The sum of the metrics that show something. What no metric shows is zero. -/
def Recorder.rendered (r : Recorder) (x : Mirror) : Nat :=
  ((r.metrics.filter fun m => x.shows m.1).map fun m => m.2.counted).sum

theorem sum_map_filter {β : Type} (p : β → Bool) (g : β → Nat) (l : List β) :
    ((l.filter p).map g).sum = (l.map fun b => if p b then g b else 0).sum := by
  induction l with
  | nil => rfl
  | cons b l ih =>
    rw [List.filter_cons, List.map_cons, List.sum_cons, ← ih]
    split
    · rw [List.map_cons, List.sum_cons]
    · rw [Nat.zero_add]

/-- Counters are shown in 64 bits, and so is the number of durations. -/
theorem Recorder.rendered_eq (r : Recorder) (x : Mirror) :
    r.rendered x = (r.counters.map fun c => shown (if x.takes c.1 then c.2 else 0)).sum +
      shown (if x = .requests then r.durations else 0) := by
  have hcounters : ((r.counters.map fun c => (c.1.name, Value.count (shown c.2))).map
      fun m => if x.shows m.1 then m.2.counted else 0) =
        r.counters.map fun c => shown (if x.takes c.1 then c.2 else 0) := by
    rw [List.map_map]
    refine List.map_congr_left fun c _ => ?_
    show (if x.shows c.1.name then shown c.2 else 0) = _
    rw [x.shows_name]
    split <;> rfl
  have hentries : ((r.entries.map
      fun n => (labelled "cache_entries" [("tier", Tier.name .l1)], Value.number (.ofNat n))).toList.map
      fun m => if x.shows m.1 then m.2.counted else 0).sum = 0 := by
    cases r.entries with
    | none => rfl
    | some n => exact ite_self 0
  have hconnected : ((r.connected.map fun b => ("cache_remote_connected", Value.count (if b then 1 else 0))).toList.map
      fun m => if x.shows m.1 then m.2.counted else 0).sum = 0 := by
    cases r.connected with
    | none => rfl
    | some b => exact if_neg (by rw [x.shows_connected]; decide)
  unfold rendered metrics
  rw [sum_map_filter, List.map_append, List.map_append, List.map_append, List.sum_append, List.sum_append,
    List.sum_append, hcounters, hentries, hconnected, Nat.add_zero]
  congr 1
  split <;> rename_i hd
  · rw [hd, ite_self]
    rfl
  · simp only [List.map_cons, List.map_nil, List.sum_cons, List.sum_nil, x.shows_durations, Value.counted, ite_self,
      Nat.add_zero, decide_eq_true_eq]
    split <;> rfl

/-- What a reader sees is the tally in 64 bits. -/
theorem Recorder.shown_rendered (r : Recorder) (x : Mirror) : shown (r.rendered x) = shown (r.total x) := by
  unfold total
  rw [rendered_eq, ← shown_add, shown_sum_shown, shown_add, Nat.add_comm, shown_add, Nat.add_comm]

/-- And the tally itself, if that fits. -/
theorem Recorder.rendered_of_le {r : Recorder} {x : Mirror} (h : r.total x ≤ maxNat64) : r.rendered x = r.total x := by
  unfold total at h ⊢
  rw [rendered_eq, sum_shown_of_le _ _ (by omega), shown_of_lt (Nat.lt_succ_of_le (by unfold maxNat64 at h; omega))]

/-! ## What a reader of the books sees -/

def Snapshot.tier (s : Snapshot) : Tier → TierCounts
  | .l1 => s.l1
  | .l2 => s.l2

/-- What the reading of an instance's books tells, and of failures what the figures of its client do. -/
def Node.figure (n : Node) : Mirror → Nat
  | .hits t => (n.books.snapshot.tier t).hits
  | .misses t => (n.books.snapshot.tier t).misses
  | .sets t => (n.books.snapshot.tier t).sets
  | .deletes t => (n.books.snapshot.tier t).deletes
  | .evictions t => (n.books.snapshot.tier t).evictions
  | .fetches => n.books.snapshot.fetches
  | .fetchErrors => n.books.snapshot.fetchErrors
  | .requests => n.books.snapshot.totalRequests
  | .failures => shown n.remote.errors

theorem Node.figure_eq (n : Node) (x : Mirror) : n.figure x = shown (n.entered x) := by
  cases x with
  | hits t | misses t | sets t | deletes t | evictions t => cases t <;> rfl
  | failures =>
    unfold entered
    rw [if_pos rfl, Mirror.entered, Nat.zero_add]
    rfl
  | _ => rfl

/-! ## Along a run -/

/-- A recorder that was told nothing yet. -/
structure Recorder.Blank (r : Recorder) : Prop where
  installed : r.installed = true
  counters : r.counters = []
  durations : r.durations = 0

/-- An instance that has counted nothing yet. -/
structure Node.Unused (n : Node) : Prop where
  books : n.books = {}
  errors : n.remote.errors = 0

theorem Node.Unused.entered {n : Node} (h : n.Unused) (x : Mirror) : n.entered x = 0 := by
  unfold Node.entered
  rw [h.books, h.errors, ite_self]
  cases x with
  | hits t | misses t | sets t | deletes t | evictions t => cases t <;> rfl
  | _ => rfl

namespace Cluster

variable {σ : Type} {c : Cluster σ}

/-- The metrics of the process are the books of all instances together. -/
structure Mirrored (c : Cluster σ) : Prop where
  keeps : c.recorder.Keeps
  same : ∀ x, c.recorder.total x = (c.nodes.map (·.entered x)).sum

theorem sum_entered_set {i : Nat} {n : Node} (hn : c.nodes[i]? = some n) (n' : Node) (x : Mirror) :
    ((c.nodes.set i n').map (·.entered x)).sum + n.entered x = (c.nodes.map (·.entered x)).sum + n'.entered x := by
  rw [List.map_set]
  exact sum_set_add (by rw [List.getElem?_map, hn]; rfl) _

theorem Mirrored.withSite (h : c.Mirrored) {i : Nat} {n : Node} (hn : c.nodes[i]? = some n) {s : Site σ}
    (hs : (c.siteOf n).Mirrors s) : (c.withSite i s).Mirrored where
  keeps := hs.keeps h.keeps
  same x := by
    have hsum := sum_entered_set hn s.node x
    have hs : s.recorder.total x + n.entered x = c.recorder.total x + s.node.entered x := hs.same h.keeps x
    have hx := h.same x
    show s.recorder.total x = ((c.nodes.set i s.node).map (·.entered x)).sum
    omega

/-- Before anything was counted it is so. -/
theorem mirrored_of_unused (hr : c.recorder.Blank) (hn : ∀ n ∈ c.nodes, n.Unused) : c.Mirrored where
  keeps := ⟨hr.installed, by rw [hr.counters]; exact List.nodup_nil⟩
  same x := by
    rw [List.sum_eq_zero fun k hk => by obtain ⟨n, hmem, rfl⟩ := List.mem_map.1 hk; exact (hn n hmem).entered x]
    unfold Recorder.total
    rw [hr.counters, hr.durations, ite_self]
    rfl

/-- An instance that has counted nothing may join at any time. -/
theorem Mirrored.add (h : c.Mirrored) {n : Node} (hn : n.Unused) : (c.add n).Mirrored where
  keeps := h.keeps
  same x := by
    show c.recorder.total x = ((c.nodes ++ [n]).map (·.entered x)).sum
    rw [List.map_append, List.sum_append, ← h.same x, List.map_singleton, List.sum_singleton, hn.entered, Nat.add_zero]

theorem Mirrored.onSite (h : c.Mirrored) (i : Nat) {f : Site σ → Site σ} (hf : ∀ s : Site σ, s.Mirrors (f s)) :
    (c.onSite i f).Mirrored := by
  cases hn : c.nodes[i]? with
  | none =>
    unfold Cluster.onSite site?
    rw [hn]
    exact h
  | some n =>
    unfold Cluster.onSite
    rw [site?_of_node hn]
    exact h.withSite hn (hf _)

theorem Mirrored.onJob (h : c.Mirrored) (i : Nat) {f : Task → Site σ → Task × Site σ}
    (hf : ∀ (t : Task) (s : Site σ), s.Mirrors (f t s).2) :
    (c.onJob i f).Mirrored := by
  cases hj : c.jobs[i]? with
  | none =>
    unfold Cluster.onJob
    rw [hj]
    exact h
  | some job =>
    obtain ⟨node, t⟩ := job
    cases hn : c.nodes[node]? with
    | none =>
      unfold Cluster.onJob site?
      rw [hj]
      dsimp only
      rw [hn]
      exact h
    | some n =>
      rw [onJob_eq hj hn]
      have hw := h.withSite hn (hf t (c.siteOf n))
      exact ⟨hw.keeps, hw.same⟩

variable [Backend σ]

/-- Every move keeps it so. -/
theorem Mirrored.move (h : c.Mirrored) (m : Move) : (c.move m).Mirrored := by
  cases m with
  | call node start patience call =>
    unfold Cluster.move
    dsimp only
    split
    · exact ⟨h.keeps, h.same⟩
    · exact h
  | resume i =>
    unfold Cluster.move
    dsimp only
    split
    · exact h.onJob i fun t s => t.mirrors_step s
    · exact h
  | cancel i => exact h.onJob i fun t s => t.mirrors_cancel s
  | wait t => exact ⟨h.keeps, h.same⟩
  | purge i => exact h.onSite i Site.mirrors_purge
  | deliver i payload =>
    refine h.onSite i fun s => .of_silent ?_ ?_ rfl <;>
    · dsimp only [Node.deliver]
      split <;> rfl
  | script m f => exact ⟨h.keeps, h.same⟩

theorem Mirrored.run (h : c.Mirrored) (moves : List Move) : (c.run moves).Mirrored := by
  induction moves generalizing c with
  | nil => exact h
  | cons m moves ih => exact ih (h.move m)

/-- Metrics mirror the books. Any number of instances work in a process whose recorder was installed before any of them
counted anything; their calls may be interleaved, fail and be dropped in any way, while local tiers are purged and
messages arrive. After every move the metrics that show a tally come to the same in 64 bits as what the readings of all
books show of it, and as what the figures of all clients show of failures; and they come to exactly that as long as the
tally itself has not outgrown 64 bits. -/
theorem mirrored_metrics (c : Cluster σ) (hr : c.recorder.Blank) (hn : ∀ n ∈ c.nodes, n.Unused) (moves : List Move)
    (x : Mirror) :
    let c' := c.run moves
    shown (c'.recorder.rendered x) = shown (c'.nodes.map (·.figure x)).sum ∧
      ((c'.nodes.map (·.entered x)).sum ≤ maxNat64 → c'.recorder.rendered x = (c'.nodes.map (·.figure x)).sum) := by
  intro c'
  have hsame : c'.recorder.total x = (c'.nodes.map (·.entered x)).sum := ((mirrored_of_unused hr hn).run moves).same x
  have hfigures : c'.nodes.map (·.figure x) = c'.nodes.map fun n => shown (n.entered x) :=
    List.map_congr_left fun n _ => n.figure_eq x
  rw [hfigures]
  refine ⟨?_, fun hle => ?_⟩
  · rw [Recorder.shown_rendered, hsame, shown_sum_shown]
  · rw [Recorder.rendered_of_le (hsame ▸ hle), hsame, sum_shown_of_le _ _ hle]

/-- Both instances fail to reach the store, and the metrics tell of both. -/
theorem mirrored_metrics_of_two : ∃ a, Node.make "a" {} = .ok a ∧
    let n : Node := { a with remote.connected := true }
    let c : Cluster Store := { store := { inner := { available := false } }, nodes := [n, n] }
    let moves : List Move := [.call 0 0 none (.get "k"), .resume 0, .call 1 0 none (.set "k" (.int 7) none), .resume 1,
      .resume 0, .resume 1, .call 1 0 none (.get "k"), .resume 2]
    (c.run moves).recorder.rendered .failures = 2 ∧ (c.run moves).recorder.rendered .requests = 2 ∧
      (c.run moves).recorder.rendered (.hits .l1) = 1 := by
  obtain ⟨a, hmake⟩ : ∃ a, Node.make "a" {} = .ok a := ⟨_, rfl⟩
  refine ⟨a, hmake, ?_⟩
  intro n c moves
  cases hmake
  have hn : ∀ m ∈ c.nodes, m.Unused := by
    intro m hm
    rcases List.mem_pair.1 hm with rfl | rfl <;> exact ⟨rfl, rfl⟩
  have h := fun x => (mirrored_metrics c ⟨rfl, rfl, rfl⟩ hn moves x).2
  exact ⟨(h .failures (by decide)).trans (by decide), (h .requests (by decide)).trans (by decide),
    (h (.hits .l1) (by decide)).trans (by decide)⟩

end Cluster

end TwoTier
