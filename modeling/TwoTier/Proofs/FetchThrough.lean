/-
The fetch-through contract. A call with a fetch that is made while no other is in progress is an
`Errand`. What it comes to can be told before it is made, from the local tier, from what a client by
itself would get from the shared tier, and from the fetch. Every turn takes the errand from one
`Stage` to the next, and the last stages say what the caller gets and what is left in both tiers.
-/
import TwoTier.Proofs.Remote.Query
import TwoTier.Proofs.Schedule.Solo
import TwoTier.Proofs.Site.Thinned

namespace TwoTier

/-- A call with a fetch that is about to be made to an instance of a cluster. -/
structure Errand where
  cluster : Cluster Store
  node : Node
  short : String
  fetch : Fetch

namespace Errand

variable (q : Errand)

def call : Call := .getOrFetch q.short q.fetch

/-- The key as it is in both tiers. -/
def key : String := q.node.fullKey q.short

/-- The client of the instance. -/
def link : Link Store := (q.cluster.siteOf q.node).link

/-- The value that the local tier has for the key. -/
def local? : Option Json := q.node.lru.live? q.cluster.now q.key

/-- What the shared tier would bring, and the client afterwards. -/
def query : Option Json × Link Store := q.link.query q.node.coalesce q.key

/-- When the fetch would end. -/
def done : Nat := q.fetch.due q.query.2.now

/-- The client when the fetch has ended. -/
def after : Link Store := { q.query.2 with now := q.done }

theorem le_done : q.query.2.now ≤ q.done := le_elim_wakeAt ..

/-- What the shared tier says to a value that was fetched. -/
def stored (v : Json) : Except CacheError Unit := (q.after.trySet q.key v (some q.node.defaultTtl)).1

/-- The instance is the one of the errand. -/
structure Same (n : Node) : Prop where
  frame : n.frame = q.node.frame
  unplanned : q.node.maintenance = none → n.maintenance = none

/-- Neither tier has anything that it did not have, and what is gone had expired: the errand itself
drops its own key at most. -/
structure Kept (c : Cluster Store) (n : Node) : Prop where
  lru : Thinned (fun k => k = q.key ∨ q.node.maintenance.isSome) (·.isExpired c.now) q.node.lru.find? n.lru.find?
  store : Thinned (· = q.key) (·.isExpired c.now) q.cluster.store.inner.find? c.store.inner.find?

/-- The local tier has the value since the fetch has ended, unless a purge has found it expired. -/
def Holds (v : Json) (c : Cluster Store) (n : Node) : Prop :=
  q.node.maintenance = none ∨ c.now < deadline q.done q.node.defaultTtl →
    n.lru.find? q.key = some (.written q.done v q.node.defaultTtl)

end Errand

namespace Cluster

variable {c c' : Cluster Store} {n n' : Node} {l : Link Store} {till i : Nat} {t : Task} {s : Site Store}

/-- The client of an instance is in the state of a client by itself that waits no longer than until
an instant. -/
structure Tracks (c : Cluster Store) (n : Node) (l : Link Store) (till : Nat) : Prop where
  store : c.store = l.store
  connected : n.remote.connected = l.remote.connected
  timeout : n.remote.timeout = l.remote.timeout
  from_le : l.now ≤ c.now
  le_till : c.now ≤ till

namespace Tracks

theorem of_follows (h : s.Follows l) (hle : l.now ≤ till) (i : Nat) (t : Task) :
    (c.after 0 i t s).Tracks s.node l till :=
  ⟨h.store, h.connected, h.timeout, Nat.le_of_eq h.now.symm, Nat.le_trans (Nat.le_of_eq h.now) hle⟩

/-- The wait is over. -/
theorem follows (h : c.Tracks n l till) (hle : till ≤ c.now) : (c.siteOf n).Follows (l.wait till) := by
  refine ⟨?_, h.store, h.connected, h.timeout⟩
  have := h.from_le
  have := h.le_till
  show c.now = max l.now till
  omega

/-- There was nothing to wait for. -/
theorem follows_of_eq (h : c.Tracks n l l.now) : (c.siteOf n).Follows l :=
  ⟨Nat.le_antisymm h.le_till h.from_le, h.store, h.connected, h.timeout⟩

theorem aged (h : c.Tracks n l till) (ha : Aged c c') (hn : n.Aged c'.now n') (hle : c'.now ≤ till) :
    c'.Tracks n' l till :=
  ⟨ha.store.trans h.store, by rw [hn.remote, h.connected], by rw [hn.remote, h.timeout],
    Nat.le_trans h.from_le ha.now, hle⟩

/-- A client by itself gets from the shared tier what the instance gets at the end of its trip. -/
theorem look {l₀ : Link Store} {trip : Trip (Option Bytes)} {reply : Except CacheError (Option Bytes)} {key : String}
    (h : c.Tracks n l trip.ends) (hl : l₀.call (.get key) = (trip, l)) (hle : trip.ends ≤ c.now)
    (hf : (c.siteOf n).finish trip = (reply, s)) :
    ∃ l', l₀.look key = (Site.valueOf? reply, l') ∧ s.Follows l' := by
  obtain ⟨l', ha, hs⟩ := (h.follows hle).ask hl hf
  exact ⟨l', Link.look_of_ask ha, hs⟩

end Tracks

end Cluster

namespace Errand

variable {q : Errand} {c c' : Cluster Store} {n n' : Node} {v : Json}

theorem Same.refl (q : Errand) : q.Same q.node := ⟨rfl, id⟩

theorem Same.defaultTtl (h : q.Same n) : n.lru.defaultTtl = q.node.defaultTtl := Node.defaultTtl_of_frame h.frame

theorem Same.coalesce (h : q.Same n) : n.coalesce = q.node.coalesce := Node.coalesce_of_frame h.frame

theorem Same.steady {s' : Site Store} (h : q.Same n) (hs : (c.siteOf n).Steady s') : q.Same s'.node :=
  ⟨hs.frame.trans h.frame, fun hm => hs.maintenance.trans (h.unplanned hm)⟩

theorem Same.aged {now : Nat} (h : q.Same n) (hn : n.Aged now n') : q.Same n' :=
  ⟨hn.frame.trans h.frame, fun hm => by rw [hn.still (h.unplanned hm)]; exact h.unplanned hm⟩

theorem Kept.refl (hs : c.store = q.cluster.store) : q.Kept c q.node :=
  ⟨.refl, by rw [hs]; exact .refl⟩

/-- The tiers lose nothing more but what expires. -/
theorem Kept.trans (h : q.Kept c n) (hnow : c.now ≤ c'.now)
    (hl : Thinned (fun k => k = q.key ∨ q.node.maintenance.isSome) (·.isExpired c'.now) n.lru.find? n'.lru.find?)
    (hs : Thinned (· = q.key) (·.isExpired c'.now) c.store.inner.find? c'.store.inner.find?) : q.Kept c' n' :=
  ⟨(h.lru.mono (fun _ h => h) (Entry.isExpired_mono hnow)).trans hl,
    (h.store.mono (fun _ h => h) (Stored.isExpired_mono hnow)).trans hs⟩

/-- A look into the local tier. -/
theorem Kept.looked (h : q.Kept c n) {s' : Site Store} (hnow : s'.now = c.now)
    (hl : s'.node.lru = (n.lru.get c.now q.key).2) (hs : s'.store.inner = c.store.inner) (i : Nat) (t : Task) :
    q.Kept (c.after 0 i t s') s'.node := by
  refine h.trans (Nat.le_of_eq hnow.symm) ?_ ?_
  · rw [hl, show (c.after 0 i t s').now = c.now from hnow]
    exact (Lru.thinned_get _ _ _).mono (fun _ => Or.inl) fun _ => id
  · rw [show (c.after 0 i t s').store = s'.store from rfl, hs]
    exact .refl

/-- A look into the shared tier. -/
theorem Kept.asked (h : q.Kept c n) {s₁ s' : Site Store} {trip : Trip (Option Bytes)}
    {reply : Except CacheError (Option Bytes)} (hf : (c.siteOf n).finish trip = (reply, s₁))
    (hr : trip.request = .get q.key) (hnow : s'.now = c.now) (hl : s'.node.lru = n.lru) (hs : s'.store = s₁.store)
    (i : Nat) (t : Task) : q.Kept (c.after 0 i t s') s'.node := by
  refine h.trans (Nat.le_of_eq hnow.symm) ?_ ?_
  · rw [hl]; exact .refl
  · rw [show (c.after 0 i t s').store = s'.store from rfl, hs, show (c.after 0 i t s').now = c.now from hnow]
    exact Site.thinned_of_finish hf hr

/-- Nothing is looked up. -/
theorem Kept.idle (h : q.Kept c n) (hnow : c.now ≤ c'.now) (hl : n'.lru = n.lru)
    (hs : c'.store.inner = c.store.inner) : q.Kept c' n' :=
  h.trans hnow (by rw [hl]; exact .refl) (by rw [hs]; exact .refl)

theorem Kept.aged (h : q.Kept c n) (hsame : q.Same n) (ha : Cluster.Aged c c') (hn : n.Aged c'.now n') :
    q.Kept c' n' := by
  refine h.trans ha.now (hn.thinned.mono (fun k hm => Or.inr ?_) fun _ => id) (by rw [ha.store]; exact .refl)
  cases hq : q.node.maintenance with
  | some m => rfl
  | none => rw [hsame.unplanned hq] at hm; cases hm

/-- The second answer is what counts after a first one that brings nothing. -/
theorem query_eq_look {l : Link Store} (hco : q.node.coalesce = true) (hl : q.link.look q.key = (none, l)) :
    q.query = l.look q.key := by
  unfold query
  rw [hco]
  exact Link.query_again hl

/-- What has not been found is not there later. -/
theorem Kept.miss (h : q.Kept c n) (hm : q.local? = none) (hle : q.cluster.now ≤ c.now) :
    n.lru.live? c.now q.key = none := Lru.live?_of_thinned h.lru hm hle

theorem Holds.aged (h : q.Holds v c n) (hsame : q.Same n) (ha : Cluster.Aged c c') (hn : n.Aged c'.now n') :
    q.Holds v c' n' := by
  rintro (hm | hlt)
  · rw [hn.still (hsame.unplanned hm)]
    exact h (Or.inl hm)
  · exact hn.kept _ _ (h (Or.inr (Nat.lt_of_le_of_lt ha.now hlt))) hlt

/-- What the errand has come to, by its phase and the number of fetches. -/
inductive Stage (q : Errand) : Phase → Nat → Cluster Store → Node → Prop where
  | waiting {start : Nat} {c : Cluster Store} (hstart : start ≤ c.now) (hnow : c.now = q.cluster.now)
      (hs : c.store = q.cluster.store) :
    Stage q (.waiting start) 0 c q.node
  | reading {trip : Trip (Option Bytes)} {l : Link Store} {c : Cluster Store} {n : Node} (hm : q.local? = none)
      (hl : q.link.call (.get q.key) = (trip, l)) (hc : c.Tracks n l trip.ends) (hk : q.Kept c n) :
    Stage q (.reading q.key trip) 0 c n
  | queued {l : Link Store} {c : Cluster Store} {n : Node} (hm : q.local? = none) (hco : q.node.coalesce = true)
      (hl : q.link.look q.key = (none, l)) (hc : c.Tracks n l l.now) (hk : q.Kept c n) :
    Stage q (.queued q.key) 0 c n
  | rereading {l l' : Link Store} {trip : Trip (Option Bytes)} {c : Cluster Store} {n : Node} (hm : q.local? = none)
      (hco : q.node.coalesce = true) (hl : q.link.look q.key = (none, l)) (hl' : l.call (.get q.key) = (trip, l'))
      (hc : c.Tracks n l' trip.ends) (hk : q.Kept c n) :
    Stage q (.rereading q.key trip) 0 c n
  | fetching {c : Cluster Store} {n : Node} (hm : q.local? = none) (hq : q.query.1 = none)
      (hc : c.Tracks n q.query.2 q.done) (hk : q.Kept c n) :
    Stage q (.fetching q.key q.done) 1 c n
  | storing {v : Json} {evicted : Bool} {trip : Trip Unit} {l : Link Store} {c : Cluster Store} {n : Node}
      (hm : q.local? = none) (hq : q.query.1 = none) (ho : q.fetch.outcome = .ok (some v))
      (hl : q.after.call (.set q.key (payload v) (some q.node.defaultTtl)) = (trip, l))
      (hc : c.Tracks n l trip.ends) (hv : q.Holds v c n) :
    Stage q (.storing q.key evicted trip) 1 c n
  -- the ends
  | found {v : Json} {ended : Nat} {c : Cluster Store} {n : Node} (he : ended = c.now) (hm : q.local? = some v)
      (hnow : c.now = q.cluster.now) (hs : c.store = q.cluster.store) :
    Stage q (.finished (.fetched (.ok (some v))) ended) 0 c n
  | brought {v : Json} {ended : Nat} {c : Cluster Store} {n : Node} (he : ended = c.now) (hm : q.local? = none)
      (hq : q.query.1 = some v) (hnow : c.now = q.query.2.now)
      (hv : n.lru.find? q.key = some (.written c.now v q.node.defaultTtl)) :
    Stage q (.finished (.fetched (.ok (some v))) ended) 0 c n
  | unfetched {ended : Nat} {c : Cluster Store} {n : Node} (he : ended = c.now) (hm : q.local? = none)
      (hq : q.query.1 = none) (ho : ∀ v, q.fetch.outcome ≠ .ok (some v)) (hk : q.Kept c n) :
    Stage q (.finished (.fetched q.fetch.outcome) ended) 1 c n
  | fetched {v : Json} {ended : Nat} {c : Cluster Store} {n : Node} (he : ended = c.now) (hm : q.local? = none)
      (hq : q.query.1 = none) (ho : q.fetch.outcome = .ok (some v)) (hv : q.Holds v c n)
      (hs : q.stored v = .ok () →
        c.store.inner.find? q.key = some ⟨payload v, some (deadline c.now q.node.defaultTtl)⟩) :
    Stage q (.finished (.fetched q.fetch.outcome) ended) 1 c n
  | dropped {m ended : Nat} {c : Cluster Store} {n : Node} (he : ended = c.now) (hm : q.local? = none)
      (hlt : c.now < q.done) (hf : m = 0 ∨ m = 1 ∧ q.query.1 = none) (hk : q.Kept c n) :
    Stage q (.cancelled ended) m c n
  | droppedStoring {v : Json} {ended : Nat} {c : Cluster Store} {n : Node} (he : ended = c.now) (hm : q.local? = none)
      (hq : q.query.1 = none) (ho : q.fetch.outcome = .ok (some v)) (hle : q.done ≤ c.now) (hv : q.Holds v c n) :
    Stage q (.cancelled ended) 1 c n

/-! ## From stage to stage -/

section Segments

variable {s' : Site Store} {t' : Task} {i k b : Nat} {p : Option Nat}

theorem Stage.start {start : Nat} (hnow : c.now = q.cluster.now) (hs : c.store = q.cluster.store)
    (hseg : Segment (c.siteOf q.node) s' ⟨q.call, k, .waiting start, b, 0, p⟩ t') :
    q.Stage t'.phase t'.fetches (c.after 0 i t' s') s'.node := by
  unfold call at hseg
  have hlink : c.siteOf q.node = { q.cluster.siteOf q.node with recorder := c.recorder } := by
    unfold Cluster.siteOf; rw [hnow, hs]
  cases hseg with
  | hitLocal hc hv ha =>
    cases hc
    refine .found ha.now.symm ?_ (ha.now.trans hnow) (ha.store.trans hs)
    rw [hlink] at hv
    exact hv
  | missLocal hc hv ha ht =>
    cases hc
    have hfollows : (c.siteOf q.node).Follows q.link := ⟨hnow, hs, rfl, rfl⟩
    obtain ⟨l, hl, hs'⟩ := ((hfollows.withLru _).alike ha).call ht
    obtain ⟨-, hle, hlnow, -⟩ := Link.call_spec hl
    obtain ⟨-, -, hset⟩ := Site.call_spec ht
    rw [hlink] at hv
    refine .reading hv hl (.of_follows hs' (hlnow ▸ hle) _ _) ?_
    refine (Kept.refl hs).looked (hset.now.trans ha.now) ?_ ?_ _ _
    · rw [hset.node]; exact ha.lru
    · rw [hset.inner, ha.store]; rfl
  | aside hc => cases hc

/-- The shared tier has brought a value, and it is copied. -/
theorem Stage.bring {s₁ : Site Store} {trip : Trip (Option Bytes)} {reply : Except CacheError (Option Bytes)}
    {l : Link Store} {m : Nat} {pt : Option Nat} (hsame : q.Same n) (hm : q.local? = none)
    (hf : (c.siteOf n).finish trip = (reply, s₁)) (hq : q.query = (some v, l)) (hs : s₁.Follows l)
    (hnow : s'.now = s₁.now) (hlru : s'.node.lru = (s₁.node.lru.set s₁.now q.key v none).2)
    (ht : t' = ⟨q.call, k, .finished (.fetched (.ok (some v))) c.now, b, m, pt⟩) (hzero : m = 0) :
    q.Stage t'.phase t'.fetches (c.after 0 i t' s') s'.node := by
  have hl := Site.finish_spec hf
  have hend : s'.now = c.now := hnow.trans hl.now
  subst ht hzero
  refine .brought hend.symm hm (by rw [hq]) ?_ ?_
  · rw [hq]; exact hnow.trans hs.now
  · rw [hlru, Lru.find?_set_self, show (c.after 0 i _ s').now = s₁.now from hnow, ← hsame.defaultTtl, hl.node]
    rfl

/-- The shared tier has brought nothing, and the fetch starts. -/
theorem Stage.fetch {s₁ : Site Store} {trip : Trip (Option Bytes)} {reply : Except CacheError (Option Bytes)}
    {l : Link Store} {m : Nat} {pt : Option Nat} (hm : q.local? = none) (hf : (c.siteOf n).finish trip = (reply, s₁))
    (hq : q.query = (none, l)) (hs : s'.Follows l) (hnow : s'.now = s₁.now) (hk : q.Kept (c.after 0 i t' s') s'.node)
    (ht : t' = ⟨q.call, k, .fetching q.key (q.fetch.due c.now), b, m + 1, pt⟩) (hzero : m = 0) :
    q.Stage t'.phase t'.fetches (c.after 0 i t' s') s'.node := by
  have hend : c.now = q.query.2.now := by
    rw [hq]
    exact ((hnow.trans (Site.finish_spec hf).now).symm.trans hs.now)
  have hle : l.now ≤ q.done := Nat.le_trans (Nat.le_of_eq (by rw [hq])) q.le_done
  have htracks := Cluster.Tracks.of_follows (c := c) hs hle
  rw [show q.fetch.due c.now = q.done by rw [hend]; rfl] at ht
  subst ht hzero
  exact .fetching hm (by rw [hq]) (by rw [hq]; exact htracks _ _) hk

theorem Stage.read {trip : Trip (Option Bytes)} {l : Link Store} (hsame : q.Same n) (hm : q.local? = none)
    (hl : q.link.call (.get q.key) = (trip, l)) (hc : c.Tracks n l trip.ends) (hk : q.Kept c n)
    (hle : trip.ends ≤ c.now) (hseg : Segment (c.siteOf n) s' ⟨q.call, k, .reading q.key trip, b, 0, p⟩ t') :
    q.Stage t'.phase t'.fetches (c.after 0 i t' s') s'.node := by
  unfold call at hseg
  have hr := (Link.call_spec hl).1
  cases hseg with
  | hitShared hf hv ha =>
    obtain ⟨l', hlook, hs⟩ := hc.look hl hle hf
    rw [hv] at hlook
    exact .bring hsame hm hf (Link.query_of_hit hlook) hs ha.now ha.lru rfl rfl
  | queue hf hv hco ha =>
    obtain ⟨l', hlook, hs⟩ := hc.look hl hle hf
    rw [hv] at hlook
    have hland := Site.finish_spec hf
    refine .queued hm (hsame.coalesce ▸ hco) hlook (.of_follows ((hs.join ..).alike ha) (Nat.le_refl _) _ _) ?_
    exact hk.asked hf hr (ha.now.trans hland.now) (ha.lru.trans (congrArg Node.lru hland.node :)) ha.store _ _
  | fetchAtOnce hf hv hco ha =>
    obtain ⟨l', hlook, hs⟩ := hc.look hl hle hf
    rw [hv] at hlook
    have hland := Site.finish_spec hf
    have hq : q.query = (none, l') := by
      unfold query
      rw [← hsame.coalesce, show n.coalesce = false from hco]
      exact Link.query_of_miss hlook
    exact .fetch hm hf hq (hs.alike ha) ha.now
      (hk.asked hf hr (ha.now.trans hland.now) (ha.lru.trans (congrArg Node.lru hland.node)) ha.store _ _) rfl rfl
  | aside hc => cases hc

theorem Stage.turn {l : Link Store} (hm : q.local? = none) (hco : q.node.coalesce = true)
    (hl : q.link.look q.key = (none, l)) (hc : c.Tracks n l l.now) (hk : q.Kept c n)
    (hseg : Segment (c.siteOf n) s' ⟨q.call, k, .queued q.key, b, 0, p⟩ t') :
    q.Stage t'.phase t'.fetches (c.after 0 i t' s') s'.node := by
  unfold call at hseg
  cases hseg with
  | rehitLocal hv ha =>
    have hle : q.cluster.now ≤ c.now := by
      have := Link.now_le_look q.link q.key
      rw [hl] at this
      exact Nat.le_trans this hc.from_le
    rw [show (c.siteOf n).node.lru.live? (c.siteOf n).now q.key = none from hk.miss hm hle] at hv
    cases hv
  | remissLocal hv ha ht =>
    obtain ⟨l', hl', hs⟩ := ((hc.follows_of_eq.withLru _).alike ha).call ht
    obtain ⟨-, hle, hnow, -⟩ := Link.call_spec hl'
    obtain ⟨-, -, hset⟩ := Site.call_spec ht
    refine .rereading hm hco hl hl' (.of_follows hs (hnow ▸ hle) _ _) ?_
    refine hk.looked (hset.now.trans ha.now) ?_ ?_ _ _
    · rw [hset.node]; exact ha.lru
    · rw [hset.inner, ha.store]; rfl
  | aside hc => cases hc

theorem Stage.reread {trip : Trip (Option Bytes)} {l l' : Link Store} (hsame : q.Same n) (hm : q.local? = none)
    (hco : q.node.coalesce = true) (hl : q.link.look q.key = (none, l)) (hl' : l.call (.get q.key) = (trip, l'))
    (hc : c.Tracks n l' trip.ends) (hk : q.Kept c n) (hle : trip.ends ≤ c.now)
    (hseg : Segment (c.siteOf n) s' ⟨q.call, k, .rereading q.key trip, b, 0, p⟩ t') :
    q.Stage t'.phase t'.fetches (c.after 0 i t' s') s'.node := by
  unfold call at hseg
  have hr := (Link.call_spec hl').1
  have hquery := query_eq_look hco hl
  cases hseg with
  | rehitShared hf hv ha =>
    obtain ⟨l'', hlook, hs⟩ := hc.look hl' hle hf
    rw [hv] at hlook
    exact .bring hsame hm hf (hquery.trans hlook) hs ha.now ha.lru rfl rfl
  | remissShared hf hv ha =>
    obtain ⟨l'', hlook, hs⟩ := hc.look hl' hle hf
    rw [hv] at hlook
    have hland := Site.finish_spec hf
    exact .fetch hm hf (hquery.trans hlook) (hs.alike ha) ha.now
      (hk.asked hf hr (ha.now.trans hland.now) (ha.lru.trans (congrArg Node.lru hland.node)) ha.store _ _) rfl rfl
  | aside hc => cases hc

theorem Stage.endFetch {key : String} (hkey : key = q.key) (hsame : q.Same n) (hm : q.local? = none)
    (hq : q.query.1 = none) (hc : c.Tracks n q.query.2 q.done) (hk : q.Kept c n) (hle : q.done ≤ c.now)
    (hseg : Segment (c.siteOf n) s' ⟨q.call, k, .fetching key q.done, b, 1, p⟩ t') :
    q.Stage t'.phase t'.fetches (c.after 0 i t' s') s'.node := by
  unfold call at hseg
  have hnow : c.now = q.done := Nat.le_antisymm hc.le_till hle
  cases hseg with
  | fetched ho hw ha ht =>
    rename_i v w trip s₁
    have hreq : w.request = .set q.key (payload v) (some q.node.defaultTtl) := by
      rw [← hkey, hw, ← Node.defaultTtl_of_frame hsame.frame]
      rfl
    have hfollows : (c.siteOf n).Follows q.after := ⟨hnow, hc.store, hc.connected, hc.timeout⟩
    rw [hreq] at ht
    obtain ⟨l, hl, hs⟩ := ((hfollows.withLru _).alike ha).call ht
    obtain ⟨-, hends, hlnow, -⟩ := Link.call_spec hl
    obtain ⟨-, -, hset⟩ := Site.call_spec ht
    rw [hkey]
    refine .storing hm hq ho hl (.of_follows hs (hlnow ▸ hends) _ _) fun _ => ?_
    rw [hset.node, ha.lru]
    show (n.lru.set c.now w.key w.value (some w.ttl)).2.find? q.key = _
    rw [hkey, Lru.find?_set_self, hnow, hw, ← Node.defaultTtl_of_frame hsame.frame]
    rfl
  | unfetched ho ha =>
    exact .unfetched ha.now.symm hm hq ho (hk.idle (Nat.le_of_eq ha.now.symm) ha.lru (congrArg Scripted.inner ha.store))
  | aside hc => cases hc

theorem stored_of_ask {r : Except CacheError Unit} {l : Link Store}
    (h : q.after.ask (.set q.key (payload v) (some q.node.defaultTtl)) = (r, l)) : q.stored v = r :=
  congrArg Prod.fst h

theorem Stage.endStore {evicted : Bool} {trip : Trip Unit} {l : Link Store}
    (hm : q.local? = none) (hq : q.query.1 = none) (ho : q.fetch.outcome = .ok (some v))
    (hl : q.after.call (.set q.key (payload v) (some q.node.defaultTtl)) = (trip, l)) (hc : c.Tracks n l trip.ends)
    (hv : q.Holds v c n) (hle : trip.ends ≤ c.now)
    (hseg : Segment (c.siteOf n) s' ⟨q.call, k, .storing q.key evicted trip, b, 1, p⟩ t') :
    q.Stage t'.phase t'.fetches (c.after 0 i t' s') s'.node := by
  unfold call at hseg
  cases hseg with
  | storedFetched hf ha =>
    obtain ⟨l', hask, -⟩ := (hc.follows hle).ask hl hf
    have hland := Site.finish_spec hf
    have hnow : s'.now = c.now := ha.now.trans hland.now
    have hlru : s'.node.lru = n.lru := ha.lru.trans (congrArg Node.lru hland.node :)
    refine .fetched hnow.symm hm hq ho (fun h => ?_) fun hok => ?_
    · rw [hlru]
      refine hv (h.imp_right fun hlt => ?_)
      rwa [← hnow]
    · rw [stored_of_ask hask] at hok
      subst hok
      rw [show (c.after 0 i _ s').now = c.now from hnow]
      have hfound := Site.find?_of_stored hf (Link.call_spec hl).1
      rw [show (c.after 0 i _ s').store = s'.store from rfl, ha.store]
      exact hfound
  | aside hc => cases hc

/-- A segment takes the errand to its next stage. -/
theorem Stage.goesOn {t : Task} (h : q.Stage t.phase t.fetches c n) (hcall : t.call = q.call) (hsame : q.Same n)
    (hr : t.isReady c.now n = true) (hseg : Segment (c.siteOf n) s' t t') :
    q.Stage t'.phase t'.fetches (c.after 0 i t' s') s'.node := by
  obtain ⟨call, k, ph, b, m, p⟩ := t
  have hcall : call = q.call := hcall
  subst hcall
  have hdue : ∀ {due : Nat}, ph.due? = some due → (∀ key, ph ≠ .queued key) → due ≤ c.now := by
    intro due hd hq
    unfold Task.isReady at hr
    split at hr
    · rename_i key hp; exact absurd hp (hq key)
    · rw [show Phase.due? _ = some due from hd] at hr; simpa using hr
  cases h with
  | waiting hstart hnow hs => exact .start hnow hs hseg
  | reading hm hl hc hk => exact .read hsame hm hl hc hk (hdue rfl nofun) hseg
  | queued hm hco hl hc hk => exact .turn hm hco hl hc hk hseg
  | rereading hm hco hl hl' hc hk => exact .reread hsame hm hco hl hl' hc hk (hdue rfl nofun) hseg
  | fetching hm hq hc hk => exact .endFetch rfl hsame hm hq hc hk (hdue rfl nofun) hseg
  | storing hm hq ho hl hc hv => exact .endStore hm hq ho hl hc hv (hdue rfl nofun) hseg
  | _ => cases Cluster.isReady_not_over hr

/-- The caller drops the errand where it waits. -/
theorem Stage.drop {t : Task} {due : Nat} (h : q.Stage t.phase t.fetches c n) (hw : t.phase.due? = some due)
    (hlt : c.now < due) (i : Nat) :
    q.Stage (.cancelled c.now) t.fetches (c.after 0 i { t with phase := .cancelled c.now } (c.siteOf (t.released n)))
      (t.released n) := by
  obtain ⟨call, k, ph, b, m, p⟩ := t
  have hkept : ∀ {t' : Task}, q.Kept c n → q.Kept (c.after 0 i t' (c.siteOf (Task.released ⟨call, k, ph, b, m, p⟩ n)))
      (Task.released ⟨call, k, ph, b, m, p⟩ n) := fun hk => hk.idle (Nat.le_refl _) rfl rfl
  have hquery := Nat.le_trans (Link.now_le_query q.link q.node.coalesce q.key) q.le_done
  cases h with
  | waiting hstart => cases hw; omega
  | reading hm hl hc hk =>
    cases hw
    have hends := Link.ends_le_look hl
    exact .dropped rfl hm (show c.now < q.done by omega) (Or.inl rfl) (hkept hk)
  | rereading hm hco hl hl' hc hk =>
    cases hw
    have hends := Link.ends_le_look hl'
    have hdone := q.le_done
    rw [query_eq_look hco hl] at hdone
    exact .dropped rfl hm (show c.now < q.done by omega) (Or.inl rfl) (hkept hk)
  | fetching hm hq hc hk => cases hw; exact .dropped rfl hm hlt (Or.inr ⟨rfl, hq⟩) (hkept hk)
  | storing hm hq ho hl hc hv =>
    refine .droppedStoring rfl hm hq ho ?_ hv
    have := hc.from_le
    rw [(Link.call_spec hl).2.2.1] at this
    exact this
  | _ => cases hw

/-- The clock comes closer to the end of the wait. -/
theorem Stage.sleep {t : Task} {due d : Nat} (h : q.Stage t.phase t.fetches c n) (hsame : q.Same n)
    (hw : t.phase.due? = some due) (hlt : c.now < due) (hd : d ≤ due) (hn : n.Aged (c.advance d).now n') :
    q.Stage t.phase t.fetches (c.advance d) n' := by
  obtain ⟨ha, hnow⟩ := Cluster.advance_spec c d
  have hle : (c.advance d).now ≤ due := by rw [hnow]; exact Nat.max_le.2 ⟨Nat.le_of_lt hlt, hd⟩
  obtain ⟨call, k, ph, b, m, p⟩ := t
  cases h with
  | waiting hstart => cases hw; omega
  | reading hm hl hc hk => cases hw; exact .reading hm hl (hc.aged ha hn hle) (hk.aged hsame ha hn)
  | rereading hm hco hl hl' hc hk => cases hw; exact .rereading hm hco hl hl' (hc.aged ha hn hle) (hk.aged hsame ha hn)
  | fetching hm hq hc hk => cases hw; exact .fetching hm hq (hc.aged ha hn hle) (hk.aged hsame ha hn)
  | storing hm hq ho hl hc hv => cases hw; exact .storing hm hq ho hl (hc.aged ha hn hle) (hv.aged hsame ha hn)
  | _ => cases hw

end Segments

/-! ## The ends -/

/-- What an errand comes to: what the caller gets, and what is left in both tiers. -/
structure Fulfilled (q : Errand) (t : Task) (c : Cluster Store) (n : Node) : Prop where
  /-- What the local tier has is the answer, at once and without a call to the store. -/
  local_hit : ∀ v, q.local? = some v →
    t.phase = .finished (.fetched (.ok (some v))) q.cluster.now ∧ t.fetches = 0 ∧ c.store = q.cluster.store
  /-- Otherwise what the shared tier brings is the answer, and the local tier has a copy from then on. -/
  shared_hit : q.local? = none → ∀ v, q.query.1 = some v → t.fetches = 0 ∧
    ∀ reply ended, t.phase = .finished reply ended → reply = .fetched (.ok (some v)) ∧ ended = q.query.2.now ∧
      n.lru.find? q.key = some (.written ended v q.node.defaultTtl)
  /-- Otherwise the fetch runs, once, and its outcome is the answer. -/
  fetched : q.local? = none → q.query.1 = none → t.fetches ≤ 1 ∧
    ∀ reply ended, t.phase = .finished reply ended → t.fetches = 1 ∧ reply = .fetched q.fetch.outcome
  /-- A value that was fetched is in the local tier whatever the store does, and in the store if that
  lets the write be done. -/
  value : q.local? = none → q.query.1 = none → ∀ v, q.fetch.outcome = .ok (some v) →
    (∀ ended, t.phase = .cancelled ended → q.done ≤ ended) → q.Holds v c n ∧
      ∀ reply ended, t.phase = .finished reply ended → q.stored v = .ok () →
        c.store.inner.find? q.key = some ⟨payload v, some (deadline c.now q.node.defaultTtl)⟩
  /-- Without a value, and when the caller drops the call before the fetch has ended, nothing comes. -/
  nothing : (q.local? = none ∧ q.query.1 = none ∧ ∀ v, q.fetch.outcome ≠ .ok (some v)) ∨
    (∃ ended, t.phase = .cancelled ended ∧ ended < q.done) → q.Kept c n

/-- The last stages are the ends. -/
theorem Stage.fulfilled {t : Task} (h : q.Stage t.phase t.fetches c n) (hover : t.phase.isOver = true) :
    q.Fulfilled t { c with jobs := [] } n := by
  obtain ⟨call, k, ph, b, m, p⟩ := t
  cases h with
  | found he hm hnow hs =>
    subst he
    refine ⟨fun v hv => ?_, fun hm' => ?_, fun hm' => ?_, fun hm' => ?_, ?_⟩
    · rw [hm] at hv
      cases hv
      exact ⟨by rw [hnow], rfl, hs⟩
    · rw [hm] at hm'; cases hm'
    · rw [hm] at hm'; cases hm'
    · rw [hm] at hm'; cases hm'
    · rintro (⟨hm', -⟩ | ⟨_, hp, -⟩)
      · rw [hm] at hm'; cases hm'
      · cases hp
  | brought he hm hq hnow hv =>
    subst he
    refine ⟨fun v hv' => ?_, fun _ v hv' => ?_, fun _ hq' => ?_, fun _ hq' => ?_, ?_⟩
    · rw [hm] at hv'; cases hv'
    · rw [hq] at hv'
      cases hv'
      refine ⟨rfl, fun reply ended hp => ?_⟩
      cases hp
      exact ⟨rfl, hnow, hv⟩
    · rw [hq] at hq'; cases hq'
    · rw [hq] at hq'; cases hq'
    · rintro (⟨-, hq', -⟩ | ⟨_, hp, -⟩)
      · rw [hq] at hq'; cases hq'
      · cases hp
  | unfetched he hm hq ho hk =>
    refine ⟨fun v hv => ?_, fun _ v hv => ?_, fun _ _ => ?_, fun _ _ v hv => absurd hv (ho v),
      fun _ => ⟨hk.lru, hk.store⟩⟩
    · rw [hm] at hv; cases hv
    · rw [hq] at hv; cases hv
    · exact ⟨Nat.le_refl _, fun reply ended hp => by cases hp; exact ⟨rfl, rfl⟩⟩
  | fetched he hm hq ho hv hs =>
    refine ⟨fun v hv => ?_, fun _ v hv => ?_, fun _ _ => ?_, fun _ _ v hv' _ => ?_, ?_⟩
    · rw [hm] at hv; cases hv
    · rw [hq] at hv; cases hv
    · exact ⟨Nat.le_refl _, fun reply ended hp => by cases hp; exact ⟨rfl, rfl⟩⟩
    · rw [ho] at hv'
      cases hv'
      exact ⟨hv, fun _ _ _ => hs⟩
    · rintro (⟨-, -, ho'⟩ | ⟨_, hp, -⟩)
      · exact absurd ho (ho' _)
      · cases hp
  | dropped he hm hlt hf hk =>
    refine ⟨fun v hv => ?_, fun _ v hv => ?_, fun _ hq => ?_, fun _ _ v _ hended => ?_, fun _ => ⟨hk.lru, hk.store⟩⟩
    · rw [hm] at hv; cases hv
    · refine ⟨?_, nofun⟩
      rcases hf with hf | ⟨-, hq⟩
      · exact hf
      · rw [hq] at hv; cases hv
    · exact ⟨hf.elim (fun hz => Nat.le_succ_of_le (Nat.le_of_eq hz)) fun ho => Nat.le_of_eq ho.1, nofun⟩
    · have := hended _ rfl
      omega
  | droppedStoring he hm hq ho hle hv =>
    refine ⟨fun v hv => ?_, fun _ v hv => ?_, fun _ _ => ⟨Nat.le_refl _, nofun⟩, fun _ _ v hv' _ => ?_, ?_⟩
    · rw [hm] at hv; cases hv
    · rw [hq] at hv; cases hv
    · rw [ho] at hv'
      cases hv'
      exact ⟨hv, nofun⟩
    · rintro (⟨-, -, ho'⟩ | ⟨_, hp, hlt⟩)
      · exact absurd ho (ho' _)
      · cases hp; omega
  | _ => cases hover

end Errand

namespace Cluster

variable {q : Errand} {i : Nat} {t t' : Task} {c c' : Cluster Store} {n : Node}

/-- The errand is at one of its stages. -/
structure Runs (q : Errand) (i : Nat) (t : Task) (c : Cluster Store) : Prop where
  call : t.call = q.call
  stage : ∃ n, c.nodes[i]? = some n ∧ q.Same n ∧ q.Stage t.phase t.fetches c n

theorem Runs.turn (h : Runs q i t c) (hn : c.nodes[i]? = some n) (hs : SoloTurn i n t c t' c') : Runs q i t' c' := by
  obtain ⟨hcall, n₀, hn₀, hsame, hstage⟩ := h
  rw [hn] at hn₀
  cases hn₀
  have hself : ∀ {t₁ : Task} {s : Site Store}, (c.after 0 i t₁ s).nodes[i]? = some s.node := fun {_ s} =>
    List.getElem?_set_self (List.getElem?_eq_some_iff.1 hn).1
  cases hs with
  | goesOn hr hseg =>
    exact ⟨hseg.same.1.trans hcall, _, hself, hsame.steady hseg.steady, hstage.goesOn hcall hsame hr hseg⟩
  | dropped hw hlt hp => exact ⟨hcall, _, hself, ⟨hsame.frame, hsame.unplanned⟩, hstage.drop hw hlt i⟩
  | sleeps hw hlt hd =>
    obtain ⟨n', hn', ha⟩ := (advance_spec c _).1.nodes hn
    exact ⟨hcall, n', hn', hsame.aged ha, hstage.sleep hsame hw hlt hd ha⟩

/-- The fetch-through contract. In whatever state the cluster is, a call with a fetch that is made while
no caller is in line comes to its end, is answered if its caller is patient, and comes to what its
local tier, the shared tier and its fetch make of it. -/
theorem fetch_through (c : Cluster Store) (hd : c.Deserted) {i : Nat} {n : Node} (hn : c.nodes[i]? = some n)
    (short : String) (fetch : Fetch) (patience : Option Nat) :
    ∃ t c' n', c.request i (.getOrFetch short fetch) patience = (some t, c') ∧ c'.nodes[i]? = some n' ∧
      t.phase.isOver = true ∧ (patience = none → ∃ reply ended, t.phase = .finished reply ended) ∧
      (⟨c, n, short, fetch⟩ : Errand).Fulfilled t c' n' := by
  obtain ⟨t, c', hreq, hover, -, n', hn', -, hstage⟩ := request_induct (P := Runs ⟨c, n, short, fetch⟩ i) hd hn
    (.getOrFetch short fetch) patience ⟨rfl, n, hn, .refl _, .waiting (Nat.le_refl _) rfl rfl⟩
    fun _ hn _ h hs => h.turn hn hs
  refine ⟨t, _, n', hreq, hn', hover, fun hp => ?_, hstage.fulfilled hover⟩
  obtain ⟨u, reply, ended, hu, hphase⟩ := request_answered hd hn (.getOrFetch short fetch)
  rw [← hp, hreq] at hu
  cases hu
  exact ⟨reply, ended, hphase⟩

/-- An instance made from settings, and a store with bytes that are no payload. -/
theorem fetch_through_of_corrupt : ∃ n, Node.make "a" {} = .ok n ∧
    let c : Cluster Store := {
      store := { inner := ({} : Store).insertRaw "cache:k" [0xc1] }
      nodes := [{ n with remote.connected := true }] }
    let q : Errand := ⟨c, { n with remote.connected := true }, "k", { delay := some (millis 5), outcome := .ok (some .null) }⟩
    ∃ t c' n', c.request 0 q.call none = (some t, c') ∧ c'.nodes[0]? = some n' ∧
      (∃ reply ended, t.phase = .finished reply ended) ∧ q.Fulfilled t c' n' := by
  refine ⟨_, rfl, ?_⟩
  intro c q
  have hd : c.Deserted := by
    intro n hn
    cases hn with
    | head => exact ⟨rfl, rfl⟩
    | tail _ h => cases h
  obtain ⟨t, c', n', hreq, hn', -, hanswer, hq⟩ := fetch_through c hd (show c.nodes[0]? = some q.node from rfl) "k" q.fetch none
  exact ⟨t, c', n', hreq, hn', hanswer rfl, hq⟩

end Cluster

end TwoTier
