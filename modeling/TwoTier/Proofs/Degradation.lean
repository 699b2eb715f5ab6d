/-
Degraded operation. Instances whose store is unavailable, and instances that never had a connection, are cut off
from the shared tier alike: they answer the same, fetch the same, hold the same in their local tiers and enter
the same into their books, but for the failures that only the connected ones count. Neither leaves a trace in a
store, whatever kind of store it is.
-/
import TwoTier.Proofs.Schedule.Lockstep
import TwoTier.Proofs.Schedule.Strides
import TwoTier.Proofs.Site.Severed

namespace TwoTier

variable {σ : Type}

/-! ## What the schedule sees of a call -/

namespace Task.Severed

variable {t t' : Task}

theorem isReady (h : t.Severed t') (now : Nat) (n : Node) : t'.isReady now n.shorn = t.isReady now n := by
  cases h with | mk hp hu =>
  unfold Task.isReady
  cases hp with
  | reading ht | rereading ht | storing ht | deleting ht | sweeping ht | announcing ht => cases ht; rfl
  | _ => rfl

theorem dropsAt? (h : t.Severed t') : t'.dropsAt? = t.dropsAt? := by
  cases h with | mk hp hu => cases hp <;> rfl

theorem wakes? (h : t.Severed t') : t'.wakes? = t.wakes? := by
  unfold Task.wakes?
  rw [h.dropsAt?]
  cases h with | mk hp hu =>
  dsimp only
  rw [hp.due?]

/-- Calls that are over are the same. -/
theorem eq_of_isOver (h : t.Severed t') (hover : t.phase.isOver = true) : t' = t := by
  cases h with | mk hp hu =>
  cases hp with
  | finished | cancelled => rfl
  | _ => cases hover

end Task.Severed

namespace Cluster

/-- The same instances on both sides, all connected to the one store and none to the other. -/
structure Severed (st : Scripted Store) (st' : Scripted σ) (c : Cluster Store) (c' : Cluster σ) : Prop where
  now : c'.now = c.now
  nodes : c'.nodes = c.nodes.map Node.shorn
  connected : ∀ n ∈ c.nodes, n.remote.connected = true
  store : c.store = st
  store' : c'.store = st'

variable {st : Scripted Store} {st' : Scripted σ} {c d : Cluster Store} {c' d' : Cluster σ} {i k : Nat} {n : Node}
  {s : Site Store} {s' : Site σ}

namespace Severed

theorem node (h : Severed st st' c c') (hn : c.nodes[i]? = some n) : c'.nodes[i]? = some n.shorn := by
  rw [h.nodes, List.getElem?_map, hn]
  rfl

theorem site (h : Severed st st' c c') (hn : c.nodes[i]? = some n) :
    (c.siteOf n).Severed st st' (c'.siteOf n.shorn) := by
  unfold siteOf
  rw [h.now, h.store, h.store']
  exact .mk (h.connected n (List.mem_of_getElem? hn))

/-- An instance has changed on both sides. -/
theorem withSite (h : Severed st st' c c') (hs : s.Severed st st' s') (i : Nat) :
    Severed st st' (c.withSite i s) (c'.withSite i s') := by
  cases hs with | mk hc =>
  refine ⟨rfl, ?_, ?_, rfl, rfl⟩
  · unfold Cluster.withSite
    rw [h.nodes, List.map_set]
  · intro m hm
    rcases List.mem_or_eq_of_mem_set hm with hm | rfl
    · exact h.connected m hm
    · exact hc

/-- Calls may come and go. -/
theorem withJobs (h : Severed st st' c c') (jobs jobs' : List Job) :
    Severed st st' { c with jobs } { c' with jobs := jobs' } := ⟨h.now, h.nodes, h.connected, h.store, h.store'⟩

variable [Backend σ]

theorem wait (h : Severed st st' c c') (t : Nat) : Severed st st' (c.move (.wait t)) (c'.move (.wait t)) :=
  ⟨congrArg (max · t) h.now, h.nodes, h.connected, h.store, h.store'⟩

theorem purge (h : Severed st st' c c') (i : Nat) : Severed st st' (c.move (.purge i)) (c'.move (.purge i)) := by
  show Severed st st' (c.onSite i Site.purge) (c'.onSite i Site.purge)
  unfold onSite
  cases hn : c.nodes[i]? with
  | none =>
    have hn' : c'.nodes[i]? = none := by rw [h.nodes, List.getElem?_map, hn]; rfl
    rw [site?, hn, site?, hn']
    exact h
  | some n =>
    rw [site?_of_node hn, site?_of_node (h.node hn)]
    exact h.withSite (h.site hn).purge i

theorem ticking (st : Scripted Store) (st' : Scripted σ) : Ticking (Severed st st') where
  now h := h.now
  plans h := by
    rw [h.nodes, List.map_map]
    rfl
  wait h := h.wait
  purge h := h.purge

end Severed

/-! ## One call -/

/-- The same call is under way on both sides, and the one store is down. -/
structure SeveredCall (st : Scripted Store) (st' : Scripted σ) (i : Nat) (c : Cluster Store) (c' : Cluster σ) : Prop where
  severed : Severed st st' c c'
  down : st.Down
  node : i < c.nodes.length
  job : ∃ t t', c.jobs = [⟨i, t⟩] ∧ c'.jobs = [⟨i, t'⟩] ∧ t.Severed t'

namespace SeveredCall

/-- The call has changed on both sides. -/
theorem after (h : SeveredCall st st' i c c') {t t' : Task} (he : Site.Severed.Ends st st' (t, s) (t', s')) :
    SeveredCall st st' i (c.after 0 i t s) (c'.after 0 i t' s') := by
  obtain ⟨u, u', hj, hj', -⟩ := h.job
  refine ⟨(h.severed.withSite he.2 i).withJobs .., h.down, ?_, t, t', ?_, ?_, he.1⟩
  · show i < (c.nodes.set i _).length
    rw [List.length_set]
    exact h.node
  · show c.jobs.set 0 _ = _
    rw [hj]
    rfl
  · show c'.jobs.set 0 _ = _
    rw [hj']
    rfl

theorem sight (h : SeveredCall st st' i c c') : c'.jobs.map c'.sight = c.jobs.map c.sight := by
  obtain ⟨t, t', hj, hj', ht⟩ := h.job
  have hn := List.getElem?_eq_getElem h.node
  have hrank : ∀ attempts, t'.phase.rank attempts = t.phase.rank attempts := by
    intro attempts
    cases ht with | mk hp hu => exact hp.rank attempts
  rw [hj, hj', List.map_singleton, List.map_singleton]
  unfold Cluster.sight isReady rank
  dsimp only
  rw [hn, h.severed.node hn, h.severed.now]
  dsimp only
  rw [ht.isReady, ht.dropsAt?, ht.wakes?, hrank]
  rfl

/-- What happens to the call happens to it on both sides. -/
theorem onJob (h : SeveredCall st st' i c c') {f : Task → Site Store → Task × Site Store}
    {f' : Task → Site σ → Task × Site σ}
    (hf : ∀ {t t' s s'}, t.Severed t' → s.Severed st st' s' → Site.Severed.Ends st st' (f t s) (f' t' s')) (k : Nat) :
    SeveredCall st st' i (c.onJob k f) (c'.onJob k f') := by
  obtain ⟨t, t', hj, hj', ht⟩ := h.job
  have hn := List.getElem?_eq_getElem h.node
  cases k with
  | zero =>
    rw [onJob_eq (by rw [hj]; rfl) hn, onJob_eq (by rw [hj']; rfl) (h.severed.node hn)]
    exact h.after (hf ht (h.severed.site hn))
  | succ k =>
    unfold Cluster.onJob
    rw [hj, hj']
    exact h

variable [Backend σ]

theorem resume (h : SeveredCall st st' i c c') (hr : c.jobs[k]?.any c.isReady = true) :
    SeveredCall st st' i (c.move (.resume k)) (c'.move (.resume k)) := by
  have hr' : c'.jobs[k]?.any c'.isReady = true := (any_of_sight h.sight Sight.ready k).trans hr
  rw [move, if_pos hr, move, if_pos hr']
  exact h.onJob (fun ht hs => hs.step h.down ht) k

theorem cancel (h : SeveredCall st st' i c c') (k : Nat) :
    SeveredCall st st' i (c.move (.cancel k)) (c'.move (.cancel k)) := h.onJob (fun ht hs => hs.cancel ht) k

theorem lockstep (st : Scripted Store) (st' : Scripted σ) (i : Nat) : Lockstep (SeveredCall st st' i) where
  now h := h.severed.now
  plans h := (Severed.ticking st st').plans h.severed
  wait h t := ⟨h.severed.wait t, h.down, h.node, h.job⟩
  purge h j := ⟨h.severed.purge j, h.down, by rw [length_purge]; exact h.node, by rw [jobs_purge, jobs_purge]; exact h.job⟩
  jobs h := h.sight
  resume h _ hr := h.resume hr
  cancel h k := h.cancel k

end SeveredCall

variable [Backend σ]

/-- A call is answered alike on both sides. -/
theorem Severed.request (h : Severed st st' c c') (hdown : st.Down) (hd : c.Deserted) (hn : c.nodes[i]? = some n)
    {call : Call} (hu : call.usesCache = true) :
    Severed st st' (c.request i call none).2 (c'.request i call none).2 ∧
      (c'.request i call none).1 = (c.request i call none).1 := by
  have hbegin : SeveredCall st st' i (c.begin i call none) (c'.begin i call none) := by
    refine ⟨h.withJobs .., hdown, (List.getElem?_eq_some_iff.1 hn).1, _, _, rfl, rfl, ?_⟩
    rw [h.now]
    exact .mk (t := { call, ticket := 0, phase := .waiting c.now }) .waiting hu
  obtain ⟨d, d', hdd, hreq, hreq'⟩ := (SeveredCall.lockstep st st' i).request hn (h.node hn) hbegin
  obtain ⟨t, t', hj, hj', ht⟩ := hdd.job
  rw [hj] at hreq
  rw [hj'] at hreq'
  -- a call that is over holds no trip, so it is the same on both sides
  obtain ⟨u, _, hspec, -, -, hover⟩ := request_spec hd hn call none
  cases Option.some.inj (congrArg Prod.fst (hspec.symm.trans hreq))
  rw [hreq, hreq', ht.eq_of_isOver hover]
  exact ⟨hdd.severed.withJobs .., rfl⟩

/-! ## Sequential runs -/

/-- A stride comes to the same on both sides, and a call is answered. -/
theorem Severed.take (h : Severed st st' c c') (hdown : st.Down) (hd : c.Deserted) {s : Stride}
    (hs : ∀ i call, s = .of i call → i < c.nodes.length ∧ call.usesCache = true) :
    Severed st st' (c.take s).2 (c'.take s).2 ∧ (c'.take s).1 = (c.take s).1 ∧
      ∀ t, (c.take s).1 = some t → ∃ reply ended, t.phase = .finished reply ended := by
  cases s with
  | of i call =>
    obtain ⟨hi, hu⟩ := hs i call rfl
    have hn := List.getElem?_eq_getElem hi
    obtain ⟨hrel, hans⟩ := h.request hdown hd hn hu
    obtain ⟨t, reply, ended, ht, hp⟩ := request_answered hd hn call
    refine ⟨hrel, hans, ?_⟩
    intro u hu
    change (c.request i call none).1 = some u at hu
    rw [ht] at hu
    cases hu
    exact ⟨reply, ended, hp⟩
  | advance t =>
    refine ⟨(Severed.ticking st st').advance h t, rfl, ?_⟩
    intro t ht
    cases ht
  | purge i =>
    refine ⟨h.purge i, rfl, ?_⟩
    intro t ht
    cases ht

theorem Severed.walk (h : Severed st st' c c') (hdown : st.Down) (hd : c.Deserted) {strides : List Stride}
    (hs : ∀ i call, .of i call ∈ strides → i < c.nodes.length ∧ call.usesCache = true) :
    Severed st st' (c.walk strides) (c'.walk strides) ∧ ∀ i, c'.answers i strides = c.answers i strides ∧
      ∀ t ∈ c.answers i strides, ∃ reply ended, t.phase = .finished reply ended := by
  induction strides generalizing c c' with
  | nil =>
    refine ⟨h, ?_⟩
    intro i
    exact ⟨rfl, fun _ ht => absurd ht List.not_mem_nil⟩
  | cons s strides ih =>
    have hhead : ∀ i call, s = .of i call → i < c.nodes.length ∧ call.usesCache = true := by
      rintro i call rfl
      exact hs i call (List.mem_cons_self ..)
    obtain ⟨htake, hans, hanswered⟩ := h.take hdown hd hhead
    obtain ⟨hd', hframes⟩ := take_spec hd fun i call hi => (hhead i call hi).1
    have hlen : (c.take s).2.nodes.length = c.nodes.length := by
      rw [← List.length_map Node.frame, hframes, List.length_map]
    obtain ⟨hwalk, hrest⟩ := ih htake hd' fun i call hi => hlen ▸ hs i call (List.mem_cons_of_mem _ hi)
    refine ⟨hwalk, ?_⟩
    intro i
    constructor
    · show (if s.isOf i then (c'.take s).1.toList else []) ++ _ = (if s.isOf i then (c.take s).1.toList else []) ++ _
      rw [hans, (hrest i).1]
    · intro t ht
      rcases List.mem_append.1 ht with ht | ht
      · split at ht
        · exact hanswered t (Option.mem_toList.1 ht)
        · cases ht
      · exact (hrest i).2 t ht

/-- Degraded operation. Instances whose store is unavailable, and the same instances without a connection to a
store of any kind, give the same answers to all calls that use the cache, and the same number of fetches and the
same times with them. Each local tier is the same on both sides, with its order and its counts, and so are the
books but for the failures of the shared tier, of which there are none without a connection. Neither store is
changed; the one without connections is not even told of a call, since nothing of its script is used up and its
kind makes no difference. -/
theorem degraded_alike (hd : c.Deserted) (hdown : c.store.Down) (hconn : ∀ n ∈ c.nodes, n.remote.connected = true)
    (hnow : c'.now = c.now) (hnodes : c'.nodes = c.nodes.map Node.shorn) (strides : List Stride)
    (hs : ∀ i call, .of i call ∈ strides → i < c.nodes.length ∧ call.usesCache = true) :
    (∀ i, c'.answers i strides = c.answers i strides) ∧
      (∀ i, ∀ t ∈ c.answers i strides, ∃ reply ended, t.phase = .finished reply ended) ∧
      (∀ (i : Nat) (n : Node), (c.walk strides).nodes[i]? = some n → ∃ n', (c'.walk strides).nodes[i]? = some n' ∧ n'.lru = n.lru ∧
        n'.lru.stats = n.lru.stats ∧ n'.books.snapshot = { n.books.snapshot with l2.errors := 0 } ∧
        n'.books.l2.errors = 0 ∧ n'.remote.errors = 0) ∧
      (c'.walk strides).now = (c.walk strides).now ∧
      (c.walk strides).store = c.store ∧ (c'.walk strides).store = c'.store := by
  obtain ⟨hwalk, hans⟩ := Severed.walk ⟨hnow, hnodes, hconn, rfl, rfl⟩ hdown hd hs
  refine ⟨fun i => (hans i).1, fun i => (hans i).2, ?_, hwalk.now, hwalk.store, hwalk.store'⟩
  intro i n hn
  exact ⟨n.shorn, hwalk.node hn, rfl, rfl, rfl, rfl, rfl⟩

/-- An instance that cannot reach the value in its store, and one that never tried to. -/
theorem degraded_alike_of_one : ∃ n, Node.make "a" { keyspace := "a:" } = .ok n ∧
    let c : Cluster Store := {
      store := { inner := ({ available := false } : Store).insertRaw "a:k" [0xc3] }
      nodes := [{ n with remote.connected := true }] }
    let c' : Cluster Store := { store := { inner := ({} : Store).insertRaw "a:k" [0xc3] }, nodes := [n] }
    let strides : List Stride := [.of 0 (.get "k"), .of 0 (.set "j" .null none), .advance (seconds 1),
      .of 0 (.getOrFetch "k" ⟨none, .ok (some (.bool false))⟩), .of 0 (.delete "j"), .purge 0,
      .of 0 (.deletePattern "*"), .of 0 (.get "k")]
    c'.answers 0 strides = c.answers 0 strides ∧
      (∀ (i : Nat) (m : Node), (c.walk strides).nodes[i]? = some m → ∃ m', (c'.walk strides).nodes[i]? = some m' ∧
        m'.lru = m.lru ∧ m'.books.snapshot = { m.books.snapshot with l2.errors := 0 } ∧ m'.remote.errors = 0) ∧
      (c.walk strides).store = c.store ∧ (c'.walk strides).store = c'.store := by
  obtain ⟨n, hmake⟩ : ∃ n, Node.make "a" { keyspace := "a:" } = .ok n := ⟨_, rfl⟩
  refine ⟨n, hmake, ?_⟩
  intro c c' strides
  have hd : c.Deserted := by
    intro x hx
    cases hmake
    cases List.mem_singleton.1 hx
    exact ⟨rfl, rfl⟩
  have hnodes : c'.nodes = c.nodes.map Node.shorn := by
    cases hmake
    rfl
  have hconn : ∀ m ∈ c.nodes, m.remote.connected = true := by
    intro m hm
    cases List.mem_singleton.1 hm
    rfl
  have hnow : c'.now = c.now := rfl
  have hcalls : ∀ i call, .of i call ∈ strides → i < c.nodes.length ∧ call.usesCache = true := by
    intro i call hi
    simp only [strides, List.mem_cons, List.not_mem_nil, or_false, Stride.of.injEq, reduceCtorEq, false_or] at hi
    rcases hi with ⟨rfl, rfl⟩ | ⟨rfl, rfl⟩ | ⟨rfl, rfl⟩ | ⟨rfl, rfl⟩ | ⟨rfl, rfl⟩ | ⟨rfl, rfl⟩ <;>
      exact ⟨Nat.zero_lt_one, rfl⟩
  obtain ⟨hans, -, hnode, -, hstore, hstore'⟩ := degraded_alike hd ⟨rfl, rfl⟩ hconn hnow hnodes strides hcalls
  refine ⟨hans 0, ?_, hstore, hstore'⟩
  intro i m hm
  obtain ⟨m', hm', hlru, -, hbooks, -, herrors⟩ := hnode i m hm
  exact ⟨m', hm', hlru, hbooks, herrors⟩

end Cluster

end TwoTier
