/-
What all segments of a call have in common: the clock stands still, an instance keeps what it was
made with, the phase goes on fitting the call, and fewer segments are left.
-/
import TwoTier.Proofs.Call.Segment

namespace TwoTier

/-! ## What never changes -/

/-- A local tier without its entries and counts. -/
def Lru.bare {α : Type} (c : Lru α) : Lru α := { c.clear with counts := {} }

/-- What an instance was made with: everything but what changes with time. -/
def Node.frame (n : Node) : Node :=
  { n with
    lru := n.lru.bare
    remote := { n.remote with errors := 0, connected := false }
    books := {}
    flights := {}
    maintenance := none }

namespace Lru

variable {α : Type} (c : Lru α) (now : Nat) (key : String) (v : α) (ttl : Option Nat)

@[simp] theorem bare_get : (c.get now key).2.bare = c.bare := by
  unfold get
  split
  · rfl
  · split <;> rfl

@[simp] theorem bare_set : (c.set now key v ttl).2.bare = c.bare := by
  dsimp only [set]
  split <;> rfl

@[simp] theorem bare_delete : (c.delete key).2.bare = c.bare := by
  unfold delete
  split <;> rfl

@[simp] theorem bare_clear : c.clear.bare = c.bare := rfl

end Lru

namespace Node

variable {n n' : Node}

/-- Whatever can be told from the frame is the same. -/
theorem same_of_frame {β : Type} (h : n'.frame = n.frame) (f : Node → β) (hf : ∀ n : Node, f n.frame = f n) :
    f n' = f n := by rw [← hf, h, hf]

theorem fullKey_of_frame (h : n'.frame = n.frame) : n'.fullKey = n.fullKey := same_of_frame h fullKey fun _ => rfl

theorem defaultTtl_of_frame (h : n'.frame = n.frame) : n'.defaultTtl = n.defaultTtl :=
  same_of_frame h defaultTtl fun _ => rfl

theorem coalesce_of_frame (h : n'.frame = n.frame) : n'.coalesce = n.coalesce := same_of_frame h coalesce fun _ => rfl

theorem scopedPattern_of_frame (h : n'.frame = n.frame) : n'.remote.scopedPattern = n.remote.scopedPattern :=
  same_of_frame h (·.remote.scopedPattern) fun _ => rfl

theorem frame_of_uncounted (h : n'.uncounted = n.uncounted) : n'.frame = n.frame := by
  show n'.uncounted.frame = n.uncounted.frame
  rw [h]

/-- The instance and its client agree on what the instance's keys start with. -/
def IsScoped (n : Node) : Prop := n.remote.keyspace = n.keyspace

theorem isScoped_of_make {id : String} {s : CacheSettings} (h : make id s = .ok n) : n.IsScoped := by
  unfold make at h
  split at h
  · cases h
  · split at h <;> cases h
    rfl

theorem IsScoped.of_frame (hs : n.IsScoped) (h : n'.frame = n.frame) : n'.IsScoped :=
  (same_of_frame h (·.remote.keyspace) fun _ => rfl).trans (hs.trans (same_of_frame h keyspace fun _ => rfl).symm)

theorem keyspace_of_frame (h : n'.frame = n.frame) : n'.keyspace = n.keyspace := same_of_frame h keyspace fun _ => rfl

end Node

theorem Call.writes?_of_frame {n n' : Node} (h : n'.frame = n.frame) : Call.writes? n' = Call.writes? n := by
  funext c
  unfold writes?
  rw [Node.fullKey_of_frame h, Node.defaultTtl_of_frame h]

/-- What waits for an instant is ready from then on. -/
theorem Task.isReady_of_due {t : Task} {due now : Nat} {n : Node} (hd : t.phase.due? = some due) (hle : due ≤ now) :
    t.isReady now n = true := by
  unfold isReady
  split
  · rename_i hp
    rw [hp] at hd
    cases hd
  · rw [hd, Option.any_some]
    exact decide_eq_true hle

/-- Phases fit whatever else an instance has come to. -/
theorem Phase.Fits.of_frame {n n' : Node} {c : Call} {ph : Phase} (h : n'.frame = n.frame) (hf : ph.Fits n c) :
    ph.Fits n' c := by
  have hk := Node.fullKey_of_frame h
  have hco := Node.coalesce_of_frame h
  cases hf with
  | waiting => exact .waiting
  | reading hc hr => rw [← hk] at hr ⊢; exact .reading hc hr
  | queued hc => rw [← hk]; exact .queued (hco.trans hc)
  | rereading hc hr => rw [← hk] at hr ⊢; exact .rereading (hco.trans hc) hr
  | fetching => rw [← hk]; exact .fetching
  | storing hc hr => exact .storing (by rw [Call.writes?_of_frame h]; exact hc) hr
  | deleting hr => rw [← hk] at hr ⊢; exact .deleting hr
  | sweeping hr => rw [← Node.scopedPattern_of_frame h] at hr ⊢; exact .sweeping hr
  | announcing hc hr => exact .announcing hc hr
  | inspecting hr => exact .inspecting hr
  | probing hr => exact .probing hr
  | dialing hr => exact .dialing hr
  | resting => exact .resting
  | hangingUp hr => exact .hangingUp hr
  | finished => exact .finished
  | cancelled => exact .cancelled

theorem Phase.Fits.reading_inv {n : Node} {c : Call} {key : String} {trip : Trip (Option Bytes)}
    (h : Phase.Fits n c (.reading key trip)) :
    ∃ short, c.reads? = some short ∧ key = n.fullKey short ∧ trip.request = .get key := by
  cases h with
  | reading hc hr => exact ⟨_, hc, rfl, hr⟩

theorem Phase.Fits.storing_inv {n : Node} {c : Call} {key : String} {evicted : Bool} {trip : Trip Unit}
    (h : Phase.Fits n c (.storing key evicted trip)) :
    ∃ w, c.writes? n = some w ∧ key = w.key ∧ trip.request = w.request := by
  cases h with
  | storing hc hr => exact ⟨_, hc, rfl, hr⟩

namespace Site

variable {σ : Type} {s s' : Site σ}

/-- The clock stands still, and the instance keeps its frame and its plan of purges. -/
structure Steady (s s' : Site σ) : Prop where
  now : s'.now = s.now
  frame : s'.node.frame = s.node.frame
  maintenance : s'.node.maintenance = s.node.maintenance

namespace Steady

variable {s'' : Site σ}

theorem refl (s : Site σ) : Steady s s := ⟨rfl, rfl, rfl⟩

theorem trans (h : Steady s s') (h' : Steady s' s'') : Steady s s'' :=
  ⟨h'.now.trans h.now, h'.frame.trans h.frame, h'.maintenance.trans h.maintenance⟩

theorem of_uncounted (hnow : s'.now = s.now) (h : s'.node.uncounted = s.node.uncounted) : Steady s s' :=
  ⟨hnow, Node.frame_of_uncounted h, Node.same_of_uncounted h Node.maintenance fun _ => rfl⟩

theorem of_alike (h : Alike s s') : Steady s s' := of_uncounted h.now h.node

theorem of_quiet [Backend σ] (h : Quiet s s') : Steady s s' := of_uncounted h.now h.node

theorem of_call {α : Type} {r : Request α} {trip : Trip α} (h : s.call r = (trip, s')) : Steady s s' := by
  obtain ⟨-, -, hs⟩ := call_spec h
  exact ⟨hs.now, by rw [hs.node], by rw [hs.node]⟩

theorem of_finish [Backend σ] {α : Type} {trip : Trip α} {reply : Except CacheError α}
    (h : s.finish trip = (reply, s')) : Steady s s' := by
  have hl := finish_spec h
  exact ⟨hl.now, by rw [hl.node], by rw [hl.node]⟩

theorem withLru {l : Lru Json} (h : l.bare = s.node.lru.bare) : Steady s (s.withLru l) := by
  refine ⟨rfl, ?_, rfl⟩
  show { s.node.frame with lru := l.bare } = s.node.frame
  rw [h]
  rfl

theorem looked (s : Site σ) (key : String) : Steady s (s.looked key) := withLru (Lru.bare_get ..)

theorem written (s : Site σ) (w : Writing) : Steady s (s.written w) := withLru (Lru.bare_set ..)

theorem promoted (s : Site σ) (key : String) (v : Json) : Steady s (s.promoted key (some v)) :=
  withLru (Lru.bare_set ..)

theorem join (s : Site σ) (key : String) (k : Nat) : Steady s (s.join key k) := ⟨rfl, rfl, rfl⟩

theorem leave (s : Site σ) (key : String) (k : Nat) : Steady s (s.leave key k) := ⟨rfl, rfl, rfl⟩

theorem setConnected (s : Site σ) (on : Bool) : Steady s (s.setConnected on) := ⟨rfl, rfl, rfl⟩

end Steady

end Site

/-! ## Along a segment -/

namespace Segment

variable {σ : Type} [Backend σ] {s s' : Site σ} {t t' : Task}

theorem steady (h : Segment s s' t t') : s.Steady s' := by
  cases h with
  | hitLocal hc hv hs => exact (Site.Steady.looked ..).trans (.of_alike hs)
  | missLocal hc hv hs ht => exact ((Site.Steady.looked ..).trans (.of_alike hs)).trans (.of_call ht)
  | hitShared hf hv hs => exact ((Site.Steady.of_finish hf).trans (.promoted ..)).trans (.of_alike hs)
  | missGet hf hv hs => exact (Site.Steady.of_finish hf).trans (.of_alike hs)
  | queue hf hv hco hs => exact ((Site.Steady.of_finish hf).trans (.join ..)).trans (.of_alike hs)
  | fetchAtOnce hf hv hco hs => exact (Site.Steady.of_finish hf).trans (.of_alike hs)
  | rehitLocal hv hs => exact ((Site.Steady.looked ..).trans (.leave ..)).trans (.of_alike hs)
  | remissLocal hv hs ht => exact ((Site.Steady.looked ..).trans (.of_alike hs)).trans (.of_call ht)
  | rehitShared hf hv hs =>
    exact (((Site.Steady.of_finish hf).trans (.promoted ..)).trans (.leave ..)).trans (.of_alike hs)
  | remissShared hf hv hs => exact (Site.Steady.of_finish hf).trans (.of_alike hs)
  | fetched ho hw hs ht => exact ((Site.Steady.written ..).trans (.of_alike hs)).trans (.of_call ht)
  | unfetched ho hs => exact (Site.Steady.leave ..).trans (.of_alike hs)
  | put hw hs ht => exact ((Site.Steady.written ..).trans (.of_alike hs)).trans (.of_call ht)
  | stored hf hs => exact (Site.Steady.of_finish hf).trans (.of_alike hs)
  | storedFetched hf hs => exact ((Site.Steady.of_finish hf).trans (.leave ..)).trans (.of_alike hs)
  | drop hd ht =>
    refine (Site.Steady.withLru ?_).trans (.of_call ht)
    rw [← Lru.bare_delete s.node.lru, hd]
  | dropped hf hq => exact (Site.Steady.of_finish hf).trans (.of_quiet hq)
  | dropAll ht => exact (Site.Steady.withLru (Lru.bare_clear _)).trans (.of_call ht)
  | swept hf hq => exact (Site.Steady.of_finish hf).trans (.of_quiet hq)
  | aside hc hb hi hfits hr hs hq =>
    refine .trans ?_ (.of_quiet hq)
    rcases hs with rfl | ⟨-, on, rfl⟩
    · exact .refl _
    · exact .setConnected ..

/-- A call stays what it is. -/
theorem same (h : Segment s s' t t') : t'.call = t.call ∧ t'.ticket = t.ticket ∧ t'.patience = t.patience := by
  cases h <;> exact ⟨rfl, rfl, rfl⟩

/-- Only its caller drops a call. -/
theorem not_cancelled (h : Segment s s' t t') (ended : Nat) : t'.phase ≠ .cancelled ended := by
  cases h with
  | dropped hf hq hi => rintro rfl; cases hi
  | swept hf hq hi => rintro rfl; cases hi
  | aside hc hb hi => rintro rfl; cases hi
  | _ => exact nofun

theorem fits (h : Segment s s' t t') (hf : t.phase.Fits s.node t.call) : t'.phase.Fits s.node t'.call := by
  cases h with
  | missLocal hc hv hs ht => exact .reading hc (Site.call_spec ht).1
  | queue hf' hv hco hs =>
    obtain ⟨key, hc, rfl, -⟩ := hf.reading_inv
    cases hc
    exact .queued hco
  | fetchAtOnce =>
    obtain ⟨key, hc, rfl, -⟩ := hf.reading_inv
    cases hc
    exact .fetching
  | remissLocal hv hs ht =>
    cases hf with
    | queued hco => exact .rereading hco (Site.call_spec ht).1
  | remissShared => cases hf; exact .fetching
  | fetched ho hw hs ht =>
    subst hw
    exact .storing (by simp only [Call.writes?, ho]) (Site.call_spec ht).1
  | put hw hs ht =>
    subst hw
    exact .storing rfl (Site.call_spec ht).1
  | drop hd ht => exact .deleting (Site.call_spec ht).1
  | dropAll ht => exact .sweeping (Site.call_spec ht).1
  | dropped hf hq hi hfits => exact hfits
  | swept hf hq hi hfits => exact hfits
  | aside hc hb hi hfits => exact hfits
  -- the segments that are left end the call
  | _ => exact .finished

/-- Fewer segments are left. -/
theorem rank_lt (h : Segment s s' t t') : t'.phase.rank s.link.attempts < t.phase.rank s.link.attempts := by
  cases h with
  | dropped hf hq hi hfits hr => exact Nat.lt_succ_of_le (hr _)
  | swept hf hq hi hfits hr => exact Nat.lt_succ_of_le (hr _)
  | aside hc hb hi hfits hr => exact hr
  | _ => simp [Phase.rank]

/-- Only connecting and shutting down change whether an instance is connected. -/
theorem connected (h : Segment s s' t t')
    (hc : t.call ≠ .connect) (hd : t.call ≠ .shutdown) : s'.node.remote.connected = s.node.remote.connected := by
  have hcall : ∀ {s s' : Site σ} {α : Type} {r : Request α} {trip : Trip α}, s.call r = (trip, s') →
      s'.node.remote.connected = s.node.remote.connected := fun ht => by rw [(Site.call_spec ht).2.2.node]
  have hend : ∀ {s s' : Site σ} {α : Type} {trip : Trip α} {reply : Except CacheError α}, s.finish trip = (reply, s') →
      s'.node.remote.connected = s.node.remote.connected := fun hf => by rw [(Site.finish_spec hf).node]
  cases h with
  | hitLocal _ _ hs | rehitLocal _ hs | unfetched _ hs => exact hs.connected
  | missLocal _ _ hs ht | remissLocal _ hs ht | fetched _ _ hs ht | put _ hs ht => exact (hcall ht).trans hs.connected
  | hitShared hf _ hs | missGet hf _ hs | queue hf _ _ hs | fetchAtOnce hf _ _ hs | rehitShared hf _ hs
  | remissShared hf _ hs | stored hf hs | storedFetched hf hs => exact hs.connected.trans (hend hf :)
  | drop _ ht | dropAll ht => exact (hcall ht :)
  | dropped hf hq | swept hf hq => exact hq.connected.trans (hend hf)
  | aside _ _ _ _ _ hs hq =>
    rcases hs with rfl | ⟨rfl | rfl, -⟩
    · exact hq.connected
    · exact absurd rfl hc
    · exact absurd rfl hd

end Segment

end TwoTier
