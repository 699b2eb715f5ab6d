/-
What the segments of a call enter. `Posting` lists, once for all, what each kind of segment adds to the books, to the
client's tally of failures and to the counts of the local tier; `posted_step` says that every step is one of these.
All that is said about counts along runs follows from this list.
-/
import TwoTier.Proofs.Call.Segment
import TwoTier.Proofs.Site.Slips

namespace TwoTier

variable {σ : Type}

/-- Whether the operation of the shared tier whose reply the call takes next has failed, if its failures count. -/
def Task.fails [Backend σ] (t : Task) (s : Site σ) : Bool :=
  match t.phase with
  | .reading _ trip => Site.fails (s.finish trip).1
  | .rereading _ trip => Site.fails (s.finish trip).1
  | .storing _ _ trip => isFailure (s.finish trip).1
  | .deleting _ _ trip => isFailure (s.finish trip).1
  | .sweeping _ trip => isFailure (s.finish trip).1
  | .announcing _ trip => isFailure (s.finish trip).1
  | .inspecting _ trip => isFailure (s.finish trip).1
  | _ => false

/-- The time that a look-up enters when it ends. -/
def lasting (started ended : Nat) : Nat := min (ended - started) maxNat64

/-- What one segment of a call adds to what its instance has counted. -/
inductive Posting (s : Site σ) : Task → Task → Slip → Prop where
  -- a look-up begins
  | hitLocal {c k start b m p key v} (hc : c.reads? = some key) :
    Posting s ⟨c, k, .waiting start, b, m, p⟩ ⟨c, k, .finished (c.replyOf (.ok (some v))) s.now, s.now, m, p⟩
      { books := { l1 := { hits := 1 }, requests := 1, served := 1, nanos := lasting s.now s.now }
        counted := { hits := 1 } }
  | missLocal {c k start b m p key full trip} {expired : Bool} (hc : c.reads? = some key) :
    Posting s ⟨c, k, .waiting start, b, m, p⟩ ⟨c, k, .reading full trip, s.now, m, p⟩
      { books := { l1 := { misses := 1 } }, counted := { misses := 1, expirations := expired.toNat } }
  -- the shared tier has answered
  | hitShared {c k b m p key full trip v} (evicted : Bool) (hc : c.reads? = some key) :
    Posting s ⟨c, k, .reading full trip, b, m, p⟩ ⟨c, k, .finished (c.replyOf (.ok (some v))) s.now, b, m, p⟩
      { books := { l1 := { sets := 1, evictions := evicted.toNat }, l2 := { hits := 1 }, requests := 1, served := 1
                   nanos := lasting b s.now }
        counted := { sets := 1, evictions := evicted.toNat } }
  | missGet {k b m p short key trip} {failed : Bool} :
    Posting s ⟨.get short, k, .reading key trip, b, m, p⟩ ⟨.get short, k, .finished (.value none) s.now, b, m, p⟩
      { books := { l2 := { misses := 1, errors := failed.toNat }, requests := 1, nanos := lasting b s.now }
        failures := failed.toNat }
  | queue {k b m p short fetch key trip} {failed : Bool} (hco : s.node.coalesce = true) :
    Posting s ⟨.getOrFetch short fetch, k, .reading key trip, b, m, p⟩
      ⟨.getOrFetch short fetch, k, .queued key, b, m, p⟩
      { books := { l2 := { misses := 1, errors := failed.toNat } }, failures := failed.toNat }
  | fetchAtOnce {k b m p short fetch key trip due} {failed : Bool} :
    Posting s ⟨.getOrFetch short fetch, k, .reading key trip, b, m, p⟩
      ⟨.getOrFetch short fetch, k, .fetching key due, b, m + 1, p⟩
      { books := { l2 := { misses := 1, errors := failed.toNat } }, failures := failed.toNat }
  -- the turn has come
  | rehitLocal {k b m p short fetch key v} (hco : s.node.coalesce = true) :
    Posting s ⟨.getOrFetch short fetch, k, .queued key, b, m, p⟩
      ⟨.getOrFetch short fetch, k, .finished (.fetched (.ok (some v))) s.now, b, m, p⟩
      { books := { l1 := { hits := 1 }, requests := 1, served := 1, nanos := lasting b s.now }, counted := { hits := 1 } }
  | remissLocal {k b m p short fetch key trip} {expired : Bool} (hco : s.node.coalesce = true) :
    Posting s ⟨.getOrFetch short fetch, k, .queued key, b, m, p⟩
      ⟨.getOrFetch short fetch, k, .rereading key trip, b, m, p⟩
      { counted := { misses := 1, expirations := expired.toNat } }
  | rehitShared {k b m p short fetch key trip v} (evicted : Bool) (hco : s.node.coalesce = true) :
    Posting s ⟨.getOrFetch short fetch, k, .rereading key trip, b, m, p⟩
      ⟨.getOrFetch short fetch, k, .finished (.fetched (.ok (some v))) s.now, b, m, p⟩
      { books := { l1 := { sets := 1, evictions := evicted.toNat }, l2 := { hits := 1 }, requests := 1, served := 1
                   nanos := lasting b s.now }
        counted := { sets := 1, evictions := evicted.toNat } }
  | remissShared {k b m p short fetch key trip due} {failed : Bool} (hco : s.node.coalesce = true) :
    Posting s ⟨.getOrFetch short fetch, k, .rereading key trip, b, m, p⟩
      ⟨.getOrFetch short fetch, k, .fetching key due, b, m + 1, p⟩ { failures := failed.toNat }
  -- the fetch has ended
  | fetched {k b m p short fetch key due trip} {evicted : Bool} :
    Posting s ⟨.getOrFetch short fetch, k, .fetching key due, b, m, p⟩
      ⟨.getOrFetch short fetch, k, .storing key evicted trip, b, m, p⟩
      { books := { fetches := 1 }, counted := { sets := 1, evictions := evicted.toNat } }
  | unfetched {k b m p short fetch key due} (wrong : Bool) :
    Posting s ⟨.getOrFetch short fetch, k, .fetching key due, b, m, p⟩
      ⟨.getOrFetch short fetch, k, .finished (.fetched fetch.outcome) s.now, b, m, p⟩
      { books := { requests := 1, nanos := lasting b s.now, fetches := 1, fetchErrors := wrong.toNat } }
  -- writes
  | put {k start b m p short v ttl key trip} {evicted : Bool} :
    Posting s ⟨.set short v ttl, k, .waiting start, b, m, p⟩ ⟨.set short v ttl, k, .storing key evicted trip, s.now, m, p⟩
      { counted := { sets := 1, evictions := evicted.toNat } }
  | stored {k b m p short v ttl key evicted trip} (sets deletes : Nat) {failed : Bool} :
    Posting s ⟨.set short v ttl, k, .storing key evicted trip, b, m, p⟩
      ⟨.set short v ttl, k, .finished .done s.now, b, m, p⟩
      { books := { l1 := { sets := 1, evictions := evicted.toNat }, l2 := { sets, deletes, errors := failed.toNat } }
        failures := failed.toNat }
  | storedFetched {k b m p short fetch key evicted trip} (sets deletes : Nat) {failed : Bool} :
    Posting s ⟨.getOrFetch short fetch, k, .storing key evicted trip, b, m, p⟩
      ⟨.getOrFetch short fetch, k, .finished (.fetched fetch.outcome) s.now, b, m, p⟩
      { books := { l1 := { sets := 1, evictions := evicted.toNat }, l2 := { sets, deletes, errors := failed.toNat }
                   requests := 1, nanos := lasting b s.now }
        failures := failed.toNat }
  -- removals
  | drop {k start b m p short key resident trip} :
    Posting s ⟨.delete short, k, .waiting start, b, m, p⟩ ⟨.delete short, k, .deleting key resident trip, s.now, m, p⟩
      { counted := { deletes := resident.toNat } }
  | dropped {k b m p short key resident trip ph} (sets deletes : Nat) {failed : Bool} (hi : ph.isIdle = true) :
    Posting s ⟨.delete short, k, .deleting key resident trip, b, m, p⟩ ⟨.delete short, k, ph, b, m, p⟩
      { books := { l1 := { deletes := resident.toNat }, l2 := { sets, deletes, errors := failed.toNat } }
        failures := failed.toNat }
  | dropAll {k start b m p short pattern trip} :
    Posting s ⟨.deletePattern short, k, .waiting start, b, m, p⟩ ⟨.deletePattern short, k, .sweeping pattern trip, s.now, m, p⟩ {}
  | swept {k b m p short pattern trip ph} (sets deletes : Nat) {failed : Bool} (hi : ph.isIdle = true) :
    Posting s ⟨.deletePattern short, k, .sweeping pattern trip, b, m, p⟩ ⟨.deletePattern short, k, ph, b, m, p⟩
      { books := { l2 := { sets, deletes, errors := failed.toNat } }, failures := failed.toNat }
  | announced {c k b m p reply trip} (sets deletes : Nat) {failed : Bool} (hc : c.reads? = none) :
    Posting s ⟨c, k, .announcing reply trip, b, m, p⟩ ⟨c, k, .finished reply s.now, b, m, p⟩
      { books := { l2 := { sets, deletes, errors := failed.toNat } }, failures := failed.toNat }
  -- whatever touches no key
  | inspected {k b m p localTier trip reply} (failed : Bool) :
    Posting s ⟨.stats, k, .inspecting localTier trip, b, m, p⟩ ⟨.stats, k, .finished reply s.now, b, m, p⟩
      { failures := failed.toNat }
  | aside {c k ph ph' b b' m p} (hc : c.reads? = none) (hb : ph.isIdle = true ∨ ∃ start, ph = .waiting start)
      (hi : ph'.isIdle = true) : Posting s ⟨c, k, ph, b, m, p⟩ ⟨c, k, ph', b', m, p⟩ {}

/-! ## What is still to be entered -/

/-- What a phase has done to the local tier, or is about to learn of the shared one, that is entered when it ends. -/
structure Pending where
  reads : Nat := 0
  sets : Nat := 0
  evictions : Nat := 0
  deletes : Nat := 0

def Phase.pending : Phase → Pending
  | reading _ _ => { reads := 1 }
  | storing _ evicted _ => { sets := 1, evictions := evicted.toNat }
  | deleting _ resident _ => { deletes := resident.toNat }
  | _ => {}

theorem Phase.pending_of_idle {ph : Phase} (h : ph.isIdle = true) : ph.pending = {} := by
  cases ph <;> first | rfl | cases h

theorem Phase.pending_of_idle_or {ph : Phase} (h : ph.isIdle = true ∨ ∃ start, ph = .waiting start) : ph.pending = {} := by
  rcases h with h | ⟨start, rfl⟩
  · exact pending_of_idle h
  · rfl

/-! ## Every step is posted -/

/-- A segment has added what one of the postings says, and has counted a failure or none. -/
def Posted (s s' : Site σ) (t t' : Task) (failed : Bool) : Prop :=
  ∃ p, s.Adds p s' ∧ Posting s t t' p ∧ p.failures = failed.toNat

variable {s s' : Site σ} {t t' : Task} {c : Call} {k start b m : Nat} {p : Option Nat} {key full : String}

/-- The end of a look-up is entered. -/
theorem adds_answer {served : Bool} {r : Except String (Option Json)} (h : t.answer served r s = (t', s')) :
    t' = { t with phase := .finished (t.call.replyOf r) s.now } ∧
      s.Adds { books := { requests := 1, served := served.toNat, nanos := lasting t.started s.now } } s' := by
  cases h
  refine ⟨rfl, ?_⟩
  have hb : ({} : Ledger).record (.request (s.now - t.started) served) =
      { requests := 1, served := served.toNat, nanos := lasting t.started s.now } := by
    cases served <;> simp [Ledger.record, lasting]
  exact hb ▸ s.adds_record _

/-- A write is counted by the local tier before it is entered. -/
theorem adds_write {v : Json} {ttl : Option Nat} (h : t.write key v ttl s = (t', s')) : ∃ evicted trip,
    t' = { t with phase := .storing key evicted trip } ∧
      s.Adds { counted := { sets := 1, evictions := evicted.toNat } } s' := by
  unfold Task.write at h
  dsimp only at h
  rcases hp : s.put key v (some (ttl.getD s.node.defaultTtl)) with ⟨evicted, s₁⟩
  rcases ht : s₁.call (.set key (Payload.packJson v).write (some (ttl.getD s.node.defaultTtl))) with ⟨trip, s₂⟩
  rw [hp] at h
  dsimp only at h
  rw [ht] at h
  cases h
  exact ⟨evicted, trip, rfl, (Site.adds_put hp).then_total (congrArg Node.total (Site.call_spec ht).2.2.node)⟩

/-- To announce something enters nothing yet. -/
theorem adds_announce {body : Invalidation} {reply : Reply} (h : t.announce body reply s = (t', s')) :
    s'.node = s.node ∧ ∃ ph, t' = { t with phase := ph } ∧ ph.isIdle = true := by
  unfold Task.announce at h
  cases hch : s.node.channel with
  | none =>
    rw [hch] at h
    cases h
    exact ⟨rfl, _, rfl, rfl⟩
  | some channel =>
    rcases ht : s.call (.publish channel (Message.encode ⟨s.node.id, body⟩)) with ⟨trip, s₁⟩
    simp only [hch, ht] at h
    cases h
    exact ⟨(Site.call_spec ht).2.2.node, _, rfl, rfl⟩

theorem posted_lookup (hc : c.reads? = some key)
    (h : Task.lookup ⟨c, k, .waiting start, s.now, m, p⟩ full s = (t', s')) :
    Posted s s' ⟨c, k, .waiting start, b, m, p⟩ t' false := by
  unfold Task.lookup at h
  rcases hl : s.lookupLocal full with ⟨_ | v, s₁⟩ <;> rw [hl] at h
  · obtain ⟨expired, ha⟩ := Site.adds_lookupLocal_none hl
    rcases ht : s₁.call (.get full) with ⟨trip, s₂⟩
    simp only [ht] at h
    cases h
    exact ⟨_, ha.then_total (congrArg Node.total (Site.call_spec ht).2.2.node), .missLocal hc, rfl⟩
  · have ha := Site.adds_lookupLocal_some hl
    obtain ⟨rfl, hr⟩ := adds_answer h
    rw [show s₁.now = s.now from (Site.lookupLocal_spec hl).2.now] at hr ⊢
    exact ⟨_, ha.merge hr (by simp), .hitLocal hc, rfl⟩

/-- A look-up that both tiers have missed goes on by the kind of call. -/
theorem posted_miss {short : String} {trip : Trip (Option Bytes)} {failed : Bool} {s₁ : Site σ}
    (hc : c.reads? = some short) (hnow : s₁.now = s.now) (hco : s₁.node.coalesce = s.node.coalesce)
    (ha : s.Adds { books := { l2 := { misses := 1, errors := failed.toNat } }, failures := failed.toNat } s₁)
    (h : Task.miss ⟨c, k, .reading key trip, b, m, p⟩ key s₁ = (t', s')) :
    Posted s s' ⟨c, k, .reading key trip, b, m, p⟩ t' failed := by
  unfold Task.miss at h
  cases c with
  | get _ =>
    obtain ⟨rfl, hr⟩ := adds_answer h
    rw [hnow] at hr ⊢
    exact ⟨_, ha.merge hr (by simp), .missGet, rfl⟩
  | getOrFetch _ fetch =>
    dsimp only at h
    split at h
    · rename_i hc
      cases h
      exact ⟨_, ha, .queue (hco ▸ hc), rfl⟩
    · cases h
      exact ⟨_, ha, .fetchAtOnce, rfl⟩
  | _ => cases hc

/-- The end of a fetch is entered, and what was fetched is written. -/
theorem posted_endFetch {short : String} {fetch : Fetch} {due : Nat}
    (h : Task.endFetch ⟨.getOrFetch short fetch, k, .fetching key due, b, m, p⟩ key fetch s = (t', s')) :
    Posted s s' ⟨.getOrFetch short fetch, k, .fetching key due, b, m, p⟩ t' false := by
  dsimp only [Task.endFetch] at h
  have ha := s.adds_record (.fetch fetch.kind)
  split at h
  · rename_i v ho
    obtain ⟨evicted, trip, rfl, hw⟩ := adds_write h
    exact ⟨_, ha.merge hw (by simp [Ledger.record, Fetch.kind, ho]), .fetched, rfl⟩
  · obtain ⟨rfl, hr⟩ := adds_answer h
    change Site.Adds { books := { requests := 1, nanos := lasting b s.now } } _ s' at hr
    obtain ⟨wrong, hwrong⟩ : ∃ wrong : Bool,
        ({} : Ledger).record (.fetch fetch.kind) = { fetches := 1, fetchErrors := wrong.toNat } :=
      ⟨decide (fetch.kind = .error), by cases fetch.kind <;> rfl⟩
    rw [hwrong] at ha
    exact ⟨_, ha.merge hr (by simp), .unfetched wrong, rfl⟩

/-- The end of a write is entered for both tiers, and that of a look-up that made it. -/
theorem posted_endStore {evicted : Bool} {trip : Trip Unit} {reply : Except CacheError Unit} {s₁ : Site σ}
    (hc : (∃ short v ttl, c = .set short v ttl) ∨ ∃ short fetch, c = .getOrFetch short fetch)
    (hnode : s₁.node = s.node) (hnow : s₁.now = s.now)
    (h : Task.endStore ⟨c, k, .storing key evicted trip, b, m, p⟩ key evicted reply s₁ = (t', s')) :
    Posted s s' ⟨c, k, .storing key evicted trip, b, m, p⟩ t' (isFailure reply) := by
  obtain ⟨sets, deletes, hset⟩ := ((s₁.record (.set .l1)).recordEviction evicted).adds_settle "set"
    (fun _ => some (.set .l2)) (fun _ _ he => Or.inl (Option.some.inj he).symm) reply
  have ha := ((s₁.adds_record (.set .l1)).trans ((s₁.record (.set .l1)).adds_recordEviction evicted)).after_node hnode
  have hs := ((Site.alike_record s₁ (.set .l1)).trans (Site.alike_recordEviction _ evicted)).trans
    (Site.alike_settle _ "set" (fun _ => some (.set .l2)) reply)
  unfold Task.endStore at h
  rcases hc with ⟨short, v, ttl, rfl⟩ | ⟨short, fetch, rfl⟩
  · cases h
    rw [hs.now, hnow]
    exact ⟨_, ha.merge hset (by simp [Ledger.record, Ledger.modify, Site.settled]), .stored sets deletes, rfl⟩
  · obtain ⟨rfl, hr⟩ := adds_answer h
    rw [show (Site.leave _ key k).now = s.now from hs.now.trans hnow] at hr ⊢
    exact ⟨_, ((ha.trans hset).then_total rfl).merge hr (by simp [Ledger.record, Ledger.modify, Site.settled]),
      .storedFetched sets deletes, rfl⟩

/-- A deletion is entered for each tier that held the key. -/
theorem posted_endDelete {short : String} {resident : Bool} {trip : Trip Bool} {reply : Except CacheError Bool}
    {s₁ : Site σ} (hnode : s₁.node = s.node)
    (h : Task.endDelete ⟨.delete short, k, .deleting key resident trip, b, m, p⟩ key resident reply s₁ = (t', s')) :
    Posted s s' ⟨.delete short, k, .deleting key resident trip, b, m, p⟩ t' (isFailure reply) := by
  have hdel : s₁.Adds { books := { l1 := { deletes := resident.toNat } } }
      (if resident then s₁.record (.delete .l1) else s₁) := by
    cases resident with
    | true => exact s₁.adds_record _
    | false => exact .of_node rfl
  obtain ⟨sets, deletes, hset⟩ := (if resident then s₁.record (.delete .l1) else s₁).adds_settle "delete"
    (fun removed => if removed then some (.delete .l2) else none)
    (fun removed _ he => by cases removed <;> cases he; exact Or.inr rfl) reply
  unfold Task.endDelete at h
  obtain ⟨hann, ph, rfl, hi⟩ := adds_announce h
  exact ⟨_, ((hdel.after_node hnode).merge hset (by simp [Site.settled])).then_total (congrArg Node.total hann),
    .dropped sets deletes hi, rfl⟩

/-- Of the deletion of many keys only its failure is entered. -/
theorem posted_endSweep {short pattern : String} {trip : Trip Nat} {reply : Except CacheError Nat} {s₁ : Site σ}
    (hnode : s₁.node = s.node)
    (h : Task.endSweep ⟨.deletePattern short, k, .sweeping pattern trip, b, m, p⟩ pattern reply s₁ = (t', s')) :
    Posted s s' ⟨.deletePattern short, k, .sweeping pattern trip, b, m, p⟩ t' (isFailure reply) := by
  obtain ⟨sets, deletes, hset⟩ := s₁.adds_settle "delete_pattern" (fun _ => none) (by simp) reply
  unfold Task.endSweep at h
  obtain ⟨hann, ph, rfl, hi⟩ := adds_announce h
  exact ⟨_, (hset.after_node hnode).then_total (congrArg Node.total hann), .swept sets deletes hi, rfl⟩

variable [Backend σ]

theorem posted_start (h : Task.start ⟨c, k, .waiting start, b, m, p⟩ s = (t', s')) :
    Posted s s' ⟨c, k, .waiting start, b, m, p⟩ t' false := by
  have hidle : (Phase.waiting start).isIdle = true ∨ ∃ start', Phase.waiting start = .waiting start' := Or.inr ⟨_, rfl⟩
  unfold Task.start at h
  cases c with
  | get key => exact posted_lookup rfl h
  | getOrFetch key fetch => exact posted_lookup rfl h
  | set key v ttl =>
    obtain ⟨evicted, trip, rfl, ha⟩ := adds_write h
    exact ⟨_, ha, .put, rfl⟩
  | delete key =>
    rcases hd : s.node.lru.delete (s.node.fullKey key) with ⟨resident, lru⟩
    rcases ht : (s.withLru lru).call (.delete (s.node.fullKey key)) with ⟨trip, s₁⟩
    have hc := s.node.lru.counts_delete (s.node.fullKey key)
    simp only [hd, ht] at h hc
    cases h
    exact ⟨_, (Site.adds_withLru hc).then_total (congrArg Node.total (Site.call_spec ht).2.2.node), .drop, rfl⟩
  | deletePattern pattern =>
    rcases ht : (s.withLru s.node.lru.clear).call (.deletePattern (s.node.remote.scopedPattern pattern)) with ⟨trip, s₁⟩
    simp only [ht] at h
    cases h
    have ha : s.Adds {} (s.withLru s.node.lru.clear) := .of_total rfl
    exact ⟨_, ha.then_total (congrArg Node.total (Site.call_spec ht).2.2.node), .dropAll, rfl⟩
  | stats =>
    dsimp only at h
    split at h
    · rcases ht : s.call .info with ⟨trip, s₁⟩
      simp only [ht] at h
      cases h
      exact ⟨_, .of_node (Site.call_spec ht).2.2.node, .aside rfl hidle rfl, rfl⟩
    · cases h
      exact ⟨_, .of_node rfl, .aside rfl hidle rfl, rfl⟩
  | health =>
    dsimp only at h
    split at h
    · rcases ht : s.call .ping with ⟨trip, s₁⟩
      simp only [ht] at h
      cases h
      exact ⟨_, .of_node (Site.call_spec ht).2.2.node, .aside rfl hidle rfl, rfl⟩
    · cases h
      exact ⟨_, .of_node rfl, .aside rfl hidle rfl, rfl⟩
  | connect =>
    rcases ht : s.dial with ⟨trip, s₁⟩
    simp only [Task.dial, ht] at h
    cases h
    exact ⟨_, .of_node (Site.dial_spec ht).2.2.node, .aside rfl hidle rfl, rfl⟩
  | shutdown =>
    rcases ht : s.hangUp with ⟨trip, s₁⟩
    simp only [ht] at h
    cases h
    have ha : s.Adds {} (s.setConnected false) := .of_total rfl
    exact ⟨_, ha.then_total (congrArg Node.total (Site.hangUp_spec ht).2.2.node), .aside rfl hidle rfl, rfl⟩

/-- An attempt to connect enters nothing. -/
theorem posted_dialing {attempt left : Nat} {trip : Trip Unit}
    (h : Task.step ⟨.connect, k, .dialing attempt left trip, b, m, p⟩ s = (t', s')) :
    Posted s s' ⟨.connect, k, .dialing attempt left trip, b, m, p⟩ t' false := by
  unfold Task.step at h
  rcases hf : s.finish trip with ⟨e | _, s₁⟩ <;> have hl := Site.finish_spec hf <;> simp only [hf] at h
  · cases left with
    | zero =>
      cases h
      exact ⟨_, (.of_total (congrArg Node.total hl.node :) : s.Adds {} _), .aside rfl (Or.inl rfl) rfl, rfl⟩
    | succ left =>
      cases h
      exact ⟨_, .of_node hl.node, .aside rfl (Or.inl rfl) rfl, rfl⟩
  · cases h
    exact ⟨_, (.of_total (congrArg Node.total hl.node :) : s.Adds {} _), .aside rfl (Or.inl rfl) rfl, rfl⟩

/-- Every step of a call in a phase that fits it is posted. -/
theorem posted_step (hf : t.phase.Fits s.node t.call) (ho : t.phase.isOver = false) (h : t.step s = (t', s')) :
    Posted s s' t t' (t.fails s) := by
  obtain ⟨c, k, ph, b, m, p⟩ := t
  unfold Task.step at h
  unfold Task.fails
  cases hf with
  | waiting => exact posted_start h
  | reading hc hr =>
    rename_i key trip
    rcases hf : s.finish trip with ⟨reply, s₁⟩
    have hnode := (Site.finish_spec hf).node
    have hnow := (Site.finish_spec hf).now
    rcases hl : s₁.lookupShared (s.node.fullKey key) reply with ⟨_ | v, s₂⟩ <;>
      obtain ⟨-, hs⟩ := Site.lookupShared_spec hl <;> simp only [hf, hl] at h ⊢
    · have ha := Site.adds_lookupShared_none hl
      exact posted_miss hc (hs.now.trans hnow) (hs.coalesce.trans (congrArg Node.coalesce hnode)) (ha.after_node hnode) h
    · obtain ⟨hfails, evicted, ha⟩ := Site.adds_lookupShared_some hl
      obtain ⟨rfl, hr⟩ := adds_answer h
      rw [hs.now.trans hnow] at hr ⊢
      rw [hfails]
      exact ⟨_, (ha.after_node hnode).merge hr (by simp [Site.promotion]), .hitShared evicted hc, rfl⟩
  | queued hco =>
    rename_i key fetch
    rcases hl : s.recheckLocal (s.node.fullKey key) with ⟨_ | v, s₁⟩ <;> simp only [hl] at h ⊢
    · obtain ⟨expired, ha⟩ := Site.adds_recheckLocal_none hl
      rcases ht : s₁.call (.get (s.node.fullKey key)) with ⟨trip, s₂⟩
      rw [ht] at h
      cases h
      exact ⟨_, ha.then_total (congrArg Node.total (Site.call_spec ht).2.2.node), .remissLocal hco, rfl⟩
    · have ha := Site.adds_recheckLocal_some hl
      obtain ⟨rfl, hr⟩ := adds_answer h
      rw [show (s₁.leave _ k).now = s.now from (Site.recheckLocal_spec hl).2.now] at hr ⊢
      exact ⟨_, (ha.then_total rfl).merge hr (by simp), .rehitLocal hco, rfl⟩
  | rereading hco hr =>
    rename_i key fetch trip
    rcases hf : s.finish trip with ⟨reply, s₁⟩
    have hnode := (Site.finish_spec hf).node
    have hnow := (Site.finish_spec hf).now
    rcases hl : s₁.recheckShared (s.node.fullKey key) reply with ⟨_ | v, s₂⟩ <;>
      obtain ⟨-, hs⟩ := Site.recheckShared_spec hl <;> simp only [hf, hl] at h ⊢
    · have ha := Site.adds_recheckShared_none hl
      cases h
      exact ⟨_, ha.after_node hnode, .remissShared hco, rfl⟩
    · obtain ⟨hfails, evicted, ha⟩ := Site.adds_recheckShared_some hl
      obtain ⟨rfl, hr⟩ := adds_answer h
      rw [show (s₂.leave _ k).now = s.now from hs.now.trans hnow] at hr ⊢
      rw [hfails]
      exact ⟨_, ((ha.after_node hnode).then_total rfl).merge hr (by simp [Site.promotion]), .rehitShared evicted hco, rfl⟩
  | fetching => exact posted_endFetch h
  | storing hc hr =>
    rename_i w evicted trip
    have hwrites : (∃ short v ttl, c = .set short v ttl) ∨ ∃ short fetch, c = .getOrFetch short fetch := by
      cases c with
      | set short v ttl => exact Or.inl ⟨short, v, ttl, rfl⟩
      | getOrFetch short fetch => exact Or.inr ⟨short, fetch, rfl⟩
      | _ => cases hc
    rcases hf : s.finish trip with ⟨reply, s₁⟩
    simp only [hf] at h ⊢
    exact posted_endStore hwrites (Site.finish_spec hf).node (Site.finish_spec hf).now h
  | deleting hr =>
    rename_i key resident trip
    rcases hf : s.finish trip with ⟨reply, s₁⟩
    simp only [hf] at h ⊢
    exact posted_endDelete (Site.finish_spec hf).node h
  | sweeping hr =>
    rename_i pattern trip
    rcases hf : s.finish trip with ⟨reply, s₁⟩
    simp only [hf] at h ⊢
    exact posted_endSweep (Site.finish_spec hf).node h
  | announcing hc hr =>
    rename_i reply trip channel message
    have hread : c.reads? = none := by rcases hc with ⟨_, rfl⟩ | ⟨_, rfl⟩ <;> rfl
    rcases hf : s.finish trip with ⟨published, s₁⟩
    obtain ⟨sets, deletes, hset⟩ := s₁.adds_settle "publish" (fun _ => none) (by simp) published
    have hs := Site.alike_settle s₁ "publish" (fun _ => none) published
    simp only [hf] at h ⊢
    cases h
    rw [show (Site.settle s₁ _ _ published).now = s.now from hs.now.trans (Site.finish_spec hf).now]
    exact ⟨_, hset.after_node (Site.finish_spec hf).node, .announced sets deletes hread, rfl⟩
  | inspecting hr =>
    rename_i localTier trip
    rcases hf : s.finish trip with ⟨e | info, s₁⟩ <;> have hl := Site.finish_spec hf <;> simp only [hf] at h ⊢ <;> cases h
    · rw [show (s₁.report "info" e).now = s.now from (Site.alike_report ..).now.trans hl.now]
      exact ⟨_, (s₁.adds_report "info" e).after_node hl.node, .inspected _, rfl⟩
    · rw [hl.now]
      exact ⟨_, .of_node hl.node, .inspected false, rfl⟩
  | probing hr =>
    rename_i trip
    rcases hf : s.finish trip with ⟨reply, s₁⟩
    simp only [hf] at h
    cases h
    exact ⟨_, .of_node (Site.finish_spec hf).node, .aside rfl (Or.inl rfl) rfl, rfl⟩
  | dialing hr => exact posted_dialing h
  | resting =>
    rename_i attempt left due
    rcases ht : s.dial with ⟨trip, s₁⟩
    simp only [Task.dial, ht] at h
    cases h
    exact ⟨_, .of_node (Site.dial_spec ht).2.2.node, .aside rfl (Or.inl rfl) rfl, rfl⟩
  | hangingUp hr =>
    rename_i trip
    rcases hf : s.finish trip with ⟨reply, s₁⟩
    simp only [hf] at h
    cases h
    exact ⟨_, .of_node (Site.finish_spec hf).node, .aside rfl (Or.inl rfl) rfl, rfl⟩
  | finished => cases ho
  | cancelled => cases ho

end TwoTier
