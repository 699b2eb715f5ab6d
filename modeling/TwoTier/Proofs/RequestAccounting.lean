/-
Request accounting. Whatever calls are made to an instance, however they are interleaved, fail or are dropped, its
books are consistent at every instant; and when no call is under way and none was dropped, they tell exactly how many
look-ups there were, how they ended and how long they took.
-/
import TwoTier.Proofs.Cluster.Balance
import TwoTier.Store

namespace TwoTier

/-! ## Figures of calls -/

/-- All that an instance has counted that has entered nothing. -/
theorem Node.total_of_no_books (n : Node) (hb : n.books = {}) : n.total = ⟨{}, n.remote.errors, n.lru.counts⟩ :=
  congrArg (Slip.mk · _ _) hb

namespace Task

/-- Whether the call looks a key up. -/
def isLookup (t : Task) : Bool := t.call.reads?.isSome

/-- How long a look-up took that has ended. -/
def duration? (t : Task) : Option Nat :=
  match t.isLookup, t.phase with
  | true, .finished _ ended => some (ended - t.started)
  | _, _ => none

/-- A plain look-up that has found nothing. -/
def isBlank (t : Task) : Bool :=
  match t.call, t.phase with
  | .get _, .finished (.value none) _ => true
  | _, _ => false

/-- A look-up that has asked the local tier and not ended. -/
def isSearching (t : Task) : Bool := t.isLookup && t.phase.isUnderWay

/-- A look-up whose fetch has ended and whose time is not entered yet. -/
def isFilling (t : Task) : Bool :=
  match t.call, t.phase with
  | .getOrFetch _ _, .storing _ _ _ => true
  | _, _ => false

end Task

namespace Task

variable {t : Task}

/-- A look-up that has begun, is not under way and was not dropped has ended. -/
theorem duration?_isSome (h : t.phase.isUnderWay = false) (hk : t.phase.isCancelled = false) :
    t.duration?.isSome = (t.isLookup && (t.phase.isUnderWay || t.phase.isOver)) := by
  unfold duration?
  cases hl : t.isLookup <;> cases hp : t.phase <;> rw [hp] at h hk <;>
    first | rfl | (cases hk; done) | cases h

theorem isFilling_of_rest (h : t.phase.isUnderWay = false) : t.isFilling = false := by
  unfold isFilling
  split
  · rename_i hp
    rw [hp] at h
    cases h
  · rfl

end Task

namespace Law

variable {σ : Type} {b : Bool}

/-- Every look-up that was served was served by one tier. -/
def served : Law where
  worth p := p.books.served - p.books.l1.hits - p.books.l2.hits

theorem served_exact : served.Exact σ b where
  worth_plus p q := by simp only [served, Slip.plus, Ledger.plus, TierCounts.plus]; omega
  exact _ h := by
    dsimp only [served]
    cases h <;> simp
  waiting _ := rfl
  cancelled _ := rfl
  expired _ := rfl

/-- Not more look-ups were served than there were. -/
def unserved : Law where
  worth p := p.books.requests - p.books.served

theorem unserved_valid : unserved.Valid σ b where
  worth_plus p q := by simp only [unserved, Slip.plus, Ledger.plus]; omega
  posting _ h := by
    dsimp only [unserved]
    cases h <;> simp
  waiting _ := rfl
  cancelled _ := rfl
  expired _ := rfl

/-- Not more fetches failed than there were. -/
def fetched : Law where
  worth p := p.books.fetches - p.books.fetchErrors

theorem fetched_valid : fetched.Valid σ b where
  worth_plus p q := by simp only [fetched, Slip.plus, Ledger.plus]; omega
  posting _ h := by
    dsimp only [fetched]
    cases h with
    | unfetched wrong => cases wrong <;> simp
    | _ => simp
  waiting _ := rfl
  cancelled _ := rfl
  expired _ := rfl

/-- A look-up that misses the shared tier has missed the local one before. -/
def missed : Law where
  worth p := p.books.l1.misses - p.books.l2.misses
  stake t := t.phase.pending.reads

theorem missed_valid : missed.Valid σ b where
  worth_plus p q := by simp only [missed, Slip.plus, Ledger.plus, TierCounts.plus]; omega
  posting _ h := by
    dsimp only [missed]
    cases h with
    | dropped _ _ hi | swept _ _ hi => simp only [Phase.pending_of_idle hi]; simp [Phase.pending]
    | aside _ hb hi => simp [Phase.pending_of_idle hi, Phase.pending_of_idle_or hb]
    | _ => simp [Phase.pending]
  waiting h := by simp [missed, h, Phase.pending]
  cancelled h := by simp [missed, h, Phase.pending]
  expired _ := rfl

/-- Without a line to stand in, whoever misses the local tier asks the shared one once. -/
def answered : Law where
  worth p := p.books.l1.misses - p.books.l2.hits - p.books.l2.misses
  stake t := t.phase.pending.reads

theorem answered_exact : answered.Exact σ false where
  worth_plus p q := by simp only [answered, Slip.plus, Ledger.plus, TierCounts.plus]; omega
  exact hco h := by
    dsimp only [answered]
    cases h with
    | dropped _ _ hi | swept _ _ hi => simp only [Phase.pending_of_idle hi]; simp [Phase.pending]
    | aside _ hb hi => simp [Phase.pending_of_idle hi, Phase.pending_of_idle_or hb]
    | rehitShared _ hc => rw [hc] at hco; cases hco
    | _ => simp [Phase.pending]
  waiting h := by simp [answered, h, Phase.pending]
  cancelled h := by simp [answered, h, Phase.pending]
  expired _ := rfl

/-- Every look-up that ends is a request. -/
def requests : Law where
  worth p := p.books.requests
  stake t := t.duration?.isSome.toNat

theorem requests_exact : requests.Exact σ b where
  worth_plus p q := by simp only [requests, Slip.plus, Ledger.plus]; omega
  exact _ h := by
    dsimp only [requests]
    cases h with
    | hitLocal hc | missLocal hc | hitShared _ hc => simp [Task.duration?, Task.isLookup, hc]
    | announced _ _ hc | aside hc => simp [Task.duration?, Task.isLookup, hc]
    | _ => simp [Task.duration?, Task.isLookup, Call.reads?]
  waiting h := by simp [requests, Task.duration?, h]
  cancelled h := by simp [requests, Task.duration?, h]
  expired _ := rfl

/-- And its time is entered. -/
def nanos : Law where
  worth p := p.books.nanos
  stake t := (t.duration?.elim 0 (min · maxNat64) : Nat)

theorem nanos_exact : nanos.Exact σ b where
  worth_plus p q := by simp only [nanos, Slip.plus, Ledger.plus]; omega
  exact _ h := by
    dsimp only [nanos]
    cases h with
    | hitLocal hc | missLocal hc | hitShared _ hc => simp [Task.duration?, Task.isLookup, hc, lasting]
    | announced _ _ hc | aside hc => simp [Task.duration?, Task.isLookup, hc]
    | _ => simp [Task.duration?, Task.isLookup, Call.reads?, lasting]
  waiting h := by simp [nanos, Task.duration?, h]
  cancelled h := by simp [nanos, Task.duration?, h]
  expired _ := rfl

/-- A look-up that no tier serves fetches or finds nothing. -/
def filled : Law where
  worth p := p.books.requests - p.books.served - p.books.fetches
  stake t := t.isBlank.toNat - t.isFilling.toNat

theorem filled_exact : filled.Exact σ b where
  worth_plus p q := by simp only [filled, Slip.plus, Ledger.plus]; omega
  exact _ h := by
    dsimp only [filled]
    cases h with
    | @hitLocal c _ _ _ _ _ _ _ hc => cases c <;> cases hc <;> rfl
    | @missLocal c _ _ _ _ _ _ _ _ _ hc => cases c <;> cases hc <;> rfl
    | @hitShared c _ _ _ _ _ _ _ _ _ hc => cases c <;> cases hc <;> rfl
    | @announced c _ _ _ _ _ _ _ _ _ hc => cases c <;> cases hc <;> rfl
    | @aside c _ _ _ _ _ _ _ hc => cases c <;> cases hc <;> rfl
    | _ => simp [Task.isBlank, Task.isFilling]
  waiting h := by simp [filled, Task.isBlank, Task.isFilling, h]
  cancelled h := by simp [filled, Task.isBlank, Task.isFilling, h]
  expired _ := rfl

/-- Without a line to stand in, every look-up asks the local tier once. -/
def asked : Law where
  worth p := p.books.l1.hits + p.books.l1.misses - p.books.requests
  stake t := t.isSearching.toNat

theorem asked_exact : asked.Exact σ false where
  worth_plus p q := by simp only [asked, Slip.plus, Ledger.plus, TierCounts.plus]; omega
  exact hco h := by
    dsimp only [asked]
    cases h with
    | hitLocal hc | missLocal hc | hitShared _ hc => simp [Task.isSearching, Task.isLookup, Phase.isUnderWay, hc]
    | announced _ _ hc | aside hc => simp [Task.isSearching, Task.isLookup, hc]
    | queue hc | rehitLocal hc | remissLocal hc | rehitShared _ hc | remissShared hc => rw [hc] at hco; cases hco
    | _ => simp [Task.isSearching, Task.isLookup, Call.reads?, Phase.isUnderWay]
  waiting h := by simp [asked, Task.isSearching, h, Phase.isUnderWay]
  cancelled h := by simp [asked, Task.isSearching, h, Phase.isUnderWay]
  expired _ := rfl

end Law

/-! ## The theorem -/

/-- What holds of a reading of the books at every instant. -/
structure Snapshot.Consistent (s : Snapshot) : Prop where
  served : s.cacheHits = s.l1.hits + s.l2.hits
  served_le : s.cacheHits ≤ s.totalRequests
  unserved : s.cacheMisses = s.totalRequests - s.cacheHits
  missed : s.l2.misses ≤ s.l1.misses
  failed : s.fetchErrors ≤ s.fetches

/-- The tallies of which all others that are told of look-ups are parts fit in 64 bits. -/
structure Ledger.Unwrapped (b : Ledger) : Prop where
  requests : b.requests ≤ maxNat64
  misses : b.l1.misses ≤ maxNat64
  fetches : b.fetches ≤ maxNat64

namespace Cluster

variable {σ : Type} {c : Cluster σ} {i : Nat} {n n₀ : Node}

/-- How many look-ups an instance was asked for. -/
def lookups (c : Cluster σ) (i : Nat) : Nat :=
  (c.tasksAt i).countP fun t => t.isLookup && (t.phase.isUnderWay || t.phase.isOver)

/-- How long its look-ups took that have ended, together. -/
def lookupTime (c : Cluster σ) (i : Nat) : Nat := ((c.tasksAt i).filterMap Task.duration?).sum

/-- What the books of an instance tell when it is at rest. -/
structure Accounted (c : Cluster σ) (i : Nat) (n : Node) (s : Snapshot) : Prop where
  requests : s.totalRequests = c.lookups i
  misses : s.cacheMisses = s.fetches + (c.tasksAt i).countP Task.isBlank
  time : c.lookupTime i ≤ maxNat64 → s.responseTime = c.lookupTime i
  looks : n.coalesce = false → s.totalRequests = s.l1.hits + s.l1.misses ∧ s.l1.misses = s.l2.hits + s.l2.misses

/-- Times that fit in 64 bits together are entered as they are. -/
theorem sum_lasting {l : List Nat} (h : l.sum ≤ maxNat64) : (l.map (min · maxNat64)).sum = l.sum := by
  induction l with
  | nil => rfl
  | cons d l ih =>
    rw [List.sum_cons] at h
    rw [List.map_cons, List.sum_cons, List.sum_cons, ih (by omega), Nat.min_eq_left (by omega)]

theorem sum_elim {α : Type} (f : α → Option Nat) (g : Nat → Nat) (l : List α) :
    (l.map fun a => (((f a).elim 0 g : Nat) : ℤ)).sum = (((l.filterMap f).map g).sum : Nat) := by
  induction l with
  | nil => rfl
  | cons a l ih =>
    rw [List.map_cons, List.sum_cons, ih, List.filterMap_cons]
    cases f a with
    | none => simp
    | some d => simp

section

variable [Backend σ] (hj : c.jobs = []) (hn₀ : c.nodes[i]? = some n₀) (hb : n₀.books = {}) (moves : List Move)
  (hn : (c.run moves).nodes[i]? = some n)

include hj hn₀ hb hn

/-- What is served is served by one tier. -/
theorem served_eq : n.books.served = n.books.l1.hits + n.books.l2.hits := by
  have h : (n.books.served : ℤ) - n.books.l1.hits - n.books.l2.hits = 0 :=
    Law.served_exact.balances_of_no_stake hj hn₀ rfl (by rw [n₀.total_of_no_books hb]; rfl) rfl moves hn
  omega

/-- At every instant, whoever was dropped. -/
theorem consistent (hu : n.books.Unwrapped) : n.books.snapshot.Consistent := by
  have hzero := n₀.total_of_no_books hb
  have hserved := served_eq hj hn₀ hb moves hn
  have hunserved : 0 ≤ (n.books.requests : ℤ) - n.books.served :=
    Law.unserved_valid.covers_of_no_stake hj hn₀ rfl (by rw [hzero]; rfl) rfl moves hn
  have hfetched : 0 ≤ (n.books.fetches : ℤ) - n.books.fetchErrors :=
    Law.fetched_valid.covers_of_no_stake hj hn₀ rfl (by rw [hzero]; rfl) rfl moves hn
  have hreads := load_nonneg (μ := fun t => t.phase.pending.reads) (fun _ => Int.natCast_nonneg _) (c.run moves) i
  have hmissed : (c.run moves).load i (fun t => t.phase.pending.reads) + 0 ≤ (n.books.l1.misses : ℤ) - n.books.l2.misses :=
    Law.missed_valid.covers hj hn₀ rfl (by rw [hzero]; rfl) (fun _ => Int.natCast_nonneg _) moves hn
  obtain ⟨hr, hm, hf⟩ := hu
  unfold Ledger.snapshot TierCounts.shown
  constructor
  all_goals dsimp only
  · rw [shown_of_le (by omega : n.books.served ≤ _), shown_of_le (by omega : n.books.l1.hits ≤ _),
      shown_of_le (by omega : n.books.l2.hits ≤ _)]
    omega
  · rw [shown_of_le (by omega : n.books.served ≤ _), shown_of_le hr]
    omega
  · rw [shown_of_le (by omega : n.books.l2.misses ≤ _), shown_of_le hm]
    omega
  · rw [shown_of_le (by omega : n.books.fetchErrors ≤ _), shown_of_le hf]
    omega

/-- At rest, if nobody was dropped. -/
theorem accounted (hu : n.books.Unwrapped) (hrest : (c.run moves).AtRest i) (hk : (c.run moves).Kept i) :
    (c.run moves).Accounted i n n.books.snapshot := by
  have hzero := n₀.total_of_no_books hb
  have hserved := served_eq hj hn₀ hb moves hn
  have hrequests : (n.books.requests : ℤ) = (c.run moves).load i (fun t => t.duration?.isSome.toNat) + 0 :=
    Law.requests_exact.balances hj hn₀ rfl (by rw [hzero]; rfl) moves hn hk
  have hnanos : (n.books.nanos : ℤ) = (c.run moves).load i (fun t => (t.duration?.elim 0 (min · maxNat64) : Nat)) + 0 :=
    Law.nanos_exact.balances hj hn₀ rfl (by rw [hzero]; rfl) moves hn hk
  have hfilled : (n.books.requests : ℤ) - n.books.served - n.books.fetches =
      (c.run moves).load i (fun t => t.isBlank.toNat - t.isFilling.toNat) + 0 :=
    Law.filled_exact.balances hj hn₀ rfl (by rw [hzero]; rfl) moves hn hk
  have hasked : n₀.coalesce = false → (n.books.l1.hits : ℤ) + n.books.l1.misses - n.books.requests =
      (c.run moves).load i (fun t => t.isSearching.toNat) + 0 := fun hco =>
    Law.asked_exact.balances hj hn₀ hco (by rw [hzero]; rfl) moves hn hk
  have hanswered : n₀.coalesce = false → (n.books.l1.misses : ℤ) - n.books.l2.hits - n.books.l2.misses =
      (c.run moves).load i (fun t => t.phase.pending.reads) + 0 := fun hco =>
    Law.answered_exact.balances hj hn₀ hco (by rw [hzero]; rfl) moves hn hk
  -- nobody is on the way, so all that is staked has ended
  have hended : (c.run moves).load i (fun t => t.duration?.isSome.toNat) = (c.run moves).lookups i := by
    unfold lookups
    rw [← load_eq_countP]
    exact load_congr fun t ht => by rw [Task.duration?_isSome (hrest t ht) (hk t ht)]
  have hlasted : (c.run moves).load i (fun t => (t.duration?.elim 0 (min · maxNat64) : Nat)) =
      ((((c.run moves).tasksAt i).filterMap Task.duration?).map (min · maxNat64)).sum := by
    rw [load_eq_sum]
    exact sum_elim ..
  have hblank : (c.run moves).load i (fun t => t.isBlank.toNat - t.isFilling.toNat) =
      ((c.run moves).tasksAt i).countP Task.isBlank := by
    rw [← load_eq_countP]
    exact load_congr fun t ht => by rw [Task.isFilling_of_rest (hrest t ht)]; exact sub_zero _
  have hsearching : (c.run moves).load i (fun t => t.isSearching.toNat) = 0 :=
    load_eq_zero fun t ht => by unfold Task.isSearching; rw [hrest t ht, Bool.and_false]; rfl
  have hreading : (c.run moves).load i (fun t => t.phase.pending.reads) = 0 :=
    load_eq_zero fun t ht => by rw [Phase.pending_of_rest (hrest t ht)]; rfl
  have hframe := frame_of_frames (run_frames (sound_of_no_jobs hj) moves) hn₀ hn
  obtain ⟨hr, hm, hf⟩ := hu
  unfold Ledger.snapshot TierCounts.shown
  constructor
  all_goals dsimp only
  · rw [shown_of_le hr]
    omega
  · rw [shown_of_le hr, shown_of_le (by omega : n.books.served ≤ _), shown_of_le hf]
    omega
  · intro htime
    have hsum := sum_lasting htime
    unfold lookupTime at htime ⊢
    rw [shown_of_le (by omega)]
    omega
  · intro hco
    rw [Node.coalesce_of_frame hframe] at hco
    have := hasked hco
    have := hanswered hco
    rw [shown_of_le hr, shown_of_le hm, shown_of_le (by omega : n.books.l1.hits ≤ _),
      shown_of_le (by omega : n.books.l2.hits ≤ _), shown_of_le (by omega : n.books.l2.misses ≤ _)]
    omega

end

/-- Request accounting. Calls to an instance that has entered nothing yet, and to any others around the same store, may
be interleaved, fail and be dropped in any way, with or without a line to stand in. As long as no tally wraps round,
every reading of its books is consistent; and one that is taken at rest, if no call was dropped, tells how many
look-ups there were, which of them found nothing and fetched nothing, and how long they took. -/
theorem request_accounting [Backend σ] (c : Cluster σ) (hj : c.jobs = []) (hn₀ : c.nodes[i]? = some n₀) (hb : n₀.books = {})
    (moves : List Move) (hn : (c.run moves).nodes[i]? = some n) (hu : n.books.Unwrapped) :
    n.books.snapshot.Consistent ∧
      ((c.run moves).AtRest i → (c.run moves).Kept i → (c.run moves).Accounted i n n.books.snapshot) :=
  ⟨consistent hj hn₀ hb moves hn hu, accounted hj hn₀ hb moves hn hu⟩

/-- Two callers of which one waits for the other, and a third who finds nothing. -/
theorem request_accounting_of_three : ∃ a, Node.make "a" { coalesceFetches := true } = .ok a ∧
    let c : Cluster Store := { store := { inner := {} }, nodes := [a] }
    let fetch : Fetch := { delay := some (millis 5), outcome := .ok (some .null) }
    let moves : List Move := [.call 0 0 none (.getOrFetch "k" fetch), .call 0 0 none (.getOrFetch "k" fetch),
      .call 0 0 none (.get "x"), .resume 0, .resume 1, .resume 2, .resume 2, .resume 0, .resume 1, .resume 0, .resume 0,
      .resume 0, .wait (millis 5), .resume 0, .resume 0, .resume 1]
    ∃ n, (c.run moves).nodes[0]? = some n ∧ (c.run moves).AtRest 0 ∧ (c.run moves).Kept 0 ∧
      n.books.snapshot.Consistent ∧
      ((c.run moves).AtRest 0 → (c.run moves).Kept 0 → (c.run moves).Accounted 0 n n.books.snapshot) :=
  ⟨_, rfl, _, rfl, by decide, by decide, request_accounting _ rfl rfl rfl _ rfl ⟨by decide, by decide, by decide⟩⟩

end Cluster

end TwoTier
