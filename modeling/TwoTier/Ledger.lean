/-
The books of a cache: hits, misses, writes, deletions, evictions and failures of each tier, the
lookups that callers waited for, and the fetches that filled gaps. Every event is entered once. A
tally is kept as an unbounded count and shown as 64 bits, so a reading wraps round while the count
behind it does not.
-/
import TwoTier.Double

namespace TwoTier

/-! ## Tallies -/

/-- What a reader sees of a tally. -/
def shown (n : Nat) : Nat := n % 18446744073709551616

/-- Part of a whole as a fraction, or zero when there is no whole. -/
def ratio (part whole : Nat) : Double :=
  if whole = 0 then .zero else (Double.ofNat part).div (Double.ofNat whole)

/-- Share of hits among hits and misses, with the sum taken in 64 bits. -/
def hitRate (hits misses : Nat) : Double := ratio hits (shown (hits + misses))

theorem shown_of_lt {n : Nat} (h : n < 18446744073709551616) : shown n = n := Nat.mod_eq_of_lt h

theorem shown_add (a b : Nat) : shown (shown a + b) = shown (a + b) := by
  unfold shown; omega

/-! ## The books -/

/-- The tiers: `l1` in the instance itself, `l2` in the shared store. -/
inductive Tier where
  | l1
  | l2
deriving Repr, DecidableEq

def Tier.name : Tier → String
  | .l1 => "L1"
  | .l2 => "L2"

/-- How a fetch ended: with a value, with nothing, or in an error. -/
inductive FetchOutcome where
  | value
  | empty
  | error
deriving Repr, DecidableEq

def FetchOutcome.name : FetchOutcome → String
  | .value => "value"
  | .empty => "empty"
  | .error => "error"

/-- What is entered into the books. -/
inductive Event where
  | hit (t : Tier)
  | miss (t : Tier)
  | set (t : Tier)
  | delete (t : Tier)
  | evictions (t : Tier) (n : Nat)
  /-- An operation of a tier failed. -/
  | error (t : Tier)
  /-- A lookup took some time, and a tier served it or none did. -/
  | request (elapsed : Nat) (served : Bool)
  | fetch (outcome : FetchOutcome)
deriving Repr, DecidableEq

/-- The tallies of one tier. -/
structure TierCounts where
  hits : Nat := 0
  misses : Nat := 0
  sets : Nat := 0
  deletes : Nat := 0
  evictions : Nat := 0
  errors : Nat := 0
deriving Repr, DecidableEq

namespace TierCounts

/-- What a reader sees of the tallies. -/
def shown (c : TierCounts) : TierCounts :=
  ⟨TwoTier.shown c.hits, TwoTier.shown c.misses, TwoTier.shown c.sets, TwoTier.shown c.deletes,
    TwoTier.shown c.evictions, TwoTier.shown c.errors⟩

/-- Share of a tier's lookups that hit. -/
def hitRate (c : TierCounts) : Double := TwoTier.hitRate c.hits c.misses

end TierCounts

/-- The books. -/
structure Ledger where
  l1 : TierCounts := {}
  l2 : TierCounts := {}
  /-- Completed lookups. -/
  requests : Nat := 0
  /-- Those among them that a tier served. -/
  served : Nat := 0
  /-- Time spent in lookups, in nanoseconds. -/
  nanos : Nat := 0
  fetches : Nat := 0
  fetchErrors : Nat := 0
deriving Repr, DecidableEq

namespace Ledger

def counts (b : Ledger) : Tier → TierCounts
  | .l1 => b.l1
  | .l2 => b.l2

/-- Change the tallies of one tier. -/
def modify (b : Ledger) (t : Tier) (f : TierCounts → TierCounts) : Ledger :=
  match t with
  | .l1 => { b with l1 := f b.l1 }
  | .l2 => { b with l2 := f b.l2 }

/-- Enter an event. A single lookup adds at most as much time as 64 bits hold. -/
def record (b : Ledger) : Event → Ledger
  | .hit t => b.modify t fun c => { c with hits := c.hits + 1 }
  | .miss t => b.modify t fun c => { c with misses := c.misses + 1 }
  | .set t => b.modify t fun c => { c with sets := c.sets + 1 }
  | .delete t => b.modify t fun c => { c with deletes := c.deletes + 1 }
  | .evictions t n => b.modify t fun c => { c with evictions := c.evictions + n }
  | .error t => b.modify t fun c => { c with errors := c.errors + 1 }
  | .request elapsed served =>
    { b with
      requests := b.requests + 1
      served := b.served + (if served then 1 else 0)
      nanos := b.nanos + min elapsed maxNat64 }
  | .fetch outcome =>
    { b with
      fetches := b.fetches + 1
      fetchErrors := b.fetchErrors + (if outcome = .error then 1 else 0) }

end Ledger

/-! ## Reading the books -/

/-- The length of a duration in seconds; whole seconds and the rest are rounded apart. -/
def inSeconds (d : Nat) : Double :=
  (Double.ofNat (d / perSecond)).add ((Double.ofNat (d % perSecond)).div (.ofNat perSecond))

/-- A reading of the books. -/
structure Snapshot where
  l1 : TierCounts
  l2 : TierCounts
  totalRequests : Nat
  cacheHits : Nat
  cacheMisses : Nat
  fetches : Nat
  fetchErrors : Nat
  responseTime : Nat
deriving Repr, DecidableEq

namespace Snapshot

/-- Share of lookups that a tier served. -/
def hitRate (s : Snapshot) : Double := ratio s.cacheHits s.totalRequests

/-- Mean time of a lookup in milliseconds. -/
def averageMillis (s : Snapshot) : Double :=
  if s.totalRequests = 0 then .zero
  else ((inSeconds s.responseTime).mul (.ofNat 1000)).div (.ofNat s.totalRequests)

end Snapshot

/-- The figures that operators look at. -/
structure Summary where
  totalRequests : Nat
  cacheHits : Nat
  cacheMisses : Nat
  hitRate : Double
  averageMillis : Double
  localSize : Nat
  remoteConnected : Bool
deriving Repr, DecidableEq

namespace Ledger

/-- What the books show. Lookups that no tier served are the rest of all lookups. -/
def snapshot (b : Ledger) : Snapshot where
  l1 := b.l1.shown
  l2 := b.l2.shown
  totalRequests := shown b.requests
  cacheHits := shown b.served
  cacheMisses := shown b.requests - shown b.served
  fetches := shown b.fetches
  fetchErrors := shown b.fetchErrors
  responseTime := shown b.nanos

def summary (b : Ledger) (localSize : Nat) (remoteConnected : Bool) : Summary :=
  let s := b.snapshot
  ⟨s.totalRequests, s.cacheHits, s.cacheMisses, s.hitRate, s.averageMillis, localSize, remoteConnected⟩

end Ledger

end TwoTier
