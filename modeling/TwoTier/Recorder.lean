/-
Metrics that a monitoring system collects from a process: counters of what the caches of the process
entered into their books, gauges for the local tier's size and the connection, and a histogram of the
time lookups took. A series exists from the first time something is recorded for it.
-/
import TwoTier.Ledger

namespace TwoTier

/-- The counters. -/
inductive Series where
  | hits (t : Tier)
  | misses (t : Tier)
  | sets (t : Tier)
  | deletes (t : Tier)
  | evictions (t : Tier)
  | fetches (outcome : FetchOutcome)
  /-- Operations of the shared tier that failed, by operation. -/
  | failures (operation : String)
deriving Repr, DecidableEq

/-- A metric's name with its labels. -/
def labelled (name : String) (labels : List (String × String)) : String :=
  name ++ "\x7b" ++ ",".intercalate (labels.map fun l => l.1 ++ "=\"" ++ l.2 ++ "\"") ++ "\x7d"

def Series.name : Series → String
  | .hits t => labelled "cache_hits_total" [("tier", t.name)]
  | .misses t => labelled "cache_misses_total" [("tier", t.name)]
  | .sets t => labelled "cache_sets_total" [("tier", t.name)]
  | .deletes t => labelled "cache_deletes_total" [("tier", t.name)]
  | .evictions t => labelled "cache_evictions_total" [("tier", t.name)]
  | .fetches o => labelled "cache_fetch_total" [("outcome", o.name)]
  | .failures op => labelled "cache_tier_errors_total" [("tier", Tier.name .l2), ("op", op)]

/-- What a process has recorded. -/
structure Recorder where
  /-- Nothing is kept before a recorder is installed. -/
  installed : Bool := true
  /-- The metrics can be collected from the process. -/
  served : Bool := false
  counters : List (Series × Nat) := []
  /-- Size of a local tier when it was last looked at. -/
  entries : Option Nat := none
  /-- Whether the shared tier was connected when that was last looked at. -/
  connected : Option Bool := none
  /-- Number of durations recorded. -/
  durations : Nat := 0
  /-- Their sum in seconds, rounded after each of them. -/
  seconds : Double := .zero
deriving Repr, DecidableEq

namespace Recorder

/-- The state of a process that has no recorder yet. -/
def absent : Recorder := { installed := false }

/-- What a counter has reached; one that does not exist is at zero. -/
def count (r : Recorder) (s : Series) : Nat := (r.counters.lookup s).getD 0

/-- Add to a counter, which comes into being with it. -/
def add (r : Recorder) (s : Series) (n : Nat) : Recorder :=
  if r.installed then { r with counters := (s, r.count s + n) :: r.counters.filter fun c => c.1 ≠ s } else r

def setEntries (r : Recorder) (n : Nat) : Recorder := if r.installed then { r with entries := some n } else r

def setConnected (r : Recorder) (b : Bool) : Recorder := if r.installed then { r with connected := some b } else r

def addDuration (r : Recorder) (d : Nat) : Recorder :=
  if r.installed then { r with durations := r.durations + 1, seconds := r.seconds.add (inSeconds d) } else r

/-- Record what is entered into the books of a cache. Failures are recorded where they are reported
and not here. -/
def record (r : Recorder) : Event → Recorder
  | .hit t => r.add (.hits t) 1
  | .miss t => r.add (.misses t) 1
  | .set t => r.add (.sets t) 1
  | .delete t => r.add (.deletes t) 1
  | .evictions t n => if n = 0 then r else r.add (.evictions t) n
  | .error _ => r
  | .request elapsed _ => r.addDuration elapsed
  | .fetch outcome => r.add (.fetches outcome) 1

/-- Install a recorder and let it be collected, unless that was done before. -/
def start (r : Recorder) : Bool × Recorder :=
  if r.served then (false, r) else (true, { r with installed := true, served := true })

/-- The value of a metric: a count or a number. -/
inductive Value where
  | count (n : Nat)
  | number (x : Double)
deriving Repr, DecidableEq

/-- All metrics by name. -/
def metrics (r : Recorder) : List (String × Value) :=
  (r.counters.map fun c => (c.1.name, .count (shown c.2))) ++
  (r.entries.map fun n => (labelled "cache_entries" [("tier", Tier.name .l1)], Value.number (.ofNat n))).toList ++
  (r.connected.map fun b => ("cache_remote_connected", Value.count (if b then 1 else 0))).toList ++
  (if r.durations = 0 then []
   else [("cache_request_duration_seconds_count", .count (shown r.durations)),
     ("cache_request_duration_seconds_sum", .number r.seconds)])

end Recorder

end TwoTier
