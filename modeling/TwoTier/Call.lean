/-
What callers ask of an instance, what they get, and how far a call has come. A call runs in segments
between waits: each phase says what the call waits for and what it needs to go on.
-/
import TwoTier.MessagePack.Payload
import TwoTier.Node

namespace TwoTier

/-- The fetch that fills a gap: it takes some time, and then yields a value, nothing or an error. -/
structure Fetch where
  delay : Option Nat := none
  outcome : Except String (Option Json)

def Fetch.kind (f : Fetch) : FetchOutcome :=
  match f.outcome with
  | .ok (some _) => .value
  | .ok none => .empty
  | .error _ => .error

/-- What callers ask. -/
inductive Call where
  | get (key : String)
  /-- Read a key, and on a miss of both tiers fetch its value. -/
  | getOrFetch (key : String) (fetch : Fetch)
  | set (key : String) (value : Json) (ttl : Option Nat)
  | delete (key : String)
  /-- Delete the keys that match a pattern within the keyspace, and clear the local tier. -/
  | deletePattern (pattern : String)
  | stats
  | health
  | connect
  | shutdown

/-- The figures of both tiers. -/
structure CacheStats where
  localTier : LocalStats
  remoteTier : RemoteStats
  books : Snapshot
deriving Repr, DecidableEq

/-- The health of an instance. -/
structure HealthReport where
  healthy : Bool
  remote : RemoteHealth
  localSize : Nat
deriving Repr, DecidableEq

/-- What callers get. -/
inductive Reply where
  | value (v : Option Json)
  | fetched (r : Except String (Option Json))
  | removed (b : Bool)
  | swept (n : Nat)
  | stats (s : CacheStats)
  | health (h : HealthReport)
  | connected (b : Bool)
  | done

/-- The reply to a lookup. -/
def Call.replyOf : Call → Except String (Option Json) → Reply
  | .get _, .ok v => .value v
  | _, r => .fetched r

/-- How far a call has come. A phase that belongs to a key holds it as it is in both tiers. -/
inductive Phase where
  /-- It begins at an instant. -/
  | waiting (start : Nat)
  /-- The shared tier is asked for the key. -/
  | reading (key : String) (t : Trip (Option Bytes))
  /-- It stands in line for the fetch. -/
  | queued (key : String)
  /-- Its turn has come, and the shared tier is asked again. -/
  | rereading (key : String) (t : Trip (Option Bytes))
  /-- The fetch runs. -/
  | fetching (key : String) (due : Nat)
  /-- The value is in the local tier, where it did or did not drive out another, and on its way to
  the shared one. -/
  | storing (key : String) (evicted : Bool) (t : Trip Unit)
  /-- The key is gone from the local tier, where it was or was not, and on its way out of the
  shared one. -/
  | deleting (key : String) (resident : Bool) (t : Trip Bool)
  | sweeping (pattern : String) (t : Trip Nat)
  /-- The invalidation is on its way to the channel, and the reply is known. -/
  | announcing (reply : Reply) (t : Trip Unit)
  | inspecting (localTier : LocalStats) (t : Trip StoreInfo)
  | probing (t : Trip Unit)
  /-- An attempt to connect, its number and how many are left after it. -/
  | dialing (attempt left : Nat) (t : Trip Unit)
  /-- The wait between two attempts; number of the next one and how many are left after it. -/
  | resting (attempt left due : Nat)
  | hangingUp (t : Trip Unit)
  | finished (reply : Reply) (ended : Nat)
  | cancelled (ended : Nat)

namespace Phase

/-- When a phase that waits for the clock is over. -/
def due? : Phase → Option Nat
  | waiting start => some start
  | reading _ t => some t.ends
  | queued _ => none
  | rereading _ t => some t.ends
  | fetching _ due => some due
  | storing _ _ t => some t.ends
  | deleting _ _ t => some t.ends
  | sweeping _ t => some t.ends
  | announcing _ t => some t.ends
  | inspecting _ t => some t.ends
  | probing t => some t.ends
  | dialing _ _ t => some t.ends
  | resting _ _ due => some due
  | hangingUp t => some t.ends
  | finished _ _ => none
  | cancelled _ => none

/-- The key in whose line the call may stand. -/
def line? : Phase → Option String
  | queued key => some key
  | rereading key _ => some key
  | fetching key _ => some key
  | storing key _ _ => some key
  | _ => none

/-- Whether nothing is left to do. -/
def isOver : Phase → Bool
  | finished _ _ => true
  | cancelled _ => true
  | _ => false

end Phase

/-- A call of one caller. -/
structure Task where
  call : Call
  /-- The number under which the caller stands in lines. -/
  ticket : Nat
  phase : Phase
  /-- When it began. -/
  started : Nat := 0
  /-- How often its fetch was started. -/
  fetches : Nat := 0
  /-- How long after it began the caller drops it. -/
  patience : Option Nat := none

namespace Task

/-- Whether the call can go on. -/
def isReady (t : Task) (now : Nat) (n : Node) : Bool :=
  match t.phase with
  | .queued _ => n.flights.hasTurn t.ticket
  | p => p.due?.any (· ≤ now)

/-- When the caller drops the call. -/
def dropsAt? (t : Task) : Option Nat :=
  match t.phase with
  | .waiting _ => none
  | p => if p.isOver then none else t.patience.map (wakeAt t.started)

/-- The next instant at which something happens to the call, unless it waits for other callers. -/
def wakes? (t : Task) : Option Nat :=
  match t.phase.due?, t.dropsAt? with
  | some a, some b => some (min a b)
  | some a, none => some a
  | none, b => b

end Task

/-- A bound on the segments left in a phase, where a connection takes at most `attempts` tries. -/
def Phase.rank (attempts : Nat) : Phase → Nat
  | waiting _ => 2 * attempts + 6
  | reading _ _ => 5
  | queued _ => 4
  | rereading _ _ => 3
  | fetching _ _ => 2
  | storing _ _ _ => 1
  | deleting _ _ _ => 2
  | sweeping _ _ => 2
  | announcing _ _ => 1
  | inspecting _ _ => 1
  | probing _ => 1
  | dialing _ left _ => 2 * left + 1
  | resting _ left _ => 2 * left + 2
  | hangingUp _ => 1
  | finished _ _ => 0
  | cancelled _ => 0

end TwoTier
