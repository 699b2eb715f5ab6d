/-
One instance of the cache: its local tier, its client of the shared tier, its books and the locks at
which callers wait for a fetch. `Node.make` makes one from settings that meet the rules.
-/
import TwoTier.Flights
import TwoTier.Invalidation
import TwoTier.Json
import TwoTier.Remote

namespace TwoTier

/-- The periodic purge of a local tier. -/
structure Maintenance where
  interval : Nat
  /-- When the next purge is due. -/
  due : Nat
  interval_pos : 0 < interval := by omega
deriving Repr, DecidableEq

/-- Purges at a distance, the first one at `now`. Without a distance there are none. -/
def Maintenance.every? (interval now : Nat) : Option Maintenance :=
  if h : interval = 0 then none else some ⟨interval, now, Nat.pos_of_ne_zero h⟩

/-- The plan once the purge that is due has been made. -/
def Maintenance.next (m : Maintenance) : Maintenance := { m with due := m.due + m.interval }

/-- An instance. -/
structure Node where
  /-- What the instance signs its messages with. -/
  id : String
  /-- What every key starts with in both tiers. -/
  keyspace : String
  /-- Let one caller fetch a missing key while the others wait. -/
  coalesce : Bool
  /-- Where invalidations are published, if anywhere. -/
  channel : Option String
  lru : Lru Json
  remote : Remote
  books : Ledger := {}
  flights : Flights := {}
  maintenance : Option Maintenance := none

namespace Node

/-- Make an instance, not connected yet, from settings that meet the rules. -/
def make (id : String) (s : CacheSettings) : Except CacheError Node :=
  match s.broken? with
  | some r => .error r.error
  | none =>
    match Lru.make s.maxSize s.defaultTtl with
    | .error r => .error r.error
    | .ok lru => .ok {
        id, keyspace := s.keyspace, coalesce := s.coalesceFetches, channel := s.remote.invalidationChannel
        lru, remote := .ofSettings s.keyspace s.remote }

/-- A key as it is in both tiers. -/
def fullKey (n : Node) (key : String) : String := n.keyspace ++ key

/-- The default time to live. -/
def defaultTtl (n : Node) : Nat := n.lru.defaultTtl

/-- Purge the local tier from now on, in place of an earlier plan. -/
def maintain (n : Node) (interval now : Nat) : Node := { n with maintenance := Maintenance.every? interval now }

/-- The figures that operators look at. -/
def summary (n : Node) : Summary := n.books.summary n.lru.size n.remote.connected

/-- Apply a payload that arrived on the channel. Tells whether it was applied; one that is no message
is ignored. -/
def deliver (n : Node) (payload : String) : Option Bool × Node :=
  match Message.decode payload with
  | none => (none, n)
  | some m =>
    let (applied, lru) := m.apply n.id n.lru
    (some applied, { n with lru })

end Node

/-- The pattern for all keys that start with a text. -/
def startingWith (text : String) : String := Glob.escape text ++ "*"

end TwoTier
