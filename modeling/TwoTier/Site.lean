/-
An instance at work: the instance with the clock, the store and the recorder of the process. Here
are the parts that the segments of calls are made of, each of them done at one instant.
-/
import TwoTier.Node
import TwoTier.Remote.Calls

namespace TwoTier

/-- An instance and what it works on. -/
structure Site (σ : Type) where
  now : Nat
  store : Scripted σ
  recorder : Recorder
  node : Node

namespace Site

variable {σ α : Type}

/-! ## The shared tier -/

/-- The instance's client. -/
def link (s : Site σ) : Link σ := ⟨s.now, s.node.remote, s.store, s.recorder⟩

/-- The instance after its client was at work. -/
def withLink (s : Site σ) (l : Link σ) : Site σ :=
  { now := l.now, store := l.store, recorder := l.recorder, node := { s.node with remote := l.remote } }

/-- Make a call to the store. -/
def call (s : Site σ) (r : Request α) : Trip α × Site σ :=
  let (trip, l) := s.link.call r
  (trip, s.withLink l)

/-- The reply to a call, at its end. -/
def finish [Backend σ] (s : Site σ) (t : Trip α) : Except CacheError α × Site σ :=
  let (reply, l) := s.link.finish t
  (reply, s.withLink l)

def dial (s : Site σ) : Trip Unit × Site σ :=
  let (trip, l) := s.link.dial
  (trip, s.withLink l)

def hangUp (s : Site σ) : Trip Unit × Site σ :=
  let (trip, l) := s.link.hangUp
  (trip, s.withLink l)

def setConnected (s : Site σ) (b : Bool) : Site σ := s.withLink (s.link.setConnected b)

/-! ## The books -/

/-- Enter an event into the books and record it. -/
def record (s : Site σ) (e : Event) : Site σ :=
  { s with node := { s.node with books := s.node.books.record e }, recorder := s.recorder.record e }

/-- Report a failed operation to the client. -/
def report (s : Site σ) (operation : String) (e : CacheError) : Site σ := s.withLink (s.link.report operation e)

/-- Enter a failed operation into the books and report it. -/
def fail (s : Site σ) (operation : String) (e : CacheError) : Site σ :=
  (if e = .disconnected then s else s.record (.error .l2)).report operation e

/-- Enter how an operation of the shared tier ended: a failure, or what there is to enter when it
was done. -/
def settle (s : Site σ) (operation : String) (done : α → Option Event) : Except CacheError α → Site σ
  | .ok a => (done a).elim s s.record
  | .error e => s.fail operation e

/-- Record that a write drove another entry out of the local tier, if it did. -/
def recordEviction (s : Site σ) (evicted : Bool) : Site σ :=
  if evicted then s.record (.evictions .l1 1) else s

/-! ## The local tier -/

def withLru (s : Site σ) (lru : Lru Json) : Site σ := { s with node := { s.node with lru } }

/-- Write a key to the local tier and tell whether another entry made room. -/
def put (s : Site σ) (key : String) (v : Json) (ttl : Option Nat) : Bool × Site σ :=
  let (evicted, lru) := s.node.lru.set s.now key v ttl
  (evicted, s.withLru lru)

/-- Copy a value of the shared tier into the local one, where it lives for the default time. -/
def promote (s : Site σ) (key : String) (v : Json) : Site σ :=
  let (evicted, s) := s.put key v none
  (s.recordEviction evicted).record (.set .l1)

/-! ## Looking a key up -/

/-- Ask the local tier first. -/
def lookupLocal (s : Site σ) (key : String) : Option Json × Site σ :=
  let (found, lru) := s.node.lru.get s.now key
  match found with
  | some v => (some v, (s.withLru lru).record (.hit .l1))
  | none => (none, (s.withLru lru).record (.miss .l1))

/-- Then the shared tier, of which this is the reply. -/
def lookupShared (s : Site σ) (key : String) (reply : Except CacheError (Option Bytes)) : Option Json × Site σ :=
  match Payload.decodeReply reply with
  | .ok (some v) => (some v, (s.record (.hit .l2)).promote key v)
  | .ok none => (none, s.record (.miss .l2))
  | .error e => (none, (s.fail "get" e).record (.miss .l2))

/-- Ask the local tier again after standing in line. The misses are in the books already. -/
def recheckLocal (s : Site σ) (key : String) : Option Json × Site σ :=
  let (found, lru) := s.node.lru.get s.now key
  match found with
  | some v => (some v, (s.withLru lru).record (.hit .l1))
  | none => (none, s.withLru lru)

/-- Then the shared tier again. A failure is reported to the client only. -/
def recheckShared (s : Site σ) (key : String) (reply : Except CacheError (Option Bytes)) : Option Json × Site σ :=
  match Payload.decodeReply reply with
  | .ok (some v) => (some v, (s.record (.hit .l2)).promote key v)
  | .ok none => (none, s)
  | .error e => (none, s.report "get" e)

/-! ## Lines -/

def join (s : Site σ) (key : String) (ticket : Nat) : Site σ :=
  { s with node := { s.node with flights := s.node.flights.join key ticket } }

def leave (s : Site σ) (key : String) (ticket : Nat) : Site σ :=
  { s with node := { s.node with flights := s.node.flights.leave key ticket } }

/-! ## Maintenance -/

/-- Purge the local tier, refresh the gauges and plan the next purge. -/
def purge (s : Site σ) : Site σ :=
  let (_, lru) := s.node.lru.purge s.now
  { s with
    node := { s.node with lru, maintenance := s.node.maintenance.map Maintenance.next }
    recorder := (s.recorder.setEntries lru.size).setConnected s.node.remote.connected }

end Site

end TwoTier
