/-
The client of the shared tier. Every call to the store is bounded in time. A call is a trip: when it
is made, the script in front of the store and the bound decide when it ends and whether it fails on
the way; only then, and only if it does not fail, does the store answer. A client that is not
connected makes no calls.
-/
import TwoTier.Recorder
import TwoTier.Settings
import TwoTier.Glob
import TwoTier.Store.Fault

namespace TwoTier

/-- A call to the store that is under way. -/
structure Trip (α : Type) where
  request : Request α
  /-- When it ends. -/
  ends : Nat
  /-- How it ends without an answer of the store. -/
  failure : Option CacheError := none

namespace Trip

variable {σ α : Type}

/-- Set out at `now`. A wait as long as the bound is still in time. -/
def start (now : Nat) (bound : Option Nat) (r : Request α) (s : Scripted σ) : Trip α × Scripted σ :=
  let (fault, s) := s.draw r.method
  let due := fault.delay.elim now (wakeAt now)
  let late := bound.filter (wakeAt now · < due)
  (⟨r, late.elim due (wakeAt now), late.elim fault.failure fun bound => some (.timeout (millis64 bound))⟩, s)

/-- A call that is not made because there is no connection. -/
def refused (now : Nat) (r : Request α) : Trip α := ⟨r, now, some .disconnected⟩

/-- The reply at the end of the trip. -/
def finish [Backend σ] (now : Nat) (t : Trip α) (s : Scripted σ) : Except CacheError α × Scripted σ :=
  match t.failure with
  | some e => (.error e, s)
  | none => s.serve now t.request

end Trip

/-- The state of a client. -/
structure Remote where
  /-- What the keys that belong to this client start with. -/
  keyspace : String
  /-- Bound of every call. -/
  timeout : Nat
  retry : RetryPolicy
  connected : Bool := false
  /-- Calls that failed, those for lack of a connection apart. -/
  errors : Nat := 0
deriving Repr, DecidableEq

namespace Remote

def ofSettings (keyspace : String) (s : RemoteSettings) : Remote :=
  { keyspace, timeout := s.timeout, retry := s.retryPolicy }

/-- A pattern within the client's keys, whose common beginning stands for itself. -/
def scopedPattern (c : Remote) (pattern : String) : String := Glob.escape c.keyspace ++ pattern

end Remote

/-- A client with what it works on: the clock, the store and the recorder of the process. -/
structure Link (σ : Type) where
  now : Nat
  remote : Remote
  store : Scripted σ
  recorder : Recorder

namespace Link

variable {σ α : Type}

/-- Make a call. -/
def call (l : Link σ) (r : Request α) : Trip α × Link σ :=
  if l.remote.connected then
    let (trip, store) := Trip.start l.now (some l.remote.timeout) r l.store
    (trip, { l with store })
  else (.refused l.now r, l)

/-- The reply to a call, at its end. -/
def finish [Backend σ] (l : Link σ) (t : Trip α) : Except CacheError α × Link σ :=
  let (reply, store) := t.finish l.now l.store
  (reply, { l with store })

/-- Let the clock come to an instant. -/
def wait (l : Link σ) (t : Nat) : Link σ := { l with now := max l.now t }

/-- Count a failed operation. To have no connection is no failure. -/
def report (l : Link σ) (operation : String) (e : CacheError) : Link σ :=
  if e = .disconnected then l
  else
    { l with
      remote := { l.remote with errors := l.remote.errors + 1 }
      recorder := l.recorder.add (.failures operation) 1 }

/-- Set the connected flag, and the gauge with it. -/
def setConnected (l : Link σ) (b : Bool) : Link σ :=
  { l with remote := { l.remote with connected := b }, recorder := l.recorder.setConnected b }

/-- Try to connect once. Unlike other calls this needs no connection. -/
def dial (l : Link σ) : Trip Unit × Link σ :=
  let (trip, store) := Trip.start l.now (some l.remote.timeout) .connect l.store
  (trip, { l with store })

/-- Give the connection up. The client is disconnected at once, and the store gets to know of it
after whatever delay is scripted. -/
def hangUp (l : Link σ) : Trip Unit × Link σ :=
  let l := l.setConnected false
  let (trip, store) := Trip.start l.now none .disconnect l.store
  (trip, { l with store })

/-- How often to try to connect before giving up. -/
def attempts (l : Link σ) : Nat := max l.remote.retry.attempts 1

end Link

/-! ## Figures -/

/-- What is known about the shared tier. -/
structure RemoteStats where
  backend : String
  connected : Bool
  info : StoreInfo
  errors : Nat
deriving Repr, DecidableEq

/-- Whether the shared tier answers, and how fast in milliseconds. -/
structure RemoteHealth where
  connected : Bool
  reachable : Bool := false
  latency : Option Nat := none
deriving Repr, DecidableEq

namespace Link

variable {σ : Type}

/-- The figures, once the store has answered for its own or has failed to. -/
def stats [Backend σ] (l : Link σ) (connected : Bool) (info : StoreInfo) : RemoteStats :=
  ⟨Backend.name σ, connected, info, shown l.remote.errors⟩

end Link

/-- The health of a connected tier, from the answer to a ping that set out at `started`. -/
def RemoteHealth.ofPing (started now : Nat) : Except CacheError Unit → RemoteHealth
  | .ok () => { connected := true, reachable := true, latency := some (millis64 (now - started)) }
  | .error _ => { connected := true }

/-- The health of a tier that is not connected. -/
def RemoteHealth.offline : RemoteHealth := { connected := false }

end TwoTier
