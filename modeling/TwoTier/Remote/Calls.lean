/-
The operations of the shared tier, one after the other on a clock of their own. Each comes in two
forms: the one named `try…` tells what went wrong, the other counts the failure and answers as if
there were nothing to be had.
-/
import TwoTier.MessagePack.Payload
import TwoTier.Remote

namespace TwoTier

/-- The value of a stored payload, if there is one. -/
def Payload.decodeReply {α : Type} [Payload α] : Except CacheError (Option Bytes) → Except CacheError (Option α)
  | .ok none => .ok none
  | .ok (some bytes) => (Payload.decode bytes).map some
  | .error e => .error e

namespace Link

variable {σ α : Type} [Backend σ]

/-- Make a call and wait for the reply. -/
def ask (l : Link σ) (r : Request α) : Except CacheError α × Link σ :=
  let (trip, l) := l.call r
  (l.wait trip.ends).finish trip

/-! ## Operations that tell what went wrong -/

/-- Read a value. -/
def tryGet [Payload α] (l : Link σ) (key : String) : Except CacheError (Option α) × Link σ :=
  let (reply, l) := l.ask (.get key)
  (Payload.decodeReply reply, l)

/-- Write a value. One that has no payload fails before any call is made. -/
def trySet [Payload α] (l : Link σ) (key : String) (value : α) (ttl : Option Nat) : Except CacheError Unit × Link σ :=
  match Payload.encode value with
  | .error e => (.error e, l)
  | .ok bytes => l.ask (.set key bytes ttl)

def tryDelete (l : Link σ) (key : String) : Except CacheError Bool × Link σ := l.ask (.delete key)

/-- Delete the keys that match a pattern within the client's own. -/
def tryDeletePattern (l : Link σ) (pattern : String) : Except CacheError Nat × Link σ :=
  l.ask (.deletePattern (l.remote.scopedPattern pattern))

def tryPublish (l : Link σ) (channel message : String) : Except CacheError Unit × Link σ :=
  l.ask (.publish channel message)

/-! ## Operations that cannot fail -/

/-- Count a failure and go on with a default. -/
def settle (operation : String) (default : α) : Except CacheError α × Link σ → α × Link σ
  | (.ok a, l) => (a, l)
  | (.error e, l) => (default, l.report operation e)

def get [Payload α] (l : Link σ) (key : String) : Option α × Link σ := settle "get" none (l.tryGet key)

/-- Write a value and tell whether the write landed. -/
def set [Payload α] (l : Link σ) (key : String) (value : α) (ttl : Option Nat) : Bool × Link σ :=
  settle "set" false ((l.trySet key value ttl).map (fun r => r.map fun _ => true) id)

def delete (l : Link σ) (key : String) : Bool × Link σ := settle "delete" false (l.tryDelete key)

def deletePattern (l : Link σ) (pattern : String) : Nat × Link σ :=
  settle "delete_pattern" 0 (l.tryDeletePattern pattern)

/-- Delete every key of the client. -/
def clear (l : Link σ) : Nat × Link σ := l.deletePattern "*"

/-- The figures of the tier. A store that is not connected is not asked. -/
def readStats (l : Link σ) : RemoteStats × Link σ :=
  if l.remote.connected then
    let (info, l) := settle "info" {} (l.ask .info)
    (l.stats true info, l)
  else (l.stats false {}, l)

/-- Ping the store. -/
def health (l : Link σ) : RemoteHealth × Link σ :=
  if l.remote.connected then
    let (reply, after) := l.ask .ping
    (.ofPing l.now after.now reply, after)
  else (.offline, l)

/-! ## The connection -/

/-- Try to connect up to `left` more times, the next one being number `attempt`. -/
def connectWithin (l : Link σ) (attempt : Nat) : (left : Nat) → Bool × Link σ
  | 0 => (false, l.setConnected false)
  | left + 1 =>
    let (trip, l) := l.dial
    match (l.wait trip.ends).finish trip with
    | (.ok (), l) => (true, l.setConnected true)
    | (.error _, l) =>
      let l := if left = 0 then l else l.wait (wakeAt l.now (l.remote.retry.backoff attempt))
      l.connectWithin (attempt + 1) left

/-- Connect, with a wait after each failed attempt but the last. -/
def connect (l : Link σ) : Bool × Link σ := l.connectWithin 0 l.attempts

def disconnect (l : Link σ) : Link σ :=
  let (trip, l) := l.hangUp
  ((l.wait trip.ends).finish trip).2

end Link

end TwoTier
