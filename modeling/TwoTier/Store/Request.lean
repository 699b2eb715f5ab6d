/-
What the shared tier asks of a key-value store. A request carries the type of its reply; a store
answers it at an instant of the clock and may fail. Stores neither apply timeouts nor hide errors.
-/
import TwoTier.Error

namespace TwoTier

/-- The bytes a store holds under a key. -/
abbrev Bytes := List UInt8

/-- Figures about a store; one that is not known is absent. -/
structure StoreInfo where
  usedMemory : Option Nat := none
  connectedClients : Option Nat := none
deriving Repr, DecidableEq

/-- A request and, as its index, the type of the reply. -/
inductive Request : Type → Type where
  | connect : Request Unit
  | disconnect : Request Unit
  | ping : Request Unit
  | get (key : String) : Request (Option Bytes)
  /-- Without a time to live the key stays for ever. -/
  | set (key : String) (data : Bytes) (ttl : Option Nat) : Request Unit
  /-- The reply tells whether the key existed. -/
  | delete (key : String) : Request Bool
  /-- The reply counts the keys removed. -/
  | deletePattern (pattern : String) : Request Nat
  | publish (channel message : String) : Request Unit
  | info : Request StoreInfo

/-- The kinds of request. -/
inductive Method where
  | connect | disconnect | ping | get | set | delete | deletePattern | publish | info
deriving Repr, DecidableEq

def Request.method {α : Type} : Request α → Method
  | .connect => .connect
  | .disconnect => .disconnect
  | .ping => .ping
  | .get _ => .get
  | .set _ _ _ => .set
  | .delete _ => .delete
  | .deletePattern _ => .deletePattern
  | .publish _ _ => .publish
  | .info => .info

/-- A store that answers requests. -/
class Backend (σ : Type) where
  /-- Short name of the kind of store. -/
  name : String
  serve : {α : Type} → Nat → Request α → σ → Except CacheError α × σ

end TwoTier
