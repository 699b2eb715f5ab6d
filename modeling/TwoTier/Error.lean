/-
What can go wrong inside the tiers. A caller of the cache sees only a refused configuration; every
other failure is counted where it happens and reads as a miss or as nothing done.
-/

namespace TwoTier

inductive CacheError where
  | invalidConfig (reason : String)
  | connection (reason : String)
  | timeout (ms : Nat)
  | serialization
  | deserialization
  | disconnected
deriving Repr, DecidableEq

namespace CacheError

/-- The store could not be reached at all. -/
def isConnection : CacheError → Bool
  | .connection _ | .timeout _ | .disconnected => true
  | _ => false

def message : CacheError → String
  | .invalidConfig reason => "Invalid cache configuration: " ++ reason
  | .connection reason => "Remote store connection error: " ++ reason
  | .timeout ms => "Remote store operation timed out after " ++ toString ms ++ "ms"
  | .serialization => "Failed to serialize cache value"
  | .deserialization => "Failed to deserialize cache value"
  | .disconnected => "Remote store is disconnected"

end CacheError

end TwoTier
