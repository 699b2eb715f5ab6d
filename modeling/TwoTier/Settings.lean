/-
The settings of a cache and of the server around it, their defaults and the rules they have to
meet. Times are in the units of the settings: seconds or milliseconds.
-/
import TwoTier.Error
import TwoTier.Time
import TwoTier.Text

namespace TwoTier

/-- How the shared tier is reached. -/
structure RemoteSettings where
  /-- Without it the cache has its local tier only. -/
  enabled : Bool := false
  url : String := "redis://localhost:6379"
  poolSize : Nat := 10
  /-- Bound of every call, in milliseconds. -/
  timeoutMs : Nat := 5000
  /-- Attempts to connect before giving up. -/
  retryAttempts : Nat := 3
  /-- Wait after the first failed attempt; it doubles after each further one. -/
  retryBackoffMs : Nat := 100
  maxBackoffMs : Nat := 5000
  /-- Channel by which instances tell each other what to drop; without it they do not. -/
  invalidationChannel : Option String := none
deriving Repr, DecidableEq

/-- Both tiers. -/
structure CacheSettings where
  /-- Entries the local tier holds at most. -/
  maxSize : Nat := 10000
  /-- Time to live in both tiers, in seconds. -/
  defaultTtlSecs : Nat := 3600
  /-- What every key starts with in both tiers. -/
  keyspace : String := "cache:"
  /-- Let one caller fetch a missing key while the others wait. -/
  coalesceFetches : Bool := false
  remote : RemoteSettings := {}
deriving Repr, DecidableEq

structure ServerSettings where
  host : String := "0.0.0.0"
  port : Nat := 8080
  /-- How often expired local entries are purged. -/
  maintenanceIntervalSecs : Nat := 60
deriving Repr, DecidableEq

structure LogSettings where
  level : String := "info"
deriving Repr, DecidableEq

/-- Everything the server is started with. -/
structure AppSettings where
  server : ServerSettings := {}
  logging : LogSettings := {}
  cache : CacheSettings := {}
deriving Repr, DecidableEq

/-! ## Rules -/

/-- A rule for the cache that settings do not meet. -/
inductive CacheRule where
  | maxSize | defaultTtl | timeout | attempts | backoff | url | poolSize
deriving Repr, DecidableEq

def CacheRule.text : CacheRule → String
  | .maxSize => "cache.max_size must be > 0"
  | .defaultTtl => "cache.default_ttl_secs must be > 0"
  | .timeout => "cache.remote.timeout_ms must be > 0"
  | .attempts => "cache.remote.retry_attempts must be > 0"
  | .backoff => "cache.remote.max_backoff_ms must be >= cache.remote.retry_backoff_ms"
  | .url => "cache.remote.enabled=true requires cache.remote.url"
  | .poolSize => "cache.remote.pool_size must be > 0"

def CacheRule.error (r : CacheRule) : CacheError := .invalidConfig r.text

/-- The first rule that the settings of the shared tier do not meet. -/
def RemoteSettings.broken? (s : RemoteSettings) : Option CacheRule :=
  if s.timeoutMs = 0 then some .timeout
  else if s.retryAttempts = 0 then some .attempts
  else if s.maxBackoffMs < s.retryBackoffMs then some .backoff
  else if s.enabled && Text.allBlank s.url then some .url
  else if s.enabled && s.poolSize == 0 then some .poolSize
  else none

/-- The first rule that the settings of a cache do not meet. -/
def CacheSettings.broken? (s : CacheSettings) : Option CacheRule :=
  if s.maxSize = 0 then some .maxSize
  else if s.defaultTtlSecs = 0 then some .defaultTtl
  else s.remote.broken?

/-- A rule for the server that settings do not meet. -/
inductive AppRule where
  | port | interval | level
  | cache (rule : CacheRule)
deriving Repr, DecidableEq

def logLevels : List String := ["trace", "debug", "info", "warn", "error", "off"]

def AppRule.text : AppRule → String
  | .port => "server.port must be > 0"
  | .interval => "server.maintenance_interval_secs must be > 0"
  | .level => "logging.level must be one of [" ++ ", ".intercalate (logLevels.map fun l => "\"" ++ l ++ "\"") ++ "]"
  | .cache rule => "cache config error: " ++ rule.error.message

/-- Letters A to Z in lower case. -/
def asciiLower (s : String) : String := s.map Char.toLower

/-- The first rule that the settings do not meet. -/
def AppSettings.broken? (s : AppSettings) : Option AppRule :=
  if s.server.port = 0 then some .port
  else if s.server.maintenanceIntervalSecs = 0 then some .interval
  else if !logLevels.contains (asciiLower s.logging.level) then some .level
  else s.cache.broken?.map .cache

/-! ## Times -/

/-- The time to live that the settings give, within what the tiers honour. -/
def CacheSettings.defaultTtl (s : CacheSettings) : Nat := min (seconds s.defaultTtlSecs) maxTtl

def RemoteSettings.timeout (s : RemoteSettings) : Nat := millis s.timeoutMs

def AppSettings.maintenanceInterval (s : AppSettings) : Nat := seconds s.server.maintenanceIntervalSecs

/-- How often and at what distance to try to connect. -/
structure RetryPolicy where
  attempts : Nat
  initialBackoff : Nat
  maxBackoff : Nat
deriving Repr, DecidableEq

/-- Two to the power of `n`, as far as 32 bits reach. -/
def doublings (n : Nat) : Nat := if n < 32 then pow2 n else maxNat32

/-- The wait after the failed attempt number `n`, counted from zero. A product beyond the longest
duration counts as that. -/
def RetryPolicy.backoff (p : RetryPolicy) (n : Nat) : Nat :=
  min (min (p.initialBackoff * doublings n) longest) p.maxBackoff

def RemoteSettings.retryPolicy (s : RemoteSettings) : RetryPolicy :=
  ⟨s.retryAttempts, millis s.retryBackoffMs, millis s.maxBackoffMs⟩

end TwoTier
