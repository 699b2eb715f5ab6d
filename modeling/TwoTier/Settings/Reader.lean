/-
Reading settings from structured values of any kind. A reader knows how one kind of value gives
numbers, truth values and texts, and how it gives the fields of a record: by name from a table or in
order from a list. Fields that are not given keep their defaults, unknown ones are passed over.
-/
import TwoTier.Settings

namespace TwoTier

/-- The fields of a record. -/
inductive Fields (V : Type) where
  | named (members : List (String × V))
  | inOrder (values : List V)

/-- How settings are taken from values of one kind. -/
structure SettingsReader (V : Type) where
  /-- A number of at most the given size. -/
  nat? : Nat → V → Option Nat
  bool? : V → Option Bool
  text? : V → Option String
  isAbsent : V → Bool
  fields? : V → Option (Fields V)
  /-- Whether a list may be longer than the record it stands for. -/
  surplus : Bool

namespace SettingsReader

variable {V : Type} {α : Type}

/-- The value of the field with a name and a position, if it is given. -/
def find? (fs : Fields V) (name : String) (position : Nat) : Option V :=
  match fs with
  | .named members => members.lookup name
  | .inOrder values => values[position]?

/-- A field read by `f`, or its default. -/
def field (fs : Fields V) (name : String) (position : Nat) (default : α) (f : V → Option α) : Option α :=
  match find? fs name position with
  | none => some default
  | some v => f v

/-- The fields of a record that has `size` of them. -/
def recordOf? (r : SettingsReader V) (size : Nat) (v : V) : Option (Fields V) :=
  match r.fields? v with
  | some (.inOrder values) => if r.surplus || values.length ≤ size then some (.inOrder values) else none
  | fs => fs

def optionalText? (r : SettingsReader V) (v : V) : Option (Option String) :=
  if r.isAbsent v then some none else (r.text? v).map some

def remote? (r : SettingsReader V) (v : V) : Option RemoteSettings := do
  let d : RemoteSettings := {}
  let fs ← r.recordOf? 8 v
  let enabled ← field fs "enabled" 0 d.enabled r.bool?
  let url ← field fs "url" 1 d.url r.text?
  let poolSize ← field fs "pool_size" 2 d.poolSize (r.nat? maxNat64)
  let timeoutMs ← field fs "timeout_ms" 3 d.timeoutMs (r.nat? maxNat64)
  let retryAttempts ← field fs "retry_attempts" 4 d.retryAttempts (r.nat? maxNat32)
  let retryBackoffMs ← field fs "retry_backoff_ms" 5 d.retryBackoffMs (r.nat? maxNat64)
  let maxBackoffMs ← field fs "max_backoff_ms" 6 d.maxBackoffMs (r.nat? maxNat64)
  let invalidationChannel ← field fs "invalidation_channel" 7 d.invalidationChannel r.optionalText?
  some { enabled, url, poolSize, timeoutMs, retryAttempts, retryBackoffMs, maxBackoffMs, invalidationChannel }

def cache? (r : SettingsReader V) (v : V) : Option CacheSettings := do
  let d : CacheSettings := {}
  let fs ← r.recordOf? 5 v
  let maxSize ← field fs "max_size" 0 d.maxSize (r.nat? maxNat64)
  let defaultTtlSecs ← field fs "default_ttl_secs" 1 d.defaultTtlSecs (r.nat? maxNat64)
  let keyspace ← field fs "namespace" 2 d.keyspace r.text?
  let coalesceFetches ← field fs "coalesce_fetches" 3 d.coalesceFetches r.bool?
  let remote ← field fs "remote" 4 d.remote r.remote?
  some { maxSize, defaultTtlSecs, keyspace, coalesceFetches, remote }

def server? (r : SettingsReader V) (v : V) : Option ServerSettings := do
  let d : ServerSettings := {}
  let fs ← r.recordOf? 3 v
  let host ← field fs "host" 0 d.host r.text?
  let port ← field fs "port" 1 d.port (r.nat? maxNat16)
  let maintenanceIntervalSecs ←
    field fs "maintenance_interval_secs" 2 d.maintenanceIntervalSecs (r.nat? maxNat64)
  some { host, port, maintenanceIntervalSecs }

def logging? (r : SettingsReader V) (v : V) : Option LogSettings := do
  let d : LogSettings := {}
  let fs ← r.recordOf? 1 v
  let level ← field fs "level" 0 d.level r.text?
  some { level }

def app? (r : SettingsReader V) (v : V) : Option AppSettings := do
  let fs ← r.recordOf? 3 v
  let server ← field fs "server" 0 {} r.server?
  let logging ← field fs "logging" 1 {} r.logging?
  let cache ← field fs "cache" 2 {} r.cache?
  some { server, logging, cache }

end SettingsReader

end TwoTier
