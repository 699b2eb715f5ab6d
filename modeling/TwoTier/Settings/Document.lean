/-
Settings given as JSON values. Nothing is converted: a number is an integer in range, and null
stands only for an option that is absent.
-/
import TwoTier.Json
import TwoTier.Settings.Reader

namespace TwoTier

/-- Settings from JSON, as strict as the types are. -/
def SettingsReader.json : SettingsReader Json where
  nat? bound
    | .int i => if 0 ≤ i ∧ i ≤ bound then some i.toNat else none
    | _ => none
  bool?
    | .bool b => some b
    | _ => none
  text?
    | .str s => some s
    | _ => none
  isAbsent
    | .null => true
    | _ => false
  fields?
    | .obj members => some (.named members)
    | .arr items => some (.inOrder items)
    | _ => none
  surplus := false

def CacheSettings.ofJson? (j : Json) : Option CacheSettings := SettingsReader.json.cache? j

def RemoteSettings.ofJson? (j : Json) : Option RemoteSettings := SettingsReader.json.remote? j

def AppSettings.ofJson? (j : Json) : Option AppSettings := SettingsReader.json.app? j

/-! ## Back to JSON -/

def RemoteSettings.toJson (s : RemoteSettings) : Json := Json.object [
  ("enabled", .bool s.enabled), ("url", .str s.url), ("pool_size", .nat s.poolSize),
  ("timeout_ms", .nat s.timeoutMs), ("retry_attempts", .nat s.retryAttempts),
  ("retry_backoff_ms", .nat s.retryBackoffMs), ("max_backoff_ms", .nat s.maxBackoffMs),
  ("invalidation_channel", Json.ofOption .str s.invalidationChannel)]

def CacheSettings.toJson (s : CacheSettings) : Json := Json.object [
  ("max_size", .nat s.maxSize), ("default_ttl_secs", .nat s.defaultTtlSecs), ("namespace", .str s.keyspace),
  ("coalesce_fetches", .bool s.coalesceFetches), ("remote", s.remote.toJson)]

def AppSettings.toJson (s : AppSettings) : Json := Json.object [
  ("server", Json.object [("host", .str s.server.host), ("port", .nat s.server.port),
    ("maintenance_interval_secs", .nat s.server.maintenanceIntervalSecs)]),
  ("logging", Json.object [("level", .str s.logging.level)]),
  ("cache", s.cache.toJson)]

end TwoTier
