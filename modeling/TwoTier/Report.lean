/-
Figures as JSON, the way operators get them.
-/
import TwoTier.Call

namespace TwoTier

def LocalStats.toJson (s : LocalStats) : Json := Json.object [
  ("size", .nat s.size), ("capacity", .nat s.capacity), ("hits", .nat s.hits), ("misses", .nat s.misses),
  ("sets", .nat s.sets), ("deletes", .nat s.deletes), ("evictions", .nat s.evictions),
  ("expirations", .nat s.expirations)]

def RemoteStats.toJson (s : RemoteStats) : Json := Json.object [
  ("backend", .str s.backend), ("connected", .bool s.connected),
  ("approximate_memory_used", Json.ofOption .nat s.info.usedMemory),
  ("client_count", Json.ofOption .nat s.info.connectedClients), ("errors", .nat s.errors)]

def RemoteHealth.toJson (h : RemoteHealth) : Json := Json.object [
  ("connected", .bool h.connected), ("reachable", .bool h.reachable), ("latency_ms", Json.ofOption .nat h.latency)]

def HealthReport.toJson (h : HealthReport) : Json := Json.object [
  ("healthy", .bool h.healthy), ("remote", h.remote.toJson), ("local_size", .nat h.localSize)]

def TierCounts.toJson (c : TierCounts) : Json := Json.object [
  ("hits", .nat c.hits), ("misses", .nat c.misses), ("sets", .nat c.sets), ("deletes", .nat c.deletes),
  ("evictions", .nat c.evictions), ("errors", .nat c.errors)]

/-- The time of all lookups is not part of it. -/
def Snapshot.toJson (s : Snapshot) : Json := Json.object [
  ("l1", s.l1.toJson), ("l2", s.l2.toJson), ("total_requests", .nat s.totalRequests),
  ("cache_hits", .nat s.cacheHits), ("cache_misses", .nat s.cacheMisses), ("fetches", .nat s.fetches),
  ("fetch_errors", .nat s.fetchErrors)]

def Summary.toJson (s : Summary) : Json := Json.object [
  ("totalRequests", .nat s.totalRequests), ("cacheHits", .nat s.cacheHits), ("cacheMisses", .nat s.cacheMisses),
  ("hitRate", .float s.hitRate), ("avgResponseTimeMs", .float s.averageMillis),
  ("localCacheSize", .nat s.localSize), ("remoteConnected", .bool s.remoteConnected)]

def CacheStats.toJson (s : CacheStats) : Json := Json.object [
  ("local", s.localTier.toJson), ("remote", s.remoteTier.toJson), ("tiers", s.books.toJson)]

end TwoTier
