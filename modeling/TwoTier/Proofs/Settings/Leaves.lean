/-
The settings one by one: where each stands in a tree, what it may be, and what it is for a server. Settings that were
read from a tree have for each what stands in its place, and the default of it where nothing stands there.
-/
import Mathlib.Data.Fintype.OfMap
import TwoTier.Proofs.Settings.Layers

namespace TwoTier

/-- A single setting. -/
inductive Setting where
  | host | port | maintenanceIntervalSecs
  | level
  | maxSize | defaultTtlSecs | keyspace | coalesceFetches
  | enabled | url | poolSize | timeoutMs | retryAttempts | retryBackoffMs | maxBackoffMs | invalidationChannel
deriving DecidableEq

namespace Setting

instance : Fintype Setting :=
  .ofList [.host, .port, .maintenanceIntervalSecs, .level, .maxSize, .defaultTtlSecs, .keyspace, .coalesceFetches,
    .enabled, .url, .poolSize, .timeoutMs, .retryAttempts, .retryBackoffMs, .maxBackoffMs, .invalidationChannel]
    (by intro s; cases s <;> decide)

/-- What a setting can be. -/
inductive Kind where
  /-- A number up to a bound. -/
  | number (bound : Nat)
  | truth
  | text
  /-- A text that can be missing. -/
  | option

/-- What a setting is. -/
inductive Value where
  | number (n : Nat)
  | truth (b : Bool)
  | text (t : String)
  | option (t : Option String)
deriving DecidableEq

/-- The tables that lead to a setting. -/
def tables : Setting → List String
  | .host | .port | .maintenanceIntervalSecs => ["server"]
  | .level => ["logging"]
  | .maxSize | .defaultTtlSecs | .keyspace | .coalesceFetches => ["cache"]
  | .enabled | .url | .poolSize | .timeoutMs | .retryAttempts | .retryBackoffMs | .maxBackoffMs
  | .invalidationChannel => ["cache", "remote"]

def key : Setting → String
  | .host => "host"
  | .port => "port"
  | .maintenanceIntervalSecs => "maintenance_interval_secs"
  | .level => "level"
  | .maxSize => "max_size"
  | .defaultTtlSecs => "default_ttl_secs"
  | .keyspace => "namespace"
  | .coalesceFetches => "coalesce_fetches"
  | .enabled => "enabled"
  | .url => "url"
  | .poolSize => "pool_size"
  | .timeoutMs => "timeout_ms"
  | .retryAttempts => "retry_attempts"
  | .retryBackoffMs => "retry_backoff_ms"
  | .maxBackoffMs => "max_backoff_ms"
  | .invalidationChannel => "invalidation_channel"

def path (s : Setting) : List String := s.tables ++ [s.key]

def kind : Setting → Kind
  | .port => .number maxNat16
  | .retryAttempts => .number maxNat32
  | .maintenanceIntervalSecs | .maxSize | .defaultTtlSecs | .poolSize | .timeoutMs | .retryBackoffMs
  | .maxBackoffMs => .number maxNat64
  | .coalesceFetches | .enabled => .truth
  | .host | .level | .keyspace | .url => .text
  | .invalidationChannel => .option

/-- What a setting is for a server. -/
def of (r : AppSettings) : Setting → Value
  | .host => .text r.server.host
  | .port => .number r.server.port
  | .maintenanceIntervalSecs => .number r.server.maintenanceIntervalSecs
  | .level => .text r.logging.level
  | .maxSize => .number r.cache.maxSize
  | .defaultTtlSecs => .number r.cache.defaultTtlSecs
  | .keyspace => .text r.cache.keyspace
  | .coalesceFetches => .truth r.cache.coalesceFetches
  | .enabled => .truth r.cache.remote.enabled
  | .url => .text r.cache.remote.url
  | .poolSize => .number r.cache.remote.poolSize
  | .timeoutMs => .number r.cache.remote.timeoutMs
  | .retryAttempts => .number r.cache.remote.retryAttempts
  | .retryBackoffMs => .number r.cache.remote.retryBackoffMs
  | .maxBackoffMs => .number r.cache.remote.maxBackoffMs
  | .invalidationChannel => .option r.cache.remote.invalidationChannel

def default (s : Setting) : Value := s.of {}

/-- A value taken for a setting, converted if need be. -/
def read? (s : Setting) (t : Tree) : Option Value :=
  match s.kind with
  | .number bound => (SettingsReader.tree.nat? bound t).map .number
  | .truth => t.bool?.map .truth
  | .text => t.text?.map .text
  | .option => (SettingsReader.tree.optionalText? t).map .option

/-- A value that is of the type of a setting already. -/
def typed? (s : Setting) (t : Tree) : Option Value :=
  match s.kind, t with
  | .number _, .int i => if 0 ≤ i then some (.number i.toNat) else none
  | .truth, .bool b => some (.truth b)
  | .text, .text t => some (.text t)
  | .option, .text t => some (.option (some t))
  | _, _ => none

/-- What is taken for a setting from what stands in its place. -/
def taken? (s : Setting) (o : Option Tree) : Option Value := o.elim (some s.default) s.read?

end Setting

/-- The tables in which settings stand. -/
def Tree.places : List (List String) := [[], ["server"], ["logging"], ["cache"], ["cache", "remote"]]

/-- Whether what stands in the place of a table of settings is a table. -/
def Tree.Sectioned (t : Tree) : Prop := ∀ q ∈ Tree.places, t.TableAt q

namespace Setting

theorem tables_eq (s : Setting) :
    s.tables = ["server"] ∨ s.tables = ["logging"] ∨ s.tables = ["cache"] ∨ s.tables = ["cache", "remote"] := by
  revert s
  decide

/-- No setting stands in the place of another. -/
theorem apart_path {s s' : Setting} (h : s ≠ s') : Tree.Apart s.path s'.path := by
  revert s s'
  unfold Tree.Apart
  decide +kernel

theorem path_of_place (s : Setting) {q : List String} (hq : q ∈ Tree.places) :
    q <+: s.path ∧ q ≠ s.path ∨ Tree.Apart s.path q := by
  revert s q
  unfold Tree.Apart
  decide +kernel

/-- A value of the right type is taken as it is. -/
theorem read?_of_typed? {s : Setting} {t : Tree} {v w : Value} (ht : s.typed? t = some v) (hr : s.read? t = some w) :
    w = v := by
  -- a typed value has the constructor of its kind, and the reading of that kind takes it unchanged
  unfold typed? at ht
  split at ht
  · rename_i bound i hk
    split at ht
    · rename_i hi
      cases ht
      simp only [read?, hk, SettingsReader.tree, Tree.nat?, if_pos hi] at hr
      obtain ⟨n, hn, rfl⟩ := Option.map_eq_some_iff.mp hr
      obtain ⟨hn, -⟩ := Option.filter_eq_some_iff.mp hn
      cases hn
      rfl
    · cases ht
  · rename_i b hk
    cases ht
    simpa [read?, hk, Tree.bool?] using hr.symm
  · rename_i x hk
    cases ht
    simpa [read?, hk, Tree.text?] using hr.symm
  · rename_i x hk
    cases ht
    simpa [read?, hk, SettingsReader.tree, SettingsReader.optionalText?, Tree.text?] using hr.symm
  · cases ht

/-! ## Records -/

section Records

variable {α : Type} {ms : List (String × Tree)}

/-- A field of a table is what stands under its name, read, and its default where nothing stands there. -/
theorem field_named {name : String} {position : Nat} {d : α} {f : Tree → Option α} :
    SettingsReader.field (.named ms) name position d f = (ms.lookup name).elim (some d) f := by
  simp only [SettingsReader.field, SettingsReader.find?]
  cases ms.lookup name <;> rfl

theorem taken_of_field {name : String} {position : Nat} {d a : α} {f : Tree → Option α} (C : α → Value)
    (h : SettingsReader.field (.named ms) name position d f = some a) :
    (ms.lookup name).elim (some (C d)) (fun t => (f t).map C) = some (C a) := by
  rw [field_named] at h
  cases hm : ms.lookup name with
  | none =>
    rw [hm] at h
    cases h
    rfl
  | some v =>
    rw [hm, Option.elim_some] at h
    rw [Option.elim_some, h, Option.map_some]

/-- A record for which nothing is given is read like one without fields. -/
theorem record_of_field {name : String} {position : Nat} {d a : α} {f : Tree → Option α}
    (h : SettingsReader.field (.named ms) name position d f = some a) (hd : f (.table []) = some d)
    (htable : ∀ v, ms.lookup name = some v → ∃ inner, v = .table inner) : f (.table (Tree.inside name ms)) = some a := by
  unfold Tree.inside
  rw [field_named] at h
  cases hm : ms.lookup name with
  | none =>
    rw [hm] at h
    cases h
    exact hd
  | some v =>
    obtain ⟨inner, rfl⟩ := htable v hm
    rwa [hm] at h

end Records

/-! ## The settings of a server -/

section Server

variable {r : AppSettings} {ms : List (String × Tree)} {s : Setting}

theorem server?_lookup (h : SettingsReader.tree.server? (.table ms) = some r.server) (hs : s.tables = ["server"]) :
    s.taken? (ms.lookup s.key) = some (s.of r) := by
  obtain ⟨server, logging, cache⟩ := r
  obtain ⟨fs, hfs, host, hhost, port, hport, secs, hsecs, hr⟩ : ∃ fs, _ ∧ _ := by
    simpa only [SettingsReader.server?, Option.bind_eq_bind, Option.bind_eq_some_iff] using h
  cases hfs
  cases hr
  cases s with
  | host => exact taken_of_field .text hhost
  | port => exact taken_of_field .number hport
  | maintenanceIntervalSecs => exact taken_of_field .number hsecs
  | _ => exact absurd hs (by decide)

theorem logging?_lookup (h : SettingsReader.tree.logging? (.table ms) = some r.logging) (hs : s.tables = ["logging"]) :
    s.taken? (ms.lookup s.key) = some (s.of r) := by
  obtain ⟨server, logging, cache⟩ := r
  obtain ⟨fs, hfs, level, hlevel, hr⟩ : ∃ fs, _ ∧ _ := by
    simpa only [SettingsReader.logging?, Option.bind_eq_bind, Option.bind_eq_some_iff] using h
  cases hfs
  cases hr
  cases s with
  | level => exact taken_of_field .text hlevel
  | _ => exact absurd hs (by decide)

theorem cache?_lookup (h : SettingsReader.tree.cache? (.table ms) = some r.cache) (hs : s.tables = ["cache"]) :
    s.taken? (ms.lookup s.key) = some (s.of r) := by
  obtain ⟨server, logging, cache⟩ := r
  obtain ⟨fs, hfs, size, hsize, ttl, httl, keyspace, hkeyspace, coalesce, hcoalesce, remote, -, hr⟩ : ∃ fs, _ ∧ _ := by
    simpa only [SettingsReader.cache?, Option.bind_eq_bind, Option.bind_eq_some_iff] using h
  cases hfs
  cases hr
  cases s with
  | maxSize => exact taken_of_field .number hsize
  | defaultTtlSecs => exact taken_of_field .number httl
  | keyspace => exact taken_of_field .text hkeyspace
  | coalesceFetches => exact taken_of_field .truth hcoalesce
  | _ => exact absurd hs (by decide)

theorem remote?_lookup (h : SettingsReader.tree.remote? (.table ms) = some r.cache.remote)
    (hs : s.tables = ["cache", "remote"]) : s.taken? (ms.lookup s.key) = some (s.of r) := by
  obtain ⟨server, logging, ⟨size, ttl, keyspace, coalesce, remote⟩⟩ := r
  obtain ⟨fs, hfs, enabled, henabled, url, hurl, pool, hpool, timeout, htimeout, attempts, hattempts, first, hfirst,
      most, hmost, channel, hchannel, hr⟩ : ∃ fs, _ ∧ _ := by
    simpa only [SettingsReader.remote?, Option.bind_eq_bind, Option.bind_eq_some_iff] using h
  cases hfs
  cases hr
  cases s with
  | enabled => exact taken_of_field .truth henabled
  | url => exact taken_of_field .text hurl
  | poolSize => exact taken_of_field .number hpool
  | timeoutMs => exact taken_of_field .number htimeout
  | retryAttempts => exact taken_of_field .number hattempts
  | retryBackoffMs => exact taken_of_field .number hfirst
  | maxBackoffMs => exact taken_of_field .number hmost
  | invalidationChannel => exact taken_of_field .option hchannel
  | _ => exact absurd hs (by decide)

theorem cache?_remote {c : CacheSettings} (h : SettingsReader.tree.cache? (.table ms) = some c)
    (htable : ∀ v, ms.lookup "remote" = some v → ∃ inner, v = .table inner) :
    SettingsReader.tree.remote? (.table (Tree.inside "remote" ms)) = some c.remote := by
  obtain ⟨fs, hfs, size, -, ttl, -, keyspace, -, coalesce, -, remote, hremote, hr⟩ : ∃ fs, _ ∧ _ := by
    simpa only [SettingsReader.cache?, Option.bind_eq_bind, Option.bind_eq_some_iff] using h
  cases hfs
  cases hr
  exact record_of_field hremote rfl htable

/-- Settings that were read have for each what stands in its place, or its default. -/
theorem taken_of_app? {t : Tree} (ht : t.Sectioned) (h : SettingsReader.tree.app? t = some r) (s : Setting) :
    s.taken? (t.at? s.path) = some (s.of r) := by
  obtain ⟨ms, rfl⟩ := ht [] (by decide) t rfl
  have htable (name : String) (hname : [name] ∈ Tree.places) (v : Tree) (hv : ms.lookup name = some v) :
      ∃ inner, v = .table inner := ht [name] hname v (by rwa [Tree.at?_singleton])
  obtain ⟨fs, hfs, server, hserver, logging, hlogging, cache, hcache, hr⟩ : ∃ fs, _ ∧ _ := by
    simpa only [SettingsReader.app?, Option.bind_eq_bind, Option.bind_eq_some_iff] using h
  cases hfs
  cases hr
  have hserver := record_of_field hserver rfl (htable "server" (by decide))
  have hlogging := record_of_field hlogging rfl (htable "logging" (by decide))
  have hcache := record_of_field hcache rfl (htable "cache" (by decide))
  have hremote := cache?_remote hcache fun v hv => ht ["cache", "remote"] (by decide) v (by
    rwa [Tree.at?_inside, Tree.at?_singleton])
  rcases tables_eq s with hs | hs | hs | hs <;>
    simp only [path, hs, List.cons_append, List.nil_append, Tree.at?_inside, Tree.at?_singleton]
  · exact server?_lookup hserver hs
  · exact logging?_lookup hlogging hs
  · exact cache?_lookup hcache hs
  · exact remote?_lookup hremote hs

end Server

end Setting

end TwoTier
