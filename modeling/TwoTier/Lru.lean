/-
The local tier: a map of bounded size in which every entry has a deadline. Entries are listed by
recency, the most recently used first. A read or a write of a key moves it to the front; when the
map is full and a new key arrives, the entry at the back makes room. Entries that are past their
deadline stay resident until a read, a purge or an eviction drops them, and count towards the size.
-/
import TwoTier.Error
import TwoTier.Ledger

namespace TwoTier

/-- A value together with the instant from which it is gone. -/
structure Entry (α : Type) where
  value : α
  deadline : Nat
deriving Repr, DecidableEq

/-- An entry written at `now`. -/
def Entry.written {α : Type} (now : Nat) (value : α) (ttl : Nat) : Entry α := ⟨value, TwoTier.deadline now ttl⟩

def Entry.isExpired {α : Type} (e : Entry α) (now : Nat) : Bool := TwoTier.isExpired e.deadline now

/-- What the local tier has counted since it was made. -/
structure LruCounts where
  hits : Nat := 0
  misses : Nat := 0
  sets : Nat := 0
  deletes : Nat := 0
  /-- Entries dropped to make room for a new key. -/
  evictions : Nat := 0
  /-- Entries dropped because they were past their deadline. -/
  expirations : Nat := 0
deriving Repr, DecidableEq

/-- The local tier. -/
structure Lru (α : Type) where
  capacity : Nat
  defaultTtl : Nat
  /-- Resident entries, the most recently used first. -/
  entries : List (String × Entry α) := []
  counts : LruCounts := {}
  capacity_pos : 0 < capacity := by omega
  defaultTtl_pos : 0 < defaultTtl := by omega
  /-- Each key is resident once. -/
  keys_nodup : (entries.map Prod.fst).Nodup := by simp
  size_le : entries.length ≤ capacity := by simp

namespace Lru

variable {α : Type}

/-- Why a local tier cannot be made. -/
inductive Refusal where
  | noCapacity
  | noTtl
deriving Repr, DecidableEq

def Refusal.error : Refusal → CacheError
  | .noCapacity => .invalidConfig "local cache max_size must be > 0"
  | .noTtl => .invalidConfig "local cache default TTL must be > 0"

/-- An empty tier; both the capacity and the default time to live are positive. -/
def make (capacity defaultTtl : Nat) : Except Refusal (Lru α) :=
  if hc : capacity = 0 then .error .noCapacity
  else if ht : defaultTtl = 0 then .error .noTtl
  else .ok { capacity, defaultTtl }

/-- The entry of a key, whether expired or not. -/
def find? (c : Lru α) (key : String) : Option (Entry α) := c.entries.lookup key

/-- Only the entries that meet a condition. -/
def keep (c : Lru α) (p : String × Entry α → Bool) : Lru α :=
  { c with
    entries := c.entries.filter p
    keys_nodup := c.keys_nodup.sublist (List.filter_sublist.map _)
    size_le := Nat.le_trans (List.length_filter_le ..) c.size_le }

/-- The entries without the one of `key`. -/
def without (key : String) (entries : List (String × Entry α)) : List (String × Entry α) :=
  entries.filter fun e => e.1 != key

theorem nodup_cons_without (c : Lru α) (key : String) (e : Entry α) :
    (((key, e) :: without key c.entries).map Prod.fst).Nodup := by
  rw [List.map_cons, List.nodup_cons]
  refine ⟨?_, c.keys_nodup.sublist (List.filter_sublist.map _)⟩
  simp [without]

/-- A resident key leaves a place. -/
theorem length_without_lt (c : Lru α) {key : String} (h : (c.find? key).isSome) :
    (without key c.entries).length < c.entries.length := by
  rw [without, List.length_filter_lt_length_iff_exists]
  obtain ⟨e, he⟩ := Option.isSome_iff_exists.1 h
  obtain ⟨l, r, hl, -⟩ := List.lookup_eq_some_iff.1 he
  exact ⟨(key, e), by simp [hl], by simp⟩

def size (c : Lru α) : Nat := c.entries.length

def isEmpty (c : Lru α) : Bool := c.entries.isEmpty

/-- Whether a key holds an entry that is not expired. Nothing is counted and nothing moves. -/
def contains (c : Lru α) (now : Nat) (key : String) : Bool :=
  match c.find? key with
  | some e => !e.isExpired now
  | none => false

/-- Read a key. A live entry moves to the front and an expired one is dropped. -/
def get (c : Lru α) (now : Nat) (key : String) : Option α × Lru α :=
  match h : c.find? key with
  | none => (none, { c with counts.misses := c.counts.misses + 1 })
  | some e =>
    if e.isExpired now then
      (none, { c.keep (·.1 != key) with
        counts.misses := c.counts.misses + 1
        counts.expirations := c.counts.expirations + 1 })
    else
      (some e.value, { c with
        entries := (key, e) :: without key c.entries
        counts.hits := c.counts.hits + 1
        keys_nodup := c.nodup_cons_without key e
        size_le := Nat.le_trans (c.length_without_lt (Option.isSome_of_eq_some h)) c.size_le })

theorem nodup_cons_dropLast (c : Lru α) {key : String} (h : c.find? key = none) (e : Entry α) :
    (((key, e) :: c.entries.dropLast).map Prod.fst).Nodup := by
  rw [List.map_cons, List.nodup_cons]
  refine ⟨fun hmem => ?_, c.keys_nodup.sublist ((List.dropLast_sublist _).map _)⟩
  obtain ⟨x, hx, rfl⟩ := List.mem_map.1 hmem
  have := List.lookup_eq_none_iff.1 h x ((List.dropLast_sublist _).subset hx)
  simp at this

theorem length_cons_dropLast_le (c : Lru α) (x : String × Entry α) : (x :: c.entries.dropLast).length ≤ c.capacity := by
  have := c.size_le
  have := c.capacity_pos
  rw [List.length_cons, List.length_dropLast]
  omega

/-- A key that is resident, or arrives while there is room, needs no other's place. -/
theorem length_cons_without_le (c : Lru α) {key : String} (h : ¬(c.find? key = none ∧ c.capacity ≤ c.size))
    (e : Entry α) : ((key, e) :: without key c.entries).length ≤ c.capacity := by
  cases hf : c.find? key with
  | none =>
    have : (without key c.entries).length ≤ c.size := List.length_filter_le ..
    rw [List.length_cons]
    have : ¬ c.capacity ≤ c.size := fun hc => h ⟨hf, hc⟩
    omega
  | some _ =>
    have := c.length_without_lt (Option.isSome_of_eq_some hf)
    exact Nat.le_trans this c.size_le

/-- Write a key and tell whether another entry made room for it. Only a key that is not resident
can drive one out, and only when the tier is full. -/
def set (c : Lru α) (now : Nat) (key : String) (value : α) (ttl : Option Nat) : Bool × Lru α :=
  let entry := Entry.written now value (ttl.getD c.defaultTtl)
  if h : c.find? key = none ∧ c.capacity ≤ c.size then
    (true, { c with
      entries := (key, entry) :: c.entries.dropLast
      counts.sets := c.counts.sets + 1
      counts.evictions := c.counts.evictions + 1
      keys_nodup := c.nodup_cons_dropLast h.1 entry
      size_le := c.length_cons_dropLast_le (key, entry) })
  else
    (false, { c with
      entries := (key, entry) :: without key c.entries
      counts.sets := c.counts.sets + 1
      keys_nodup := c.nodup_cons_without key entry
      size_le := c.length_cons_without_le h entry })

/-- Remove a key and tell whether it was resident. -/
def delete (c : Lru α) (key : String) : Bool × Lru α :=
  if (c.find? key).isSome then
    (true, { c.keep (·.1 != key) with counts.deletes := c.counts.deletes + 1 })
  else (false, c)

/-- Remove everything. Nothing is counted. -/
def clear (c : Lru α) : Lru α := { c with entries := [], keys_nodup := .nil, size_le := Nat.zero_le _ }

/-- Drop every expired entry and tell how many there were. The others keep their order. -/
def purge (c : Lru α) (now : Nat) : Nat × Lru α :=
  let dropped := (c.entries.filter fun e => e.2.isExpired now).length
  (dropped, { c.keep (!·.2.isExpired now) with counts.expirations := c.counts.expirations + dropped })

end Lru

/-- The figures of a local tier, as a reader sees them. -/
structure LocalStats where
  size : Nat
  capacity : Nat
  hits : Nat
  misses : Nat
  sets : Nat
  deletes : Nat
  evictions : Nat
  expirations : Nat
deriving Repr, DecidableEq

/-- Share of reads that hit. -/
def LocalStats.hitRate (s : LocalStats) : Double := TwoTier.hitRate s.hits s.misses

def Lru.stats {α : Type} (c : Lru α) : LocalStats where
  size := c.size
  capacity := c.capacity
  hits := shown c.counts.hits
  misses := shown c.counts.misses
  sets := shown c.counts.sets
  deletes := shown c.counts.deletes
  evictions := shown c.counts.evictions
  expirations := shown c.counts.expirations

end TwoTier
