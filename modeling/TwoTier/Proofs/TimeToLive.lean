/-
What a time to live means in the stores. An instant has a greatest value, so a deadline is a sum that may be out of
reach; wherever a hundred years from now are within reach it never is. Then the local tier and the store in memory
show what was written at exactly the instants before the same deadline, and a Redis server is told the same time in
whole milliseconds, rounded down but at least one.
-/
import TwoTier.Proofs.Lru.Residence
import TwoTier.Proofs.PagedDeletion
import TwoTier.Proofs.Store.Contents

namespace TwoTier

/-! ## Deadlines within reach -/

/-- The sum of an instant and a duration, if no instant after `horizon` can be told. -/
def sumWithin (horizon now d : Nat) : Option Nat := if now + d ≤ horizon then some (now + d) else none

/-- The deadline of something written at `now`, as far as instants reach: with a time to live that leads too far it
is a year from now, and if that is too far as well it is now. -/
def deadlineWithin (horizon now ttl : Nat) : Nat :=
  ((sumWithin horizon now (min ttl maxTtl)).or (sumWithin horizon now (seconds (365 * 24 * 60 * 60)))).getD now

theorem sumWithin_eq_some {horizon now d : Nat} (h : now + d ≤ horizon) : sumWithin horizon now d = some (now + d) :=
  if_pos h

/-- No time to live leads further than the longest one that is honoured. -/
theorem deadline_le (now ttl : Nat) : deadline now ttl ≤ now + maxTtl :=
  Nat.add_le_add_left (Nat.min_le_right ttl maxTtl) now

theorem deadlineWithin_eq {horizon now : Nat} (h : now + maxTtl ≤ horizon) (ttl : Nat) :
    deadlineWithin horizon now ttl = deadline now ttl := by
  have hreach : now + min ttl maxTtl ≤ horizon := (deadline_le now ttl).trans h
  rw [deadlineWithin, sumWithin_eq_some hreach]
  rfl

/-! ## The local tier -/

namespace Lru

variable {α : Type} {c : Lru α} {key : String} {v : α} {d : Nat}

/-- A key is resident with a value that is seen before `d`; from then on it is expired. -/
structure SeenUntil (c : Lru α) (key : String) (v : α) (d : Nat) : Prop where
  resident : c.find? key = some ⟨v, d⟩
  contains (t : Nat) : c.contains t key = decide (t < d)
  get (t : Nat) : (c.get t key).1 = if t < d then some v else none
  purge (t : Nat) : (c.purge t).2.find? key = if t < d then some ⟨v, d⟩ else none

theorem seenUntil_of_find? (h : c.find? key = some ⟨v, d⟩) : c.SeenUntil key v d := by
  have hlive (t : Nat) : (!(Entry.mk v d).isExpired t) = decide (t < d) := by
    simp only [Entry.isExpired, isExpired, ← decide_not, Nat.not_le]
  refine ⟨h, fun t => ?_, fun t => ?_, fun t => ?_⟩
  · rw [contains, h]
    exact hlive t
  · rw [get_fst, live?, h, Option.filter_some, hlive]
    by_cases ht : t < d <;> simp [ht]
  · rw [find?_purge, h, Option.filter_some, hlive]
    by_cases ht : t < d <;> simp [ht]

/-- A write, whatever its time to live and whether that is named or the default. -/
theorem seenUntil_set (c : Lru α) (now : Nat) (key : String) (v : α) (ttl : Option Nat) :
    (c.set now key v ttl).2.SeenUntil key v (deadline now (ttl.getD c.defaultTtl)) :=
  seenUntil_of_find? (find?_set_self c now key v ttl)

end Lru

/-! ## The store in memory -/

namespace Store

variable {s : Store} {key : String} {data : Bytes} {d : Nat}

/-- A key holds bytes that every answer of the store shows before `d`; from then on none does. -/
structure SeenUntil (s : Store) (key : String) (data : Bytes) (d : Nat) : Prop where
  held : s.find? key = some ⟨data, some d⟩
  contains (t : Nat) : s.contains t key = decide (t < d)
  get (t : Nat) : (s.serve t (.get key)).1 = .ok (if t < d then some data else none)
  delete (t : Nat) : (s.serve t (.delete key)).1 = .ok (decide (t < d))

theorem seenUntil_of_find? (ha : s.available = true) (h : s.find? key = some ⟨data, some d⟩) :
    s.SeenUntil key data d := by
  have hlive (t : Nat) : (!(Stored.mk data (some d)).isExpired t) = decide (t < d) := by
    show (!decide (d ≤ t)) = _
    simp only [← decide_not, Nat.not_le]
  have hcontains (t : Nat) : s.contains t key = decide (t < d) := by
    rw [contains, live?, h, Option.filter_some, hlive]
    by_cases ht : t < d <;> simp [ht]
  refine ⟨h, hcontains, fun t => ?_, fun t => ?_⟩
  · rw [serve_available ha rfl]
    show Except.ok (s.read t key).1 = _
    rw [read_fst, live?, h, Option.filter_some, hlive]
    by_cases ht : t < d <;> simp [ht]
  · rw [serve_available ha rfl]
    exact congrArg Except.ok (hcontains t)

/-- A write that the store takes. -/
theorem seenUntil_set (ha : s.available = true) (now ttl : Nat) (key : String) (data : Bytes) :
    (s.serve now (.set key data (some ttl))).1 = .ok () ∧
      (s.serve now (.set key data (some ttl))).2.SeenUntil key data (deadline now ttl) := by
  rw [serve_set ha]
  exact ⟨rfl, seenUntil_of_find? ha (find?_put.trans (if_pos rfl))⟩

end Store

/-! ## The store on a Redis server -/

namespace Redis.Client

/-- The longest time to live fits in 64 bits of milliseconds with room to spare. -/
theorem wholeMillis_maxTtl_le : wholeMillis maxTtl ≤ maxNat64 := by decide

theorem wholeMillis_min_le (ttl : Nat) : wholeMillis (min ttl maxTtl) ≤ wholeMillis maxTtl :=
  Nat.div_le_div_right (Nat.min_le_right ttl maxTtl)

/-- The narrowing to 64 bits takes nothing away. -/
theorem ttlMillis_eq (ttl : Nat) : ttlMillis ttl = max (millis64 (min ttl maxTtl)) 1 := by
  rw [ttlMillis, millis64, Nat.min_eq_left ((wholeMillis_min_le ttl).trans wholeMillis_maxTtl_le)]

theorem one_le_ttlMillis (ttl : Nat) : 1 ≤ ttlMillis ttl := Nat.le_max_right _ 1

theorem ttlMillis_le (ttl : Nat) : ttlMillis ttl ≤ wholeMillis maxTtl :=
  Nat.max_le.mpr ⟨wholeMillis_min_le ttl, by decide⟩

theorem ttlMillis_mono {a b : Nat} (h : a ≤ b) : ttlMillis a ≤ ttlMillis b :=
  max_le_max_right 1 (Nat.div_le_div_right (min_le_min_right maxTtl h))

/-- Rounding down does not outlive the time to live; only rounding up to one millisecond does. -/
theorem millis_ttlMillis_le_iff (ttl : Nat) : millis (ttlMillis ttl) ≤ min ttl maxTtl ↔ perMilli ≤ ttl := by
  have hpos : perMilli ≤ maxTtl := by decide
  constructor
  · intro h
    have hone : millis 1 ≤ millis (ttlMillis ttl) := Nat.mul_le_mul_left perMilli (one_le_ttlMillis ttl)
    exact (hone.trans h).trans (Nat.min_le_left ttl maxTtl)
  · intro h
    have hwhole : 1 ≤ wholeMillis (min ttl maxTtl) :=
      (Nat.one_le_div_iff (by decide)).mpr (Nat.le_min.mpr ⟨h, hpos⟩)
    rw [ttlMillis, Nat.max_eq_left hwhole]
    exact millis_wholeMillis_le _

/-- The server is sent one command that writes the key for so many milliseconds. -/
theorem serve_set {c : Client} (hc : c.connected = true) (hl : c.server.listening = true) (key : String) (data : Bytes)
    (ttl : Nat) : (c.serve (.set key data (some ttl))).2.server =
      c.server.told [.text "PSETEX", .text key, .text (toString (ttlMillis ttl)), .data data] := by
  show (if c.connected then c.reach (.set key data (some ttl)) else (.error .disconnected, c)).2.server = _
  rw [if_pos hc, reach, if_pos hl]
  have hask := c.server.ask_eq (write key data (some ttl)) (fun _ => some ())
  show (c.server.ask (write key data (some ttl)) fun _ => some ()).2 = _
  split at hask
  · rw [hask]
    rfl
  · obtain ⟨f, hf⟩ := hask
    rw [hf]
    rfl

end Redis.Client

/-! ## One meaning -/

open Redis.Client (ttlMillis)

variable {α : Type} {horizon now : Nat}

/-- What a write at `now` for `ttl` comes to in the local tier and in the store in memory, with `d` as its deadline. -/
structure LivesUntil (α : Type) (now ttl d : Nat) : Prop where
  /-- In the local tier, where the time to live may also be its default. -/
  tier (c : Lru α) (key : String) (v : α) (o : Option Nat) :
    o.getD c.defaultTtl = ttl → (c.set now key v o).2.SeenUntil key v d
  store (s : Store) (key : String) (data : Bytes) : s.available = true →
    (s.serve now (.set key data (some ttl))).1 = .ok () ∧
      (s.serve now (.set key data (some ttl))).2.SeenUntil key data d
  /-- With a longer time to live it is seen at least as long. -/
  tier_longer (c : Lru α) (key : String) (v : α) (longer t : Nat) : ttl ≤ longer →
    (c.set now key v (some ttl)).2.contains t key = true → (c.set now key v (some longer)).2.contains t key = true
  store_longer (s : Store) (key : String) (data : Bytes) (longer t : Nat) : s.available = true → ttl ≤ longer →
    (s.serve now (.set key data (some ttl))).2.contains t key = true →
      (s.serve now (.set key data (some longer))).2.contains t key = true

theorem seen_of_le {t d d' : Nat} (hle : d ≤ d') (hseen : decide (t < d) = true) : decide (t < d') = true :=
  decide_eq_true ((of_decide_eq_true hseen).trans_le hle)

theorem livesUntil_deadline (now ttl : Nat) : LivesUntil α now ttl (deadline now ttl) where
  tier c key v o ho := ho ▸ c.seenUntil_set now key v o
  store _ key data ha := Store.seenUntil_set ha now ttl key data
  tier_longer c key v _ _ hle := by
    rw [(c.seenUntil_set now key v (some ttl)).contains, (c.seenUntil_set now key v _).contains]
    exact seen_of_le (deadline_mono now hle)
  store_longer _ key data _ _ ha hle := by
    rw [(Store.seenUntil_set ha now ttl key data).2.contains, (Store.seenUntil_set ha now _ key data).2.contains]
    exact seen_of_le (deadline_mono now hle)

/-- What a Redis server is told about a key that is written for `ttl`: one command with a number of milliseconds
between one and those of the longest time to live. Counted from `now` they end by the deadline `d` of the other
stores, unless the time to live is shorter than a millisecond. -/
structure ToldMillis (now ttl d m : Nat) : Prop where
  sent (c : Redis.Client) (key : String) (data : Bytes) : c.connected = true → c.server.listening = true →
    (c.serve (.set key data (some ttl))).2.server.sent =
      c.server.sent ++ [[.text "PSETEX", .text key, .text (toString m), .data data]]
  millis_eq : m = max 1 (min ttl maxTtl / perMilli)
  /-- Nothing is lost where the milliseconds are narrowed to 64 bits. -/
  narrowed : m = max (millis64 (min ttl maxTtl)) 1
  one_le : 1 ≤ m
  le_maxTtl : m ≤ maxTtl / perMilli
  ends_iff : now + millis m ≤ d ↔ perMilli ≤ ttl
  /-- A longer time to live is told as no fewer. -/
  longer (longer : Nat) : ttl ≤ longer → m ≤ ttlMillis longer

theorem toldMillis_ttlMillis (now ttl : Nat) : ToldMillis now ttl (deadline now ttl) (ttlMillis ttl) where
  sent c key data hc hl := by
    rw [Redis.Client.serve_set hc hl]
    rfl
  millis_eq := Nat.max_comm _ 1
  narrowed := Redis.Client.ttlMillis_eq ttl
  one_le := Redis.Client.one_le_ttlMillis ttl
  le_maxTtl := Redis.Client.ttlMillis_le ttl
  ends_iff := by
    rw [deadline, Nat.add_le_add_iff_left]
    exact Redis.Client.millis_ttlMillis_le_iff ttl
  longer _ := Redis.Client.ttlMillis_mono

/-- A time to live means the same in all stores. Where a hundred years from now are within reach the deadline needs no
way out and is the sum itself; the local tier and the store in memory go by it exactly, and a Redis server is told as
many whole milliseconds. -/
theorem one_meaning (h : now + maxTtl ≤ horizon) (ttl : Nat) :
    deadlineWithin horizon now ttl = now + min ttl maxTtl ∧ now + min ttl maxTtl ≤ horizon ∧
      LivesUntil α now ttl (deadlineWithin horizon now ttl) ∧
      ToldMillis now ttl (deadlineWithin horizon now ttl) (ttlMillis ttl) := by
  rw [deadlineWithin_eq h]
  exact ⟨rfl, (deadline_le now ttl).trans h, livesUntil_deadline now ttl, toldMillis_ttlMillis now ttl⟩

/-- Half a millisecond from the start of the clock, where instants end after a hundred years. -/
theorem one_meaning_of_half : 0 + maxTtl ≤ maxTtl ∧
    deadlineWithin maxTtl 0 500000 = 500000 ∧ LivesUntil Nat 0 500000 500000 ∧ ToldMillis 0 500000 500000 1 := by
  have hreach : 0 + maxTtl ≤ maxTtl := by decide
  obtain ⟨hd, -, hl, ht⟩ := one_meaning (α := Nat) hreach 500000
  have heq : deadlineWithin maxTtl 0 500000 = 500000 := hd.trans (by decide)
  rw [heq] at hl ht
  exact ⟨hreach, heq, hl, ht⟩

end TwoTier
