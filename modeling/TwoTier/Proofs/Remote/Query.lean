/-
A site's client as a client that works by itself. What becomes of a call to the store depends on the
clock, the connection, the bound and the store only, so a site whose call has set out and ended has
what the operation on its own brings. A `query` is what a look-up asks of the shared tier.
-/
import TwoTier.Proofs.Site.Trips

namespace TwoTier

variable {σ α : Type} {r : Request α} {trip : Trip α} {reply : Except CacheError α}

namespace Link

variable {l l' : Link σ}

theorem call_spec (h : l.call r = (trip, l')) :
    trip.request = r ∧ l.now ≤ trip.ends ∧ l'.now = l.now ∧ l'.store.inner = l.store.inner := by
  unfold call at h
  split at h
  · rcases ht : Trip.start l.now (some l.remote.timeout) r l.store with ⟨t, st⟩
    rw [ht] at h
    cases h
    obtain ⟨hr, he, hi, -⟩ := Trip.start_spec ht
    exact ⟨hr, he, rfl, hi⟩
  · cases h
    exact ⟨rfl, Nat.le_refl _, rfl, rfl⟩

variable [Backend σ]

theorem finish_now {trip : Trip α} (h : l.finish trip = (reply, l')) : l'.now = l.now := by
  unfold finish at h
  cases h
  rfl

theorem now_le_ask (h : l.ask r = (reply, l')) : l.now ≤ l'.now := by
  unfold ask at h
  rcases hc : l.call r with ⟨trip, l₁⟩
  rw [hc] at h
  rw [finish_now h, ← (call_spec hc).2.2.1]
  exact Nat.le_max_left ..

/-- The value that the shared tier has for a key. One that cannot be read is none. -/
def look (l : Link σ) (key : String) : Option Json × Link σ :=
  let (r, l) : Except CacheError (Option Json) × Link σ := l.tryGet key
  (r.toOption.join, l)

/-- What a look-up gets from the shared tier, asked once more if the first answer brings nothing and
callers wait for each other. -/
def query (l : Link σ) (again : Bool) (key : String) : Option Json × Link σ :=
  match l.look key with
  | (some v, l) => (some v, l)
  | (none, l) => if again then l.look key else (none, l)

variable {again : Bool} {key : String} {v : Json}

theorem look_of_ask {reply : Except CacheError (Option Bytes)} (h : l.ask (.get key) = (reply, l')) :
    l.look key = (Site.valueOf? reply, l') := by
  unfold look tryGet
  rw [h]
  rfl

theorem now_le_look (l : Link σ) (key : String) : l.now ≤ (l.look key).2.now := by
  rcases ha : l.ask (.get key) with ⟨reply, l₁⟩
  rw [look_of_ask ha]
  exact now_le_ask ha

/-- A look takes as long as its trip at least. -/
theorem ends_le_look {trip : Trip (Option Bytes)} (h : l.call (.get key) = (trip, l')) :
    trip.ends ≤ (l.look key).2.now := by
  rcases ha : l.ask (.get key) with ⟨reply, l₁⟩
  rw [look_of_ask ha]
  unfold ask at ha
  rw [h] at ha
  show trip.ends ≤ l₁.now
  rw [finish_now ha]
  exact Nat.le_max_right ..

theorem query_of_hit (h : l.look key = (some v, l')) : l.query again key = (some v, l') := by
  unfold query; rw [h]

theorem query_of_miss (h : l.look key = (none, l')) : l.query false key = (none, l') := by
  unfold query; rw [h]; rfl

theorem query_again (h : l.look key = (none, l')) : l.query true key = l'.look key := by
  unfold query; rw [h]; rfl

/-- A query takes as long as its first question at least. -/
theorem now_le_query (l : Link σ) (again : Bool) (key : String) : (l.look key).2.now ≤ (l.query again key).2.now := by
  rcases hl : l.look key with ⟨_ | v, l₁⟩
  · cases again with
    | false => rw [query_of_miss hl]
    | true => rw [query_again hl]; exact now_le_look ..
  · rw [query_of_hit hl]

end Link

namespace Site

variable {s s' : Site σ} {l l' : Link σ}

/-- The client of a site is in the same state as a client by itself, but for the counts. -/
structure Follows (s : Site σ) (l : Link σ) : Prop where
  now : s.now = l.now
  store : s.store = l.store
  connected : s.node.remote.connected = l.remote.connected
  timeout : s.node.remote.timeout = l.remote.timeout

namespace Follows

theorem alike (h : s.Follows l) (hs : s.Alike s') : s'.Follows l :=
  ⟨hs.now.trans h.now, hs.store.trans h.store, hs.connected.trans h.connected, hs.timeout.trans h.timeout⟩

theorem withLru (h : s.Follows l) (c : Lru Json) : (s.withLru c).Follows l := ⟨h.1, h.2, h.3, h.4⟩

theorem join (h : s.Follows l) (key : String) (ticket : Nat) : (s.join key ticket).Follows l := ⟨h.1, h.2, h.3, h.4⟩

/-- Both make the same call. -/
theorem call (h : s.Follows l) (ht : s.call r = (trip, s')) : ∃ l', l.call r = (trip, l') ∧ s'.Follows l' := by
  unfold Link.call
  cases hc : s.node.remote.connected with
  | false =>
    rw [call_disconnected hc] at ht
    cases ht
    rw [if_neg (by rw [← h.connected, hc]; decide)]
    exact ⟨l, by rw [h.now], h⟩
  | true =>
    rw [call_connected hc] at ht
    rw [h.now, h.store, h.timeout] at ht
    cases ht
    rw [if_pos (by rw [← h.connected, hc])]
    exact ⟨_, rfl, rfl, rfl, h.connected, h.timeout⟩

/-- Both get the same reply. -/
theorem finish [Backend σ] (h : s.Follows l) (hf : s.finish trip = (reply, s')) :
    ∃ l', l.finish trip = (reply, l') ∧ s'.Follows l' := by
  have hl := finish_spec hf
  have ht := hl.finish
  rw [h.now, h.store] at ht
  refine ⟨{ l with store := s'.store }, by unfold Link.finish; rw [ht], hl.now.trans h.now, rfl, ?_, ?_⟩
  · rw [hl.node]; exact h.connected
  · rw [hl.node]; exact h.timeout

/-- A call that has ended is the operation by itself. -/
theorem ask [Backend σ] (hc : l.call r = (trip, l')) (h : s.Follows (l'.wait trip.ends))
    (hf : s.finish trip = (reply, s')) : ∃ l'', l.ask r = (reply, l'') ∧ s'.Follows l'' := by
  obtain ⟨l'', hl, hs⟩ := h.finish hf
  exact ⟨l'', by unfold Link.ask; rw [hc]; exact hl, hs⟩

end Follows

end Site

end TwoTier
