/-
Tiers that have only lost entries that had expired. Reads drop the expired entry of their key, purges
drop any, and nothing else happens to a tier as long as nobody writes or deletes.
-/
import TwoTier.Proofs.Schedule.Clock
import TwoTier.Proofs.Store.Contents

namespace TwoTier

/-- What is found under each key is what was found before, but for some keys that had expired. -/
def Thinned {β : Type} (may : String → Prop) (expired : β → Bool) (found found' : String → Option β) : Prop :=
  ∀ k, found' k = found k ∨ (may k ∧ found' k = none ∧ (found k).any expired = true)

namespace Thinned

variable {β : Type} {may may' : String → Prop} {expired expired' : β → Bool} {found found' found'' : String → Option β}

theorem refl : Thinned may expired found found := fun _ => Or.inl rfl

theorem mono (h : Thinned may expired found found') (hm : ∀ k, may k → may' k)
    (he : ∀ e, expired e = true → expired' e = true) : Thinned may' expired' found found' := by
  intro k
  rcases h k with h | ⟨hk, hn, hx⟩
  · exact Or.inl h
  · refine Or.inr ⟨hm k hk, hn, ?_⟩
    cases hf : found k with
    | none => rw [hf] at hx; cases hx
    | some e => rw [hf] at hx; exact he e hx

theorem trans (h : Thinned may expired found found') (h' : Thinned may expired found' found'') :
    Thinned may expired found found'' := by
  intro k
  rcases h' k with h' | ⟨hk, hn, hx⟩
  · rw [h']; exact h k
  · rcases h k with h | ⟨-, hn', -⟩
    · rw [h] at hx; exact Or.inr ⟨hk, hn, hx⟩
    · rw [hn'] at hx; cases hx

/-- Whatever is there was there before. -/
theorem old {k : String} {e : β} (h : Thinned may expired found found') (hk : found' k = some e) :
    found k = some e := by
  rcases h k with h | ⟨-, hn, -⟩
  · rw [← h]; exact hk
  · rw [hn] at hk; cases hk

end Thinned

namespace Lru

variable {α : Type} (c : Lru α) (now : Nat) (key : String)

/-- A read drops its key if that has expired. -/
theorem thinned_get : Thinned (· = key) (·.isExpired now) c.find? (c.get now key).2.find? := by
  intro k
  rw [find?_get]
  split
  · rename_i hk
    subst hk
    cases c.find? k with
    | none => exact Or.inl rfl
    | some e =>
      rw [Option.filter_some]
      cases he : e.isExpired now with
      | true => exact Or.inr ⟨rfl, rfl, he⟩
      | false => exact Or.inl rfl
  · exact Or.inl rfl

variable {c now key}

/-- What is not live does not come to life. -/
theorem live?_of_thinned {c' : Lru α} {now' : Nat} {may : String → Prop} {expired : Entry α → Bool}
    (h : Thinned may expired c.find? c'.find?) (hv : c.live? now key = none) (hle : now ≤ now') :
    c'.live? now' key = none := by
  cases hv' : c'.live? now' key with
  | none => rfl
  | some v =>
    obtain ⟨e, hf, -, hd⟩ := live?_eq_some_iff.1 hv'
    rw [live?_eq_some_iff.2 ⟨e, h.old hf, rfl, Nat.lt_of_le_of_lt hle hd⟩] at hv
    cases hv

end Lru

theorem Entry.isExpired_mono {α : Type} {now now' : Nat} (h : now ≤ now') (e : Entry α) (he : e.isExpired now = true) :
    e.isExpired now' = true := TwoTier.isExpired_mono h he

theorem Stored.isExpired_mono {now now' : Nat} (h : now ≤ now') (e : Stored) (he : e.isExpired now = true) :
    e.isExpired now' = true := by
  unfold Stored.isExpired at *
  cases hd : e.deadline with
  | none => rw [hd] at he; cases he
  | some d => rw [hd] at he; exact TwoTier.isExpired_mono h he

/-- Purges on the way drop what has expired. -/
theorem Node.Aged.thinned {n n' : Node} {now : Nat} (h : n.Aged now n') :
    Thinned (fun _ => n.maintenance.isSome) (·.isExpired now) n.lru.find? n'.lru.find? := by
  intro k
  cases hk : n.lru.find? k with
  | none =>
    left
    cases hk' : n'.lru.find? k with
    | none => rfl
    | some e => rw [h.old k e hk'] at hk; cases hk
  | some e =>
    by_cases hd : now < e.deadline
    · exact Or.inl (h.kept k e hk hd)
    · cases hk' : n'.lru.find? k with
      | some e' => left; rw [← hk, ← h.old k e' hk']
      | none =>
        refine Or.inr ⟨?_, rfl, ?_⟩
        · cases hm : n.maintenance with
          | some m => rfl
          | none => rw [h.still hm, hk] at hk'; cases hk'
        · exact (isExpired_iff ..).2 (Nat.not_lt.1 hd)

/-- The end of a trip that reads a key drops it from the store if it has expired. -/
theorem Site.thinned_of_finish {s s' : Site Store} {trip : Trip (Option Bytes)}
    {reply : Except CacheError (Option Bytes)} {key : String} (hf : s.finish trip = (reply, s'))
    (hr : trip.request = .get key) :
    Thinned (· = key) (·.isExpired s.now) s.store.inner.find? s'.store.inner.find? := by
  intro k
  rcases Trip.finish_cases (finish_spec hf).finish with ⟨_, -, -, hs⟩ | ⟨-, hs⟩
  · exact Or.inl (by rw [hs])
  · rw [hr] at hs
    have hs' : (s.store.inner.serve s.now (.get key)).2 = s'.store.inner :=
      congrArg Prod.snd (Scripted.serve_of_touches hs rfl)
    rw [← hs']
    -- any other key is as it was, and this one holds what is live of it
    have hget : (s.store.inner.serve s.now (.get key)).2.find? k = s.store.inner.find? k ∨ (k = key ∧ _) :=
      Store.find?_serve_get
    rcases hget with h | ⟨rfl, h⟩
    · exact Or.inl h
    · rw [h]
      unfold Store.live?
      cases s.store.inner.find? k with
      | none => exact Or.inl rfl
      | some e =>
        rw [Option.filter_some]
        cases he : e.isExpired s.now with
        | true => exact Or.inr ⟨rfl, rfl, he⟩
        | false => exact Or.inl rfl

/-- A write that has been done is in the store. -/
theorem Site.find?_of_stored {s s' : Site Store} {trip : Trip Unit} {key : String} {data : Bytes} {ttl : Option Nat}
    (hf : s.finish trip = (.ok (), s')) (hr : trip.request = .set key data ttl) :
    s'.store.inner.find? key = some ⟨data, ttl.map (deadline s.now)⟩ := by
  rcases Trip.finish_cases (finish_spec hf).finish with ⟨_, -, he, -⟩ | ⟨-, hs⟩
  · cases he
  · rw [hr] at hs
    have hs' : s.store.inner.serve s.now (.set key data ttl) = (.ok (), s'.store.inner) :=
      Scripted.serve_of_touches hs rfl
    cases ha : s.store.inner.available with
    | false => rw [Store.serve_unavailable ha rfl] at hs'; cases hs'
    | true =>
      rw [Store.serve_set ha] at hs'
      rw [← (Prod.mk.inj hs').2, Store.find?_put, if_pos rfl]

end TwoTier
