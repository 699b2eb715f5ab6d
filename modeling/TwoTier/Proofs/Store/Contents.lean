/-
What every request does to the entries of the store, one key at a time. Reads drop an expired entry,
a write replaces the entry of its key, deletions drop what they name or match, and all other requests
leave the entries alone. A store that is not available leaves them alone whatever it is asked.
-/
import TwoTier.Proofs.Site.Trips
import TwoTier.Store

namespace TwoTier

/-- What a request writes: a key, its bytes and how long they live. -/
def Request.written? {α : Type} : Request α → Option (String × Bytes × Option Nat)
  | .set key data ttl => some (key, data, ttl)
  | _ => none

namespace Store

variable {s : Store} {now : Nat} {key k : String} {e : Stored}

theorem find?_keep (p : String → Bool) : (s.keep p).find? k = if p k then s.find? k else none := by
  show (s.entries.filter fun x => p x.1).lookup k = _
  rw [lookup_filter s.keys_nodup]
  show (s.find? k).filter (fun _ => p k) = _
  cases s.find? k <;> cases p k <;> rfl

theorem find?_remove : (s.remove key).find? k = if k = key then none else s.find? k := by
  unfold remove
  rw [find?_keep]
  by_cases hk : k = key
  · subst hk; simp
  · rw [if_neg hk, if_pos (bne_iff_ne.2 hk)]

theorem find?_put : (s.put key e).find? k = if k = key then some e else s.find? k := by
  show List.lookup k ((key, e) :: (s.remove key).entries) = _
  rw [List.lookup_cons]
  by_cases hk : k = key
  · subst hk
    rw [if_pos rfl, beq_self_eq_true]
  · rw [if_neg hk, beq_eq_false_iff_ne.2 hk]
    exact find?_remove.trans (if_neg hk)

theorem live?_eq_some_iff : s.live? now key = some e ↔ s.find? key = some e ∧ e.isExpired now = false := by
  unfold live?
  rw [Option.filter_eq_some_iff]
  simp only [Bool.not_eq_true']

/-- A read brings what is live. -/
theorem read_fst : (s.read now key).1 = (s.live? now key).map Stored.data := by
  unfold read live?
  cases s.find? key with
  | none => rfl
  | some e => cases h : e.isExpired now <;> simp [h]

/-- It drops its key if that is expired. -/
theorem find?_read : (s.read now key).2.find? k = if k = key then s.live? now key else s.find? k := by
  unfold read live?
  cases h : s.find? key with
  | none =>
    show s.find? k = _
    split
    · rename_i hk; rw [hk, h]; rfl
    · rfl
  | some e =>
    dsimp only
    split <;> rename_i he
    · rw [find?_remove, Option.filter_some, he]; rfl
    · rw [Option.filter_some, Bool.not_eq_true] at *
      rw [he]
      show s.find? k = _
      split
      · rename_i hk; rw [hk, h]; rfl
      · rfl

/-! ## Requests -/

theorem serve_available {α : Type} (h : s.available = true) {r : Request α} (hr : r.touches = true) :
    s.serve now r = s.answer now r := by
  cases r with
  | get | set | delete | deletePattern => unfold serve; exact if_pos h
  | _ => cases hr

theorem serve_unavailable {α : Type} (h : s.available = false) {r : Request α} (hr : r.touches = true) :
    s.serve now r = (.error unavailable, s) := by
  cases r with
  | get | set | delete | deletePattern => unfold serve; exact if_neg (by rw [h]; decide)
  | _ => cases hr

/-- A request that touches no key leaves the entries alone. -/
theorem find?_serve_of_not_touches {α : Type} {r : Request α} (hr : r.touches = false) :
    (s.serve now r).2.find? k = s.find? k := by
  cases r with
  | get | set | delete | deletePattern => cases hr
  | disconnect => rfl
  | connect | ping | publish | info => unfold serve; dsimp only; split <;> rfl

theorem find?_serve_get : (s.serve now (.get key)).2.find? k = s.find? k ∨
    (k = key ∧ (s.serve now (.get key)).2.find? k = s.live? now key) := by
  cases ha : s.available with
  | false => rw [serve_unavailable ha rfl]; exact Or.inl rfl
  | true =>
    rw [serve_available ha rfl]
    show (s.read now key).2.find? k = _ ∨ _ ∧ (s.read now key).2.find? k = _
    rw [find?_read]
    by_cases hk : k = key
    · exact Or.inr ⟨hk, if_pos hk⟩
    · exact Or.inl (if_neg hk)

theorem serve_set {data : Bytes} {ttl : Option Nat} (h : s.available = true) :
    s.serve now (.set key data ttl) = (.ok (), s.put key ⟨data, ttl.map (deadline now)⟩) := by
  rw [serve_available h rfl]
  rfl

/-- Whatever the store holds after a request it held before, or the request has written it. -/
theorem find?_of_serve {α : Type} {r : Request α} (h : (s.serve now r).2.find? k = some e) :
    s.find? k = some e ∨ ∃ data ttl, r.written? = some (k, data, ttl) ∧ s.available = true ∧
      e = ⟨data, ttl.map (deadline now)⟩ := by
  -- only requests that touch keys matter, and those only if the store is available
  by_cases ht : r.touches = true
  · cases ha : s.available with
    | false => rw [serve_unavailable ha ht] at h; exact Or.inl h
    | true =>
      rw [serve_available ha ht] at h
      cases r with
      | get key =>
        change (s.read now key).2.find? k = some e at h
        rw [find?_read] at h
        split at h
        · rename_i hk; exact Or.inl (hk ▸ (live?_eq_some_iff.1 h).1)
        · exact Or.inl h
      | set key data ttl =>
        change (s.put key _).find? k = some e at h
        rw [find?_put] at h
        split at h
        · -- the one place where an entry comes in
          rename_i hk; subst hk; exact Or.inr ⟨data, ttl, rfl, rfl, (Option.some.inj h).symm⟩
        · exact Or.inl h
      | delete key =>
        change (s.remove key).find? k = some e at h
        rw [find?_remove] at h
        split at h
        · cases h
        · exact Or.inl h
      | deletePattern pattern =>
        unfold answer at h
        dsimp only at h
        split at h
        · exact Or.inl h
        · change (s.keep _).find? k = some e at h
          rw [find?_keep] at h
          split at h
          · exact Or.inl h
          · cases h
      | _ => cases ht
  · rw [find?_serve_of_not_touches (Bool.eq_false_iff.2 ht)] at h
    exact Or.inl h

/-- What a read brings is live. -/
theorem of_serve_get {data : Bytes} (h : (s.serve now (.get key)).1 = .ok (some data)) :
    ∃ e, s.live? now key = some e ∧ e.data = data := by
  cases ha : s.available with
  | false => rw [serve_unavailable ha rfl] at h; cases h
  | true =>
    rw [serve_available ha rfl] at h
    change Except.ok (s.read now key).1 = Except.ok (some data) at h
    rw [read_fst] at h
    exact Option.map_eq_some_iff.1 (Except.ok.inj h)

end Store

/-! ## At the end of a trip -/

/-- No script comes between the store and a request for a key. -/
theorem Scripted.serve_of_touches {σ α : Type} [Backend σ] {r : Request α} {st st' : Scripted σ} {now : Nat}
    {reply : Except CacheError α} (h : st.serve now r = (reply, st')) (hr : r.touches = true) :
    Backend.serve now r st.inner = (reply, st'.inner) := by
  cases r with
  | get | set | delete | deletePattern => cases h; rfl
  | _ => cases hr

namespace Site

variable {α : Type} {s s' : Site Store} {trip : Trip α} {reply : Except CacheError α} {k : String} {e : Stored}

/-- Whatever the store holds at the end of a trip it held before, or the trip has brought it. -/
theorem find?_of_finish (h : s.finish trip = (reply, s')) (he : s'.store.inner.find? k = some e) :
    s.store.inner.find? k = some e ∨ ∃ data ttl, trip.request.written? = some (k, data, ttl) ∧ trip.failure = none ∧
      s.store.inner.available = true ∧ e = ⟨data, ttl.map (deadline s.now)⟩ := by
  rcases Trip.finish_cases (finish_spec h).finish with ⟨_, -, -, hs⟩ | ⟨hf, hs⟩
  · exact Or.inl (hs ▸ he)
  · rcases Scripted.serve_inner hs with hi | hi
    · exact Or.inl (hi ▸ he)
    · rw [hi] at he
      exact (Store.find?_of_serve he).imp id fun ⟨data, ttl, hr, ha, hd⟩ => ⟨data, ttl, hr, hf, ha, hd⟩

/-- A value that the shared tier brings is live there. -/
theorem live?_of_valueOf? {trip : Trip (Option Bytes)} {reply : Except CacheError (Option Bytes)} {v : Json}
    (h : s.finish trip = (reply, s')) (hr : trip.request = .get k) (hv : valueOf? reply = some v) :
    ∃ e, s.store.inner.live? s.now k = some e ∧ Payload.decode e.data = .ok v := by
  obtain ⟨data, rfl, hd⟩ : ∃ data, reply = .ok (some data) ∧ Payload.decode data = .ok v := by
    unfold valueOf? at hv
    rcases reply with _ | _ | data
    · cases hv
    · cases hv
    · refine ⟨data, rfl, ?_⟩
      change ((Payload.decode data).map some).toOption.join = some v at hv
      cases hd : (Payload.decode data : Except CacheError Json) with
      | error _ => rw [hd] at hv; cases hv
      | ok w => rw [hd] at hv; cases hv; rfl
  rcases Trip.finish_cases (finish_spec h).finish with ⟨_, -, he, -⟩ | ⟨-, hs⟩
  · cases he
  · rw [hr] at hs
    obtain ⟨e, he, rfl⟩ := Store.of_serve_get (congrArg Prod.fst (Scripted.serve_of_touches hs rfl))
    exact ⟨e, he, hd⟩

end Site

end TwoTier
