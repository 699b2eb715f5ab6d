/-
The two ends of a trip. When a call sets out the script in front of the store is charged and nothing
else happens; when it ends the store answers, unless the trip failed on the way. A request that
belongs to no key leaves all keys alone, and a site that made only such requests is `Quiet`.
-/
import TwoTier.Proofs.Site.Alike

namespace TwoTier

/-- Whether a request can touch a key. -/
def Request.touches {α : Type} : Request α → Bool
  | .get _ => true
  | .set _ _ _ => true
  | .delete _ => true
  | .deletePattern _ => true
  | _ => false

variable {σ α : Type}

theorem Scripted.draw_inner {s s' : Scripted σ} {m : Method} {f : Fault} (h : s.draw m = (f, s')) :
    s'.inner = s.inner ∧ s'.blankInfo = s.blankInfo := by
  cases h
  exact ⟨rfl, rfl⟩

theorem le_wakeAt (now d : Nat) : now ≤ wakeAt now d := Nat.le_trans (Nat.le_add_right ..) (add_le_wakeAt now d)

theorem le_elim_wakeAt (now : Nat) (d : Option Nat) : now ≤ d.elim now (wakeAt now) := by
  cases d with
  | none => exact Nat.le_refl _
  | some d => rw [Option.elim_some]; exact le_wakeAt now d

namespace Trip

theorem start_spec {now : Nat} {bound : Option Nat} {r : Request α} {st st' : Scripted σ} {t : Trip α}
    (h : start now bound r st = (t, st')) :
    t.request = r ∧ now ≤ t.ends ∧ st'.inner = st.inner ∧ st'.blankInfo = st.blankInfo := by
  unfold start at h
  rcases hd : st.draw r.method with ⟨fault, st₁⟩
  rw [hd] at h
  cases h
  refine ⟨rfl, ?_, Scripted.draw_inner hd⟩
  dsimp only
  cases bound.filter _ with
  | none => rw [Option.elim_none]; exact le_elim_wakeAt ..
  | some bound => rw [Option.elim_some]; exact le_wakeAt ..

/-- A trip either fails on the way or is answered by the store. -/
theorem finish_cases [Backend σ] {now : Nat} {t : Trip α} {st st' : Scripted σ} {reply : Except CacheError α}
    (h : t.finish now st = (reply, st')) :
    (∃ e, t.failure = some e ∧ reply = .error e ∧ st' = st) ∨
      (t.failure = none ∧ st.serve now t.request = (reply, st')) := by
  unfold finish at h
  cases hf : t.failure with
  | some e => rw [hf] at h; cases h; exact Or.inl ⟨e, rfl, rfl, rfl⟩
  | none => rw [hf] at h; exact Or.inr ⟨rfl, h⟩

end Trip

theorem Scripted.serve_inner [Backend σ] {st st' : Scripted σ} {now : Nat} {r : Request α}
    {reply : Except CacheError α} (h : st.serve now r = (reply, st')) :
    st'.inner = st.inner ∨ st'.inner = (Backend.serve now r st.inner).2 := by
  obtain ⟨inner, faults, blank⟩ := st
  cases r with
  | info =>
    cases blank with
    | true => cases h; exact Or.inl rfl
    | false => cases h; exact Or.inr rfl
  | _ => cases h; exact Or.inr rfl

namespace Site

variable {s s' s'' : Site σ} {trip : Trip α} {r : Request α}

/-- What is left of a site when a trip sets out: everything but the script. -/
structure SetOff (s s' : Site σ) : Prop where
  now : s'.now = s.now
  node : s'.node = s.node
  inner : s'.store.inner = s.store.inner
  recorder : s'.recorder = s.recorder

theorem call_connected (hc : s.node.remote.connected = true) (r : Request α) :
    s.call r = ((Trip.start s.now (some s.node.remote.timeout) r s.store).1,
      { s with store := (Trip.start s.now (some s.node.remote.timeout) r s.store).2 }) := by
  unfold call Link.call
  rw [if_pos (show s.link.remote.connected = true from hc)]
  rfl

theorem call_disconnected (hc : s.node.remote.connected = false) (r : Request α) :
    s.call r = (.refused s.now r, s) := by
  unfold call Link.call
  rw [if_neg (show ¬ s.link.remote.connected = true by rw [show s.link.remote.connected = false from hc]; decide)]
  rfl

theorem call_spec (h : s.call r = (trip, s')) : trip.request = r ∧ s.now ≤ trip.ends ∧ SetOff s s' := by
  cases hc : s.node.remote.connected with
  | false =>
    rw [call_disconnected hc] at h
    cases h
    exact ⟨rfl, Nat.le_refl _, rfl, rfl, rfl, rfl⟩
  | true =>
    rcases ht : Trip.start s.now (some s.node.remote.timeout) r s.store with ⟨t, st'⟩
    obtain ⟨hr, he, hi, -⟩ := Trip.start_spec ht
    rw [call_connected hc, ht] at h
    cases h
    exact ⟨hr, he, rfl, rfl, hi, rfl⟩

theorem dial_spec {trip : Trip Unit} (h : s.dial = (trip, s')) :
    trip.request = .connect ∧ s.now ≤ trip.ends ∧ SetOff s s' := by
  unfold dial Link.dial at h
  rcases ht : Trip.start s.now (some s.node.remote.timeout) Request.connect s.store with ⟨t, st'⟩
  simp only [link, ht] at h
  cases h
  obtain ⟨hr, he, hi, -⟩ := Trip.start_spec ht
  exact ⟨hr, he, rfl, rfl, hi, rfl⟩

theorem hangUp_spec {trip : Trip Unit} (h : s.hangUp = (trip, s')) :
    trip.request = .disconnect ∧ s.now ≤ trip.ends ∧ SetOff (s.setConnected false) s' := by
  unfold hangUp Link.hangUp at h
  rcases ht : Trip.start s.now none Request.disconnect s.store with ⟨t, st'⟩
  simp only [link, Link.setConnected, ht] at h
  cases h
  obtain ⟨hr, he, hi, -⟩ := Trip.start_spec ht
  exact ⟨hr, he, rfl, rfl, hi, rfl⟩

/-- What the end of a trip leaves alone. -/
structure Landed [Backend σ] (trip : Trip α) (reply : Except CacheError α) (s s' : Site σ) : Prop where
  now : s'.now = s.now
  node : s'.node = s.node
  finish : trip.finish s.now s.store = (reply, s'.store)

theorem finish_spec [Backend σ] {reply : Except CacheError α} (h : s.finish trip = (reply, s')) :
    Landed trip reply s s' := by
  unfold finish Link.finish at h
  rcases ht : trip.finish s.now s.store with ⟨reply', st'⟩
  simp only [link, ht] at h
  cases h
  exact ⟨rfl, rfl, ht⟩

/-! ## Work that touches no key -/

/-- The second site is the first one with other counts and after requests that touch no key. -/
structure Quiet [Backend σ] (s s' : Site σ) : Prop where
  now : s'.now = s.now
  node : s'.node.uncounted = s.node.uncounted
  store : s'.store.inner = s.store.inner ∨
    ∃ (β : Type) (r : Request β), r.touches = false ∧ s'.store.inner = (Backend.serve s.now r s.store.inner).2

namespace Quiet

variable [Backend σ]

theorem refl (s : Site σ) : Quiet s s := ⟨rfl, rfl, Or.inl rfl⟩

theorem alike (h : Quiet s s') (h' : Alike s' s'') : Quiet s s'' :=
  ⟨h'.now.trans h.now, h'.node.trans h.node, by rw [h'.store]; exact h.store⟩

theorem setOff (h : Quiet s s') (h' : SetOff s' s'') : Quiet s s'' :=
  ⟨h'.now.trans h.now, by rw [h'.node]; exact h.node, by rw [h'.inner]; exact h.store⟩

theorem of_setOff (h : SetOff s s') : Quiet s s' := (refl s).setOff h

theorem trans_alike (h : Alike s s') (h' : Quiet s' s'') : Quiet s s'' :=
  ⟨h'.now.trans h.now, h'.node.trans h.node, by rw [← h.store, ← h.now]; exact h'.store⟩

/-- Setting the connected flag on both sides. -/
theorem setConnected (h : Quiet s s') (on : Bool) : Quiet (s.setConnected on) (s'.setConnected on) :=
  ⟨h.now, congrArg (fun n : Node => { n with remote := { n.remote with connected := on } }) h.node, h.store⟩

theorem lru (h : Quiet s s') : s'.node.lru = s.node.lru := Node.same_of_uncounted h.node Node.lru fun _ => rfl

theorem flights (h : Quiet s s') : s'.node.flights = s.node.flights :=
  Node.same_of_uncounted h.node Node.flights fun _ => rfl

theorem connected (h : Quiet s s') : s'.node.remote.connected = s.node.remote.connected :=
  Node.same_of_uncounted h.node (·.remote.connected) fun _ => rfl

/-- The end of a trip whose request touches no key. -/
theorem of_landed {reply : Except CacheError α} (h : Landed trip reply s s') (ht : trip.request.touches = false) :
    Quiet s s' := by
  refine ⟨h.now, by rw [h.node], ?_⟩
  rcases Trip.finish_cases h.finish with ⟨e, -, -, hs⟩ | ⟨-, hs⟩
  · exact Or.inl (by rw [hs])
  · exact (Scripted.serve_inner hs).imp id fun hi => ⟨α, trip.request, ht, hi⟩

end Quiet

end Site

end TwoTier
