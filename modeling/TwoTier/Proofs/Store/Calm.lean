/-
Stores that keep their word. Before a calm store nothing is scripted, so every trip ends at the instant
at which it sets out; a mild script may delay calls, but fails none and keeps none beyond a bound. Both
last as long as nobody scripts anything else, whatever requests are served.
-/
import TwoTier.Proofs.Site.Like
import TwoTier.Proofs.Store.Contents

namespace TwoTier

/-! ## Calm and mild -/

namespace Scripted

/-- An available store with nothing scripted before it. -/
structure Calm (st : Scripted Store) : Prop where
  faults : st.faults = []
  available : st.inner.available = true

end Scripted

/-- A fault that delays calls, and no longer than a bound. -/
structure Fault.Mild (bound : Nat) (f : Fault) : Prop where
  failure : f.failure = none
  delay : ∀ d, f.delay = some d → d ≤ bound

/-- An available store behind mild faults. -/
structure Scripted.Mild (bound : Nat) (st : Scripted Store) : Prop where
  faults : ∀ m f, (m, f) ∈ st.faults → f.Mild bound
  available : st.inner.available = true

theorem Fault.mild_none (bound : Nat) : Fault.Mild bound {} := ⟨rfl, nofun⟩

/-- Of mild faults the one that takes effect is mild, and so are those that are left. -/
theorem Fault.mild_draw {bound : Nat} {faults : List (Method × Fault)} (h : ∀ m f, (m, f) ∈ faults → f.Mild bound)
    (m : Method) :
    (draw m faults).1.Mild bound ∧ ∀ k f, (k, f) ∈ (draw m faults).2 → f.Mild bound := by
  induction faults with
  | nil => exact ⟨mild_none bound, nofun⟩
  | cons e faults ih =>
    obtain ⟨k, f⟩ := e
    have hf : f.Mild bound := h k f List.mem_cons_self
    unfold draw
    split
    · refine ⟨hf, fun k' f' hmem => ?_⟩
      rcases List.mem_cons.1 hmem with heq | hmem
      · cases heq
        exact ⟨hf.failure, hf.delay⟩
      · exact h k' f' (List.mem_cons_of_mem _ hmem)
    · obtain ⟨hdrawn, hleft⟩ := ih fun k' f' hmem => h k' f' (List.mem_cons_of_mem _ hmem)
      refine ⟨hdrawn, fun k' f' hmem => ?_⟩
      rcases List.mem_cons.1 hmem with heq | hmem
      · cases heq
        exact hf
      · exact hleft k' f' hmem

variable {α : Type} {st : Scripted Store} {bound : Nat}

/-- Whether a request is about what a store holds or what is published on it. -/
def Request.isAnswered : Request α → Bool
  | .connect => false
  | .disconnect => false
  | .info => false
  | _ => true

theorem Store.available_answer (s : Store) (now : Nat) (r : Request α) :
    (s.answer now r).2.available = s.available := by
  cases r with
  | get key =>
    show (s.read now key).2.available = _
    unfold read
    split
    · rfl
    · split <;> rfl
  | deletePattern pattern =>
    unfold answer
    dsimp only
    split <;> rfl
  | _ => rfl

theorem Store.available_serve (s : Store) (now : Nat) (r : Request α) : (s.serve now r).2.available = s.available := by
  cases r with
  | disconnect => rfl
  | connect =>
    unfold serve
    dsimp only
    split <;> rfl
  | _ =>
    unfold serve
    dsimp only
    split
    · exact available_answer ..
    · rfl

namespace Scripted

theorem faults_serve (st : Scripted Store) (now : Nat) (r : Request α) : (st.serve now r).2.faults = st.faults := by
  obtain ⟨inner, faults, blank⟩ := st
  cases r with
  | info => cases blank <;> rfl
  | _ => rfl

theorem available_serve (st : Scripted Store) (now : Nat) (r : Request α) :
    (st.serve now r).2.inner.available = st.inner.available := by
  rcases h : st.serve now r with ⟨reply, st'⟩
  rcases serve_inner h with hi | hi
  · rw [hi]
  · rw [hi]
    exact Store.available_serve ..

/-- No script comes between the store and such a request. -/
theorem serve_of_isAnswered (st : Scripted Store) {r : Request α} (hr : r.isAnswered = true) (now : Nat) :
    st.serve now r = if st.inner.available then ((st.inner.answer now r).1, { st with inner := (st.inner.answer now r).2 })
      else (.error Store.unavailable, st) := by
  obtain ⟨inner, faults, blank⟩ := st
  have hserve : inner.serve now r = if inner.available then inner.answer now r else (.error Store.unavailable, inner) := by
    cases r with
    | connect | disconnect | info => cases hr
    | _ => rfl
  have hst : Scripted.serve now r ⟨inner, faults, blank⟩ =
      ((inner.serve now r).1, ⟨(inner.serve now r).2, faults, blank⟩) := by
    cases r with
    | connect | disconnect | info => cases hr
    | _ => rfl
  rw [hst, hserve]
  dsimp only
  split <;> rfl

/-- A store that is available answers, and nothing else changes. -/
theorem serve_answer (ha : st.inner.available = true) {r : Request α} (hr : r.isAnswered = true) (now : Nat) :
    st.serve now r = ((st.inner.answer now r).1, { st with inner := (st.inner.answer now r).2 }) := by
  rw [serve_of_isAnswered st hr, if_pos ha]

/-- One that is not available refuses, and nothing changes. -/
theorem serve_refuse (ha : st.inner.available = false) {r : Request α} (hr : r.isAnswered = true) (now : Nat) :
    st.serve now r = (.error Store.unavailable, st) := by
  rw [serve_of_isAnswered st hr, ha]
  rfl

theorem draw_unscripted (h : st.faults = []) (m : Method) : st.draw m = ({}, st) := by
  obtain ⟨inner, faults, blank⟩ := st
  cases h
  rfl

theorem Calm.draw (h : st.Calm) (m : Method) : st.draw m = ({}, st) := draw_unscripted h.faults m

theorem Calm.serve (h : st.Calm) (r : Request α) (now : Nat) : (st.serve now r).2.Calm :=
  ⟨(faults_serve ..).trans h.faults, (available_serve ..).trans h.available⟩

theorem Mild.script (h : st.Mild bound) {f : Fault} (hf : f.Mild bound) (m : Method) : (st.script m f).Mild bound := by
  refine ⟨fun m' f' hmem => ?_, h.available⟩
  rcases List.mem_cons.1 hmem with heq | hmem
  · cases heq
    exact hf
  · exact h.faults m' f' (List.mem_filter.1 hmem).1

theorem Mild.draw (h : st.Mild bound) (m : Method) : (st.draw m).1.Mild bound ∧ (st.draw m).2.Mild bound := by
  obtain ⟨hdrawn, hleft⟩ := Fault.mild_draw h.faults m
  exact ⟨hdrawn, hleft, h.available⟩

theorem Mild.serve (h : st.Mild bound) (r : Request α) (now : Nat) : (st.serve now r).2.Mild bound :=
  ⟨by rw [faults_serve]; exact h.faults, (available_serve ..).trans h.available⟩

end Scripted

/-! ## Steps -/

variable {s s' : Site Store} {t : Task}

theorem Task.step_calm (t : Task) (h : s.store.Calm) : (t.step s).2.store.Calm :=
  t.step_store (Q := Scripted.Calm) (fun _ m h => by rw [h.draw]; exact h) (fun _ _ r now h => h.serve r now) h

/-! ## Trips -/

theorem wakeAt_mono (now : Nat) {d d' : Nat} (h : d ≤ d') : wakeAt now d ≤ wakeAt now d' := by
  have ht : tickAfter (now + d) ≤ tickAfter (now + d') := by
    unfold tickAfter perMilli
    split <;> split <;> omega
  unfold wakeAt millis
  exact Nat.add_le_add_left (Nat.mul_le_mul_left _ (Nat.sub_le_sub_right ht _)) _

/-- Before a store with no script a trip ends as soon as it sets out. -/
theorem Trip.start_unscripted (h : st.faults = []) (now : Nat) (bound : Option Nat) (r : Request α) :
    Trip.start now bound r st = (⟨r, now, none⟩, st) := by
  have hlate : bound.filter (wakeAt now · < now) = none := by
    cases bound with
    | none => rfl
    | some b => rw [Option.filter_some, if_neg]; simpa using le_wakeAt now b
  unfold Trip.start
  rw [Scripted.draw_unscripted h]
  dsimp only [Option.elim]
  rw [hlate]

theorem Trip.start_calm (h : st.Calm) (now : Nat) (bound : Option Nat) (r : Request α) :
    Trip.start now bound r st = (⟨r, now, none⟩, st) := Trip.start_unscripted h.faults now bound r

/-- A mild delay is never too long. -/
theorem Trip.start_mild (h : st.Mild bound) (now : Nat) (r : Request α) :
    (Trip.start now (some bound) r st).1.failure = none := by
  rcases hd : st.draw r.method with ⟨fault, st'⟩
  have hf : fault.Mild bound := by have := (h.draw r.method).1; rwa [hd] at this
  unfold Trip.start
  rw [hd]
  have hlate : (some bound).filter (wakeAt now · < fault.delay.elim now (wakeAt now)) = none := by
    rw [Option.filter_some, if_neg]
    rw [decide_eq_true_iff, Nat.not_lt]
    cases hd : fault.delay with
    | none => exact le_wakeAt ..
    | some d => exact wakeAt_mono now (hf.delay d hd)
  dsimp only
  rw [hlate]
  exact hf.failure

namespace Site

/-- The site with other contents of the store. -/
def holding (s : Site Store) (inner : Store) : Site Store := { s with store := { s.store with inner } }

/-- On a calm store an instance that is connected makes its calls without a wait. -/
theorem call_calm (h : s.store.Calm) (hc : s.node.remote.connected = true) (r : Request α) :
    s.call r = (⟨r, s.now, none⟩, s) := by
  rw [call_connected hc, Trip.start_calm h]

/-- What a trip of a calm store has on the way is a refusal at most. -/
theorem ends_of_calm (h : s.store.Calm) {r : Request α} {trip : Trip α} (hs : s.call r = (trip, s')) :
    trip.ends = s.now := by
  cases hc : s.node.remote.connected with
  | true => rw [call_calm h hc] at hs; cases hs; rfl
  | false => rw [call_disconnected hc] at hs; cases hs; rfl

/-- On a mild store the calls of an instance that is connected do not fail on the way. -/
theorem failure_of_mild (h : s.store.Mild s.node.remote.timeout) (hc : s.node.remote.connected = true) {r : Request α}
    {trip : Trip α} (hs : s.call r = (trip, s')) : trip.failure = none := by
  rw [call_connected hc] at hs
  cases hs
  exact Trip.start_mild h ..

/-- A store that is available answers at the end of a trip, and nothing else changes. -/
theorem finish_answer (ha : s.store.inner.available = true) {r : Request α} (hr : r.isAnswered = true) (ends : Nat) :
    s.finish ⟨r, ends, none⟩ = ((s.store.inner.answer s.now r).1, s.holding (s.store.inner.answer s.now r).2) := by
  unfold finish Link.finish Trip.finish Site.link
  dsimp only
  rw [Scripted.serve_answer ha hr]
  rfl

/-- A trip that does not fail brings its request to the store. -/
theorem finish_of_touches {trip : Trip α} {reply : Except CacheError α} (hf : trip.failure = none)
    (hr : trip.request.touches = true) (ha : s.store.inner.available = true) (h : s.finish trip = (reply, s')) :
    s.store.inner.answer s.now trip.request = (reply, s'.store.inner) := by
  rcases Trip.finish_cases (finish_spec h).finish with ⟨e, he, -⟩ | ⟨-, hs⟩
  · rw [hf] at he
    cases he
  · rw [← Store.serve_available ha hr]
    exact Scripted.serve_of_touches hs hr

end Site

end TwoTier
