/-
What a key stands for. Of all that has been written under a key the latest counts, as long as no removal
has undone it: its `Mark`. The tiers are coherent with a mark when they hold nothing else under the key,
and the store holds it until it is gone. Look-ups leave the tiers coherent, and a write makes them so
anew, the local tier first.
-/
import TwoTier.Proofs.Call.Removal
import TwoTier.Proofs.Site.Thinned

namespace TwoTier

/-- What was written under a key, for how long, and when. -/
structure Mark where
  value : Json
  ttl : Nat
  time : Nat

/-- When it is gone. -/
def Mark.gone (m : Mark) : Nat := deadline m.time m.ttl

/-- What the store holds of it. -/
def Mark.stored (m : Mark) : Stored := ⟨payload m.value, some m.gone⟩

/-- It comes back from the store as it was written. -/
def Mark.Returns (m : Mark) : Prop := Payload.decode (payload m.value) = .ok m.value

/-- What a key stands for once a writing has landed. -/
def Writing.marks (w : Writing) (key : String) (now : Nat) (old : Option Mark) : Option Mark :=
  if w.key = key then some ⟨w.value, w.ttl, now⟩ else old

variable {w : Option Mark} {lw sw : Option Mark} {key k : String} {now later : Nat}

/-! ## Tiers -/

/-- A local tier holds nothing else under a key, and a copy lives no longer than the default time after
the store has lost it. -/
def Lru.Coherent (w : Option Mark) (key : String) (l : Lru Json) : Prop :=
  ∀ e, l.find? key = some e → ∃ m ∈ w, e.value = m.value ∧ e.deadline ≤ m.gone + l.defaultTtl

/-- The store holds nothing else under a key, and what it holds until it is gone. -/
structure Store.Coherent (w : Option Mark) (key : String) (now : Nat) (s : Store) : Prop where
  holds : ∀ e, s.find? key = some e → ∃ m ∈ w, e = m.stored
  keeps : ∀ m ∈ w, now < m.gone → s.find? key = some m.stored

theorem Lru.Coherent.sub {l l' : Lru Json} (h : l.Coherent w key) (hd : l'.defaultTtl = l.defaultTtl)
    (hs : ∀ e, l'.find? key = some e → l.find? key = some e) : l'.Coherent w key := by
  intro e he
  rw [hd]
  exact h e (hs e he)

theorem Store.Coherent.mono {s : Store} (h : s.Coherent w key now) (hle : now ≤ later) : s.Coherent w key later :=
  ⟨h.holds, fun m hm hlt => h.keeps m hm (Nat.lt_of_le_of_lt hle hlt)⟩

theorem Mark.isExpired_stored (m : Mark) (now : Nat) : m.stored.isExpired now = decide (m.gone ≤ now) := rfl

/-- What is live in the store is what the key stands for. -/
theorem Store.Coherent.live? {s : Store} (h : s.Coherent w key now) :
    s.live? now key = (w.filter fun m => now < m.gone).map Mark.stored := by
  unfold Store.live?
  cases hf : s.find? key with
  | none =>
    cases w with
    | none => rfl
    | some m =>
      rw [Option.filter_some, if_neg]
      · rfl
      · intro hlt
        rw [h.keeps m rfl (of_decide_eq_true hlt)] at hf
        cases hf
  | some e =>
    obtain ⟨m, rfl, rfl⟩ := h.holds e hf
    rw [Option.filter_some, Option.filter_some, Mark.isExpired_stored]
    by_cases hlt : now < m.gone
    · simp [hlt]
    · simp [hlt, Nat.not_lt.1 hlt]

/-- A writing replaces what the key stood for. -/
theorem Store.Coherent.put {s : Store} (h : s.Coherent w key now) (wr : Writing) :
    (s.put wr.key ⟨payload wr.value, some (deadline now wr.ttl)⟩).Coherent (wr.marks key now w) key now := by
  unfold Writing.marks
  by_cases hk : wr.key = key
  · subst hk
    rw [if_pos rfl]
    have hfind : (s.put wr.key ⟨payload wr.value, some (deadline now wr.ttl)⟩).find? wr.key = _ :=
      Store.find?_put.trans (if_pos rfl)
    refine ⟨fun e he => ⟨_, rfl, ?_⟩, fun m hm _ => ?_⟩
    · rw [hfind] at he
      exact (Option.some.inj he).symm
    · cases hm
      exact hfind
  · rw [if_neg hk]
    have hfind : (s.put wr.key ⟨payload wr.value, some (deadline now wr.ttl)⟩).find? key = s.find? key :=
      Store.find?_put.trans (if_neg (Ne.symm hk))
    exact ⟨fun e he => h.holds e (hfind ▸ he), fun m hm hlt => hfind.trans (h.keeps m hm hlt)⟩

namespace Site

/-- Both tiers are coherent, each with what its key stands for there. -/
structure Coherent (lw sw : Option Mark) (key : String) (s : Site Store) : Prop where
  lru : s.node.lru.Coherent lw key
  store : s.store.inner.Coherent sw key s.now

namespace Coherent

variable {s s' s'' : Site Store} {α : Type}

theorem alike (h : s.Coherent lw sw key) (hs : s.Alike s') : s'.Coherent lw sw key :=
  ⟨by rw [hs.lru]; exact h.lru, by rw [hs.store, hs.now]; exact h.store⟩

theorem call (h : s.Coherent lw sw key) {r : Request α} {trip : Trip α} (ht : s.call r = (trip, s')) :
    s'.Coherent lw sw key := by
  obtain ⟨-, -, hs⟩ := call_spec ht
  exact ⟨by rw [hs.node]; exact h.lru, by rw [hs.inner, hs.now]; exact h.store⟩

/-- The clock has moved on, and purges were made. -/
theorem aged (h : s.Coherent lw sw key) (hnow : s.now ≤ s'.now) (hst : s'.store = s.store)
    (hn : s.node.Aged later s'.node) : s'.Coherent lw sw key :=
  ⟨h.lru.sub (Node.defaultTtl_of_frame hn.frame) fun e he => hn.old key e he, by rw [hst]; exact h.store.mono hnow⟩

theorem looked (h : s.Coherent lw sw key) (k : String) : (s.looked k).Coherent lw sw key :=
  ⟨h.lru.sub Lru.get_defaultTtl fun _ he => Lru.find?_of_find?_get he, h.store⟩

theorem join (h : s.Coherent lw sw key) (k : String) (ticket : Nat) : (s.join k ticket).Coherent lw sw key :=
  ⟨h.lru, h.store⟩

theorem leave (h : s.Coherent lw sw key) (k : String) (ticket : Nat) : (s.leave k ticket).Coherent lw sw key :=
  ⟨h.lru, h.store⟩

/-- The end of a trip that reads a key. -/
theorem asked (h : s.Coherent lw sw key) {trip : Trip (Option Bytes)} {reply : Except CacheError (Option Bytes)}
    (hf : s.finish trip = (reply, s')) (hr : trip.request = .get k) : s'.Coherent lw sw key := by
  have hl := finish_spec hf
  have hthin := thinned_of_finish hf hr
  refine ⟨by rw [hl.node]; exact h.lru, fun e he => h.store.holds e (hthin.old he), fun m hm hlt => ?_⟩
  rw [hl.now] at hlt
  have hkept := h.store.keeps m hm hlt
  -- a read drops what has expired, and this has not
  rcases hthin key with hsame | ⟨-, -, hx⟩
  · exact hsame.trans hkept
  · rw [hkept, Option.any_some, Mark.isExpired_stored, decide_eq_true_iff] at hx
    exact absurd hlt (Nat.not_lt.2 hx)

/-- A value that the shared tier has brought is copied. -/
theorem promoted (h : s.Coherent w w key) (hret : ∀ m ∈ w, m.Returns) {trip : Trip (Option Bytes)}
    {reply : Except CacheError (Option Bytes)} {v : Json} (hf : s.finish trip = (reply, s'))
    (hr : trip.request = .get k) (hv : valueOf? reply = some v) : (s'.promoted k (some v)).Coherent w w key := by
  have h' := h.asked hf hr
  have hl := finish_spec hf
  refine ⟨fun e he => ?_, h'.store⟩
  rcases Lru.find?_of_find?_set he with ⟨rfl, rfl⟩ | ⟨-, he⟩
  · obtain ⟨held, hlive, hd⟩ := live?_of_valueOf? hf hr hv
    -- what was brought lives, so a copy of it expires no later than the default time after it is gone
    rw [h.store.live?, Option.map_eq_some_iff] at hlive
    obtain ⟨m, hm, rfl⟩ := hlive
    rw [Option.filter_eq_some_iff, decide_eq_true_iff] at hm
    obtain ⟨hm, hlt⟩ := hm
    have heq : Except.ok v = Except.ok m.value := hd.symm.trans (hret m hm)
    refine ⟨m, hm, Except.ok.inj heq, ?_⟩
    show s'.now + min s'.node.lru.defaultTtl maxTtl ≤ m.gone + (Lru.set ..).2.defaultTtl
    rw [Lru.set_defaultTtl, hl.now]
    omega
  · obtain ⟨m, hm, hval, hle⟩ := h'.lru e he
    refine ⟨m, hm, hval, ?_⟩
    rwa [show (s'.promoted k (some v)).node.lru.defaultTtl = s'.node.lru.defaultTtl from Lru.set_defaultTtl]

/-- A writing reaches the local tier. -/
theorem written (h : s.Coherent w w key) (wr : Writing) : (s.written wr).Coherent (wr.marks key s.now w) w key := by
  have hd : (s.written wr).node.lru.defaultTtl = s.node.lru.defaultTtl := Lru.set_defaultTtl
  refine ⟨fun e he => ?_, h.store⟩
  unfold Writing.marks
  rw [hd]
  rcases Lru.find?_of_find?_set he with ⟨rfl, rfl⟩ | ⟨hne, he⟩
  · rw [if_pos rfl]
    exact ⟨_, rfl, rfl, Nat.le_add_right ..⟩
  · rw [if_neg (Ne.symm hne)]
    exact h.lru e he

/-- A writing reaches the shared tier. -/
theorem stored {wr : Writing} (h : s.Coherent (wr.marks key s.now w) w key) (ha : s.store.inner.available = true)
    {trip : Trip Unit} {reply : Except CacheError Unit} (hf : s.finish trip = (reply, s'))
    (hr : trip.request = wr.request) (hfail : trip.failure = none) :
    s'.Coherent (wr.marks key s.now w) (wr.marks key s.now w) key := by
  have hl := finish_spec hf
  have hans := finish_of_touches hfail (by rw [hr]; rfl) ha hf
  rw [hr] at hans
  have hput : s'.store.inner = s.store.inner.put wr.key ⟨payload wr.value, some (deadline s.now wr.ttl)⟩ :=
    (congrArg Prod.snd hans).symm
  refine ⟨by rw [hl.node]; exact h.lru, ?_⟩
  rw [hput, hl.now]
  exact h.store.put wr

/-- A removal has dropped from both tiers what it names. -/
theorem removed (h : s.Coherent w w key) (b : Invalidation) (hnow : s'.now = s.now)
    (hframe : s'.node.frame = s.node.frame) (hl : s'.node.lru = b.inLocal s.node.lru)
    (hs : s'.store.inner.find? key = (b.inShared s.now s.store.inner).find? key) :
    s'.Coherent (if b.Names key then none else w) (if b.Names key then none else w) key := by
  split
  · rename_i hk
    refine ⟨fun e he => ?_, fun e he => ?_, nofun⟩
    · rw [hl, Invalidation.find?_inLocal hk] at he
      cases he
    · rw [hs, Invalidation.find?_inShared hk] at he
      cases he
  · rename_i hk
    rw [Invalidation.find?_inShared_of_not hk] at hs
    refine ⟨h.lru.sub (Node.defaultTtl_of_frame hframe) fun e he => ?_, fun e he => h.store.holds e (hs ▸ he),
      fun m hm hlt => hs.trans (h.store.keeps m hm (hnow ▸ hlt))⟩
    rw [hl] at he
    exact Invalidation.find?_of_inLocal he

end Coherent

end Site

end TwoTier
