/-
Where the values in the tiers come from. A `Landing` is a writing that has reached a tier, and a tier
is backed by the landings so far when all it holds has landed, in itself or in the shared tier, and
will be gone in time. Every segment of a call keeps both tiers backed, by one more landing when it
completes a write, and a look-up is served nothing that is not backed.
-/
import TwoTier.Proofs.Call.Progress
import TwoTier.Proofs.MessagePack.JsonPayload
import TwoTier.Proofs.Store.Contents

namespace TwoTier

/-- A writing that has reached a tier. -/
structure Landing where
  /-- The instance whose local tier it has reached, or none for the shared tier. -/
  place : Option Nat
  write : Writing
  time : Nat

namespace Landing

/-- When what has landed is gone. -/
def gone (ℓ : Landing) : Nat := deadline ℓ.time ℓ.write.ttl

/-- What a tier gives back for what has landed in it: the local tier the value itself, the shared one
what the payload of the value decodes to. -/
def Wrote (ℓ : Landing) (v : Json) : Prop :=
  match ℓ.place with
  | some _ => v = ℓ.write.value
  | none => Payload.decode (payload ℓ.write.value) = .ok v

/-- Proper JSON comes back unchanged. -/
theorem Wrote.eq_of_isProper {ℓ : Landing} {v : Json} (h : ℓ.Wrote v) (hv : ℓ.write.value.IsProper) :
    ℓ.write.value = v := by
  unfold Wrote at h
  split at h
  · exact h.symm
  · have hd := Payload.decode_packJson hv []
    rw [List.append_nil, show (Payload.packJson _).write = payload ℓ.write.value from rfl, h] at hd
    split at hd
    · exact (Except.ok.inj hd).symm
    · cases hd

end Landing

/-- What lands when a call of an instance goes on. A `set` and a fetch that has ended with a value
write to the local tier at once, and to the shared one when the trip has not failed on the way and
the store is available. -/
def Task.landing? (i : Nat) (t : Task) (s : Site Store) : Option Landing :=
  (t.call.writes? s.node).bind fun w =>
    match t.call, t.phase with
    | .set _ _ _, .waiting _ => some ⟨some i, w, s.now⟩
    | _, .fetching _ _ => some ⟨some i, w, s.now⟩
    | _, .storing _ _ trip =>
      if trip.failure.isNone && s.store.inner.available then some ⟨none, w, s.now⟩ else none
    | _, _ => none

/-- The value that a look-up was served from a tier, and when. Who has fetched was served nothing. -/
def Task.served? (t : Task) : Option (Json × Nat) :=
  match t.phase with
  | .finished (.value (some v)) ended => some (v, ended)
  | .finished (.fetched (.ok (some v))) ended => if t.fetches = 0 then some (v, ended) else none
  | _ => none

/-! ## Where entries come from -/

namespace Site

variable {s s' s'' : Site Store} {α : Type}

/-- The second site has no entry that the first one lacks, in either tier. -/
structure Sheds (s s' : Site Store) : Prop where
  lru : ∀ {k e}, s'.node.lru.find? k = some e → s.node.lru.find? k = some e
  store : ∀ {k e}, s'.store.inner.find? k = some e → s.store.inner.find? k = some e

namespace Sheds

theorem refl (s : Site Store) : Sheds s s := ⟨id, id⟩

theorem trans (h : Sheds s s') (h' : Sheds s' s'') : Sheds s s'' :=
  ⟨fun he => h.lru (h'.lru he), fun he => h.store (h'.store he)⟩

theorem alike (h : Sheds s s') (h' : s'.Alike s'') : Sheds s s'' :=
  h.trans ⟨by rw [h'.lru]; exact id, by rw [h'.store]; exact id⟩

theorem call (h : Sheds s s') {r : Request α} {trip : Trip α} (ht : s'.call r = (trip, s'')) : Sheds s s'' := by
  obtain ⟨-, -, hs⟩ := call_spec ht
  exact h.trans ⟨by rw [hs.node]; exact id, by rw [hs.inner]; exact id⟩

theorem quiet (h : Sheds s s') (h' : s'.Quiet s'') : Sheds s s'' := by
  refine h.trans ⟨by rw [h'.lru]; exact id, fun {k e} he => ?_⟩
  rcases h'.store with hi | ⟨β, r, hr, hi⟩ <;> rw [hi] at he
  · exact he
  · exact (Store.find?_serve_of_not_touches hr).symm.trans he

theorem withLru (h : Sheds s s') {l : Lru Json} (hl : ∀ {k e}, l.find? k = some e → s'.node.lru.find? k = some e) :
    Sheds s (s'.withLru l) := h.trans ⟨hl, id⟩

theorem looked (s : Site Store) (key : String) : Sheds s (s.looked key) :=
  (refl s).withLru Lru.find?_of_find?_get

theorem join (h : Sheds s s') (key : String) (ticket : Nat) : Sheds s (s'.join key ticket) := h.trans ⟨id, id⟩

theorem leave (h : Sheds s s') (key : String) (ticket : Nat) : Sheds s (s'.leave key ticket) := h.trans ⟨id, id⟩

theorem setConnected (s : Site Store) (on : Bool) : Sheds s (s.setConnected on) := ⟨id, id⟩

/-- The end of a trip that writes nothing. -/
theorem of_finish {trip : Trip α} {reply : Except CacheError α} (hf : s.finish trip = (reply, s'))
    (hw : trip.request.written? = none) : Sheds s s' := by
  refine ⟨by rw [(finish_spec hf).node]; exact id, fun he => ?_⟩
  rcases find?_of_finish hf he with he | ⟨data, ttl, hr, -⟩
  · exact he
  · rw [hw] at hr
    cases hr

end Sheds

end Site

/-- A look-up copies what the store holds into the local tier. -/
structure Task.Copies (t : Task) (s : Site Store) (k : String) (e : Entry Json) : Prop where
  asks : ∃ trip, t.phase = .reading k trip ∨ t.phase = .rereading k trip
  held : ∃ h, s.store.inner.live? s.now k = some h ∧ Payload.decode h.data = .ok e.value
  entry : e = .written s.now e.value s.node.defaultTtl

/-- A key that the store lacks is not copied. -/
theorem Task.Copies.find?_ne_none {t : Task} {s : Site Store} {k : String} {e : Entry Json} (h : t.Copies s k e) :
    s.store.inner.find? k ≠ none := by
  obtain ⟨held, hlive, -⟩ := h.held
  rw [(Store.live?_eq_some_iff.1 hlive).1]
  exact nofun

/-- Whatever the tiers hold after a segment they held before, or the segment has brought it: a copy of
what the store holds, or what lands with it. -/
structure Task.Gains (i : Nat) (t : Task) (s s' : Site Store) : Prop where
  lru : ∀ {k e}, s'.node.lru.find? k = some e → s.node.lru.find? k = some e ∨ t.Copies s k e ∨
    ∃ w, t.landing? i s = some ⟨some i, w, s.now⟩ ∧ k = w.key ∧ e = .written s.now w.value w.ttl
  store : ∀ {k e}, s'.store.inner.find? k = some e → s.store.inner.find? k = some e ∨
    ∃ w, t.landing? i s = some ⟨none, w, s.now⟩ ∧ k = w.key ∧ e = ⟨payload w.value, some (deadline s.now w.ttl)⟩

namespace Task.Gains

variable {i : Nat} {t : Task} {s s' s'' : Site Store}

theorem of_sheds (h : s.Sheds s') : t.Gains i s s' := ⟨fun he => Or.inl (h.lru he), fun he => Or.inl (h.store he)⟩

theorem sheds (h : t.Gains i s s') (h' : s'.Sheds s'') : t.Gains i s s'' :=
  ⟨fun he => h.lru (h'.lru he), fun he => h.store (h'.store he)⟩

/-- A value that the shared tier has brought is copied. -/
theorem promoted {trip : Trip (Option Bytes)} {reply : Except CacheError (Option Bytes)} {key : String} {v : Json}
    (hf : s.finish trip = (reply, s')) (hr : trip.request = .get key) (hv : Site.valueOf? reply = some v)
    (hp : t.phase = .reading key trip ∨ t.phase = .rereading key trip) : t.Gains i s (s'.promoted key (some v)) := by
  have hsheds : s.Sheds s' := .of_finish hf (by rw [hr]; rfl)
  have hl := Site.finish_spec hf
  refine ⟨fun he => ?_, fun he => Or.inl (hsheds.store he)⟩
  rcases Lru.find?_of_find?_set he with ⟨rfl, rfl⟩ | ⟨-, he⟩
  · rw [hl.now, hl.node]
    exact Or.inr (Or.inl ⟨⟨trip, hp⟩, Site.live?_of_valueOf? hf hr hv, rfl⟩)
  · exact Or.inl (hsheds.lru he)

/-- A writing reaches the local tier. -/
theorem written {w : Writing} (hw : t.landing? i s = some ⟨some i, w, s.now⟩) : t.Gains i s (s.written w) := by
  refine ⟨fun he => ?_, Or.inl⟩
  rcases Lru.find?_of_find?_set he with ⟨rfl, rfl⟩ | ⟨-, he⟩
  · exact Or.inr (Or.inr ⟨w, hw, rfl, rfl⟩)
  · exact Or.inl he

/-- A writing reaches the shared tier. -/
theorem stored {w : Writing} {key : String} {evicted : Bool} {trip : Trip Unit} {reply : Except CacheError Unit}
    (hp : t.phase = .storing key evicted trip) (hw : t.call.writes? s.node = some w) (hr : trip.request = w.request)
    (hf : s.finish trip = (reply, s')) : t.Gains i s s' := by
  refine ⟨fun he => Or.inl (by rw [← (Site.finish_spec hf).node]; exact he), fun he => ?_⟩
  rcases Site.find?_of_finish hf he with he | ⟨data, ttl, hreq, hn, ha, rfl⟩
  · exact Or.inl he
  · rw [hr] at hreq
    cases hreq
    refine Or.inr ⟨w, ?_, rfl, rfl⟩
    simp only [Task.landing?, hw, Option.bind_some, hp, hn, ha]
    rfl

end Task.Gains

open Task.Gains in
theorem Segment.gains {s s' : Site Store} {t t' : Task} (h : Segment s s' t t') (hf : t.phase.Fits s.node t.call)
    (i : Nat) : t.Gains i s s' := by
  have hrefl := Site.Sheds.refl
  cases h with
  | hitLocal hc hv hs => exact of_sheds ((Site.Sheds.looked ..).alike hs)
  | missLocal hc hv hs ht => exact of_sheds (((Site.Sheds.looked ..).alike hs).call ht)
  | hitShared hf' hv hs =>
    obtain ⟨short, hc, hk, hr⟩ := hf.reading_inv
    exact (promoted hf' hr hv (Or.inl rfl)).sheds ((hrefl _).alike hs)
  | missGet hf' hv hs | fetchAtOnce hf' hv hco hs =>
    obtain ⟨short, hc, hk, hr⟩ := hf.reading_inv
    exact of_sheds ((Site.Sheds.of_finish hf' (by rw [hr]; rfl)).alike hs)
  | queue hf' hv hco hs =>
    obtain ⟨short, hc, hk, hr⟩ := hf.reading_inv
    exact of_sheds (((Site.Sheds.of_finish hf' (by rw [hr]; rfl)).join ..).alike hs)
  | rehitLocal hv hs => exact of_sheds (((Site.Sheds.looked ..).leave ..).alike hs)
  | remissLocal hv hs ht => exact of_sheds (((Site.Sheds.looked ..).alike hs).call ht)
  | rehitShared hf' hv hs =>
    cases hf with
    | rereading hco hr => exact (promoted hf' hr hv (Or.inr rfl)).sheds (((hrefl _).leave ..).alike hs)
  | remissShared hf' hv hs =>
    cases hf with
    | rereading hco hr => exact of_sheds ((Site.Sheds.of_finish hf' (by rw [hr]; rfl)).alike hs)
  | fetched ho hw hs ht =>
    -- only two segments write the local tier: this one what was fetched, the one of `put` what was given
    subst hw
    refine (written ?_).sheds (((hrefl _).alike hs).call ht)
    simp only [Task.landing?, Call.writes?, ho, Option.bind_some]
  | unfetched ho hs => exact of_sheds (((hrefl _).leave ..).alike hs)
  | put hw hs ht =>
    subst hw
    exact (written rfl).sheds (((hrefl _).alike hs).call ht)
  | stored hf' hs =>
    obtain ⟨w, hc, -, hr⟩ := hf.storing_inv
    exact (Task.Gains.stored rfl hc hr hf').sheds ((hrefl _).alike hs)
  | storedFetched hf' hs =>
    obtain ⟨w, hc, -, hr⟩ := hf.storing_inv
    exact (Task.Gains.stored rfl hc hr hf').sheds (((hrefl _).leave ..).alike hs)
  | drop hd ht =>
    refine of_sheds (((hrefl s).withLru fun he => ?_).call ht)
    obtain rfl := congrArg Prod.snd hd
    exact Lru.find?_of_find?_delete he
  | dropped hf' hq =>
    cases hf with
    | deleting hr => exact of_sheds ((Site.Sheds.of_finish hf' (by rw [hr]; rfl)).quiet hq)
  -- clearing leaves no entry to account for
  | dropAll ht => exact of_sheds (((hrefl s).withLru fun he => by cases he).call ht)
  | swept hf' hq =>
    cases hf with
    | sweeping hr => exact of_sheds ((Site.Sheds.of_finish hf' (by rw [hr]; rfl)).quiet hq)
  | aside hc hb' hi hfits hr hs hq =>
    refine of_sheds (Site.Sheds.quiet ?_ hq)
    rcases hs with rfl | ⟨-, on, rfl⟩
    · exact hrefl _
    · exact Site.Sheds.setConnected ..

/-! ## Backed values -/

/-- An instance may give a value out for a key before an instant: it has landed, in its own tier or the
shared one, and may be as old as its time to live and that of a copy allow. -/
def Backed (log : List Landing) (i ttl : Nat) (key : String) (v : Json) (now gone : Nat) : Prop :=
  ∃ ℓ ∈ log, ℓ.write.key = key ∧ (ℓ.place = none ∨ ℓ.place = some i) ∧ ℓ.Wrote v ∧ ℓ.time ≤ now ∧ gone ≤ ℓ.gone + ttl

variable {log log' : List Landing} {i ttl now now' gone gone' : Nat} {key k : String} {v : Json}

theorem Backed.mono (h : Backed log i ttl key v now gone) (hl : log ⊆ log') (hn : now ≤ now') (hg : gone' ≤ gone) :
    Backed log' i ttl key v now' gone' := by
  obtain ⟨ℓ, hmem, hk, hp, hw, ht, hle⟩ := h
  exact ⟨ℓ, hl hmem, hk, hp, hw, Nat.le_trans ht hn, Nat.le_trans hg hle⟩

/-- All that a local tier holds is backed. -/
def Lru.Backed (log : List Landing) (i now : Nat) (l : Lru Json) : Prop :=
  ∀ (key : String) (e : Entry Json), l.find? key = some e → TwoTier.Backed log i l.defaultTtl key e.value now e.deadline

/-- All that the store holds has landed there, and is gone in time. -/
def Store.Backed (log : List Landing) (now : Nat) (s : Store) : Prop :=
  ∀ (key : String) (e : Stored), s.find? key = some e →
    ∃ ℓ ∈ log, ℓ.place = none ∧ ℓ.write.key = key ∧ e = ⟨payload ℓ.write.value, some ℓ.gone⟩ ∧ ℓ.time ≤ now

namespace Lru.Backed

variable {l l' : Lru Json}

theorem mono (h : l.Backed log i now) (hl : log ⊆ log') (hn : now ≤ now') : l.Backed log' i now' :=
  fun key e he => (h key e he).mono hl hn (Nat.le_refl _)

/-- A tier with fewer entries is backed. -/
theorem sub (h : l.Backed log i now) (hd : l'.defaultTtl = l.defaultTtl)
    (hs : ∀ key e, l'.find? key = some e → l.find? key = some e) : l'.Backed log i now := by
  intro key e he
  rw [hd]
  exact h _ _ (hs _ _ he)

theorem delete (h : l.Backed log i now) (key : String) : (l.delete key).2.Backed log i now :=
  h.sub Lru.delete_defaultTtl fun _ _ he => Lru.find?_of_find?_delete he

theorem clear (h : l.Backed log i now) : l.clear.Backed log i now :=
  h.sub Lru.clear_defaultTtl fun k e he => by rw [Lru.find?_clear] at he; cases he

theorem purge (h : l.Backed log i now) (now' : Nat) : (l.purge now').2.Backed log i now :=
  h.sub Lru.purge_defaultTtl fun _ _ he => Lru.find?_of_find?_purge he

/-- What is read is backed. -/
theorem of_live? (h : l.Backed log i now) (hv : l.live? now' key = some v) :
    TwoTier.Backed log i l.defaultTtl key v now (now' + 1) := by
  obtain ⟨e, he, rfl, hlt⟩ := Lru.live?_eq_some_iff.1 hv
  exact (h key e he).mono (List.Subset.refl _) (Nat.le_refl _) hlt

end Lru.Backed

theorem Store.Backed.mono {s : Store} (h : s.Backed log now) (hl : log ⊆ log') (hn : now ≤ now') :
    s.Backed log' now' := by
  intro key e he
  obtain ⟨ℓ, hmem, hp, hk, hd, ht⟩ := h key e he
  exact ⟨ℓ, hl hmem, hp, hk, hd, Nat.le_trans ht hn⟩

/-- A copy of what is live in the store is backed for as long as copies live. -/
theorem Store.Backed.of_live? {s : Store} {e : Stored} (h : s.Backed log now) (he : s.live? now key = some e)
    (hv : Payload.decode e.data = .ok v) (i ttl : Nat) : TwoTier.Backed log i ttl key v now (now + 1 + ttl) := by
  obtain ⟨hf, hx⟩ := Store.live?_eq_some_iff.1 he
  obtain ⟨ℓ, hmem, hp, hk, rfl, ht⟩ := h key e hf
  have hlt : now < ℓ.gone := by simpa [Stored.isExpired, isExpired] using hx
  refine ⟨ℓ, hmem, hk, Or.inl hp, ?_, ht, by omega⟩
  unfold Landing.Wrote
  rw [hp]
  exact hv

/-! ## Sites -/

/-- Both tiers of an instance are backed. -/
structure Site.Backed (log : List Landing) (i : Nat) (s : Site Store) : Prop where
  lru : s.node.lru.Backed log i s.now
  store : s.store.inner.Backed log s.now

/-- What the shared tier brings is backed. -/
theorem Site.Backed.brought {s s' : Site Store} {trip : Trip (Option Bytes)} {reply : Except CacheError (Option Bytes)}
    (h : s.Backed log i) (hf : s.finish trip = (reply, s')) (hr : trip.request = .get key)
    (hv : Site.valueOf? reply = some v) : TwoTier.Backed log i s.node.defaultTtl key v s.now (s.now + 1) := by
  obtain ⟨e, he, hd⟩ := Site.live?_of_valueOf? hf hr hv
  exact (h.store.of_live? he hd i _).mono (List.Subset.refl _) (Nat.le_refl _) (Nat.le_add_right ..)

/-! ## Segments -/

namespace Segment

variable {s s' : Site Store} {t t' : Task}

/-- A segment keeps both tiers backed, by what lands with it. -/
theorem backed (h : Segment s s' t t') (hf : t.phase.Fits s.node t.call) (hb : s.Backed log i) :
    s'.Backed (log ++ (t.landing? i s).toList) i := by
  have hgains := h.gains hf i
  have hsub : log ⊆ log ++ (t.landing? i s).toList := List.subset_append_left ..
  have hmem : ∀ {ℓ : Landing}, t.landing? i s = some ℓ → ℓ ∈ log ++ (t.landing? i s).toList := fun hℓ => by
    rw [hℓ]
    exact List.mem_append_right _ (List.mem_singleton_self _)
  -- an entry was there before, or was copied from the store, or is what lands with this segment
  constructor
  · intro key e he
    rw [h.steady.now, show s'.node.lru.defaultTtl = s.node.lru.defaultTtl from Node.defaultTtl_of_frame h.steady.frame]
    rcases hgains.lru he with he | hcopy | ⟨w, hw, rfl, rfl⟩
    · exact (hb.lru key e he).mono hsub (Nat.le_refl _) (Nat.le_refl _)
    · obtain ⟨held, hlive, hd⟩ := hcopy.held
      refine (hb.store.of_live? hlive hd i _).mono hsub (Nat.le_refl _) ?_
      rw [hcopy.entry]
      show s.now + min s.node.lru.defaultTtl maxTtl ≤ _
      omega
    · exact ⟨_, hmem hw, rfl, Or.inr rfl, rfl, Nat.le_refl _, Nat.le_add_right ..⟩
  · intro key e he
    rw [h.steady.now]
    rcases hgains.store he with he | ⟨w, hw, rfl, rfl⟩
    · exact hb.store.mono hsub (Nat.le_refl _) key e he
    · exact ⟨_, hmem hw, rfl, rfl, rfl, Nat.le_refl _⟩

/-- A look-up that ends without a fetch is served what is backed. -/
theorem served (h : Segment s s' t t') (hf : t.phase.Fits s.node t.call) (hb : s.Backed log i) {short : String}
    (hc : t.call.reads? = some short) (ht : ∀ key evicted trip, t.phase = .storing key evicted trip → t.fetches ≠ 0)
    {v : Json} {ended : Nat} (hv : t'.served? = some (v, ended)) :
    ended = s.now ∧ TwoTier.Backed log i s.node.defaultTtl (s.node.fullKey short) v s.now (s.now + 1) := by
  -- only a call that has fetched nothing counts as served, and then with what it answers
  have hval : ∀ {c : Call} {k b m : Nat} {p : Option Nat} {w : Json}, c.reads? = some short →
      Task.served? ⟨c, k, .finished (c.replyOf (.ok (some w))) s.now, b, m, p⟩ = some (v, ended) →
      ended = s.now ∧ w = v := by
    intro c k b m p w hc hv
    cases c with
    | get _ => cases hv; exact ⟨rfl, rfl⟩
    | getOrFetch _ _ =>
      change (if m = 0 then some (w, s.now) else none) = _ at hv
      split at hv
      · cases hv; exact ⟨rfl, rfl⟩
      · cases hv
    | _ => cases hc
  cases h with
  | hitLocal hc' hl hs =>
    obtain ⟨rfl, rfl⟩ := hval hc hv
    rw [hc] at hc'
    cases hc'
    exact ⟨rfl, hb.lru.of_live? hl⟩
  | hitShared hf' hl hs =>
    obtain ⟨rfl, rfl⟩ := hval hc hv
    obtain ⟨short', hc', rfl, hr⟩ := hf.reading_inv
    rw [show Call.reads? _ = some short from hc] at hc'
    cases hc'
    exact ⟨rfl, hb.brought hf' hr hl⟩
  | rehitLocal hl hs =>
    obtain ⟨rfl, rfl⟩ := hval hc hv
    cases hf with
    | queued => cases hc; exact ⟨rfl, hb.lru.of_live? hl⟩
  | rehitShared hf' hl hs =>
    obtain ⟨rfl, rfl⟩ := hval hc hv
    cases hf with
    | rereading hco hr => cases hc; exact ⟨rfl, hb.brought hf' hr hl⟩
  | unfetched ho hs =>
    rename_i k b m p _ fetch key due
    cases hfo : fetch.outcome with
    | error e => rw [hfo] at hv; cases hv
    | ok o =>
      cases o with
      | none => rw [hfo] at hv; cases hv
      | some w => exact absurd hfo (ho w)
  | storedFetched hf' hs =>
    rename_i k b m p _ fetch key evicted trip reply s₁
    -- a look-up that stores has fetched what it stores
    have hm : m ≠ 0 := ht _ _ _ rfl
    unfold Task.served? at hv
    dsimp only at hv
    split at hv
    · rename_i heq; cases heq
    · rw [if_neg hm] at hv; cases hv
    · cases hv
  | put | stored | drop | dropped | dropAll | swept => cases hc
  | aside hc' => rw [show Call.reads? _ = some short from hc] at hc'; cases hc'
  | _ => cases hv

end Segment

end TwoTier
