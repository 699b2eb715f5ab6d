/-
What the segments of a call can do. A call goes through phases that fit it, with trips that ask what
the call asks (`Phase.Fits`), and `Segment` lists, once for all, what a single segment may do to the
call and to its site, up to what is counted. `segment_step` says that every step is one of these.
-/
import TwoTier.Proofs.Site.Trips

namespace TwoTier

/-- What a call looks up. -/
def Call.reads? : Call → Option String
  | .get key => some key
  | .getOrFetch key _ => some key
  | _ => none

/-- The calls that use the cache: they read it, write it or remove from it. -/
def Call.usesCache : Call → Bool
  | .get _ => true
  | .getOrFetch _ _ => true
  | .set _ _ _ => true
  | .delete _ => true
  | .deletePattern _ => true
  | _ => false

/-- A value on its way into both tiers. -/
structure Writing where
  key : String
  value : Json
  ttl : Nat

/-- What a call writes if it comes to that. -/
def Call.writes? (n : Node) : Call → Option Writing
  | .set key v ttl => some ⟨n.fullKey key, v, ttl.getD n.defaultTtl⟩
  | .getOrFetch key fetch =>
    match fetch.outcome with
    | .ok (some v) => some ⟨n.fullKey key, v, n.defaultTtl⟩
    | _ => none
  | _ => none

theorem Call.key_of_writes? {n : Node} {call : Call} {w : Writing} (h : call.writes? n = some w) :
    ∃ key, w.key = n.fullKey key := by
  cases call with
  | set key v ttl =>
    cases h
    exact ⟨key, rfl⟩
  | getOrFetch key fetch =>
    unfold writes? at h
    dsimp only at h
    split at h
    · cases h
      exact ⟨key, rfl⟩
    · cases h
  | _ => cases h

/-- The bytes that stand for a value in the shared tier. -/
def payload (v : Json) : Bytes := (Payload.packJson v).write

/-- What a writing asks of the store. -/
def Writing.request (w : Writing) : Request Unit := .set w.key (payload w.value) (some w.ttl)

/-- When a fetch that starts now will end. -/
def Fetch.due (f : Fetch) (now : Nat) : Nat := f.delay.elim now (wakeAt now)

namespace Site

variable {σ : Type}

/-- The site after a look into the local tier. -/
def looked (s : Site σ) (key : String) : Site σ := s.withLru (s.node.lru.get s.now key).2

/-- The site after a writing has reached the local tier. -/
def written (s : Site σ) (w : Writing) : Site σ := s.withLru (s.node.lru.set s.now w.key w.value (some w.ttl)).2

end Site

/-! ## Phases that fit a call -/

/-- A phase in which no key is under way. -/
def Phase.isIdle : Phase → Bool
  | .announcing _ _ => true
  | .inspecting _ _ => true
  | .probing _ => true
  | .dialing _ _ _ => true
  | .resting _ _ _ => true
  | .hangingUp _ => true
  | .finished _ _ => true
  | _ => false

/-- The phases a call of an instance goes through. -/
inductive Phase.Fits (n : Node) : Call → Phase → Prop where
  | waiting {c start} : Fits n c (.waiting start)
  | reading {c key trip} (hc : c.reads? = some key) (hr : trip.request = .get (n.fullKey key)) :
    Fits n c (.reading (n.fullKey key) trip)
  | queued {key fetch} (hco : n.coalesce = true) : Fits n (.getOrFetch key fetch) (.queued (n.fullKey key))
  | rereading {key fetch trip} (hco : n.coalesce = true) (hr : trip.request = .get (n.fullKey key)) :
    Fits n (.getOrFetch key fetch) (.rereading (n.fullKey key) trip)
  | fetching {key fetch due} : Fits n (.getOrFetch key fetch) (.fetching (n.fullKey key) due)
  | storing {c w evicted trip} (hc : c.writes? n = some w) (hr : trip.request = w.request) :
    Fits n c (.storing w.key evicted trip)
  | deleting {key resident trip} (hr : trip.request = .delete (n.fullKey key)) :
    Fits n (.delete key) (.deleting (n.fullKey key) resident trip)
  | sweeping {pattern trip} (hr : trip.request = .deletePattern (n.remote.scopedPattern pattern)) :
    Fits n (.deletePattern pattern) (.sweeping (n.remote.scopedPattern pattern) trip)
  | announcing {c reply trip channel message} (hc : (∃ key, c = .delete key) ∨ ∃ pattern, c = .deletePattern pattern)
      (hr : trip.request = .publish channel message) :
    Fits n c (.announcing reply trip)
  | inspecting {localTier trip} (hr : trip.request = .info) : Fits n .stats (.inspecting localTier trip)
  | probing {trip} (hr : trip.request = .ping) : Fits n .health (.probing trip)
  | dialing {attempt left trip} (hr : trip.request = .connect) : Fits n .connect (.dialing attempt left trip)
  | resting {attempt left due} : Fits n .connect (.resting attempt left due)
  | hangingUp {trip} (hr : trip.request = .disconnect) : Fits n .shutdown (.hangingUp trip)
  | finished {c reply ended} : Fits n c (.finished reply ended)
  | cancelled {c ended} : Fits n c (.cancelled ended)

/-! ## Segments -/

variable {σ : Type} [Backend σ]

/-- What one segment may make of a call while the site goes from `s` to `s'`. -/
inductive Segment (s s' : Site σ) : Task → Task → Prop where
  -- a look-up begins
  | hitLocal {c k start b m p key v} (hc : c.reads? = some key)
      (hv : s.node.lru.live? s.now (s.node.fullKey key) = some v)
      (hs : (s.looked (s.node.fullKey key)).Alike s') :
    Segment s s' ⟨c, k, .waiting start, b, m, p⟩ ⟨c, k, .finished (c.replyOf (.ok (some v))) s.now, s.now, m, p⟩
  | missLocal {c k start b m p key trip s₁} (hc : c.reads? = some key)
      (hv : s.node.lru.live? s.now (s.node.fullKey key) = none)
      (hs : (s.looked (s.node.fullKey key)).Alike s₁) (ht : s₁.call (.get (s.node.fullKey key)) = (trip, s')) :
    Segment s s' ⟨c, k, .waiting start, b, m, p⟩ ⟨c, k, .reading (s.node.fullKey key) trip, s.now, m, p⟩
  -- the shared tier has answered
  | hitShared {c k b m p key trip reply v s₁} (hf : s.finish trip = (reply, s₁)) (hv : Site.valueOf? reply = some v)
      (hs : (s₁.promoted key (some v)).Alike s') :
    Segment s s' ⟨c, k, .reading key trip, b, m, p⟩ ⟨c, k, .finished (c.replyOf (.ok (some v))) s.now, b, m, p⟩
  | missGet {k b m p short key trip reply s₁} (hf : s.finish trip = (reply, s₁)) (hv : Site.valueOf? reply = none)
      (hs : s₁.Alike s') :
    Segment s s' ⟨.get short, k, .reading key trip, b, m, p⟩ ⟨.get short, k, .finished (.value none) s.now, b, m, p⟩
  | queue {k b m p short fetch key trip reply s₁} (hf : s.finish trip = (reply, s₁)) (hv : Site.valueOf? reply = none)
      (hco : s.node.coalesce = true) (hs : (s₁.join key k).Alike s') :
    Segment s s' ⟨.getOrFetch short fetch, k, .reading key trip, b, m, p⟩
      ⟨.getOrFetch short fetch, k, .queued key, b, m, p⟩
  | fetchAtOnce {k b m p short fetch key trip reply s₁} (hf : s.finish trip = (reply, s₁))
      (hv : Site.valueOf? reply = none) (hco : s.node.coalesce = false) (hs : s₁.Alike s') :
    Segment s s' ⟨.getOrFetch short fetch, k, .reading key trip, b, m, p⟩
      ⟨.getOrFetch short fetch, k, .fetching key (fetch.due s.now), b, m + 1, p⟩
  -- the turn has come
  | rehitLocal {k b m p short fetch key v} (hv : s.node.lru.live? s.now key = some v)
      (hs : ((s.looked key).leave key k).Alike s') :
    Segment s s' ⟨.getOrFetch short fetch, k, .queued key, b, m, p⟩
      ⟨.getOrFetch short fetch, k, .finished (.fetched (.ok (some v))) s.now, b, m, p⟩
  | remissLocal {k b m p short fetch key trip s₁} (hv : s.node.lru.live? s.now key = none)
      (hs : (s.looked key).Alike s₁) (ht : s₁.call (.get key) = (trip, s')) :
    Segment s s' ⟨.getOrFetch short fetch, k, .queued key, b, m, p⟩
      ⟨.getOrFetch short fetch, k, .rereading key trip, b, m, p⟩
  | rehitShared {k b m p short fetch key trip reply v s₁} (hf : s.finish trip = (reply, s₁))
      (hv : Site.valueOf? reply = some v) (hs : ((s₁.promoted key (some v)).leave key k).Alike s') :
    Segment s s' ⟨.getOrFetch short fetch, k, .rereading key trip, b, m, p⟩
      ⟨.getOrFetch short fetch, k, .finished (.fetched (.ok (some v))) s.now, b, m, p⟩
  | remissShared {k b m p short fetch key trip reply s₁} (hf : s.finish trip = (reply, s₁))
      (hv : Site.valueOf? reply = none) (hs : s₁.Alike s') :
    Segment s s' ⟨.getOrFetch short fetch, k, .rereading key trip, b, m, p⟩
      ⟨.getOrFetch short fetch, k, .fetching key (fetch.due s.now), b, m + 1, p⟩
  -- the fetch has ended
  | fetched {k b m p short fetch due v w trip s₁} (ho : fetch.outcome = .ok (some v))
      (hw : w = ⟨s.node.fullKey short, v, s.node.defaultTtl⟩) (hs : (s.written w).Alike s₁)
      (ht : s₁.call w.request = (trip, s')) :
    Segment s s' ⟨.getOrFetch short fetch, k, .fetching w.key due, b, m, p⟩
      ⟨.getOrFetch short fetch, k, .storing w.key (s.node.lru.set s.now w.key w.value (some w.ttl)).1 trip, b, m, p⟩
  | unfetched {k b m p short fetch key due} (ho : ∀ v, fetch.outcome ≠ .ok (some v))
      (hs : (s.leave key k).Alike s') :
    Segment s s' ⟨.getOrFetch short fetch, k, .fetching key due, b, m, p⟩
      ⟨.getOrFetch short fetch, k, .finished (.fetched fetch.outcome) s.now, b, m, p⟩
  -- writes
  | put {k start b m p short v ttl w trip s₁} (hw : w = ⟨s.node.fullKey short, v, ttl.getD s.node.defaultTtl⟩)
      (hs : (s.written w).Alike s₁) (ht : s₁.call w.request = (trip, s')) :
    Segment s s' ⟨.set short v ttl, k, .waiting start, b, m, p⟩
      ⟨.set short v ttl, k, .storing w.key (s.node.lru.set s.now w.key w.value (some w.ttl)).1 trip, s.now, m, p⟩
  | stored {k b m p short v ttl key evicted trip reply s₁} (hf : s.finish trip = (reply, s₁)) (hs : s₁.Alike s') :
    Segment s s' ⟨.set short v ttl, k, .storing key evicted trip, b, m, p⟩
      ⟨.set short v ttl, k, .finished .done s.now, b, m, p⟩
  | storedFetched {k b m p short fetch key evicted trip reply s₁} (hf : s.finish trip = (reply, s₁))
      (hs : (s₁.leave key k).Alike s') :
    Segment s s' ⟨.getOrFetch short fetch, k, .storing key evicted trip, b, m, p⟩
      ⟨.getOrFetch short fetch, k, .finished (.fetched fetch.outcome) s.now, b, m, p⟩
  -- removals
  | drop {k start b m p short resident lru trip}
      (hd : s.node.lru.delete (s.node.fullKey short) = (resident, lru))
      (ht : (s.withLru lru).call (.delete (s.node.fullKey short)) = (trip, s')) :
    Segment s s' ⟨.delete short, k, .waiting start, b, m, p⟩
      ⟨.delete short, k, .deleting (s.node.fullKey short) resident trip, s.now, m, p⟩
  | dropped {k b m p short key resident trip reply ph s₁} (hf : s.finish trip = (reply, s₁)) (hq : s₁.Quiet s')
      (hi : ph.isIdle = true) (hfits : ph.Fits s.node (.delete short)) (hr : ∀ a, ph.rank a ≤ 1) :
    Segment s s' ⟨.delete short, k, .deleting key resident trip, b, m, p⟩ ⟨.delete short, k, ph, b, m, p⟩
  | dropAll {k start b m p pattern trip}
      (ht : (s.withLru s.node.lru.clear).call (.deletePattern (s.node.remote.scopedPattern pattern)) = (trip, s')) :
    Segment s s' ⟨.deletePattern pattern, k, .waiting start, b, m, p⟩
      ⟨.deletePattern pattern, k, .sweeping (s.node.remote.scopedPattern pattern) trip, s.now, m, p⟩
  | swept {k b m p short pattern trip reply ph s₁} (hf : s.finish trip = (reply, s₁)) (hq : s₁.Quiet s')
      (hi : ph.isIdle = true) (hfits : ph.Fits s.node (.deletePattern short)) (hr : ∀ a, ph.rank a ≤ 1) :
    Segment s s' ⟨.deletePattern short, k, .sweeping pattern trip, b, m, p⟩ ⟨.deletePattern short, k, ph, b, m, p⟩
  -- whatever touches no key
  | aside {c k ph ph' b b' m p s₁} (hc : c.reads? = none) (hb : ph.line? = none) (hi : ph'.isIdle = true)
      (hfits : ph'.Fits s.node c) (hr : ph'.rank s.link.attempts < ph.rank s.link.attempts)
      (hs : s₁ = s ∨ (c = .connect ∨ c = .shutdown) ∧ ∃ on, s₁ = s.setConnected on) (hq : s₁.Quiet s') :
    Segment s s' ⟨c, k, ph, b, m, p⟩ ⟨c, k, ph', b', m, p⟩

/-! ## Every step is a segment -/

variable {s s' : Site σ} {t t' : Task} {c : Call} {k start b m : Nat} {p : Option Nat}

omit [Backend σ] in
/-- An answer ends the call and is entered into the books. -/
theorem answer_spec {served : Bool} {r : Except String (Option Json)} (h : t.answer served r s = (t', s')) :
    t' = { t with phase := .finished (t.call.replyOf r) s.now } ∧ s.Alike s' := by
  cases h; exact ⟨rfl, Site.alike_record ..⟩

theorem segment_lookup {key : String} (hc : c.reads? = some key)
    (h : Task.lookup ⟨c, k, .waiting start, s.now, m, p⟩ (s.node.fullKey key) s = (t', s')) :
    Segment s s' ⟨c, k, .waiting start, b, m, p⟩ t' := by
  unfold Task.lookup at h
  rcases hl : s.lookupLocal (s.node.fullKey key) with ⟨_ | v, s₁⟩ <;>
    obtain ⟨hv, hs⟩ := Site.lookupLocal_spec hl <;> rw [hl] at h
  · rcases ht : s₁.call (.get (s.node.fullKey key)) with ⟨trip, s₂⟩
    simp only [ht] at h
    cases h
    exact .missLocal hc hv.symm hs ht
  · obtain ⟨rfl, ha⟩ := answer_spec h
    rw [hs.now]
    exact .hitLocal hc hv.symm (hs.trans ha)

/-- A look-up that both tiers have missed goes on by the kind of call. -/
theorem segment_miss {short key : String} {trip : Trip (Option Bytes)} {reply : Except CacheError (Option Bytes)}
    {s₁ s₂ : Site σ} (hc : c.reads? = some short) (hf : s.finish trip = (reply, s₁)) (hv : Site.valueOf? reply = none)
    (hs : s₁.Alike s₂) (h : Task.miss ⟨c, k, .reading key trip, b, m, p⟩ key s₂ = (t', s')) :
    Segment s s' ⟨c, k, .reading key trip, b, m, p⟩ t' := by
  have hl := Site.finish_spec hf
  have hnow : s₂.now = s.now := hs.now.trans hl.now
  have hco : s₂.node.coalesce = s.node.coalesce := by rw [hs.coalesce, hl.node]
  unfold Task.miss at h
  -- a plain look-up ends with the miss; one with a fetch queues for it, or starts it if nothing is shared
  cases c with
  | get _ =>
    obtain ⟨rfl, ha⟩ := answer_spec h
    rw [hnow]
    exact .missGet hf hv (hs.trans ha)
  | getOrFetch _ fetch =>
    dsimp only at h
    split at h
    · rename_i hc
      cases h
      exact .queue hf hv (hco ▸ hc) (hs.join ..)
    · rename_i hc
      cases h
      rw [hnow]
      exact .fetchAtOnce hf hv (hco ▸ Bool.eq_false_iff.2 hc) hs
  | _ => cases hc

omit [Backend σ] in
/-- A write reaches the local tier and sets out for the shared one. -/
theorem write_spec {key : String} {v : Json} {ttl : Option Nat} {w : Writing}
    (hw : w = ⟨key, v, ttl.getD s.node.defaultTtl⟩) (h : t.write key v ttl s = (t', s')) :
    ∃ trip, (s.written w).call w.request = (trip, s') ∧
      t' = { t with phase := .storing w.key (s.node.lru.set s.now w.key w.value (some w.ttl)).1 trip } := by
  subst hw
  unfold Task.write Site.put at h
  unfold Site.written Writing.request payload
  dsimp only at h ⊢
  rcases hl : s.node.lru.set s.now key v (some (ttl.getD s.node.defaultTtl)) with ⟨evicted, lru⟩
  rw [hl] at h
  dsimp only at h ⊢
  rcases ht : (s.withLru lru).call (.set key (Payload.packJson v).write (some (ttl.getD s.node.defaultTtl)))
    with ⟨trip, s₁⟩
  rw [ht] at h
  cases h
  exact ⟨trip, rfl, rfl⟩

/-- What is announced is the end of a removal. -/
theorem announce_spec {body : Invalidation} {reply : Reply} {n : Node}
    (hc : (∃ key, t.call = .delete key) ∨ ∃ pattern, t.call = .deletePattern pattern)
    (h : t.announce body reply s = (t', s')) :
    s.Quiet s' ∧ ∃ ph, t' = { t with phase := ph } ∧ ph.isIdle = true ∧ (∀ a, ph.rank a ≤ 1) ∧ ph.Fits n t.call := by
  unfold Task.announce at h
  cases hch : s.node.channel with
  | none =>
    rw [hch] at h
    cases h
    exact ⟨.refl s, _, rfl, rfl, fun _ => Nat.zero_le _, .finished⟩
  | some channel =>
    rcases ht : s.call (.publish channel (Message.encode ⟨s.node.id, body⟩)) with ⟨trip, s₁⟩
    simp only [hch, ht] at h
    cases h
    obtain ⟨hr, -, hs⟩ := Site.call_spec ht
    exact ⟨.of_setOff hs, _, rfl, rfl, fun _ => Nat.le_refl _, .announcing hc hr⟩

omit [Backend σ] in
/-- The end of a deletion is entered and then announced. -/
theorem endDelete_spec {key : String} {resident : Bool} {reply : Except CacheError Bool}
    (h : t.endDelete key resident reply s = (t', s')) : ∃ s₁, s.Alike s₁ ∧
      t.announce (.key key) (.removed (resident || reply.toOption.getD false)) s₁ = (t', s') := by
  have ha : s.Alike (if resident then s.record (.delete .l1) else s) := by
    split
    · exact Site.alike_record ..
    · exact .refl s
  exact ⟨_, ha.trans (Site.alike_settle ..), h⟩

omit [Backend σ] in
/-- So is the end of the deletion of many keys. -/
theorem endSweep_spec {pattern : String} {reply : Except CacheError Nat} (h : t.endSweep pattern reply s = (t', s')) :
    ∃ s₁, s.Alike s₁ ∧ t.announce (.pattern pattern) (.swept (reply.toOption.getD 0)) s₁ = (t', s') :=
  ⟨_, Site.alike_settle .., h⟩

/-- A trip of an idle phase sets out. -/
theorem segment_setOff {β : Type} {r : Request β} {trip : Trip β} {ph ph' : Phase} (ht : s.call r = (trip, s'))
    (hc : c.reads? = none) (hb : ph.line? = none) (hi : ph'.isIdle = true)
    (hf : trip.request = r → ph'.Fits s.node c) (hr : ph'.rank s.link.attempts < ph.rank s.link.attempts) :
    Segment s s' ⟨c, k, ph, b, m, p⟩ ⟨c, k, ph', s.now, m, p⟩ := by
  obtain ⟨hreq, -, hset⟩ := Site.call_spec ht
  exact .aside hc hb hi (hf hreq) hr (Or.inl rfl) (.of_setOff hset)

theorem segment_start (h : Task.start ⟨c, k, .waiting start, b, m, p⟩ s = (t', s')) :
    Segment s s' ⟨c, k, .waiting start, b, m, p⟩ t' := by
  unfold Task.start at h
  cases c with
  | get key => exact segment_lookup rfl h
  | getOrFetch key fetch => exact segment_lookup rfl h
  | set key v ttl =>
    obtain ⟨trip, ht, rfl⟩ := write_spec rfl h
    exact .put rfl (.refl _) ht
  | delete key =>
    rcases hd : s.node.lru.delete (s.node.fullKey key) with ⟨resident, lru⟩
    rcases ht : (s.withLru lru).call (.delete (s.node.fullKey key)) with ⟨trip, s₁⟩
    simp only [hd, ht] at h
    cases h
    exact .drop hd ht
  | deletePattern pattern =>
    rcases ht : (s.withLru s.node.lru.clear).call (.deletePattern (s.node.remote.scopedPattern pattern)) with ⟨trip, s₁⟩
    simp only [ht] at h
    cases h
    exact .dropAll ht
  | stats =>
    dsimp only at h
    split at h
    · rcases ht : s.call .info with ⟨trip, s₁⟩
      simp only [ht] at h
      cases h
      exact segment_setOff ht rfl rfl rfl .inspecting (by simp [Phase.rank])
    · cases h
      exact .aside rfl rfl rfl .finished (by simp [Phase.rank]) (Or.inl rfl) (.refl s)
  | health =>
    dsimp only at h
    split at h
    · rcases ht : s.call .ping with ⟨trip, s₁⟩
      simp only [ht] at h
      cases h
      exact segment_setOff ht rfl rfl rfl .probing (by simp [Phase.rank])
    · cases h
      exact .aside rfl rfl rfl .finished (by simp [Phase.rank]) (Or.inl rfl) (.refl s)
  | connect =>
    rcases ht : s.dial with ⟨trip, s₁⟩
    simp only [Task.dial, ht] at h
    cases h
    obtain ⟨hr, -, hset⟩ := Site.dial_spec ht
    exact .aside rfl rfl rfl (.dialing hr) (by simp [Phase.rank]; omega) (Or.inl rfl) (.of_setOff hset)
  | shutdown =>
    rcases ht : s.hangUp with ⟨trip, s₁⟩
    simp only [ht] at h
    cases h
    obtain ⟨hr, -, hset⟩ := Site.hangUp_spec ht
    exact .aside rfl rfl rfl (.hangingUp hr) (by simp [Phase.rank]) (Or.inr ⟨Or.inr rfl, _, rfl⟩) (.of_setOff hset)

/-- The fetch has ended: a value is written, and anything else is the answer. -/
theorem segment_endFetch {short : String} {fetch : Fetch} {due : Nat}
    (h : Task.endFetch ⟨.getOrFetch short fetch, k, .fetching (s.node.fullKey short) due, b, m, p⟩ (s.node.fullKey short)
      fetch s = (t', s')) :
    Segment s s' ⟨.getOrFetch short fetch, k, .fetching (s.node.fullKey short) due, b, m, p⟩ t' := by
  dsimp only [Task.endFetch] at h
  have ha := s.alike_record (.fetch fetch.kind)
  split at h
  · rename_i v ho
    obtain ⟨trip, ht, rfl⟩ := write_spec rfl h
    exact .fetched ho rfl (ha.withLru _) ht
  · rename_i ho
    obtain ⟨rfl, ha'⟩ := answer_spec h
    exact .unfetched (fun v hv => ho v hv) ((ha.leave ..).trans ha')

/-- The shared tier has answered to a write. -/
theorem segment_endStore {w : Writing} {evicted : Bool} {trip : Trip Unit} {reply : Except CacheError Unit} {s₁ : Site σ}
    (hc : c.writes? s.node = some w) (hf : s.finish trip = (reply, s₁))
    (h : Task.endStore ⟨c, k, .storing w.key evicted trip, b, m, p⟩ w.key evicted reply s₁ = (t', s')) :
    Segment s s' ⟨c, k, .storing w.key evicted trip, b, m, p⟩ t' := by
  have hnow := (Site.finish_spec hf).now
  have ha := ((Site.alike_record s₁ (.set .l1)).trans (Site.alike_recordEviction _ evicted)).trans
    (Site.alike_settle _ "set" (fun _ => some (.set .l2)) reply)
  unfold Task.endStore at h
  cases c with
  | set key v ttl =>
    cases h
    rw [ha.now, hnow]
    exact .stored hf ha
  | getOrFetch key fetch =>
    obtain ⟨rfl, ha'⟩ := answer_spec h
    rw [(ha.leave ..).now, show (s₁.leave w.key k).now = s.now from hnow]
    exact .storedFetched hf ((ha.leave ..).trans ha')
  | _ => cases hc

/-- The store has answered to an attempt to connect. -/
theorem segment_dialing {attempt left : Nat} {trip : Trip Unit} (hr : trip.request = .connect)
    (h : Task.step ⟨.connect, k, .dialing attempt left trip, b, m, p⟩ s = (t', s')) :
    Segment s s' ⟨.connect, k, .dialing attempt left trip, b, m, p⟩ t' := by
  unfold Task.step at h
  rcases hf : s.finish trip with ⟨e | _, s₁⟩ <;> have hl := Site.finish_spec hf <;>
    have hq := Site.Quiet.of_landed hl (by rw [hr]; rfl) <;> simp only [hf] at h
  · cases left with
    | zero =>
      cases h
      exact .aside rfl rfl rfl .finished Nat.one_pos (Or.inr ⟨Or.inl rfl, false, rfl⟩) (hq.setConnected false)
    | succ left =>
      cases h
      exact .aside rfl rfl rfl .resting (Nat.lt_succ_self _) (Or.inl rfl) hq
  · cases h
    exact .aside rfl rfl rfl .finished (Nat.succ_pos _) (Or.inr ⟨Or.inl rfl, true, rfl⟩) (hq.setConnected true)

/-- Every step of a call in a phase that fits it is one of the segments. -/
theorem segment_step (hf : t.phase.Fits s.node t.call) (ho : t.phase.isOver = false) (h : t.step s = (t', s')) :
    Segment s s' t t' := by
  obtain ⟨c, k, ph, b, m, p⟩ := t
  unfold Task.step at h
  -- the phase fits the call, so each case knows what its trip asked for
  cases hf with
  | waiting => exact segment_start h
  | reading hc hr =>
    rename_i key trip
    rcases hf : s.finish trip with ⟨reply, s₁⟩
    rcases hl : s₁.lookupShared (s.node.fullKey key) reply with ⟨_ | v, s₂⟩ <;>
      obtain ⟨hv, hs⟩ := Site.lookupShared_spec hl <;> simp only [hf, hl] at h
    · exact segment_miss hc hf hv.symm hs h
    · obtain ⟨rfl, ha⟩ := answer_spec h
      rw [hs.now, show (s₁.promoted _ (some v)).now = s.now from (Site.finish_spec hf).now]
      exact .hitShared hf hv.symm (hs.trans ha)
  | queued hco =>
    rename_i key fetch
    rcases hl : s.recheckLocal (s.node.fullKey key) with ⟨_ | v, s₁⟩ <;>
      obtain ⟨hv, hs⟩ := Site.recheckLocal_spec hl <;> simp only [hl] at h
    · rcases ht : s₁.call (.get (s.node.fullKey key)) with ⟨trip, s₂⟩
      rw [ht] at h
      cases h
      exact .remissLocal hv.symm hs ht
    · obtain ⟨rfl, ha⟩ := answer_spec h
      rw [(hs.leave ..).now]
      exact .rehitLocal hv.symm ((hs.leave ..).trans ha)
  | rereading hco hr =>
    rename_i key fetch trip
    rcases hf : s.finish trip with ⟨reply, s₁⟩
    have hnow := (Site.finish_spec hf).now
    rcases hl : s₁.recheckShared (s.node.fullKey key) reply with ⟨_ | v, s₂⟩ <;>
      obtain ⟨hv, hs⟩ := Site.recheckShared_spec hl <;> simp only [hf, hl] at h
    · cases h
      rw [hs.now, show (s₁.promoted _ none).now = s.now from hnow]
      exact .remissShared hf hv.symm hs
    · obtain ⟨rfl, ha⟩ := answer_spec h
      rw [(hs.leave ..).now, show ((s₁.promoted _ (some v)).leave _ k).now = s.now from hnow]
      exact .rehitShared hf hv.symm ((hs.leave ..).trans ha)
  | fetching => exact segment_endFetch h
  | storing hc hr =>
    rename_i w evicted trip
    rcases hf : s.finish trip with ⟨reply, s₁⟩
    simp only [hf] at h
    exact segment_endStore hc hf h
  | deleting hr =>
    rename_i key resident trip
    rcases hf : s.finish trip with ⟨reply, s₁⟩
    simp only [hf] at h
    obtain ⟨s₂, ha, h⟩ := endDelete_spec h
    obtain ⟨hq, ph, rfl, hi, hr, hfits⟩ := announce_spec (Or.inl ⟨key, rfl⟩) h
    exact .dropped hf (.trans_alike ha hq) hi hfits hr
  | sweeping hr =>
    rename_i pattern trip
    rcases hf : s.finish trip with ⟨reply, s₁⟩
    simp only [hf] at h
    obtain ⟨s₂, ha, h⟩ := endSweep_spec h
    obtain ⟨hq, ph, rfl, hi, hr, hfits⟩ := announce_spec (Or.inr ⟨pattern, rfl⟩) h
    exact .swept hf (.trans_alike ha hq) hi hfits hr
  | announcing hc hr =>
    rename_i reply trip channel message
    have hread : c.reads? = none := by rcases hc with ⟨_, rfl⟩ | ⟨_, rfl⟩ <;> rfl
    rcases hf : s.finish trip with ⟨published, s₁⟩
    simp only [hf] at h
    cases h
    exact .aside hread rfl rfl .finished Nat.one_pos (Or.inl rfl)
      ((Site.Quiet.of_landed (Site.finish_spec hf) (by rw [hr]; rfl)).alike (Site.alike_settle ..))
  | inspecting hr =>
    rename_i localTier trip
    rcases hf : s.finish trip with ⟨e | info, s₁⟩ <;> have hl := Site.finish_spec hf <;>
      have hq := Site.Quiet.of_landed hl (by rw [hr]; rfl) <;> simp only [hf] at h <;> cases h
    · exact .aside rfl rfl rfl .finished Nat.one_pos (Or.inl rfl) (hq.alike (Site.alike_report ..))
    · exact .aside rfl rfl rfl .finished Nat.one_pos (Or.inl rfl) hq
  | probing hr =>
    rename_i trip
    rcases hf : s.finish trip with ⟨reply, s₁⟩
    simp only [hf] at h
    cases h
    exact .aside rfl rfl rfl .finished Nat.one_pos (Or.inl rfl) (.of_landed (Site.finish_spec hf) (by rw [hr]; rfl))
  | dialing hr => exact segment_dialing hr h
  | resting =>
    rename_i attempt left due
    rcases ht : s.dial with ⟨trip, s₁⟩
    simp only [Task.dial, ht] at h
    cases h
    obtain ⟨hr, -, hset⟩ := Site.dial_spec ht
    exact .aside rfl rfl rfl (.dialing hr) (Nat.lt_succ_self _) (Or.inl rfl) (.of_setOff hset)
  | hangingUp hr =>
    rename_i trip
    rcases hf : s.finish trip with ⟨reply, s₁⟩
    simp only [hf] at h
    cases h
    exact .aside rfl rfl rfl .finished Nat.one_pos (Or.inl rfl) (.of_landed (Site.finish_spec hf) (by rw [hr]; rfl))
  | finished => cases ho
  | cancelled => cases ho

end TwoTier
