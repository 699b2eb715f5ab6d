/-
Instances without a shared tier. One is connected to a store that is unavailable and refuses whatever it is
asked; the other one has no connection, so its calls are refused on the spot. Either way a call comes back at
once with an error and leaves nothing behind, and an instance makes the same of both errors, except that it
counts the first kind. So a call that uses the cache goes through the same phases on both sides.
-/
import TwoTier.Proofs.Call.Segment
import TwoTier.Proofs.Store.Calm

namespace TwoTier

/-- An instance without a connection, and without the failures that only one with a connection counts. -/
def Node.shorn (n : Node) : Node :=
  { n with
    remote := { n.remote with connected := false, errors := 0 }
    books := { n.books with l2 := { n.books.l2 with errors := 0 } } }

variable {σ α β : Type}

/-- A request on its way, and the same one refused for lack of a connection. -/
inductive Trip.Severed : Trip α → Trip α → Prop where
  | mk {r : Request α} {ends : Nat} (hr : r.isAnswered = true) : Severed ⟨r, ends, none⟩ ⟨r, ends, some .disconnected⟩

/-- The same phase on both sides, but for the trip that it waits for. -/
inductive Phase.Severed : Phase → Phase → Prop where
  | waiting {start : Nat} : Severed (.waiting start) (.waiting start)
  | reading {key : String} {t t' : Trip (Option Bytes)} (h : t.Severed t') : Severed (.reading key t) (.reading key t')
  | queued {key : String} : Severed (.queued key) (.queued key)
  | rereading {key : String} {t t' : Trip (Option Bytes)} (h : t.Severed t') :
    Severed (.rereading key t) (.rereading key t')
  | fetching {key : String} {due : Nat} : Severed (.fetching key due) (.fetching key due)
  | storing {key : String} {evicted : Bool} {t t' : Trip Unit} (h : t.Severed t') :
    Severed (.storing key evicted t) (.storing key evicted t')
  | deleting {key : String} {resident : Bool} {t t' : Trip Bool} (h : t.Severed t') :
    Severed (.deleting key resident t) (.deleting key resident t')
  | sweeping {pattern : String} {t t' : Trip Nat} (h : t.Severed t') : Severed (.sweeping pattern t) (.sweeping pattern t')
  | announcing {reply : Reply} {t t' : Trip Unit} (h : t.Severed t') : Severed (.announcing reply t) (.announcing reply t')
  | finished {reply : Reply} {ended : Nat} : Severed (.finished reply ended) (.finished reply ended)
  | cancelled {ended : Nat} : Severed (.cancelled ended) (.cancelled ended)

/-- The schedule sees no difference between the two. -/
theorem Phase.Severed.isOver {p p' : Phase} (h : p.Severed p') : p'.isOver = p.isOver := by cases h <;> rfl

theorem Phase.Severed.line? {p p' : Phase} (h : p.Severed p') : p'.line? = p.line? := by cases h <;> rfl

theorem Phase.Severed.due? {p p' : Phase} (h : p.Severed p') : p'.due? = p.due? := by
  cases h with
  | reading ht | rereading ht | storing ht | deleting ht | sweeping ht | announcing ht => cases ht; rfl
  | _ => rfl

theorem Phase.Severed.rank {p p' : Phase} (h : p.Severed p') (attempts : Nat) : p'.rank attempts = p.rank attempts := by
  cases h <;> rfl

/-- The same call that uses the cache, in the same phase. -/
inductive Task.Severed : Task → Task → Prop where
  | mk {t : Task} {p p' : Phase} (h : p.Severed p') (hu : t.call.usesCache = true) :
    Severed { t with phase := p } { t with phase := p' }

/-- The same instance on both sides, connected to the one store and without a connection to the other. -/
inductive Site.Severed (st : Scripted Store) (st' : Scripted σ) : Site Store → Site σ → Prop where
  | mk {now : Nat} {n : Node} {r r' : Recorder} (hc : n.remote.connected = true) :
    Severed st st' ⟨now, st, r, n⟩ ⟨now, st', r', n.shorn⟩

/-- A store with no script that refuses what it is asked. -/
structure Scripted.Down (st : Scripted Store) : Prop where
  faults : st.faults = []
  available : st.inner.available = false

namespace Site.Severed

variable {st : Scripted Store} {st' : Scripted σ} {s : Site Store} {s' : Site σ}

/-- The same outcome on both sides. -/
def Pair (st : Scripted Store) (st' : Scripted σ) (x : β × Site Store) (x' : β × Site σ) : Prop :=
  ∃ b s s', x = (b, s) ∧ x' = (b, s') ∧ s.Severed st st' s'

theorem pair (h : s.Severed st st' s') (b : β) : Pair st st' (b, s) (b, s') := ⟨b, s, s', rfl, rfl, h⟩

theorem now (h : s.Severed st st' s') : s'.now = s.now := by cases h; rfl

theorem node (h : s.Severed st st' s') : s'.node = s.node.shorn := by cases h; rfl

theorem lru (h : s.Severed st st' s') : s'.node.lru = s.node.lru := by cases h; rfl

/-! ## The books and the local tier -/

theorem record (h : s.Severed st st' s') {e : Event} (he : e ≠ .error .l2) :
    (s.record e).Severed st st' (s'.record e) := by
  cases h with | mk hc =>
  rename_i now n r r'
  have hbooks : { n.shorn with books := n.shorn.books.record e } = Node.shorn { n with books := n.books.record e } := by
    rcases e with t | t | t | t | ⟨t, k⟩ | t | _ | _
    case error => cases t with
      | l1 => rfl
      | l2 => exact absurd rfl he
    all_goals first | rfl | (cases t <;> rfl)
  unfold Site.record
  dsimp only
  rw [hbooks]
  exact .mk hc

/-- Only the connected instance counts the failure. -/
theorem report (h : s.Severed st st' s') (operation : String) :
    (s.report operation Store.unavailable).Severed st st' (s'.report operation .disconnected) := by
  cases h with | mk hc =>
  exact .mk hc

theorem fail (h : s.Severed st st' s') (operation : String) :
    (s.fail operation Store.unavailable).Severed st st' (s'.fail operation .disconnected) := by
  cases h with | mk hc =>
  exact .mk hc

theorem recordEviction (h : s.Severed st st' s') (evicted : Bool) :
    (s.recordEviction evicted).Severed st st' (s'.recordEviction evicted) := by
  unfold Site.recordEviction
  split
  · exact h.record (by nofun)
  · exact h

theorem withLru (h : s.Severed st st' s') (l : Lru Json) : (s.withLru l).Severed st st' (s'.withLru l) := by
  cases h with | mk hc => exact .mk hc

theorem join (h : s.Severed st st' s') (key : String) (ticket : Nat) :
    (s.join key ticket).Severed st st' (s'.join key ticket) := by
  cases h with | mk hc => exact .mk hc

theorem leave (h : s.Severed st st' s') (key : String) (ticket : Nat) :
    (s.leave key ticket).Severed st st' (s'.leave key ticket) := by
  cases h with | mk hc => exact .mk hc

theorem purge (h : s.Severed st st' s') : s.purge.Severed st st' s'.purge := by
  cases h with | mk hc => exact .mk hc

theorem put (h : s.Severed st st' s') (key : String) (v : Json) (ttl : Option Nat) :
    Pair st st' (s.put key v ttl) (s'.put key v ttl) := by
  cases h with | mk hc => exact ⟨_, _, _, rfl, rfl, .mk hc⟩

theorem lookupLocal (h : s.Severed st st' s') (key : String) : Pair st st' (s.lookupLocal key) (s'.lookupLocal key) := by
  unfold Site.lookupLocal
  rw [h.now, h.lru]
  rcases s.node.lru.get s.now key with ⟨_ | v, lru⟩
  · exact ((h.withLru lru).record (by nofun)).pair _
  · exact ((h.withLru lru).record (by nofun)).pair _

theorem recheckLocal (h : s.Severed st st' s') (key : String) : Pair st st' (s.recheckLocal key) (s'.recheckLocal key) := by
  unfold Site.recheckLocal
  rw [h.now, h.lru]
  rcases s.node.lru.get s.now key with ⟨_ | v, lru⟩
  · exact (h.withLru lru).pair _
  · exact ((h.withLru lru).record (by nofun)).pair _

/-! ## The shared tier -/

/-- Both make their calls without a wait, and neither tells the store. -/
theorem call (h : s.Severed st st' s') (hd : st.Down) {r : Request α} (hr : r.isAnswered = true) :
    ∃ trip trip', s.call r = (trip, s) ∧ s'.call r = (trip', s') ∧ trip.Severed trip' := by
  cases h with | mk hc =>
  refine ⟨_, _, ?_, call_disconnected rfl _, .mk hr⟩
  rw [call_connected hc, Trip.start_unscripted hd.faults]

/-- Both trips end in an error, and nothing changes. -/
theorem finish [Backend σ] (h : s.Severed st st' s') (hd : st.Down) {trip trip' : Trip α} (ht : trip.Severed trip') :
    s.finish trip = (.error Store.unavailable, s) ∧ s'.finish trip' = (.error .disconnected, s') := by
  cases h with | mk hc =>
  cases ht with | mk hr =>
  refine ⟨?_, rfl⟩
  unfold Site.finish Link.finish Trip.finish Site.link
  dsimp only
  rw [Scripted.serve_refuse hd.available hr]
  rfl

/-! ## The segments of a call -/

variable {t : Task} {p p' : Phase}

/-- The same call with the same outcome on both sides. -/
def Ends (st : Scripted Store) (st' : Scripted σ) (x : Task × Site Store) (x' : Task × Site σ) : Prop :=
  x.1.Severed x'.1 ∧ x.2.Severed st st' x'.2

theorem become (h : s.Severed st st' s') (hu : t.call.usesCache = true) (hp : p.Severed p') :
    Ends st st' (t.become p s) (t.become p' s') := ⟨.mk hp hu, h⟩

theorem done (h : s.Severed st st' s') (hu : t.call.usesCache = true) (reply : Reply) :
    Ends st st' (t.finish reply s) (t.finish reply s') := by
  unfold Task.finish
  rw [h.now]
  exact h.become hu .finished

theorem answer (h : s.Severed st st' s') (hu : t.call.usesCache = true) (served : Bool) (r : Except String (Option Json)) :
    Ends st st' (t.answer served r s) (t.answer served r s') := by
  unfold Task.answer
  rw [h.now]
  exact (h.record (by nofun)).done hu _

/-- A trip sets out and the call waits for it. -/
theorem goes (h : s.Severed st st' s') (hd : st.Down) (hu : t.call.usesCache = true) {r : Request α}
    (hr : r.isAnswered = true) {p : Trip α → Phase}
    (hp : ∀ {trip trip' : Trip α}, trip.Severed trip' → (p trip).Severed (p trip')) :
    Ends st st' (let (trip, s) := s.call r; t.become (p trip) s) (let (trip, s) := s'.call r; t.become (p trip) s) := by
  obtain ⟨trip, trip', hs, hs', ht⟩ := h.call hd hr
  rw [hs, hs']
  exact h.become hu (hp ht)

theorem announce (h : s.Severed st st' s') (hd : st.Down) (hu : t.call.usesCache = true) (body : Invalidation)
    (reply : Reply) : Ends st st' (t.announce body reply s) (t.announce body reply s') := by
  have hid : s'.node.id = s.node.id := by rw [h.node]; rfl
  have hchannel : s'.node.channel = s.node.channel := by rw [h.node]; rfl
  unfold Task.announce
  rw [hid, hchannel]
  cases s.node.channel with
  | none => exact h.done hu _
  | some channel => exact h.goes hd hu rfl .announcing

theorem write (h : s.Severed st st' s') (hd : st.Down) (hu : t.call.usesCache = true) (key : String) (v : Json)
    (ttl : Option Nat) : Ends st st' (t.write key v ttl s) (t.write key v ttl s') := by
  unfold Task.write
  have hdefault : s'.node.defaultTtl = s.node.defaultTtl := by rw [h.node]; rfl
  obtain ⟨evicted, s₁, s₁', hs, hs', h⟩ := h.put key v (some (ttl.getD s.node.defaultTtl))
  rw [hdefault]
  dsimp only
  rw [hs, hs']
  exact h.goes hd hu rfl .storing

theorem startFetch (h : s.Severed st st' s') (hu : t.call.usesCache = true) (key : String) :
    Ends st st' (t.startFetch key s) (t.startFetch key s') := by
  unfold Task.startFetch
  rw [h.now]
  split
  · exact h.become hu .fetching
  · exact h.answer hu ..

theorem miss (h : s.Severed st st' s') (hu : t.call.usesCache = true) (key : String) :
    Ends st st' (t.miss key s) (t.miss key s') := by
  have hco : s'.node.coalesce = s.node.coalesce := by rw [h.node]; rfl
  unfold Task.miss
  rw [hco]
  split
  · split
    · exact (h.join ..).become hu .queued
    · exact h.startFetch hu _
  · exact h.answer hu ..

theorem lookup (h : s.Severed st st' s') (hd : st.Down) (hu : t.call.usesCache = true) (key : String) :
    Ends st st' (t.lookup key s) (t.lookup key s') := by
  obtain ⟨r, s₁, s₁', hs, hs', h⟩ := h.lookupLocal key
  unfold Task.lookup
  rw [hs, hs']
  cases r with
  | some v => exact h.answer hu ..
  | none => exact h.goes hd hu rfl .reading

theorem endFetch (h : s.Severed st st' s') (hd : st.Down) (hu : t.call.usesCache = true) (key : String) (fetch : Fetch) :
    Ends st st' (t.endFetch key fetch s) (t.endFetch key fetch s') := by
  unfold Task.endFetch
  dsimp only
  split
  · exact (h.record (by nofun)).write hd hu ..
  · exact ((h.record (by nofun)).leave ..).answer hu ..

theorem endStore (h : s.Severed st st' s') (hu : t.call.usesCache = true) (key : String) (evicted : Bool) :
    Ends st st' (t.endStore key evicted (.error Store.unavailable) s) (t.endStore key evicted (.error .disconnected) s') := by
  have h := ((h.record (e := .set .l1) (by nofun)).recordEviction evicted).fail "set"
  unfold Task.endStore
  dsimp only
  split
  · exact (h.leave ..).answer hu ..
  · exact h.done hu _

theorem endDelete (h : s.Severed st st' s') (hd : st.Down) (hu : t.call.usesCache = true) (key : String) (resident : Bool) :
    Ends st st' (t.endDelete key resident (.error Store.unavailable) s)
      (t.endDelete key resident (.error .disconnected) s') := by
  unfold Task.endDelete
  cases resident with
  | true => exact ((h.record (e := .delete .l1) (by nofun)).fail "delete").announce hd hu ..
  | false => exact (h.fail "delete").announce hd hu ..

theorem endSweep (h : s.Severed st st' s') (hd : st.Down) (hu : t.call.usesCache = true) (pattern : String) :
    Ends st st' (t.endSweep pattern (.error Store.unavailable) s) (t.endSweep pattern (.error .disconnected) s') :=
  (h.fail "delete_pattern").announce hd hu ..

variable [Backend σ]

theorem start (h : s.Severed st st' s') (hd : st.Down) (hu : t.call.usesCache = true) :
    Ends st st' (t.start s) (t.start s') := by
  have hkey : ∀ key, s'.node.fullKey key = s.node.fullKey key := fun key => by rw [h.node]; rfl
  have hscope : s'.node.remote.scopedPattern = s.node.remote.scopedPattern := by rw [h.node]; rfl
  unfold Task.start
  rw [h.now]
  dsimp only
  cases hc : t.call with
  | get key =>
    dsimp only
    rw [hkey]
    exact h.lookup hd rfl _
  | getOrFetch key fetch =>
    dsimp only
    rw [hkey]
    exact h.lookup hd rfl _
  | set key v ttl =>
    dsimp only
    rw [hkey]
    exact h.write hd rfl ..
  | delete key =>
    dsimp only
    rw [hkey, h.lru]
    exact (h.withLru _).goes hd rfl rfl .deleting
  | deletePattern pattern =>
    dsimp only
    rw [hscope, h.lru]
    exact (h.withLru _).goes hd rfl rfl .sweeping
  | stats | health | connect | shutdown => rw [hc] at hu; cases hu

/-- A step makes the same of a call on both sides. -/
theorem step (h : s.Severed st st' s') (hd : st.Down) {t t' : Task} (ht : t.Severed t') :
    Ends st st' (t.step s) (t'.step s') := by
  cases ht with | mk hp hu =>
  rename_i t p p'
  unfold Task.step
  cases hp with
  | waiting => exact h.start hd hu
  | reading ht =>
    obtain ⟨hs, hs'⟩ := h.finish hd ht
    dsimp only
    rw [hs, hs']
    -- both record a miss of the shared tier; only the one with a connection counts the failure
    exact ((h.fail "get").record (e := .miss .l2) (by nofun)).miss hu _
  | queued =>
    rename_i key
    obtain ⟨r, s₁, s₁', hr, hr', h⟩ := h.recheckLocal key
    dsimp only
    rw [hr, hr']
    cases r with
    | some v => exact (h.leave ..).answer hu ..
    | none => exact h.goes hd hu rfl .rereading
  | rereading ht =>
    obtain ⟨hs, hs'⟩ := h.finish hd ht
    dsimp only
    rw [hs, hs']
    exact (h.report "get").startFetch hu _
  | fetching =>
    dsimp only
    split
    · exact h.endFetch hd hu ..
    · exact h.answer hu ..
  | storing ht =>
    obtain ⟨hs, hs'⟩ := h.finish hd ht
    dsimp only
    rw [hs, hs']
    exact h.endStore hu ..
  | deleting ht =>
    obtain ⟨hs, hs'⟩ := h.finish hd ht
    dsimp only
    rw [hs, hs']
    exact h.endDelete hd hu ..
  | sweeping ht =>
    obtain ⟨hs, hs'⟩ := h.finish hd ht
    dsimp only
    rw [hs, hs']
    exact h.endSweep hd hu _
  | announcing ht =>
    obtain ⟨hs, hs'⟩ := h.finish hd ht
    dsimp only
    rw [hs, hs']
    exact (h.fail "publish").done hu _
  | finished => exact ⟨.mk .finished hu, h⟩
  | cancelled => exact ⟨.mk .cancelled hu, h⟩

omit [Backend σ] in
theorem cancel (h : s.Severed st st' s') {t t' : Task} (ht : t.Severed t') : Ends st st' (t.cancel s) (t'.cancel s') := by
  have hsame := ht
  cases ht with | mk hp hu =>
  unfold Task.cancel
  dsimp only
  rw [h.now, hp.isOver, hp.line?]
  split
  · exact ⟨hsame, h⟩
  · rename_i p _ _
    cases p.line? with
    | none => exact h.become hu .cancelled
    | some key => exact (h.leave ..).become hu .cancelled

end Site.Severed

end TwoTier
