/-
Stores that nobody tells apart. A `Likeness` relates stores that answer alike and stay related under
all requests that are allowed to be asked. On two sites that differ in the recorder and in such stores
a call goes through the same phases, and the sites stay like each other; in particular a step keeps
whatever drawing from the script and serving requests keep.
-/
import Mathlib.Tactic
import TwoTier.Call.Step

namespace TwoTier

variable {σ α β : Type}

/-- A relation between scripted stores that the requests allowed to be asked do not break. -/
structure Likeness (σ : Type) [Backend σ] where
  rel : Scripted σ → Scripted σ → Prop
  asks : {α : Type} → Request α → Prop
  draw : ∀ {st st' : Scripted σ}, rel st st' → ∀ m, (st'.draw m).1 = (st.draw m).1 ∧ rel (st.draw m).2 (st'.draw m).2
  serve : ∀ {st st' : Scripted σ}, rel st st' → ∀ {α : Type} (r : Request α), asks r → ∀ now,
    (st'.serve now r).1 = (st.serve now r).1 ∧ rel (st.serve now r).2 (st'.serve now r).2

/-- All that a phase still asks is allowed to be asked. -/
def Phase.Asks (asks : {α : Type} → Request α → Prop) : Phase → Prop
  | .reading _ t => asks t.request
  | .rereading _ t => asks t.request
  | .storing _ _ t => asks t.request
  | .deleting _ _ t => asks t.request
  | .sweeping _ t => asks t.request
  | .announcing _ t => asks t.request
  | .inspecting _ t => asks t.request
  | .probing t => asks t.request
  | .dialing _ _ t => asks t.request
  | .hangingUp t => asks t.request
  | _ => True

variable [Backend σ] {L : Likeness σ} {s s' : Site σ}

/-- Sites that differ in nothing but the recorder and like stores. -/
inductive Site.Like (L : Likeness σ) : Site σ → Site σ → Prop where
  | mk {now : Nat} {n : Node} {r r' : Recorder} {st st' : Scripted σ} (h : L.rel st st') :
    Like L ⟨now, st, r, n⟩ ⟨now, st', r', n⟩

/-- The same outcome on sites that are like each other. -/
def Likeness.Pair (L : Likeness σ) (x x' : β × Site σ) : Prop :=
  ∃ b s s', x = (b, s) ∧ x' = (b, s') ∧ s.Like L s'

theorem Site.Like.pair (h : s.Like L s') (b : β) : L.Pair (b, s) (b, s') := ⟨b, s, s', rfl, rfl, h⟩

/-! ## The books and the local tier -/

namespace Site.Like

theorem now (h : s.Like L s') : s'.now = s.now := by cases h; rfl

theorem node (h : s.Like L s') : s'.node = s.node := by cases h; rfl

theorem store (h : s.Like L s') : L.rel s.store s'.store := by cases h; assumption

theorem record (h : s.Like L s') (e : Event) : (s.record e).Like L (s'.record e) := by
  cases h with | mk h => exact .mk h

theorem report (h : s.Like L s') (operation : String) (e : CacheError) :
    (s.report operation e).Like L (s'.report operation e) := by
  cases h with | mk h =>
  unfold Site.report Link.report
  split <;> exact .mk h

theorem fail (h : s.Like L s') (operation : String) (e : CacheError) :
    (s.fail operation e).Like L (s'.fail operation e) := by
  unfold Site.fail
  split
  · exact h.report ..
  · exact (h.record _).report ..

theorem settle (h : s.Like L s') (operation : String) (done : α → Option Event) (reply : Except CacheError α) :
    (s.settle operation done reply).Like L (s'.settle operation done reply) := by
  cases reply with
  | error e => exact h.fail ..
  | ok a =>
    show Site.Like L ((done a).elim s s.record) ((done a).elim s' s'.record)
    cases done a with
    | none => exact h
    | some e => exact h.record e

theorem recordEviction (h : s.Like L s') (evicted : Bool) :
    (s.recordEviction evicted).Like L (s'.recordEviction evicted) := by
  unfold Site.recordEviction
  split
  · exact h.record _
  · exact h

theorem withLru (h : s.Like L s') (l : Lru Json) : (s.withLru l).Like L (s'.withLru l) := by
  cases h with | mk h => exact .mk h

theorem join (h : s.Like L s') (key : String) (ticket : Nat) : (s.join key ticket).Like L (s'.join key ticket) := by
  cases h with | mk h => exact .mk h

theorem leave (h : s.Like L s') (key : String) (ticket : Nat) : (s.leave key ticket).Like L (s'.leave key ticket) := by
  cases h with | mk h => exact .mk h

theorem setConnected (h : s.Like L s') (on : Bool) : (s.setConnected on).Like L (s'.setConnected on) := by
  cases h with | mk h => exact .mk h

theorem put (h : s.Like L s') (key : String) (v : Json) (ttl : Option Nat) :
    L.Pair (s.put key v ttl) (s'.put key v ttl) := by
  cases h with | mk h => exact ⟨_, _, _, rfl, rfl, .mk h⟩

theorem promote (h : s.Like L s') (key : String) (v : Json) : (s.promote key v).Like L (s'.promote key v) := by
  obtain ⟨evicted, s₁, s₁', hs, hs', h⟩ := h.put key v none
  unfold Site.promote
  rw [hs, hs']
  exact (h.recordEviction _).record _

theorem lookupLocal (h : s.Like L s') (key : String) : L.Pair (s.lookupLocal key) (s'.lookupLocal key) := by
  unfold Site.lookupLocal
  rw [h.now, h.node]
  rcases s.node.lru.get s.now key with ⟨_ | v, lru⟩
  · exact ((h.withLru lru).record _).pair _
  · exact ((h.withLru lru).record _).pair _

theorem recheckLocal (h : s.Like L s') (key : String) : L.Pair (s.recheckLocal key) (s'.recheckLocal key) := by
  unfold Site.recheckLocal
  rw [h.now, h.node]
  rcases s.node.lru.get s.now key with ⟨_ | v, lru⟩
  · exact (h.withLru lru).pair _
  · exact ((h.withLru lru).record _).pair _

theorem lookupShared (h : s.Like L s') (key : String) (reply : Except CacheError (Option Bytes)) :
    L.Pair (s.lookupShared key reply) (s'.lookupShared key reply) := by
  unfold Site.lookupShared
  rcases (Payload.decodeReply reply : Except CacheError (Option Json)) with e | _ | v
  · exact ((h.fail ..).record _).pair _
  · exact (h.record _).pair _
  · exact ((h.record _).promote ..).pair _

theorem recheckShared (h : s.Like L s') (key : String) (reply : Except CacheError (Option Bytes)) :
    L.Pair (s.recheckShared key reply) (s'.recheckShared key reply) := by
  unfold Site.recheckShared
  rcases (Payload.decodeReply reply : Except CacheError (Option Json)) with e | _ | v
  · exact (h.report ..).pair _
  · exact h.pair _
  · exact ((h.record _).promote ..).pair _

end Site.Like

/-! ## The shared tier -/

theorem Likeness.start {st st' : Scripted σ} (h : L.rel st st') (now : Nat) (bound : Option Nat) (r : Request α) :
    ∃ trip st₁ st₁', Trip.start now bound r st = (trip, st₁) ∧ Trip.start now bound r st' = (trip, st₁') ∧
      L.rel st₁ st₁' := by
  obtain ⟨hf, hd⟩ := L.draw h r.method
  rcases hs : st.draw r.method with ⟨fault, st₁⟩
  rcases hs' : st'.draw r.method with ⟨fault', st₁'⟩
  rw [hs, hs'] at hf hd
  obtain rfl : fault' = fault := hf
  unfold Trip.start
  rw [hs, hs']
  exact ⟨_, _, _, rfl, rfl, hd⟩

namespace Site.Like

theorem call (h : s.Like L s') (r : Request α) : L.Pair (s.call r) (s'.call r) := by
  cases h with | mk h =>
  rename_i now n _ _ _ _
  unfold Site.call Link.call Site.link
  dsimp only
  split
  · obtain ⟨trip, st₁, st₁', hs, hs', h⟩ := L.start h now (some n.remote.timeout) r
    rw [hs, hs']
    exact ⟨_, _, _, rfl, rfl, .mk h⟩
  · exact ⟨_, _, _, rfl, rfl, .mk h⟩

theorem dial (h : s.Like L s') : L.Pair s.dial s'.dial := by
  cases h with | mk h =>
  rename_i now n _ _ _ _
  obtain ⟨trip, st₁, st₁', hs, hs', h⟩ := L.start h now (some n.remote.timeout) Request.connect
  unfold Site.dial Link.dial Site.link
  dsimp only
  rw [hs, hs']
  exact ⟨_, _, _, rfl, rfl, .mk h⟩

theorem hangUp (h : s.Like L s') : L.Pair s.hangUp s'.hangUp := by
  cases h with | mk h =>
  rename_i now n _ _ _ _
  obtain ⟨trip, st₁, st₁', hs, hs', h⟩ := L.start h now none Request.disconnect
  unfold Site.hangUp Link.hangUp Site.link Link.setConnected
  dsimp only
  rw [hs, hs']
  exact ⟨_, _, _, rfl, rfl, .mk h⟩

theorem finish (h : s.Like L s') {trip : Trip α} (ha : L.asks trip.request) :
    L.Pair (s.finish trip) (s'.finish trip) := by
  cases h with | mk h =>
  rename_i now n r r' st st'
  unfold Site.finish Link.finish Trip.finish Site.link
  dsimp only
  cases trip.failure with
  | some e => exact ⟨_, _, _, rfl, rfl, .mk h⟩
  | none =>
    obtain ⟨hreply, hrel⟩ := L.serve h trip.request ha now
    dsimp only
    rw [hreply]
    exact ⟨_, _, _, rfl, rfl, .mk hrel⟩

end Site.Like

/-! ## The segments of a call -/

namespace Site.Like

variable {t : Task}

theorem become (h : s.Like L s') (p : Phase) : L.Pair (t.become p s) (t.become p s') := h.pair _

theorem done (h : s.Like L s') (reply : Reply) : L.Pair (t.finish reply s) (t.finish reply s') := by
  unfold Task.finish
  rw [h.now]
  exact h.become _

theorem answer (h : s.Like L s') (served : Bool) (r : Except String (Option Json)) :
    L.Pair (t.answer served r s) (t.answer served r s') := by
  unfold Task.answer
  rw [h.now]
  exact (h.record _).done _

/-- A trip sets out and the call waits for it. -/
theorem goes (h : s.Like L s') (r : Request α) (p : Trip α → Phase) :
    L.Pair (let (trip, s) := s.call r; t.become (p trip) s) (let (trip, s) := s'.call r; t.become (p trip) s) := by
  obtain ⟨trip, s₁, s₁', hs, hs', h⟩ := h.call r
  rw [hs, hs']
  exact h.become _

theorem announce (h : s.Like L s') (body : Invalidation) (reply : Reply) :
    L.Pair (t.announce body reply s) (t.announce body reply s') := by
  unfold Task.announce
  rw [h.node]
  cases s.node.channel with
  | none => exact h.done _
  | some channel => exact h.goes ..

theorem write (h : s.Like L s') (key : String) (v : Json) (ttl : Option Nat) :
    L.Pair (t.write key v ttl s) (t.write key v ttl s') := by
  unfold Task.write
  rw [h.node]
  obtain ⟨evicted, s₁, s₁', hs, hs', h⟩ := h.put key v (some (ttl.getD s.node.defaultTtl))
  dsimp only
  rw [hs, hs']
  exact h.goes ..

theorem startFetch (h : s.Like L s') (key : String) : L.Pair (t.startFetch key s) (t.startFetch key s') := by
  unfold Task.startFetch
  rw [h.now]
  split
  · exact h.become _
  · exact h.answer ..

theorem miss (h : s.Like L s') (key : String) : L.Pair (t.miss key s) (t.miss key s') := by
  unfold Task.miss
  rw [h.node]
  split
  · split
    · exact (h.join ..).become _
    · exact h.startFetch _
  · exact h.answer ..

theorem lookup (h : s.Like L s') (key : String) : L.Pair (t.lookup key s) (t.lookup key s') := by
  obtain ⟨r, s₁, s₁', hs, hs', h⟩ := h.lookupLocal key
  unfold Task.lookup
  rw [hs, hs']
  cases r with
  | some v => exact h.answer ..
  | none => exact h.goes ..

theorem redial (h : s.Like L s') (attempt left : Nat) : L.Pair (t.dial attempt left s) (t.dial attempt left s') := by
  obtain ⟨trip, s₁, s₁', hs, hs', h⟩ := h.dial
  unfold Task.dial
  rw [hs, hs']
  exact h.become _

theorem answerStats (h : s.Like L s') (localTier : LocalStats) (connected : Bool) (info : StoreInfo) :
    L.Pair (t.answerStats localTier connected info s) (t.answerStats localTier connected info s') := by
  unfold Task.answerStats Site.link Link.stats
  rw [h.node]
  exact h.done _

theorem answerHealth (h : s.Like L s') (remote : RemoteHealth) :
    L.Pair (t.answerHealth remote s) (t.answerHealth remote s') := by
  unfold Task.answerHealth
  rw [h.node]
  exact h.done _

theorem start (h : s.Like L s') : L.Pair (t.start s) (t.start s') := by
  unfold Task.start Site.link Link.attempts
  rw [h.now, h.node]
  cases t.call with
  | get key => exact h.lookup _
  | getOrFetch key fetch => exact h.lookup _
  | set key v ttl => exact h.write ..
  | delete key => exact (h.withLru _).goes ..
  | deletePattern pattern => exact (h.withLru _).goes ..
  | stats =>
    dsimp only
    split
    · exact h.goes ..
    · exact h.answerStats ..
  | health =>
    dsimp only
    split
    · exact h.goes ..
    · exact h.answerHealth _
  | connect => exact h.redial ..
  | shutdown =>
    obtain ⟨trip, s₁, s₁', hs, hs', h⟩ := h.hangUp
    dsimp only
    rw [hs, hs']
    exact h.become _

theorem endFetch (h : s.Like L s') (key : String) (fetch : Fetch) :
    L.Pair (t.endFetch key fetch s) (t.endFetch key fetch s') := by
  unfold Task.endFetch
  dsimp only
  split
  · exact (h.record _).write ..
  · exact ((h.record _).leave ..).answer ..

theorem endStore (h : s.Like L s') (key : String) (evicted : Bool) (reply : Except CacheError Unit) :
    L.Pair (t.endStore key evicted reply s) (t.endStore key evicted reply s') := by
  have h := ((h.record (.set .l1)).recordEviction evicted).settle "set" (fun _ => some (.set .l2)) reply
  unfold Task.endStore
  dsimp only
  split
  · exact (h.leave ..).answer ..
  · exact h.done _

theorem endDelete (h : s.Like L s') (key : String) (resident : Bool) (reply : Except CacheError Bool) :
    L.Pair (t.endDelete key resident reply s) (t.endDelete key resident reply s') := by
  unfold Task.endDelete
  cases resident with
  | true => exact ((h.record _).settle ..).announce ..
  | false => exact (h.settle ..).announce ..

theorem endSweep (h : s.Like L s') (pattern : String) (reply : Except CacheError Nat) :
    L.Pair (t.endSweep pattern reply s) (t.endSweep pattern reply s') := (h.settle ..).announce ..

/-- A step makes the same of a call on sites that are like each other, and they stay so. -/
theorem step (h : s.Like L s') (ha : t.phase.Asks L.asks) : L.Pair (t.step s) (t.step s') := by
  unfold Task.step
  cases hp : t.phase <;> rw [hp] at ha <;> dsimp only
  -- a trip ends alike on both sites, and so does what the call makes of its end
  case waiting start => exact h.start
  case reading key trip =>
    obtain ⟨reply, s₁, s₁', hs, hs', h⟩ := h.finish ha
    obtain ⟨r, s₂, s₂', hr, hr', h⟩ := h.lookupShared key reply
    rw [hs, hs']
    dsimp only
    rw [hr, hr']
    cases r with
    | some v => exact h.answer ..
    | none => exact h.miss _
  case queued key =>
    obtain ⟨r, s₁, s₁', hs, hs', h⟩ := h.recheckLocal key
    rw [hs, hs']
    cases r with
    | some v => exact (h.leave ..).answer ..
    | none => exact h.goes ..
  case rereading key trip =>
    obtain ⟨reply, s₁, s₁', hs, hs', h⟩ := h.finish ha
    obtain ⟨r, s₂, s₂', hr, hr', h⟩ := h.recheckShared key reply
    rw [hs, hs']
    dsimp only
    rw [hr, hr']
    cases r with
    | some v => exact (h.leave ..).answer ..
    | none => exact h.startFetch _
  case fetching key due =>
    split
    · exact h.endFetch ..
    · exact h.answer ..
  case storing key evicted trip =>
    obtain ⟨reply, s₁, s₁', hs, hs', h⟩ := h.finish ha
    rw [hs, hs']
    exact h.endStore ..
  case deleting key resident trip =>
    obtain ⟨reply, s₁, s₁', hs, hs', h⟩ := h.finish ha
    rw [hs, hs']
    exact h.endDelete ..
  case sweeping pattern trip =>
    obtain ⟨reply, s₁, s₁', hs, hs', h⟩ := h.finish ha
    rw [hs, hs']
    exact h.endSweep ..
  case announcing reply trip =>
    obtain ⟨published, s₁, s₁', hs, hs', h⟩ := h.finish ha
    rw [hs, hs']
    exact (h.settle ..).done _
  case inspecting localTier trip =>
    obtain ⟨reply, s₁, s₁', hs, hs', h⟩ := h.finish ha
    rw [hs, hs']
    cases reply with
    | ok info => exact h.answerStats ..
    | error e => exact (h.report ..).answerStats ..
  case probing trip =>
    obtain ⟨reply, s₁, s₁', hs, hs', h⟩ := h.finish ha
    rw [hs, hs']
    dsimp only
    rw [h.now]
    exact h.answerHealth _
  case dialing attempt left trip =>
    obtain ⟨reply, s₁, s₁', hs, hs', h⟩ := h.finish ha
    rw [hs, hs']
    cases reply with
    | ok _ => exact (h.setConnected _).done _
    | error e =>
      cases left with
      | zero => exact (h.setConnected _).done _
      | succ left =>
        dsimp only
        rw [h.now, h.node]
        exact h.become _
  case resting attempt left due => exact h.redial ..
  case hangingUp trip =>
    obtain ⟨reply, s₁, s₁', hs, hs', h⟩ := h.finish ha
    rw [hs, hs']
    exact h.done _
  case finished | cancelled => exact h.pair _

theorem cancel (h : s.Like L s') : L.Pair (t.cancel s) (t.cancel s') := by
  unfold Task.cancel
  rw [h.now]
  split
  · exact h.pair _
  · cases t.phase.line? with
    | none => exact h.become _
    | some key => exact (h.leave ..).become _

end Site.Like

/-! ## What every step keeps of the store -/

/-- A property of stores that drawing from the script and serving the requests allowed keep, as a
likeness of a store to itself. -/
def Likeness.self (Q : Scripted σ → Prop) (asks : {α : Type} → Request α → Prop) (draw : ∀ st m, Q st → Q (st.draw m).2)
    (serve : ∀ (st : Scripted σ) {α : Type} (r : Request α) (now : Nat), asks r → Q st → Q (st.serve now r).2) :
    Likeness σ where
  rel st st' := st' = st ∧ Q st
  asks := asks
  draw := by rintro st _ ⟨rfl, h⟩ m; exact ⟨rfl, rfl, draw _ m h⟩
  serve := by rintro st _ ⟨rfl, h⟩ α r hr now; exact ⟨rfl, rfl, serve _ r now hr h⟩

/-- A step that asks no others keeps it. -/
theorem Task.step_store_of_asks {Q : Scripted σ → Prop} {asks : {α : Type} → Request α → Prop}
    (draw : ∀ st m, Q st → Q (st.draw m).2)
    (serve : ∀ (st : Scripted σ) {α : Type} (r : Request α) (now : Nat), asks r → Q st → Q (st.serve now r).2)
    (t : Task) (ha : t.phase.Asks asks) (h : Q s.store) : Q (t.step s).2.store := by
  have hs : s.Like (.self Q asks draw serve) s := by cases s; exact .mk ⟨rfl, h⟩
  obtain ⟨t', s₁, s₂, hx, -, h⟩ := hs.step (L := .self Q asks draw serve) ha
  rw [hx]
  exact h.store.2

/-- A step keeps what all requests keep. -/
theorem Task.step_store {Q : Scripted σ → Prop} (draw : ∀ st m, Q st → Q (st.draw m).2)
    (serve : ∀ (st : Scripted σ) {α : Type} (r : Request α) (now : Nat), Q st → Q (st.serve now r).2) (t : Task)
    (h : Q s.store) : Q (t.step s).2.store := by
  have ha : t.phase.Asks fun _ => True := by cases t.phase <;> exact trivial
  exact t.step_store_of_asks draw (fun st _ r now _ => serve st r now) ha h

end TwoTier
