/-
Two sets of figures about the same work. Whatever a cache enters into its books it also records among the metrics of
the process, and what its client counts as failed it records as well. Here it is shown of each part of a segment, and
so of every segment, that both sides of every `Mirror` grow by the same, whatever phase the call is in.
-/
import Mathlib.Tactic
import TwoTier.Proofs.Site.Trips

namespace TwoTier

/-! ## What is counted twice -/

/-- What the books of a cache, or its client, and the metrics of the process both count. -/
inductive Mirror where
  | hits (t : Tier)
  | misses (t : Tier)
  | sets (t : Tier)
  | deletes (t : Tier)
  | evictions (t : Tier)
  | fetches
  | fetchErrors
  | requests
  | failures
deriving DecidableEq

namespace Mirror

/-- The counters of the process that add up to it. -/
def takes : Mirror → Series → Bool
  | hits t => fun s => s = .hits t
  | misses t => fun s => s = .misses t
  | sets t => fun s => s = .sets t
  | deletes t => fun s => s = .deletes t
  | evictions t => fun s => s = .evictions t
  | fetches => fun s => (s matches .fetches _)
  | fetchErrors => fun s => s = .fetches .error
  | requests => fun _ => false
  | failures => fun s => (s matches .failures _)

/-- What has been entered into books. -/
def entered : Mirror → Ledger → Nat
  | hits t => fun b => (b.counts t).hits
  | misses t => fun b => (b.counts t).misses
  | sets t => fun b => (b.counts t).sets
  | deletes t => fun b => (b.counts t).deletes
  | evictions t => fun b => (b.counts t).evictions
  | fetches => Ledger.fetches
  | fetchErrors => Ledger.fetchErrors
  | requests => Ledger.requests
  | failures => fun _ => 0

/-- What one entry adds. -/
def gain : Mirror → Event → Nat
  | hits t, .hit t' => if t' = t then 1 else 0
  | misses t, .miss t' => if t' = t then 1 else 0
  | sets t, .set t' => if t' = t then 1 else 0
  | deletes t, .delete t' => if t' = t then 1 else 0
  | evictions t, .evictions t' n => if t' = t then n else 0
  | fetches, .fetch _ => 1
  | fetchErrors, .fetch outcome => if outcome = .error then 1 else 0
  | requests, .request _ _ => 1
  | _, _ => 0

theorem entered_record (x : Mirror) (b : Ledger) (e : Event) : x.entered (b.record e) = x.entered b + x.gain e := by
  cases x with
  | hits t | misses t | sets t | deletes t | evictions t =>
    cases e with
    | hit t' | miss t' | set t' | delete t' | evictions t' _ | error t' => cases t <;> cases t' <;> rfl
    | request | fetch => cases t <;> rfl
  | fetches | fetchErrors | requests | failures =>
    cases e with
    | hit t' | miss t' | set t' | delete t' | evictions t' _ | error t' => cases t' <;> rfl
    | request | fetch => rfl

end Mirror

/-- What an instance has counted: its books, and the failures by its client. -/
def Node.entered (n : Node) (x : Mirror) : Nat := x.entered n.books + if x = .failures then n.remote.errors else 0

namespace Recorder

variable {r : Recorder} {s : Series} {x : Mirror} {n : Nat}

/-- What a process has recorded. -/
def total (r : Recorder) (x : Mirror) : Nat :=
  (r.counters.map fun c => if x.takes c.1 then c.2 else 0).sum + if x = .requests then r.durations else 0

/-- A recorder that keeps what it is told, each counter once. -/
structure Keeps (r : Recorder) : Prop where
  installed : r.installed = true
  nodup : (r.counters.map Prod.fst).Nodup

theorem sum_without {l : List (Series × Nat)} (h : (l.map Prod.fst).Nodup) (f : Series → Bool) (s : Series) :
    ((l.filter fun c => c.1 ≠ s).map fun c => if f c.1 then c.2 else 0).sum + (if f s then (l.lookup s).getD 0 else 0) =
      (l.map fun c => if f c.1 then c.2 else 0).sum := by
  induction l with
  | nil => simp
  | cons c l ih =>
    obtain ⟨k, v⟩ := c
    rw [List.map_cons, List.nodup_cons] at h
    have ih := ih h.2
    by_cases hk : k = s
    · subst hk
      have hout : l.filter (fun c => c.1 ≠ k) = l := List.filter_eq_self.2 fun c hc => by
        simpa using fun he : c.1 = k => h.1 (List.mem_map.2 ⟨c, hc, he⟩)
      rw [List.filter_cons_of_neg (by simp), hout, List.lookup_cons_self, List.map_cons, List.sum_cons]
      exact Nat.add_comm ..
    · rw [List.filter_cons_of_pos (by simpa using hk), List.map_cons, List.map_cons, List.sum_cons, List.sum_cons,
        List.lookup_cons, beq_eq_false_iff_ne.2 (Ne.symm hk), ← ih, Nat.add_assoc]

theorem Keeps.add (h : r.Keeps) (s : Series) (n : Nat) : (r.add s n).Keeps := by
  unfold Recorder.add
  rw [if_pos h.installed]
  refine ⟨h.installed, List.nodup_cons.2 ⟨?_, h.nodup.sublist (List.filter_sublist.map _)⟩⟩
  simp

theorem total_add (h : r.Keeps) (s : Series) (n : Nat) (x : Mirror) :
    (r.add s n).total x = r.total x + if x.takes s then n else 0 := by
  have hsum := sum_without h.nodup x.takes s
  unfold Recorder.add total
  rw [if_pos h.installed]
  dsimp only
  rw [List.map_cons, List.sum_cons, ← hsum]
  unfold count
  split <;> omega

theorem Keeps.record (h : r.Keeps) (e : Event) : (r.record e).Keeps := by
  cases e with
  | error t => exact h
  | evictions t n =>
    show Keeps (if n = 0 then r else r.add _ n)
    split
    · exact h
    · exact h.add ..
  | request elapsed served =>
    show Keeps (r.addDuration elapsed)
    unfold addDuration
    rw [if_pos h.installed]
    exact ⟨h.installed, h.nodup⟩
  | _ => exact h.add ..

theorem total_record (h : r.Keeps) (e : Event) (x : Mirror) : (r.record e).total x = r.total x + x.gain e := by
  cases e with
  | error t => cases x <;> rfl
  | evictions t n =>
    show total (if n = 0 then r else r.add _ n) x = _
    split
    · rename_i hn
      cases x <;> simp [Mirror.gain, hn]
    · rw [total_add h]
      cases x <;> simp [Mirror.takes, Mirror.gain]
  | request elapsed served =>
    show (r.addDuration elapsed).total x = _
    unfold addDuration total
    rw [if_pos h.installed]
    cases x <;> simp [Mirror.gain, Nat.add_assoc]
  | hit t | miss t | set t | delete t | fetch o =>
    refine (total_add h _ _ x).trans ?_
    cases x <;> simp [Mirror.takes, Mirror.gain]

end Recorder

/-! ## Work that is mirrored -/

namespace Site

variable {σ α : Type} {s s' s'' : Site σ} {trip : Trip α} {key operation : String}

/-- What the work between two sites has entered it has recorded, and nothing else. -/
structure Mirrors (s s' : Site σ) : Prop where
  keeps : s.recorder.Keeps → s'.recorder.Keeps
  same : s.recorder.Keeps → ∀ x,
    s'.recorder.total x + s.node.entered x = s.recorder.total x + s'.node.entered x

namespace Mirrors

theorem refl (s : Site σ) : Mirrors s s := ⟨id, fun _ _ => rfl⟩

theorem trans (h : Mirrors s s') (h' : Mirrors s' s'') : Mirrors s s'' where
  keeps hk := h'.keeps (h.keeps hk)
  same hk x := by
    have ha := h.same hk x
    have hb := h'.same (h.keeps hk) x
    omega

/-- Gauges are not among what is counted. -/
theorem of_gauges (hn : s'.node.books = s.node.books) (he : s'.node.remote.errors = s.node.remote.errors)
    (hi : s'.recorder.installed = s.recorder.installed) (hc : s'.recorder.counters = s.recorder.counters)
    (hd : s'.recorder.durations = s.recorder.durations) : Mirrors s s' where
  keeps hk := ⟨hi.trans hk.installed, hc ▸ hk.nodup⟩
  same _ x := by
    unfold Node.entered Recorder.total
    rw [hn, he, hc, hd]

/-- Work that enters and records nothing. -/
theorem of_silent (hb : s'.node.books = s.node.books) (he : s'.node.remote.errors = s.node.remote.errors)
    (hr : s'.recorder = s.recorder) : Mirrors s s' :=
  of_gauges hb he (by rw [hr]) (by rw [hr]) (by rw [hr])

theorem of_setOff (h : SetOff s s') : Mirrors s s' :=
  of_silent (by rw [h.node]) (by rw [h.node]) h.recorder

end Mirrors

/-! ### Entries -/

theorem mirrors_record (s : Site σ) (e : Event) : Mirrors s (s.record e) where
  keeps hk := hk.record e
  same hk x := by
    show (s.recorder.record e).total x + Node.entered s.node x =
      s.recorder.total x + (x.entered (s.node.books.record e) + if x = .failures then s.node.remote.errors else 0)
    rw [Recorder.total_record hk, Mirror.entered_record]
    unfold Node.entered
    omega

theorem mirrors_report (s : Site σ) (operation : String) (e : CacheError) : Mirrors s (s.report operation e) := by
  unfold report Link.report
  split
  · exact .refl s
  · refine ⟨fun hk => hk.add .., fun hk x => ?_⟩
    show (s.recorder.add (.failures operation) 1).total x + Node.entered s.node x =
      s.recorder.total x + (x.entered s.node.books + if x = .failures then s.node.remote.errors + 1 else 0)
    rw [Recorder.total_add hk]
    unfold Node.entered
    cases x with
    | failures =>
      simp only [Mirror.takes, if_true]
      omega
    | _ => rfl

theorem mirrors_fail (s : Site σ) (operation : String) (e : CacheError) : Mirrors s (s.fail operation e) := by
  unfold fail
  split
  · exact mirrors_report ..
  · exact (mirrors_record ..).trans (mirrors_report ..)

theorem mirrors_settle (s : Site σ) (operation : String) (done : α → Option Event) (reply : Except CacheError α) :
    Mirrors s (s.settle operation done reply) := by
  cases reply with
  | ok a =>
    show Mirrors s ((done a).elim s s.record)
    cases done a with
    | none => exact .refl s
    | some e => exact mirrors_record ..
  | error e => exact mirrors_fail ..

theorem mirrors_recordEviction (s : Site σ) (evicted : Bool) : Mirrors s (s.recordEviction evicted) := by
  cases evicted with
  | true => exact mirrors_record ..
  | false => exact .refl s

/-! ### Trips -/

theorem mirrors_call (s : Site σ) (r : Request α) : Mirrors s (s.call r).2 := .of_setOff (call_spec rfl).2.2

theorem mirrors_dial (s : Site σ) : Mirrors s s.dial.2 := .of_setOff (dial_spec rfl).2.2

theorem mirrors_setConnected (s : Site σ) (b : Bool) : Mirrors s (s.setConnected b) := by
  cases hi : s.recorder.installed <;> refine .of_gauges rfl rfl ?_ ?_ ?_ <;>
    simp [setConnected, withLink, link, Link.setConnected, Recorder.setConnected, hi]

theorem mirrors_hangUp (s : Site σ) : Mirrors s s.hangUp.2 :=
  (mirrors_setConnected s false).trans (.of_setOff (hangUp_spec rfl).2.2)

theorem mirrors_finish [Backend σ] (s : Site σ) (trip : Trip α) : Mirrors s (s.finish trip).2 :=
  .of_silent rfl rfl rfl

/-! ### The local tier -/

theorem mirrors_withLru (s : Site σ) (lru : Lru Json) : Mirrors s (s.withLru lru) := .of_silent rfl rfl rfl

theorem mirrors_leave (s : Site σ) (key : String) (ticket : Nat) : Mirrors s (s.leave key ticket) :=
  .of_silent rfl rfl rfl

theorem mirrors_promote (s : Site σ) (key : String) (v : Json) : Mirrors s (s.promote key v) :=
  ((mirrors_withLru s _).trans (mirrors_recordEviction ..)).trans (mirrors_record ..)

theorem mirrors_lookupLocal (s : Site σ) (key : String) : Mirrors s (s.lookupLocal key).2 := by
  unfold lookupLocal
  rcases s.node.lru.get s.now key with ⟨_ | v, lru⟩ <;> exact (mirrors_withLru ..).trans (mirrors_record ..)

theorem mirrors_recheckLocal (s : Site σ) (key : String) : Mirrors s (s.recheckLocal key).2 := by
  unfold recheckLocal
  rcases s.node.lru.get s.now key with ⟨_ | v, lru⟩
  · exact mirrors_withLru ..
  · exact (mirrors_withLru ..).trans (mirrors_record ..)

theorem mirrors_lookupShared (s : Site σ) (key : String) (reply : Except CacheError (Option Bytes)) :
    Mirrors s (s.lookupShared key reply).2 := by
  unfold lookupShared
  rcases (Payload.decodeReply reply : Except CacheError (Option Json)) with e | _ | v
  · exact (mirrors_fail ..).trans (mirrors_record ..)
  · exact mirrors_record ..
  · exact (mirrors_record ..).trans (mirrors_promote ..)

theorem mirrors_recheckShared (s : Site σ) (key : String) (reply : Except CacheError (Option Bytes)) :
    Mirrors s (s.recheckShared key reply).2 := by
  unfold recheckShared
  rcases (Payload.decodeReply reply : Except CacheError (Option Json)) with e | _ | v
  · exact mirrors_report ..
  · exact .refl s
  · exact (mirrors_record ..).trans (mirrors_promote ..)

theorem mirrors_purge (s : Site σ) : Mirrors s s.purge := by
  cases hi : s.recorder.installed <;> refine .of_gauges rfl rfl ?_ ?_ ?_ <;>
    simp [purge, Recorder.setEntries, Recorder.setConnected, hi]

end Site

/-! ## Segments -/

namespace Task

variable {σ : Type} (t : Task) (s : Site σ) (key : String)

theorem mirrors_answer (served : Bool) (r : Except String (Option Json)) : s.Mirrors (t.answer served r s).2 :=
  s.mirrors_record _

theorem mirrors_announce (body : Invalidation) (reply : Reply) : s.Mirrors (t.announce body reply s).2 := by
  unfold announce
  cases s.node.channel with
  | none => exact .refl s
  | some channel => exact s.mirrors_call _

theorem mirrors_write (v : Json) (ttl : Option Nat) : s.Mirrors (t.write key v ttl s).2 :=
  (s.mirrors_withLru _).trans (Site.mirrors_call ..)

theorem mirrors_startFetch : s.Mirrors (t.startFetch key s).2 := by
  unfold startFetch
  cases t.call with
  | getOrFetch _ fetch => exact .refl s
  | _ => exact mirrors_answer ..

theorem mirrors_miss : s.Mirrors (t.miss key s).2 := by
  unfold miss
  cases t.call with
  | getOrFetch _ fetch =>
    dsimp only
    split
    · exact .of_silent rfl rfl rfl
    · exact mirrors_startFetch ..
  | _ => exact mirrors_answer ..

theorem mirrors_lookup : s.Mirrors (t.lookup key s).2 := by
  have h := s.mirrors_lookupLocal key
  unfold lookup
  rcases hl : s.lookupLocal key with ⟨_ | v, s₁⟩ <;> rw [hl] at h
  · exact h.trans (Site.mirrors_call ..)
  · exact h.trans (mirrors_answer ..)

theorem mirrors_endFetch (fetch : Fetch) : s.Mirrors (t.endFetch key fetch s).2 := by
  refine (s.mirrors_record (.fetch fetch.kind)).trans ?_
  unfold endFetch
  dsimp only
  split
  · exact mirrors_write ..
  · exact (Site.mirrors_leave ..).trans (mirrors_answer ..)

theorem mirrors_endStore (evicted : Bool) (reply : Except CacheError Unit) :
    s.Mirrors (t.endStore key evicted reply s).2 := by
  refine (((s.mirrors_record (.set .l1)).trans (Site.mirrors_recordEviction _ evicted)).trans
    (Site.mirrors_settle _ "set" (fun _ => some (.set .l2)) reply)).trans ?_
  unfold endStore
  dsimp only
  cases t.call with
  | getOrFetch _ fetch => exact (Site.mirrors_leave ..).trans (mirrors_answer ..)
  | _ => exact .refl _

theorem mirrors_endDelete (resident : Bool) (reply : Except CacheError Bool) :
    s.Mirrors (t.endDelete key resident reply s).2 := by
  have hlocal : s.Mirrors (if resident then s.record (.delete .l1) else s) := by
    cases resident with
    | true => exact s.mirrors_record _
    | false => exact .refl s
  exact (hlocal.trans (Site.mirrors_settle ..)).trans (mirrors_announce ..)

theorem mirrors_endSweep (pattern : String) (reply : Except CacheError Nat) :
    s.Mirrors (t.endSweep pattern reply s).2 :=
  (s.mirrors_settle ..).trans (mirrors_announce ..)

theorem mirrors_cancel : s.Mirrors (t.cancel s).2 := by
  unfold cancel
  split
  · exact .refl s
  · show s.Mirrors (t.phase.line?.elim s (s.leave · t.ticket))
    cases t.phase.line? with
    | none => exact .refl s
    | some key => exact s.mirrors_leave ..

variable [Backend σ]

theorem mirrors_start : s.Mirrors (t.start s).2 := by
  unfold start
  cases t.call with
  | get key => exact mirrors_lookup ..
  | getOrFetch key fetch => exact mirrors_lookup ..
  | set key v ttl => exact mirrors_write ..
  | delete key => exact (s.mirrors_withLru _).trans (Site.mirrors_call ..)
  | deletePattern pattern => exact (s.mirrors_withLru _).trans (Site.mirrors_call ..)
  | stats =>
    dsimp only
    split
    · exact s.mirrors_call _
    · exact .refl s
  | health =>
    dsimp only
    split
    · exact s.mirrors_call _
    · exact .refl s
  | connect => exact s.mirrors_dial
  | shutdown => exact s.mirrors_hangUp

/-- A segment enters and records the same. -/
theorem mirrors_step : s.Mirrors (t.step s).2 := by
  unfold step
  -- a phase with a trip finishes it first, and what follows is one of the helpers
  cases t.phase with
  | waiting start => exact mirrors_start ..
  | reading key trip =>
    have h := (s.mirrors_finish trip).trans (Site.mirrors_lookupShared _ key (s.finish trip).1)
    dsimp only
    rcases hl : (s.finish trip).2.lookupShared key (s.finish trip).1 with ⟨_ | v, s₁⟩ <;> rw [hl] at h
    · exact h.trans (mirrors_miss ..)
    · exact h.trans (mirrors_answer ..)
  | queued key =>
    have h := s.mirrors_recheckLocal key
    dsimp only
    rcases hl : s.recheckLocal key with ⟨_ | v, s₁⟩ <;> rw [hl] at h
    · exact h.trans (Site.mirrors_call ..)
    · exact (h.trans (Site.mirrors_leave ..)).trans (mirrors_answer ..)
  | rereading key trip =>
    have h := (s.mirrors_finish trip).trans (Site.mirrors_recheckShared _ key (s.finish trip).1)
    dsimp only
    rcases hl : (s.finish trip).2.recheckShared key (s.finish trip).1 with ⟨_ | v, s₁⟩ <;> rw [hl] at h
    · exact h.trans (mirrors_startFetch ..)
    · exact (h.trans (Site.mirrors_leave ..)).trans (mirrors_answer ..)
  | fetching key due =>
    dsimp only
    split
    · exact mirrors_endFetch ..
    · exact mirrors_answer ..
  | storing key evicted trip => exact (s.mirrors_finish trip).trans (mirrors_endStore ..)
  | deleting key resident trip => exact (s.mirrors_finish trip).trans (mirrors_endDelete ..)
  | sweeping pattern trip => exact (s.mirrors_finish trip).trans (mirrors_endSweep ..)
  | announcing reply trip => exact (s.mirrors_finish trip).trans (Site.mirrors_settle ..)
  | inspecting localTier trip =>
    have h := s.mirrors_finish trip
    dsimp only
    rcases hf : s.finish trip with ⟨e | info, s₁⟩ <;> rw [hf] at h
    · exact h.trans (Site.mirrors_report ..)
    · exact h
  | probing trip => exact s.mirrors_finish trip
  | dialing attempt left trip =>
    have h := s.mirrors_finish trip
    dsimp only
    rcases hf : s.finish trip with ⟨e | _, s₁⟩ <;> rw [hf] at h
    · cases left with
      | zero => exact h.trans (Site.mirrors_setConnected ..)
      | succ left => exact h
    · exact h.trans (Site.mirrors_setConnected ..)
  | resting attempt left due => exact s.mirrors_dial
  | hangingUp trip => exact s.mirrors_finish trip
  | finished reply ended => exact .refl s
  | cancelled ended => exact .refl s

end Task

end TwoTier
