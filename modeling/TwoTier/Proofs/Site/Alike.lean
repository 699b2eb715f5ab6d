/-
Sites that differ in nothing but what was counted. Books, the recorder and the client's error
counter never decide what an instance does, so whatever holds of the rest of a site survives every
entry, and each part of a segment is described up to such entries.
-/
import Mathlib.Tactic
import TwoTier.Call.Step
import TwoTier.Proofs.Lru.Residence

namespace TwoTier

/-- An instance without its books and error counter. -/
def Node.uncounted (n : Node) : Node := { n with books := {}, remote := { n.remote with errors := 0 } }

/-- Whatever can be told without the counts is the same. -/
theorem Node.same_of_uncounted {β : Type} {n n' : Node} (h : n'.uncounted = n.uncounted) (f : Node → β)
    (hf : ∀ n : Node, f n.uncounted = f n) : f n' = f n := by rw [← hf, h, hf]

namespace Site

variable {σ α : Type} {s s' s'' : Site σ}

/-- The second site is the first one with other counts. -/
structure Alike (s s' : Site σ) : Prop where
  now : s'.now = s.now
  store : s'.store = s.store
  node : s'.node.uncounted = s.node.uncounted

namespace Alike

theorem refl (s : Site σ) : Alike s s := ⟨rfl, rfl, rfl⟩

theorem trans (h : Alike s s') (h' : Alike s' s'') : Alike s s'' :=
  ⟨h'.now.trans h.now, h'.store.trans h.store, h'.node.trans h.node⟩

theorem same {β : Type} (h : Alike s s') (f : Node → β) (hf : ∀ n : Node, f n.uncounted = f n) :
    f s'.node = f s.node := Node.same_of_uncounted h.node f hf

theorem lru (h : Alike s s') : s'.node.lru = s.node.lru := h.same Node.lru fun _ => rfl

theorem flights (h : Alike s s') : s'.node.flights = s.node.flights := h.same Node.flights fun _ => rfl

theorem coalesce (h : Alike s s') : s'.node.coalesce = s.node.coalesce := h.same Node.coalesce fun _ => rfl

theorem connected (h : Alike s s') : s'.node.remote.connected = s.node.remote.connected :=
  h.same (·.remote.connected) fun _ => rfl

theorem timeout (h : Alike s s') : s'.node.remote.timeout = s.node.remote.timeout :=
  h.same (·.remote.timeout) fun _ => rfl

theorem withLru (h : Alike s s') (l : Lru Json) : Alike (s.withLru l) (s'.withLru l) :=
  ⟨h.now, h.store, h.same (fun n => { n.uncounted with lru := l }) fun _ => rfl⟩

theorem withFlights (h : Alike s s') (f : Flights) :
    Alike { s with node := { s.node with flights := f } } { s' with node := { s'.node with flights := f } } :=
  ⟨h.now, h.store, h.same (fun n => { n.uncounted with flights := f }) fun _ => rfl⟩

theorem join (h : Alike s s') (key : String) (ticket : Nat) : Alike (s.join key ticket) (s'.join key ticket) := by
  unfold Site.join; rw [h.flights]; exact h.withFlights _

theorem leave (h : Alike s s') (key : String) (ticket : Nat) : Alike (s.leave key ticket) (s'.leave key ticket) := by
  unfold Site.leave; rw [h.flights]; exact h.withFlights _

end Alike

/-! ## What only counts -/

theorem alike_record (s : Site σ) (e : Event) : Alike s (s.record e) := ⟨rfl, rfl, rfl⟩

theorem alike_report (s : Site σ) (operation : String) (e : CacheError) : Alike s (s.report operation e) := by
  unfold report Link.report
  split <;> exact ⟨rfl, rfl, rfl⟩

theorem alike_fail (s : Site σ) (operation : String) (e : CacheError) : Alike s (s.fail operation e) := by
  unfold fail
  split
  · exact alike_report ..
  · exact (alike_record ..).trans (alike_report ..)

theorem alike_settle (s : Site σ) (operation : String) (done : α → Option Event) (reply : Except CacheError α) :
    Alike s (s.settle operation done reply) := by
  cases reply with
  | ok a =>
    show Alike s ((done a).elim s s.record)
    cases done a with
    | none => exact .refl s
    | some e => exact alike_record ..
  | error e => exact alike_fail ..

theorem alike_recordEviction (s : Site σ) (evicted : Bool) : Alike s (s.recordEviction evicted) := by
  unfold recordEviction
  split
  · exact alike_record ..
  · exact .refl s

/-! ## Look-ups, but for the counting -/

/-- A look-up in the local tier reads it once. -/
theorem lookupLocal_spec {key : String} {r : Option Json} (h : s.lookupLocal key = (r, s')) :
    r = s.node.lru.live? s.now key ∧ Alike (s.withLru (s.node.lru.get s.now key).2) s' := by
  rw [← Lru.get_fst]
  unfold lookupLocal at h
  rcases hg : s.node.lru.get s.now key with ⟨_ | v, lru⟩ <;> rw [hg] at h <;> cases h <;> exact ⟨rfl, alike_record ..⟩

/-- So does a second look. -/
theorem recheckLocal_spec {key : String} {r : Option Json} (h : s.recheckLocal key = (r, s')) :
    r = s.node.lru.live? s.now key ∧ Alike (s.withLru (s.node.lru.get s.now key).2) s' := by
  rw [← Lru.get_fst]
  unfold recheckLocal at h
  rcases hg : s.node.lru.get s.now key with ⟨_ | v, lru⟩ <;> rw [hg] at h <;> cases h
  · exact ⟨rfl, .refl _⟩
  · exact ⟨rfl, alike_record ..⟩

/-- The value a reply of the shared tier brings. -/
def valueOf? (reply : Except CacheError (Option Bytes)) : Option Json :=
  (Payload.decodeReply reply).toOption.join

/-- A promotion, but for the counting. -/
theorem alike_promote (s : Site σ) (key : String) (v : Json) :
    Alike (s.withLru (s.node.lru.set s.now key v none).2) (s.promote key v) :=
  (alike_recordEviction ..).trans (alike_record ..)

/-- What becomes of a site when the shared tier has brought a value, or has not. -/
def promoted (s : Site σ) (key : String) : Option Json → Site σ
  | some v => s.withLru (s.node.lru.set s.now key v none).2
  | none => s

/-- A look-up in the shared tier promotes what it brings and changes nothing else. -/
theorem lookupShared_spec {key : String} {reply : Except CacheError (Option Bytes)} {r : Option Json}
    (h : s.lookupShared key reply = (r, s')) : r = valueOf? reply ∧ Alike (s.promoted key r) s' := by
  unfold lookupShared at h
  unfold valueOf?
  rcases hd : (Payload.decodeReply reply : Except CacheError (Option Json)) with e | _ | v <;> rw [hd] at h <;> cases h
  · exact ⟨rfl, (alike_fail ..).trans (alike_record ..)⟩
  · exact ⟨rfl, alike_record ..⟩
  · exact ⟨rfl, ((alike_record s _).withLru _).trans (alike_promote ..)⟩

theorem recheckShared_spec {key : String} {reply : Except CacheError (Option Bytes)} {r : Option Json}
    (h : s.recheckShared key reply = (r, s')) : r = valueOf? reply ∧ Alike (s.promoted key r) s' := by
  unfold recheckShared at h
  unfold valueOf?
  rcases hd : (Payload.decodeReply reply : Except CacheError (Option Json)) with e | _ | v <;> rw [hd] at h <;> cases h
  · exact ⟨rfl, alike_report ..⟩
  · exact ⟨rfl, .refl s⟩
  · exact ⟨rfl, ((alike_record s _).withLru _).trans (alike_promote ..)⟩

end Site

end TwoTier
