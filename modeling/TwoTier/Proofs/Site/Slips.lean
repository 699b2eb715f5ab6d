/-
What is counted where. An instance counts in three places: in its books, in its client's tally of failures and in
the local tier itself. A `Slip` holds what one piece of work adds in each of them; here are the slips of the pieces
that the segments of calls are made of.
-/
import TwoTier.Proofs.Lru.Counts
import TwoTier.Proofs.Remote.Containment
import TwoTier.Proofs.Site.Trips

namespace TwoTier

/-- What fits in 64 bits is shown as it is. -/
theorem shown_of_le {k : Nat} (h : k ≤ maxNat64) : shown k = k := shown_of_lt (Nat.lt_succ_of_le h)

/-! ## Sums -/

/-- Tallies taken together. -/
def TierCounts.plus (a b : TierCounts) : TierCounts :=
  ⟨a.hits + b.hits, a.misses + b.misses, a.sets + b.sets, a.deletes + b.deletes, a.evictions + b.evictions,
    a.errors + b.errors⟩

@[simp] theorem TierCounts.mk_plus_mk (h m s d e x h' m' s' d' e' x' : Nat) :
    plus ⟨h, m, s, d, e, x⟩ ⟨h', m', s', d', e', x'⟩ = ⟨h + h', m + m', s + s', d + d', e + e', x + x'⟩ := rfl

/-- Books taken together. -/
def Ledger.plus (a b : Ledger) : Ledger :=
  ⟨a.l1.plus b.l1, a.l2.plus b.l2, a.requests + b.requests, a.served + b.served, a.nanos + b.nanos,
    a.fetches + b.fetches, a.fetchErrors + b.fetchErrors⟩

@[simp] theorem Ledger.mk_plus_mk (a b : TierCounts) (r s n f e : Nat) (a' b' : TierCounts) (r' s' n' f' e' : Nat) :
    plus ⟨a, b, r, s, n, f, e⟩ ⟨a', b', r', s', n', f', e'⟩ =
      ⟨a.plus a', b.plus b', r + r', s + s', n + n', f + f', e + e'⟩ := rfl

/-- To enter an event is to add what it enters into empty books. -/
theorem Ledger.record_eq (b : Ledger) (e : Event) : b.record e = b.plus (({} : Ledger).record e) := by
  cases e with
  | hit tier | miss tier | set tier | delete tier | error tier => cases tier <;> rfl
  | evictions tier n => cases tier <;> simp [record, modify, plus, TierCounts.plus]
  | request elapsed served | fetch outcome => simp [record, plus, TierCounts.plus]

/-- What is counted in the three places. -/
structure Slip where
  books : Ledger := {}
  failures : Nat := 0
  counted : LruCounts := {}

def Slip.plus (p q : Slip) : Slip := ⟨p.books.plus q.books, p.failures + q.failures, p.counted.plus q.counted⟩

@[simp] theorem Slip.mk_plus_mk (b : Ledger) (f : Nat) (c : LruCounts) (b' : Ledger) (f' : Nat) (c' : LruCounts) :
    plus ⟨b, f, c⟩ ⟨b', f', c'⟩ = ⟨b.plus b', f + f', c.plus c'⟩ := rfl

theorem Slip.plus_assoc (p q r : Slip) : (p.plus q).plus r = p.plus (q.plus r) := by
  simp only [plus, Ledger.plus, TierCounts.plus, LruCounts.plus, Nat.add_assoc]

/-- All that an instance has counted. -/
def Node.total (n : Node) : Slip := ⟨n.books, n.remote.errors, n.lru.counts⟩

namespace Site

variable {σ α : Type} {s s' s'' : Site σ} {p q : Slip} {key : String}

/-- The work between two sites adds a slip to what the instance has counted. -/
def Adds (p : Slip) (s s' : Site σ) : Prop := s'.node.total = s.node.total.plus p

namespace Adds

theorem trans (h : Adds p s s') (h' : Adds q s' s'') : Adds (p.plus q) s s'' := by
  unfold Adds at *
  rw [h', h, Slip.plus_assoc]

/-- Two slips in one. -/
theorem merge {r : Slip} (h : Adds p s s') (h' : Adds q s' s'') (hr : p.plus q = r) : Adds r s s'' := hr ▸ h.trans h'

theorem of_total (h : s'.node.total = s.node.total) : Adds {} s s' := h

theorem of_node (h : s'.node = s.node) : Adds {} s s' := of_total (congrArg Node.total h)

/-- To add nothing before leaves the slip as it is. -/
theorem after_node (h : s'.node = s.node) (h' : Adds p s' s'') : Adds p s s'' := by
  unfold Adds at *
  rw [h', h]

theorem then_total (h : Adds p s s') (h' : s''.node.total = s'.node.total) : Adds p s s'' := h'.trans h

end Adds

/-! ## One entry -/

theorem adds_record (s : Site σ) (e : Event) : Adds { books := ({} : Ledger).record e } s (s.record e) := by
  show Slip.mk (s.node.books.record e) _ _ = _
  rw [Ledger.record_eq]
  rfl

theorem adds_report (s : Site σ) (operation : String) (e : CacheError) :
    Adds { failures := (isFailure (.error e : Except CacheError α)).toNat } s (s.report operation e) := by
  unfold report Link.report
  split <;> rename_i h
  · rw [show isFailure (.error e : Except CacheError α) = false from decide_eq_false (not_not.2 h)]
    rfl
  · rw [show isFailure (.error e : Except CacheError α) = true from decide_eq_true h]
    rfl

/-- How an operation of the shared tier has ended: what was done there is entered, and so is its failure, which is
also reported. -/
def settled (sets deletes : Nat) (failed : Bool) : Slip where
  books := { l2 := { sets, deletes, errors := failed.toNat } }
  failures := failed.toNat

theorem adds_fail (s : Site σ) (operation : String) (e : CacheError) :
    Adds (settled 0 0 (isFailure (.error e : Except CacheError α))) s (s.fail operation e) := by
  have hr := fun s : Site σ => adds_report (α := α) s operation e
  unfold fail
  split <;> rename_i h
  · rw [show isFailure (.error e : Except CacheError α) = false from decide_eq_false (not_not.2 h)] at hr ⊢
    exact hr s
  · rw [show isFailure (.error e : Except CacheError α) = true from decide_eq_true h] at hr ⊢
    exact (adds_record s _).merge (hr _) rfl

/-- Only writes and deletions are entered when they are done. -/
theorem adds_settle (s : Site σ) (operation : String) (done : α → Option Event)
    (hd : ∀ a e, done a = some e → e = .set .l2 ∨ e = .delete .l2) (reply : Except CacheError α) :
    ∃ sets deletes, Adds (settled sets deletes (isFailure reply)) s (s.settle operation done reply) := by
  cases reply with
  | ok a =>
    show ∃ sets deletes, Adds _ s ((done a).elim s s.record)
    cases hda : done a with
    | none => exact ⟨0, 0, .of_node rfl⟩
    | some e =>
      rcases hd a e hda with rfl | rfl
      · exact ⟨1, 0, adds_record ..⟩
      · exact ⟨0, 1, adds_record ..⟩
  | error e => exact ⟨0, 0, adds_fail ..⟩

theorem adds_recordEviction (s : Site σ) (evicted : Bool) :
    Adds { books := { l1 := { evictions := evicted.toNat } } } s (s.recordEviction evicted) := by
  cases evicted with
  | true => exact adds_record ..
  | false => exact .of_node rfl

theorem adds_withLru {lru : Lru Json} {c : LruCounts} (h : lru.counts = s.node.lru.counts.plus c) :
    Adds { counted := c } s (s.withLru lru) := by
  show Slip.mk _ _ lru.counts = _
  rw [h]
  rfl

/-! ## Writes -/

theorem adds_put {v : Json} {ttl : Option Nat} {evicted : Bool} (h : s.put key v ttl = (evicted, s')) :
    Adds { counted := { sets := 1, evictions := evicted.toNat } } s s' := by
  cases h
  exact adds_withLru (Lru.counts_set ..)

/-- A promotion is entered at once. -/
theorem adds_promote (s : Site σ) (key : String) (v : Json) : ∃ evicted : Bool,
    Adds { books := { l1 := { sets := 1, evictions := evicted.toNat } },
           counted := { sets := 1, evictions := evicted.toNat } } s (s.promote key v) := by
  rcases hp : s.put key v none with ⟨evicted, s₁⟩
  unfold promote
  rw [hp]
  refine ⟨evicted, ((adds_put hp).trans (adds_recordEviction ..)).merge (adds_record ..) ?_⟩
  simp [Ledger.record, Ledger.modify]

/-! ## Look-ups -/

theorem adds_lookupLocal_some {v : Json} (h : s.lookupLocal key = (some v, s')) :
    Adds { books := { l1 := { hits := 1 } }, counted := { hits := 1 } } s s' := by
  unfold lookupLocal at h
  rcases hg : s.node.lru.get s.now key with ⟨_ | w, lru⟩ <;> rw [hg] at h <;> cases h
  exact (adds_withLru (Lru.counts_get_some hg)).merge (adds_record ..) rfl

theorem adds_lookupLocal_none (h : s.lookupLocal key = (none, s')) : ∃ expired : Bool,
    Adds { books := { l1 := { misses := 1 } }, counted := { misses := 1, expirations := expired.toNat } } s s' := by
  unfold lookupLocal at h
  rcases hg : s.node.lru.get s.now key with ⟨_ | w, lru⟩ <;> rw [hg] at h <;> cases h
  obtain ⟨expired, hc⟩ := Lru.counts_get_none hg
  refine ⟨expired, (adds_withLru hc).merge (adds_record ..) ?_⟩
  simp [Ledger.record, Ledger.modify]

/-- A second look enters hits only. -/
theorem adds_recheckLocal_some {v : Json} (h : s.recheckLocal key = (some v, s')) :
    Adds { books := { l1 := { hits := 1 } }, counted := { hits := 1 } } s s' := by
  unfold recheckLocal at h
  rcases hg : s.node.lru.get s.now key with ⟨_ | w, lru⟩ <;> rw [hg] at h <;> cases h
  exact (adds_withLru (Lru.counts_get_some hg)).merge (adds_record ..) rfl

theorem adds_recheckLocal_none (h : s.recheckLocal key = (none, s')) : ∃ expired : Bool,
    Adds { counted := { misses := 1, expirations := expired.toNat } } s s' := by
  unfold recheckLocal at h
  rcases hg : s.node.lru.get s.now key with ⟨_ | w, lru⟩ <;> rw [hg] at h <;> cases h
  obtain ⟨expired, hc⟩ := Lru.counts_get_none hg
  exact ⟨expired, adds_withLru hc⟩

/-- Whether reading a reply has failed. -/
def fails (reply : Except CacheError (Option Bytes)) : Bool :=
  isFailure (Payload.decodeReply reply : Except CacheError (Option Json))

/-- A hit of the shared tier is entered together with the promotion. -/
def promotion (evicted : Bool) : Slip where
  books := { l1 := { sets := 1, evictions := evicted.toNat }, l2 := { hits := 1 } }
  counted := { sets := 1, evictions := evicted.toNat }

theorem adds_hit_promote (s : Site σ) (key : String) (v : Json) :
    ∃ evicted, Adds (promotion evicted) s ((s.record (.hit .l2)).promote key v) := by
  obtain ⟨evicted, h⟩ := adds_promote (s.record (.hit .l2)) key v
  refine ⟨evicted, (adds_record s _).merge h ?_⟩
  simp [Ledger.record, Ledger.modify, promotion]

theorem adds_lookupShared_some {reply : Except CacheError (Option Bytes)} {v : Json}
    (h : s.lookupShared key reply = (some v, s')) : fails reply = false ∧ ∃ evicted, Adds (promotion evicted) s s' := by
  unfold lookupShared at h
  unfold fails
  rcases hd : (Payload.decodeReply reply : Except CacheError (Option Json)) with e | _ | w <;> rw [hd] at h <;> cases h
  exact ⟨rfl, adds_hit_promote ..⟩

theorem adds_lookupShared_none {reply : Except CacheError (Option Bytes)} (h : s.lookupShared key reply = (none, s')) :
    Adds { books := { l2 := { misses := 1, errors := (fails reply).toNat } }, failures := (fails reply).toNat } s s' := by
  unfold lookupShared at h
  unfold fails
  rcases hd : (Payload.decodeReply reply : Except CacheError (Option Json)) with e | _ | w <;> rw [hd] at h <;> cases h
  · refine (adds_fail (α := Option Json) s "get" e).merge (adds_record ..) ?_
    simp [Ledger.record, Ledger.modify, settled]
  · exact adds_record ..

theorem adds_recheckShared_some {reply : Except CacheError (Option Bytes)} {v : Json}
    (h : s.recheckShared key reply = (some v, s')) : fails reply = false ∧ ∃ evicted, Adds (promotion evicted) s s' := by
  unfold recheckShared at h
  unfold fails
  rcases hd : (Payload.decodeReply reply : Except CacheError (Option Json)) with e | _ | w <;> rw [hd] at h <;> cases h
  exact ⟨rfl, adds_hit_promote ..⟩

/-- A failed second look is reported to the client and not entered into the books. -/
theorem adds_recheckShared_none {reply : Except CacheError (Option Bytes)} (h : s.recheckShared key reply = (none, s')) :
    Adds { failures := (fails reply).toNat } s s' := by
  unfold recheckShared at h
  unfold fails
  rcases hd : (Payload.decodeReply reply : Except CacheError (Option Json)) with e | _ | w <;> rw [hd] at h <;> cases h
  · exact adds_report ..
  · exact .of_node rfl

end Site

end TwoTier
