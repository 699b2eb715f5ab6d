/-
Two sets of books about one local tier. The tier counts what is done to it when it is done, the instance enters the
same from what it is told, some of it only after the shared tier has answered. At rest the two agree, but for keys
that messages removed, of which the instance enters nothing, and for second looks, of which it enters hits only.
-/
import TwoTier.Proofs.Cluster.Balance
import TwoTier.Store

namespace TwoTier

/-- What both the local tier and the books count. -/
inductive Column where
  | hits
  | sets
  | deletes
  | evictions

namespace Column

def counted : Column → LruCounts → Nat
  | hits => LruCounts.hits
  | sets => LruCounts.sets
  | deletes => LruCounts.deletes
  | evictions => LruCounts.evictions

def entered : Column → TierCounts → Nat
  | hits => TierCounts.hits
  | sets => TierCounts.sets
  | deletes => TierCounts.deletes
  | evictions => TierCounts.evictions

/-- What is counted before it is entered. -/
def pending : Column → Pending → Nat
  | hits => fun _ => 0
  | sets => Pending.sets
  | deletes => Pending.deletes
  | evictions => Pending.evictions

theorem counted_plus (k : Column) (a b : LruCounts) : k.counted (a.plus b) = k.counted a + k.counted b := by
  cases k <;> rfl

theorem entered_plus (k : Column) (a b : TierCounts) : k.entered (a.plus b) = k.entered a + k.entered b := by
  cases k <;> rfl

theorem pending_empty (k : Column) : k.pending {} = 0 := by cases k <;> rfl

end Column

namespace Law

variable {σ : Type} {b : Bool}

/-- What is counted is entered by the call that has done it. -/
def column (k : Column) : Law where
  worth p := k.counted p.counted - k.entered p.books.l1
  stake t := k.pending t.phase.pending

theorem column_exact (k : Column) : (column k).Exact σ b where
  worth_plus p q := by
    simp only [column, Slip.plus, Ledger.plus, k.counted_plus, k.entered_plus]
    omega
  exact _ h := by
    dsimp only [column]
    cases h with
    | dropped _ _ hi | swept _ _ hi =>
      simp only [Phase.pending_of_idle hi]
      cases k <;> simp [Column.counted, Column.entered, Column.pending, Phase.pending]
    | aside _ hb hi =>
      simp only [Phase.pending_of_idle hi, Phase.pending_of_idle_or hb]
      cases k <;> rfl
    | _ => cases k <;> simp [Column.counted, Column.entered, Column.pending, Phase.pending]
  waiting h := by simp only [column, h, Phase.pending, k.pending_empty, Nat.cast_zero]
  cancelled h := by simp only [column, h, Phase.pending, k.pending_empty, Nat.cast_zero]
  expired _ := by cases k <;> rfl

/-- A miss that is entered was counted. -/
def looked : Law where
  worth p := p.counted.misses - p.books.l1.misses

theorem looked_valid : looked.Valid σ b where
  worth_plus p q := by simp only [looked, Slip.plus, Ledger.plus, TierCounts.plus, LruCounts.plus]; omega
  posting _ h := by
    dsimp only [looked]
    cases h <;> simp
  waiting _ := rfl
  cancelled _ := rfl
  expired _ := rfl

/-- Without a line to stand in there are no second looks. -/
theorem looked_exact : looked.Exact σ false where
  toValid := looked_valid
  exact hco h := by
    dsimp only [looked]
    cases h with
    | remissLocal hc => rw [hc] at hco; cases hco
    | _ => simp

end Law

/-! ## The theorem -/

/-- The counts among the figures of a local tier. -/
def LocalStats.counts (l : LocalStats) : LruCounts := ⟨l.hits, l.misses, l.sets, l.deletes, l.evictions, l.expirations⟩

/-- No tally is more than what the tier itself has counted. -/
structure TierCounts.Within (b : TierCounts) (l : LruCounts) : Prop where
  column : ∀ k : Column, k.entered b ≤ k.counted l
  misses : b.misses ≤ l.misses

/-- What the tier itself has counted fits in 64 bits. -/
structure LruCounts.Unwrapped (l : LruCounts) : Prop where
  column : ∀ k : Column, k.counted l ≤ maxNat64
  misses : l.misses ≤ maxNat64

/-- What is shown does not hide that. -/
theorem TierCounts.Within.shown {b : TierCounts} {c : Lru Json} (h : b.Within c.counts) (hu : c.counts.Unwrapped) :
    b.shown.Within c.stats.counts := by
  have hle : ∀ {x y : Nat}, x ≤ y → y ≤ maxNat64 → TwoTier.shown x ≤ TwoTier.shown y := fun hxy hy => by
    rw [shown_of_le hy, shown_of_le (hxy.trans hy)]
    exact hxy
  refine ⟨fun k => ?_, hle h.misses hu.misses⟩
  have hk := hle (h.column k) (hu.column k)
  cases k <;> exact hk

/-- The figures of a local tier agree with the tallies of the books, where messages have removed so many keys and calls
have stood in line or have not. -/
structure LocalStats.Agrees (l : LocalStats) (b : TierCounts) (removed : Nat) (coalesce : Bool) : Prop where
  hits : l.hits = b.hits
  sets : l.sets = b.sets
  evictions : l.evictions = b.evictions
  deletes : l.deletes = shown (b.deletes + removed)
  misses : coalesce = false → l.misses = b.misses

/-- All that an instance has counted whose local tier and books are new. -/
theorem Node.total_of_new (n : Node) (hb : n.books = {}) (hl : n.lru.counts = {}) :
    n.total = { failures := n.remote.errors } := by
  unfold total
  rw [hb, hl]

/-- Both sets of books of a new instance are empty. -/
theorem Law.column_of_new (k : Column) (f : Nat) : (column k).worth { failures := f } = 0 := by
  cases k <;> rfl

/-- Of what messages remove, only the removals count. -/
theorem Law.column_removed (k : Column) (d : Nat) : (column k).removed d = k.counted { deletes := d } := by
  cases k <;> exact sub_zero _

namespace Cluster

variable {σ : Type} [Backend σ] {c : Cluster σ} {i : Nat} {n n₀ : Node}

section

variable (hj : c.jobs = []) (hn₀ : c.nodes[i]? = some n₀) (hb : n₀.books = {}) (hl : n₀.lru.counts = {})
  (moves : List Move) (hn : (c.run moves).nodes[i]? = some n)

include hj hn₀ hb hl hn

/-- At every instant, whoever was dropped. -/
theorem within_counts : n.books.l1.Within n.lru.counts where
  column k := by
    have hstake := load_nonneg (μ := fun t => k.pending t.phase.pending) (fun _ => Int.natCast_nonneg _) (c.run moves) i
    have h : (c.run moves).load i (fun t => k.pending t.phase.pending) +
        (Law.column k).removed (c.along (removals · i) moves) ≤ (k.counted n.lru.counts : ℤ) - k.entered n.books.l1 :=
      (Law.column_exact k).covers hj hn₀ rfl (by rw [n₀.total_of_new hb hl, Law.column_of_new])
        (fun _ => Int.natCast_nonneg _) moves hn
    rw [Law.column_removed] at h
    omega
  misses := by
    have h : (0 : ℤ) ≤ n.lru.counts.misses - n.books.l1.misses :=
      Law.looked_valid.covers_of_no_stake hj hn₀ rfl (by rw [n₀.total_of_new hb hl]; rfl) rfl moves hn
    omega

/-- At rest, if nobody was dropped. -/
theorem agree_at_rest (hrest : (c.run moves).AtRest i) (hk : (c.run moves).Kept i) :
    n.lru.stats.Agrees n.books.snapshot.l1 (c.along (removals · i) moves) n.coalesce := by
  have hcolumn : ∀ k : Column,
      k.counted n.lru.counts = k.entered n.books.l1 + k.counted { deletes := c.along (removals · i) moves } := by
    intro k
    have hload : (c.run moves).load i (fun t => k.pending t.phase.pending) = 0 :=
      load_eq_zero fun t ht => by rw [Phase.pending_of_rest (hrest t ht), k.pending_empty]; rfl
    have h : (k.counted n.lru.counts : ℤ) - k.entered n.books.l1 = (c.run moves).load i (fun t => k.pending t.phase.pending) +
        (Law.column k).removed (c.along (removals · i) moves) :=
      (Law.column_exact k).balances hj hn₀ rfl (by rw [n₀.total_of_new hb hl, Law.column_of_new]) moves hn hk
    rw [Law.column_removed] at h
    omega
  constructor
  · exact congrArg shown (hcolumn .hits)
  · exact congrArg shown (hcolumn .sets)
  · exact congrArg shown (hcolumn .evictions)
  · exact (congrArg shown (hcolumn .deletes)).trans (shown_add ..).symm
  · intro hco
    have hframe := frame_of_frames (run_frames (sound_of_no_jobs hj) moves) hn₀ hn
    have hoff := (Node.coalesce_of_frame hframe).symm.trans hco
    have h : (n.lru.counts.misses : ℤ) - n.books.l1.misses = 0 :=
      Law.looked_exact.balances_of_no_stake hj hn₀ hoff (by rw [n₀.total_of_new hb hl]; rfl) rfl moves hn
    exact congrArg shown (by omega : n.lru.counts.misses = n.books.l1.misses)

end

/-- Two sets of books. Calls to an instance that has counted nothing yet, and to any others around the same store, may be
interleaved, fail and be dropped in any way, while local tiers are purged and messages arrive. The books never tell
more of the local tier than it has counted itself; and at rest, if no call was dropped, both tell the same, but for
the keys that messages have removed and for the misses of second looks. -/
theorem local_books (c : Cluster σ) (hj : c.jobs = []) (hn₀ : c.nodes[i]? = some n₀) (hb : n₀.books = {})
    (hl : n₀.lru.counts = {}) (moves : List Move) (hn : (c.run moves).nodes[i]? = some n) :
    n.books.l1.Within n.lru.counts ∧
      (n.lru.counts.Unwrapped → n.books.snapshot.l1.Within n.lru.stats.counts) ∧
      ((c.run moves).AtRest i → (c.run moves).Kept i →
        n.lru.stats.Agrees n.books.snapshot.l1 (c.along (removals · i) moves) n.coalesce) := by
  have hw := within_counts hj hn₀ hb hl moves hn
  exact ⟨hw, hw.shown, agree_at_rest hj hn₀ hb hl moves hn⟩

/-- A key is read and then evicted by another one, which a message removes while its writing is under way. -/
theorem local_books_of_one : ∃ a, Node.make "a" { maxSize := 1 } = .ok a ∧
    let c : Cluster Store := { store := { inner := {} }, nodes := [a] }
    let moves : List Move := [.call 0 0 none (.set "k" (.int 7) none), .resume 0, .resume 0, .call 0 0 none (.get "k"),
      .resume 1, .call 0 0 none (.set "l" (.int 8) none), .resume 2,
      .deliver 0 (Message.encode ⟨"b", .key (a.fullKey "l")⟩), .resume 2, .purge 0, .call 0 0 none (.delete "k"), .resume 3,
      .resume 3]
    ∃ n, (c.run moves).nodes[0]? = some n ∧ (c.run moves).AtRest 0 ∧ (c.run moves).Kept 0 ∧
      c.along (removals · 0) moves = 1 ∧ n.books.l1.Within n.lru.counts ∧
      (n.lru.counts.Unwrapped → n.books.snapshot.l1.Within n.lru.stats.counts) ∧
      ((c.run moves).AtRest 0 → (c.run moves).Kept 0 →
        n.lru.stats.Agrees n.books.snapshot.l1 (c.along (removals · 0) moves) n.coalesce) :=
  ⟨_, rfl, _, rfl, by decide, by decide, by decide, local_books _ rfl rfl rfl rfl _ rfl⟩

end Cluster

end TwoTier
