/-
Removals. A deletion of a key or of the keys that match a pattern drops them from the local tier when
it begins, from the shared tier when its trip ends, and then tells the other instances. On a calm store
all of this happens at one instant, and each `Stage` says what both tiers hold by then.
-/
import TwoTier.Proofs.Call.Progress
import TwoTier.Proofs.Store.Calm

namespace TwoTier

/-! ## What a removal is about -/

/-- What a call removes, in the words in which the other instances are told. -/
def Call.removal? (n : Node) : Call → Option Invalidation
  | .delete key => some (.key (n.fullKey key))
  | .deletePattern pattern => some (.pattern (n.remote.scopedPattern pattern))
  | _ => none

theorem Call.removal?_of_frame {n n' : Node} (h : n'.frame = n.frame) : Call.removal? n' = Call.removal? n := by
  funext call
  unfold removal?
  rw [Node.fullKey_of_frame h, Node.scopedPattern_of_frame h]

namespace Invalidation

/-- Whether a key as it is in both tiers is among those to remove. -/
def Names (b : Invalidation) (k : String) : Prop :=
  match b with
  | .key name => k = name
  | .pattern glob => ∃ p, Glob.compile glob = some p ∧ p.isMatch k = true

instance (b : Invalidation) (k : String) : Decidable (b.Names k) :=
  match b with
  | .key name => inferInstanceAs (Decidable (k = name))
  | .pattern glob =>
    match h : Glob.compile glob with
    | none => .isFalse fun ⟨p, hp, _⟩ => by rw [h] at hp; cases hp
    | some p => decidable_of_iff (p.isMatch k = true)
        ⟨fun hk => ⟨p, h, hk⟩, fun ⟨q, hq, hk⟩ => by rw [h] at hq; cases hq; exact hk⟩

/-- What is left of a local tier. -/
def inLocal (b : Invalidation) (l : Lru Json) : Lru Json :=
  match b with
  | .key name => (l.delete name).2
  | .pattern _ => l.clear

/-- What is left of a store. -/
def inShared (b : Invalidation) (now : Nat) (s : Store) : Store :=
  match b with
  | .key name => s.remove name
  | .pattern glob => ((Glob.compile glob).map fun p => (s.sweep now p).2).getD s

/-- What the caller is told: whether the key was in either tier, or how many keys the store has lost. -/
def reply (b : Invalidation) (now : Nat) (l : Lru Json) (s : Store) : Reply :=
  match b with
  | .key name => .removed ((l.delete name).1 || s.contains now name)
  | .pattern glob => .swept (((Glob.compile glob).map fun p => (s.sweep now p).1).getD 0)

variable {b : Invalidation} {k : String} {l : Lru Json} {s : Store} {now : Nat}

theorem find?_inLocal (h : b.Names k) : (b.inLocal l).find? k = none := by
  cases b with
  | key name => exact (Lru.find?_delete l name k).trans (if_pos h)
  | pattern p => rfl

/-- A local tier loses entries and gets none. -/
theorem find?_of_inLocal {e : Entry Json} (h : (b.inLocal l).find? k = some e) : l.find? k = some e := by
  cases b with
  | key name =>
    change (l.delete name).2.find? k = some e at h
    rw [Lru.find?_delete] at h
    split at h
    · cases h
    · exact h
  | pattern p => cases h

theorem find?_inShared (h : b.Names k) : (b.inShared now s).find? k = none := by
  cases b with
  | key name => exact Store.find?_remove.trans (if_pos h)
  | pattern p =>
    obtain ⟨q, hq, hk⟩ := h
    unfold inShared
    dsimp only
    rw [hq]
    show (s.keep fun key => !q.isMatch key).find? k = none
    rw [Store.find?_keep, hk]
    rfl

/-- All other keys stay as they are. -/
theorem find?_inShared_of_not (h : ¬ b.Names k) : (b.inShared now s).find? k = s.find? k := by
  cases b with
  | key name => exact Store.find?_remove.trans (if_neg h)
  | pattern p =>
    unfold inShared
    dsimp only
    cases hq : Glob.compile p with
    | none => rfl
    | some q =>
      show (s.keep fun key => !q.isMatch key).find? k = _
      have hk : q.isMatch k = false := Bool.eq_false_iff.2 fun hk => h ⟨q, hq, hk⟩
      rw [Store.find?_keep, hk]
      rfl

/-- What the store makes of a deletion of many keys. -/
theorem answer_deletePattern (s : Store) (now : Nat) (glob : String) :
    (s.answer now (.deletePattern glob)).2 = (Invalidation.pattern glob).inShared now s := by
  unfold Store.answer inShared
  dsimp only
  cases Glob.compile glob <;> rfl

/-- Nothing is published by the way. -/
theorem published_inShared : (b.inShared now s).published = s.published := by
  unfold inShared
  cases b with
  | key name => rfl
  | pattern glob =>
    dsimp only
    cases Glob.compile glob <;> rfl

end Invalidation

/-! ## Stages on a calm store -/

/-- A removal that is about to begin: the instance, what the store holds, the time, and what it is
about. -/
structure Removal where
  node : Node
  store : Store
  now : Nat
  body : Invalidation

namespace Removal

variable (r : Removal)

def inLocal : Lru Json := r.body.inLocal r.node.lru

def inShared : Store := r.body.inShared r.now r.store

def reply : Reply := r.body.reply r.now r.node.lru r.store

def payload : String := Message.encode ⟨r.node.id, r.body⟩

/-- The store once the others have been told, if there is a channel. -/
def announced : Store :=
  { r.inShared with published := r.inShared.published ++ (r.node.channel.map (·, r.payload)).toList }

/-- What a removal has come to: its phase and what both tiers hold. -/
inductive Stage : Phase → Lru Json → Store → Prop where
  | waiting {start : Nat} (hstart : start ≤ r.now) : Stage (.waiting start) r.node.lru r.store
  | deleting {key : String} (hb : r.body = .key key) :
    Stage (.deleting key (r.node.lru.delete key).1 ⟨.delete key, r.now, none⟩) r.inLocal r.store
  | sweeping {pattern : String} (hb : r.body = .pattern pattern) :
    Stage (.sweeping pattern ⟨.deletePattern pattern, r.now, none⟩) r.inLocal r.store
  | announcing {channel : String} (hc : r.node.channel = some channel) :
    Stage (.announcing r.reply ⟨.publish channel r.payload, r.now, none⟩) r.inLocal r.inShared
  | finished : Stage (.finished r.reply r.now) r.inLocal r.announced

variable {r} {s s' : Site Store} {t t' : Task} {ph : Phase} {l : Lru Json} {st : Store}

/-- None of them waits. -/
theorem Stage.due_le (h : r.Stage ph l st) {due : Nat} (hd : ph.due? = some due) : due ≤ r.now := by
  cases h with
  | waiting hstart => cases hd; exact hstart
  | finished => cases hd
  | _ => cases hd; exact Nat.le_refl _

/-- Until it is over it can go on. -/
theorem Stage.ready (h : r.Stage t.phase l st) (hover : t.phase.isOver = false) (n : Node) :
    t.isReady r.now n = true := by
  obtain ⟨due, hd⟩ : ∃ due, t.phase.due? = some due := by
    generalize t.phase = ph at h hover
    cases h with
    | finished => cases hover
    | _ => exact ⟨_, rfl⟩
  exact Task.isReady_of_due hd (h.due_le hd)

/-- The site of a removal that is under way on a calm store. -/
structure At (r : Removal) (s : Site Store) : Prop where
  now : s.now = r.now
  frame : s.node.frame = r.node.frame
  connected : s.node.remote.connected = true
  calm : s.store.Calm

namespace At

theorem alike (h : r.At s) (hs : s.Alike s') : r.At s' :=
  ⟨hs.now.trans h.now, (Node.frame_of_uncounted hs.node).trans h.frame, hs.connected.trans h.connected,
    by rw [hs.store]; exact h.calm⟩

theorem call {α : Type} (h : r.At s) (q : Request α) : s.call q = (⟨q, r.now, none⟩, s) := by
  rw [Site.call_calm h.calm h.connected, h.now]

/-- The store answers at once. -/
theorem finish {α : Type} (h : r.At s) {q : Request α} (hq : q.isAnswered = true) :
    s.finish ⟨q, r.now, none⟩ = ((s.store.inner.answer r.now q).1, s.holding (s.store.inner.answer r.now q).2) := by
  rw [Site.finish_answer h.calm.available hq, h.now]

/-- The store has answered and holds what it holds now. -/
theorem holding (h : r.At s) {inner : Store} (ha : inner.available = s.store.inner.available) :
    r.At (s.holding inner) :=
  ⟨h.now, h.frame, h.connected, ⟨h.calm.faults, ha.trans h.calm.available⟩⟩

end At

/-- The others are told if there is a channel, and the store has all to come. -/
theorem Stage.announce (h : r.At s) (hl : s.node.lru = r.inLocal) (hst : s.store.inner = r.inShared)
    (hstep : t.announce r.body r.reply s = (t', s')) : r.At s' ∧ r.Stage t'.phase s'.node.lru s'.store.inner := by
  have hid : s.node.id = r.node.id := Node.same_of_frame h.frame Node.id fun _ => rfl
  have hch : s.node.channel = r.node.channel := Node.same_of_frame h.frame Node.channel fun _ => rfl
  unfold Task.announce at hstep
  rw [hch, hid] at hstep
  -- without a channel nobody is told, and the call ends here
  cases hc : r.node.channel with
  | none =>
    simp only [hc] at hstep
    cases hstep
    refine ⟨h, ?_⟩
    have hdone : r.announced = r.inShared := by unfold announced; rw [hc]; simp
    rw [hl, hst, ← hdone]
    show r.Stage (.finished r.reply s.now) _ _
    rw [h.now]
    exact .finished
  | some channel =>
    simp only [hc, h.call] at hstep
    cases hstep
    refine ⟨h, ?_⟩
    rw [hl, hst]
    exact .announcing hc

/-- It begins with the local tier. -/
theorem Stage.start (hat : r.At s) (hl : s.node.lru = r.node.lru) (hst : s.store.inner = r.store)
    (hc : t.call.removal? r.node = some r.body) (hstep : t.start s = (t', s')) :
    r.At s' ∧ r.Stage t'.phase s'.node.lru s'.store.inner := by
  obtain ⟨call, ticket, ph, started, fetches, patience⟩ := t
  unfold Task.start at hstep
  cases call with
  | delete key =>
    obtain hb : Invalidation.key (r.node.fullKey key) = r.body := Option.some.inj hc
    have hlru : r.inLocal = (r.node.lru.delete (r.node.fullKey key)).2 := by unfold inLocal; rw [← hb]; rfl
    have hat' : r.At (s.withLru (r.node.lru.delete (r.node.fullKey key)).2) :=
      ⟨hat.now, (Site.Steady.withLru (by rw [Lru.bare_delete, hl])).frame.trans hat.frame, hat.connected, hat.calm⟩
    dsimp only at hstep
    rw [Node.fullKey_of_frame hat.frame, hl, hat'.call] at hstep
    cases hstep
    refine ⟨hat', ?_⟩
    show r.Stage _ (r.node.lru.delete (r.node.fullKey key)).2 s.store.inner
    rw [← hlru, hst]
    exact .deleting hb.symm
  | deletePattern pattern =>
    obtain hb : Invalidation.pattern (r.node.remote.scopedPattern pattern) = r.body := Option.some.inj hc
    have hlru : r.inLocal = r.node.lru.clear := by unfold inLocal; rw [← hb]; rfl
    have hat' : r.At (s.withLru r.node.lru.clear) :=
      ⟨hat.now, (Site.Steady.withLru (by rw [Lru.bare_clear, hl])).frame.trans hat.frame, hat.connected, hat.calm⟩
    dsimp only at hstep
    rw [Node.scopedPattern_of_frame hat.frame, hl, hat'.call] at hstep
    cases hstep
    refine ⟨hat', ?_⟩
    show r.Stage _ r.node.lru.clear s.store.inner
    rw [← hlru, hst]
    exact .sweeping hb.symm
  | _ => cases hc

/-- The store has lost the key and tells whether it held it. -/
theorem Stage.endDelete {key : String} (hat : r.At s) (hb : r.body = .key key) (hl : s.node.lru = r.inLocal)
    (hst : s.store.inner = r.store.remove key)
    (hstep : t.endDelete key (r.node.lru.delete key).1 (.ok (r.store.contains r.now key)) s = (t', s')) :
    r.At s' ∧ r.Stage t'.phase s'.node.lru s'.store.inner := by
  have hshared : r.inShared = r.store.remove key := by unfold inShared; rw [hb]; rfl
  have hreply : r.reply = .removed ((r.node.lru.delete key).1 || r.store.contains r.now key) := by
    unfold reply; rw [hb]; rfl
  obtain ⟨s₁, ha, hann⟩ := endDelete_spec hstep
  refine Stage.announce (hat.alike ha) (ha.lru.trans hl) ?_ (by rw [hb, hreply]; exact hann)
  rw [ha.store, hst, hshared]

/-- The store has lost the keys that match and tells how many. -/
theorem Stage.endSweep {pattern : String} (hat : r.At s) (hb : r.body = .pattern pattern) (hl : s.node.lru = r.inLocal)
    (hst : s.store.inner = r.inShared)
    (hstep : t.endSweep pattern (r.store.answer r.now (.deletePattern pattern)).1 s = (t', s')) :
    r.At s' ∧ r.Stage t'.phase s'.node.lru s'.store.inner := by
  have hreply : r.reply = .swept ((r.store.answer r.now (.deletePattern pattern)).1.toOption.getD 0) := by
    unfold reply Invalidation.reply Store.answer
    rw [hb]
    dsimp only
    cases Glob.compile pattern <;> rfl
  obtain ⟨s₁, ha, hann⟩ := endSweep_spec hstep
  refine Stage.announce (hat.alike ha) (ha.lru.trans hl) ?_ (by rw [hb, hreply]; exact hann)
  rw [ha.store, hst]

/-- A removal goes from stage to stage. -/
theorem Stage.step (h : r.Stage t.phase s.node.lru s.store.inner) (hat : r.At s)
    (hc : t.call.removal? r.node = some r.body) (hover : t.phase.isOver = false) (hstep : t.step s = (t', s')) :
    r.At s' ∧ r.Stage t'.phase s'.node.lru s'.store.inner := by
  obtain ⟨call, ticket, ph, started, fetches, patience⟩ := t
  -- the stage speaks of the tiers as they are, so they get names before the cases on it
  generalize hl : s.node.lru = l at h
  generalize hst : s.store.inner = st at h
  unfold Task.step at hstep
  cases h with
  | waiting hstart => exact Stage.start hat hl hst hc hstep
  | deleting hb =>
    rename_i key
    have hat₁ : r.At (s.holding (r.store.remove key)) := hat.holding (by rw [hst]; rfl)
    dsimp only at hstep
    rw [hat.finish rfl, hst] at hstep
    exact Stage.endDelete hat₁ hb hl rfl hstep
  | sweeping hb =>
    rename_i pattern
    have hshared : (r.store.answer r.now (.deletePattern pattern)).2 = r.inShared := by
      unfold inShared
      rw [hb, Invalidation.answer_deletePattern]
    have hat₁ : r.At (s.holding r.inShared) := hat.holding (by rw [hst, ← hshared, Store.available_answer])
    dsimp only at hstep
    rw [hat.finish rfl, hst, hshared] at hstep
    exact Stage.endSweep hat₁ hb hl rfl hstep
  | announcing hch =>
    rename_i channel
    have hdone : (r.inShared.answer r.now (.publish channel r.payload)).2 = r.announced := by
      unfold announced
      rw [hch]
      rfl
    dsimp only at hstep
    rw [hat.finish rfl, hst, hdone] at hstep
    cases hstep
    refine ⟨hat.holding (by rw [hst]; rfl), ?_⟩
    show r.Stage (.finished r.reply s.now) s.node.lru r.announced
    rw [hat.now, hl]
    exact .finished
  | finished => cases hover

end Removal

end TwoTier
