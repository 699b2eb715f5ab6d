/-
The window of an invalidation. A removal drops what it names from the local tier when it begins, and from
the store when its trip ends. A look-up of the same instance that the store answers in between copies the
value back, and this is the only way in which a key can outlive its removal: one that is not overtaken
leaves it in neither tier.
-/
import TwoTier.Proofs.Cluster.Absence

namespace TwoTier

/-! ## The segments of a removal -/

/-- A removal on its way to the store, which will get there. -/
inductive Phase.Removing : Phase → Prop where
  | deleting {key : String} {resident : Bool} {trip : Trip Bool} (h : trip.failure = none) :
    Removing (.deleting key resident trip)
  | sweeping {pattern : String} {trip : Trip Nat} (h : trip.failure = none) : Removing (.sweeping pattern trip)

namespace Task

variable {s s' : Site Store} {t t' : Task} {body : Invalidation} {k : String}

/-- A removal begins with the local tier. -/
theorem removal_begins (h : t.step s = (t', s')) (hc : t.call.removal? s.node = some body) (hk : body.Names k)
    (hmild : s.store.Mild s.node.remote.timeout) (hconn : s.node.remote.connected = true) {start : Nat}
    (hp : t.phase = .waiting start) : t'.phase.Removing ∧ s'.node.lru.find? k = none := by
  -- on a mild store no trip fails
  have hreach : ∀ (l : Lru Json) {α : Type} {r : Request α} {trip : Trip α} {s' : Site Store},
      (s.withLru l).call r = (trip, s') → trip.failure = none := fun l {_ _ _ _} ht =>
    Site.failure_of_mild (s := s.withLru l) hmild hconn ht
  obtain ⟨call, ticket, ph, started, fetches, patience⟩ := t
  cases hp
  change Task.start _ s = (t', s') at h
  unfold Task.start at h
  cases call with
  | delete key =>
    obtain rfl := Option.some.inj hc
    rcases ht : (s.withLru (s.node.lru.delete (s.node.fullKey key)).2).call (.delete (s.node.fullKey key)) with
      ⟨trip, s₁⟩
    simp only [ht] at h
    cases h
    refine ⟨.deleting (hreach _ ht), ?_⟩
    rw [(Site.call_spec ht).2.2.node]
    exact (Lru.find?_delete ..).trans (if_pos hk)
  | deletePattern pattern =>
    rcases ht : (s.withLru s.node.lru.clear).call (.deletePattern (s.node.remote.scopedPattern pattern)) with ⟨trip, s₁⟩
    simp only [ht] at h
    cases h
    refine ⟨.sweeping (hreach _ ht), ?_⟩
    rw [(Site.call_spec ht).2.2.node]
    rfl
  | _ => cases hc

/-- What follows a removal from the store. -/
theorem removal_announced {a : Site Store} {reply : Reply} (h : t.announce body reply s = (t', s'))
    (hc : (∃ key, t.call = .delete key) ∨ ∃ pattern, t.call = .deletePattern pattern) (hs : a.Alike s)
    (hgone : a.store.inner.find? k = none) : t'.phase.isIdle = true ∧ s'.store.inner.find? k = none := by
  obtain ⟨hq, ph, rfl, hi, -, -⟩ := announce_spec (n := s.node) hc h
  refine ⟨hi, Option.eq_none_iff_forall_ne_some.2 fun e he => ?_⟩
  cases hgone.symm.trans ((((Site.Sheds.refl a).alike hs).quiet hq).store he)

/-- It ends with the store. -/
theorem removal_ends (h : t.step s = (t', s')) (hf : t.phase.Fits s.node t.call)
    (hc : t.call.removal? s.node = some body) (hk : body.Names k) (ha : s.store.inner.available = true) (hp : t.phase.Removing) :
    t'.phase.isIdle = true ∧ s'.store.inner.find? k = none := by
  obtain ⟨call, ticket, ph, started, fetches, patience⟩ := t
  cases hp with
  | deleting hfail =>
    rename_i key resident trip
    cases hf with
    | deleting hr =>
      rename_i short
      cases hc
      change Task.endDelete _ _ _ (s.finish trip).1 (s.finish trip).2 = _ at h
      rcases hfin : s.finish trip with ⟨reply, s₁⟩
      rw [hfin] at h
      have hans := Site.finish_of_touches hfail (by rw [hr]; rfl) ha hfin
      rw [hr] at hans
      obtain ⟨s₂, halike, hann⟩ := endDelete_spec h
      refine removal_announced hann (Or.inl ⟨_, rfl⟩) halike ?_
      rw [← show _ = s₁.store.inner from congrArg Prod.snd hans]
      exact Store.find?_remove.trans (if_pos hk)
  | sweeping hfail =>
    rename_i pattern trip
    cases hf with
    | sweeping hr =>
      rename_i glob
      cases hc
      change Task.endSweep _ _ (s.finish trip).1 (s.finish trip).2 = _ at h
      rcases hfin : s.finish trip with ⟨reply, s₁⟩
      rw [hfin] at h
      have hans := Site.finish_of_touches hfail (by rw [hr]; rfl) ha hfin
      rw [hr] at hans
      obtain ⟨s₂, halike, hann⟩ := endSweep_spec h
      refine removal_announced hann (Or.inr ⟨_, rfl⟩) halike ?_
      rw [← show _ = s₁.store.inner from congrArg Prod.snd hans, Invalidation.answer_deletePattern]
      exact Invalidation.find?_inShared hk

/-- Once the store has lost what it names, a removal has nothing more to do with keys. -/
theorem removal_over (h : t.step s = (t', s')) (hf : t.phase.Fits s.node t.call)
    (hc : t.call.removal? s.node = some body) (hp : t.phase.isIdle = true) : t'.phase.isIdle = true := by
  obtain ⟨call, ticket, ph, started, fetches, patience⟩ := t
  cases hf with
  | announcing hcall hr => cases h; rfl
  | finished => cases h; rfl
  | inspecting | probing | dialing | resting | hangingUp => cases hc
  | _ => cases hp

end Task

namespace Cluster

variable {b c c' : Cluster Store} {n : Node} {i d g : Nat} {k : String} {e : Entry Json} {body : Invalidation}
  {before moves : List Move} {m : Move}

/-! ## Look-ups that overtake a removal -/

/-- A look-up overtakes a removal of its instance: the store answers it with a value for the key while
the removal is on its way there, and the value is copied. -/
structure Overtakes (c : Cluster Store) (i d g : Nat) (k : String) (e : Entry Json) : Prop where
  removing : ∃ t, c.jobs[d]? = some ⟨i, t⟩ ∧ t.phase.Removing
  copies : ∃ t n, c.jobs[g]? = some ⟨i, t⟩ ∧ c.nodes[i]? = some n ∧ t.Copies (c.siteOf n) k e

/-- In a run a look-up overtakes a removal, and leaves an entry behind. -/
def Overtaken (c : Cluster Store) (moves : List Move) (i d : Nat) (k : String) (e : Entry Json) : Prop :=
  ∃ before g after, moves = before ++ .resume g :: after ∧ (c.run before).Overtakes i d g k e

/-- What the local tier holds for a key is left behind by a look-up that has overtaken the removal. -/
def Leftovers (b : Cluster Store) (moves : List Move) (i d : Nat) (k : String) (c : Cluster Store) : Prop :=
  ∀ n e, c.nodes[i]? = some n → n.lru.find? k = some e → b.Overtaken moves i d k e

theorem Overtaken.append (h : b.Overtaken before i d k e) (m : Move) : b.Overtaken (before ++ [m]) i d k e := by
  obtain ⟨before, g, after, rfl, h⟩ := h
  exact ⟨before, g, after ++ [m], by rw [List.append_assoc, List.cons_append], h⟩

/-- While the removal is on its way, and after that, nothing else is left behind. -/
theorem Leftovers.step (h : b.Leftovers before i d k (b.run before))
    (hspared : (b.run before).Engaged ((b.run before).Spares (· = k)))
    (hs : (b.run before).Sound) (hstep : Step (b.run before) m c')
    (hgone : (∃ t, (b.run before).jobs[d]? = some ⟨i, t⟩ ∧ t.phase.Removing) ∨
      (b.run before).store.inner.find? k = none) :
    b.Leftovers (before ++ [m]) i d k c' := by
  intro n' e hn' he
  rcases hspared.lru_step hs hstep rfl hn' he with ⟨n, hn, he⟩ | ⟨g, t, n, rfl, hj, hn, hcopy⟩
  · exact (h n e hn he).append m
  · rcases hgone with hremoving | hgone
    · exact ⟨before, g, [], rfl, hremoving, t, n, hj, hn, hcopy⟩
    · exact absurd hgone hcopy.find?_ne_none

/-! ## The window -/

/-- How far a removal has come, and what is left in the tiers. -/
inductive Window (b : Cluster Store) (moves : List Move) (i d : Nat) (k : String) (c : Cluster Store)
    (ph : Phase) : Prop where
  | waiting {start : Nat} (hp : ph = .waiting start)
  | removing (hp : ph.Removing) (hl : b.Leftovers moves i d k c)
  | removed (hp : ph.isIdle = true) (hst : c.store.inner.find? k = none) (hl : b.Leftovers moves i d k c)
  | cancelled {ended : Nat} (hp : ph = .cancelled ended)

/-- What holds while an instance has a removal under way, on a store that delays its calls at most. -/
structure Watched (b : Cluster Store) (n : Node) (i d : Nat) (body : Invalidation) (k : String) (moves : List Move)
    (c : Cluster Store) : Prop where
  frames : c.nodes.map Node.frame = b.nodes.map Node.frame
  spared : c.Engaged (b.Spares (· = k))
  stays : c.Engaged (Stays i)
  connected : ∀ n, c.nodes[i]? = some n → n.remote.connected = true
  mild : c.store.Mild n.remote.timeout
  window : ∀ t, c.jobs[d]? = some ⟨i, t⟩ → t.call.removal? n = some body → b.Window moves i d k c t.phase

theorem Watched.step (h : b.Watched n i d body k before (b.run before)) (hn : b.nodes[i]? = some n) (hk : body.Names k)
    (hs : (b.run before).Sound) (hcalls : m.Calls (b.Spares (· = k))) (hstays : m.Calls (Stays i))
    (hscript : ∀ method f, m = .script method f → f.Mild n.remote.timeout) :
    b.Watched n i d body k (before ++ [m]) ((b.run before).move m) := by
  have hstep := step_move hs m
  have hspared : (b.run before).Engaged ((b.run before).Spares (· = k)) :=
    fun _ _ _ hj ho => (h.spared hj ho).of_frames h.frames
  refine ⟨hstep.frames.trans h.frames, h.spared.step hcalls hstep, h.stays.step hstays hstep,
    fun _ hn' => h.stays.connected hstep h.connected hn', move_mild h.mild hscript, fun t' hj' hc => ?_⟩
  -- nobody writes the key, so the store does not get it back
  have hgone : (b.run before).store.inner.find? k = none → ((b.run before).move m).store.inner.find? k = none :=
    fun hst => Option.eq_none_iff_forall_ne_some.2 fun e he => by cases hst.symm.trans (hspared.store_step hs hstep rfl he)
  rcases hstep.jobs hj' with ⟨t, hj, hcase⟩ | ⟨_, _, _, -, -, -, rfl⟩
  · have hcall : t'.call = t.call := by
      rcases hcase with rfl | ⟨_, _, -, -, hseg⟩ | ⟨-, rfl⟩
      · rfl
      · exact hseg.same.1
      · rfl
    rw [hcall] at hc
    have hwin := h.window t hj hc
    rcases hstep.resumed hj hj' with rfl | ⟨-, rfl⟩ | ⟨n₁, s', rfl, hn₁, hover, hts, hc'⟩
    · -- another call goes on
      cases hwin with
      | waiting hp => exact .waiting hp
      | removing hp hl => exact .removing hp (hl.step hspared hs hstep (Or.inl ⟨_, hj, hp⟩))
      | removed hp hst hl => exact .removed hp (hgone hst) (hl.step hspared hs hstep (Or.inr hst))
      | cancelled hp => exact .cancelled hp
    · exact .cancelled rfl
    · -- the removal goes on
      have hf := hs.fits_node hj hn₁
      have hframe := frame_of_frames h.frames hn hn₁
      have htimeout : n₁.remote.timeout = n.remote.timeout := Node.same_of_frame hframe (·.remote.timeout) fun _ => rfl
      have hmild := h.mild
      rw [← htimeout] at hmild
      rw [← Call.removal?_of_frame hframe] at hc
      cases hwin with
      | waiting hp =>
        obtain ⟨hp', hl⟩ := Task.removal_begins hts hc hk hmild (h.connected n₁ hn₁) hp
        refine .removing hp' fun n' e hn' he => ?_
        rw [hc', after_node hn₁] at hn'
        cases hn'
        cases hl.symm.trans he
      | removing hp hl =>
        obtain ⟨hp', hst⟩ := Task.removal_ends hts hf hc hk h.mild.available hp
        exact .removed hp' (by rw [hc']; exact hst) (hl.step hspared hs hstep (Or.inl ⟨t, hj, hp⟩))
      | removed hp hst hl =>
        exact .removed (Task.removal_over hts hf hc hp) (hgone hst) (hl.step hspared hs hstep (Or.inr hst))
      | cancelled hp => rw [hp] at hover; cases hover
  · exact .waiting rfl

/-- Once the removal has been answered, the store lacks what it names, and whatever is left of it in the
local tier is left behind by a look-up that has overtaken it. -/
theorem Watched.answered (h : b.Watched n i d body k moves c) {t : Task} (hj : c.jobs[d]? = some ⟨i, t⟩)
    (hc : t.call.removal? n = some body) {reply : Reply} {ended : Nat} (hp : t.phase = .finished reply ended) :
    c.store.inner.find? k = none ∧ b.Leftovers moves i d k c := by
  cases h.window t hj hc with
  | waiting hp' => rw [hp] at hp'; cases hp'
  | removing hp' => rw [hp] at hp'; cases hp'
  | removed _ hst hl => exact ⟨hst, hl⟩
  | cancelled hp' => rw [hp] at hp'; cases hp'

/-- A removal that is interleaved with any other calls, none of which writes the key, on a store that
delays its calls for no longer than the instance waits for them: once all have returned, the store does
not hold the key. The local tier holds it only if a look-up has overtaken the removal, and then only until
the copy expires; if none has, a look-up of the key gets nothing. -/
theorem invalidation_window (hjobs : b.jobs = []) (hd : b.Deserted) (hn : b.nodes[i]? = some n)
    (hconn : n.remote.connected = true) (hmild : b.store.Mild n.remote.timeout) (moves : List Move)
    (hcalls : ∀ m ∈ moves, m.Calls (b.Spares (· = k)) ∧ m.Calls (Stays i))
    (hscript : ∀ method f, .script method f ∈ moves → f.Mild n.remote.timeout) {t : Task} {reply : Reply} {ended : Nat}
    (hj : (b.run moves).jobs[d]? = some ⟨i, t⟩) (hcall : t.call.removal? n = some body) (hk : body.Names k)
    (hp : t.phase = .finished reply ended) :
    (b.run moves).store.inner.find? k = none ∧
      (∀ n' e, (b.run moves).nodes[i]? = some n' → n'.lru.find? k = some e →
        b.Overtaken moves i d k e ∧ e.deadline ≤ (b.run moves).now + n.defaultTtl) ∧
      ((∀ job ∈ (b.run moves).jobs, job.task.phase.isOver = true) → (∀ e, ¬ b.Overtaken moves i d k e) →
        ∀ key, n.fullKey key = k → ∃ t c' ended, (b.run moves).request i (.get key) none = (some t, c') ∧
          t.phase = .finished (.value none) ended) := by
  have hs := sound_of_no_jobs hjobs
  have hwatched : b.Watched n i d body k moves (b.run moves) := by
    refine run_trace (P := b.Watched n i d body k) hs moves ⟨rfl, ?_, ?_, ?_, hmild, ?_⟩ ?_
    · intro k i t hk
      rw [hjobs] at hk
      cases hk
    · intro k i t hk
      rw [hjobs] at hk
      cases hk
    · intro n' hn'
      rw [hn] at hn'
      cases hn'
      exact hconn
    · intro t hk
      rw [hjobs] at hk
      cases hk
    · rintro before m after rfl hs' h -
      obtain ⟨hspares, hstays⟩ := hcalls m (by simp)
      exact h.step hn hk hs' hspares hstays fun method f hm => hscript method f (by simp [hm])
  obtain ⟨hst, hleft⟩ := hwatched.answered hj hcall hp
  refine ⟨hst, fun n' e hn' he => ⟨hleft n' e hn' he, ?_⟩, fun hover hnone key hkey => ?_⟩
  · -- a copy was made before now
    obtain ⟨before, g, after, rfl, -, t₁, n₁, -, hn₁, hcopy⟩ := hleft n' e hn' he
    obtain ⟨n₂, hn₂, hframe⟩ := node_of_frames (run_frames hs before) hn
    rw [hn₁] at hn₂
    cases hn₂
    have hle := run_now_le (run_sound hs before) (.resume g :: after)
    rw [← run_append] at hle
    rw [hcopy.entry, ← Node.defaultTtl_of_frame hframe]
    show (b.run before).now + min n₁.defaultTtl maxTtl ≤ _
    omega
  · subst hkey
    obtain ⟨n', hn', hframe⟩ := node_of_frames hwatched.frames hn
    have hdeserted : (b.run moves).Deserted :=
      (Reaches.orderly ⟨moves, rfl⟩ hs (orderly_of_deserted hjobs hd)).deserted hover
    have hlacks : (b.run moves).Lacks i (n'.fullKey key) := by
      rw [Node.fullKey_of_frame hframe]
      refine ⟨hst, fun {n₁} hn₁ => Option.eq_none_iff_forall_ne_some.2 fun e he => ?_⟩
      exact hnone e (hleft n₁ e hn₁ he)
    exact hlacks.request hdeserted hn'

/-- A look-up that begins before the removal and ends after it leaves nothing behind. -/
theorem invalidation_window_of_late_answer : ∃ n, Node.make "a" {} = .ok n ∧
    let c : Cluster Store := {
      store := { inner := ({} : Store).insertRaw "cache:a" [1] }
      nodes := [{ n with remote.connected := true }] }
    let moves : List Move := [.script .get { delay := some (millis 10) }, .call 0 0 none (.get "a"), .resume 0,
      .call 0 0 none (.delete "a"), .resume 1, .resume 1, .wait (millis 10), .resume 0]
    (c.run moves).store.inner.find? "cache:a" = none ∧
      ∀ n' e, (c.run moves).nodes[0]? = some n' → n'.lru.find? "cache:a" = some e →
        c.Overtaken moves 0 1 "cache:a" e ∧ e.deadline ≤ (c.run moves).now + n.defaultTtl := by
  obtain ⟨n, hmake⟩ : ∃ n, Node.make "a" {} = .ok n := ⟨_, rfl⟩
  refine ⟨n, hmake, ?_⟩
  intro c moves
  have hd : c.Deserted := by
    intro m hm
    cases hmake
    cases List.mem_singleton.1 hm
    exact ⟨rfl, rfl⟩
  obtain ⟨⟨i, t⟩, hj, hremoval, hidle, hover, rfl⟩ : ∃ job, (c.run moves).jobs[1]? = some job ∧
      job.task.call.removal? n = some (.key "cache:a") ∧ job.task.phase.isIdle = true ∧
      job.task.phase.isOver = true ∧ job.node = 0 := by
    have hjob : ((c.run moves).jobs[1]?.any fun job => job.task.call.removal? n == some (.key "cache:a") &&
        (job.task.phase.isIdle && (job.task.phase.isOver && job.node == 0))) = true := by
      cases hmake
      decide +kernel
    simpa only [Option.any_eq_true, Bool.and_eq_true, beq_iff_eq] using hjob
  obtain ⟨reply, ended, hp⟩ : ∃ reply ended, t.phase = .finished reply ended := by
    rcases over_cases hover with hp | ⟨ended, hp⟩
    · exact hp
    · change t.phase.isIdle = true at hidle
      rw [hp] at hidle
      cases hidle
  obtain ⟨hst, hleft, -⟩ := invalidation_window (b := c) (i := 0) (d := 1) (k := "cache:a") rfl hd rfl rfl
    ⟨fun _ _ hf => (List.not_mem_nil hf).elim, rfl⟩ moves (by simp [moves, Move.Calls, Spares, Stays, Call.writes?])
    (by
      intro method f hmem
      simp only [moves, List.mem_cons, List.not_mem_nil, or_false, reduceCtorEq, or_self] at hmem
      cases hmem
      refine ⟨rfl, fun d hdelay => ?_⟩
      cases hdelay
      cases hmake
      decide) hj hremoval rfl hp
  exact ⟨hst, hleft⟩

/-- A look-up that the store answers while the deletion is late leaves its copy in the local tier when
both have returned, and the next look-up is served from there. -/
theorem invalidation_window_left_open : ∃ n, Node.make "a" {} = .ok n ∧
    let c : Cluster Store := {
      store := { inner := ({} : Store).insertRaw "cache:a" [1] }
      nodes := [{ n with remote.connected := true }] }
    let moves : List Move := [.script .delete { delay := some (millis 10) }, .call 0 0 none (.delete "a"),
      .call 0 (millis 5) none (.get "a"), .resume 0, .wait (millis 5), .resume 1, .resume 1, .wait (millis 10),
      .resume 0]
    ((c.run moves).jobs.map fun job => job.task.phase.isOver) = [true, true] ∧
      (c.run moves).store.inner.find? "cache:a" = none ∧
      ((c.run moves).nodes.map fun n => (n.lru.find? "cache:a").map Entry.deadline) = [some (millis 5 + seconds 3600)] ∧
      (((c.run moves).request 0 (.get "a") none).1.bind Task.served?).isSome = true := by
  refine ⟨_, rfl, ?_⟩
  intro c moves
  refine ⟨?_, ?_, ?_, ?_⟩
  all_goals decide +kernel

end Cluster

end TwoTier
