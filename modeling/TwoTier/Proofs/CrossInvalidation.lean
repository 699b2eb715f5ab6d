/-
Invalidation across instances. Once a removal has returned and its message has reached all other
instances, no tier holds what it names, whatever look-ups were made in the meantime; and as long as
nobody writes such a key, whoever looks one up gets nothing. The instance itself ignores its message.
-/
import TwoTier.Proofs.Cluster.Absence
import TwoTier.Proofs.Invalidation

namespace TwoTier

namespace Cluster

variable {σ : Type} [Backend σ] {c c' : Cluster Store} {i : Nat} {n : Node} {call : Call} {body : Invalidation}

/-! ## Around a removal -/

omit [Backend σ] in
theorem spares_of_removal {c : Cluster σ} (hcall : call.removal? n = some body) {K : String → Prop} :
    c.Spares K i call := by
  intro n' w _ hw
  cases call with
  | delete | deletePattern => cases hw
  | _ => cases hcall

/-- Turns make no calls. -/
theorem Engaged.turns {c c' : Cluster σ} {P : Nat → Call → Prop} (h : c.Engaged P) (hs : c.Sound) (hT : Turns c c') :
    c'.Engaged P := by
  induction hT with
  | refl => exact h
  | @tail b d hT hturn ih =>
    have hs' : b.Sound := Turns.sound hT hs
    cases hturn with
    | resume hr => exact ih.step (m := .resume _) trivial (step_move hs' _)
    | cancel hd hr => exact ih.step (m := .cancel _) trivial (step_move hs' _)
    | advance hq hw =>
      intro k i t hj
      rw [(advance_spec _ _).1.jobs] at hj
      exact ih hj

/-- A call that is made and visited leaves instances what they are, and the calls of their kind. -/
theorem visit_calls {c : Cluster σ} (hs : c.Sound) {P : Nat → Call → Prop} (h : c.Engaged P) {start : Nat}
    {patience : Option Nat} {call : Call} (hc : P i call) (k : Nat) :
    ((c.move (.call i start patience call)).visit k).Sound ∧
      ((c.move (.call i start patience call)).visit k).nodes.map Node.frame = c.nodes.map Node.frame ∧
      ((c.move (.call i start patience call)).visit k).Engaged P := by
  have hstep := step_move hs (.call i start patience call)
  have hs' := hstep.sound hs
  obtain ⟨hT, -⟩ := visit_spec hs' k
  obtain ⟨moves, hmoves⟩ := hT.reaches
  refine ⟨hT.sound hs', ?_, (h.step (m := .call ..) hc hstep).turns hs' hT⟩
  rw [hmoves, run_frames hs', hstep.frames]

/-! ## After a removal -/

/-- Neither tier of any instance holds a key of a kind. -/
structure Forgot (c : Cluster Store) (K : String → Prop) : Prop where
  store : ∀ k, K k → c.store.inner.find? k = none
  lru : ∀ n ∈ c.nodes, ∀ k, K k → n.lru.find? k = none

/-- From a cluster on, look-ups of a key by an instance get nothing: one that is made now gets it at
once, and any other gets it in the end, whatever else goes on that writes no key of the kind. -/
structure Misses (c : Cluster Store) (K : String → Prop) (i : Nat) (key : String) : Prop where
  atOnce : ∃ t, ((c.move (.call i c.now none (.get key))).visit c.jobs.length).jobs[c.jobs.length]? = some ⟨i, t⟩ ∧
    t.phase = .finished (.value none) c.now
  later : ∀ moves, (∀ m ∈ moves, m.Calls (c.Spares K)) → ∀ g t reply ended, c.jobs.length ≤ g →
    (c.run moves).jobs[g]? = some ⟨i, t⟩ → t.call = .get key → t.phase = .finished reply ended → reply = .value none

theorem Forgot.misses {K : String → Prop} (h : c.Forgot K) (hs : c.Sound) (he : c.Engaged (c.Spares K))
    (hcalm : c.store.Calm) (hn : c.nodes[i]? = some n) {key : String} (hk : K (n.fullKey key)) : c.Misses K i key := by
  have hlacks : c.Lacks i (n.fullKey key) := by
    refine ⟨h.store _ hk, fun hn' => ?_⟩
    rw [hn] at hn'
    cases hn'
    exact h.lru n (List.mem_of_getElem? hn) _ hk
  exact ⟨hlacks.visit hs hn hcalm, fun moves hm g t reply ended hg hj hc =>
    (hlacks.run hn he hs hk hm).2 hg hj hc reply ended⟩

/-- An instance leaves its own messages alone. -/
theorem move_deliver_own (hn : c.nodes[i]? = some n) (hid : '|' ∉ n.id.toList) (body : Invalidation) :
    c.move (.deliver i (Message.encode ⟨n.id, body⟩)) = c := by
  show c.onSite i _ = c
  unfold onSite
  rw [site?_of_node hn]
  show c.withNode i (n.deliver _).2 = c
  rw [Node.deliver_own hid]
  unfold withNode
  rw [set_same hn]

/-- A message drops what it names from the local tier that it reaches. -/
theorem find?_move_deliver {origin : String} {n' : Node} {k : String} (hid : '|' ∉ origin.toList)
    (hne : ∀ n, c.nodes[i]? = some n → n.id ≠ origin) (hk : body.Names k)
    (hn' : (c.move (.deliver i (Message.encode ⟨origin, body⟩))).nodes[i]? = some n') : n'.lru.find? k = none := by
  change (c.onSite i _).nodes[i]? = some n' at hn'
  unfold onSite at hn'
  cases hn : c.nodes[i]? with
  | none =>
    unfold site? at hn'
    rw [hn] at hn'
    cases hn.symm.trans hn'
  | some n =>
    rw [site?_of_node hn] at hn'
    change (c.nodes.set i (n.deliver _).2)[i]? = some n' at hn'
    rw [List.getElem?_set_self (List.getElem?_eq_some_iff.1 hn).1] at hn'
    cases hn'
    rw [Node.deliver_other hid (hne n hn).symm]
    exact Invalidation.find?_inLocal hk

/-- What holds between a removal and the arrival of its message at all other instances: the store lacks
what is named, and so does every local tier that the message has reached. -/
structure Told (b : Cluster Store) (i : Nat) (message : String) (K : String → Prop) (moves : List Move)
    (c : Cluster Store) : Prop where
  frames : c.nodes.map Node.frame = b.nodes.map Node.frame
  busy : c.Engaged (b.Spares K)
  store : ∀ k, K k → c.store.inner.find? k = none
  lru : ∀ j n, c.nodes[j]? = some n → j = i ∨ .deliver j message ∈ moves → ∀ k, K k → n.lru.find? k = none

namespace Told

variable {b : Cluster Store} {before moves : List Move} {m : Move} {origin : String}

theorem engaged {message : String} {K : String → Prop} (h : b.Told i message K moves c) : c.Engaged (c.Spares K) :=
  fun _ _ _ hj ho => (h.busy hj ho).of_frames h.frames

theorem step (h : b.Told i (Message.encode ⟨origin, body⟩) body.Names before c) (hid : '|' ∉ origin.toList)
    (hother : ∀ j n, j ≠ i → b.nodes[j]? = some n → n.id ≠ origin) (hs : c.Sound) (hm : m.Calls (b.Spares body.Names)) :
    b.Told i (Message.encode ⟨origin, body⟩) body.Names (before ++ [m]) (c.move m) := by
  have hstep := step_move hs m
  refine ⟨hstep.frames.trans h.frames, h.busy.step hm hstep, fun k hk => ?_, fun j n' hn' hreached k hk => ?_⟩
  · refine Option.eq_none_iff_forall_ne_some.2 fun e he => ?_
    cases (h.store k hk).symm.trans (h.engaged.store_step hs hstep hk he)
  · by_cases hm : m = .deliver j (Message.encode ⟨origin, body⟩) ∧ j ≠ i
    · obtain ⟨rfl, hji⟩ := hm
      refine find?_move_deliver hid (fun n₁ hn₁ => ?_) hk hn'
      obtain ⟨n₀, hn₀, hf⟩ := node_of_frames h.frames.symm hn₁
      rw [← Node.same_of_frame hf Node.id fun _ => rfl]
      exact hother j n₀ hji hn₀
    -- or it had come before, and nobody but a look-up could have brought the key back
    · have hreached' : j = i ∨ .deliver j (Message.encode ⟨origin, body⟩) ∈ before := by
        rw [List.mem_append, List.mem_singleton] at hreached
        by_cases hji : j = i
        · exact Or.inl hji
        · exact Or.inr ((hreached.resolve_left hji).resolve_right fun h => hm ⟨h.symm, hji⟩)
      refine Option.eq_none_iff_forall_ne_some.2 fun e he => ?_
      rcases h.engaged.lru_step hs hstep hk hn' he with ⟨n₀, hn₀, he⟩ | ⟨g, u, n₀, -, -, -, hcopy⟩
      · cases (h.lru j n₀ hn₀ hreached' k hk).symm.trans he
      · exact absurd (h.store k hk) hcopy.find?_ne_none

theorem run (h : b.Told i (Message.encode ⟨origin, body⟩) body.Names [] c) (hid : '|' ∉ origin.toList)
    (hother : ∀ j n, j ≠ i → b.nodes[j]? = some n → n.id ≠ origin) (hs : c.Sound)
    (hmoves : ∀ m ∈ moves, m.Calls (b.Spares body.Names)) :
    b.Told i (Message.encode ⟨origin, body⟩) body.Names moves (c.run moves) := by
  refine run_trace (P := b.Told i (Message.encode ⟨origin, body⟩) body.Names) hs moves h ?_
  rintro before m after rfl hs' h -
  exact h.step hid hother hs' (hmoves m (by simp))

/-- When the message has reached all others, nobody is left who holds what it names. -/
theorem forgot {message : String} {K : String → Prop} (h : b.Told i message K moves c)
    (hall : ∀ j < b.nodes.length, j ≠ i → .deliver j message ∈ moves) : c.Forgot K := by
  refine ⟨h.store, fun n' hmem => ?_⟩
  obtain ⟨j, hj, rfl⟩ := List.getElem_of_mem hmem
  have hlen : c.nodes.length = b.nodes.length := by simpa only [List.length_map] using congrArg List.length h.frames
  refine h.lru j _ (List.getElem?_eq_getElem hj) ?_
  by_cases hji : j = i
  · exact Or.inl hji
  · exact Or.inr (hall j (hlen ▸ hj) hji)

end Told

/-- What an instance has told the others to drop is gone everywhere once the message has reached them. The removal
is made and carried out in one visit, which loses nothing: a calm store in memory answers every request of it at
once, so the call never waits, and nobody else gets a turn between its beginning and its end. Look-ups may be under
way before it, and any call that writes nothing it names may come after it. -/
theorem cross_invalidation {c₀ : Cluster Store} (hjobs : c₀.jobs = []) (before : List Move) {channel : String}
    (hn : (c₀.run before).nodes[i]? = some n) (hcalm : (c₀.run before).store.Calm) (hconn : n.remote.connected = true)
    (hchannel : n.channel = some channel) (hid : '|' ∉ n.id.toList)
    (hother : ∀ j n', j ≠ i → (c₀.run before).nodes[j]? = some n' → n'.id ≠ n.id) (hcall : call.removal? n = some body)
    (hbusy : (c₀.run before).Engaged ((c₀.run before).Spares body.Names)) :
    let c := c₀.run before
    let c₁ := (c.move (.call i c.now none call)).visit c.jobs.length
    let message := Message.encode ⟨n.id, body⟩
    (∃ t reply, c₁.jobs[c.jobs.length]? = some ⟨i, t⟩ ∧ t.phase = .finished reply c.now) ∧
      c₁.store.inner.published = c.store.inner.published ++ [(channel, message)] ∧
      ∀ after, (∀ m ∈ after, m.Calls (c.Spares body.Names)) → (∀ method f, .script method f ∉ after) →
        (c₁.run after).move (.deliver i message) = c₁.run after ∧
          ((∀ j < c.nodes.length, j ≠ i → .deliver j message ∈ after) → (c₁.run after).Forgot body.Names ∧
            ∀ j n' key, c.nodes[j]? = some n' → body.Names (n'.fullKey key) →
              (c₁.run after).Misses body.Names j key) := by
  intro c c₁ message
  have hs : c.Sound := run_sound (sound_of_no_jobs hjobs) before
  obtain ⟨t, hj, hover, hu⟩ := visit_removal hs hn hconn hcalm hcall
  obtain ⟨hphase, -, hcalm₁, hstore, n₁, hn₁, hlru, -⟩ := hu.finished hover
  obtain ⟨hs₁, hframes, hbusy₁⟩ : c₁.Sound ∧ c₁.nodes.map Node.frame = c.nodes.map Node.frame ∧
      c₁.Engaged (c.Spares body.Names) := visit_calls hs hbusy (spares_of_removal hcall) c.jobs.length
  have htold : c.Told i message body.Names [] c₁ := by
    refine ⟨hframes, hbusy₁, fun k hk => ?_, ?_⟩
    · rw [hstore]
      exact Invalidation.find?_inShared hk
    · rintro j n' hn' (rfl | hmem) k hk
      · rw [hn₁] at hn'
        cases hn'
        rw [hlru]
        exact Invalidation.find?_inLocal hk
      · cases hmem
  refine ⟨⟨t, _, hj, hphase⟩, ?_, fun after hafter hscript => ?_⟩
  · rw [hstore]
    simp only [Removal.announced, Removal.inShared, Invalidation.published_inShared, hchannel, Option.map_some,
      Option.toList_some]
    rfl
  have htold₂ := htold.run hid hother hs₁ hafter
  have hs₂ := run_sound hs₁ after
  constructor
  · obtain ⟨n₂, hn₂, hf⟩ := node_of_frames htold₂.frames hn
    have hid₂ : n₂.id = n.id := Node.same_of_frame hf Node.id fun _ => rfl
    have := move_deliver_own hn₂ (by rw [hid₂]; exact hid) body
    rwa [hid₂] at this
  · intro hall
    have hforgot := htold₂.forgot hall
    refine ⟨hforgot, fun j n' key hn' hk => ?_⟩
    obtain ⟨n₂, hn₂, hf⟩ := node_of_frames htold₂.frames hn'
    refine hforgot.misses hs₂ htold₂.engaged (run_calm hcalm₁ hscript) hn₂ ?_
    rw [Node.fullKey_of_frame hf]
    exact hk

/-- A copy that another instance has read in the meantime is gone when the message has come. -/
theorem cross_invalidation_of_stale_copy :
    let s : CacheSettings := { remote := { invalidationChannel := some "invalidations" } }
    ∃ a b, Node.make "a" s = .ok a ∧ Node.make "b" s = .ok b ∧
      let c : Cluster Store := {
        store := { inner := ({} : Store).insertRaw "cache:k" [1] }
        nodes := [{ a with remote.connected := true },
          { b with remote.connected := true, lru := (b.lru.set 0 "cache:k" (.int 1) none).2 }] }
      let c₁ := (c.move (.call 0 c.now none (.delete "k"))).visit 0
      let message := Message.encode ⟨a.id, .key "cache:k"⟩
      let after : List Move := [.call 1 0 none (.get "k"), .resume 1, .deliver 1 message]
      c₁.store.inner.published = [("invalidations", message)] ∧ (c₁.run after).Forgot (· = "cache:k") ∧
        (c₁.run after).Misses (· = "cache:k") 1 "k" := by
  intro s
  obtain ⟨a, ha⟩ : ∃ a, Node.make "a" s = .ok a := ⟨_, rfl⟩
  obtain ⟨b, hb⟩ : ∃ b, Node.make "b" s = .ok b := ⟨_, rfl⟩
  obtain ⟨hid, hkeyspace, hchannel⟩ : a.id = "a" ∧ a.keyspace = "cache:" ∧ a.channel = some "invalidations" := by
    cases ha; exact ⟨rfl, rfl, rfl⟩
  obtain ⟨hid', hkeyspace'⟩ : b.id = "b" ∧ b.keyspace = "cache:" := by cases hb; exact ⟨rfl, rfl⟩
  refine ⟨a, b, ha, hb, ?_⟩
  intro c c₁ message after
  have hcall : Call.removal? { a with remote.connected := true } (.delete "k") = some (.key "cache:k") := by
    simp only [Call.removal?, Node.fullKey, hkeyspace]
    decide
  have hjobs : c.jobs = [] := rfl
  have hnodes : c.nodes[0]? = some { a with remote.connected := true } := rfl
  obtain ⟨n, hn, hkey⟩ : ∃ n, c.nodes[1]? = some n ∧ n.fullKey "k" = b.fullKey "k" := ⟨_, rfl, rfl⟩
  have hlength : c.nodes.length = 2 := rfl
  have hcalm : c.store.Calm := ⟨rfl, rfl⟩
  have hpublished : c.store.inner.published = [] := rfl
  have hother : ∀ j n, j ≠ 0 → c.nodes[j]? = some n → n.id ≠ a.id := by
    intro j n hj hn
    rcases j with - | - | j
    · exact absurd rfl hj
    · cases hn
      show b.id ≠ a.id
      rw [hid, hid']
      decide
    · cases hn
  clear_value c
  obtain ⟨-, hpublishes, hafter⟩ := cross_invalidation (i := 0) hjobs [] hnodes hcalm rfl hchannel
    (show '|' ∉ a.id.toList by rw [hid]; decide) hother hcall <| by
      intro k i t hk
      rw [show (c.run []).jobs = [] from hjobs] at hk
      cases hk
  rw [show (c.run []).jobs.length = 0 from congrArg List.length hjobs] at hpublishes hafter
  rw [show (c.run []).store.inner.published = [] from hpublished] at hpublishes
  obtain ⟨-, hafter⟩ := hafter after (by simp [after, Move.Calls, Spares, Call.writes?]) (by simp [after])
  obtain ⟨hforgot, hmisses⟩ := hafter <| by
    intro j hj hne
    rw [show (c.run []).nodes.length = 2 from hlength] at hj
    obtain rfl : j = 1 := by omega
    simp only [after, List.mem_cons]
    exact Or.inr (Or.inr (Or.inl rfl))
  refine ⟨hpublishes, hforgot, hmisses 1 n "k" hn ?_⟩
  rw [hkey]
  simp only [Invalidation.Names, Node.fullKey, hkeyspace']
  decide

end Cluster

end TwoTier
