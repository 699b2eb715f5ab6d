/-
What a deletion answers. The local tier drops what it holds under the key at once, whether that was still live or not;
the shared tier, asked for the same, answers whether it held a live entry. A deletion that is made while no other call
is in progress goes through its `Stage`s, and from the second one on what its caller will be told is settled.
-/
import TwoTier.Proofs.FetchThrough
import TwoTier.Proofs.HttpSurface

namespace TwoTier

/-! ## The shared tier -/

namespace Link

variable {l : Link Store} {key : String}

/-- A deletion is carried out: the client is connected, the script neither keeps the call beyond the bound nor lets it
fail, and the store is available and holds an entry that is not expired, neither now nor when the call gets there. -/
structure Erases (l : Link Store) (key : String) : Prop where
  connected : l.remote.connected = true
  inTime : l.due (.delete key) ≤ wakeAt l.now l.remote.timeout
  unfailed : (l.fault (.delete key)).failure = none
  available : l.store.inner.available = true
  held : ∃ e, l.store.inner.live? l.now key = some e ∧ e.isExpired (l.due (.delete key)) = false

/-- An entry that is live when the call gets there was live before. -/
theorem contains_due : l.store.inner.contains (l.due (.delete key)) key = true ↔
    ∃ e, l.store.inner.live? l.now key = some e ∧ e.isExpired (l.due (.delete key)) = false := by
  have hle : l.now ≤ l.due (.delete key) := le_elim_wakeAt ..
  rw [Store.contains, Option.isSome_iff_exists]
  constructor
  · rintro ⟨e, he⟩
    obtain ⟨hfind, hlive⟩ := Store.live?_eq_some_iff.1 he
    refine ⟨e, Store.live?_eq_some_iff.2 ⟨hfind, ?_⟩, hlive⟩
    exact Bool.eq_false_iff.2 fun hx => Bool.eq_false_iff.1 hlive (Stored.isExpired_mono hle _ hx)
  · rintro ⟨e, he, hlive⟩
    exact ⟨e, Store.live?_eq_some_iff.2 ⟨(Store.live?_eq_some_iff.1 he).1, hlive⟩⟩

/-- The shared tier answers that the key was there if and only if the deletion is carried out. -/
theorem erases_iff : (l.ask (.delete key)).1.toOption.getD false = true ↔ l.Erases key := by
  by_cases hc : l.remote.connected = true
  · rw [ask_connected hc]
    by_cases hlate : wakeAt l.now l.remote.timeout < l.due (.delete key)
    · rw [if_pos hlate]
      constructor
      · intro h
        cases h
      · intro h
        exact absurd h.inTime (Nat.not_le.2 hlate)
    · rw [if_neg hlate]
      unfold uncut
      cases hf : (l.fault (.delete key)).failure with
      | some e =>
        constructor
        · intro h
          cases h
        · intro h
          rw [h.unfailed] at hf
          cases hf
      | none =>
        have hinner : (l.store.draw (Request.method (.delete key))).2.inner = l.store.inner := rfl
        dsimp only
        cases ha : l.store.inner.available with
        | false =>
          rw [Scripted.serve_refuse (by rw [hinner, ha]) rfl]
          constructor
          · intro h
            cases h
          · intro h
            rw [h.available] at ha
            cases ha
        | true =>
          rw [Scripted.serve_answer (by rw [hinner, ha]) rfl]
          change l.store.inner.contains (l.due (.delete key)) key = true ↔ _
          rw [contains_due]
          constructor
          · intro h
            exact ⟨hc, Nat.not_lt.1 hlate, hf, ha, h⟩
          · intro h
            exact h.held
  · rw [ask_disconnected (Bool.eq_false_iff.2 hc)]
    constructor
    · intro h
      cases h
    · intro h
      exact absurd h.connected hc

end Link

/-! ## A deletion under way -/

/-- A deletion that is about to be made to an instance of a cluster. -/
structure Deletion where
  cluster : Cluster Store
  node : Node
  short : String

namespace Deletion

variable (d : Deletion)

/-- The key as it is in both tiers. -/
def key : String := d.node.fullKey d.short

/-- The client of the instance. -/
def link : Link Store := (d.cluster.siteOf d.node).link

/-- Whether the local tier holds anything under the key, live or not. -/
def resident : Bool := (d.node.lru.delete d.key).1

/-- What the caller will be told. -/
def removed : Bool := d.resident || (d.link.ask (.delete d.key)).1.toOption.getD false

/-- How far it has come. -/
inductive Stage (d : Deletion) : Phase → Cluster Store → Node → Prop where
  | waiting {start : Nat} {c : Cluster Store} (hstart : start ≤ c.now) (hnow : c.now = d.cluster.now)
      (hs : c.store = d.cluster.store) : Stage d (.waiting start) c d.node
  | deleting {trip : Trip Bool} {l : Link Store} {c : Cluster Store} {n : Node}
      (hl : d.link.call (.delete d.key) = (trip, l)) (hc : c.Tracks n l trip.ends) :
      Stage d (.deleting d.key d.resident trip) c n
  | announcing {trip : Trip Unit} {c : Cluster Store} {n : Node} : Stage d (.announcing (.removed d.removed) trip) c n
  | finished {ended : Nat} {c : Cluster Store} {n : Node} : Stage d (.finished (.removed d.removed) ended) c n

variable {d} {c : Cluster Store} {n n' : Node} {t t' : Task} {s s' : Site Store} {i : Nat}

/-- The reply is known when the others are told, if they are. -/
theorem Stage.announce {body : Invalidation} (hstep : t.announce body (.removed d.removed) s = (t', s')) :
    d.Stage t'.phase c n := by
  unfold Task.announce at hstep
  cases hch : s.node.channel with
  | none =>
    rw [hch] at hstep
    cases hstep
    exact .finished
  | some channel =>
    rw [hch] at hstep
    cases hstep
    exact .announcing

/-- It begins with the local tier. -/
theorem Stage.begin (hnow : c.now = d.cluster.now) (hs : c.store = d.cluster.store) (hcall : t.call = .delete d.short)
    (hstep : t.start (c.siteOf d.node) = (t', s')) : d.Stage t'.phase (c.after 0 i t' s') s'.node := by
  have hfollows : (c.siteOf d.node).Follows d.link := ⟨hnow, hs, rfl, rfl⟩
  unfold Task.start at hstep
  rw [hcall] at hstep
  dsimp only at hstep
  rcases ht : ((c.siteOf d.node).withLru (d.node.lru.delete d.key).2).call (.delete d.key) with ⟨trip, s₁⟩
  obtain ⟨l, hl, hs'⟩ := (hfollows.withLru _).call ht
  obtain ⟨-, hends, hlnow, -⟩ := Link.call_spec hl
  change (let (trip, s) := ((c.siteOf d.node).withLru (d.node.lru.delete d.key).2).call (.delete d.key);
    Task.become _ (.deleting d.key d.resident trip) s) = _ at hstep
  rw [ht] at hstep
  cases hstep
  exact .deleting hl (.of_follows hs' (hlnow ▸ hends) _ _)

/-- The shared tier has answered as it answers a client by itself. -/
theorem Stage.answered {trip : Trip Bool} {l : Link Store} (hl : d.link.call (.delete d.key) = (trip, l))
    (hc : c.Tracks n l trip.ends) (hle : trip.ends ≤ c.now) {reply : Except CacheError Bool}
    (hf : (c.siteOf n).finish trip = (reply, s)) (hstep : t.endDelete d.key d.resident reply s = (t', s')) :
    d.Stage t'.phase (c.after 0 i t' s') s'.node := by
  obtain ⟨l', hask, -⟩ := (hc.follows hle).ask hl hf
  have hremoved : d.removed = (d.resident || reply.toOption.getD false) := by
    unfold removed
    rw [hask]
  unfold Task.endDelete at hstep
  rw [← hremoved] at hstep
  exact .announce hstep

/-- A segment takes it to its next stage. -/
theorem Stage.goesOn (h : d.Stage t.phase c n) (hcall : t.call = .delete d.short) (hr : t.isReady c.now n = true)
    (hstep : t.step (c.siteOf n) = (t', s')) : d.Stage t'.phase (c.after 0 i t' s') s'.node := by
  obtain ⟨call, k, ph, b, m, p⟩ := t
  cases h with
  | waiting hstart hnow hs => exact .begin hnow hs hcall hstep
  | deleting hl hc =>
    rename_i trip l
    have hle : trip.ends ≤ c.now := by simpa [Task.isReady, Phase.due?] using hr
    exact .answered hl hc hle rfl hstep
  | announcing =>
    cases hstep
    exact .finished
  | finished => cases Cluster.isReady_not_over hr

/-- The clock comes closer to the end of the wait. -/
theorem Stage.sleep {due till : Nat} (h : d.Stage t.phase c n) (hw : t.phase.due? = some due) (hlt : c.now < due)
    (hd : till ≤ due) (hn : n.Aged (c.advance till).now n') : d.Stage t.phase (c.advance till) n' := by
  obtain ⟨ha, hnow⟩ := Cluster.advance_spec c till
  have hle : (c.advance till).now ≤ due := by
    rw [hnow]
    exact Nat.max_le.2 ⟨Nat.le_of_lt hlt, hd⟩
  obtain ⟨call, k, ph, b, m, p⟩ := t
  cases h with
  | waiting hstart => cases hw; omega
  | deleting hl hc => cases hw; exact .deleting hl (hc.aged ha hn hle)
  | announcing => exact .announcing
  | finished => exact .finished

/-- It is under way, and its caller is patient. -/
structure Runs (d : Deletion) (i : Nat) (t : Task) (c : Cluster Store) : Prop where
  call : t.call = .delete d.short
  patience : t.patience = none
  stage : ∃ n, c.nodes[i]? = some n ∧ d.Stage t.phase c n

theorem Runs.turn {c' : Cluster Store} (h : d.Runs i t c) (hn : c.nodes[i]? = some n)
    (hturn : Cluster.SoloTurn i n t c t' c') : d.Runs i t' c' := by
  obtain ⟨hcall, hp, n₀, hn₀, hstage⟩ := h
  rw [hn] at hn₀
  cases hn₀
  cases hturn with
  | goesOn hr hs hstep =>
    exact ⟨hs.same.1.trans hcall, hs.same.2.2.trans hp, _, Cluster.after_node hn, hstage.goesOn hcall hr hstep⟩
  | dropped hw hlt hsome =>
    rw [hp] at hsome
    cases hsome
  | sleeps hw hlt hle =>
    obtain ⟨n', hn', ha⟩ := (Cluster.advance_spec c _).1.nodes hn
    exact ⟨hcall, hp, n', hn', hstage.sleep hw hlt hle ha⟩

/-- What the local tier tells is whether it holds anything under the key. -/
theorem resident_eq (d : Deletion) : d.resident = (d.node.lru.find? d.key).isSome := by
  unfold resident Lru.delete
  split
  · rename_i h
    exact h.symm
  · rename_i h
    exact (Bool.eq_false_iff.2 h).symm

theorem removed_iff (d : Deletion) :
    d.removed = true ↔ (d.node.lru.find? d.key).isSome = true ∨ d.link.Erases d.key := by
  rw [removed, Bool.or_eq_true, resident_eq, Link.erases_iff]

end Deletion

namespace Cluster

variable {c : Cluster Store} {i : Nat} {n : Node}

/-- A deletion comes to its end, and its caller is told. -/
theorem request_deletion (hd : c.Deserted) (hn : c.nodes[i]? = some n) (short : String) :
    ∃ t ended c', c.request i (.delete short) none = (some t, c') ∧
      t.phase = .finished (.removed (⟨c, n, short⟩ : Deletion).removed) ended := by
  obtain ⟨t, c', hreq, hover, -, -, n', -, hstage⟩ := request_induct (P := (⟨c, n, short⟩ : Deletion).Runs i) hd hn
    (.delete short) none ⟨rfl, rfl, n, hn, .waiting (Nat.le_refl _) rfl rfl⟩ fun _ hn _ h hs => h.turn hn hs
  obtain ⟨call, k, ph, b, m, p⟩ := t
  cases hstage with
  | finished => exact ⟨_, _, _, hreq, rfl⟩
  | _ => cases hover

/-- What a deletion answers. In whatever state the cluster is, a deletion that is made while nobody stands in line is
answered, with true if and only if the local tier holds anything under the key or the deletion is carried out in the
shared tier. So it tells whether the key could be read, unless what the local tier holds has expired. Over HTTP it is
the same answer. -/
theorem deletion_answered (c : Cluster Store) (hd : c.Deserted) {i : Nat} {n : Node} (hn : c.nodes[i]? = some n)
    (short : String) :
    let key := n.fullKey short
    let l : Link Store := ⟨c.now, n.remote, c.store, c.recorder⟩
    ∃ t removed ended c', c.request i (.delete short) none = (some t, c') ∧
      t.phase = .finished (.removed removed) ended ∧
      (removed = true ↔ (n.lru.find? key).isSome = true ∨ l.Erases key) ∧
      ((∀ e, n.lru.find? key = some e → e.isExpired c.now = false) →
        (removed = true ↔ n.lru.contains c.now key = true ∨ l.Erases key)) ∧
      ∀ (s : Http.Server) (r : Http.Request), s.node = i → r.Posts .invalidate → r.Fits → r.Gives "key" short →
        s.handle r c =
          (Http.jsonResponse 200 (Json.object [("key", .str short), ("removed", .bool removed)]), c') := by
  intro key l
  obtain ⟨t, ended, c', hreq, hphase⟩ := request_deletion hd hn short
  have hiff : (⟨c, n, short⟩ : Deletion).removed = true ↔ (n.lru.find? key).isSome = true ∨ l.Erases key :=
    Deletion.removed_iff _
  refine ⟨t, _, ended, c', hreq, hphase, hiff, fun hlive => ?_, ?_⟩
  · rw [hiff]
    have hcontains : n.lru.contains c.now key = (n.lru.find? key).isSome := by
      unfold Lru.contains
      cases hf : n.lru.find? key with
      | none => rfl
      | some e => simp [hlive e hf]
    rw [hcontains]
  · rintro s r rfl hposts hfits hgives
    obtain ⟨t₁, reply, ended₁, c₁, hreq₁, hphase₁, -, hthrough⟩ := Http.Server.through_spec hd hn (.delete short)
    rw [hreq] at hreq₁
    cases hreq₁
    rw [hphase] at hphase₁
    cases hphase₁
    rw [Http.Server.handle_post hposts rfl, Http.Server.serve, Http.Request.text_eq_ok.2 ⟨hfits, hgives⟩]
    exact hthrough _

/-- A key that only the shared tier has is removed from there, though the store takes its time. -/
theorem deletion_answered_of_slow_store : ∃ a, Node.make "a" { keyspace := "t:" } = .ok a ∧
    let n : Node := { a with remote.connected := true }
    let c : Cluster Store := {
      store := ({ inner := ({} : Store).insertRaw "t:a" [1] } : Scripted Store).script .delete { delay := some (millis 5) }
      nodes := [n] }
    n.lru.contains c.now "t:a" = false ∧ (c.siteOf n).link.Erases "t:a" ∧
      ∃ t ended c', c.request 0 (.delete "a") none = (some t, c') ∧ t.phase = .finished (.removed true) ended := by
  obtain ⟨a, hmake⟩ : ∃ a, Node.make "a" { keyspace := "t:" } = .ok a := ⟨_, rfl⟩
  refine ⟨a, hmake, ?_⟩
  cases hmake
  intro n c
  have hd : c.Deserted := by
    intro m hm
    cases List.mem_singleton.1 hm
    exact ⟨rfl, rfl⟩
  have herases : (c.siteOf n).link.Erases "t:a" := ⟨rfl, by decide, rfl, rfl, _, rfl, rfl⟩
  obtain ⟨t, removed, ended, c', hreq, hphase, hiff, -, -⟩ := deletion_answered c hd (i := 0) rfl "a"
  have hremoved : removed = true := hiff.2 (.inr herases)
  rw [hremoved] at hphase
  exact ⟨by decide, herases, t, ended, c', hreq, hphase⟩

/-- A key that can be read in neither tier is said to have been removed if the local tier holds an entry that has
expired. -/
theorem deletion_answered_of_expired : ∃ a, Node.make "a" { keyspace := "t:" } = .ok a ∧
    let c : Cluster Store := ({ store := { inner := {} }, nodes := [a] } : Cluster Store).run
      [.call 0 0 none (.set "a" (.int 1) (some (millis 5))), .resume 0, .resume 0, .wait (millis 10)]
    ∃ n, c.Deserted ∧ c.nodes[0]? = some n ∧ n.lru.contains c.now "t:a" = false ∧ ¬ (c.siteOf n).link.Erases "t:a" ∧
      ∃ t ended c', c.request 0 (.delete "a") none = (some t, c') ∧ t.phase = .finished (.removed true) ended := by
  obtain ⟨a, hmake⟩ : ∃ a, Node.make "a" { keyspace := "t:" } = .ok a := ⟨_, rfl⟩
  refine ⟨a, hmake, ?_⟩
  cases hmake
  intro c
  have hd : c.Deserted := by
    intro m hm
    cases List.mem_singleton.1 hm
    exact ⟨rfl, rfl⟩
  refine ⟨_, hd, rfl, by decide +kernel, fun h => absurd h.connected (by decide +kernel), ?_⟩
  obtain ⟨t, ended, c', hreq, hphase⟩ := request_deletion hd (i := 0) rfl "a"
  rw [Deletion.removed_iff _ |>.2 (.inl (by decide +kernel))] at hphase
  exact ⟨t, ended, c', hreq, hphase⟩

end Cluster

end TwoTier
